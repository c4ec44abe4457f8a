/-
Which function pointers are called, and how often?

Both executors take the row the search finds, and the search runs over
the terminating row too: code 0 finds it. Its prototype is a legal tag,
its size none, so both executors fall through to the verdict without a
call. Every other row has a handler.

The kernel calls the row's handler once in each pass that reaches a cpu.
With CONFIG_SMP a pass is a cpu; without it every pass runs on the only
one, and a request for all of them calls the handler eight times there.
-/
import Maplesyrup.Library.Proofs.Usermode

namespace Maplesyrup

variable {b : Build} {mc : Machine} {e : FuncTableEntry} {u : MsDataCpu}

-- =========================================================== the statement

/-- The row that terminates the table. -/
def funcTableEnd : FuncTableEntry := ⟨0, none, 0, 0⟩

/-- The code is that of the terminating row and of no other. -/
def MatchesEnd (code : U32) : Prop :=
  code = funcTableEnd.code
    ∧ ∀ e ∈ funcTable, e.code = code → e = funcTableEnd

/-- The code is of no row. -/
def MatchesNone (code : U32) : Prop := ∀ e ∈ funcTable, e.code ≠ code

/-- The function pointer is the non-null one of the code's row. -/
def RightCall (code : U32) (fn : Option Handler) : Prop :=
  ∃ e ∈ funcTable, ∃ h, e.code = code ∧ e.funcPtr = some h ∧ fn = some h

/-- The function pointers called on a cpu, in order. -/
def callsOn (cpu : Nat) (tr : List KEvent) : List (Option Handler) :=
  tr.filterMap fun
    | .call c fn => if c = cpu then some fn else none
    | _ => none

/-- The reply to a register request called what it should. -/
structure KernelCalls (b : Build) (mc : Machine) (u : MsDataCpu)
    (r : Reply) : Prop where
  right : ∀ cpu, ∀ fn ∈ callsOn cpu r.trace, RightCall u.code fn
  /-- A cpu calls once. -/
  once : b.configSmp = true → ∀ cpu, (callsOn cpu r.trace).length ≤ 1
  /-- The only cpu calls once for each cpu that is named. -/
  single : b.configSmp = false → ∀ cpu,
    (callsOn cpu r.trace).length ≤ (kickCpus u.pcpu).length
  terminator : MatchesEnd u.code → (∀ cpu, callsOn cpu r.trace = [])
    ∧ (InRange u.pcpu → ∀ i : Fin msMaxCpus,
      fate b mc u.pcpu i = .ran → (r.buffer.cpu i).status = msErrorTable)
  unknown : MatchesNone u.code →
    r.ret = -1 ∧ r.trace = [] ∧ r.buffer = u

/-- A user-mode read did. -/
structure UserCalls (c : UserCall) (s : UState)
    (r : Int × MsData × UState) : Prop where
  right : ∃ called : List Handler, r.2.2.trace = s.trace ++ called
    ∧ called.length ≤ 1 ∧ ∀ h ∈ called, RightCall c.cmd (some h)
  terminator : MatchesEnd c.cmd →
    r.1 = 0 ∧ r.2.1.status = msErrorTable ∧ r.2.2.trace = s.trace
  unknown : MatchesNone c.cmd → r.1 = -1 ∧ r.2.2.trace = s.trace
    ∧ r.2.1 = { c.resultOut with status := msErrorNoresult }

-- ================================================================ the rows

theorem end_unsupported : funcTableEnd.supported = false := by decide

theorem rowOf_end {code : U32} (h : MatchesEnd code) :
    rowOf code = some funcTableEnd := by
  obtain ⟨rfl, -⟩ := h
  decide +kernel

theorem rowOf_none {code : U32} (h : MatchesNone code) :
    rowOf code = none :=
  List.find?_eq_none.2 fun e he => by simpa using h e he

/-- A row with a case has a handler for its code. -/
theorem rightCall_of_row {code : U32} (hrow : rowOf code = some e)
    (hsup : e.supported = true) : RightCall code e.funcPtr := by
  have hmem : e ∈ funcTable := List.mem_of_find?_eq_some hrow
  have hcode : e.code = code := by simpa using List.find?_some hrow
  obtain ⟨h, hh⟩ :=
    Option.isSome_iff_exists.1 (supported_handler e hmem hsup)
  exact ⟨e, hmem, h, hcode, hh, hh⟩

-- ============================================================== the kernel

theorem callsOn_ranTrace (cpu cur i : Nat) (e : FuncTableEntry) :
    callsOn cpu (ranTrace cur i e)
      = if e.supported = true ∧ cur = cpu then [e.funcPtr] else [] := by
  unfold ranTrace callsOn
  cases hsup : e.supported with
  | false => simp
  | true =>
      by_cases hcur : cur = cpu
      · simp [hcur]
      · simp [hcur]

/-- A pass calls the row's handler where it gets to. -/
theorem callsOn_pass (cpu c : Nat) (e : FuncTableEntry) :
    callsOn cpu
        (passTrace b mc (fun cur => ranTrace cur (b.cpuIndex cur) e) c)
      = if e.supported = true ∧ reach b mc c = .ran ∧ b.cpuIndex c = cpu
          then [e.funcPtr] else [] := by
  unfold passTrace
  cases hreach : reach b mc c with
  | ran =>
      dsimp only
      rw [callsOn_ranTrace]
      simp
  | untouched => simp [callsOn]
  | down => simp [callsOn]
  | failed => simp [callsOn]

/-- The passes over some cpus call it once for each that is reached. -/
theorem callsOn_passes (cpu : Nat) (cs : List Nat) (e : FuncTableEntry) :
    callsOn cpu (cs.flatMap
        (passTrace b mc fun cur => ranTrace cur (b.cpuIndex cur) e))
      = List.replicate (cs.countP fun c => decide (e.supported = true
          ∧ reach b mc c = .ran ∧ b.cpuIndex c = cpu)) e.funcPtr := by
  induction cs with
  | nil => rfl
  | cons c cs ih =>
      rw [List.flatMap_cons]
      have happend : ∀ xs ys, callsOn cpu (xs ++ ys)
          = callsOn cpu xs ++ callsOn cpu ys := fun _ _ =>
        List.filterMap_append
      rw [happend, ih, callsOn_pass, List.countP_cons]
      split
      · rename_i hcall
        rw [if_pos (decide_eq_true hcall), Nat.add_comm,
          List.replicate_add]
        rfl
      · rename_i hcall
        rw [if_neg (by simpa using hcall)]
        rfl

/-- What a register request calls on a cpu: its row's handler, once for
each cpu it names, reaches and runs there. -/
theorem callsOn_reply (b : Build) (mc : Machine) (g : KGlobals)
    (hrow : rowOf u.code = some e) (cpu : Nat) :
    ∃ n, n ≤ ((kickCpus u.pcpu).filter fun c => b.cpuIndex c = cpu).length
      ∧ (e.supported = false → n = 0)
      ∧ callsOn cpu (callFuncReturnResults b mc
          { g with gUndefFlag := 0 } u).trace
        = List.replicate n e.funcPtr := by
  obtain ⟨idx, hidx, he⟩ := findFunctionIndex_rowOf hrow
  rw [callFuncReturnResults_some hidx, kickReply_trace,
    onEachCpuKick_trace (callFuncPtr_cpuFn he)
      (s := coState { g with gUndefFlag := 0 } u idx) ⟨rfl, rfl⟩]
  show ∃ n, _ ∧ _ ∧ callsOn cpu ([] ++ kickTrace b mc _ u.pcpu) = _
  rw [List.nil_append, kickTrace]
  by_cases hp : InRange u.pcpu
  · rw [if_pos hp, callsOn_passes]
    refine ⟨_, ?_, fun hsup => ?_, rfl⟩
    · rw [← List.countP_eq_length_filter]
      exact List.countP_mono_left fun c _ h => by
        simp only [decide_eq_true_eq] at h ⊢
        exact h.2.2
    · exact List.countP_eq_zero.2 fun c _ h => by simp [hsup] at h
  · rw [if_neg hp]
    refine ⟨0, Nat.zero_le _, fun _ => rfl, ?_⟩
    split
    · rfl
    · rfl

theorem kernelCalls (b : Build) (mc : Machine) (g : KGlobals)
    (u : MsDataCpu) :
    KernelCalls b mc u
      (callFuncReturnResults b mc { g with gUndefFlag := 0 } u) := by
  cases hrow : rowOf u.code with
  | none =>
      have hnone : findFunctionIndex u.code = none :=
        List.findIdx?_eq_none_iff.2 fun e he =>
          Bool.eq_false_iff.2 (List.find?_eq_none.1 hrow e he)
      rw [callFuncReturnResults, hnone]
      constructor
      · intro cpu fn hfn
        cases hfn
      · intro _ cpu
        exact Nat.zero_le _
      · intro _ cpu
        exact Nat.zero_le _
      · intro hend
        rw [rowOf_end hend] at hrow
        cases hrow
      · intro _
        exact ⟨rfl, rfl, rfl⟩
  | some e =>
      have hcalls := callsOn_reply b mc g hrow
      constructor
      · intro cpu fn hfn
        obtain ⟨n, -, hn, hall⟩ := hcalls cpu
        rw [hall, List.mem_replicate] at hfn
        obtain ⟨hne, rfl⟩ := hfn
        apply rightCall_of_row hrow
        by_contra hsup
        exact hne (hn (Bool.eq_false_iff.2 hsup))
      · intro hsmp cpu
        obtain ⟨n, hle, -, hall⟩ := hcalls cpu
        have hone : ((kickCpus u.pcpu).filter fun c =>
            b.cpuIndex c = cpu).length ≤ 1 := by
          have hcount : ((kickCpus u.pcpu).filter fun c =>
              b.cpuIndex c = cpu).length = (kickCpus u.pcpu).count cpu := by
            rw [List.count_eq_countP, List.countP_eq_length_filter]
            congr 2
            funext c
            rw [cpuIndex_smp hsmp]
            rfl
          rw [hcount]
          exact List.nodup_iff_count_le_one.1 (kickCpus_nodup u.pcpu) cpu
        rw [hall, List.length_replicate]
        exact hle.trans hone
      · intro _ cpu
        obtain ⟨n, hle, -, hall⟩ := hcalls cpu
        rw [hall, List.length_replicate]
        exact hle.trans (List.length_filter_le _ _)
      · intro hend
        obtain rfl := Option.some.inj (hrow.symm.trans (rowOf_end hend))
        refine ⟨fun cpu => ?_, fun hp i hran => ?_⟩
        · obtain ⟨n, -, hn, hall⟩ := hcalls cpu
          rw [hall, hn end_unsupported]
          rfl
        · obtain ⟨idx, hidx, he⟩ := findFunctionIndex_rowOf hrow
          rw [callFuncReturnResults_some hidx,
            kickReply_slots (callFuncPtr_cpuFn he)
              (s := coState { g with gUndefFlag := 0 } u idx) ⟨rfl, rfl⟩
              rfl rfl hp]
          dsimp only
          rw [hran]
          show (ranSlot b mc i _ funcTableEnd 0 _).status = _
          rw [ranSlot_status, end_unsupported]
          rfl
      · intro hnone
        rw [rowOf_none hnone] at hrow
        cases hrow

-- =========================================================== the user mode

theorem userCalls (t : Target) (c : UserCall) (s : UState) :
    UserCalls c s (c.run t s) := by
  cases hrow : rowOf c.cmd with
  | none =>
      rw [c.run_unknown hrow]
      constructor
      · exact ⟨[], (List.append_nil _).symm, Nat.zero_le _,
          fun h hh => by cases hh⟩
      · intro hend
        rw [rowOf_end hend] at hrow
        cases hrow
      · intro _
        exact ⟨rfl, rfl, rfl⟩
  | some e =>
      rw [c.run_row hrow]
      constructor
      · show ∃ called, (userState t c.reg e s).trace = _ ∧ _
        unfold userState
        cases hsup : e.supported with
        | false =>
            exact ⟨[], (List.append_nil _).symm, Nat.zero_le _,
              fun h hh => by cases hh⟩
        | true =>
            have hright := rightCall_of_row hrow hsup
            refine ⟨e.funcPtr.toList, rfl, ?_, fun h hh => ?_⟩
            · cases e.funcPtr <;> simp
            · rw [Option.mem_toList] at hh
              rwa [Option.mem_def.1 hh] at hright
      · intro hend
        obtain rfl := Option.some.inj (hrow.symm.trans (rowOf_end hend))
        refine ⟨rfl, ?_, ?_⟩
        · simp [userSlot, end_unsupported]
        · simp [userState, end_unsupported]
      · intro hnone
        rw [rowOf_none hnone] at hrow
        cases hrow

-- =============================================================== together

/-- In the kernel, as `call_cmd` calls it, and in user mode only the
non-null handler of the requested code is called; on a cpu once, or on
the only cpu of a build without CONFIG_SMP once for each cpu the request
names. The terminating row gets its verdict and calls nothing, a code of
no row fails and calls nothing. -/
theorem handler_calls :
    (∀ (b : Build) (mc : Machine) (g : KGlobals) (u : MsDataCpu),
      KernelCalls b mc u
        (callFuncReturnResults b mc { g with gUndefFlag := 0 } u))
      ∧ ∀ (t : Target) (c : UserCall) (s : UState),
        UserCalls c s (c.run t s) :=
  ⟨kernelCalls, userCalls⟩

/-- MIDR of every cpu without CONFIG_SMP: eight calls on the only one. -/
theorem handler_calls_fails :
    ¬ ∀ (b : Build) (mc : Machine) (g : KGlobals) (u : MsDataCpu)
        (cpu : Nat), (callsOn cpu (callFuncReturnResults b mc
          { g with gUndefFlag := 0 } u).trace).length ≤ 1 := by
  intro hall
  have hone := hall ⟨.aarch64, false⟩ mixedMachine {}
    { code := MsSysreg.MIDR, pcpu := msCpuAll } 0
  exact absurd hone (by decide +kernel)

end Maplesyrup
