/-
Does a handler stay inside the variables it is given?

A handler's body stores through its pointers in the width of its
parameter types. The executors know nothing of these: the prototype and
the size of the dispatch row say which variables they pass the addresses
of, and the row is written by hand. The stores a body makes do not
depend on the register, nor on the instruction being defined: the
operands are in-out, so a skipped instruction stores back what was
loaded.
-/
import Maplesyrup.Library.Proofs.Cmd

namespace Maplesyrup

open MsSysreg

variable {t : Target} {h : Handler} {e : FuncTableEntry} {i : Nat}

-- ============================================================= the stores

/-- Bits of the type. -/
def OutType.bits (t : Target) (o : OutType) : Nat :=
  if o.wide t then 64 else 32

/-- Bits of a stored value. -/
def Word.bits : Word → Nat
  | .w32 _ => 32
  | .w64 _ => 64

/-- Bits each of a handler's parameters points to. -/
def Handler.params (t : Target) (h : Handler) : List Nat :=
  h.out.bits t :: if h.out2 then [32] else []

/-- The stores a handler's body makes: through which pointer, and how
many bits. -/
def Handler.stores (t : Target) (h : Handler) : List (Nat × Nat) :=
  match h.body t with
  | none => []
  | some (.asm01 _) => [(0, h.out.bits t)]
  | some (.asm02 _) => [(0, h.out.bits t), (1, 32)]

/-- The stores of a run that delivered a value. -/
def Effect.stores (e : Effect) : List (Nat × Nat) :=
  (e.first.map fun w => (0, w.bits)).toList
    ++ (e.second.map fun _ => (1, 32)).toList

/-- Bits of each variable a call passes the address of. -/
def Args.vars : Args → List Nat
  | .one32 => [32]
  | .one64 => [64]
  | .two32 => [32, 32]
  | .two64 => [64, 32]

/-- A call with these arguments passes as many pointers as the handler
takes, and every store lands in the variable behind its pointer,
whatever the register holds. -/
structure StaysInside (t : Target) (h : Handler) (args : Args) : Prop where
  pointers : args.vars.length = (h.params t).length
  stores : ∀ (reg : String → Option U64),
    ∀ q ∈ h.stores t ++ (h.run t reg).stores,
      ∃ bits, args.vars[q.1]? = some bits ∧ q.2 ≤ bits

-- ========================================================== the executors

/-- A result's words, from the variables of a call. -/
def Args.result (args : Args) (l : Locals) (d : MsData) : MsData :=
  match args with
  | .one32 => { d with out1 := l.cmdResult1 }
  | .one64 => { d with out64 := l.cmdResult64 }
  | .two32 => { d with out1 := l.cmdResult1, out2 := l.cmdResult2 }
  | .two64 => { d with out64 := l.cmdResult64, out2 := l.cmdResult2 }

/-- The kernel calls row `i`'s handler with these arguments. -/
def KernelPasses (t : Target) (i : Nat) (fn : Option Handler)
    (args : Args) : Prop :=
  ∀ smp mc cur (s : KState), s.data.foundIndex = i →
    callFuncPtr ⟨t, smp⟩ mc cur s
      = let n := Build.cpuIndex ⟨t, smp⟩ cur
        let s := s.slot n fun d =>
          { d with out64 := 0, out1 := 0, out2 := 0 }
        let s := s.slot n fun d =>
          { d with cpu := .ofNat 32 n, midr := mc.midr cur }
        let (l, s) := callHandler ⟨t, smp⟩ mc cur fn args s
        setUndefFlag n (s.slot n (args.result l))

/-- The library calls row `i`'s handler with these arguments. -/
def UserPasses (t : Target) (i : Nat) (fn : Option Handler)
    (args : Args) : Prop :=
  ∀ reg d (s : UState),
    Usermode.callFuncPtr t reg i d s
      = let d := { d with
          cpu := 0, midr := 0, out64 := 0, out1 := 0, out2 := 0 }
        let (l, s) := tryCommand t reg fn args s
        (0, setStatusFlag (args.result l d) s)

/-- Both executors call the row's handler with arguments that it stays
inside. -/
def InsideAt (t : Target) (i : Nat) (e : FuncTableEntry) : Prop :=
  ∀ h, e.funcPtr = some h →
    ∃ args, KernelPasses t i (some h) args ∧ UserPasses t i (some h) args
      ∧ StaysInside t h args

/-- The arguments of a row's call. -/
def FuncTableEntry.args (t : Target) (e : FuncTableEntry) : Args :=
  if e.functionPrototype = functypeOut1 then
    if e.wide t then .one64 else .one32
  else if e.wide t then .two64 else .two32

theorem FuncTableEntry.supported_cases (hs : e.supported = true) :
    (e.functionPrototype = functypeOut1
        ∧ (e.dataSize = functypeBits32 ∨ e.dataSize = functypeBits64
          ∨ e.dataSize = functypeBitsArch))
      ∨ (e.functionPrototype = functypeOut2
        ∧ (e.dataSize = functypeBits32
          ∨ e.dataSize = functypeBitsArch)) := by
  simpa [supported, or_assoc] using hs

theorem kernelPasses (he : funcTable[i]? = some e)
    (hs : e.supported = true) :
    KernelPasses t i e.funcPtr (e.args t) := by
  intro smp mc cur s hi
  subst hi
  rw [callFuncPtr, he]
  have hcases := e.supported_cases hs
  obtain ⟨code, fn, proto, size⟩ := e
  rcases hcases with ⟨rfl, rfl | rfl | rfl⟩ | ⟨rfl, rfl | rfl⟩
  · rfl
  · rfl
  · cases t <;> rfl
  · rfl
  · cases t <;> rfl

theorem userPasses (he : funcTable[i]? = some e)
    (hs : e.supported = true) :
    UserPasses t i e.funcPtr (e.args t) := by
  intro reg d s
  rw [Usermode.callFuncPtr, he]
  have hcases := e.supported_cases hs
  obtain ⟨code, fn, proto, size⟩ := e
  rcases hcases with ⟨rfl, rfl | rfl | rfl⟩ | ⟨rfl, rfl | rfl⟩
  · rfl
  · rfl
  · cases t <;> rfl
  · rfl
  · cases t <;> rfl

-- ============================================================= the handlers

/-- The stores of a run are those of the body, if no body with two
outputs has a wide one. -/
theorem run_stores
    (hnarrow : ∀ s, h.body t = some (.asm02 s) → h.out.wide t = false)
    {reg : String → Option U64} {q : Nat × Nat}
    (hq : q ∈ (h.run t reg).stores) : q ∈ h.stores t := by
  unfold Handler.run at hq
  unfold Handler.stores
  cases hbody : h.body t with
  | none => simp [hbody, Effect.stores] at hq
  | some asm =>
      rw [hbody] at hq
      cases asm with
      | asm01 s =>
          cases hreg : reg s with
          | none => simp [hreg, Effect.stores] at hq
          | some v =>
              have hwidth : (Word.ofValue (h.out.wide t) v).bits
                  = h.out.bits t := by
                unfold Word.ofValue OutType.bits
                cases h.out.wide t <;> rfl
              simpa [hreg, Effect.stores, hwidth] using hq
      | asm02 s =>
          cases hreg : reg s with
          | none => simp [hreg, Effect.stores] at hq
          | some v =>
              have hwidth : h.out.bits t = 32 := by
                rw [OutType.bits, hnarrow s hbody]
                rfl
              simpa [hreg, Effect.stores, Word.bits, hwidth] using hq

/-- The stores of a body fit the variables behind their pointers. -/
def storesFit (t : Target) (h : Handler) (args : Args) : Bool :=
  args.vars.length == (h.params t).length
    && (h.stores t).all fun q =>
      args.vars[q.1]?.any fun bits => decide (q.2 ≤ bits)

/-- A body with two outputs has no wide one. -/
def narrowPair (t : Target) (h : Handler) : Bool :=
  match h.body t with
  | some (.asm02 _) => !h.out.wide t
  | _ => true

theorem staysInside_of_fit {args : Args}
    (hpair : narrowPair t h = true) (hfit : storesFit t h args = true) :
    StaysInside t h args := by
  rw [storesFit, Bool.and_eq_true, beq_iff_eq] at hfit
  refine ⟨hfit.1, fun reg q hq => ?_⟩
  have hnarrow : ∀ s, h.body t = some (.asm02 s) →
      h.out.wide t = false := by
    intro s hbody
    simpa [narrowPair, hbody] using hpair
  have hmem : q ∈ h.stores t := by
    rcases List.mem_append.1 hq with hq | hq
    · exact hq
    · exact run_stores hnarrow hq
  have hany := List.all_eq_true.1 hfit.2 q hmem
  rw [Option.any_eq_true] at hany
  obtain ⟨bits, hbits, hle⟩ := hany
  exact ⟨bits, hbits, of_decide_eq_true hle⟩

/-- A row that cuts a double word passes the address of a word: of the
two variables that one pointer may point to, the other is not the one
read afterwards. -/
theorem not_insideAt (he : funcTable[i]? = some e)
    (hfn : e.funcPtr = some h) (hone : h.out2 = false)
    (hcuts : e.cuts t = true) : ¬ InsideAt t i e := by
  intro hinside
  obtain ⟨args, -, huser, hpointers, hstores⟩ := hinside h hfn
  obtain ⟨s, hbody, hwide, hrow⟩ : ∃ s, h.body t = some (.asm01 s)
      ∧ h.out.wide t = true ∧ e.wide t = false := by
    simp only [FuncTableEntry.cuts, hfn, Option.any_some] at hcuts
    split at hcuts
    · rw [Bool.and_eq_true, Bool.not_eq_true'] at hcuts
      exact ⟨_, by assumption, hcuts.1, hcuts.2⟩
    · cases hcuts
  have hmem : (0, 64) ∈ h.stores t ++ (h.run t fun _ => none).stores := by
    simp [Handler.stores, hbody, OutType.bits, hwide]
  obtain ⟨bits, hbits, hle⟩ := hstores _ _ hmem
  cases args with
  | one32 =>
      obtain rfl := Option.some.inj hbits
      omega
  | one64 =>
      have hrun : h.run t (fun _ => some 1)
          = { first := some (.w64 1) } := by
        simp [Handler.run, hbody, Word.ofValue, hwide]
      have hcall := huser (fun _ => some 1) {} {}
      rw [Usermode.callFuncPtr_eq he] at hcall
      have hout : (userSlot t (fun _ => some 1) e 0 {}).out64
          = into64 0 (h.run t fun _ => some 1).first :=
        congrArg (·.2.1.out64) hcall
      have hzero : (userSlot t (fun _ => some 1) e 0 {}).out64 = 0 := by
        simp only [userSlot, readWords, hrow]
        split
        · rfl
        · rfl
      rw [hrun, hzero] at hout
      exact absurd hout (by decide)
  | two32 => simp [Args.vars, Handler.params, hone] at hpointers
  | two64 => simp [Args.vars, Handler.params, hone] at hpointers

-- ================================================================ the table

/-- The rows that cut no double word fit; those that cut one have one
output. -/
theorem funcTable_stores (t : Target) : ∀ e ∈ funcTable,
    e.funcPtr.all (fun h =>
      if e.cuts t then !h.out2
      else e.supported && narrowPair t h && storesFit t h (e.args t))
        = true := by
  cases t
  · decide +kernel
  · decide +kernel

/-- Every handler stays inside the variables both executors pass it, if
and only if it is not MMFR0's or ACTLR's on AArch64. -/
theorem stores_inside_iff (t : Target) {i : Nat} {e : FuncTableEntry}
    (he : funcTable[i]? = some e) :
    InsideAt t i e
      ↔ ¬ (t = .aarch64 ∧ (e.code = MMFR0 ∨ e.code = ACTLR)) := by
  have hmem := List.mem_of_getElem? he
  have hstores := funcTable_stores t e hmem
  cases hfn : e.funcPtr with
  | none =>
      -- the terminating row has no handler, and its code is neither
      have hnone : ∀ e ∈ funcTable, e.funcPtr = none → e.code = 0 := by
        decide +kernel
      have hcode := hnone e hmem hfn
      refine iff_of_true (fun h hsome => ?_) fun hbad => ?_
      · rw [hfn] at hsome
        cases hsome
      · rw [hcode] at hbad
        exact absurd hbad.2 (by decide)
  | some h =>
      obtain ⟨-, hwhen⟩ := funcTable_fits t e hmem (by simp [hfn])
      simp only [List.mem_cons, List.not_mem_nil, or_false] at hwhen
      rw [hfn, Option.all_some] at hstores
      rw [← hwhen]
      cases hcuts : e.cuts t with
      | true =>
          rw [hcuts, if_pos rfl, Bool.not_eq_true'] at hstores
          exact iff_of_false (not_insideAt he hfn hstores hcuts) (by simp)
      | false =>
          rw [hcuts, if_neg (by decide), Bool.and_eq_true,
            Bool.and_eq_true] at hstores
          obtain ⟨⟨hs, hpair⟩, hfit⟩ := hstores
          refine iff_of_true (fun h' hfn' => ?_) (by simp)
          obtain rfl := Option.some.inj (hfn.symm.trans hfn')
          refine ⟨e.args t, ?_, ?_, staysInside_of_fit hpair hfit⟩
          · rw [← hfn]
            exact kernelPasses he hs
          · rw [← hfn]
            exact userPasses he hs

theorem stores_inside_iff_midr :
    InsideAt .aarch64 0 ⟨MIDR, some doMIDRRead, functypeOut1, functypeBits32⟩
      ↔ ¬ (Target.aarch64 = .aarch64 ∧ (MIDR = MMFR0 ∨ MIDR = ACTLR)) :=
  stores_inside_iff .aarch64 rfl

/-- On AArch64 the handler of MMFR0 stores 64 bits into a variable of
32. -/
theorem stores_inside_fails : ¬ ∀ t i e, funcTable[i]? = some e →
    InsideAt t i e := by
  intro hall
  have hrow : funcTable[7]?
      = some ⟨MMFR0, some doMMFR0Read, functypeOut1, functypeBits32⟩ := rfl
  exact not_insideAt hrow rfl rfl rfl (hall .aarch64 7 _ hrow)

end Maplesyrup
