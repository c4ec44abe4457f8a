/-
The two requests of the ioctl interface, end to end: what they return,
what they record and what is in the buffer afterwards.

`callFuncPtr_cpuFn` and `gicBarRead_cpuFn` make the module's two cpu
functions instances of `CpuFn`; everything below is about the loop of
`Kernel.Proofs.Kick` and the checks in front of it.
-/
import Maplesyrup.Kernel.Proofs.Kick

namespace Maplesyrup

variable {b : Build} {mc : Machine}

-- ======================================================= cpu functions

/-- The register read is a cpu function while the flag is down. -/
theorem callFuncPtr_cpuFn {idx : Nat} {e : FuncTableEntry}
    (he : funcTable[idx]? = some e) :
    CpuFn b (callFuncPtr b mc)
      (fun s => s.gUndefFlag = 0 ∧ s.data.foundIndex = idx)
      (fun cur => ranSlot b mc cur (b.cpuIndex cur) e 0)
      (fun cur => ranTrace cur (b.cpuIndex cur) e) where
  keeps := by
    rintro cur s ⟨hflag, rfl⟩
    rw [callFuncPtr_eq cur he, hflag]
    exact ⟨ranFlag_zero cur e, rfl⟩
  stores := fun _ _ _ hs => hs
  data := by
    rintro cur s ⟨hflag, rfl⟩
    rw [callFuncPtr_eq cur he, hflag]
  trace := by
    rintro cur s ⟨-, rfl⟩
    rw [callFuncPtr_eq cur he]
  idem := fun _ _ => rfl

/-- The GIC read is a cpu function; without a mapping it is the one that
does nothing. -/
theorem gicBarRead_cpuFn (base : Nat) (code : U32) :
    CpuFn b (gicBarRead b mc)
      (fun s => s.data.baseAddr = base ∧ s.data.results.code = code)
      (fun cur d =>
        if base = 0 then d
        else gicSlot mc cur (b.cpuIndex cur)
          (base + (mscodeField code).toNat) d)
      (fun cur =>
        if base = 0 then []
        else
          [.slot (b.cpuIndex cur), .slot (b.cpuIndex cur),
            .readl cur (base + (mscodeField code).toNat),
            .slot (b.cpuIndex cur)]) where
  keeps := by
    rintro cur s ⟨hbase, hcode⟩
    rw [gicBarRead_eq]
    split
    · exact ⟨hbase, hcode⟩
    · exact ⟨hbase, hcode⟩
  stores := fun _ _ _ hs => hs
  data := by
    rintro cur s ⟨rfl, rfl⟩
    rw [gicBarRead_eq]
    split
    · simp [Co15ResultCpuWrapper.slot]
    · rfl
  trace := by
    rintro cur s ⟨rfl, rfl⟩
    rw [gicBarRead_eq]
    split
    · exact (List.append_nil _).symm
    · rfl
  idem := by
    intro cur d
    split <;> rfl

/-- The slots a cpu function records are those of the cpu it runs on. -/
theorem slot_mem_ranTrace {cur i j : Nat} {e : FuncTableEntry}
    (h : KEvent.slot j ∈ ranTrace cur i e) : j = i := by
  unfold ranTrace at h
  cases hs : e.supported <;> simp [hs] at h <;> exact h

-- ===================================================== loop, all inputs

/-- What a request records, whatever cpu it names. -/
def kickTrace (b : Build) (mc : Machine) (added : Nat → List KEvent)
    (pcpu : U32) : List KEvent :=
  if InRange pcpu then (kickCpus pcpu).flatMap (passTrace b mc added)
  else if pcpu.toNat = msMaxCpus then [.slot msMaxCpus]
  else []

variable {fn : Nat → KState → KState} {I : KState → Prop}
  {upd : Nat → MsData → MsData} {added : Nat → List KEvent}

/-- The cpu number behind the last slot passes the first check and is
written to before the second. -/
theorem onEachCpuKick_boundary {s : KState}
    (h8 : s.data.pcpu.toNat = msMaxCpus) :
    onEachCpuKick b mc fn s
      = (0, s.slot msMaxCpus fun d => { d with status := msErrorSmp })
      := by
  have hall : s.data.pcpu ≠ msCpuAll := by
    intro hall
    rw [hall] at h8
    exact absurd h8 (by decide)
  rw [onEachCpuKick, if_neg hall, if_neg (by omega), h8,
    cpuOnlineWrapper_out (le_refl msMaxCpus)]

/-- Every cpu number above it is turned away. -/
theorem onEachCpuKick_reject {s : KState}
    (hp : ¬ InRange s.data.pcpu) (h8 : s.data.pcpu.toNat ≠ msMaxCpus) :
    onEachCpuKick b mc fn s = (-1, s) := by
  unfold InRange at hp
  rw [not_or] at hp
  rw [onEachCpuKick, if_neg hp.1, if_pos (by omega)]

theorem onEachCpuKick_trace (hfn : CpuFn b fn I upd added) {s : KState}
    (hs : I s) :
    (onEachCpuKick b mc fn s).2.trace
      = s.trace ++ kickTrace b mc added s.data.pcpu := by
  unfold kickTrace
  by_cases hp : InRange s.data.pcpu
  · rw [if_pos hp]
    exact kick_trace hfn hp hs
  · rw [if_neg hp]
    by_cases h8 : s.data.pcpu.toNat = msMaxCpus
    · rw [if_pos h8, onEachCpuKick_boundary h8]
      rfl
    · rw [if_neg h8, onEachCpuKick_reject hp h8]
      exact (List.append_nil _).symm

theorem onEachCpuKick_ret (s : KState) :
    (onEachCpuKick b mc fn s).1
      = if InRange s.data.pcpu ∨ s.data.pcpu.toNat = msMaxCpus then 0
        else -1 := by
  by_cases hp : InRange s.data.pcpu
  · rw [if_pos (Or.inl hp), onEachCpuKick_eq hp]
  · by_cases h8 : s.data.pcpu.toNat = msMaxCpus
    · rw [if_pos (Or.inr h8), onEachCpuKick_boundary h8]
    · rw [if_neg (by tauto), onEachCpuKick_reject hp h8]

-- ================================================ the request functions

/-- Copying a buffer in and its slots back out loses nothing but the
slots the kernel changed. -/
theorem repack_eq (w : Co15ResultCpuWrapper) (u : MsDataCpu) :
    repackResultWrapper w u = { u with cpu := w.results.cpu } := rfl

/-- The index the search finds is that of the first row with the code. -/
theorem findFunctionIndex_find {code : U32} {i : Nat}
    (h : findFunctionIndex code = some i) :
    funcTable.find? (fun e => e.code == code) = funcTable[i]? := by
  obtain ⟨hlt, hcode, hmin⟩ := List.findIdx?_eq_some_iff_getElem.1 h
  rw [List.getElem?_eq_getElem hlt]
  exact List.find?_eq_some_iff_getElem.2 
    ⟨hcode, i, hlt, rfl, fun j hj => by simpa using hmin j hj⟩

/-- What both request functions make of the loop's outcome. -/
def kickReply (g : KGlobals) (u : MsDataCpu) (r : Int × KState) : Reply :=
  let g := { g with gUndefFlag := r.2.gUndefFlag }
  if r.1 ≠ 0 then ⟨-1, u, g, r.2.trace⟩
  else ⟨0, repackResultWrapper r.2.data u, g, r.2.trace⟩

/-- The kernel state a register request starts its loop in. -/
def coState (g : KGlobals) (u : MsDataCpu) (idx : Nat) : KState :=
  ⟨{ unpackResultWrapper u {} with foundIndex := idx }, g.gUndefFlag, []⟩

/-- The kernel state a GIC request starts its loop in. -/
def gicState (g : KGlobals) (u : MsDataCpu) (base : Nat) : KState :=
  ⟨{ unpackResultWrapper u {} with baseAddr := base }, g.gUndefFlag, []⟩

theorem callFuncReturnResults_some {g : KGlobals} {u : MsDataCpu}
    {idx : Nat} (hidx : findFunctionIndex u.code = some idx) :
    callFuncReturnResults b mc g u
      = kickReply g u
          (onEachCpuKick b mc (callFuncPtr b mc) (coState g u idx)) := by
  rw [callFuncReturnResults, hidx]
  rfl

theorem gicReturnResults_some {g : KGlobals} {u : MsDataCpu}
    {base : Nat} (hbase : gicBase g.gicMap u.partNumber = some base) :
    gicReturnResults b mc g u
      = kickReply g u
          (onEachCpuKick b mc (gicBarRead b mc) (gicState g u base)) := by
  rw [gicReturnResults, hbase]
  rfl

theorem kickReply_trace (g : KGlobals) (u : MsDataCpu)
    (r : Int × KState) : (kickReply g u r).trace = r.2.trace := by
  unfold kickReply
  dsimp only
  split <;> rfl

theorem kickReply_ret (g : KGlobals) (u : MsDataCpu)
    (r : Int × KState) : (kickReply g u r).ret = 0 ↔ r.1 = 0 := by
  unfold kickReply
  dsimp only
  split
  · rename_i hr
    exact ⟨fun h => absurd h (show ¬ (-1 : Int) = 0 by omega),
      fun h => absurd h hr⟩
  · rename_i hr
    exact ⟨fun _ => not_not.1 hr, fun _ => rfl⟩

theorem kickReply_buffer (g : KGlobals) (u : MsDataCpu)
    {r : Int × KState} (hr : r.1 = 0) :
    (kickReply g u r).buffer = { u with cpu := r.2.data.results.cpu } := by
  unfold kickReply
  dsimp only
  rw [if_neg (not_not.2 hr)]
  exact repack_eq _ _

/-- A request in range that was accepted fills each slot by the fate of
its cpu. -/
theorem kickReply_slots (hfn : CpuFn b fn I upd added) {s : KState}
    {g : KGlobals} {u : MsDataCpu} (hs : I s)
    (hpcpu : s.data.pcpu = u.pcpu)
    (hcpu : s.data.results.cpu = u.cpu) (hp : InRange u.pcpu) :
    (kickReply g u (onEachCpuKick b mc fn s)).buffer
      = { u with
          cpu := fun j =>
            (fate b mc u.pcpu j).slot (upd j) (u.cpu j) } := by
  have hp' : InRange s.data.pcpu := by rwa [hpcpu]
  have hret : (onEachCpuKick b mc fn s).1 = 0 :=
    (onEachCpuKick_ret s).trans (if_pos (Or.inl hp'))
  have hslots : (onEachCpuKick b mc fn s).2.data.results.cpu
      = fun j : Fin msMaxCpus =>
          (fate b mc u.pcpu j).slot (upd j) (u.cpu j) := by
    funext j
    rw [kick_slot hfn hp' hs j, hpcpu, hcpu]
  rw [kickReply_buffer g u hret, hslots]

/-- Copying in runs the request function, the flag reset before it. -/
theorem callCmd_trace (mc : Machine) (pcall : KGlobals → MsDataCpu → Reply)
    (g : KGlobals) (u : MsDataCpu) :
    (callCmd mc pcall g u).trace
      = if mc.copyFromUser then
          (pcall { g with gUndefFlag := 0 } u).trace
        else [] := by
  unfold callCmd
  cases mc.copyFromUser
  · rfl
  · dsimp only
    split
    · contradiction
    · split
      · rfl
      · split <;> rfl

theorem callCmd_ret (mc : Machine) (pcall : KGlobals → MsDataCpu → Reply)
    (g : KGlobals) (u : MsDataCpu) :
    (callCmd mc pcall g u).ret = 0
      ↔ mc.copyFromUser = true
        ∧ (pcall { g with gUndefFlag := 0 } u).ret = 0
        ∧ mc.copyToUser = true := by
  unfold callCmd
  dsimp only
  generalize { g with gUndefFlag := (0 : U32) } = g'
  cases mc.copyFromUser
  · simp
  · by_cases hcall : (pcall g' u).ret = 0
    · cases mc.copyToUser <;> simp [hcall]
    · simp [hcall]

/-- A request that succeeded gives the caller what the request function
made. -/
theorem callCmd_buffer {pcall : KGlobals → MsDataCpu → Reply}
    {g : KGlobals} {u : MsDataCpu} (h : (callCmd mc pcall g u).ret = 0) :
    (callCmd mc pcall g u).buffer
      = (pcall { g with gUndefFlag := 0 } u).buffer := by
  obtain ⟨hfrom, hcall, hto⟩ := (callCmd_ret mc pcall g u).1 h
  unfold callCmd
  dsimp only
  rw [hfrom, hto, if_neg (by decide), if_neg (not_not.2 hcall),
    if_neg (by decide)]

-- ====================================================== the two commands

/-- The two kernel commands. -/
inductive MsCmd
  | co
  | gic
deriving DecidableEq, Repr

/-- The function `ms_ioctl` hands to `call_cmd`. -/
def MsCmd.pcall (b : Build) (mc : Machine) :
    MsCmd → KGlobals → MsDataCpu → Reply
  | .co => callFuncReturnResults b mc
  | .gic => gicReturnResults b mc

/-- The request gets past the checks in front of the loop: its code is
in the table, or its part number is that of an interface. -/
def MsCmd.accepts : MsCmd → MsDataCpu → Prop
  | .co, u => ∃ e ∈ funcTable, e.code = u.code
  | .gic, u => u.partNumber ∈ [giccV2, gicdV2, gichV2, gicvV2]

theorem gicBase_isSome (m : MsGicMap) (partNumber : U32) :
    (∃ base, gicBase m partNumber = some base)
      ↔ partNumber ∈ [giccV2, gicdV2, gichV2, gicvV2] := by
  unfold gicBase
  simp only [List.mem_cons, List.not_mem_nil, or_false]
  split_ifs <;> simp_all

/-- A request the checks turn away never reaches the loop. -/
theorem pcall_rejected (b : Build) (mc : Machine) {cmd : MsCmd}
    {u : MsDataCpu} (h : ¬ cmd.accepts u) (g : KGlobals) :
    cmd.pcall b mc g u = ⟨-1, u, g, []⟩ := by
  cases cmd with
  | co =>
      have hnone : findFunctionIndex u.code = none := by
        rw [← Option.not_isSome_iff_eq_none, findFunctionIndex_isSome]
        exact h
      show callFuncReturnResults b mc g u = _
      rw [callFuncReturnResults, hnone]
  | gic =>
      have hnone : gicBase g.gicMap u.partNumber = none := by
        rw [← Option.not_isSome_iff_eq_none, Option.isSome_iff_exists,
          gicBase_isSome]
        exact h
      show gicReturnResults b mc g u = _
      rw [gicReturnResults, hnone]

/-- One they let through runs some function on the request's slots. -/
theorem pcall_accepted (b : Build) (mc : Machine) {cmd : MsCmd}
    {u : MsDataCpu} (h : cmd.accepts u) (g : KGlobals) :
    ∃ fn s, s.data.pcpu = u.pcpu ∧ s.data.results.cpu = u.cpu
      ∧ cmd.pcall b mc g u
        = kickReply g u (onEachCpuKick b mc fn s) := by
  cases cmd with
  | co =>
      obtain ⟨idx, hidx⟩ := Option.isSome_iff_exists.1
        ((findFunctionIndex_isSome u.code).2 h)
      exact ⟨callFuncPtr b mc, coState g u idx, rfl, rfl,
        callFuncReturnResults_some hidx⟩
  | gic =>
      obtain ⟨base, hbase⟩ := (gicBase_isSome g.gicMap u.partNumber).2 h
      exact ⟨gicBarRead b mc, gicState g u base, rfl, rfl,
        gicReturnResults_some hbase⟩

/-- Neither command changes the GIC map. -/
theorem pcall_gicMap (cmd : MsCmd) (g : KGlobals) (u : MsDataCpu) :
    (cmd.pcall b mc g u).globals.gicMap = g.gicMap := by
  by_cases hacc : cmd.accepts u
  · obtain ⟨fn, s, -, -, hpcall⟩ := pcall_accepted b mc hacc g
    rw [hpcall]
    unfold kickReply
    dsimp only
    split <;> rfl
  · rw [pcall_rejected b mc hacc]

theorem callCmd_gicMap (cmd : MsCmd) (g : KGlobals) (u : MsDataCpu) :
    (callCmd mc (cmd.pcall b mc) g u).globals.gicMap = g.gicMap := by
  have hpcall : (cmd.pcall b mc { g with gUndefFlag := 0 }
      u).globals.gicMap = g.gicMap := pcall_gicMap cmd _ u
  unfold callCmd
  dsimp only
  split
  · rfl
  · split
    · exact hpcall
    · split <;> exact hpcall

/-- No ioctl changes it. -/
theorem msIoctl_gicMap (g : KGlobals) (cmd : U32) (u : MsDataCpu) :
    (msIoctl b mc g cmd u).globals.gicMap = g.gicMap := by
  unfold msIoctl
  split
  · exact callCmd_gicMap .co g u
  · split
    · exact callCmd_gicMap .gic g u
    · rfl

-- ===================================================== register requests

/-- The cpu is offline and cannot be brought up. -/
def Machine.unreachable (mc : Machine) (i : Nat) : Prop :=
  mc.cpuOnline i = false ∧ mc.cpuUp i = false

/-- A slot after its cpu ran the read: this cpu, its MIDR, this read's
words and nothing else's, and a verdict that says exactly what
happened. -/
structure ReadBack (b : Build) (mc : Machine) (e : FuncTableEntry)
    (i : Nat) (d d' : MsData) : Prop where
  inputs : d'.in1 = d.in1 ∧ d'.in2 = d.in2
  cpu : d'.cpu = .ofNat 32 i
  midr : d'.midr = mc.midr i
  words : (d'.out64, d'.out1, d'.out2)
    = readWords b.target e (callEffect b mc i e.funcPtr)
  table : d'.status = msErrorTable ↔ e.supported = false
  undefinst : d'.status = msErrorUndefinst
    ↔ e.supported = true ∧ (callEffect b mc i e.funcPtr).trapped = true
  success : d'.status = msErrorSuccess
    ↔ e.supported = true ∧ (callEffect b mc i e.funcPtr).trapped = false

theorem ranSlot_readBack (i : Nat) (e : FuncTableEntry) (d : MsData) :
    ReadBack b mc e i d (ranSlot b mc i i e 0 d) := by
  have hstatus := ranSlot_status b mc i i e d
  refine ⟨⟨rfl, rfl⟩, rfl, rfl, rfl, ?_, ?_, ?_⟩
  all_goals
    rw [hstatus]
    cases e.supported <;>
      cases (callEffect b mc i e.funcPtr).trapped <;> decide

/-- What one slot holds after a register request, by what its own cpu
did. -/
structure SlotOutcome (b : Build) (mc : Machine) (pcpu : U32)
    (e : FuncTableEntry) (i : Nat) (d d' : MsData) : Prop where
  untouched : ¬ requested pcpu i → d' = d
  down : requested pcpu i → mc.unreachable i →
    d' = { d with status := msErrorSmp }
  failed : requested pcpu i → ¬ mc.unreachable i →
    mc.smpCall i = false → d' = { d with status := msErrorSmpSingle }
  ran : requested pcpu i → ¬ mc.unreachable i → mc.smpCall i = true →
    ReadBack b mc e i d d'

theorem fate_outcome (hsmp : b.configSmp = true) (pcpu : U32)
    (e : FuncTableEntry) (i : Nat) (d : MsData) :
    SlotOutcome b mc pcpu e i d
      ((fate b mc pcpu i).slot (ranSlot b mc i i e 0) d) := by
  rw [fate, if_pos hsmp]
  refine ⟨fun hr => ?_, fun hr hdown => ?_, fun hr hup hcall => ?_,
    fun hr hup hcall => ?_⟩
  · rw [if_neg hr]
    rfl
  · rw [if_pos hr, reach, if_pos hsmp, hdown.1, hdown.2]
    rfl
  all_goals
    have hup' : (!mc.cpuOnline i && !mc.cpuUp i) = false := by
      simpa [Machine.unreachable] using hup
    rw [if_pos hr, reach, if_pos hsmp, hup', hcall]
  · rfl
  · exact ranSlot_readBack i e d

/-- Slot semantics of a register request: after a request that
succeeded, each of the eight slots holds what its own cpu did. -/
theorem call_cmd_slots {g : KGlobals} {u : MsDataCpu}
    (hsmp : b.configSmp = true)
    (hcode : ∃ e ∈ funcTable, e.code = u.code)
    (hpcpu : u.pcpu = msCpuAll ∨ u.pcpu.toNat < msMaxCpus)
    (hret : (callCmd mc (callFuncReturnResults b mc) g u).ret = 0) :
    ∃ e, funcTable.find? (fun e => e.code == u.code) = some e ∧
      ∀ i : Fin msMaxCpus,
        SlotOutcome b mc u.pcpu e i (u.cpu i)
          ((callCmd mc (callFuncReturnResults b mc) g u).buffer.cpu i)
      := by
  obtain ⟨idx, hidx⟩ := Option.isSome_iff_exists.1
    ((findFunctionIndex_isSome u.code).2 hcode)
  obtain ⟨e, he, -⟩ := findFunctionIndex_spec hidx
  refine ⟨e, (findFunctionIndex_find hidx).trans he, fun i => ?_⟩
  have hslot :
      (callCmd mc (callFuncReturnResults b mc) g u).buffer.cpu i
        = (fate b mc u.pcpu i).slot (ranSlot b mc i i e 0)
            (u.cpu i) := by
    rw [callCmd_buffer hret, callFuncReturnResults_some hidx,
      kickReply_slots (u := u) (callFuncPtr_cpuFn he) ⟨rfl, rfl⟩ rfl rfl
        hpcpu]
    simp only [cpuIndex_smp hsmp]
  rw [hslot]
  exact fate_outcome hsmp u.pcpu e i (u.cpu i)

/-- A machine with one cpu of each kind: 1 stays down, the call to 2
fails, 3 traps, the others deliver their own number. -/
def mixedMachine : Machine where
  copyFromUser := true
  copyToUser := true
  cpuOnline i := i != 1
  cpuUp _ := false
  smpCall i := i != 2
  midr i := 0x410FD070 + .ofNat 32 i
  reg i _ := if i = 3 then none else some (.ofNat 64 i)
  readl _ addr := .ofNat 32 addr

theorem call_cmd_slots_mixed :
    ∃ e, funcTable.find? (fun e => e.code == MsSysreg.MIDR) = some e ∧
      ∀ i : Fin msMaxCpus,
        SlotOutcome ⟨.aarch64, true⟩ mixedMachine msCpuAll e i {}
          ((callCmd mixedMachine
            (callFuncReturnResults ⟨.aarch64, true⟩ mixedMachine) {}
            { code := MsSysreg.MIDR, pcpu := msCpuAll }).buffer.cpu i) :=
  call_cmd_slots (g := {})
    (u := { code := MsSysreg.MIDR, pcpu := msCpuAll }) rfl
    ⟨⟨MsSysreg.MIDR, some doMIDRRead, functypeOut1, functypeBits32⟩,
      by decide +kernel, rfl⟩
    (Or.inl rfl) (by decide +kernel)

end Maplesyrup
