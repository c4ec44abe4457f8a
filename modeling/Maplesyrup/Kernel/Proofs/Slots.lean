/-
What one register read leaves in its slot, and what a whole request
leaves in all eight.

`callFuncPtr` is characterised once, by `callFuncPtr_eq`: one store into
the running cpu's slot, the flag consumed, the rest of the state framed.
`cpuOnlineWrapper_eq` does the same for a cpu the read may never reach.
The loop over the cpus is then `Base.foldl_cell`: its invariant says the
flag is down between cpus and the request fields are untouched.
-/
import Maplesyrup.Base.Cells
import Maplesyrup.Kernel.Gic

namespace Maplesyrup

variable {b : Build} {mc : Machine}

-- ================================================== stores into slots

theorem slot_cpu (w : Co15ResultCpuWrapper) (i : Nat)
    (f : MsData → MsData) (j : Fin msMaxCpus) :
    (w.slot i f).results.cpu j
      = if j.val = i then f (w.results.cpu j) else w.results.cpu j := rfl

@[simp] theorem slot_baseAddr (w : Co15ResultCpuWrapper) (i : Nat)
    (f : MsData → MsData) : (w.slot i f).baseAddr = w.baseAddr := rfl

@[simp] theorem slot_code (w : Co15ResultCpuWrapper) (i : Nat)
    (f : MsData → MsData) :
    (w.slot i f).results.code = w.results.code := rfl

/-- Two stores into one slot are one store of the composite. -/
@[simp] theorem slot_slot (w : Co15ResultCpuWrapper) (i : Nat)
    (f g : MsData → MsData) :
    (w.slot i f).slot i g = w.slot i fun d => g (f d) := by
  have hcpu : ((w.slot i f).slot i g).results.cpu
      = (w.slot i fun d => g (f d)).results.cpu := by
    funext j
    by_cases hj : j.val = i <;> simp [slot_cpu, hj]
  simpa [Co15ResultCpuWrapper.slot] using hcpu

-- ========================================================= one read

/-- What calling a table row's function pointer does on a cpu. -/
def callEffect (b : Build) (mc : Machine) (cur : Nat)
    (fn : Option Handler) : Effect :=
  match fn with
  | none => {}
  | some h => h.run b.target (mc.reg cur)

/-- `callHandler` in one piece: the zeroed variables after the call, the
call recorded, the flag up if it trapped. -/
theorem callHandler_eq (cur : Nat) (fn : Option Handler) (args : Args)
    (s : KState) :
    callHandler b mc cur fn args s
      = ((callEffect b mc cur fn).locals args,
          { s with
            trace := s.trace ++ [.call cur fn]
            gUndefFlag :=
              if (callEffect b mc cur fn).trapped then 1
              else s.gUndefFlag }) := by
  cases fn with
  | none => cases args <;> rfl
  | some h =>
      by_cases ht : (h.run b.target (mc.reg cur)).trapped
      · simp [callHandler, callEffect, ht]
      · simp [callHandler, callEffect, ht]

/-- Is the row's first output read from the 64-bit variable? -/
def FuncTableEntry.wide (t : Target) (e : FuncTableEntry) : Bool :=
  e.dataSize == functypeBits64
    || (e.dataSize == functypeBitsArch && t == .aarch64)

/-- The words `(out64, out1, out2)` a read by this row stores, all zero
where the row is not supported. -/
def readWords (t : Target) (e : FuncTableEntry) (eff : Effect) :
    U64 × U32 × U32 :=
  if e.supported then
    (if e.wide t then into64 0 eff.first else 0,
      if e.wide t then 0 else into32 0 eff.first,
      if e.functionPrototype = functypeOut2 then eff.second.getD 0 else 0)
  else (0, 0, 0)

/-- The trap flag as `set_undef_flag` finds it. -/
def raisedFlag (eff : Effect) (gUndefFlag : U32) : U32 :=
  if eff.trapped then 1 else gUndefFlag

/-- A slot after its read: this cpu, its MIDR, this read's words and
verdict; the inputs stay. -/
def ranSlot (b : Build) (mc : Machine) (cur i : Nat) (e : FuncTableEntry)
    (gUndefFlag : U32) (d : MsData) : MsData :=
  let eff := callEffect b mc cur e.funcPtr
  let w := readWords b.target e eff
  { d with
    cpu := .ofNat 32 i
    midr := mc.midr cur
    out64 := w.1
    out1 := w.2.1
    out2 := w.2.2
    status :=
      if e.supported then (undefVerdict (raisedFlag eff gUndefFlag)).1
      else msErrorTable }

/-- The flag after a read. -/
def ranFlag (b : Build) (mc : Machine) (cur : Nat) (e : FuncTableEntry)
    (gUndefFlag : U32) : U32 :=
  if e.supported then
    (undefVerdict
      (raisedFlag (callEffect b mc cur e.funcPtr) gUndefFlag)).2
  else gUndefFlag

/-- What a read adds to the trace. -/
def ranTrace (cur i : Nat) (e : FuncTableEntry) : List KEvent :=
  [.slot i, .slot i] ++
    if e.supported then [.call cur e.funcPtr, .slot i, .slot i]
    else [.slot i]

/-- A row the executor has no case for only gets its verdict. -/
theorem table_eq {e : FuncTableEntry} (hs : e.supported = false)
    (s : KState) (cur i : Nat) :
    KState.slot
        (KState.slot (KState.slot s i fun d =>
            { d with out64 := 0, out1 := 0, out2 := 0 })
          i fun d => { d with cpu := .ofNat 32 i, midr := mc.midr cur })
        i (fun d => { d with status := msErrorTable })
      = { data := s.data.slot i (ranSlot b mc cur i e s.gUndefFlag)
          gUndefFlag := ranFlag b mc cur e s.gUndefFlag
          trace := s.trace ++ ranTrace cur i e } := by
  have hslot : ranSlot b mc cur i e s.gUndefFlag = fun d =>
      { d with
        out64 := 0, out1 := 0, out2 := 0
        cpu := .ofNat 32 i, midr := mc.midr cur
        status := msErrorTable } := by
    funext d
    simp [ranSlot, readWords, hs]
  rw [hslot]
  simp [KState.slot, ranFlag, ranTrace, hs]

/-- A register read in one piece. -/
theorem callFuncPtr_eq {s : KState} {e : FuncTableEntry} (cur : Nat)
    (he : funcTable[s.data.foundIndex]? = some e) :
    callFuncPtr b mc cur s
      = { data := s.data.slot (b.cpuIndex cur)
            (ranSlot b mc cur (b.cpuIndex cur) e s.gUndefFlag)
          gUndefFlag := ranFlag b mc cur e s.gUndefFlag
          trace := s.trace ++ ranTrace cur (b.cpuIndex cur) e } := by
  rw [callFuncPtr, he]
  obtain ⟨code, fn, proto, size⟩ := e
  obtain ⟨target, smp⟩ := b
  -- every supported row computes; the tags decide which case runs
  by_cases h1 : proto = functypeOut1
  · subst h1
    by_cases h32 : size = functypeBits32
    · subst h32
      simp only [callHandler_eq, setUndefFlag, KState.slot, slot_slot,
        List.append_assoc]
      rfl
    by_cases h64 : size = functypeBits64
    · subst h64
      simp only [callHandler_eq, setUndefFlag, KState.slot, slot_slot,
        List.append_assoc]
      rfl
    by_cases ha : size = functypeBitsArch
    · subst ha
      simp only [callHandler_eq, setUndefFlag, KState.slot, slot_slot,
        List.append_assoc]
      cases target <;> rfl
    · have hs : FuncTableEntry.supported ⟨code, fn, functypeOut1, size⟩
          = false := by
        simp [FuncTableEntry.supported, h32, h64, ha, functypeOut1,
          functypeOut2]
      simpa only [↓reduceIte, if_neg h32, if_neg h64, if_neg ha] using
        table_eq hs s cur _
  · by_cases h2 : proto = functypeOut2
    · subst h2
      by_cases h32 : size = functypeBits32
      · subst h32
        simp only [callHandler_eq, setUndefFlag, KState.slot, slot_slot,
          List.append_assoc]
        rfl
      by_cases ha : size = functypeBitsArch
      · subst ha
        simp only [callHandler_eq, setUndefFlag, KState.slot, slot_slot,
          List.append_assoc]
        cases target <;> rfl
      · have hs : FuncTableEntry.supported ⟨code, fn, functypeOut2, size⟩
            = false := by
          simp [FuncTableEntry.supported, h32, ha, functypeOut1,
            functypeOut2]
        simpa only [↓reduceIte, if_neg h1, if_neg h32, if_neg ha] using
          table_eq hs s cur _
    · have hs : FuncTableEntry.supported ⟨code, fn, proto, size⟩
          = false := by
        simp [FuncTableEntry.supported, h1, h2]
      simpa only [if_neg h1, if_neg h2] using table_eq hs s cur _

/-- With the flag down before a read it is down after it. -/
theorem ranFlag_zero (cur : Nat) (e : FuncTableEntry) :
    ranFlag b mc cur e 0 = 0 := by
  rw [ranFlag]
  split
  · cases h : (callEffect b mc cur e.funcPtr).trapped <;>
      simp [raisedFlag, undefVerdict, h]
  · rfl

/-- The verdict of a read that found the flag down is its own. -/
theorem ranSlot_status (b : Build) (mc : Machine) (cur i : Nat)
    (e : FuncTableEntry) (d : MsData) :
    (ranSlot b mc cur i e 0 d).status
      = if e.supported then
          if (callEffect b mc cur e.funcPtr).trapped then
            msErrorUndefinst
          else msErrorSuccess
        else msErrorTable := by
  cases h : (callEffect b mc cur e.funcPtr).trapped <;>
    simp [ranSlot, raisedFlag, undefVerdict, h]

-- ======================================================= one GIC word

/-- The address a GIC request reads. -/
def gicAddr (w : Co15ResultCpuWrapper) : Nat :=
  w.baseAddr + (mscodeField w.results.code).toNat

/-- A slot after a GIC read. The MIDR stays what it was. -/
def gicSlot (mc : Machine) (cur i addr : Nat) (d : MsData) : MsData :=
  { d with
    cpu := .ofNat 32 i
    out64 := 0
    out1 := mc.readl cur addr
    out2 := 0
    status := msErrorSuccess }

/-- A GIC read in one piece; with no mapping it does nothing. -/
theorem gicBarRead_eq (cur : Nat) (s : KState) :
    gicBarRead b mc cur s
      = if s.data.baseAddr = 0 then s
        else
          { data := s.data.slot (b.cpuIndex cur)
              (gicSlot mc cur (b.cpuIndex cur) (gicAddr s.data))
            gUndefFlag := s.gUndefFlag
            trace := s.trace ++
              [.slot (b.cpuIndex cur), .slot (b.cpuIndex cur),
                .readl cur (gicAddr s.data),
                .slot (b.cpuIndex cur)] } := by
  rw [gicBarRead]
  split
  · rfl
  · simp only [KState.slot, slot_slot, List.append_assoc, slot_baseAddr,
      slot_code]
    rfl

-- ================================================== reaching the cpus

/-- What becomes of a request on one cpu. -/
inductive Fate
  | untouched
  | down
  | failed
  | ran
deriving DecidableEq, Repr

/-- Can the cpu be reached? -/
def reach (b : Build) (mc : Machine) (c : Nat) : Fate :=
  if b.configSmp then
    if !mc.cpuOnline c && !mc.cpuUp c then .down
    else if !mc.smpCall c then .failed
    else .ran
  else .ran

/-- A slot's content by the fate of its cpu; `upd` is what the function
does where it ran. -/
def Fate.slot (upd : MsData → MsData) : Fate → MsData → MsData
  | .untouched, d => d
  | .down, d => { d with status := msErrorSmp }
  | .failed, d => { d with status := msErrorSmpSingle }
  | .ran, d => upd d

/-- `cpuOnlineWrapper` on a cpu in range, by the fate of the cpu. -/
theorem cpuOnlineWrapper_eq {fn : Nat → KState → KState} {c : Nat}
    (hc : c < msMaxCpus) (s : KState) :
    (cpuOnlineWrapper b mc fn c s).2
      = match reach b mc c with
        | .ran => fn (b.cpuIndex c) s
        | f => s.slot c (f.slot id) := by
  have hlt : ¬ msMaxCpus ≤ c := by omega
  rw [cpuOnlineWrapper, if_neg hlt, reach, Build.cpuIndex]
  cases b.configSmp
  · rfl
  · cases hup : !mc.cpuOnline c && !mc.cpuUp c
    · cases hcall : !mc.smpCall c
      · simp
      · simp
        rfl
    · simp
      rfl

/-- Out of range the wrapper stores the failure at the index anyway. -/
theorem cpuOnlineWrapper_out {fn : Nat → KState → KState} {c : Nat}
    (hc : msMaxCpus ≤ c) (s : KState) :
    cpuOnlineWrapper b mc fn c s
      = (-1, s.slot c fun d => { d with status := msErrorSmp }) := by
  rw [cpuOnlineWrapper, if_pos hc]

end Maplesyrup
