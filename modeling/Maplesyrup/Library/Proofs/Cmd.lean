/-
The two executors side by side, and the word the library makes of what
they store.

Both put a handler's words where its dispatch row says (`readWords`), so
they agree whatever the row is. The row need not fit its handler: a
double word stored through a pointer to a 32-bit variable loses its
upper half, on both sides.
-/
import Maplesyrup.Decode.Proofs.Hardware
import Maplesyrup.Library.Cmd

namespace Maplesyrup

open Base MsSysreg

-- ========================================================= the user's read

/-- What calling a table row's function pointer does at user level. -/
def tryEffect (t : Target) (reg : String → Option U64)
    (fn : Option Handler) : Effect :=
  match fn with
  | none => {}
  | some h => h.run t reg

/-- `tryCommand` in one piece: the zeroed variables after the call, the
call recorded, the flag up if it trapped. -/
theorem tryCommand_eq (t : Target) (reg : String → Option U64)
    (fn : Option Handler) (args : Args) (s : UState) :
    tryCommand t reg fn args s
      = ((tryEffect t reg fn).locals args,
          { gIllsig :=
              if (tryEffect t reg fn).trapped then 1 else s.gIllsig
            trace := s.trace ++ fn.toList }) := by
  cases fn with
  | none =>
      simp only [Option.toList_none, List.append_nil]
      cases args <;> rfl
  | some h => rfl

/-- A result after its read. -/
def userSlot (t : Target) (reg : String → Option U64)
    (e : FuncTableEntry) (gIllsig : U32) (d : MsData) : MsData :=
  let eff := tryEffect t reg e.funcPtr
  let w := readWords t e eff
  { d with
    cpu := 0
    midr := 0
    out64 := w.1
    out1 := w.2.1
    out2 := w.2.2
    status :=
      if e.supported then (illsigVerdict (raisedFlag eff gIllsig)).1
      else msErrorTable }

/-- The flag and the calls after a read. -/
def userState (t : Target) (reg : String → Option U64)
    (e : FuncTableEntry) (s : UState) : UState :=
  if e.supported then
    { gIllsig := (illsigVerdict
        (raisedFlag (tryEffect t reg e.funcPtr) s.gIllsig)).2
      trace := s.trace ++ e.funcPtr.toList }
  else s

/-- A user-mode read in one piece. -/
theorem Usermode.callFuncPtr_eq {t : Target} {reg : String → Option U64}
    {i : Nat} {e : FuncTableEntry} (he : funcTable[i]? = some e)
    (d : MsData) (s : UState) :
    Usermode.callFuncPtr t reg i d s
      = (0, userSlot t reg e s.gIllsig d, userState t reg e s) := by
  rw [Usermode.callFuncPtr, he]
  obtain ⟨code, fn, proto, size⟩ := e
  -- every supported row computes; the tags decide which case runs
  by_cases h1 : proto = functypeOut1
  · subst h1
    by_cases h32 : size = functypeBits32
    · subst h32
      simp only [tryCommand132, tryCommand_eq]
      rfl
    by_cases h64 : size = functypeBits64
    · subst h64
      simp only [tryCommand164, tryCommand_eq]
      rfl
    by_cases ha : size = functypeBitsArch
    · subst ha
      simp only [tryCommand132, tryCommand164, tryCommand_eq]
      cases t <;> rfl
    · have hs : FuncTableEntry.supported ⟨code, fn, functypeOut1, size⟩
          = false := by
        simp [FuncTableEntry.supported, h32, h64, ha, functypeOut1,
          functypeOut2]
      simp [h32, h64, ha, userSlot, userState, readWords, hs]
  · by_cases h2 : proto = functypeOut2
    · subst h2
      by_cases h32 : size = functypeBits32
      · subst h32
        simp only [tryCommand232, tryCommand_eq]
        rfl
      by_cases ha : size = functypeBitsArch
      · subst ha
        simp only [tryCommandArch02, tryCommand_eq]
        cases t <;> rfl
      · have hs : FuncTableEntry.supported ⟨code, fn, functypeOut2, size⟩
            = false := by
          simp [FuncTableEntry.supported, h32, ha, functypeOut1,
            functypeOut2]
        simp [h1, h32, ha, userSlot, userState, readWords, hs]
    · have hs : FuncTableEntry.supported ⟨code, fn, proto, size⟩
          = false := by
        simp [FuncTableEntry.supported, h1, h2]
      simp [h1, h2, userSlot, userState, readWords, hs]

-- ======================================================== what was written

/-- A stored value, as a number. -/
def Word.toNat : Word → Nat
  | .w32 w => w.toNat
  | .w64 v => v.toNat

/-- What a handler wrote, as a number: one word, or two with the second
on top. -/
def Effect.written (e : Effect) : Option Nat :=
  e.first.map fun w =>
    match e.second with
    | none => w.toNat
    | some hi => hi.toNat * 2 ^ 32 + w.toNat

/-- The library rebuilds the number from a slot, whatever it records with
it. -/
def MsData.Rebuilds (d : MsData) (v : Nat) : Prop :=
  ∀ (l : List IoctlResult) (registerUid cpu midr status epl : U32),
    ∃ x, breakoutAddIoctlResult .ok l registerUid d.out64 d.out1 d.out2
          cpu midr status epl = (0, l ++ [x], .ok)
      ∧ (valueToLong x.val64 x.low x.high).toNat = v

theorem MsData.rebuilds_iff {d : MsData} {v : Nat} :
    d.Rebuilds v ↔ (valueToLong d.out64 d.out1 d.out2).toNat = v := by
  constructor
  · intro h
    obtain ⟨x, hx, hv⟩ := h [] 0 0 0 0 0
    obtain rfl := List.head_eq_of_cons_eq (congrArg (·.2.1) hx)
    exact hv
  · intro h l registerUid cpu midr status epl
    exact ⟨_, rfl, h⟩

/-- The word the library makes of what a read by this row stores. -/
def rebuiltWord (t : Target) (e : FuncTableEntry) (eff : Effect) : U64 :=
  let w := readWords t e eff
  valueToLong w.1 w.2.1 w.2.2

/-- The row reads a word, and its handler stores a double word. -/
def FuncTableEntry.cuts (t : Target) (e : FuncTableEntry) : Bool :=
  e.funcPtr.any fun h =>
    match h.body t with
    | some (.asm01 _) => h.out.wide t && !e.wide t
    | _ => false

/-- The handlers fit their rows' prototypes, and the two rows that cut a
double word. -/
theorem funcTable_fits (t : Target) :
    ∀ e ∈ funcTable, e.funcPtr ≠ none →
      e.fitsHandler t = true
        ∧ (e.cuts t = true ↔ t = .aarch64 ∧ e.code ∈ [MMFR0, ACTLR]) := by
  cases t <;> decide +kernel

variable {t : Target} {reg : String → Option U64} {e : FuncTableEntry}

/-- A handler that wrote something ran its one instruction, and stored one
word or the two halves of a double word. -/
theorem Effect.written_cases {h : Handler} {n : Nat}
    (hn : n ∈ (h.run t reg).written) :
    (∃ instr v, h.body t = some (.asm01 instr)
        ∧ h.run t reg = { first := some (Word.ofValue (h.out.wide t) v) })
      ∨ ∃ (instr : String) (v : U64), h.body t = some (.asm02 instr)
        ∧ h.run t reg
          = { first := some (.w32 (v.setWidth 32))
              second := some ((v >>> 32).setWidth 32) } := by
  unfold Handler.run at hn ⊢
  cases hbody : h.body t with
  | none => simp [hbody, Effect.written] at hn
  | some asm =>
      cases asm with
      | asm01 instr =>
          cases hreg : reg instr with
          | none => simp [hbody, hreg, Effect.written] at hn
          | some v => exact Or.inl ⟨instr, v, rfl, by simp only [hreg]⟩
      | asm02 instr =>
          cases hreg : reg instr with
          | none => simp [hbody, hreg, Effect.written] at hn
          | some v => exact Or.inr ⟨instr, v, rfl, by simp only [hreg]⟩

/-- One word through the 64-bit variable arrives whole. -/
theorem valueToLong_into64 (w : Word) :
    (valueToLong (into64 0 (some w)) 0 0).toNat = w.toNat := by
  rw [valueToLong_wide]
  cases w with
  | w32 w =>
      have hzero : (0 : U64) >>> 32 <<< 32 = 0#64 := by decide
      show (((0 : U64) >>> 32 <<< 32) ||| w.setWidth 64).toNat = _
      rw [hzero, BitVec.zero_or, BitVec.toNat_setWidth]
      have hw := w.isLt
      exact Nat.mod_eq_of_lt (by omega)
  | w64 v => rfl

/-- Through a 32-bit variable it arrives modulo 2^32. -/
theorem valueToLong_into32 (w : Word) :
    (valueToLong 0 (into32 0 (some w)) 0).toNat = w.toNat % 2 ^ 32 := by
  rw [valueToLong_low, BitVec.toNat_setWidth]
  cases w with
  | w32 w =>
      have hw := w.isLt
      show w.toNat % 2 ^ 64 = w.toNat % 2 ^ 32
      omega
  | w64 v =>
      show (v.setWidth 32).toNat % 2 ^ 64 = v.toNat % 2 ^ 32
      rw [BitVec.toNat_setWidth]
      omega

/-- A double word's halves put together give its number. -/
theorem halves_toNat (v : U64) :
    ((v >>> 32).setWidth 32).toNat * 2 ^ 32 + (v.setWidth 32).toNat
      = v.toNat := by
  have hv := v.isLt
  rw [BitVec.toNat_setWidth, BitVec.toNat_setWidth,
    BitVec.toNat_ushiftRight, Nat.shiftRight_eq_div_pow]
  omega

/-- What a read by a dispatched handler wrote is rebuilt, unless it is a
double word in a row that reads a word. -/
theorem rebuilt_iff (he : e ∈ funcTable) {n : Nat}
    (hn : n ∈ (tryEffect t reg e.funcPtr).written) :
    (rebuiltWord t e (tryEffect t reg e.funcPtr)).toNat = n
      ↔ ¬ (e.cuts t = true ∧ 2 ^ 32 ≤ n) := by
  unfold rebuiltWord
  cases hfn : e.funcPtr with
  | none => simp [hfn, tryEffect, Effect.written] at hn
  | some h =>
      obtain ⟨hfit, -⟩ := funcTable_fits t e he (by simp [hfn])
      rw [FuncTableEntry.fitsHandler, Bool.and_eq_true] at hfit
      obtain ⟨hs, hfit⟩ := hfit
      rw [hfn] at hn
      simp only [tryEffect, hfn] at hfit hn ⊢
      rcases Effect.written_cases hn with
        ⟨_, v, hbody, hrun⟩ | ⟨_, v, hbody, hrun⟩ <;>
        simp only [hbody, hrun] at hfit hn ⊢
      · -- one store: does the variable have its width?
        have hval : (Word.ofValue (h.out.wide t) v).toNat = n :=
          Option.some.inj hn
        subst hval
        have hcuts : e.cuts t = (h.out.wide t && !e.wide t) := by
          simp [FuncTableEntry.cuts, hfn, hbody]
        rw [readWords_one hs rfl, hcuts]
        cases e.wide t with
        | true => simpa using valueToLong_into64 _
        | false =>
            simp only [Bool.false_eq_true, ↓reduceIte]
            rw [valueToLong_into32]
            cases hout : h.out.wide t with
            | true =>
                have hv := v.isLt
                show v.toNat % 2 ^ 32 = v.toNat ↔ _
                simp only [Bool.not_false, Bool.and_true, true_and]
                show _ ↔ ¬ 2 ^ 32 ≤ v.toNat
                omega
            | false =>
                have hv := (v.setWidth 32).isLt
                show (v.setWidth 32).toNat % 2 ^ 32
                  = (v.setWidth 32).toNat ↔ _
                simp only [Bool.false_and, Bool.false_eq_true, false_and,
                  not_false_eq_true, iff_true]
                omega
      · -- two stores: the halves meet again
        rw [Bool.and_eq_true, beq_iff_eq, Bool.not_eq_true'] at hfit
        obtain rfl := Option.some.inj hn
        have hcuts : e.cuts t = false := by
          simp [FuncTableEntry.cuts, hfn, hbody]
        rw [readWords, if_pos hs, hfit.2, if_pos hfit.1, hcuts]
        show (valueToLong 0 (v.setWidth 32)
          ((v >>> 32).setWidth 32)).toNat = _ ↔ _
        rw [valueToLong_halves]
        exact iff_of_true (halves_toNat v).symm (by simp)

-- ============================================================ the transport

/-- What the executors made of one read: the words are the same, and the
library rebuilds from either what the handler wrote. -/
structure WordsSurvive (eff : Effect) (kernel user : MsData) : Prop where
  out64 : kernel.out64 = user.out64
  out1 : kernel.out1 = user.out1
  out2 : kernel.out2 = user.out2
  rebuilt : ∀ n ∈ eff.written, kernel.Rebuilds n ∧ user.Rebuilds n

/-- A read of a dispatched register in either executor, on a slot with
anything in it: the words are the same, and survive unless the handler
writes a double word above the 32 bits its row reads. These are MMFR0's
and ACTLR's on AArch64. -/
theorem words_survive_iff (b : Build) (mc : Machine) (cur : Nat)
    {s : KState} {e : FuncTableEntry} {i : Fin msMaxCpus}
    (he : funcTable[s.data.foundIndex]? = some e)
    (hi : i.val = b.cpuIndex cur) (userout : MsDataCpu) (d : MsData)
    (u : UState) :
    WordsSurvive (callEffect b mc cur e.funcPtr)
        ((repackResultWrapper (callFuncPtr b mc cur s).data userout).cpu i)
        (Usermode.callFuncPtr b.target (mc.reg cur) s.data.foundIndex
          d u).2.1
      ↔ ¬ (b.target = .aarch64 ∧ e.code ∈ [MMFR0, ACTLR]
        ∧ ∃ n ∈ (callEffect b mc cur e.funcPtr).written,
            2 ^ 32 ≤ n) := by
  have hmem : e ∈ funcTable := List.mem_of_getElem? he
  rw [callFuncPtr_eq cur he, Usermode.callFuncPtr_eq he]
  have hkernel : ((repackResultWrapper
        (s.data.slot (b.cpuIndex cur) (ranSlot b mc cur (b.cpuIndex cur)
          e s.gUndefFlag)) userout).cpu i)
      = ranSlot b mc cur (b.cpuIndex cur) e s.gUndefFlag
          (s.data.results.cpu i) := by
    show (s.data.slot _ _).results.cpu i = _
    rw [slot_cpu, if_pos hi]
  rw [hkernel]
  have hword : ∀ n ∈ (callEffect b mc cur e.funcPtr).written,
      (rebuiltWord b.target e (callEffect b mc cur e.funcPtr)).toNat = n
        ↔ ¬ (e.cuts b.target = true ∧ 2 ^ 32 ≤ n) :=
    fun n hn => rebuilt_iff hmem hn
  constructor
  · rintro ⟨-, -, -, hrebuilt⟩ ⟨htarget, hcode, n, hn, hlarge⟩
    have hkept := (hword n hn).1 (MsData.rebuilds_iff.1 (hrebuilt n hn).1)
    have hfn : e.funcPtr ≠ none := by
      intro hfn
      simp [hfn, callEffect, Effect.written] at hn
    exact hkept
      ⟨(funcTable_fits _ e hmem hfn).2.2 ⟨htarget, hcode⟩, hlarge⟩
  · intro hkept
    refine ⟨rfl, rfl, rfl, fun n hn => ?_⟩
    have hfn : e.funcPtr ≠ none := by
      intro hfn
      simp [hfn, callEffect, Effect.written] at hn
    have hrebuilt := (hword n hn).2 fun hcut =>
      hkept ⟨((funcTable_fits _ e hmem hfn).2.1 hcut.1).1,
        ((funcTable_fits _ e hmem hfn).2.1 hcut.1).2, n, hn, hcut.2⟩
    exact ⟨MsData.rebuilds_iff.2 hrebuilt, MsData.rebuilds_iff.2 hrebuilt⟩

/-- A request of the kernel's for the register at an index. -/
def indexRequest (foundIndex : Nat) : KState :=
  ⟨{ foundIndex := foundIndex }, 0, []⟩

/-- ACTLR's row reads a word on AArch64, where its handler stores a
double word: bit 32 does not arrive. -/
theorem words_survive_fails :
    ¬ ∀ (b : Build) (mc : Machine) (cur : Nat) (s : KState)
        (e : FuncTableEntry) (i : Fin msMaxCpus) (userout : MsDataCpu)
        (d : MsData) (u : UState),
        funcTable[s.data.foundIndex]? = some e →
        i.val = b.cpuIndex cur →
        WordsSurvive (callEffect b mc cur e.funcPtr)
          ((repackResultWrapper (callFuncPtr b mc cur s).data
            userout).cpu i)
          (Usermode.callFuncPtr b.target (mc.reg cur) s.data.foundIndex
            d u).2.1 := by
  intro h
  have hkept := (h ⟨.aarch64, true⟩ (steadyMachine 0x100000000) 0
    (indexRequest 97) ⟨ACTLR, some doACTLRRead, functypeOut1,
      functypeBits32⟩ ⟨0, by decide⟩ {} {} {} (by decide +kernel)
      rfl).rebuilt 0x100000000 (by decide +kernel)
  exact absurd (MsData.rebuilds_iff.1 hkept.1) (by decide +kernel)

theorem words_survive_iff_mpidr :
    WordsSurvive
        (callEffect ⟨.aarch64, true⟩ (steadyMachine 0x100000000) 0
          (some doMPIDRRead))
        ((repackResultWrapper
          (callFuncPtr ⟨.aarch64, true⟩ (steadyMachine 0x100000000) 0
            (indexRequest 4)).data {}).cpu ⟨0, by decide⟩)
        (Usermode.callFuncPtr .aarch64
          ((steadyMachine 0x100000000).reg 0) 4 {} {}).2.1
      ↔ ¬ (Target.aarch64 = .aarch64 ∧ MPIDR ∈ [MMFR0, ACTLR]
        ∧ ∃ n ∈ (callEffect ⟨.aarch64, true⟩ (steadyMachine 0x100000000)
            0 (some doMPIDRRead)).written, 2 ^ 32 ≤ n) :=
  words_survive_iff ⟨.aarch64, true⟩ (steadyMachine 0x100000000) 0
    (s := indexRequest 4)
    (e := ⟨MPIDR, some doMPIDRRead, functypeOut1, functypeBitsArch⟩)
    (i := ⟨0, by decide⟩) (by decide +kernel) rfl {} {} {}

end Maplesyrup
