/-
Are the reported bits the hardware's bits? From the value a register
holds on a cpu, through its handler and the executor's variables, to the
word `value_to_long` rebuilds from the slot.

# Kept bits

A read keeps the low 64, the low 32 or none of the register's bits
(`keptBits`), by its handler's body and parameter type and by the size
its dispatch row gives. A decode row is reported right when every bit of
its field that the register has is kept.
-/
import Maplesyrup.Decode.Mask
import Maplesyrup.Decode.Proofs.Driver

namespace Maplesyrup

open Base MsSysreg

-- ============================================================ what is kept

/-- The instruction a handler issues. -/
def Handler.instruction (t : Target) (h : Handler) : Option String :=
  match h.body t with
  | none => none
  | some (.asm01 i) => some i
  | some (.asm02 i) => some i

/-- How many of the register's low bits a read by this row keeps. -/
def keptBits (t : Target) (e : FuncTableEntry) : Nat :=
  match e.funcPtr with
  | none => 0
  | some h =>
      match h.body t with
      | none => 0
      | some (.asm01 _) => if h.out.wide t && e.wide t then 64 else 32
      | some (.asm02 _) => 64

/-- The row has a case in the executors, and hands a handler that gives
two words the addresses of two. -/
def FuncTableEntry.fitsHandler (t : Target) (e : FuncTableEntry) :
    Bool :=
  e.supported && match e.funcPtr with
    | none => false
    | some h =>
        match h.body t with
        | some (.asm02 _) =>
            e.functionPrototype == functypeOut2 && !e.wide t
        | _ => true

/-- What a handler run does when its instruction delivers `v`. -/
theorem Handler.run_cases {t : Target} {reg : String → Option U64}
    {h : Handler} {v : U64}
    (hreg : ∀ instr ∈ h.instruction t, reg instr = some v) :
    (h.body t = none ∧ h.run t reg = {})
      ∨ (∃ instr, h.body t = some (.asm01 instr)
        ∧ h.run t reg
          = { first := some (Word.ofValue (h.out.wide t) v) })
      ∨ (∃ instr, h.body t = some (.asm02 instr)
        ∧ h.run t reg
          = { first := some (.w32 (v.setWidth 32))
              second := some ((v >>> 32).setWidth 32) }) := by
  unfold Handler.instruction at hreg
  unfold Handler.run
  cases hbody : h.body t with
  | none => exact Or.inl ⟨rfl, rfl⟩
  | some asm =>
      rw [hbody] at hreg
      cases asm with
      | asm01 instr =>
          have hread : reg instr = some v := hreg instr rfl
          exact Or.inr (Or.inl ⟨instr, rfl, by simp only [hread]⟩)
      | asm02 instr =>
          have hread : reg instr = some v := hreg instr rfl
          exact Or.inr (Or.inr ⟨instr, rfl, by simp only [hread]⟩)

/-- On cpu `i` the register the row's handler reads holds `v`, and can be
read. -/
def ReadsAs (b : Build) (mc : Machine) (i : Nat) (e : FuncTableEntry)
    (v : U64) : Prop :=
  ∀ h ∈ e.funcPtr, ∀ instr ∈ h.instruction b.target,
    mc.reg i instr = some v

variable {b : Build} {mc : Machine} {e : FuncTableEntry} {v : U64}

/-- A readable register does not trap. -/
theorem ReadsAs.not_trapped {i : Nat} (hv : ReadsAs b mc i e v) :
    (callEffect b mc i e.funcPtr).trapped = false := by
  unfold callEffect
  cases hfn : e.funcPtr with
  | none => rfl
  | some h =>
      show (h.run b.target (mc.reg i)).trapped = false
      rcases Handler.run_cases (hv h hfn) with
        ⟨-, hrun⟩ | ⟨_, -, hrun⟩ | ⟨_, -, hrun⟩ <;> rw [hrun]

/-- The words of a read that stored nothing through a second pointer. -/
theorem readWords_one {t : Target} {eff : Effect}
    (hs : e.supported = true) (h2 : eff.second = none) :
    readWords t e eff
      = (if e.wide t then into64 0 eff.first else 0,
          if e.wide t then 0 else into32 0 eff.first, 0) := by
  rw [readWords, if_pos hs, h2, Option.getD_none, ite_self]

/-- A value stored through one pointer, rebuilt. -/
theorem rebuilt_one (n : Nat) (wide out : Bool) :
    (valueToLong
        (if wide then into64 0 (some (Word.ofValue out v)) else 0)
        (if wide then 0 else into32 0 (some (Word.ofValue out v)))
        0).getLsbD n
      = (decide (n < if out && wide then 64 else 32) && v.getLsbD n) := by
  have hlow : ((v.setWidth 32).setWidth 64).getLsbD n
      = (decide (n < 32) && v.getLsbD n) :=
    getLsbD_setWidth_setWidth (by omega) n
  cases wide with
  | false =>
      have hcut : ∀ out, into32 0 (some (Word.ofValue out v))
          = v.setWidth 32 := fun out => by cases out <;> rfl
      show (valueToLong 0 (into32 0 (some (Word.ofValue out v)))
        0).getLsbD n = _
      rw [hcut, valueToLong_low, hlow, Bool.and_false]
      rfl
  | true =>
      show (valueToLong (into64 0 (some (Word.ofValue out v)))
        0 0).getLsbD n = _
      rw [valueToLong_wide]
      cases out with
      | false =>
          have hzero : (0 : U64) >>> 32 <<< 32 = 0#64 := by decide
          show (((0 : U64) >>> 32 <<< 32) ||| (v.setWidth 32).setWidth
            64).getLsbD n = _
          rw [hzero, BitVec.zero_or]
          exact hlow
      | true => exact getLsbD_below v n

/-- The word rebuilt from a read is the register's value, cut to the bits
the read keeps. -/
theorem rebuilt_getLsbD {i : Nat} (hfit : e.fitsHandler b.target = true)
    (hv : ReadsAs b mc i e v) (n : Nat) :
    (let w := readWords b.target e (callEffect b mc i e.funcPtr)
     valueToLong w.1 w.2.1 w.2.2).getLsbD n
      = (decide (n < keptBits b.target e) && v.getLsbD n) := by
  rw [FuncTableEntry.fitsHandler, Bool.and_eq_true] at hfit
  obtain ⟨hs, hfit⟩ := hfit
  unfold keptBits callEffect
  cases hfn : e.funcPtr with
  | none =>
      rw [hfn] at hfit
      exact Bool.noConfusion hfit
  | some h =>
      simp only [hfn] at hfit
      rcases Handler.run_cases (hv h hfn) with
        ⟨hbody, hrun⟩ | ⟨_, hbody, hrun⟩ | ⟨_, hbody, hrun⟩ <;>
        simp only [hbody, hrun] at hfit ⊢
      · -- no instruction: the zeroed variables come back
        rw [readWords_one hs rfl]
        have hzero : (valueToLong 0 0 0).getLsbD n = false := by
          rw [valueToLong_wide]
          exact BitVec.getLsbD_zero
        simp only [into32, into64, ite_self]
        rw [hzero]
        simp
      · rw [readWords_one hs rfl]
        exact rebuilt_one n _ _
      · rw [Bool.and_eq_true, beq_iff_eq, Bool.not_eq_true'] at hfit
        rw [readWords, if_pos hs, hfit.2, if_pos hfit.1]
        show (valueToLong 0 (v.setWidth 32)
          ((v >>> 32).setWidth 32)).getLsbD n = _
        rw [valueToLong_halves]
        exact getLsbD_below v n

-- ========================================================= one decode row

/-- Bits of the register behind a dispatch row: 64 on AArch64; on AArch32
32, unless it is read into two words or a 64-bit one. -/
def registerWidth (t : Target) (e : FuncTableEntry) : Nat :=
  match t with
  | .aarch64 => 64
  | .aarch32 =>
      if e.functionPrototype = functypeOut2 ∨ e.dataSize = functypeBits64
      then 64 else 32

/-- `w` has `v`'s bits in the row's field, below bit `width`. -/
def FieldAgrees (row : BitfieldInfo) (width : Nat) (w v : U64) : Prop :=
  ∀ n, row.rightshift.toNat ≤ n →
    n < row.rightshift.toNat + row.mask.toNat → n < width →
    w.getLsbD n = v.getLsbD n

/-- A decode row reports the hardware's bits: its register is in the
dispatch table, and whenever the kernel serves a request for it, the slot
of each cpu it ran on without a trap shows success and the register's
bits in the row's field. -/
def ReportsHardware (b : Build) (row : BitfieldInfo) : Prop :=
  ∃ index e, findFunctionIndex row.registerUid = some index
    ∧ funcTable[index]? = some e
    ∧ ∀ (mc : Machine) (g : KGlobals) (u : MsDataCpu)
        (i : Fin msMaxCpus) (v : U64),
        u.code = row.registerUid → Served mc .co u →
        fate b mc u.pcpu i = .ran → ReadsAs b mc i e v →
        let d := (msIoctl b mc g msIoctlCo u).buffer.cpu i
        d.status = msErrorSuccess
          ∧ FieldAgrees row (registerWidth b.target e)
              (valueToLong d.out64 d.out1 d.out2) v

/-- End of the row's field in a register read by `e`. -/
def fieldEnd (t : Target) (row : BitfieldInfo) (e : FuncTableEntry) :
    Nat :=
  min (row.rightshift.toNat + row.mask.toNat) (registerWidth t e)

/-- A machine whose instructions all deliver `v`. -/
def steadyMachine (v : U64) : Machine where
  copyFromUser := true
  copyToUser := true
  cpuOnline _ := true
  cpuUp _ := true
  smpCall _ := true
  midr _ := 0x410FD030
  reg _ _ := some v
  readl _ _ := 0

/-- A request for the row's register on the first cpu. -/
def firstCpuRequest (row : BitfieldInfo) : MsDataCpu :=
  { code := row.registerUid }

theorem registerWidth_le (t : Target) (e : FuncTableEntry) :
    registerWidth t e ≤ 64 := by
  unfold registerWidth
  split
  · exact le_refl _
  · split <;> decide

/-- The slot of a cpu a register request ran on without a trap: success,
and the bits the read keeps. -/
theorem msIoctl_ranSlot {g : KGlobals} {u : MsDataCpu}
    {i : Fin msMaxCpus} (he : rowOf u.code = some e)
    (hfit : e.fitsHandler b.target = true) (hserved : Served mc .co u)
    (hran : fate b mc u.pcpu i = .ran) (hread : ReadsAs b mc i e v) :
    let d := (msIoctl b mc g msIoctlCo u).buffer.cpu i
    d.status = msErrorSuccess
      ∧ ∀ n, (valueToLong d.out64 d.out1 d.out2).getLsbD n
        = (decide (n < keptBits b.target e) && v.getLsbD n) := by
  have hslot : (msIoctl b mc g msIoctlCo u).buffer.cpu i
      = ranSlot b mc i (b.cpuIndex i) e 0 (u.cpu i) := by
    have hbuf := (msIoctl_slots b mc g .co u).2.2
    show (msIoctl b mc g MsCmd.co.ioctl u).buffer.cpu i = _
    rw [hbuf]
    show replySlot b mc g.gicMap .co u i (u.cpu i) = _
    rw [replySlot, if_pos hserved, hran]
    show cmdSlot b mc g.gicMap .co u i (u.cpu i) = _
    rw [cmdSlot, he]
  rw [hslot]
  refine ⟨?_, rebuilt_getLsbD hfit hread⟩
  have hs : e.supported = true := by
    rw [FuncTableEntry.fitsHandler, Bool.and_eq_true] at hfit
    exact hfit.1
  rw [ranSlot_status, if_pos hs, hread.not_trapped]
  rfl

/-- The request for the row's register on the first cpu runs there. -/
theorem firstCpuRequest_runs {row : BitfieldInfo} {i : Fin msMaxCpus}
    (hi : i.val = 0) (he : rowOf row.registerUid = some e) (v : U64) :
    Served (steadyMachine v) .co (firstCpuRequest row)
      ∧ fate b (steadyMachine v) (firstCpuRequest row).pcpu i = .ran := by
  obtain ⟨index, hidx, -⟩ := findFunctionIndex_rowOf he
  have hcode : ∃ e ∈ funcTable, e.code = row.registerUid :=
    (findFunctionIndex_isSome _).1 (by rw [hidx]; rfl)
  have hrange : InRange (firstCpuRequest row).pcpu :=
    show InRange 0 by decide
  refine ⟨⟨rfl, rfl, hcode, hrange⟩, ?_⟩
  obtain ⟨t, smp⟩ := b
  rw [hi]
  cases smp <;> rfl

/-- A row whose register is dispatched is reported right exactly when the
read keeps the bits of its field. -/
theorem reportsHardware_iff {row : BitfieldInfo}
    (he : rowOf row.registerUid = some e)
    (hfit : e.fitsHandler b.target = true)
    (hfield : row.rightshift.toNat < fieldEnd b.target row e) :
    ReportsHardware b row
      ↔ fieldEnd b.target row e ≤ keptBits b.target e := by
  obtain ⟨index, hidx, htable⟩ := findFunctionIndex_rowOf he
  have hend : fieldEnd b.target row e
        ≤ row.rightshift.toNat + row.mask.toNat
      ∧ fieldEnd b.target row e ≤ registerWidth b.target e :=
    ⟨min_le_left _ _, min_le_right _ _⟩
  constructor
  · intro h
    obtain ⟨index', e', hidx', htable', hall⟩ := h
    rw [hidx] at hidx'
    obtain rfl := Option.some.inj hidx'
    rw [htable] at htable'
    obtain rfl := Option.some.inj htable'
    -- with all bits set in the register the field's last one is lost
    by_contra hlost
    have hmax : 0 < msMaxCpus := by decide
    obtain ⟨hserved, hran⟩ := firstCpuRequest_runs (b := b)
      (i := ⟨0, hmax⟩) rfl he (BitVec.allOnes 64)
    have hread : ReadsAs b (steadyMachine (BitVec.allOnes 64)) 0 e
        (BitVec.allOnes 64) := fun _ _ _ _ => rfl
    have hagrees := (hall _ {} _ _ _ rfl hserved hran hread).2
      (fieldEnd b.target row e - 1) (by omega) (by omega) (by omega)
    rw [(msIoctl_ranSlot he hfit hserved hran hread).2] at hagrees
    have hwidth := registerWidth_le b.target e
    have hkept : ¬ fieldEnd b.target row e - 1 < keptBits b.target e := by
      omega
    have h64 : fieldEnd b.target row e - 1 < 64 := by omega
    rw [BitVec.getLsbD_allOnes] at hagrees
    simp [hkept, h64] at hagrees
  · intro hkept
    refine ⟨index, e, hidx, htable, fun mc g u i v hcode hserved hran
      hread => ?_⟩
    obtain ⟨hstatus, hbits⟩ :=
      msIoctl_ranSlot (g := g) (hcode ▸ he) hfit hserved hran hread
    refine ⟨hstatus, fun n _ hmask hwidth => ?_⟩
    have hn : n < keptBits b.target e :=
      (lt_min hmask hwidth).trans_le hkept
    rw [hbits, decide_eq_true hn, Bool.true_and]

-- ============================================================ the tables

/-- The decode tables of a build. -/
def decodeTables : Target → List (List BitfieldInfo)
  | .aarch32 =>
      [bitfieldArmv7aTable, bitfieldCortexA7Table, bitfieldCortexA15Table]
  | .aarch64 =>
      [bitfieldArmv8aTable, bitfieldCortexA53Table, bitfieldCortexA57Table]

/-- The row is read at non-secure level 0 or 1. -/
def BitfieldInfo.nonSecure (row : BitfieldInfo) : Prop :=
  row.ppl &&& (nsPrivilegeLevel0 ||| nsPrivilegeLevel1) ≠ 0

instance (row : BitfieldInfo) : Decidable row.nonSecure :=
  inferInstanceAs (Decidable (¬ _))

/-- Registers AArch64 builds do not read: the dispatch table has no row
for MMFR4, and the handlers of the others have no body there. -/
def unreadRegisters : List U32 :=
  [MMFR4, TLBTR, TCMTR, FPSID, FPSCR, FPEXC, DBGDIDR, TEECR, TEEHBR]

/-- Registers they read only 32 bits of: the handlers of MPIDR and RVBAR
store a word, ACTLR's double word goes into a 32-bit variable. -/
def cutRegisters : List U32 := [MPIDR, ACTLR, RVBAR]

/-- The field is one of an unread register, or reaches into the upper
half of a cut one. -/
def BitfieldInfo.lost (t : Target) (row : BitfieldInfo) : Prop :=
  t = .aarch64
    ∧ (row.registerUid ∈ unreadRegisters
      ∨ row.registerUid ∈ cutRegisters
        ∧ 32 < row.rightshift.toNat + row.mask.toNat)

instance (t : Target) (row : BitfieldInfo) : Decidable (row.lost t) :=
  inferInstanceAs (Decidable (_ ∧ _))

/-- What the dispatch table holds for a decode row: a row whose handler
fits and which keeps the field unless it is lost, or nothing for a lost
one. -/
def dispatched (t : Target) (row : BitfieldInfo) : Prop :=
  match rowOf row.registerUid with
  | none => row.lost t
  | some e =>
      e.fitsHandler t = true
        ∧ row.rightshift.toNat < fieldEnd t row e
        ∧ (fieldEnd t row e ≤ keptBits t e ↔ ¬ row.lost t)

instance (t : Target) (row : BitfieldInfo) :
    Decidable (dispatched t row) :=
  match h : rowOf row.registerUid with
  | none => decidable_of_iff (row.lost t) (by rw [dispatched, h])
  | some e =>
      decidable_of_iff (e.fitsHandler t = true
          ∧ row.rightshift.toNat < fieldEnd t row e
          ∧ (fieldEnd t row e ≤ keptBits t e ↔ ¬ row.lost t))
        (by rw [dispatched, h])

/-- Every row of the decode tables, looked up. -/
theorem tables_dispatched (t : Target) :
    ∀ table ∈ decodeTables t, ∀ row ∈ table, row.nonSecure →
      dispatched t row := by
  cases t <;> decide +kernel

/-- The decode rows that report the hardware's bits are the ones whose
field is not lost. -/
theorem reports_hardware_iff (b : Build) {table : List BitfieldInfo}
    {row : BitfieldInfo} (htable : table ∈ decodeTables b.target)
    (hrow : row ∈ table) (hpl : row.nonSecure) :
    ReportsHardware b row ↔ ¬ row.lost b.target := by
  have hdisp := tables_dispatched b.target table htable row hrow hpl
  unfold dispatched at hdisp
  cases he : rowOf row.registerUid with
  | none =>
      rw [he] at hdisp
      refine iff_of_false (fun h => ?_) (not_not_intro hdisp)
      obtain ⟨index, e, hidx, htab, -⟩ := h
      have hsome := (findFunctionIndex_find hidx).trans htab
      rw [rowOf, hsome] at he
      exact absurd he (by simp)
  | some e =>
      rw [he] at hdisp
      obtain ⟨hfit, hfield, hkept⟩ := hdisp
      exact (reportsHardware_iff he hfit hfield).trans hkept

/-- The two ends of MPIDR in the ARMv8-A table. -/
def aff0Row : BitfieldInfo :=
  ⟨1, 0, MPIDR, nsPrivilegeLevel1, 0, 8, "Aff0", "ident", "MPIDR",
    "Affinity level 0"⟩

def aff3Row : BitfieldInfo :=
  ⟨1, 7, MPIDR, nsPrivilegeLevel1, 32, 8, "Aff3", "ident", "MPIDR",
    "Affinity level 3"⟩

/-- MPIDR's dispatch row asks for a double word, but its handler stores a
word: affinity level 3 reads 0 where it is 1. -/
theorem reports_hardware_fails :
    ¬ ∀ (b : Build), ∀ table ∈ decodeTables b.target, ∀ row ∈ table,
        row.nonSecure → ReportsHardware b row := by
  intro h
  obtain ⟨index, e, hidx, htable, hall⟩ := h ⟨.aarch64, true⟩
    bitfieldArmv8aTable (List.mem_cons_self ..) aff3Row
    (by decide +kernel) (by decide)
  have hagrees := (hall (steadyMachine 0x100000000) {}
    (firstCpuRequest aff3Row) ⟨0, by decide⟩ 0x100000000 rfl
    (by decide +kernel) rfl (fun _ _ _ _ => rfl)).2 32
  have hbit := hagrees (by decide) (by decide) (show 32 < 64 by omega)
  exact absurd hbit (by decide +kernel)

theorem reports_hardware_iff_aff0 :
    ReportsHardware ⟨.aarch64, true⟩ aff0Row
      ↔ ¬ aff0Row.lost .aarch64 :=
  reports_hardware_iff ⟨.aarch64, true⟩
    (List.mem_cons_self (a := bitfieldArmv8aTable))
    (by decide +kernel) (by decide)

end Maplesyrup
