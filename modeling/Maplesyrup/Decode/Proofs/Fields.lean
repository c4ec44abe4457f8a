/-
Do the rows of a register cut its word into fields?

Each row should stay within the 64 bits of a word, and no two rows of a
register should share a bit; then the fields read out and put back give
the word, restricted to the bits the rows cover. The shipped tables are
so but for seven registers. The check of the tables is one pass over
numbers, the bits of a row moved to a place of its register's own.
-/
import Maplesyrup.Base.Fields
import Maplesyrup.Decode.Heap
import Maplesyrup.Decode.Mask

namespace Maplesyrup

open Base

-- =========================================================== the statement

/-- The bits a row takes of its register. -/
def BitfieldInfo.bits (row : BitfieldInfo) : Field :=
  ⟨row.rightshift.toNat, row.mask.toNat⟩

/-- The rows of a register. -/
def BitfieldTableEntry.rowsOf (t : BitfieldTableEntry)
    (registerUid : U32) : List BitfieldInfo :=
  t.tablePtr.filter fun row => row.registerUid == registerUid

/-- The rows cut a word into fields: none runs out of the word, no two
share a bit, and put back at their places the fields are the word
restricted to the rows. -/
structure CutsWord (rows : List BitfieldInfo) : Prop where
  fits : ∀ row ∈ rows, row.rightshift.toNat + row.mask.toNat ≤ 64
  apart : rows.Pairwise fun row row' => row.bits.Apart row'.bits
  exact : ∀ v : U64,
    (rows.map fun row =>
        (breakoutApplymask v row.rightshift row.mask).toNat
          * 2 ^ row.rightshift.toNat).sum
      = restrict (rows.map BitfieldInfo.bits) v.toNat

/-- The registers whose rows do not, by table and register. -/
def misfits : List (U32 × U32) := [
  (archArmv7a, MsSysreg.CONTEXTIDR), (archArmv8a, MsSysreg.CONTEXTIDR),
  (archArmv8a, MsSysreg.MMFR4), (implCortexA15, MsSysreg.CPUMERRSR),
  (implCortexA15, MsSysreg.L2MERRSR), (implCortexA53, MsSysreg.CBAR),
  (implCortexA57, MsSysreg.CBAR)]

-- =========================================================== from the rows

/-- The field a row reads. -/
theorem breakoutApplymask_read (v : U64) {row : BitfieldInfo}
    (h : row.mask.toNat ≤ 64) :
    (breakoutApplymask v row.rightshift row.mask).toNat
      = row.bits.read v.toNat :=
  breakoutApplymask_toNat v row.rightshift h

/-- Rows that fit and are apart cut the word. -/
theorem CutsWord.of_apart {rows : List BitfieldInfo}
    (hfits : ∀ row ∈ rows, row.rightshift.toNat + row.mask.toNat ≤ 64)
    (hapart : rows.Pairwise fun row row' => row.bits.Apart row'.bits) :
    CutsWord rows where
  fits := hfits
  apart := hapart
  exact := by
    intro v
    have hread : rows.map (fun row =>
        (breakoutApplymask v row.rightshift row.mask).toNat
          * 2 ^ row.rightshift.toNat)
        = (rows.map BitfieldInfo.bits).map fun f =>
          f.read v.toNat * 2 ^ f.lo := by
      rw [List.map_map]
      refine List.map_congr_left fun row hrow => ?_
      have hmask : row.mask.toNat ≤ 64 :=
        (Nat.le_add_left ..).trans (hfits row hrow)
      rw [breakoutApplymask_read v hmask]
      rfl
    rw [hread]
    exact sum_placed (List.pairwise_map.2 hapart) v.toNat

/-- Bit by bit: what some row has is reported once, what none has not at
all. -/
theorem CutsWord.reported {rows : List BitfieldInfo} (h : CutsWord rows)
    (v : U64) (n : Nat) :
    (rows.map fun row : BitfieldInfo =>
        (breakoutApplymask v row.rightshift row.mask).toNat
          * 2 ^ row.rightshift.toNat).sum.testBit n
      = (v.getLsbD n && rows.any fun row => decide (row.bits.Has n)) := by
  rw [h.exact, testBit_restrict, List.any_map]
  rfl

-- ============================================================== the tables

/-- The bits of a row, at a place of its register's own. -/
def BitfieldInfo.place (row : BitfieldInfo) : Nat :=
  row.bits.bits <<< (64 * row.registerUid.toNat)

theorem BitfieldInfo.apart_of_place {row row' : BitfieldInfo}
    (hreg : row.registerUid = row'.registerUid)
    (h : row.place &&& row'.place = 0) : row.bits.Apart row'.bits := by
  apply Field.apart_of_and
  rw [place, place, hreg, ← Nat.shiftLeft_and_distrib,
    Nat.shiftLeft_eq] at h
  rcases Nat.mul_eq_zero.1 h with h | h
  · exact h
  · exact absurd h (Nat.two_pow_pos _).ne'

/-- The rows of the registers that are no misfits. -/
def BitfieldTableEntry.fitting (t : BitfieldTableEntry) :
    List BitfieldInfo :=
  t.tablePtr.filter fun row =>
    !misfits.contains (t.partNumber, row.registerUid)

theorem BitfieldTableEntry.rowsOf_fitting {t : BitfieldTableEntry}
    {registerUid : U32} (h : (t.partNumber, registerUid) ∉ misfits) :
    t.rowsOf registerUid
      = t.fitting.filter fun row => row.registerUid == registerUid := by
  unfold rowsOf fitting
  rw [List.filter_filter]
  refine List.filter_congr fun row _ => ?_
  cases hreg : row.registerUid == registerUid with
  | false => rfl
  | true =>
      rw [beq_iff_eq.1 hreg, Bool.true_and, eq_comm, Bool.not_eq_true',
        ← Bool.not_eq_true, List.contains_iff_mem]
      exact h

/-- The shipped rows fit, and those of one register are apart. -/
theorem fitting_checked : ∀ t ∈ bitfieldTable,
    (t.fitting.all fun row =>
        decide (row.rightshift.toNat + row.mask.toNat ≤ 64)) = true
      ∧ unshared 0 (t.fitting.map BitfieldInfo.place) = true := by
  decide +kernel

/-- Two rows of every misfit share a bit. -/
theorem misfits_checked : ∀ t ∈ bitfieldTable,
    (misfits.all fun m => t.partNumber != m.1
      || !decide ((t.rowsOf m.2).Pairwise fun row row' =>
        row.bits.bits &&& row'.bits.bits = 0)) = true := by
  decide +kernel

theorem rowsOf_cutsWord {t : BitfieldTableEntry} (ht : t ∈ bitfieldTable)
    {registerUid : U32} (h : (t.partNumber, registerUid) ∉ misfits) :
    CutsWord (t.rowsOf registerUid) := by
  obtain ⟨hfits, hshare⟩ := fitting_checked t ht
  have hplace := List.pairwise_map.1 (unshared_sound hshare).1
  rw [BitfieldTableEntry.rowsOf_fitting h]
  refine .of_apart (fun row hrow => ?_) ?_
  · have hrow' := (List.mem_filter.1 hrow).1
    exact of_decide_eq_true (List.all_eq_true.1 hfits row hrow')
  · refine (hplace.filter _).imp_of_mem fun hrow hrow' hand => ?_
    have hreg := beq_iff_eq.1 (List.mem_filter.1 hrow).2
    have hreg' := beq_iff_eq.1 (List.mem_filter.1 hrow').2
    exact BitfieldInfo.apart_of_place (hreg.trans hreg'.symm) hand

/-- The rows of a register of a shipped table cut its word into fields if
and only if the register is none of the seven. -/
theorem fields_cut_word_iff : ∀ t ∈ bitfieldTable, ∀ registerUid : U32,
    CutsWord (t.rowsOf registerUid)
      ↔ (t.partNumber, registerUid) ∉ misfits := by
  intro t ht registerUid
  refine ⟨fun hcut hmem => ?_, rowsOf_cutsWord ht⟩
  have hapart := hcut.apart.imp fun hrow => Field.and_of_apart hrow
  have hchecked := List.all_eq_true.1 (misfits_checked t ht) _ hmem
  simp [hapart] at hchecked

theorem fields_cut_word_iff_pmcr :
    CutsWord (BitfieldTableEntry.rowsOf
        ⟨.arch, archArmv7a, bitfieldArmv7aTable⟩ MsSysreg.PMCR)
      ↔ (archArmv7a, MsSysreg.PMCR) ∉ misfits :=
  fields_cut_word_iff _ (by simp [bitfieldTable]) MsSysreg.PMCR

/-- The eight rows of MMFR4 all read its low four bits: they report the
lowest bit of a word eight times. -/
theorem fields_cut_word_fails : ¬ ∀ t ∈ bitfieldTable,
    ∀ registerUid : U32, CutsWord (t.rowsOf registerUid) := by
  intro hall
  have hmem : ⟨.arch, archArmv8a, bitfieldArmv8aTable⟩ ∈ bitfieldTable := by
    simp [bitfieldTable]
  have hsum := (hall _ hmem MsSysreg.MMFR4).exact 1
  revert hsum
  decide +kernel

end Maplesyrup
