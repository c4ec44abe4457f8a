/-
The heap table of the shipped rows is one that decoding can rely on, with
or without the devices. Texts are measured in bytes, which are quicker to
count; they are no fewer than the characters.
-/
import Maplesyrup.Decode.Proofs.Driver
import Maplesyrup.Decode.Proofs.Join
import Maplesyrup.Frontend.Proofs.All
import Maplesyrup.Library.Proofs.Expand
import Maplesyrup.Library.Proofs.Request

namespace Maplesyrup

open Base

-- ================================================================ the rows

theorem length_le_utf8ByteSize (s : String) : s.length ≤ s.utf8ByteSize := by
  have hchars : ∀ cs : List Char, cs.length ≤ String.utf8Len cs := by
    intro cs
    induction cs with
    | nil => exact Nat.le_refl _
    | cons c cs ih =>
        have hc := Char.utf8Size_pos c
        rw [List.length_cons, String.utf8Len_cons]
        omega
  rw [← String.utf8Len_toList]
  exact hchars s.toList

/-- The texts of the shipped rows are shorter than their copies, the
shifts and masks those of a word. -/
structure RowOk (row : BitfieldInfo) : Prop where
  rightshift : row.rightshift.toNat < 64
  mask : row.mask.toNat ≤ 64
  bitfield : row.bitfield.utf8ByteSize < parseMaxBitfield
  description : row.description.utf8ByteSize < parseMaxDescription

/-- The descriptions of the rows are shorter than their copies. -/
def DescriptionsFit (rows : List BitfieldInfo) : Prop :=
  ∀ row ∈ rows, row.description.utf8ByteSize < parseMaxDescription

instance (rows : List BitfieldInfo) : Decidable (DescriptionsFit rows) :=
  inferInstanceAs (Decidable (∀ row ∈ rows, _))

theorem DescriptionsFit.cut (n : Nat) {rows : List BitfieldInfo}
    (hfirst : DescriptionsFit (rows.take n))
    (hrest : DescriptionsFit (rows.drop n)) : DescriptionsFit rows := by
  intro row hrow
  rw [← List.take_append_drop n rows] at hrow
  rcases List.mem_append.1 hrow with hrow | hrow
  · exact hfirst row hrow
  · exact hrest row hrow

def shippedRows : List BitfieldInfo :=
  bitfieldTable.flatMap fun t => t.tablePtr

/-- The bytes of a text are slow to count, so not all rows are checked at
once. -/
theorem shipped_descriptions : DescriptionsFit shippedRows := by
  apply DescriptionsFit.cut 220
  · decide +kernel
  apply DescriptionsFit.cut 220
  · decide +kernel
  apply DescriptionsFit.cut 220
  · decide +kernel
  apply DescriptionsFit.cut 220
  · decide +kernel
  apply DescriptionsFit.cut 220
  · decide +kernel
  apply DescriptionsFit.cut 220
  · decide +kernel
  apply DescriptionsFit.cut 220
  · decide +kernel
  · decide +kernel

theorem shipped_rowOk : ∀ t ∈ bitfieldTable, ∀ row ∈ t.tablePtr,
    RowOk row := by
  have hnumbers : ∀ t ∈ bitfieldTable, ∀ row ∈ t.tablePtr,
      row.rightshift.toNat < 64 ∧ row.mask.toNat ≤ 64 := by
    decide +kernel
  have hbitfield : ∀ t ∈ bitfieldTable, ∀ row ∈ t.tablePtr,
      row.bitfield.utf8ByteSize < parseMaxBitfield := by
    decide +kernel
  intro t ht row hrow
  exact ⟨(hnumbers t ht row hrow).1, (hnumbers t ht row hrow).2,
    hbitfield t ht row hrow,
    shipped_descriptions row (List.mem_flatMap.2 ⟨t, ht, hrow⟩)⟩

-- ================================================================ the heap

/-- The expanded name of a shipped word still fits. -/
theorem mmEntry_name_length {t : BitfieldTableEntry}
    (ht : t ∈ bitfieldTable) (hmm : t.tableType = .mm) {row : BitfieldInfo}
    (hrow : row ∈ t.tablePtr) {k : Nat} (hk : k < row.range.toNat)
    (i : Nat) :
    (mmEntry t row k i).registerNameExpanded.length < 31 := by
  have hmem : (row.registerName, t.partNumber, row.registerUid, row.range)
      ∈ deviceNames :=
    List.mem_flatMap.2 ⟨t, List.mem_filter.2 ⟨ht, by
      simp [BitfieldTableEntry.system, hmm]⟩, List.mem_map_of_mem hrow⟩
  have hlen : row.registerName.length ≤ 20 := deviceNames_ok.length _ hmem
  have hrange : row.range.toNat ≤ 1000 := deviceNames_ok.range _ hmem
  have hdigits : (toString k).length ≤ 4 :=
    (Nat.length_repr_le_iff (by omega)).2 (by omega)
  have hbound : parseMaxRegister = 32 := rfl
  rw [mmEntry_wordName t (by omega) hk, wordName]
  split
  · rw [String.length_append]
    omega
  · omega

/-- The shipped heap is one decoding can rely on. -/
theorem shipped_heapOk (includeDevices : Int) :
    HeapOk (expanded (included includeDevices bitfieldTable)) := by
  have hrow : ∀ h ∈ expanded (included includeDevices bitfieldTable),
      ∃ t ∈ bitfieldTable, ∃ row ∈ t.tablePtr,
        h.info.rightshift = row.rightshift ∧ h.info.mask = row.mask
          ∧ h.info.bitfield = row.bitfield
          ∧ h.info.functionalGroup = row.functionalGroup
          ∧ h.info.description = row.description
          ∧ h.registerNameExpanded.length < parseMaxRegister := by
    intro h hh
    obtain ⟨i, hi⟩ := List.getElem?_of_mem hh
    obtain ⟨t, ht, row, hrow, hentry⟩ := expanded_allExpand _ i h hi
    have ht' := (included_mem ht).1
    rcases hentry with ⟨-, rfl⟩ | ⟨hmm, k, hk, rfl⟩
    · refine ⟨t, ht', row, hrow, rfl, rfl, rfl, rfl, rfl, ?_⟩
      have hname := shipped_names t ht' row hrow
      have hbound : parseMaxRegister = 32 := rfl
      unfold sysEntry
      dsimp only
      rw [strncpy_of_le (by omega)]
      omega
    · have hname := mmEntry_name_length ht' hmm hrow hk i
      exact ⟨t, ht', row, hrow, rfl, rfl, rfl, rfl, rfl,
        Nat.lt_of_lt_of_le hname (by decide)⟩
  constructor
  · exact shipped_uid_nodup includeDevices
  · intro h hh
    obtain ⟨t, ht, row, hr, hshift, -⟩ := hrow h hh
    rw [hshift]
    exact (shipped_rowOk t ht row hr).rightshift
  · intro h hh
    obtain ⟨t, ht, row, hr, -, hmask, -⟩ := hrow h hh
    rw [hmask]
    exact (shipped_rowOk t ht row hr).mask
  · intro h hh
    obtain ⟨t, ht, row, hr, -, -, -, -, -, hname⟩ := hrow h hh
    exact hname
  · intro h hh
    exact (shipped_grouped includeDevices {}).functionalGroup h hh
  · intro h hh
    obtain ⟨t, ht, row, hr, -, -, hbit, -⟩ := hrow h hh
    rw [hbit]
    exact Nat.lt_of_le_of_lt (length_le_utf8ByteSize _)
      (shipped_rowOk t ht row hr).bitfield
  · intro h hh
    obtain ⟨t, ht, row, hr, -, -, -, -, hdesc, -⟩ := hrow h hh
    rw [hdesc]
    exact Nat.lt_of_le_of_lt (length_le_utf8ByteSize _)
      (shipped_rowOk t ht row hr).description

theorem shipped_group_length (includeDevices : Int) :
    ∀ h ∈ expanded (included includeDevices bitfieldTable),
      h.info.functionalGroup.length < 63 := by
  have hcheck : ((collect (fun _ => false) [] shippedGroups).any
      fun groups => groups.all fun q => decide (q.1.length < 63))
        = true := by
    decide +kernel
  obtain ⟨groups, hall, -, hmem⟩ := oneValue_of_collect hcheck
  intro h hh
  obtain ⟨i, hi⟩ := List.getElem?_of_mem hh
  obtain ⟨t, ht, row, hrow, hentry⟩ := expanded_allExpand _ i h hi
  have hgroup : h.info.functionalGroup = row.functionalGroup := by
    rcases hentry with ⟨-, rfl⟩ | ⟨-, k, -, rfl⟩
    · rfl
    · rfl
  have hshipped : (row.functionalGroup, ()) ∈ shippedGroups :=
    List.mem_flatMap.2 ⟨t, (included_mem ht).1,
      List.mem_map.2 ⟨row, hrow, rfl⟩⟩
  rw [hgroup]
  exact of_decide_eq_true (List.all_eq_true.1 hall _ (hmem _ hshipped))

/-- A search can tell the shipped entries by their keys. -/
theorem shipped_searchable (includeDevices : Int) :
    Searchable (expanded (included includeDevices bitfieldTable)) where
  uid := shipped_uid_ne_zero includeDevices
  name := by
    intro h hh
    have hnames : ∀ t ∈ bitfieldTable, ∀ row ∈ t.tablePtr,
        row.registerName ≠ "" := by
      decide +kernel
    obtain ⟨i, hi⟩ := List.getElem?_of_mem hh
    obtain ⟨t, ht, row, hrow, hentry⟩ := expanded_allExpand _ i h hi
    have hcopy := strncpy_ne_empty
      (hnames t (included_mem ht).1 row hrow)
      (show 0 < parseMaxRegister - 1 by decide)
    rcases hentry with ⟨-, rfl⟩ | ⟨-, k, -, rfl⟩
    · exact hcopy
    · unfold mmEntry
      dsimp only
      split
      · exact fun hempty =>
          hcopy (String.append_eq_empty_iff.1 hempty).1
      · exact hcopy
  nameLength := by
    intro h hh
    obtain ⟨i, hi⟩ := List.getElem?_of_mem hh
    obtain ⟨t, ht, row, hrow, hentry⟩ := expanded_allExpand _ i h hi
    rcases hentry with ⟨-, rfl⟩ | ⟨hmm, k, hk, rfl⟩
    · have hname := shipped_names t (included_mem ht).1 row hrow
      show (strncpy row.registerName (parseMaxRegister - 1)).length < 31
      rwa [strncpy_of_le (by unfold parseMaxRegister; omega)]
    · exact mmEntry_name_length (included_mem ht).1 hmm hrow hk i
  group := fun h hh => shipped_group hh
  groupLength := shipped_group_length includeDevices

end Maplesyrup
