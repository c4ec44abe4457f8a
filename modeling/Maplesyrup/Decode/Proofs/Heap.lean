/-
The expanded tables: which entry stands at which index of the heap, and
what its codes say.

The expansion only appends, so an entry stays where it was put, and a
memory-mapped one carries its own index in its uid when its row has more
than one word.
-/
import Maplesyrup.Base.Cells
import Maplesyrup.Base.Words
import Maplesyrup.Decode.Heap

namespace Maplesyrup

open Base

-- ============================================================== the codes

/-- A code of a system register has part number 0. -/
theorem mscodePartnumber_small {c : U32} (h : c.toNat < 2 ^ 27) :
    mscodePartnumber c = 0 := by
  unfold mscodePartnumber partnumberShift
  rw [ushiftRight_of_small h]
  exact BitVec.zero_and

/-- The part number read back from a code: what of the instruction does
not fit in eleven bits is in it too. -/
theorem mscodePartnumber_mscode {d i f : U32} (hf : f.toNat < 2 ^ 27) :
    mscodePartnumber (mscode d i f) = (d ||| i >>> 11) &&& 0x1F := by
  have hmask : (0x1F : U32) = BitVec.ofNat 32 (2 ^ 5 - 1) := by decide
  unfold mscodePartnumber mscode partnumberShift instructionShift
  rw [BitVec.ushiftRight_or_distrib, BitVec.ushiftRight_or_distrib,
    ushiftRight_of_small hf, BitVec.or_zero, hmask]
  apply BitVec.eq_of_getLsbD_eq
  intro n hn
  rw [getLsbD_and_ones, getLsbD_and_ones]
  rcases Nat.lt_or_ge n 5 with hlow | hhigh
  · have h32 : 27 + n < 32 := by omega
    have h16 : ¬ 27 + n < 16 := by omega
    have h27 : ¬ 27 + n < 27 := by omega
    have hback : 27 + n - 16 = 11 + n := by omega
    simp only [BitVec.getLsbD_or, BitVec.getLsbD_ushiftRight,
      BitVec.getLsbD_shiftLeft, h32, h16, h27, hback,
      Nat.add_sub_cancel_left, decide_true, decide_false, Bool.not_false,
      Bool.true_and]
  · simp [Nat.not_lt.2 hhigh]

/-- The field is read back when it fits. -/
theorem mscodeField_mscode {d i f : U32} (hf : f.toNat < 2 ^ 16) :
    mscodeField (mscode d i f) = f := by
  have hmask : (0xFFFF : U32) = BitVec.ofNat 32 (2 ^ 16 - 1) := by decide
  unfold mscodeField mscode partnumberShift instructionShift
  rw [hmask]
  apply BitVec.eq_of_getLsbD_eq
  intro n hn
  rw [getLsbD_and_ones]
  rcases Nat.lt_or_ge n 16 with hlow | hhigh
  · have h27 : n < 27 := by omega
    simp [hlow, h27]
  · rw [getLsbD_of_small hf hhigh, decide_eq_false (Nat.not_lt.2 hhigh),
      Bool.false_and]

-- ========================================================== the expansion

/-- The entries the tables expand into, devices included. -/
def expanded (tables : List BitfieldTableEntry) : List BitfieldInfoHeap :=
  tables.foldl (expandTable 1) []

/-- Expanding into memory that could be allocated. -/
theorem readTablesToMemory_ok (tables : List BitfieldTableEntry)
    (g : TableGlobals) :
    readTablesToMemory .ok tables 1 g
      = (0, ⟨some ⟨(tables.map BitfieldTableEntry.tableSize).sum,
          expanded tables⟩, (expanded tables).length⟩, .ok) := rfl

/-- The table is of system registers. -/
def BitfieldTableEntry.system (t : BitfieldTableEntry) : Bool :=
  t.tableType != .mm

/-- The tables a read takes in. -/
def included (includeDevices : Int) (tables : List BitfieldTableEntry) :
    List BitfieldTableEntry :=
  if includeDevices = 1 then tables
  else tables.filter BitfieldTableEntry.system

theorem expandTable_system {t : BitfieldTableEntry} (ht : t.system = true)
    (includeDevices : Int) (heap : List BitfieldInfoHeap) :
    expandTable includeDevices heap t = expandTable 1 heap t := by
  unfold BitfieldTableEntry.system at ht
  unfold expandTable
  cases hty : t.tableType with
  | mm => simp [hty] at ht
  | impl => rfl
  | arch => rfl

/-- The memory-mapped tables a read leaves out might as well not be
there. -/
theorem foldl_expandTable (includeDevices : Int)
    (tables : List BitfieldTableEntry) (heap : List BitfieldInfoHeap) :
    tables.foldl (expandTable includeDevices) heap
      = (included includeDevices tables).foldl (expandTable 1) heap := by
  unfold included
  by_cases hinc : includeDevices = 1
  · rw [if_pos hinc, hinc]
  · rw [if_neg hinc]
    induction tables generalizing heap with
    | nil => rfl
    | cons t tables ih =>
        rw [List.foldl_cons, List.filter_cons, ih]
        cases hsys : t.system with
        | true =>
            rw [expandTable_system hsys]
            rfl
        | false =>
            have hmm : t.tableType = .mm := by
              simpa [BitfieldTableEntry.system] using hsys
            simp [expandTable, hmm, hinc]

/-- What a successful read leaves in memory. -/
theorem readTablesToMemory_heap {a a' : Alloc}
    {tables : List BitfieldTableEntry} {includeDevices : Int}
    {g g' : TableGlobals}
    (h : readTablesToMemory a tables includeDevices g = (0, g', a')) :
    g' = ⟨some ⟨(tables.map BitfieldTableEntry.tableSize).sum,
        expanded (included includeDevices tables)⟩,
      (expanded (included includeDevices tables)).length⟩ := by
  unfold readTablesToMemory at h
  cases ha : a 0 with
  | true =>
      rw [ha, if_pos rfl, foldl_expandTable] at h
      exact (congrArg (·.2.1) h).symm
  | false => simp [ha] at h

/-- Entry `h`, at index `i`, is what a row of the tables expands into. -/
def Expands (tables : List BitfieldTableEntry) (i : Nat)
    (h : BitfieldInfoHeap) : Prop :=
  ∃ t ∈ tables, ∃ row ∈ t.tablePtr,
    (t.tableType ≠ .mm ∧ h = sysEntry t row)
      ∨ (t.tableType = .mm
        ∧ ∃ k, k < row.range.toNat ∧ h = mmEntry t row k i)

/-- Every entry of the heap is what a row expands into at its index. -/
def AllExpand (tables : List BitfieldTableEntry)
    (heap : List BitfieldInfoHeap) : Prop :=
  ∀ i h, heap[i]? = some h → Expands tables i h

variable {tables : List BitfieldTableEntry} {t : BitfieldTableEntry}
  {row : BitfieldInfo}

theorem AllExpand.append {heap : List BitfieldInfoHeap}
    {h : BitfieldInfoHeap} (hheap : AllExpand tables heap)
    (hnew : Expands tables heap.length h) :
    AllExpand tables (heap ++ [h]) := by
  intro i h' hi
  rcases Nat.lt_trichotomy i heap.length with hlt | heq | hgt
  · rw [List.getElem?_append_left hlt] at hi
    exact hheap i h' hi
  · subst heq
    rw [List.getElem?_concat_length] at hi
    obtain rfl := Option.some.inj hi
    exact hnew
  · have hnone : (heap ++ [h])[i]? = none := by
      apply List.getElem?_eq_none
      simp
      omega
    rw [hnone] at hi
    exact absurd hi (by simp)

theorem expandRow_allExpand (ht : t ∈ tables) (hrow : row ∈ t.tablePtr)
    (hmm : t.tableType = .mm) {heap : List BitfieldInfoHeap}
    (hheap : AllExpand tables heap) :
    AllExpand tables (expandRow t heap row) :=
  foldl_keeps (fun _ k hk hheap => hheap.append
    ⟨t, ht, row, hrow, Or.inr ⟨hmm, k, List.mem_range.1 hk, rfl⟩⟩) hheap

theorem expandTable_allExpand (ht : t ∈ tables)
    {heap : List BitfieldInfoHeap} (hheap : AllExpand tables heap) :
    AllExpand tables (expandTable 1 heap t) := by
  cases hty : t.tableType with
  | mm =>
      simp only [expandTable, hty, ↓reduceIte]
      exact foldl_keeps
        (fun _ row hrow => expandRow_allExpand ht hrow hty) hheap
  | impl =>
      simp only [expandTable, hty]
      exact foldl_keeps (fun _ row hrow hheap => hheap.append
        ⟨t, ht, row, hrow, Or.inl ⟨by simp [hty], rfl⟩⟩) hheap
  | arch =>
      simp only [expandTable, hty]
      exact foldl_keeps (fun _ row hrow hheap => hheap.append
        ⟨t, ht, row, hrow, Or.inl ⟨by simp [hty], rfl⟩⟩) hheap

theorem expanded_allExpand (tables : List BitfieldTableEntry) :
    AllExpand tables (expanded tables) :=
  foldl_keeps (fun _ _ ht => expandTable_allExpand ht)
    fun i h hi => absurd hi (by simp)

-- =============================================================== its names

/-- The name of word `k` of a memory-mapped row. -/
def wordName (name : String) (range : U32) (k : Nat) : String :=
  if 1 < range.toNat then name ++ toString k else name

/-- It is not cut when the row's name is not: the digits of an index are
few. -/
theorem mmEntry_wordName (t : BitfieldTableEntry) {row : BitfieldInfo}
    (hname : row.registerName.length ≤ parseMaxRegister - 1) {k : Nat}
    (hk : k < row.range.toNat) (i : Nat) :
    (mmEntry t row k i).registerNameExpanded
      = wordName row.registerName row.range k := by
  have hrange : row.range.toNat < 2 ^ 32 := row.range.isLt
  have hten : (toString k).length ≤ 10 :=
    (Nat.length_repr_le_iff (by omega)).2 (by omega)
  have hdigits : (toString k).length ≤ 31 := by omega
  have hdecimal : strncpy (strncpy (toString k) 31) (parseMaxRegister - 1)
      = toString k := by
    rw [strncpy_of_le hdigits]
    exact strncpy_of_le hdigits
  unfold mmEntry wordName
  simp only [strncpy_of_le hname, hdecimal]

-- ============================================================== its size

theorem expandRow_length (t : BitfieldTableEntry)
    (heap : List BitfieldInfoHeap) (row : BitfieldInfo) :
    (expandRow t heap row).length = heap.length + row.range.toNat := by
  unfold expandRow
  rw [foldl_size List.length (fun _ => 1) (fun _ _ => by simp)]
  simp

theorem expandTable_length (heap : List BitfieldInfoHeap)
    (t : BitfieldTableEntry) :
    (expandTable 1 heap t).length = heap.length + t.tableSize := by
  have hsys : (t.tablePtr.foldl
      (fun heap row => heap ++ [sysEntry t row]) heap).length
      = heap.length + t.tablePtr.length := by
    rw [foldl_size List.length (fun _ => 1) (fun _ _ => by simp)]
    simp
  unfold expandTable BitfieldTableEntry.tableSize
  cases t.tableType with
  | mm =>
      exact foldl_size List.length (fun row : BitfieldInfo => row.range.toNat)
        (expandRow_length t) heap
  | impl => exact hsys
  | arch => exact hsys

/-- The expansion fills the memory allocated for it. -/
theorem expanded_length (tables : List BitfieldTableEntry) :
    (expanded tables).length
      = (tables.map BitfieldTableEntry.tableSize).sum := by
  unfold expanded
  rw [foldl_size List.length BitfieldTableEntry.tableSize
    expandTable_length]
  exact Nat.zero_add _

-- ==================================================== every entry is there

theorem expandRow_extends (t : BitfieldTableEntry)
    (heap : List BitfieldInfoHeap) (row : BitfieldInfo) :
    heap <+: expandRow t heap row :=
  foldl_keeps (I := fun s => heap <+: s)
    (fun _ _ _ h => h.trans (List.prefix_append _ _)) (List.prefix_refl _)

/-- The expansion of a table only appends. -/
theorem expandTable_extends (heap : List BitfieldInfoHeap)
    (t : BitfieldTableEntry) : heap <+: expandTable 1 heap t := by
  unfold expandTable
  cases t.tableType with
  | mm =>
      exact foldl_keeps (I := fun s => heap <+: s)
        (fun s row _ h => h.trans (expandRow_extends t s row))
        (List.prefix_refl _)
  | impl =>
      exact foldl_keeps (I := fun s => heap <+: s)
        (fun _ _ _ h => h.trans (List.prefix_append _ _))
        (List.prefix_refl _)
  | arch =>
      exact foldl_keeps (I := fun s => heap <+: s)
        (fun _ _ _ h => h.trans (List.prefix_append _ _))
        (List.prefix_refl _)

theorem expandTable_sysEntry (hsys : t.tableType ≠ .mm)
    (hrow : row ∈ t.tablePtr) (heap : List BitfieldInfoHeap) :
    sysEntry t row ∈ expandTable 1 heap t := by
  have hrows : sysEntry t row ∈ t.tablePtr.foldl
      (fun heap row => heap ++ [sysEntry t row]) heap := by
    refine foldl_reaches (I := fun _ => True)
      (Q := fun s => sysEntry t row ∈ s) hrow ?_ ?_ ?_ trivial
    · exact fun _ _ _ _ => trivial
    · exact fun _ _ _ _ h => List.mem_append_left _ h
    · exact fun _ _ => by simp
  unfold expandTable
  cases hty : t.tableType with
  | mm => exact absurd hty hsys
  | impl => exact hrows
  | arch => exact hrows

/-- Every system-register row has its entry. -/
theorem expanded_sysEntry (ht : t ∈ tables) (hsys : t.tableType ≠ .mm)
    (hrow : row ∈ t.tablePtr) : sysEntry t row ∈ expanded tables :=
  foldl_reaches (I := fun _ => True) (Q := fun s => sysEntry t row ∈ s) ht
    (fun _ _ _ _ => trivial)
    (fun s t' _ _ h => (expandTable_extends s t').subset h)
    (fun heap _ => expandTable_sysEntry hsys hrow heap) trivial

-- ===================================================== every word is there

/-- An entry for word `k` of the row is in the heap. -/
def HasWord (t : BitfieldTableEntry) (row : BitfieldInfo) (k : Nat)
    (heap : List BitfieldInfoHeap) : Prop :=
  ∃ i, mmEntry t row k i ∈ heap

theorem HasWord.extended {k : Nat} {heap heap' : List BitfieldInfoHeap}
    (h : HasWord t row k heap) (hpre : heap <+: heap') :
    HasWord t row k heap' := by
  obtain ⟨i, hi⟩ := h
  exact ⟨i, hpre.subset hi⟩

theorem expandRow_hasWord {k : Nat} (hk : k < row.range.toNat)
    (heap : List BitfieldInfoHeap) :
    HasWord t row k (expandRow t heap row) :=
  foldl_reaches (I := fun _ => True) (List.mem_range.2 hk)
    (fun _ _ _ _ => trivial)
    (fun _ _ _ _ h => h.extended (List.prefix_append _ _))
    (fun heap _ => ⟨heap.length, by simp⟩) trivial

theorem expandTable_hasWord {k : Nat} (hmm : t.tableType = .mm)
    (hrow : row ∈ t.tablePtr) (hk : k < row.range.toNat)
    (heap : List BitfieldInfoHeap) :
    HasWord t row k (expandTable 1 heap t) := by
  simp only [expandTable, hmm, ↓reduceIte]
  exact foldl_reaches (I := fun _ => True) hrow
    (fun _ _ _ _ => trivial)
    (fun s row' _ _ h => h.extended (expandRow_extends t s row'))
    (fun heap _ => expandRow_hasWord hk heap) trivial

/-- Every word of every memory-mapped row has an entry. -/
theorem expanded_hasWord {k : Nat} (ht : t ∈ tables)
    (hmm : t.tableType = .mm) (hrow : row ∈ t.tablePtr)
    (hk : k < row.range.toNat) : HasWord t row k (expanded tables) :=
  foldl_reaches (I := fun _ => True) ht
    (fun _ _ _ _ => trivial)
    (fun s t' _ _ h => h.extended (expandTable_extends s t'))
    (fun heap _ => expandTable_hasWord hmm hrow hk heap) trivial

end Maplesyrup
