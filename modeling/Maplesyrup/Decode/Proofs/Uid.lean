/-
The uid is a key of the expanded tables.

Most entries keep the number their row has in the table. The words of a
memory-mapped row of several carry their heap index instead, and by the
time the memory-mapped tables are expanded that index is past every
number a row has. So two entries could only share a uid if two rows that
keep their numbers did, which the shipped tables are checked for.
-/
import Maplesyrup.Base.Distinct
import Maplesyrup.Base.Keyed
import Maplesyrup.Decode.Proofs.Heap

namespace Maplesyrup

open Base

-- ============================================================= the rows

/-- The row's words carry their heap index in their uids. -/
def indexed (t : BitfieldTableEntry) (row : BitfieldInfo) : Bool :=
  t.tableType == .mm && decide (1 < row.range.toNat)

/-- The uid of an entry of a row that keeps its number. -/
def ownUid (t : BitfieldTableEntry) (row : BitfieldInfo) : U32 :=
  mscode t.partNumber row.registerUid row.uid

/-- The uids of the rows that keep their numbers. -/
def ownUids (t : BitfieldTableEntry) (rows : List BitfieldInfo) :
    List U32 :=
  (rows.filter fun row => !indexed t row).map (ownUid t)

/-- Those of a list of tables. -/
def tableUids (tables : List BitfieldTableEntry) : List U32 :=
  tables.flatMap fun t => ownUids t t.tablePtr

/-- No row has a number this large. -/
def firstIndex : Nat := 64

/-- The shipped rows' uids are distinct and not 0; 20240 is a number
modulo which they stay so. -/
theorem tableUids_nodup : (0 :: tableUids bitfieldTable).Nodup :=
  nodup_of_unseen (fun u => u.toNat % 20240) (by decide +kernel)

theorem tableUids_field :
    ∀ u ∈ tableUids bitfieldTable, (mscodeField u).toNat < firstIndex := by
  have hall : (tableUids bitfieldTable).all
      (fun u => decide ((mscodeField u).toNat < firstIndex)) = true := by
    decide +kernel
  intro u hu
  exact of_decide_eq_true (List.all_eq_true.1 hall u hu)

-- ============================================================ the heap

/-- The uid is that of a row's number, or has a heap index in its
field. -/
def UidFrom (own : List U32) (n : Nat) (u : U32) : Prop :=
  u ∈ own ∨ firstIndex ≤ (mscodeField u).toNat ∧ (mscodeField u).toNat < n

/-- A heap expanded from rows with these uids so far. -/
structure Keyed (own : List U32) (heap : List BitfieldInfoHeap) :
    Prop where
  nodup : (heap.map fun h => h.info.uid).Nodup
  from_own : ∀ h ∈ heap, UidFrom own heap.length h.info.uid

variable {own : List U32} {heap : List BitfieldInfoHeap}
  {h : BitfieldInfoHeap}

theorem Keyed.mono {own' : List U32} (hk : Keyed own heap)
    (hsub : ∀ u ∈ own, u ∈ own') : Keyed own' heap where
  nodup := hk.nodup
  from_own h hh := (hk.from_own h hh).imp_left (hsub _)

/-- An entry with a new uid. -/
theorem Keyed.append {own' : List U32} (hk : Keyed own heap)
    (hsub : ∀ u ∈ own, u ∈ own')
    (hnew : ∀ u, UidFrom own heap.length u → u ≠ h.info.uid)
    (hfrom : UidFrom own' (heap.length + 1) h.info.uid) :
    Keyed own' (heap ++ [h]) where
  nodup := by
    rw [List.map_append, List.nodup_append]
    refine ⟨hk.nodup, List.nodup_singleton _, ?_⟩
    intro u hu u' hu'
    obtain ⟨g, hg, rfl⟩ := List.mem_map.1 hu
    obtain rfl : u' = h.info.uid := by simpa using hu'
    exact hnew _ (hk.from_own g hg)
  from_own g hg := by
    rw [List.length_append, List.length_singleton]
    rcases List.mem_append.1 hg with hg | hg
    · exact (hk.from_own g hg).imp (hsub _)
        fun hidx => ⟨hidx.1, Nat.lt_succ_of_lt hidx.2⟩
    · rwa [List.mem_singleton.1 hg]

/-- An entry with its row's number. -/
theorem Keyed.append_own (hk : Keyed own heap)
    (hnew : h.info.uid ∉ own)
    (hfield : (mscodeField h.info.uid).toNat < firstIndex) :
    Keyed (own ++ [h.info.uid]) (heap ++ [h]) := by
  refine hk.append (fun u hu => List.mem_append_left _ hu)
    (fun u hu heq => ?_)
    (Or.inl (List.mem_append_right _ (List.mem_singleton_self _)))
  rw [heq] at hu
  rcases hu with hu | hidx
  · exact hnew hu
  · omega

/-- An entry with its heap index. -/
theorem Keyed.append_indexed (hk : Keyed own heap)
    (hown : ∀ u ∈ own, (mscodeField u).toNat < firstIndex)
    (hlen : firstIndex ≤ heap.length)
    (hfield : (mscodeField h.info.uid).toNat = heap.length) :
    Keyed own (heap ++ [h]) := by
  refine hk.append (fun u hu => hu) (fun u hu heq => ?_)
    (Or.inr (by omega))
  rw [heq] at hu
  rcases hu with hu | hidx
  · have hsmall := hown _ hu
    omega
  · omega

-- ======================================================= the expansion

variable {t : BitfieldTableEntry} {row : BitfieldInfo}
  {rows : List BitfieldInfo}

theorem ownUids_cons (t : BitfieldTableEntry) (row : BitfieldInfo)
    (rows : List BitfieldInfo) :
    ownUids t (row :: rows)
      = (if indexed t row then [] else [ownUid t row])
        ++ ownUids t rows := by
  unfold ownUids
  rw [List.filter_cons]
  cases indexed t row with
  | true => simp
  | false => simp

/-- The uids `own` are distinct numbers of rows. -/
structure OwnOk (own : List U32) : Prop where
  nodup : own.Nodup
  field : ∀ u ∈ own, (mscodeField u).toNat < firstIndex

theorem OwnOk.left {own' : List U32} (h : OwnOk (own ++ own')) :
    OwnOk own where
  nodup := (List.nodup_append.1 h.nodup).1
  field u hu := h.field u (List.mem_append_left _ hu)

theorem OwnOk.not_mem {u : U32} (h : OwnOk (own ++ [u])) : u ∉ own :=
  fun hu => (List.nodup_append.1 h.nodup).2.2 u hu u
    (List.mem_singleton_self u) rfl

/-- Words that carry their heap index. -/
theorem words_keyed (hrange : 1 < row.range.toNat)
    (hown : ∀ u ∈ own, (mscodeField u).toNat < firstIndex)
    (ks : List Nat) (hk : Keyed own heap)
    (hlen : firstIndex ≤ heap.length)
    (hfits : heap.length + ks.length ≤ 2 ^ 16) :
    Keyed own (ks.foldl
      (fun heap k => heap ++ [mmEntry t row k heap.length]) heap) := by
  induction ks generalizing heap with
  | nil => exact hk
  | cons k ks ih =>
      rw [List.length_cons] at hfits
      have hsmall : heap.length < 2 ^ 16 := by omega
      have hnum : (BitVec.ofNat 32 heap.length).toNat = heap.length :=
        Nat.mod_eq_of_lt (by omega)
      have huid : (mmEntry t row k heap.length).info.uid
          = mscode t.partNumber row.registerUid
            (.ofNat 32 heap.length) := by
        simp [mmEntry, hrange]
      have hfield : (mscodeField
          (mmEntry t row k heap.length).info.uid).toNat = heap.length := by
        rw [huid, mscodeField_mscode (by rwa [hnum]), hnum]
      have hsize : (heap ++ [mmEntry t row k heap.length]).length
          = heap.length + 1 := List.length_append
      rw [List.foldl_cons]
      refine ih (hk.append_indexed hown hlen hfield) ?_ ?_
      · omega
      · omega

/-- The entries of one memory-mapped row. -/
theorem expandRow_keyed (hk : Keyed own heap) (hmm : t.tableType = .mm)
    (hown : OwnOk (own ++ if indexed t row then [] else [ownUid t row]))
    (hlen : firstIndex ≤ heap.length)
    (hfits : heap.length + row.range.toNat ≤ 2 ^ 16) :
    Keyed (own ++ if indexed t row then [] else [ownUid t row])
      (expandRow t heap row) := by
  unfold expandRow
  by_cases hrange : 1 < row.range.toNat
  · have hidx : indexed t row = true := by simp [indexed, hmm, hrange]
    rw [if_pos hidx, List.append_nil] at hown ⊢
    exact words_keyed hrange hown.field _ hk hlen
      (by rwa [List.length_range])
  · have hidx : ¬ indexed t row = true := by simp [indexed, hrange]
    rw [if_neg hidx] at hown ⊢
    interval_cases hn : row.range.toNat
    · exact hk.mono fun u hu => List.mem_append_left _ hu
    · have huid : (mmEntry t row 0 heap.length).info.uid
          = ownUid t row := by
        simp [mmEntry, ownUid, hn]
      rw [← huid] at hown ⊢
      exact hk.append_own hown.not_mem (hown.field _ (by simp))

/-- The entries of a memory-mapped table. -/
theorem mmRows_keyed (hmm : t.tableType = .mm) (hk : Keyed own heap)
    (hown : OwnOk (own ++ ownUids t rows))
    (hlen : firstIndex ≤ heap.length)
    (hfits : heap.length + (rows.map fun row => row.range.toNat).sum
      ≤ 2 ^ 16) :
    Keyed (own ++ ownUids t rows) (rows.foldl (expandRow t) heap) := by
  induction rows generalizing own heap with
  | nil => exact hk.mono fun u hu => List.mem_append_left _ hu
  | cons row rows ih =>
      have hsize := expandRow_length t heap row
      rw [List.map_cons, List.sum_cons] at hfits
      rw [ownUids_cons, ← List.append_assoc] at hown ⊢
      refine ih (expandRow_keyed hk hmm hown.left hlen ?_) hown ?_ ?_
      · omega
      · omega
      · omega

/-- The entries of a system-register table. -/
theorem sysRows_keyed (hsys : t.tableType ≠ .mm) (hk : Keyed own heap)
    (hown : OwnOk (own ++ ownUids t rows)) :
    Keyed (own ++ ownUids t rows)
      (rows.foldl (fun heap row => heap ++ [sysEntry t row]) heap) := by
  induction rows generalizing own heap with
  | nil => exact hk.mono fun u hu => List.mem_append_left _ hu
  | cons row rows ih =>
      have hidx : ¬ indexed t row = true := by simp [indexed, hsys]
      rw [ownUids_cons, if_neg hidx, ← List.append_assoc] at hown ⊢
      have hrow : OwnOk (own ++ [(sysEntry t row).info.uid]) := hown.left
      exact ih (hk.append_own hrow.not_mem (hrow.field _ (by simp))) hown

theorem tableUids_cons (t : BitfieldTableEntry)
    (tables : List BitfieldTableEntry) :
    tableUids (t :: tables) = ownUids t t.tablePtr ++ tableUids tables :=
  rfl

theorem systemTables_keyed {tables : List BitfieldTableEntry}
    (hsys : ∀ t ∈ tables, t.system = true) (hk : Keyed own heap)
    (hown : OwnOk (own ++ tableUids tables)) :
    Keyed (own ++ tableUids tables) (tables.foldl (expandTable 1) heap) := by
  induction tables generalizing own heap with
  | nil => exact hk.mono fun u hu => List.mem_append_left _ hu
  | cons t tables ih =>
      have ht : t.tableType ≠ .mm := by
        simpa [BitfieldTableEntry.system] using hsys t (by simp)
      have htable : expandTable 1 heap t
          = t.tablePtr.foldl (fun heap row => heap ++ [sysEntry t row])
            heap := by
        unfold expandTable
        split
        · contradiction
        · rfl
      rw [tableUids_cons, ← List.append_assoc] at hown ⊢
      rw [List.foldl_cons, htable]
      exact ih (fun t ht => hsys t (List.mem_cons_of_mem _ ht))
        (sysRows_keyed ht hk hown.left) hown

theorem deviceTables_keyed {tables : List BitfieldTableEntry}
    (hmm : ∀ t ∈ tables, t.tableType = .mm) (hk : Keyed own heap)
    (hown : OwnOk (own ++ tableUids tables))
    (hlen : firstIndex ≤ heap.length)
    (hfits : heap.length
      + (tables.map BitfieldTableEntry.tableSize).sum ≤ 2 ^ 16) :
    Keyed (own ++ tableUids tables) (tables.foldl (expandTable 1) heap) := by
  induction tables generalizing own heap with
  | nil => exact hk.mono fun u hu => List.mem_append_left _ hu
  | cons t tables ih =>
      have ht : t.tableType = .mm := hmm t (List.mem_cons_self ..)
      have hsize := expandTable_length heap t
      have hwords : t.tableSize
          = (t.tablePtr.map fun row => row.range.toNat).sum := by
        simp only [BitfieldTableEntry.tableSize, ht]
      have htable : expandTable 1 heap t
          = t.tablePtr.foldl (expandRow t) heap := by
        simp only [expandTable, ht, ↓reduceIte]
      rw [List.map_cons, List.sum_cons] at hfits
      rw [tableUids_cons, ← List.append_assoc] at hown ⊢
      rw [List.foldl_cons]
      refine ih (fun t ht => hmm t (List.mem_cons_of_mem _ ht)) ?_ hown
        ?_ ?_
      · rw [htable]
        exact mmRows_keyed ht hk hown.left hlen (by omega)
      · omega
      · omega

-- ========================================================= the shipped heap

/-- The shipped system-register tables. -/
def systemTables : List BitfieldTableEntry :=
  bitfieldTable.filter BitfieldTableEntry.system

/-- The memory-mapped ones. -/
def deviceTables : List BitfieldTableEntry :=
  bitfieldTable.filter fun t => !t.system

/-- The memory-mapped tables come last. -/
theorem bitfieldTable_split :
    bitfieldTable = systemTables ++ deviceTables := by
  simp [systemTables, deviceTables, bitfieldTable, List.filter_cons,
    BitfieldTableEntry.system]

theorem deviceTables_mm : ∀ t ∈ deviceTables, t.tableType = .mm := by
  intro t ht
  simpa [BitfieldTableEntry.system] using (List.mem_filter.1 ht).2

/-- The words of the memory-mapped tables start behind all numbers of
rows, and their indices fit in the field of a uid. -/
theorem tables_size :
    firstIndex ≤ (systemTables.map BitfieldTableEntry.tableSize).sum
      ∧ (systemTables.map BitfieldTableEntry.tableSize).sum
        + (deviceTables.map BitfieldTableEntry.tableSize).sum
        ≤ 2 ^ 16 := by
  decide +kernel

theorem shipped_keyed (includeDevices : Int) :
    Keyed (tableUids bitfieldTable)
      (expanded (included includeDevices bitfieldTable)) := by
  have hown : OwnOk (tableUids bitfieldTable) :=
    ⟨(List.nodup_cons.1 tableUids_nodup).2, tableUids_field⟩
  have hsplit : tableUids bitfieldTable
      = tableUids systemTables ++ tableUids deviceTables := by
    rw [bitfieldTable_split]
    exact List.flatMap_append
  have hempty : Keyed [] [] :=
    ⟨List.nodup_nil, fun h hh => absurd hh List.not_mem_nil⟩
  rw [hsplit] at hown ⊢
  have hsys : Keyed ([] ++ tableUids systemTables)
      (systemTables.foldl (expandTable 1) []) :=
    systemTables_keyed (fun t ht => (List.mem_filter.1 ht).2) hempty
      hown.left
  rw [List.nil_append] at hsys
  unfold included
  split
  · have hlen := expanded_length systemTables
    have hsize := tables_size
    rw [bitfieldTable_split, expanded, List.foldl_append]
    exact deviceTables_keyed deviceTables_mm hsys hown
      (by rw [← expanded, hlen]; exact hsize.1)
      (by rw [← expanded, hlen]; exact hsize.2)
  · exact hsys.mono fun u hu => List.mem_append_left _ hu

/-- The uids of the shipped heap are distinct. -/
theorem shipped_uid_nodup (includeDevices : Int) :
    ((expanded (included includeDevices bitfieldTable)).map
      fun h => h.info.uid).Nodup :=
  (shipped_keyed includeDevices).nodup

/-- And none is 0. -/
theorem shipped_uid_ne_zero (includeDevices : Int) :
    ∀ h ∈ expanded (included includeDevices bitfieldTable),
      h.info.uid ≠ 0 := by
  intro h hh hzero
  rcases (shipped_keyed includeDevices).from_own h hh with hown | hidx
  · rw [hzero] at hown
    exact (List.nodup_cons.1 tableUids_nodup).1 hown
  · rw [hzero] at hidx
    have hnum : (mscodeField 0).toNat = 0 := by decide
    have hpos : 0 < firstIndex := by decide
    omega

-- ============================================================== the lookups

/-- The lookups by uid that answer from entry `h`, at index `i`. -/
structure AnswersFrom (heap : List BitfieldInfoHeap) (i : Nat)
    (h : BitfieldInfoHeap) : Prop where
  index : breakoutGetIndex heap h.info.uid = some i
  registerName :
    getRegisterName heap h.info.uid = some h.registerNameExpanded
  functionalGroup :
    getFunctionalGroup heap h.info.uid = some h.info.functionalGroup
  description :
    getDescription heap h.info.uid = some h.info.description
  bitfield : getBitfield heap h.info.uid = some h.info.bitfield
  stamp : getBitfieldstamp heap h.info.uid
    = some (printf02d (h.info.mask - 1 + h.info.rightshift) ++ ":"
      ++ printf02d h.info.rightshift)

theorem answersFrom {heap : List BitfieldInfoHeap}
    (hnd : (heap.map fun h => h.info.uid).Nodup) {i : Nat}
    {h : BitfieldInfoHeap} (hi : heap[i]? = some h) :
    AnswersFrom heap i h := by
  have hindex : breakoutGetIndex heap h.info.uid = some i :=
    findIdx?_key (fun h : BitfieldInfoHeap => h.info.uid) hnd hi
  constructor
  · exact hindex
  · simp [getRegisterName, hindex, hi]
  · simp [getFunctionalGroup, hindex, hi]
  · simp [getDescription, hindex, hi]
  · simp [getBitfield, hindex, hi]
  · simp [getBitfieldstamp, hindex, hi]

/-- The uid is a key of the shipped tables in memory, whichever of them
were read. -/
theorem uid_is_key {a a' : Alloc} {includeDevices : Int}
    {g g' : TableGlobals}
    (h : readTablesToMemory a bitfieldTable includeDevices g
      = (0, g', a')) :
    ∃ block, g'.gBitfieldTableHeap = some block
      ∧ g'.gBitfieldTableSize = block.entries.length
      ∧ (block.entries.map fun h => h.info.uid).Nodup
      ∧ (∀ h ∈ block.entries, h.info.uid ≠ 0)
      ∧ ∀ i h, block.entries[i]? = some h →
          AnswersFrom block.entries i h := by
  rw [readTablesToMemory_heap h]
  exact ⟨_, rfl, rfl, shipped_uid_nodup includeDevices,
    shipped_uid_ne_zero includeDevices,
    fun i h hi => answersFrom (shipped_uid_nodup includeDevices) hi⟩

theorem uid_is_key_devices :
    let g : TableGlobals :=
      ⟨some ⟨(bitfieldTable.map BitfieldTableEntry.tableSize).sum,
        expanded bitfieldTable⟩, (expanded bitfieldTable).length⟩
    ∃ block, g.gBitfieldTableHeap = some block
      ∧ g.gBitfieldTableSize = block.entries.length
      ∧ (block.entries.map fun h => h.info.uid).Nodup
      ∧ (∀ h ∈ block.entries, h.info.uid ≠ 0)
      ∧ ∀ i h, block.entries[i]? = some h →
          AnswersFrom block.entries i h :=
  uid_is_key (readTablesToMemory_ok bitfieldTable {})

end Maplesyrup
