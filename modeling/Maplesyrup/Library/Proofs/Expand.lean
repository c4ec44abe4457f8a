/-
Does the expansion stay in its block, and is it whole?

The block has room for as many entries as the list model of the
expansion (`readTablesToMemory`) has: the sizes that are summed up and
the passes of the loops count the same rows and words, provided no sum
leaves its 32 bits. So the loops over the block keep in step with those
over the list (`Holds`): the index is the list's length, the cells below
it are the list's entries, and while the list ends up no longer than the
block every store is inside (`foldlM_refines`).

What the list holds is a plan of the tables' rows and words in order
(`slots`), each entry made at its own index.
-/
import Maplesyrup.Base.Except
import Maplesyrup.Decode.Proofs.Names
import Maplesyrup.Library.Expand

namespace Maplesyrup

open Base

variable {target : Target} {tables : List BitfieldTableEntry}
  {t : BitfieldTableEntry} {row : BitfieldInfo}

-- =========================================================== the statement

/-- What an entry is made of: a system-register row, or a word of a
memory-mapped one. -/
inductive Slot
  | row (t : BitfieldTableEntry) (row : BitfieldInfo)
  | word (t : BitfieldTableEntry) (row : BitfieldInfo) (k : Nat)

/-- A slot for each row. -/
def rowSlots (t : BitfieldTableEntry) : List Slot :=
  t.tablePtr.map (.row t)

/-- A slot for each word of each row. -/
def wordSlots (t : BitfieldTableEntry) : List Slot :=
  t.tablePtr.flatMap fun row =>
    (List.range row.range.toNat).map (.word t row)

def BitfieldTableEntry.slots (t : BitfieldTableEntry) : List Slot :=
  match t.tableType with
  | .mm => wordSlots t
  | _ => rowSlots t

/-- The slots of the tables a read takes in, table by table. -/
def slots (includeDevices : Int) (tables : List BitfieldTableEntry) :
    List Slot :=
  (included includeDevices tables).flatMap (·.slots)

/-- The entry at index `i` is the slot's. The name is the whole one. -/
def Slot.Written (i : Nat) (h : BitfieldInfoHeap) : Slot → Prop
  | .row t row =>
      h = sysEntry t row ∧ h.registerNameExpanded = row.registerName
  | .word t row k =>
      h = mmEntry t row k i
        ∧ h.info.registerUid = mscode t.partNumber row.registerUid
            (row.registerUid + .ofNat 32 k * 4)
        ∧ h.registerNameExpanded
          = if 1 < row.range.toNat then row.registerName ++ toString k
            else row.registerName

/-- The block holds these slots' entries, in order, and nothing behind
them. -/
structure Holding (s : List Slot) (block : Buffer.Block) (size : U32) :
    Prop where
  size : size.toNat = s.length
  inside : s.length ≤ block.length
  entries : ∀ i (x : Slot), s[i]? = some x →
    ∃ h, block[i]? = some (some h) ∧ x.Written i h
  rest : ∀ i, s.length ≤ i → i < block.length → block[i]? = some none

/-- Tables whose expansion fits in 32 bits. -/
structure Fits (target : Target) (tables : List BitfieldTableEntry) :
    Prop where
  names : ∀ t ∈ tables, ∀ row ∈ t.tablePtr, row.registerName.length < 31
  bytes : (tables.map BitfieldTableEntry.tableSize).sum
    * sizeofBitfieldInfoHeap target < 2 ^ 32
  /-- A size function returns an `int`. -/
  rows : ∀ t ∈ tables, t.tablePtr.length < 2 ^ 31

-- ============================================================== the entries

/-- The slot's entry, at index `i`. -/
def Slot.entry (i : Nat) : Slot → BitfieldInfoHeap
  | .row t row => sysEntry t row
  | .word t row k => mmEntry t row k i

/-- Append the slot's entry. -/
def place (heap : List BitfieldInfoHeap) (s : Slot) :
    List BitfieldInfoHeap :=
  heap ++ [s.entry heap.length]

theorem foldl_place (s : List Slot) :
    s.foldl place [] = s.mapIdx Slot.entry := by
  induction s using List.reverseRecOn with
  | nil => rfl
  | append_singleton s x ih =>
      rw [List.foldl_append, ih, List.mapIdx_concat]
      simp [place]

theorem expandRow_place (t : BitfieldTableEntry)
    (heap : List BitfieldInfoHeap) (row : BitfieldInfo) :
    expandRow t heap row
      = ((List.range row.range.toNat).map (Slot.word t row)).foldl place
          heap := by
  rw [List.foldl_map]
  rfl

theorem expandTable_place (heap : List BitfieldInfoHeap)
    (t : BitfieldTableEntry) :
    expandTable 1 heap t = t.slots.foldl place heap := by
  have hrows : t.tablePtr.foldl
      (fun heap row => heap ++ [sysEntry t row]) heap
      = (rowSlots t).foldl place heap := by
    rw [rowSlots, List.foldl_map]
    rfl
  unfold expandTable BitfieldTableEntry.slots
  cases t.tableType with
  | mm =>
      show t.tablePtr.foldl (expandRow t) heap = (wordSlots t).foldl place _
      rw [wordSlots, List.foldl_flatMap]
      congr 1
      funext heap row
      exact expandRow_place t heap row
  | impl => exact hrows
  | arch => exact hrows

/-- The expansion is the plan's entries, each at its index. -/
theorem expanded_slots (includeDevices : Int)
    (tables : List BitfieldTableEntry) :
    expanded (included includeDevices tables)
      = (slots includeDevices tables).mapIdx Slot.entry := by
  rw [← foldl_place, slots, List.foldl_flatMap, expanded]
  congr 1
  funext heap t
  exact expandTable_place heap t

theorem included_sublist (includeDevices : Int)
    (tables : List BitfieldTableEntry) :
    (included includeDevices tables).Sublist tables := by
  unfold included
  split
  · exact List.Sublist.refl tables
  · exact List.filter_sublist

theorem slot_of_mem {includeDevices : Int} {x : Slot}
    (hx : x ∈ slots includeDevices tables) :
    ∃ t ∈ tables, ∃ row ∈ t.tablePtr, x = .row t row
      ∨ ∃ k, k < row.range.toNat ∧ x = .word t row k := by
  obtain ⟨t, ht, hx⟩ := List.mem_flatMap.1 hx
  have hmem : t ∈ tables :=
    (included_sublist includeDevices tables).subset ht
  have hrows : x ∈ rowSlots t →
      ∃ row ∈ t.tablePtr, x = .row t row
        ∨ ∃ k, k < row.range.toNat ∧ x = .word t row k := by
    intro hx
    obtain ⟨row, hrow, rfl⟩ := List.mem_map.1 hx
    exact ⟨row, hrow, Or.inl rfl⟩
  refine ⟨t, hmem, ?_⟩
  unfold BitfieldTableEntry.slots at hx
  cases hty : t.tableType with
  | mm =>
      rw [hty] at hx
      obtain ⟨row, hrow, hx⟩ := List.mem_flatMap.1 hx
      obtain ⟨k, hk, rfl⟩ := List.mem_map.1 hx
      exact ⟨row, hrow, Or.inr ⟨k, List.mem_range.1 hk, rfl⟩⟩
  | impl => exact hrows (by simpa only [hty] using hx)
  | arch => exact hrows (by simpa only [hty] using hx)

/-- A slot's entry is what the slot says, where the names are short. -/
theorem slot_written
    (hnames : ∀ t ∈ tables, ∀ row ∈ t.tablePtr,
      row.registerName.length < 31)
    {includeDevices : Int} {x : Slot}
    (hx : x ∈ slots includeDevices tables) (i : Nat) :
    x.Written i (x.entry i) := by
  obtain ⟨t, ht, row, hrow, hcase⟩ := slot_of_mem hx
  have hname : row.registerName.length ≤ parseMaxRegister - 1 :=
    Nat.le_of_lt (hnames t ht row hrow)
  rcases hcase with rfl | ⟨k, hk, rfl⟩
  · exact ⟨rfl, strncpy_of_le hname⟩
  · exact ⟨rfl, rfl, mmEntry_wordName t hname hk i⟩

-- ================================================================ the sizes

/-- The sum of the ranges, where it fits in 32 bits. -/
theorem tableSizePtr_toNat (h : t.tableSize < 2 ^ 32) :
    t.tableSizePtr.toNat = t.tableSize := by
  have hsum : ∀ (rows : List BitfieldInfo) (n : U32),
      n.toNat + (rows.map fun r => r.range.toNat).sum < 2 ^ 32 →
        (rows.foldl (fun sumSize row => sumSize + row.range) n).toNat
          = n.toNat + (rows.map fun r => r.range.toNat).sum := by
    intro rows
    induction rows with
    | nil => intro n _; rfl
    | cons row rows ih =>
        intro n hn
        rw [List.map_cons, List.sum_cons] at hn ⊢
        have hadd : (n + row.range).toNat = n.toNat + row.range.toNat := by
          rw [BitVec.toNat_add]
          exact Nat.mod_eq_of_lt (by omega)
        rw [List.foldl_cons, ih _ (by omega), hadd]
        omega
  unfold BitfieldTableEntry.tableSizePtr
  unfold BitfieldTableEntry.tableSize at h ⊢
  cases hty : t.tableType with
  | mm =>
      rw [hty] at h
      have hrows := hsum t.tablePtr 0 (by simpa using h)
      simpa using hrows
  | impl =>
      rw [hty] at h
      exact (BitVec.toNat_ofNat _ _).trans (Nat.mod_eq_of_lt h)
  | arch =>
      rw [hty] at h
      exact (BitVec.toNat_ofNat _ _).trans (Nat.mod_eq_of_lt h)

theorem sizeof_pos (target : Target) :
    2 ≤ sizeofBitfieldInfoHeap target := by
  cases target <;> decide

/-- A size of a table is below half of what 32 bits count. -/
theorem toInt_tableSizePtr (h : t.tableSize
    * sizeofBitfieldInfoHeap target < 2 ^ 32) :
    t.tableSizePtr.toInt = t.tableSize := by
  have htwo := Nat.mul_le_mul_left t.tableSize (sizeof_pos target)
  have hsmall : t.tableSize < 2 ^ 31 := by omega
  have hnat := tableSizePtr_toNat (t := t) (by omega)
  rw [BitVec.toInt_eq_toNat_of_lt (by omega), hnat]

/-- The bytes asked for are those of the entries. -/
theorem bufferSize_toNat
    (h : (tables.map BitfieldTableEntry.tableSize).sum
      * sizeofBitfieldInfoHeap target < 2 ^ 32) :
    (Buffer.bufferSize target tables).toNat
      = (tables.map BitfieldTableEntry.tableSize).sum
          * sizeofBitfieldInfoHeap target := by
  have hsum : ∀ n : U32, n.toNat
      + (tables.map BitfieldTableEntry.tableSize).sum
        * sizeofBitfieldInfoHeap target < 2 ^ 32 →
      (tables.foldl
        (fun bufferSize t => bufferSize + .ofInt 32
          (t.tableSizePtr.toInt * sizeofBitfieldInfoHeap target))
        n).toNat
        = n.toNat + (tables.map BitfieldTableEntry.tableSize).sum
          * sizeofBitfieldInfoHeap target := by
    clear h
    induction tables with
    | nil => intro n _; simp
    | cons t tables ih =>
        intro n hn
        rw [List.map_cons, List.sum_cons, Nat.add_mul] at hn ⊢
        have hbytes : t.tableSize * sizeofBitfieldInfoHeap target
            < 2 ^ 32 := by omega
        have hint := toInt_tableSizePtr hbytes
        have hcast : (t.tableSize : Int)
            * (sizeofBitfieldInfoHeap target : Int)
            = ((t.tableSize * sizeofBitfieldInfoHeap target : Nat) : Int) :=
          (Int.natCast_mul _ _).symm
        have hword : (BitVec.ofInt 32 (t.tableSizePtr.toInt
            * sizeofBitfieldInfoHeap target)).toNat
            = t.tableSize * sizeofBitfieldInfoHeap target := by
          rw [hint, hcast, BitVec.ofInt_natCast, BitVec.toNat_ofNat]
          exact Nat.mod_eq_of_lt (by omega)
        have hadd : (n + BitVec.ofInt 32 (t.tableSizePtr.toInt
            * sizeofBitfieldInfoHeap target)).toNat
            = n.toNat + t.tableSize * sizeofBitfieldInfoHeap target := by
          rw [BitVec.toNat_add, hword]
          exact Nat.mod_eq_of_lt (by omega)
        rw [List.foldl_cons, ih _ (by omega), hadd]
        omega
  exact (hsum 0 (by simpa using h)).trans (Nat.zero_add _)

/-- So there is room for each. -/
theorem malloc_length
    (h : (tables.map BitfieldTableEntry.tableSize).sum
      * sizeofBitfieldInfoHeap target < 2 ^ 32) :
    (Buffer.malloc target (Buffer.bufferSize target tables)).length
      = (tables.map BitfieldTableEntry.tableSize).sum := by
  have hpos := sizeof_pos target
  rw [Buffer.malloc, List.length_replicate, bufferSize_toNat h]
  exact Nat.mul_div_cancel _ (by omega)

-- ================================================================ the loops

/-- The block, with room for `cap` entries, is written as far as the
list goes. -/
structure Holds (cap : Nat) (s : Buffer.State)
    (heap : List BitfieldInfoHeap) : Prop where
  index : s.bufferIndex.toNat = heap.length
  block : s.block
    = heap.map some ++ List.replicate (cap - heap.length) none
  inside : heap.length ≤ cap

/-- There is room for the list. -/
def Room (cap : Nat) (heap : List BitfieldInfoHeap) : Prop :=
  heap.length ≤ cap

variable {cap : Nat} {s : Buffer.State} {heap : List BitfieldInfoHeap}
  {sl : List Slot}

theorem Holds.block_length (h : Holds cap s heap) :
    s.block.length = cap := by
  have hinside := h.inside
  rw [h.block, List.length_append, List.length_map,
    List.length_replicate]
  omega

/-- A store behind the list, where there is room, appends to it. -/
theorem put_holds (hcap : cap < 2 ^ 32) (h : Holds cap s heap)
    {entry : U32 → BitfieldInfoHeap} {e : BitfieldInfoHeap}
    (he : entry s.bufferIndex = e) (hroom : Room cap (heap ++ [e])) :
    ∃ s', Buffer.put s entry = .ok s' ∧ Holds cap s' (heap ++ [e]) := by
  have hlt : heap.length < cap := by
    unfold Room at hroom
    rw [List.length_append, List.length_singleton] at hroom
    omega
  have hinside : s.bufferIndex.toNat < s.block.length := by
    rw [h.index, h.block_length]
    exact hlt
  refine ⟨_, if_pos hinside, ?_, ?_, ?_⟩
  · show (s.bufferIndex + 1).toNat = _
    have hindex := h.index
    rw [BitVec.toNat_add, List.length_append, List.length_singleton]
    exact (Nat.mod_eq_of_lt (by simp; omega)).trans (by simp; omega)
  · show s.block.set s.bufferIndex.toNat (some (entry s.bufferIndex)) = _
    obtain ⟨n, hn⟩ : ∃ n, cap - heap.length = n + 1 :=
      ⟨cap - heap.length - 1, by omega⟩
    have hless : cap - (heap ++ [e]).length = n := by
      rw [List.length_append, List.length_singleton]
      omega
    have hlen : (heap.map some).length ≤ heap.length :=
      Nat.le_of_eq (List.length_map _)
    rw [he, h.index, h.block, hn, hless, List.set_append_right _ _ hlen,
      List.length_map, Nat.sub_self, List.replicate_succ, List.set_cons_zero,
      List.map_append, List.append_assoc]
    rfl
  · exact hroom

/-- The loop over a table's rows is in step with the list's when its
passes are. -/
theorem rows_hold (hrows : t.tablePtr.length < 2 ^ 31)
    {f : Buffer.State → Nat → Except Fault Buffer.State}
    {g : List BitfieldInfoHeap → BitfieldInfo → List BitfieldInfoHeap}
    (hstep : ∀ j row, t.tablePtr[j]? = some row → ∀ s heap,
      Holds cap s heap → Room cap (g heap row) →
        ∃ s', f s j = .ok s' ∧ Holds cap s' (g heap row))
    (hgrow : ∀ heap row, heap.length ≤ (g heap row).length)
    (h : Holds cap s heap) (hend : Room cap (t.tablePtr.foldl g heap)) :
    ∃ s', (Buffer.countTo (.ofNat 32 t.tablePtr.length)).foldlM f s
        = .ok s'
      ∧ Holds cap s' (t.tablePtr.foldl g heap) := by
  have hcount : Buffer.countTo (.ofNat 32 t.tablePtr.length)
      = t.tablePtr.zipIdx.map Prod.snd := by
    have hnat : (BitVec.ofNat 32 t.tablePtr.length).toNat
        = t.tablePtr.length := by
      rw [BitVec.toNat_ofNat]
      exact Nat.mod_eq_of_lt (by omega)
    rw [List.zipIdx_map_snd, Buffer.countTo,
      BitVec.toInt_eq_toNat_of_lt (by omega), hnat, Int.toNat_natCast,
      List.range_eq_range']
  have hfold : t.tablePtr.foldl g heap
      = t.tablePtr.zipIdx.foldl (fun heap p => g heap p.1) heap := by
    calc t.tablePtr.foldl g heap
        = (t.tablePtr.zipIdx.map Prod.fst).foldl g heap := by
          rw [List.zipIdx_map_fst]
      _ = _ := List.foldl_map
  rw [hcount, List.foldlM_map, hfold]
  rw [hfold] at hend
  refine foldlM_refines ?_ ?_ h hend
  · rintro ⟨row, j⟩ hmem s heap hs hroom
    exact hstep j row (List.mem_zipIdx_iff_getElem?.1 hmem) s heap hs
      hroom
  · exact fun p _ heap hroom => (hgrow heap p.1).trans hroom

theorem rowAt_some {j : Nat} (h : t.tablePtr[j]? = some row) :
    Buffer.rowAt t j = .ok row := by
  rw [Buffer.rowAt, h]

theorem sysRow_holds (hcap : cap < 2 ^ 32) {j : Nat}
    (hj : t.tablePtr[j]? = some row) (h : Holds cap s heap)
    (hroom : Room cap (heap ++ [sysEntry t row])) :
    ∃ s', Buffer.sysRow t s j = .ok s'
      ∧ Holds cap s' (heap ++ [sysEntry t row]) := by
  rw [Buffer.sysRow, rowAt_some hj, ok_bind]
  exact put_holds hcap h rfl hroom

/-- The words of a row, at the indices the list gives them. -/
theorem mmRow_holds (hcap : cap < 2 ^ 32) {j : Nat}
    (hj : t.tablePtr[j]? = some row) (h : Holds cap s heap)
    (hroom : Room cap (expandRow t heap row)) :
    ∃ s', Buffer.mmRow t s j = .ok s'
      ∧ Holds cap s' (expandRow t heap row) := by
  rw [Buffer.mmRow, rowAt_some hj, ok_bind]
  refine foldlM_refines ?_ ?_ h hroom
  · intro k _ s heap hs hroom
    exact put_holds hcap hs (by rw [hs.index]) hroom
  · intro k _ heap hroom
    unfold Room at hroom ⊢
    rw [List.length_append] at hroom
    omega

/-- The expansion of a table only appends. -/
theorem expandTable_grows (includeDevices : Int)
    (heap : List BitfieldInfoHeap) (t : BitfieldTableEntry) :
    heap.length ≤ (expandTable includeDevices heap t).length := by
  by_cases hinc : includeDevices = 1
  · rw [hinc]
    exact (expandTable_extends heap t).length_le
  · cases hsys : t.system with
    | true =>
        rw [expandTable_system hsys]
        exact (expandTable_extends heap t).length_le
    | false =>
        have hmm : t.tableType = .mm := by
          simpa [BitfieldTableEntry.system] using hsys
        simp [expandTable, hmm, hinc]

theorem expandTable_holds (hcap : cap < 2 ^ 32)
    (hrows : t.tablePtr.length < 2 ^ 31) (includeDevices : Int)
    (h : Holds cap s heap)
    (hend : Room cap (expandTable includeDevices heap t)) :
    ∃ s', Buffer.expandTable includeDevices s t = .ok s'
      ∧ Holds cap s' (expandTable includeDevices heap t) := by
  have hsys : t.tableType ≠ .mm →
      Room cap (t.tablePtr.foldl
        (fun heap row => heap ++ [sysEntry t row]) heap) →
      ∃ s', (Buffer.countTo t.tableSizePtr).foldlM (Buffer.sysRow t) s
          = .ok s'
        ∧ Holds cap s' (t.tablePtr.foldl
          (fun heap row => heap ++ [sysEntry t row]) heap) := by
    intro hty hend
    have hsize : t.tableSizePtr = .ofNat 32 t.tablePtr.length := by
      unfold BitfieldTableEntry.tableSizePtr
      cases hmm : t.tableType with
      | mm => exact absurd hmm hty
      | impl => rfl
      | arch => rfl
    rw [hsize]
    exact rows_hold hrows
      (fun j row hj s heap hs => sysRow_holds hcap hj hs)
      (fun heap row => by simp) h hend
  unfold expandTable at hend ⊢
  unfold Buffer.expandTable
  cases hty : t.tableType with
  | mm =>
      rw [hty] at hend
      dsimp only at hend ⊢
      by_cases hinc : includeDevices = 1
      · rw [if_pos hinc] at hend
        rw [if_pos hinc, if_pos hinc]
        exact rows_hold hrows
          (fun j row hj s heap hs => mmRow_holds hcap hj hs)
          (fun heap row => by rw [expandRow_length]; omega) h hend
      · rw [if_neg hinc, if_neg hinc]
        exact ⟨s, rfl, h⟩
  | impl =>
      rw [hty] at hend
      exact hsys (by simp [hty]) hend
  | arch =>
      rw [hty] at hend
      exact hsys (by simp [hty]) hend

-- ================================================================= the whole

/-- The block has room for what the read takes in. -/
theorem expanded_room (includeDevices : Int)
    (tables : List BitfieldTableEntry) :
    Room (tables.map BitfieldTableEntry.tableSize).sum
      (expanded (included includeDevices tables)) := by
  unfold Room
  rw [expanded_length]
  exact ((included_sublist includeDevices tables).map _).sum_le_sum
    fun _ _ => Nat.zero_le _

/-- With a block the read writes the list model's entries into it. -/
theorem readTables_holds (hfit : Fits target tables)
    (includeDevices : Int) {a : Alloc} (ha : a 0 = true)
    (g : Buffer.Globals) :
    ∃ s, Buffer.readTablesToMemory target a tables includeDevices g
        = .ok (0, ⟨some s.block, s.bufferIndex⟩, a.rest)
      ∧ Holds (tables.map BitfieldTableEntry.tableSize).sum s
          (expanded (included includeDevices tables)) := by
  have htwo := Nat.mul_le_mul_left
    (tables.map BitfieldTableEntry.tableSize).sum (sizeof_pos target)
  have hbytes := hfit.bytes
  have hroom := expanded_room includeDevices tables
  have hlen := malloc_length hbytes
  have hstart : Holds (tables.map BitfieldTableEntry.tableSize).sum
      ⟨0, Buffer.malloc target (Buffer.bufferSize target tables)⟩ [] := by
    constructor
    · rfl
    · rw [Buffer.malloc, List.length_replicate] at hlen
      rw [Buffer.malloc, hlen]
      rfl
    · exact Nat.zero_le _
  rw [expanded, ← foldl_expandTable] at hroom ⊢
  obtain ⟨s, hread, hs⟩ := foldlM_refines
    (fun t ht s heap hs => expandTable_holds (by omega) (hfit.rows t ht)
      includeDevices hs)
    (fun t _ heap hroom =>
      (expandTable_grows includeDevices heap t).trans hroom)
    hstart hroom
  refine ⟨s, ?_, hs⟩
  rw [Buffer.readTablesToMemory, if_pos ha, hread]
  rfl

/-- The entries a list leaves in a block are its own. -/
theorem Holds.holding (h : Holds cap s (sl.mapIdx Slot.entry))
    (hwritten : ∀ x ∈ sl, ∀ i, x.Written i (x.entry i)) :
    Holding sl s.block s.bufferIndex := by
  have hlen := h.block_length
  have hinside := h.inside
  have hmap : ((sl.mapIdx Slot.entry).map some).length = sl.length := by
    rw [List.length_map, List.length_mapIdx]
  constructor
  · rw [h.index, List.length_mapIdx]
  · rw [hlen]
    rwa [List.length_mapIdx] at hinside
  · intro i x hx
    have hi : i < sl.length := (List.getElem?_eq_some_iff.1 hx).1
    refine ⟨x.entry i, ?_, hwritten x (List.mem_of_getElem? hx) i⟩
    rw [h.block, List.getElem?_append_left (by omega), List.getElem?_map,
      List.getElem?_mapIdx, hx]
    rfl
  · intro i hge hlt
    rw [hlen] at hlt
    rw [List.length_mapIdx] at hinside
    rw [h.block, List.getElem?_append_right (by omega),
      List.getElem?_replicate, if_pos]
    rw [hmap, List.length_mapIdx]
    omega

/-- Where the memory-mapped tables come last, so do their words. -/
theorem slots_split {systems devices : List BitfieldTableEntry}
    (hsys : ∀ t ∈ systems, t.system = true)
    (hmm : ∀ t ∈ devices, t.tableType = .mm) (includeDevices : Int) :
    slots includeDevices (systems ++ devices)
      = systems.flatMap rowSlots
        ++ if includeDevices = 1 then devices.flatMap wordSlots
          else [] := by
  have hrows : systems.flatMap (·.slots) = systems.flatMap rowSlots := by
    refine List.flatMap_congr fun t ht => ?_
    have hty := hsys t ht
    unfold BitfieldTableEntry.system at hty
    unfold BitfieldTableEntry.slots
    cases htype : t.tableType with
    | mm => simp [htype] at hty
    | impl => rfl
    | arch => rfl
  have hwords : devices.flatMap (·.slots)
      = devices.flatMap wordSlots := by
    refine List.flatMap_congr fun t ht => ?_
    rw [BitfieldTableEntry.slots, hmm t ht]
  have hnone : devices.filter BitfieldTableEntry.system = [] := by
    refine List.filter_eq_nil_iff.2 fun t ht => ?_
    simp [BitfieldTableEntry.system, hmm t ht]
  unfold slots included
  split
  · rw [List.flatMap_append, hrows, hwords]
  · rw [List.filter_append, List.filter_eq_self.2 hsys, hnone,
      List.append_nil, List.append_nil, hrows]

/-- The expansion stays in its block and is whole. -/
theorem expansion_fits (hfit : Fits target tables) (includeDevices : Int)
    (a : Alloc) (g : Buffer.Globals) :
    (a 0 = false →
      Buffer.readTablesToMemory target a tables includeDevices g
        = .ok (-1, { g with gBitfieldTableHeap := none }, a.rest))
      ∧ (a 0 = true → ∃ block size,
        Buffer.readTablesToMemory target a tables includeDevices g
            = .ok (0, ⟨some block, size⟩, a.rest)
          ∧ block.length = (Buffer.bufferSize target tables).toNat
              / sizeofBitfieldInfoHeap target
          ∧ Holding (slots includeDevices tables) block size)
      ∧ ∀ systems devices, tables = systems ++ devices →
          (∀ t ∈ systems, t.system = true) →
          (∀ t ∈ devices, t.tableType = .mm) →
          slots includeDevices tables
            = systems.flatMap rowSlots
              ++ if includeDevices = 1 then devices.flatMap wordSlots
                else [] := by
  refine ⟨fun ha => ?_, fun ha => ?_, ?_⟩
  · rw [Buffer.readTablesToMemory, if_neg (by simp [ha])]
  · obtain ⟨s, hread, hs⟩ := readTables_holds hfit includeDevices ha g
    have hcap := malloc_length hfit.bytes
    rw [Buffer.malloc, List.length_replicate] at hcap
    have hlen := hs.block_length
    rw [expanded_slots] at hs
    exact ⟨s.block, s.bufferIndex, hread, by rw [hlen, hcap],
      hs.holding fun x hx i => slot_written hfit.names hx i⟩
  · rintro systems devices rfl hsys hmm
    exact slots_split hsys hmm includeDevices

/-- The library's own system registers are of one of its architectures. -/
theorem shipped_archTables {t : BitfieldTableEntry}
    (ht : t ∈ bitfieldTable) (hsys : t.system = true) :
    t ∈ archTables archArmv7a ∨ t ∈ archTables archArmv8a := by
  have hone : ∀ t ∈ bitfieldTable, t.system = true →
      (t.tableType = .impl
        ∧ (archArmv7a = getArchFromImpl t.partNumber
          ∨ archArmv8a = getArchFromImpl t.partNumber))
      ∨ (t.tableType = .arch
        ∧ (t.partNumber = archArmv7a ∨ t.partNumber = archArmv8a)) := by
    decide +kernel
  rcases hone t ht hsys with ⟨hty, h | h⟩ | ⟨hty, h | h⟩
  · exact Or.inl (List.mem_filter.2 ⟨ht, by simp [hty, h]⟩)
  · exact Or.inr (List.mem_filter.2 ⟨ht, by simp [hty, h]⟩)
  · exact Or.inl (List.mem_filter.2 ⟨ht, by simp [hty, h]⟩)
  · exact Or.inr (List.mem_filter.2 ⟨ht, by simp [hty, h]⟩)

/-- The names in the library's own tables are short. -/
theorem shipped_names : ∀ t ∈ bitfieldTable, ∀ row ∈ t.tablePtr,
    row.registerName.length < 31 := by
  have hlong : ∀ arch, arch = archArmv7a ∨ arch = archArmv8a →
      ∀ t ∈ archTables arch, ∀ row ∈ t.tablePtr,
        row.registerName.length < 31 := by
    intro arch hor t ht row hrow
    have hmem : (row.registerName, row.registerUid) ∈ sysNames arch :=
      List.mem_flatMap.2 ⟨t, ht, List.mem_map_of_mem hrow⟩
    have hlen : row.registerName.length ≤ 30 :=
      (sysNames_ok hor).length _ hmem
    omega
  intro t ht row hrow
  cases hsys : t.system with
  | true =>
      rcases shipped_archTables ht hsys with h | h
      · exact hlong _ (Or.inl rfl) t h row hrow
      · exact hlong _ (Or.inr rfl) t h row hrow
  | false =>
      have hdev : t ∈ deviceTables :=
        List.mem_filter.2 ⟨ht, by simp [hsys]⟩
      have hmem : (row.registerName, t.partNumber, row.registerUid,
          row.range) ∈ deviceNames :=
        List.mem_flatMap.2 ⟨t, hdev, List.mem_map_of_mem hrow⟩
      have hlen : row.registerName.length ≤ 20 :=
        deviceNames_ok.length _ hmem
      omega

/-- The library's own tables, devices included: these come last. -/
theorem expansion_fits_shipped :
    ∃ block size,
      Buffer.readTablesToMemory .aarch64 .ok bitfieldTable 1 {}
          = .ok (0, ⟨some block, size⟩, .ok)
        ∧ Holding (systemTables.flatMap rowSlots
          ++ deviceTables.flatMap wordSlots) block size := by
  have hfit : Fits .aarch64 bitfieldTable :=
    ⟨shipped_names, by decide +kernel, by decide +kernel⟩
  have hsys : ∀ t ∈ systemTables, t.system = true := fun t ht =>
    (List.mem_filter.1 ht).2
  obtain ⟨-, hread, hsplit⟩ := expansion_fits hfit 1 .ok {}
  obtain ⟨block, size, hread, -, hblock⟩ := hread rfl
  rw [hsplit _ _ bitfieldTable_split hsys deviceTables_mm,
    if_pos rfl] at hblock
  exact ⟨block, size, hread, hblock⟩

end Maplesyrup
