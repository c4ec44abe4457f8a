/-
The expansion of the decode tables, with its memory
(`read_tables_to_memory` of lib/src/parse_breakout.c and the size
functions of lib/src/bitfields): how many bytes are asked for, and the
stores through `buffer_index`.

The bytes are summed up in 32 bits, from the sizes the tables give. The
stores are made by loops of their own, over rows and over the words of a
row, which share the index. A store out of the block is a fault.
-/
import Maplesyrup.Common.Handlers
import Maplesyrup.Decode.Heap
import Maplesyrup.Library.Stack

namespace Maplesyrup

/-- `table_size_ptr()`. The tables of memory-mapped components sum up
the ranges of their rows. -/
def BitfieldTableEntry.tableSizePtr (t : BitfieldTableEntry) : U32 :=
  match t.tableType with
  | .mm => t.tablePtr.foldl (fun sumSize row => sumSize + row.range) 0
  | _ => .ofNat 32 t.tablePtr.length

/-- `table_compsize_ptr()`: the rows. -/
def BitfieldTableEntry.tableCompsizePtr (t : BitfieldTableEntry) : U32 :=
  .ofNat 32 t.tablePtr.length

/-- `sizeof(bitfield_info_heap)`: seven words and a name of 64
characters, and four pointers. -/
def sizeofBitfieldInfoHeap : Target → Nat
  | .aarch32 => 108
  | .aarch64 => 128

namespace Buffer

-- =============================================================== the block

/-- The block `g_bitfield_table_heap` points to: the entries that have
room in it, `none` until they are written. -/
abbrev Block := List (Option BitfieldInfoHeap)

/-- `malloc`, of so many bytes. -/
def malloc (target : Target) (bytes : U32) : Block :=
  List.replicate (bytes.toNat / sizeofBitfieldInfoHeap target) none

/-- The library's two table variables. -/
structure Globals where
  gBitfieldTableHeap : Option Block := none
  gBitfieldTableSize : U32 := 0

/-- `buffer_index`, and the block. -/
structure State where
  bufferIndex : U32
  block : Block

/-- Write the entry at `buffer_index`, and step it. -/
def put (s : State) (entry : U32 → BitfieldInfoHeap) :
    Except Fault State :=
  if s.bufferIndex.toNat < s.block.length then
    .ok ⟨s.bufferIndex + 1,
      s.block.set s.bufferIndex.toNat (some (entry s.bufferIndex))⟩
  else .error .access

-- =============================================================== the loops

/-- The passes of a loop that counts an `int` from 0 up to `n`. -/
def countTo (n : U32) : List Nat := List.range n.toInt.toNat

/-- `table_ptr[j]`. -/
def rowAt (t : BitfieldTableEntry) (j : Nat) :
    Except Fault BitfieldInfo :=
  match t.tablePtr[j]? with
  | some row => .ok row
  | none => .error .access

/-- The entry of a system-register row. -/
def sysRow (t : BitfieldTableEntry) (s : State) (j : Nat) :
    Except Fault State := do
  let row ← rowAt t j
  put s fun _ => sysEntry t row

/-- The entries of a memory-mapped row, one for each word. The counter
does not get to where an `int` ends: the block does before. -/
def mmRow (t : BitfieldTableEntry) (s : State) (j : Nat) :
    Except Fault State := do
  let row ← rowAt t j
  (List.range row.range.toNat).foldlM
    (fun s k => put s fun i => mmEntry t row k i.toNat) s

def expandTable (includeDevices : Int) (s : State)
    (t : BitfieldTableEntry) : Except Fault State :=
  match t.tableType with
  | .mm =>
      if includeDevices = 1 then
        (countTo t.tableCompsizePtr).foldlM (mmRow t) s
      else .ok s
  | _ => (countTo t.tableSizePtr).foldlM (sysRow t) s

/-- The bytes asked for. -/
def bufferSize (target : Target) (tables : List BitfieldTableEntry) :
    U32 :=
  tables.foldl
    (fun bufferSize t => bufferSize
      + .ofInt 32 (t.tableSizePtr.toInt * sizeofBitfieldInfoHeap target))
    0

/-- Expand the tables into a fresh block. -/
def readTablesToMemory (target : Target) (a : Alloc)
    (tables : List BitfieldTableEntry) (includeDevices : Int)
    (g : Globals) : Except Fault (Int × Globals × Alloc) :=
  if a 0 then do
    let s ← tables.foldlM (expandTable includeDevices)
      ⟨0, malloc target (bufferSize target tables)⟩
    .ok (0, ⟨some s.block, s.bufferIndex⟩, a.rest)
  else .ok (-1, { g with gBitfieldTableHeap := none }, a.rest)

end Buffer

end Maplesyrup
