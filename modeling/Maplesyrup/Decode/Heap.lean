/-
The decode tables in memory (lib/src/parse_breakout.c): how the shipped
tables are expanded into one heap table, and the lookups by uid and by
MIDR that every later pass makes.

# Allocation

`calloc` and `malloc` may fail at any call. A schedule `Alloc` says
which calls do: each takes its head and leaves the tail to the next.

# Lookups

A uid that is not in the heap table makes the string lookups return
NULL, which their callers hand to `strncpy`; here the lookup is `none`
and so is what a caller makes of it.
-/
import Maplesyrup.Tables.Armv7a
import Maplesyrup.Tables.Armv8a
import Maplesyrup.Tables.Gicv2

namespace Maplesyrup

-- ========================================================== allocation

/-- Which of the coming allocations succeed. -/
abbrev Alloc := Nat → Bool

/-- The schedule after one call. -/
def Alloc.rest (a : Alloc) : Alloc := fun n => a (n + 1)

/-- No allocation fails. -/
def Alloc.ok : Alloc := fun _ => true

/-- `ms_list_add` of a fresh element, which has to be allocated. -/
def msListAdd {α : Type*} (a : Alloc) (list : List α) (x : α) :
    Int × List α × Alloc :=
  if a 0 then (0, list ++ [x], a.rest) else (-1, list, a.rest)

@[simp] theorem msListAdd_ok {α : Type*} (list : List α) (x : α) :
    msListAdd .ok list x = (0, list ++ [x], .ok) := rfl

-- ============================================================ the tables

inductive TableType
  | impl
  | arch
  /-- Memory-mapped components. -/
  | mm
deriving DecidableEq, Repr

/-- A shipped table: its type, its part number, its rows. -/
structure BitfieldTableEntry where
  tableType : TableType
  partNumber : U32
  tablePtr : List BitfieldInfo

/-- `table_size_ptr()`: heap entries the table expands into. -/
def BitfieldTableEntry.tableSize (t : BitfieldTableEntry) : Nat :=
  match t.tableType with
  | .mm => (t.tablePtr.map fun r => r.range.toNat).sum
  | _ => t.tablePtr.length

def bitfieldTable : List BitfieldTableEntry := [
  ⟨.impl, implCortexA7, bitfieldCortexA7Table⟩,
  ⟨.impl, implCortexA15, bitfieldCortexA15Table⟩,
  ⟨.impl, implCortexA53, bitfieldCortexA53Table⟩,
  ⟨.impl, implCortexA57, bitfieldCortexA57Table⟩,
  ⟨.arch, archArmv7a, bitfieldArmv7aTable⟩,
  ⟨.arch, archArmv8a, bitfieldArmv8aTable⟩,
  ⟨.mm, giccV2, bitfieldGiccv2Table⟩,
  ⟨.mm, gicdV2, bitfieldGicdv2Table⟩]

/-- An expanded entry. `info.registerName` is not set in the heap; the
name is `registerNameExpanded`. -/
structure BitfieldInfoHeap where
  tableType : TableType
  registerNameExpanded : String
  info : BitfieldInfo
deriving DecidableEq, Repr

def msGicv2Alignment : U32 := 4

/-- The register uid of word `k` of a memory-mapped row. -/
def createUid (row : BitfieldInfo) (k : Nat) (part : U32) : U32 :=
  mscode part row.registerUid
    (row.registerUid + .ofNat 32 k * msGicv2Alignment)

/-- The heap entry of a system-register row. -/
def sysEntry (t : BitfieldTableEntry) (row : BitfieldInfo) :
    BitfieldInfoHeap where
  tableType := t.tableType
  registerNameExpanded :=
    strncpy row.registerName (parseMaxRegister - 1)
  info :=
    { row with
      uid := mscode t.partNumber row.registerUid row.uid
      registerName := "" }

/-- The heap entry of word `k` of a memory-mapped row, at `bufferIndex`
in the heap. -/
def mmEntry (t : BitfieldTableEntry) (row : BitfieldInfo) (k : Nat)
    (bufferIndex : Nat) : BitfieldInfoHeap where
  tableType := t.tableType
  registerNameExpanded :=
    if 1 < row.range.toNat then
      strncpy row.registerName (parseMaxRegister - 1)
        ++ strncpy (strncpy (toString k) 31) (parseMaxRegister - 1)
    else strncpy row.registerName (parseMaxRegister - 1)
  info :=
    { row with
      registerUid := createUid row k t.partNumber
      uid :=
        if 1 < row.range.toNat then
          mscode t.partNumber row.registerUid (.ofNat 32 bufferIndex)
        else mscode t.partNumber row.registerUid row.uid
      registerName := "" }

/-- Append the entries of one memory-mapped row. -/
def expandRow (t : BitfieldTableEntry) (heap : List BitfieldInfoHeap)
    (row : BitfieldInfo) : List BitfieldInfoHeap :=
  (List.range row.range.toNat).foldl
    (fun heap k => heap ++ [mmEntry t row k heap.length]) heap

/-- Append the entries of one table. -/
def expandTable (includeDevices : Int) (heap : List BitfieldInfoHeap)
    (t : BitfieldTableEntry) : List BitfieldInfoHeap :=
  match t.tableType with
  | .mm =>
      if includeDevices = 1 then t.tablePtr.foldl (expandRow t) heap
      else heap
  | _ => t.tablePtr.foldl (fun heap row => heap ++ [sysEntry t row]) heap

/-- The block `g_bitfield_table_heap` points to: the entries allocated
and those written, from the first on. -/
structure TableBlock where
  capacity : Nat
  entries : List BitfieldInfoHeap
deriving DecidableEq

/-- The library's two table variables. -/
structure TableGlobals where
  gBitfieldTableHeap : Option TableBlock := none
  gBitfieldTableSize : Nat := 0
deriving DecidableEq

/-- Expand the tables into a fresh block. -/
def readTablesToMemory (a : Alloc) (tables : List BitfieldTableEntry)
    (includeDevices : Int) (g : TableGlobals) :
    Int × TableGlobals × Alloc :=
  let bufferSize := (tables.map BitfieldTableEntry.tableSize).sum
  if a 0 then
    let heap := tables.foldl (expandTable includeDevices) []
    (0, ⟨some ⟨bufferSize, heap⟩, heap.length⟩, a.rest)
  else (-1, { g with gBitfieldTableHeap := none }, a.rest)

-- =========================================================== uid lookups

/-- Index of the first entry with this uid. -/
def breakoutGetIndex (heap : List BitfieldInfoHeap) (code : U32) :
    Option Nat :=
  heap.findIdx? fun h => h.info.uid == code

def getRegisterName (heap : List BitfieldInfoHeap) (code : U32) :
    Option String :=
  (breakoutGetIndex heap code).bind fun index =>
    heap[index]?.map (·.registerNameExpanded)

def getFunctionalGroup (heap : List BitfieldInfoHeap) (code : U32) :
    Option String :=
  (breakoutGetIndex heap code).bind fun index =>
    heap[index]?.map (·.info.functionalGroup)

def getDescription (heap : List BitfieldInfoHeap) (code : U32) :
    Option String :=
  (breakoutGetIndex heap code).bind fun index =>
    heap[index]?.map (·.info.description)

def getBitfield (heap : List BitfieldInfoHeap) (code : U32) :
    Option String :=
  (breakoutGetIndex heap code).bind fun index =>
    heap[index]?.map (·.info.bitfield)

/-- `%02d`: at least two characters, filled up with zeros. The unsigned
argument is printed as an `int`. -/
def printf02d (n : U32) : String :=
  match n.toInt with
  | .ofNat k => if k < 10 then "0" ++ toString k else toString k
  | .negSucc k => "-" ++ toString (k + 1)

/-- The bits a field takes of its register, as `MSB:LSB`. -/
def getBitfieldstamp (heap : List BitfieldInfoHeap) (code : U32) :
    Option String :=
  (breakoutGetIndex heap code).bind fun index =>
    heap[index]?.map fun h =>
      let lsb := h.info.rightshift
      let msb := h.info.mask - 1 + lsb
      printf02d msb ++ ":" ++ printf02d lsb

-- ================================================================== MIDR

def ppnCortexA7 : U32 := 0xC07
def ppnCortexA9 : U32 := 0xC09
def ppnCortexA15 : U32 := 0xC0F
def ppnCortexA53 : U32 := 0xD03
def ppnCortexA57 : U32 := 0xD07

/-- The C functions below return `int`, and are only compared against
unsigned words: their -1. -/
def noPart : U32 := 0xFFFFFFFF

def getArchFromImpl (impl : U32) : U32 :=
  if impl = implCortexA15 then archArmv7a
  else if impl = implCortexA7 then archArmv7a
  else if impl = implCortexA9 then archArmv7a
  else if impl = implCortexA53 then archArmv8a
  else if impl = implCortexA57 then archArmv8a
  else noPart

/-- The primary part number of a MIDR. -/
def midrPpn (midr : U32) : U32 := (midr >>> 4) &&& 0xFFF

def getArchFromMidr (midr : U32) : U32 :=
  let partNumber := midrPpn midr
  if partNumber = ppnCortexA7 then getArchFromImpl implCortexA7
  else if partNumber = ppnCortexA9 then getArchFromImpl implCortexA9
  else if partNumber = ppnCortexA15 then getArchFromImpl implCortexA15
  else if partNumber = ppnCortexA53 then getArchFromImpl implCortexA53
  else if partNumber = ppnCortexA57 then getArchFromImpl implCortexA57
  else noPart

def getImplFromMidr (midr : U32) : U32 :=
  let partNumber := midrPpn midr
  if partNumber = ppnCortexA7 then implCortexA7
  else if partNumber = ppnCortexA9 then implCortexA9
  else if partNumber = ppnCortexA15 then implCortexA15
  else if partNumber = ppnCortexA53 then implCortexA53
  else if partNumber = ppnCortexA57 then implCortexA57
  else noPart

end Maplesyrup
