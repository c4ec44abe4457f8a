/-
The decoding passes as their callers see them (lib/src/parse_breakout.c):
with pointers that may be NULL, and with the lists each keeps on its
stack and frees before it returns.

# Lists on the stack

Nothing is known of a list on the stack before `ms_list_init`: it is
`none`, and to free it then is a `Fault`. What the passes do between
`ms_list_init` and `ms_list_free` is the functions of the same names in
Decode; their `none` is a fault too.
-/
import Maplesyrup.Decode.Driver
import Maplesyrup.Decode.Value

namespace Maplesyrup

/-- Where the C language gives a run no meaning. -/
inductive Fault
  /-- A list is freed that was never initialised. -/
  | uninitialised
  /-- NULL is read through, or an index that is out of its table. -/
  | access
  /-- An `int` is counted beyond its range. -/
  | overflow
deriving DecidableEq, Repr

/-- A list on the stack, `none` until it is initialised. -/
abbrev StackList (α : Type) := Option (List α)

def msListInit {α : Type} : StackList α := some []

def msListFree {α : Type} : StackList α → Except Fault (StackList α)
  | none => .error .uninitialised
  | some _ => .ok (some [])

/-- A pass that came to no end. -/
def orFault {α : Type} : Option α → Except Fault α
  | none => .error .access
  | some x => .ok x

variable {δ : Type}

namespace Stack

-- ============================================================== the passes

/-- The two lists of the parse functions. -/
structure ParseLists where
  registerBitfieldList : StackList Nat := none
  maskedRegisterList : StackList BitfieldInfoPopulated := none

def ParseLists.init : ParseLists := ⟨msListInit, msListInit⟩

def ParseLists.free (l : ParseLists) : Except Fault ParseLists := do
  let registerBitfieldList ← msListFree l.registerBitfieldList
  let maskedRegisterList ← msListFree l.maskedRegisterList
  .ok ⟨registerBitfieldList, maskedRegisterList⟩

/-- What a parse function leaves: its result, the output list, and the
allocations to come. -/
abbrev Parsed := Int × List BitfieldInfoPopulated × Alloc

/-- The loop over the ioctl results, and the two lists as it leaves
them. -/
def parseLoop (heap : List BitfieldInfoHeap)
    (listInMatches : List ResultsInfo) :
    List IoctlResult → Int → Alloc → List BitfieldInfoPopulated →
      ParseLists → Except Fault (Parsed × ParseLists)
  | [], _, a, listOut, l => .ok ((0, listOut, a), l)
  | x :: xs, result, a, listOut, _ => do
      let l := ParseLists.init
      let (r, indices, a) :=
        breakoutConstructBitfieldList a heap x.registerUid []
      let l := { l with registerBitfieldList := some indices }
      if r ≠ 0 then .ok ((result, listOut, a), l)
      else
        let (result, masked, a) ← orFault (breakoutApplyMasksToList a
          heap x.val64 x.low x.high x.cpu x.epl x.midr x.status indices
          [])
        let l := { l with maskedRegisterList := some masked }
        if result ≠ 0 then .ok ((result, listOut, a), l)
        else
          let (r, listOut, a) ← orFault (breakoutFilterResults a heap
            masked listInMatches listOut)
          if r ≠ 0 then .ok ((result, listOut, a), l)
          else
            let l ← l.free
            parseLoop heap listInMatches xs result a listOut l

/-- Decode the ioctl results. -/
def breakoutParseResults (a : Alloc) (heap : List BitfieldInfoHeap)
    (listInIoctls : Option (List IoctlResult))
    (listInMatches : Option (List ResultsInfo))
    (listOut : Option (List BitfieldInfoPopulated)) :
    Except Fault Parsed :=
  let l : ParseLists := {}
  match listInIoctls, listInMatches, listOut with
  | some listInIoctls, some listInMatches, some listOut => do
      let (r, l) ← parseLoop heap listInMatches listInIoctls (-1) a
        listOut l
      let _ ← l.free
      .ok r
  | _, _, listOut => do
      let _ ← l.free
      .ok (-1, listOut.getD [], a)

/-- Decode the supplied value. -/
def breakoutParseResultsValue (a : Alloc) (heap : List BitfieldInfoHeap)
    (listInMatches : Option (List ResultsInfo))
    (listOut : Option (List BitfieldInfoPopulated)) :
    Except Fault Parsed :=
  let l : ParseLists := {}
  match listInMatches, listOut with
  | some listInMatches, some listOut => do
      let l := ParseLists.init
      let r ← orFault
        (Maplesyrup.breakoutParseResultsValue a heap listInMatches listOut)
      let _ ← l.free
      .ok r
  | _, listOut => do
      let _ ← l.free
      .ok (-1, listOut.getD [], a)

/-- Read every requested register. -/
def breakoutSortIoctls (P : Platform δ) (a : Alloc) (dev : δ)
    (internalList : Option (List ResultsInfo))
    (listOut : Option (List IoctlResult)) :
    Except Fault (Int × List IoctlResult × Alloc × δ) :=
  let toDriver : StackList UsedIoctl := none
  let toUsermode : StackList UsedIoctl := none
  match internalList, listOut with
  | some internalList, some listOut => do
      let toDriver : StackList UsedIoctl := msListInit
      let toUsermode : StackList UsedIoctl := msListInit
      let (status, u) :=
        Maplesyrup.breakoutSortIoctls P a dev internalList listOut
      let _ ← msListFree toDriver
      let _ ← msListFree toUsermode
      .ok (status, u.listOut, u.alloc, u.dev)
  | _, listOut => do
      let _ ← msListFree toDriver
      let _ ← msListFree toUsermode
      .ok (-1, listOut.getD [], a, dev)

-- ============================================================== the search

/-- Free the two lists of `findBitfields` and return. -/
def findDone {α : Type} (requestedBitfieldsList : StackList ResultsInfo)
    (ioctlResultsList : StackList IoctlResult) (r : α) :
    Except Fault α := do
  let _ ← msListFree requestedBitfieldsList
  let _ ← msListFree ioctlResultsList
  .ok r

/-- Find the matching registers and decode what they hold. -/
def findBitfields (P : Platform δ) (a : Alloc)
    (heap : List BitfieldInfoHeap) (dev : δ) (info : Option MatchInfo)
    (list : Option (List BitfieldInfoPopulated)) :
    Except Fault (Parsed × δ) :=
  let requestedBitfieldsList : StackList ResultsInfo := none
  let ioctlResultsList : StackList IoctlResult := none
  match info, list with
  | some info, some list => do
      let ioctlResultsList : StackList IoctlResult := msListInit
      let (r, requested, a) := breakoutSearchTable a heap info []
      let requestedBitfieldsList := some requested
      if r ≠ 0 then
        findDone requestedBitfieldsList ioctlResultsList
          ((-1, list, a), dev)
      else if info.calcValid = 0 then
        let (r, ioctls, a, dev) ← breakoutSortIoctls P a dev
          requestedBitfieldsList ioctlResultsList
        let ioctlResultsList := some ioctls
        if r ≠ 0 then
          findDone requestedBitfieldsList ioctlResultsList
            ((-1, list, a), dev)
        else
          let (r, list, a) ← breakoutParseResults a heap
            ioctlResultsList requestedBitfieldsList (some list)
          if r ≠ 0 then
            findDone requestedBitfieldsList ioctlResultsList
              ((-1, list, a), dev)
          else
            findDone requestedBitfieldsList ioctlResultsList
              ((0, list, a), dev)
      else
        let (r, list, a) ← breakoutParseResultsValue a heap
          requestedBitfieldsList (some list)
        if r ≠ 0 then
          findDone requestedBitfieldsList ioctlResultsList
            ((-1, list, a), dev)
        else
          findDone requestedBitfieldsList ioctlResultsList
            ((0, list, a), dev)
  | _, list =>
      findDone requestedBitfieldsList ioctlResultsList
        ((-1, list.getD [], a), dev)

end Stack

end Maplesyrup
