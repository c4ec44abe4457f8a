/-
From a search request and the raw register words to the decoded fields
(lib/src/parse_breakout.c): `breakout_search_table` picks the table
entries a request asks for, `breakout_parse_results` cuts every word
into the fields of its register and keeps the requested ones.

A pass over a list appends to its output list. `none` is a run the C
language gives no meaning to: a NULL string copied, a list freed that
was never initialised.
-/
import Maplesyrup.Decode.Heap
import Maplesyrup.Decode.Mask

namespace Maplesyrup

-- ============================================================= the search

def breakoutAddMatch (a : Alloc) (list : List ResultsInfo)
    (ppl cpu pl uid ioctl noparse partNumber calcValid : U32)
    (calcValue : U64) : Int × List ResultsInfo × Alloc :=
  msListAdd a list
    { registerUid := ioctl
      uid := uid
      ppl := ppl
      cpu := cpu
      pl := pl
      noparse := noparse
      partNumber := partNumber
      calcValid := calcValid
      calcValue := calcValue }

/-- The uid, the functional group or the register name is the one asked
for. -/
def MatchInfo.matchesKey (info : MatchInfo) (h : BitfieldInfoHeap) :
    Bool :=
  h.info.uid == info.uid
    || strncmp h.info.functionalGroup info.functionalGroup
        (parseMaxFunctional - 1)
    || strncmp h.registerNameExpanded info.registerName
        (parseMaxRegister - 1)

/-- The entry's table is one the request asks for. Memory-mapped
components are assumed to exist. -/
def MatchInfo.matchesTable (info : MatchInfo) (h : BitfieldInfoHeap) :
    Bool :=
  let part := mscodePartnumber h.info.uid
  match h.tableType with
  | .impl =>
      info.architecture == getArchFromImpl part
        && (info.implementation == implAll
          || info.implementation == part)
  | .arch => part == info.architecture
  | .mm => true

/-- The entry is requested. -/
def MatchInfo.selects (info : MatchInfo) (h : BitfieldInfoHeap) : Bool :=
  info.matchesKey h && info.matchesTable h

/-- Append a request for every entry that matches. An entry that cannot
be recorded is passed over. -/
def breakoutSearchTable (a : Alloc) (heap : List BitfieldInfoHeap)
    (info : MatchInfo) (listOut : List ResultsInfo) :
    Int × List ResultsInfo × Alloc :=
  let (list, a) := heap.foldl
    (fun (list, a) h =>
      if info.selects h then
        (breakoutAddMatch a list h.info.ppl info.cpu info.pl h.info.uid
          h.info.registerUid info.noparse
          (mscodePartnumber h.info.uid) info.calcValid
          info.calcValue).2
      else (list, a))
    (listOut, a)
  (0, list, a)

-- ============================================================== the passes

/-- Record the index of every entry of the register. One that cannot be
recorded is passed over. -/
def breakoutConstructBitfieldList (a : Alloc)
    (heap : List BitfieldInfoHeap) (ioctl : U32) (indexListOut : List Nat) :
    Int × List Nat × Alloc :=
  let (list, a) := heap.zipIdx.foldl
    (fun (list, a) (h, i) =>
      if h.info.registerUid = ioctl then (msListAdd a list i).2
      else (list, a))
    (indexListOut, a)
  (0, list, a)

/-- Append a decoded field, named after the heap entry of its uid. -/
def breakoutAddBitfieldResult (a : Alloc) (heap : List BitfieldInfoHeap)
    (list : List BitfieldInfoPopulated) (uid ioctl : U32)
    (value uvalue : U64) (cpu epl midr status : U32) :
    Option (Int × List BitfieldInfoPopulated × Alloc) :=
  if a 0 then do
    let description ← getDescription heap uid
    let registerName ← getRegisterName heap uid
    let functionalGroup ← getFunctionalGroup heap uid
    let bitfield ← getBitfield heap uid
    let populated : BitfieldInfoPopulated :=
      { description := strncpy description (parseMaxDescription - 1)
        registerName := strncpy registerName (parseMaxRegister - 1)
        functionalGroup :=
          strncpy functionalGroup (parseMaxFunctional - 1)
        bitfield := strncpy bitfield (parseMaxBitfield - 1)
        value := value
        uvalue := uvalue
        ioctl := ioctl
        uid := uid
        cpu := cpu
        epl := epl
        midr := midr
        status := status }
    some (0, list ++ [populated], a.rest)
  else some (-1, list, a.rest)

/-- Append a raw word, named after the heap entry of a uid. -/
def breakoutAddNoparseResult (a : Alloc) (heap : List BitfieldInfoHeap)
    (list : List BitfieldInfoPopulated) (uid ioctl : U32)
    (uvalue : U64) (cpu epl midr status : U32) :
    Option (Int × List BitfieldInfoPopulated × Alloc) :=
  if a 0 then do
    let registerName ← getRegisterName heap uid
    let functionalGroup ← getFunctionalGroup heap uid
    let populated : BitfieldInfoPopulated :=
      { description := strncpy "None" (parseMaxDescription - 1)
        registerName := strncpy registerName (parseMaxRegister - 1)
        functionalGroup :=
          strncpy functionalGroup (parseMaxFunctional - 1)
        bitfield := strncpy "Unparsed" (parseMaxBitfield - 1)
        value := uvalue
        uvalue := uvalue
        ioctl := ioctl
        uid := uid
        cpu := cpu
        epl := epl
        midr := midr
        status := status }
    some (0, list ++ [populated], a.rest)
  else some (-1, list, a.rest)

/-- Cut a payload into the fields at these indices. -/
def breakoutApplyMasksToList (a : Alloc) (heap : List BitfieldInfoHeap)
    (valIn64 : U64) (low high cpuIn epl midr status : U32) :
    List Nat → List BitfieldInfoPopulated →
      Option (Int × List BitfieldInfoPopulated × Alloc)
  | [], listOut => some (0, listOut, a)
  | index :: indices, listOut => do
      let catValue := valueToLong valIn64 low high
      let h ← heap[index]?
      let maskedValue :=
        breakoutApplymask catValue h.info.rightshift h.info.mask
      let (result, listOut, a) ← breakoutAddBitfieldResult a heap listOut
        h.info.uid h.info.registerUid maskedValue catValue cpuIn epl midr
        status
      if result ≠ 0 then some (result, listOut, a)
      else
        breakoutApplyMasksToList a heap valIn64 low high cpuIn epl midr
          status indices listOut

/-- Add a raw word if the request is for raw words: 0 if it is not, 1 if
the word is in the list (now or already). -/
def breakoutAddNoparse (a : Alloc) (heap : List BitfieldInfoHeap)
    (list : List BitfieldInfoPopulated) (requested : ResultsInfo)
    (all : BitfieldInfoPopulated) :
    Option (Int × List BitfieldInfoPopulated × Alloc) :=
  if requested.noparse = 1 then
    if list.any fun t =>
        t.ioctl == all.ioctl && t.cpu == all.cpu
          && t.status == all.status then
      some (1, list, a)
    else do
      let (_, list, a) ← breakoutAddNoparseResult a heap list all.uid
        all.ioctl all.uvalue all.cpu all.epl all.midr all.status
      some (1, list, a)
  else some (0, list, a)

/-- The core the field was read on is one its table is for. -/
def midrMatches (midr partNumber : U32) : Bool :=
  getImplFromMidr midr == partNumber
    || getArchFromMidr midr == partNumber || midr == 0

/-- One step of the double loop: a request against a field. -/
def filterStep (heap : List BitfieldInfoHeap) (requested : ResultsInfo)
    (s : List BitfieldInfoPopulated × Alloc)
    (all : BitfieldInfoPopulated) :
    Option (List BitfieldInfoPopulated × Alloc) :=
  if requested.uid = all.uid
      ∧ midrMatches all.midr requested.partNumber = true then do
    let (r, list, a) ← breakoutAddNoparse s.2 heap s.1 requested all
    if r ≠ 1 then
      let (_, list, a) ← breakoutAddBitfieldResult a heap list all.uid
        all.ioctl all.value 0 all.cpu all.epl all.midr all.status
      some (list, a)
    else some (list, a)
  else some s

/-- Keep the requested fields. -/
def breakoutFilterResults (a : Alloc) (heap : List BitfieldInfoHeap)
    (allBitfields : List BitfieldInfoPopulated)
    (requestedBitfields : List ResultsInfo)
    (listOut : List BitfieldInfoPopulated) :
    Option (Int × List BitfieldInfoPopulated × Alloc) := do
  let (list, a) ← requestedBitfields.foldlM
    (fun s requested => allBitfields.foldlM (filterStep heap requested) s)
    (listOut, a)
  some (0, list, a)

/-- The loop over the ioctl results, with the two lists initialised in
every pass and `result` as the pass before left it. -/
def parseLoop (heap : List BitfieldInfoHeap)
    (listInMatches : List ResultsInfo) :
    List IoctlResult → Int → Alloc → List BitfieldInfoPopulated →
      Option (Int × List BitfieldInfoPopulated × Alloc)
  | [], _, a, listOut => some (0, listOut, a)
  | x :: xs, result, a, listOut => do
      let (r, indices, a) :=
        breakoutConstructBitfieldList a heap x.registerUid []
      if r ≠ 0 then some (result, listOut, a)
      else
        let (result, masked, a) ← breakoutApplyMasksToList a heap x.val64
          x.low x.high x.cpu x.epl x.midr x.status indices []
        if result ≠ 0 then some (result, listOut, a)
        else
          let (r, listOut, a) ← breakoutFilterResults a heap masked
            listInMatches listOut
          if r ≠ 0 then some (result, listOut, a)
          else parseLoop heap listInMatches xs result a listOut

/-- Decode the ioctl results. The two temporary lists are initialised in
the loop only, and freed after it in any case. -/
def breakoutParseResults (a : Alloc) (heap : List BitfieldInfoHeap)
    (listInIoctls : List IoctlResult) (listInMatches : List ResultsInfo)
    (listOut : List BitfieldInfoPopulated) :
    Option (Int × List BitfieldInfoPopulated × Alloc) :=
  match listInIoctls with
  | [] => none
  | xs => parseLoop heap listInMatches xs (-1) a listOut

end Maplesyrup
