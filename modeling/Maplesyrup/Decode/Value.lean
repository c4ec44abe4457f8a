/-
Decoding a value the user supplies (lib/src/parse_breakout.c): the
requests must agree on a register and on the value, which is then cut up
and filtered like one that was read.
-/
import Maplesyrup.Decode.Parse

namespace Maplesyrup

/-- The register and the value all requests have, if there are requests
and they agree. -/
def breakoutValueValidate (listInMatches : List ResultsInfo) :
    Option (U32 × U64) :=
  match listInMatches with
  | [] => none
  | validate :: _ =>
      let currentIoctl := validate.registerUid
      let calcValue := validate.calcValue
      if listInMatches.any fun v =>
          currentIoctl != v.registerUid || calcValue != v.calcValue then
        none
      else some (currentIoctl, calcValue)

/-- Decode the supplied value. -/
def breakoutParseResultsValue (a : Alloc) (heap : List BitfieldInfoHeap)
    (listInMatches : List ResultsInfo)
    (listOut : List BitfieldInfoPopulated) :
    Option (Int × List BitfieldInfoPopulated × Alloc) :=
  match breakoutValueValidate listInMatches with
  | none => some (-1, listOut, a)
  | some (commonIoctl, calcValue) => do
      let (r, indices, a) :=
        breakoutConstructBitfieldList a heap commonIoctl []
      if r ≠ 0 then some (-1, listOut, a)
      else
        let (result, masked, a) ← breakoutApplyMasksToList a heap
          calcValue 0 0 0 0 0 0 indices []
        if result ≠ 0 then some (result, listOut, a)
        else
          let (r, listOut, a) ←
            breakoutFilterResults a heap masked listInMatches listOut
          if r ≠ 0 then some (result, listOut, a)
          else some (0, listOut, a)

end Maplesyrup
