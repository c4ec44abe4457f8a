/-
The filter pass under any schedule. Whatever the mode of each request,
a step of the pass emits one element or none, and which it is depends on
the list so far and not on the allocations to come.
-/
import Maplesyrup.Decode.Proofs.Modes

namespace Maplesyrup

open Base

variable {heap : List BitfieldInfoHeap}

/-- A request against a field grows the output. -/
theorem filterStep_grows (r : ResultsInfo) {h : BitfieldInfoHeap}
    (hh : h ∈ heap) (x : IoctlResult) (out : List BitfieldInfoPopulated) :
    ∃ ys, Grows (fun s => filterStep heap r s (masked heap x h)) out
      ys := by
  by_cases hhit : r.uid = h.info.uid
      ∧ midrMatches x.midr r.partNumber = true
  · obtain ⟨huid, hmidr⟩ := hhit
    by_cases hnp : r.noparse = 1
    · by_cases hseen :
          (out.any fun t => outputKey t == pairKey (x, h)) = true
      · refine ⟨[], Grows.none fun a => ?_⟩
        have hkey : (out.any fun t =>
            t.ioctl == (masked heap x h).ioctl
              && t.cpu == (masked heap x h).cpu
              && t.status == (masked heap x h).status) = true := by
          rw [← hseen]
          congr 1
          funext t
          exact Bool.and_assoc _ _ _
        rw [filterStep, if_pos ⟨huid, hmidr⟩, breakoutAddNoparse,
          if_pos hnp, if_pos hkey]
        rfl
      · refine ⟨[wordOf heap (x, h)], Grows.one fun a ha => ?_⟩
        rw [filterStep_unparsed hnp hh x huid hmidr ha, if_neg hseen]
        rfl
    · exact ⟨_, Grows.one fun a ha =>
        filterStep_parsed hnp hh x huid hmidr ha out⟩
  · exact ⟨[], Grows.none fun a => if_neg hhit⟩

/-- So does the pass. -/
theorem breakoutFilterResults_grows (heap : List BitfieldInfoHeap)
    (reqs : List ResultsInfo) (x : IoctlResult)
    (out : List BitfieldInfoPopulated) :
    ∃ ys, ∀ a, Succeed ys.length a →
      breakoutFilterResults a heap
          ((entriesOf heap x.registerUid).map (masked heap x)) reqs out
        = some (0, out ++ ys, after a ys.length) := by
  have hinner : ∀ r ∈ reqs, ∀ out, ∃ ys,
      Grows (fun s => ((entriesOf heap x.registerUid).map
        (masked heap x)).foldlM (filterStep heap r) s) out ys := by
    intro r _ out
    refine Grows.foldlM (fun y hy out => ?_) out
    obtain ⟨h, hh, rfl⟩ := List.mem_map.1 hy
    exact filterStep_grows r (List.mem_filter.1 hh).1 x out
  obtain ⟨ys, hys⟩ := Grows.foldlM (l := reqs) hinner out
  refine ⟨ys, fun a ha => ?_⟩
  have hloop := hys a ha
  dsimp only at hloop
  rw [breakoutFilterResults, hloop]
  rfl

/-- Decoding one result, with the allocations it takes to come. -/
theorem breakoutParseResults_grows (heap : List BitfieldInfoHeap)
    (reqs : List ResultsInfo) (x : IoctlResult)
    (out : List BitfieldInfoPopulated) :
    ∃ ys, breakoutParseResults .ok heap [x] reqs out
      = some (0, out ++ ys, .ok) := by
  obtain ⟨indices, hindices, hmask⟩ := maskedList_ok heap x
  obtain ⟨ys, hfilter⟩ := breakoutFilterResults_grows heap reqs x out
  refine ⟨ys, ?_⟩
  show parseLoop heap reqs [x] (-1) .ok out = _
  rw [parseLoop, hindices]
  show (breakoutApplyMasksToList .ok heap x.val64 x.low x.high x.cpu
    x.epl x.midr x.status indices [] >>= _) = _
  rw [hmask]
  show (breakoutFilterResults .ok heap _ reqs out >>= _) = _
  rw [hfilter Alloc.ok (succeed_ok _)]
  rfl

end Maplesyrup
