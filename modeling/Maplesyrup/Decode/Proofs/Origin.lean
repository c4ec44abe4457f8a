/-
Decoding under any schedule of allocation failures. No lookup of the
passes is of a uid that is not in the heap, so a run over at least one
ioctl result ends; and every element it appends is of a requested entry
of a register that was read.
-/
import Maplesyrup.Decode.Proofs.Modes

namespace Maplesyrup

open Base

variable {heap : List BitfieldInfoHeap} {x : IoctlResult}
  {h : BitfieldInfoHeap}

/-- The element is of entry `h`, from result `x`. -/
structure ReadOf (x : IoctlResult) (h : BitfieldInfoHeap)
    (p : BitfieldInfoPopulated) : Prop where
  uid : p.uid = h.info.uid
  ioctl : p.ioctl = h.info.registerUid
  cpu : p.cpu = x.cpu
  epl : p.epl = x.epl
  midr : p.midr = x.midr
  status : p.status = x.status

/-- The entry is requested, and the result is of its register, read on a
core the request's table is for. -/
structure Asked (heap : List BitfieldInfoHeap) (reqs : List ResultsInfo)
    (x : IoctlResult) (h : BitfieldInfoHeap) : Prop where
  mem : h ∈ heap
  register : h.info.registerUid = x.registerUid
  requested : ∃ r ∈ reqs, r.uid = h.info.uid
    ∧ midrMatches x.midr r.partNumber = true

-- ============================================================= the passes

/-- An element that cannot be allocated is not appended. -/
theorem breakoutAddBitfieldResult_fails {a : Alloc} (ha : a 0 = false)
    (list : List BitfieldInfoPopulated) (uid ioctl : U32)
    (value uvalue : U64) (cpu epl midr status : U32) :
    breakoutAddBitfieldResult a heap list uid ioctl value uvalue cpu epl
      midr status = some (-1, list, a.rest) := by
  rw [breakoutAddBitfieldResult, ha]
  rfl

theorem breakoutAddNoparseResult_fails {a : Alloc} (ha : a 0 = false)
    (list : List BitfieldInfoPopulated) (uid ioctl : U32) (uvalue : U64)
    (cpu epl midr status : U32) :
    breakoutAddNoparseResult a heap list uid ioctl uvalue cpu epl midr
      status = some (-1, list, a.rest) := by
  rw [breakoutAddNoparseResult, ha]
  rfl

/-- Every index the first pass records is of an entry of the register. -/
theorem breakoutConstructBitfieldList_mem (a : Alloc)
    (heap : List BitfieldInfoHeap) (registerUid : U32) :
    ∃ indices b,
      breakoutConstructBitfieldList a heap registerUid []
          = (0, indices, b)
        ∧ ∀ i ∈ indices, ∃ h, heap[i]? = some h
          ∧ h.info.registerUid = registerUid := by
  refine ⟨_, _, rfl, ?_⟩
  refine List.foldlRecOn heap.zipIdx _
    (motive := fun s : List Nat × Alloc => ∀ i ∈ s.1,
      ∃ h, heap[i]? = some h ∧ h.info.registerUid = registerUid)
    (fun i hi => absurd hi List.not_mem_nil) ?_
  rintro ⟨list, a⟩ hlist ⟨h, i⟩ hmem
  by_cases hreg : h.info.registerUid = registerUid
  · have hi : heap[i]? = some h := List.mem_zipIdx_iff_getElem?.1 hmem
    intro j hj
    simp only [hreg, ↓reduceIte, msListAdd] at hj
    split at hj
    · rcases List.mem_append.1 hj with hj | hj
      · exact hlist j hj
      · exact ⟨h, by rw [List.mem_singleton.1 hj, hi], hreg⟩
    · exact hlist j hj
  · simpa only [hreg, ↓reduceIte] using hlist

/-- Every element of the second is a field of one of them. -/
theorem breakoutApplyMasksToList_mem (a : Alloc) (x : IoctlResult)
    {indices : List Nat} {P : BitfieldInfoHeap → Prop}
    (hidx : ∀ i ∈ indices, ∃ h, heap[i]? = some h ∧ P h)
    (out : List BitfieldInfoPopulated) :
    ∃ r ps b,
      breakoutApplyMasksToList a heap x.val64 x.low x.high x.cpu x.epl
          x.midr x.status indices out = some (r, out ++ ps, b)
        ∧ ∀ p ∈ ps, ∃ h ∈ heap, P h ∧ p = masked heap x h := by
  induction indices generalizing a out with
  | nil =>
      refine ⟨0, [], a, ?_, fun p hp => absurd hp List.not_mem_nil⟩
      rw [breakoutApplyMasksToList, List.append_nil]
  | cons i indices ih =>
      obtain ⟨h, hi, hreg⟩ := hidx i (List.mem_cons_self ..)
      have hh : h ∈ heap := List.mem_of_getElem? hi
      rw [breakoutApplyMasksToList, hi]
      cases ha : a 0 with
      | true =>
          have hadd := breakoutAddBitfieldResult_some (entryOf_owner hh)
            ha out h.info.registerUid (h.field x.word) x.word x.cpu
            x.epl x.midr x.status
          obtain ⟨r, ps, b, hrest, hps⟩ := ih a.rest
            (fun j hj => hidx j (List.mem_cons_of_mem _ hj))
            (out ++ [masked heap x h])
          refine ⟨r, masked heap x h :: ps, b, ?_, fun p hp => ?_⟩
          · show (breakoutAddBitfieldResult _ _ _ _ _ (h.field x.word)
              x.word _ _ _ _ >>= _) = _
            rw [hadd]
            show breakoutApplyMasksToList a.rest heap _ _ _ _ _ _ _
              indices (out ++ [masked heap x h]) = _
            rw [hrest, List.append_assoc]
            rfl
          · rcases List.mem_cons.1 hp with rfl | hp
            · exact ⟨h, hh, hreg, rfl⟩
            · exact hps p hp
      | false =>
          refine ⟨-1, [], a.rest, ?_,
            fun p hp => absurd hp List.not_mem_nil⟩
          rw [List.append_nil]
          show (breakoutAddBitfieldResult _ _ _ _ _ (h.field x.word)
            x.word _ _ _ _ >>= _) = _
          rw [breakoutAddBitfieldResult_fails ha]
          rfl

/-- A request against a field appends that field's element, its word's,
or nothing. -/
theorem filterStep_mem (r : ResultsInfo) (hh : h ∈ heap) (x : IoctlResult)
    (out : List BitfieldInfoPopulated) (a : Alloc) :
    ∃ ps b, filterStep heap r (out, a) (masked heap x h)
        = some (out ++ ps, b)
      ∧ ∀ p ∈ ps, r.uid = h.info.uid
        ∧ midrMatches x.midr r.partNumber = true ∧ ReadOf x h p := by
  have hnothing : ∀ b : Alloc, some (out, b)
      = some (out ++ ([] : List BitfieldInfoPopulated), b) := by
    intro b
    rw [List.append_nil]
  by_cases hhit : r.uid = h.info.uid
      ∧ midrMatches x.midr r.partNumber = true
  · obtain ⟨huid, hmidr⟩ := hhit
    cases ha : a 0 with
    | true =>
        by_cases hnp : r.noparse = 1
        · rw [filterStep_unparsed hnp hh x huid hmidr ha]
          split
          · exact ⟨[], a, hnothing a,
              fun p hp => absurd hp List.not_mem_nil⟩
          · refine ⟨[_], a.rest, rfl, fun p hp => ?_⟩
            rw [List.mem_singleton.1 hp]
            exact ⟨huid, hmidr, ⟨rfl, rfl, rfl, rfl, rfl, rfl⟩⟩
        · rw [filterStep_parsed hnp hh x huid hmidr ha]
          refine ⟨[_], a.rest, rfl, fun p hp => ?_⟩
          rw [List.mem_singleton.1 hp]
          exact ⟨huid, hmidr, ⟨rfl, rfl, rfl, rfl, rfl, rfl⟩⟩
    | false =>
        refine ⟨[], if r.noparse = 1 ∧ (out.any fun t =>
          t.ioctl == (masked heap x h).ioctl
            && t.cpu == (masked heap x h).cpu
            && t.status == (masked heap x h).status) = true then a
          else a.rest, ?_, fun p hp => absurd hp List.not_mem_nil⟩
        rw [← hnothing, filterStep, if_pos ⟨huid, hmidr⟩,
          breakoutAddNoparse]
        by_cases hnp : r.noparse = 1
        · rw [if_pos hnp]
          split
          · rename_i hseen
            rw [if_pos ⟨hnp, hseen⟩]
            rfl
          · rename_i hseen
            rw [if_neg fun hcon => hseen hcon.2]
            show ((breakoutAddNoparseResult a heap out _ _ _ _ _ _ _
              >>= _) >>= _) = _
            rw [breakoutAddNoparseResult_fails ha]
            rfl
        · rw [if_neg hnp, if_neg fun hcon => hnp hcon.1]
          show (breakoutAddBitfieldResult a heap out _ _ _ _ _ _ _ _
            >>= _) = _
          rw [breakoutAddBitfieldResult_fails ha]
          rfl
  · exact ⟨[], a, by rw [← hnothing]; exact if_neg hhit,
      fun p hp => absurd hp List.not_mem_nil⟩

/-- The third pass. -/
theorem breakoutFilterResults_mem (a : Alloc) (reqs : List ResultsInfo)
    {all : List BitfieldInfoPopulated}
    (hall : ∀ p ∈ all, ∃ h ∈ heap, h.info.registerUid = x.registerUid
      ∧ p = masked heap x h)
    (out : List BitfieldInfoPopulated) :
    ∃ ps b, breakoutFilterResults a heap all reqs out
        = some (0, out ++ ps, b)
      ∧ ∀ p ∈ ps, ∃ h, Asked heap reqs x h ∧ ReadOf x h p := by
  have hinner : ∀ r ∈ reqs, ∀ out a, ∃ ps b,
      all.foldlM (filterStep heap r) (out, a) = some (out ++ ps, b)
        ∧ ∀ p ∈ ps, ∃ h, Asked heap reqs x h ∧ ReadOf x h p := by
    intro r hr
    refine foldlM_appends fun q hq out a => ?_
    obtain ⟨h, hh, hreg, rfl⟩ := hall q hq
    obtain ⟨ps, b, hstep, hps⟩ := filterStep_mem r hh x out a
    refine ⟨ps, b, hstep, fun p hp => ?_⟩
    obtain ⟨huid, hmidr, hread⟩ := hps p hp
    exact ⟨h, ⟨hh, hreg, r, hr, huid, hmidr⟩, hread⟩
  have houter : ∃ ps b, reqs.foldlM
      (fun s r => all.foldlM (filterStep heap r) s) (out, a)
        = some (out ++ ps, b)
      ∧ ∀ p ∈ ps, ∃ h, Asked heap reqs x h ∧ ReadOf x h p :=
    foldlM_appends hinner out a
  obtain ⟨ps, b, hloop, hps⟩ := houter
  refine ⟨ps, b, ?_, hps⟩
  rw [breakoutFilterResults, hloop]
  rfl

-- ================================================================== a run

theorem parseLoop_mem (heap : List BitfieldInfoHeap)
    (reqs : List ResultsInfo) (xs : List IoctlResult) (result : Int)
    (a : Alloc) (out : List BitfieldInfoPopulated) :
    ∃ r ps b, parseLoop heap reqs xs result a out
        = some (r, out ++ ps, b)
      ∧ ∀ p ∈ ps, ∃ x ∈ xs, ∃ h, Asked heap reqs x h ∧ ReadOf x h p := by
  induction xs generalizing result a out with
  | nil =>
      refine ⟨0, [], a, ?_, fun p hp => absurd hp List.not_mem_nil⟩
      rw [parseLoop, List.append_nil]
  | cons x xs ih =>
      obtain ⟨indices, b, hindices, hidx⟩ :=
        breakoutConstructBitfieldList_mem a heap x.registerUid
      obtain ⟨r, ms, c, hmask, hms⟩ :=
        breakoutApplyMasksToList_mem b x hidx []
      rw [List.nil_append] at hmask
      rw [parseLoop, hindices]
      simp only [ne_eq, not_true_eq_false, ↓reduceIte]
      rw [hmask]
      by_cases hr : r = 0
      · obtain ⟨ps, d, hfilter, hps⟩ := breakoutFilterResults_mem c
          reqs hms out
        obtain ⟨r', qs, e, hrest, hqs⟩ := ih r d (out ++ ps)
        refine ⟨r', ps ++ qs, e, ?_, fun p hp => ?_⟩
        · show (if r ≠ 0 then _ else _) = _
          rw [if_neg (not_not.2 hr)]
          show (breakoutFilterResults c heap ms reqs out >>= _) = _
          rw [hfilter, ← List.append_assoc]
          exact hrest
        · rcases List.mem_append.1 hp with hp | hp
          · exact ⟨x, List.mem_cons_self .., hps p hp⟩
          · obtain ⟨y, hy, hread⟩ := hqs p hp
            exact ⟨y, List.mem_cons_of_mem _ hy, hread⟩
      · refine ⟨r, [], c, ?_, fun p hp => absurd hp List.not_mem_nil⟩
        rw [List.append_nil]
        exact if_pos hr

/-- A run over at least one result ends, and appends elements of
requested entries. -/
theorem breakoutParseResults_mem (heap : List BitfieldInfoHeap)
    (reqs : List ResultsInfo) {xs : List IoctlResult} (hxs : xs ≠ [])
    (a : Alloc) (out : List BitfieldInfoPopulated) :
    ∃ r ps b, breakoutParseResults a heap xs reqs out
        = some (r, out ++ ps, b)
      ∧ ∀ p ∈ ps, ∃ x ∈ xs, ∃ h, Asked heap reqs x h ∧ ReadOf x h p := by
  cases xs with
  | nil => exact absurd rfl hxs
  | cons x xs => exact parseLoop_mem heap reqs (x :: xs) (-1) a out

end Maplesyrup
