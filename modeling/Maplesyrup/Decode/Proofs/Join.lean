/-
Decoding is a join. For a table whose uids are distinct and whose texts
fit, the output gains one field for each pair of an ioctl result and a
requested entry of its register that the core's MIDR admits, in the
order of the results and then of the requests, and nothing else.
-/
import Maplesyrup.Decode.Proofs.Parse

namespace Maplesyrup

open Base

variable {heap : List BitfieldInfoHeap} {info : MatchInfo}

-- =========================================================== the statement

/-- A heap table decoding can rely on: its uids are distinct, its shifts
and masks those of a 64-bit word, its texts as long as the copies. -/
structure HeapOk (heap : List BitfieldInfoHeap) : Prop where
  uids : (heap.map fun h => h.info.uid).Nodup
  rightshift : ∀ h ∈ heap, h.info.rightshift.toNat < 64
  mask : ∀ h ∈ heap, h.info.mask.toNat ≤ 64
  registerName : ∀ h ∈ heap,
    h.registerNameExpanded.length < parseMaxRegister
  functionalGroup : ∀ h ∈ heap,
    h.info.functionalGroup.length < parseMaxFunctional
  bitfield : ∀ h ∈ heap, h.info.bitfield.length < parseMaxBitfield
  description : ∀ h ∈ heap,
    h.info.description.length < parseMaxDescription

/-- The result is of the request's register, on a core the request's
table is for (or unknown). -/
def joins (x : IoctlResult) (r : ResultsInfo) : Prop :=
  r.registerUid = x.registerUid
    ∧ (x.midr = 0 ∨ getImplFromMidr x.midr = r.partNumber
      ∨ getArchFromMidr x.midr = r.partNumber)

instance (x : IoctlResult) (r : ResultsInfo) : Decidable (joins x r) :=
  inferInstanceAs (Decidable (_ ∧ _))

/-- The field of `x` that entry `h` describes, under `h`'s own texts. -/
def element (x : IoctlResult) (h : BitfieldInfoHeap) :
    BitfieldInfoPopulated where
  cpu := x.cpu
  epl := x.epl
  uid := h.info.uid
  ioctl := x.registerUid
  midr := x.midr
  status := x.status
  bitfield := h.info.bitfield
  functionalGroup := h.info.functionalGroup
  registerName := h.registerNameExpanded
  description := h.info.description
  value := .ofNat 64 (((valueToLong x.val64 x.low x.high).toNat
    >>> h.info.rightshift.toNat) % 2 ^ h.info.mask.toNat)
  uvalue := 0

-- ================================================================ proofs

theorem midrMatches_iff (midr partNumber : U32) :
    midrMatches midr partNumber = true
      ↔ midr = 0 ∨ getImplFromMidr midr = partNumber
        ∨ getArchFromMidr midr = partNumber := by
  unfold midrMatches
  rw [Bool.or_eq_true, Bool.or_eq_true, beq_iff_eq, beq_iff_eq,
    beq_iff_eq]
  tauto

/-- A field of a sound table carries its own entry's texts. -/
theorem populated_eq_element (hheap : HeapOk heap) {h : BitfieldInfoHeap}
    (hh : h ∈ heap) {x : IoctlResult}
    (hreg : h.info.registerUid = x.registerUid) :
    populated (owner heap h) h.info.uid h.info.registerUid
        (h.field x.word) 0 x.cpu x.epl x.midr x.status
      = element x h := by
  have hname := Nat.le_sub_one_of_lt (hheap.registerName h hh)
  have hgroup := Nat.le_sub_one_of_lt (hheap.functionalGroup h hh)
  have hbit := Nat.le_sub_one_of_lt (hheap.bitfield h hh)
  have hdesc := Nat.le_sub_one_of_lt (hheap.description h hh)
  have hvalue : h.field x.word = .ofNat 64 ((x.word.toNat
      >>> h.info.rightshift.toNat) % 2 ^ h.info.mask.toNat) := by
    rw [BitfieldInfoHeap.field,
      ← breakoutApplymask_toNat _ _ (hheap.mask h hh),
      BitVec.ofNat_toNat, BitVec.setWidth_eq]
  rw [owner_self hheap.uids hh, populated, element, hreg, hvalue,
    strncpy_of_le hname, strncpy_of_le hgroup, strncpy_of_le hbit,
    strncpy_of_le hdesc]
  rfl

/-- With distinct uids a requested entry is hit by exactly the results
it joins. -/
theorem hits_requestOf (hnd : (heap.map fun h => h.info.uid).Nodup)
    {h : BitfieldInfoHeap} (hh : h ∈ heap) (x : IoctlResult) :
    hits heap x (requestOf info h)
      = if joins x (requestOf info h) then [h] else [] := by
  have hsplit : hits heap x (requestOf info h)
      = ((entriesOf heap x.registerUid).filter fun g =>
          h.info.uid == g.info.uid).filter fun _ =>
            midrMatches x.midr (requestOf info h).partNumber := by
    rw [hits, List.filter_filter]
    congr 1
    funext g
    exact Bool.and_comm _ _
  have hjoin : joins x (requestOf info h)
      ↔ h.info.registerUid = x.registerUid
        ∧ midrMatches x.midr (requestOf info h).partNumber = true := by
    rw [midrMatches_iff]
    rfl
  rw [hsplit, entriesOf,
    filter_filter_key (fun g => g.info.uid) hnd _ hh]
  by_cases hreg : h.info.registerUid = x.registerUid
  · rw [if_pos (beq_iff_eq.2 hreg)]
    by_cases hmidr : midrMatches x.midr (requestOf info h).partNumber
        = true
    · rw [if_pos (hjoin.2 ⟨hreg, hmidr⟩), hmidr]
      rfl
    · rw [if_neg fun hj => hmidr (hjoin.1 hj).2]
      rw [Bool.not_eq_true] at hmidr
      rw [hmidr]
      rfl
  · rw [if_neg fun hcon => hreg (beq_iff_eq.1 hcon),
      if_neg fun hj => hreg (hjoin.1 hj).1]
    rfl

/-- All hits of a result, over a request list the search made. -/
theorem allHits_requests (hnd : (heap.map fun h => h.info.uid).Nodup)
    {es : List BitfieldInfoHeap} (hes : ∀ h ∈ es, h ∈ heap)
    (x : IoctlResult) :
    allHits heap (es.map (requestOf info)) x
      = es.filter fun h => joins x (requestOf info h) := by
  unfold allHits
  induction es with
  | nil => rfl
  | cons h es ih =>
      rw [List.map_cons, List.flatMap_cons,
        ih fun g hg => hes g (List.mem_cons_of_mem _ hg),
        hits_requestOf hnd (hes h (List.mem_cons_self ..)),
        List.filter_cons]
      by_cases hj : joins x (requestOf info h)
      · simp [hj]
      · simp [hj]

/-- One step of the parsed mode appends the field. -/
theorem filterStep_parsed {r : ResultsInfo} (hnp : r.noparse ≠ 1)
    {h : BitfieldInfoHeap} (hh : h ∈ heap) (x : IoctlResult)
    (huid : r.uid = h.info.uid)
    (hmidr : midrMatches x.midr r.partNumber = true) {a : Alloc}
    (ha : a 0 = true) (out : List BitfieldInfoPopulated) :
    filterStep heap r (out, a) (masked heap x h)
      = some (out ++
          [populated (owner heap h) h.info.uid h.info.registerUid
            (h.field x.word) 0 x.cpu x.epl x.midr x.status], a.rest) := by
  have hadd := breakoutAddBitfieldResult_some (entryOf_owner hh) ha out
    h.info.registerUid (h.field x.word) 0 x.cpu x.epl x.midr x.status
  rw [filterStep, if_pos ⟨huid, hmidr⟩, breakoutAddNoparse, if_neg hnp]
  show (breakoutAddBitfieldResult a heap out h.info.uid
    h.info.registerUid (h.field x.word) 0 x.cpu x.epl x.midr x.status
    >>= _) = _
  rw [hadd]
  rfl

/-- A decode run in parsed mode, over any table and requests. -/
theorem breakoutParseResults_parsed {reqs : List ResultsInfo}
    (hnp : ∀ r ∈ reqs, r.noparse ≠ 1) {xs : List IoctlResult}
    (hxs : xs ≠ []) (out : List BitfieldInfoPopulated) :
    breakoutParseResults .ok heap xs reqs out
      = some (0, out ++ xs.flatMap fun x => (allHits heap reqs x).map
          fun h => populated (owner heap h) h.info.uid h.info.registerUid
            (h.field x.word) 0 x.cpu x.epl x.midr x.status, .ok) := by
  have hstep : ∀ x ∈ xs, ∀ r ∈ reqs, ∀ h ∈ heap, r.uid = h.info.uid →
      midrMatches x.midr r.partNumber = true → ∀ out,
      filterStep heap r (out, .ok) (masked heap x h)
        = some (out ++ [populated (owner heap h) h.info.uid
            h.info.registerUid (h.field x.word) 0 x.cpu x.epl x.midr
            x.status], .ok) := fun x _ r hr h hh huid hmidr out =>
    filterStep_parsed (hnp r hr) hh x huid hmidr rfl out
  have hloop := parseLoop_ok hstep (-1) out
  have happend : ∀ (hs : List BitfieldInfoHeap)
      (f : BitfieldInfoHeap → BitfieldInfoPopulated)
      (out : List BitfieldInfoPopulated),
      hs.foldl (fun out h => out ++ [f h]) out = out ++ hs.map f := by
    intro hs f out
    induction hs generalizing out with
    | nil => simp
    | cons h hs ih => simpa using ih (out ++ [f h])
  unfold breakoutParseResults
  cases xs with
  | nil => exact absurd rfl hxs
  | cons x xs =>
      show parseLoop heap reqs (x :: xs) (-1) .ok out = _
      rw [hloop]
      simp only [happend]
      rw [List.foldl_append_eq_append, List.flatMap_def]

/-- Decoding the results of a request in parsed mode joins them with the
requested entries. -/
theorem parse_results_join (hheap : HeapOk heap) (hnp : info.noparse = 0)
    {xs : List IoctlResult} (hxs : xs ≠ [])
    (out : List BitfieldInfoPopulated) :
    (breakoutSearchTable .ok heap info []).2.1
        = (heap.filter info.selects).map (requestOf info)
      ∧ breakoutParseResults .ok heap xs
          (breakoutSearchTable .ok heap info []).2.1 out
        = some (0, out ++ xs.flatMap fun x =>
            ((heap.filter info.selects).filter fun h =>
              joins x (requestOf info h)).map (element x), .ok) := by
  have hreqs : (breakoutSearchTable .ok heap info []).2.1
      = (heap.filter info.selects).map (requestOf info) := by
    rw [breakoutSearchTable_ok]
    rfl
  have hes : ∀ h ∈ heap.filter info.selects, h ∈ heap := fun h hh =>
    (List.mem_filter.1 hh).1
  have hfields : ∀ x : IoctlResult,
      (allHits heap ((heap.filter info.selects).map (requestOf info))
          x).map (fun h => populated (owner heap h) h.info.uid
            h.info.registerUid (h.field x.word) 0 x.cpu x.epl x.midr
            x.status)
        = ((heap.filter info.selects).filter fun h =>
            joins x (requestOf info h)).map (element x) := by
    intro x
    rw [allHits_requests hheap.uids hes]
    refine List.map_congr_left fun h hh => ?_
    obtain ⟨hh, hj⟩ := List.mem_filter.1 hh
    exact populated_eq_element hheap (hes h hh) (of_decide_eq_true hj).1
  have hparsed : ∀ r ∈ (heap.filter info.selects).map (requestOf info),
      r.noparse ≠ 1 := by
    intro r hr
    obtain ⟨h, -, rfl⟩ := List.mem_map.1 hr
    show info.noparse ≠ 1
    rw [hnp]
    decide
  refine ⟨hreqs, ?_⟩
  rw [hreqs, breakoutParseResults_parsed hparsed hxs]
  simp only [hfields]

-- ============================================================ one instance

/-- Two fields of one register, a third of another. -/
def smallHeap : List BitfieldInfoHeap := [
  ⟨.arch, "PMCR", ⟨1, 0x00010000, 1, 3, 0, 1, "E", "pmu", "", "Enable"⟩⟩,
  ⟨.arch, "PMCR", ⟨1, 0x00010001, 1, 3, 11, 5, "N", "pmu", "", "Counters"⟩⟩,
  ⟨.arch, "MIDR", ⟨1, 0x00020000, 2, 2, 0, 4, "Rev", "id", "", "Revision"⟩⟩]

/-- The register PMCR, parsed, on ARMv7-A. -/
def pmcrQuery : MatchInfo :=
  { registerName := "PMCR", architecture := archArmv7a, pl := preferredPl }

/-- PMCR as read on cpu 1 in the kernel: 4 counters, enabled. -/
def pmcrRead : IoctlResult :=
  ⟨1, 0, 0x2001, 0, 1, 0x410FC073, nsPrivilegeLevel1, msErrorSuccess⟩

theorem smallHeap_ok : HeapOk smallHeap where
  uids := by decide
  rightshift := by decide
  mask := by decide
  registerName := by decide
  functionalGroup := by decide
  bitfield := by decide
  description := by decide

theorem parse_results_join_pmcr :
    (breakoutSearchTable .ok smallHeap pmcrQuery []).2.1
        = (smallHeap.filter pmcrQuery.selects).map (requestOf pmcrQuery)
      ∧ breakoutParseResults .ok smallHeap [pmcrRead]
          (breakoutSearchTable .ok smallHeap pmcrQuery []).2.1 []
        = some (0, [] ++ [pmcrRead].flatMap fun x =>
            ((smallHeap.filter pmcrQuery.selects).filter fun h =>
              joins x (requestOf pmcrQuery h)).map (element x), .ok) :=
  parse_results_join smallHeap_ok rfl (List.cons_ne_nil _ _) []

end Maplesyrup
