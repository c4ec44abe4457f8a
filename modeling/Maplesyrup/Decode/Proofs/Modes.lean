/-
The parsed and the unparsed mode of one query, on the same ioctl
results.

Both modes meet the same hits in the same order. The parsed mode emits a
field for each; the unparsed mode emits the word of a hit unless one
with its register, cpu and status is in the list already, so it keeps
`firsts` of the hits by that key. The key leaves the privilege level
out, and the modes agree exactly as long as that does not show.
-/
import Maplesyrup.Decode.Proofs.Join

namespace Maplesyrup

open Base

variable {heap : List BitfieldInfoHeap} {info : MatchInfo}
  {xs : List IoctlResult}

-- =========================================================== the statement

/-- The query in one of the two modes, on given ioctl results. -/
def parseWith (heap : List BitfieldInfoHeap) (info : MatchInfo)
    (xs : List IoctlResult) (noparse : U32) :
    Option (Int × List BitfieldInfoPopulated × Alloc) :=
  breakoutParseResults .ok heap xs
    (breakoutSearchTable .ok heap { info with noparse := noparse } []).2.1
    []

/-- Register, cpu and privilege level of an output element. -/
def reading (p : BitfieldInfoPopulated) : U32 × U32 × U32 :=
  (p.ioctl, p.cpu, p.epl)

/-- The successful reads of an output. -/
def successes (l : List BitfieldInfoPopulated) :
    List BitfieldInfoPopulated :=
  l.filter fun p => p.status == msErrorSuccess

/-- The parsed output `p` and the unparsed output `u` tell of the same
readings: the same successful ones, each once in `u`, and every field's
value is that field of the word `u` has for the reading. -/
structure SameReadings (heap : List BitfieldInfoHeap)
    (p u : List BitfieldInfoPopulated) : Prop where
  triples : ∀ t, t ∈ (successes p).map reading
    ↔ t ∈ (successes u).map reading
  once : ((successes u).map reading).Nodup
  fields : ∀ f ∈ successes p, ∀ w ∈ successes u, reading w = reading f →
    ∃ h ∈ heap, h.info.uid = f.uid ∧ h.info.registerUid = f.ioctl
      ∧ f.value = h.field w.value

/-- Both modes of the query produce an output, and the two agree. -/
def ModesAgree (heap : List BitfieldInfoHeap) (info : MatchInfo)
    (xs : List IoctlResult) : Prop :=
  ∃ p u, parseWith heap info xs 0 = some (0, p, .ok)
    ∧ parseWith heap info xs 1 = some (0, u, .ok)
    ∧ SameReadings heap p u

/-- The query asks for entry `h` and the result is a reading of it. -/
def readsEntry (heap : List BitfieldInfoHeap) (info : MatchInfo)
    (x : IoctlResult) (h : BitfieldInfoHeap) : Bool :=
  h.info.registerUid == x.registerUid
    && midrMatches x.midr (mscodePartnumber h.info.uid)
    && heap.any fun g => info.selects g && g.info.uid == h.info.uid

/-- The first successful reading of a register on a cpu that the query
asks for. -/
def firstReading (heap : List BitfieldInfoHeap) (info : MatchInfo)
    (xs : List IoctlResult) (registerUid cpu : U32) :
    Option IoctlResult :=
  xs.find? fun y =>
    heap.any (readsEntry heap info y)
      && (y.registerUid == registerUid && y.cpu == cpu
        && y.status == msErrorSuccess)

-- ============================================================= the hits

theorem mem_allHits {x : IoctlResult} {h : BitfieldInfoHeap} :
    h ∈ allHits heap (requests heap info) x
      ↔ h ∈ heap ∧ readsEntry heap info x h = true := by
  simp only [allHits, requests, List.mem_flatMap, List.mem_map, hits,
    entriesOf, List.mem_filter, readsEntry, Bool.and_eq_true, beq_iff_eq,
    List.any_eq_true]
  constructor
  · intro hex
    obtain ⟨r, ⟨g, ⟨hg, hsel⟩, rfl⟩, ⟨hh, hreg⟩, huid, hmidr⟩ := hex
    have huid' : g.info.uid = h.info.uid := huid
    have hmidr' : midrMatches x.midr (mscodePartnumber h.info.uid)
        = true := by
      rw [← huid']
      exact hmidr
    exact ⟨hh, ⟨hreg, hmidr'⟩, g, hg, hsel, huid'⟩
  · intro hall
    obtain ⟨hh, ⟨hreg, hmidr⟩, g, hg, hsel, huid⟩ := hall
    have hmidr' : midrMatches x.midr (requestOf info g).partNumber
        = true := by
      show midrMatches x.midr (mscodePartnumber g.info.uid) = true
      rw [huid]
      exact hmidr
    exact ⟨requestOf info g, ⟨g, ⟨hg, hsel⟩, rfl⟩, ⟨hh, hreg⟩, huid,
      hmidr'⟩

/-- What is hit does not depend on the mode. -/
theorem allHits_mode (noparse : U32) (x : IoctlResult) :
    allHits heap (requests heap { info with noparse := noparse }) x
      = allHits heap (requests heap info) x := by
  unfold allHits requests
  rw [List.flatMap_map, List.flatMap_map]
  rfl

/-- Every hit of the query with the result it hits, in output order. -/
def pairs (heap : List BitfieldInfoHeap) (info : MatchInfo)
    (xs : List IoctlResult) : List (IoctlResult × BitfieldInfoHeap) :=
  xs.flatMap fun x =>
    (allHits heap (requests heap info) x).map fun h => (x, h)

theorem mem_pairs {q : IoctlResult × BitfieldInfoHeap} :
    q ∈ pairs heap info xs
      ↔ q.1 ∈ xs ∧ q.2 ∈ heap ∧ readsEntry heap info q.1 q.2 = true := by
  obtain ⟨x, h⟩ := q
  simp only [pairs, List.mem_flatMap, List.mem_map, Prod.mk.injEq,
    mem_allHits]
  constructor
  · intro hex
    obtain ⟨y, hy, g, hg, rfl, rfl⟩ := hex
    exact ⟨hy, hg⟩
  · intro hall
    obtain ⟨hx, hh⟩ := hall
    exact ⟨x, hx, h, hh, rfl, rfl⟩

theorem readsEntry_register {x : IoctlResult} {h : BitfieldInfoHeap}
    (hr : readsEntry heap info x h = true) :
    h.info.registerUid = x.registerUid := by
  unfold readsEntry at hr
  rw [Bool.and_eq_true, Bool.and_eq_true, beq_iff_eq] at hr
  exact hr.1.1

-- ============================================================ both outputs

/-- What the parsed mode emits for a hit. -/
def parsedOf (heap : List BitfieldInfoHeap)
    (q : IoctlResult × BitfieldInfoHeap) : BitfieldInfoPopulated :=
  populated (owner heap q.2) q.2.info.uid q.2.info.registerUid
    (q.2.field q.1.word) 0 q.1.cpu q.1.epl q.1.midr q.1.status

/-- What the unparsed mode emits for it. -/
def wordOf (heap : List BitfieldInfoHeap)
    (q : IoctlResult × BitfieldInfoHeap) : BitfieldInfoPopulated :=
  unparsed (owner heap q.2) q.2.info.uid q.2.info.registerUid q.1.word
    q.1.cpu q.1.epl q.1.midr q.1.status

/-- The key the unparsed mode looks for in the list. -/
def outputKey (p : BitfieldInfoPopulated) : U32 × U32 × U32 :=
  (p.ioctl, p.cpu, p.status)

/-- The key of a hit. -/
def pairKey (q : IoctlResult × BitfieldInfoHeap) : U32 × U32 × U32 :=
  (q.2.info.registerUid, q.1.cpu, q.1.status)

/-- Any mode but 1 is the parsed one. -/
theorem parseWith_other {noparse : U32} (hnp : noparse ≠ 1)
    (hxs : xs ≠ []) :
    parseWith heap info xs noparse
      = some (0, (pairs heap info xs).map (parsedOf heap), .ok) := by
  have hparsed : ∀ r ∈ requests heap { info with noparse := noparse },
      r.noparse ≠ 1 := by
    intro r hr
    obtain ⟨h, -, rfl⟩ := List.mem_map.1 hr
    exact hnp
  rw [parseWith, breakoutSearchTable_ok, List.nil_append]
  show breakoutParseResults .ok heap xs
    (requests heap { info with noparse := noparse }) [] = _
  rw [breakoutParseResults_parsed hparsed hxs, List.nil_append, pairs,
    List.map_flatMap]
  simp only [List.map_map, allHits_mode]
  rfl

theorem parseWith_parsed (hxs : xs ≠ []) :
    parseWith heap info xs 0
      = some (0, (pairs heap info xs).map (parsedOf heap), .ok) :=
  parseWith_other (by decide) hxs

/-- One step of the unparsed mode: emit the word unless its key is
there. -/
theorem filterStep_unparsed {r : ResultsInfo} (hnp : r.noparse = 1)
    {h : BitfieldInfoHeap} (hh : h ∈ heap) (x : IoctlResult)
    (huid : r.uid = h.info.uid)
    (hmidr : midrMatches x.midr r.partNumber = true) {a : Alloc}
    (ha : a 0 = true) (out : List BitfieldInfoPopulated) :
    filterStep heap r (out, a) (masked heap x h)
      = some (if out.any fun t => outputKey t == pairKey (x, h) then
          (out, a) else (out ++ [wordOf heap (x, h)], a.rest)) := by
  have hadd := breakoutAddNoparseResult_some (entryOf_owner hh) ha out
    h.info.registerUid x.word x.cpu x.epl x.midr x.status
  have hkey : (fun t : BitfieldInfoPopulated =>
      t.ioctl == (masked heap x h).ioctl
        && t.cpu == (masked heap x h).cpu
        && t.status == (masked heap x h).status)
      = fun t => outputKey t == pairKey (x, h) := by
    funext t
    exact Bool.and_assoc _ _ _
  rw [filterStep, if_pos ⟨huid, hmidr⟩, breakoutAddNoparse, if_pos hnp,
    hkey]
  by_cases hseen :
      (out.any fun t => outputKey t == pairKey (x, h)) = true
  · rw [if_pos hseen, if_pos hseen]
    rfl
  · rw [if_neg hseen, if_neg hseen]
    show ((breakoutAddNoparseResult a heap out h.info.uid
      h.info.registerUid x.word x.cpu x.epl x.midr x.status >>= _)
      >>= _) = _
    rw [hadd]
    rfl

theorem parseWith_unparsed (hxs : xs ≠ []) :
    parseWith heap info xs 1
      = some (0, (firsts pairKey (pairs heap info xs)).map (wordOf heap),
          .ok) := by
  have hstep : ∀ x ∈ xs, ∀ r ∈ requests heap { info with noparse := 1 },
      ∀ h ∈ heap, r.uid = h.info.uid →
      midrMatches x.midr r.partNumber = true → ∀ out,
      filterStep heap r (out, .ok) (masked heap x h)
        = some (if out.any fun t => outputKey t == pairKey (x, h)
            then out else out ++ [wordOf heap (x, h)], .ok) := by
    intro x _ r hr h hh huid hmidr out
    have hnp : r.noparse = 1 := by
      obtain ⟨g, -, rfl⟩ := List.mem_map.1 hr
      rfl
    have hword := filterStep_unparsed (a := .ok) hnp hh x huid hmidr rfl
      out
    rw [hword]
    split <;> rfl
  have hloop := parseLoop_ok hstep (-1) []
  have hkey : ∀ q, outputKey (wordOf heap q) = pairKey q := fun _ => rfl
  have hfirsts := foldl_insert_map hkey (pairs heap info xs) []
  rw [parseWith, breakoutSearchTable_ok, List.nil_append]
  unfold breakoutParseResults
  cases xs with
  | nil => exact absurd rfl hxs
  | cons x xs =>
      show parseLoop heap (requests heap { info with noparse := 1 })
        (x :: xs) (-1) .ok [] = _
      rw [hloop, firsts, ← hfirsts, pairs, List.foldl_flatMap]
      simp only [List.foldl_map, allHits_mode]
      rfl

-- ====================================================== first readings

/-- The first hit with the key of a successful reading belongs to the
first result that is such a reading. -/
theorem find?_pairs (registerUid cpu : U32) :
    ((pairs heap info xs).find? fun q =>
        pairKey q == (registerUid, cpu, msErrorSuccess)).map Prod.fst
      = firstReading heap info xs registerUid cpu := by
  unfold firstReading
  induction xs with
  | nil => rfl
  | cons x xs ih =>
      have hcons : pairs heap info (x :: xs)
          = (allHits heap (requests heap info) x).map (fun h => (x, h))
            ++ pairs heap info xs := List.flatMap_cons
      have hkey : ∀ h ∈ allHits heap (requests heap info) x,
          (pairKey (x, h) == (registerUid, cpu, msErrorSuccess))
            = (x.registerUid == registerUid && x.cpu == cpu
              && x.status == msErrorSuccess) := by
        intro h hh
        have hreg := readsEntry_register (mem_allHits.1 hh).2
        show (h.info.registerUid == registerUid
          && (x.cpu == cpu && x.status == msErrorSuccess)) = _
        rw [hreg, Bool.and_assoc]
      have hany : heap.any (readsEntry heap info x)
          = !(allHits heap (requests heap info) x).isEmpty := by
        rw [Bool.eq_iff_iff, List.any_eq_true]
        simp only [Bool.not_eq_true', List.isEmpty_eq_false_iff_exists_mem,
          mem_allHits]
      rw [hcons, List.find?_append, List.find?_cons, hany, ← ih]
      cases hhits : allHits heap (requests heap info) x with
      | nil => rfl
      | cons h hs =>
          have hkeyh := hkey h (by rw [hhits]; exact List.mem_cons_self ..)
          cases hmatch : (x.registerUid == registerUid && x.cpu == cpu
              && x.status == msErrorSuccess) with
          | true =>
              rw [hmatch] at hkeyh
              rw [List.map_cons, List.find?_cons, hkeyh]
              rfl
          | false =>
              have hnone : ((h :: hs).map fun h => (x, h)).find? (fun q =>
                  pairKey q == (registerUid, cpu, msErrorSuccess))
                  = none := by
                refine List.find?_eq_none.2 fun q hq => ?_
                obtain ⟨g, hg, rfl⟩ := List.mem_map.1 hq
                rw [hkey g (by rw [hhits]; exact hg), hmatch]
                decide
              rw [hnone]
              rfl

/-- The words of successful reads that the unparsed mode keeps are those
of the first readings. -/
theorem mem_firsts_success {q : IoctlResult × BitfieldInfoHeap}
    (hq : q ∈ firsts pairKey (pairs heap info xs))
    (hs : q.1.status = msErrorSuccess) :
    firstReading heap info xs q.2.info.registerUid q.1.cpu = some q.1 := by
  have hfind := mem_firsts.1 hq
  have hkey : pairKey q = (q.2.info.registerUid, q.1.cpu, msErrorSuccess)
      := by
    rw [pairKey, hs]
  rw [hkey] at hfind
  rw [← find?_pairs, hfind]
  rfl

/-- Every first reading is kept. -/
theorem firsts_of_firstReading {registerUid cpu : U32} {y : IoctlResult}
    (hy : firstReading heap info xs registerUid cpu = some y) :
    ∃ h, (y, h) ∈ firsts pairKey (pairs heap info xs)
      ∧ h.info.registerUid = registerUid ∧ y.cpu = cpu
      ∧ y.status = msErrorSuccess := by
  rw [← find?_pairs, Option.map_eq_some_iff] at hy
  obtain ⟨⟨y', h⟩, hfind, rfl⟩ := hy
  have hkey := List.find?_some hfind
  rw [beq_iff_eq] at hkey
  have hmem : (y', h) ∈ firsts pairKey (pairs heap info xs) := by
    rw [mem_firsts, hkey]
    exact hfind
  obtain ⟨hreg, hcpu, hst⟩ : h.info.registerUid = registerUid
      ∧ y'.cpu = cpu ∧ y'.status = msErrorSuccess := by
    simpa [pairKey] using hkey
  exact ⟨h, hmem, hreg, hcpu, hst⟩

/-- A successful reading the query asks for has a first one. -/
theorem firstReading_isSome {q : IoctlResult × BitfieldInfoHeap}
    (hq : q ∈ pairs heap info xs) (hs : q.1.status = msErrorSuccess) :
    ∃ y, firstReading heap info xs q.2.info.registerUid q.1.cpu
      = some y := by
  obtain ⟨hx, hh, hr⟩ := mem_pairs.1 hq
  refine Option.isSome_iff_exists.1 (List.find?_isSome.2 ⟨q.1, hx, ?_⟩)
  have hreg := readsEntry_register hr
  have hany : heap.any (readsEntry heap info q.1) = true :=
    List.any_eq_true.2 ⟨q.2, hh, hr⟩
  rw [hany, hreg, hs]
  simp

-- ============================================================== agreement

theorem mem_successes {l : List BitfieldInfoPopulated}
    {p : BitfieldInfoPopulated} :
    p ∈ successes l ↔ p ∈ l ∧ p.status = msErrorSuccess := by
  rw [successes, List.mem_filter, beq_iff_eq]

/-- No reading comes twice in the unparsed mode. -/
theorem unparsed_once :
    ((successes ((firsts pairKey (pairs heap info xs)).map
      (wordOf heap))).map reading).Nodup := by
  have hnd := firsts_nodup pairKey (pairs heap info xs)
  have hkeys : ((firsts pairKey (pairs heap info xs)).map
      (wordOf heap)).map outputKey
      = (firsts pairKey (pairs heap info xs)).map pairKey := by
    rw [List.map_map]
    rfl
  rw [← hkeys] at hnd
  have hsub := (List.filter_sublist
    (p := fun p : BitfieldInfoPopulated => p.status == msErrorSuccess)
    (l := (firsts pairKey (pairs heap info xs)).map (wordOf heap)))
  have hnd' := (hsub.map outputKey).nodup hnd
  refine List.Nodup.map_on (fun p hp p' hp' heq => ?_) hnd'.of_map
  obtain ⟨-, hs⟩ := mem_successes.1 hp
  obtain ⟨-, hs'⟩ := mem_successes.1 hp'
  refine List.inj_on_of_nodup_map hnd' hp hp' ?_
  simp only [reading, Prod.mk.injEq] at heq
  rw [outputKey, outputKey, heq.1, heq.2.1, hs, hs']

/-- For every successful reading the query asks for, the first one of
its register and cpu has its privilege level and its field. -/
def FirstStandsFor (heap : List BitfieldInfoHeap) (info : MatchInfo)
    (xs : List IoctlResult) : Prop :=
  ∀ x ∈ xs, x.status = msErrorSuccess →
    ∀ h ∈ heap, readsEntry heap info x h = true →
    ∀ y, firstReading heap info xs x.registerUid x.cpu = some y →
      y.epl = x.epl
        ∧ ∃ g ∈ heap, g.info.uid = h.info.uid
          ∧ g.info.registerUid = h.info.registerUid
          ∧ h.field x.word = g.field y.word

theorem sameReadings_of_first (hfirst : FirstStandsFor heap info xs) :
    SameReadings heap ((pairs heap info xs).map (parsedOf heap))
      ((firsts pairKey (pairs heap info xs)).map (wordOf heap)) where
  triples := by
    intro t
    constructor
    · intro ht
      obtain ⟨p, hp, rfl⟩ := List.mem_map.1 ht
      obtain ⟨hp, hs⟩ := mem_successes.1 hp
      obtain ⟨q, hq, rfl⟩ := List.mem_map.1 hp
      obtain ⟨y, hy⟩ := firstReading_isSome hq hs
      obtain ⟨g, hg, hreg, hcpu, hst⟩ := firsts_of_firstReading hy
      obtain ⟨hx, hh, hr⟩ := mem_pairs.1 hq
      rw [readsEntry_register hr] at hy hreg
      have hepl := (hfirst q.1 hx hs q.2 hh hr y hy).1
      refine List.mem_map.2 ⟨wordOf heap (y, g), mem_successes.2
        ⟨List.mem_map_of_mem hg, hst⟩, ?_⟩
      show (g.info.registerUid, y.cpu, y.epl)
        = (q.2.info.registerUid, q.1.cpu, q.1.epl)
      rw [hreg, hcpu, hepl, readsEntry_register hr]
    · intro ht
      obtain ⟨p, hp, rfl⟩ := List.mem_map.1 ht
      obtain ⟨hp, hs⟩ := mem_successes.1 hp
      obtain ⟨q, hq, rfl⟩ := List.mem_map.1 hp
      have hq' := List.mem_of_find?_eq_some (mem_firsts.1 hq)
      exact List.mem_map.2 ⟨parsedOf heap q, mem_successes.2
        ⟨List.mem_map_of_mem hq', hs⟩, rfl⟩
  once := unparsed_once
  fields := by
    intro f hf w hw hread
    obtain ⟨hf, hsf⟩ := mem_successes.1 hf
    obtain ⟨q, hq, rfl⟩ := List.mem_map.1 hf
    obtain ⟨hw, hsw⟩ := mem_successes.1 hw
    obtain ⟨q', hq', rfl⟩ := List.mem_map.1 hw
    have hy := mem_firsts_success hq' hsw
    have hsame : q'.2.info.registerUid = q.2.info.registerUid
        ∧ q'.1.cpu = q.1.cpu := by
      simp only [reading, Prod.mk.injEq] at hread
      exact ⟨hread.1, hread.2.1⟩
    obtain ⟨hx, hh, hr⟩ := mem_pairs.1 hq
    rw [hsame.1, hsame.2, readsEntry_register hr] at hy
    obtain ⟨-, g, hg, huid, hreg, hval⟩ := hfirst q.1 hx hsf q.2 hh hr _ hy
    exact ⟨g, hg, huid, hreg, hval⟩

theorem first_of_sameReadings
    (hsame : SameReadings heap ((pairs heap info xs).map (parsedOf heap))
      ((firsts pairKey (pairs heap info xs)).map (wordOf heap))) :
    FirstStandsFor heap info xs := by
  intro x hx hs h hh hr y hy
  have hmem : parsedOf heap (x, h)
      ∈ successes ((pairs heap info xs).map (parsedOf heap)) :=
    mem_successes.2 ⟨List.mem_map_of_mem (mem_pairs.2 ⟨hx, hh, hr⟩), hs⟩
  obtain ⟨w, hw, hread⟩ := List.mem_map.1
    ((hsame.triples _).1 (List.mem_map_of_mem hmem))
  obtain ⟨g, hg, huid, hreg, hval⟩ := hsame.fields _ hmem w hw hread
  obtain ⟨hw, hsw⟩ := mem_successes.1 hw
  obtain ⟨q, hq, rfl⟩ := List.mem_map.1 hw
  have hfirst := mem_firsts_success hq hsw
  have hread' : q.2.info.registerUid = h.info.registerUid
      ∧ q.1.cpu = x.cpu ∧ q.1.epl = x.epl := by
    simpa [reading, wordOf, parsedOf, unparsed, populated] using hread
  rw [hread'.1, hread'.2.1, readsEntry_register hr, hy] at hfirst
  rw [Option.some.inj hfirst]
  exact ⟨hread'.2.2, g, hg, huid, hreg, hval⟩

/-- The two modes of a query agree exactly when there is an ioctl result
and the first reading of each register and cpu stands for the others. -/
theorem modes_agree_iff (heap : List BitfieldInfoHeap) (info : MatchInfo)
    (xs : List IoctlResult) :
    ModesAgree heap info xs
      ↔ xs ≠ [] ∧ FirstStandsFor heap info xs := by
  constructor
  · intro hex
    obtain ⟨p, u, hp, hu, hsame⟩ := hex
    have hxs : xs ≠ [] := by
      rintro rfl
      exact absurd hp (by simp [parseWith, breakoutParseResults])
    rw [parseWith_parsed hxs] at hp
    rw [parseWith_unparsed hxs] at hu
    obtain ⟨-, hp⟩ := Prod.mk.inj (Option.some.inj hp)
    obtain ⟨-, hu⟩ := Prod.mk.inj (Option.some.inj hu)
    obtain ⟨rfl, -⟩ := Prod.mk.inj hp
    obtain ⟨rfl, -⟩ := Prod.mk.inj hu
    exact ⟨hxs, first_of_sameReadings hsame⟩
  · intro hall
    obtain ⟨hxs, hfirst⟩ := hall
    exact ⟨_, _, parseWith_parsed hxs, parseWith_unparsed hxs,
      sameReadings_of_first hfirst⟩

/-- PMCR as read on cpu 0 in the kernel and in user mode, where the user
reads it with the counters hidden. -/
def pmcrTwice : List IoctlResult := [
  ⟨1, 0, 0x2001, 0, 0, 0, nsPrivilegeLevel1, msErrorSuccess⟩,
  ⟨1, 0, 0x0001, 0, 0, 0, nsPrivilegeLevel0, msErrorSuccess⟩]

/-- The unparsed mode drops the reading at level 0. -/
theorem modes_agree_fails :
    ¬ ∀ (heap : List BitfieldInfoHeap) (info : MatchInfo)
        (xs : List IoctlResult), xs ≠ [] → ModesAgree heap info xs := by
  intro h
  have hne : pmcrTwice ≠ [] := List.cons_ne_nil _ _
  obtain ⟨p, u, hp, hu, hsame⟩ := h smallHeap pmcrQuery pmcrTwice hne
  rw [parseWith_parsed hne] at hp
  rw [parseWith_unparsed hne] at hu
  obtain ⟨-, hp⟩ := Prod.mk.inj (Option.some.inj hp)
  obtain ⟨-, hu⟩ := Prod.mk.inj (Option.some.inj hu)
  obtain ⟨rfl, -⟩ := Prod.mk.inj hp
  obtain ⟨rfl, -⟩ := Prod.mk.inj hu
  have hin := (hsame.triples (1, 0, nsPrivilegeLevel0)).1
    (by decide +kernel)
  exact absurd hin (by decide +kernel)

end Maplesyrup
