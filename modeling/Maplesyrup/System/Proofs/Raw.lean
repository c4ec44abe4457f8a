/-
--noparse: words instead of fields.

A reading of which a field would be shown is shown whole instead, on a
line that has the names of the first such field; of the readings of one
register on one cpu the first (`raw_shows`). A word that is read at user
level is one of cpu 0, and comes behind those of the kernel.
-/
import Maplesyrup.System.Proofs.CommandLine

namespace Maplesyrup

open Base

variable {tables : List BitfieldTableEntry}
  {heap : List BitfieldInfoHeap} {c : FindCall} {info : MatchInfo}

-- =========================================================== the statement

/-- The word of a reading, under the names of an entry. -/
def Reading.whole (rd : Reading) (h : BitfieldInfoHeap) :
    BitfieldInfoPopulated where
  cpu := rd.cpu
  epl := rd.epl
  uid := h.info.uid
  ioctl := rd.registerUid
  midr := rd.midr
  status := msErrorSuccess
  bitfield := "Unparsed"
  functionalGroup := h.info.functionalGroup
  registerName := h.registerNameExpanded
  description := "None"
  value := rd.word
  uvalue := rd.word

/-- What the user is to see of readings that are not cut into fields. -/
def rawShown (heap : List BitfieldInfoHeap) (info : MatchInfo)
    (rds : List Reading) : List BitfieldInfoPopulated :=
  firsts (fun x => (x.ioctl, x.cpu)) <| rds.filterMap fun rd =>
    (heap.find? fun h => info.selects h && rd.fits h).map rd.whole

-- ============================================================ the decoding

/-- The word of a success is that of its reading. -/
theorem wordOf_whole (hheap : HeapOk heap) {x : IoctlResult}
    (hx : x.status = msErrorSuccess) {h : BitfieldInfoHeap} (hh : h ∈ heap)
    (hreg : h.info.registerUid = x.registerUid) :
    wordOf heap (x, h) = (readingOf x).whole h := by
  have hname := Nat.le_sub_one_of_lt (hheap.registerName h hh)
  have hgroup := Nat.le_sub_one_of_lt (hheap.functionalGroup h hh)
  unfold wordOf unparsed populated Reading.whole
  dsimp only
  rw [owner_self hheap.uids hh, hreg, hx, strncpy_of_le hname,
    strncpy_of_le hgroup, strncpy_of_le (by decide : _ ≤ _),
    strncpy_of_le (by decide : _ ≤ _)]
  rfl

/-- The entry that is found for a reading is of its register. -/
theorem find_fits {rd : Reading} {h : BitfieldInfoHeap}
    (hfind : heap.find? (fun h => info.selects h && rd.fits h) = some h) :
    h ∈ heap ∧ h.info.registerUid = rd.registerUid := by
  have hboth : (info.selects h && rd.fits h) = true :=
    List.find?_some (p := fun h => info.selects h && rd.fits h) hfind
  exact ⟨List.mem_of_find?_eq_some hfind,
    Reading.fits_register (Bool.and_eq_true_iff.1 hboth).2⟩

/-- The first entry a result hits, under which its word is shown. -/
def firstHit (heap : List BitfieldInfoHeap) (info : MatchInfo)
    (x : IoctlResult) : Option (IoctlResult × BitfieldInfoHeap) :=
  (heap.find? fun h => info.selects h && (readingOf x).fits h).map
    fun h => (x, h)

/-- Of the words found, those of the successes are those found in the
successes: a register's word is left out only for one of its status. -/
theorem firsts_successes (hheap : HeapOk heap) (info : MatchInfo)
    (xs : List IoctlResult) :
    (firsts pairKey (pairs heap info xs)).filter
        (fun q => q.1.status == msErrorSuccess)
      = firsts pairKey ((xs.filter fun x =>
          x.status == msErrorSuccess).filterMap (firstHit heap info)) := by
  have hkey : ∀ q q' : IoctlResult × BitfieldInfoHeap,
      pairKey q = pairKey q' →
      (q.1.status == msErrorSuccess) = (q'.1.status == msErrorSuccess) := by
    intro q q' h
    rw [show q.1.status = q'.1.status from congrArg (·.2.2) h]
  have hgroup : ∀ x : IoctlResult,
      ((allHits heap (requests heap info) x).map fun h => (x, h)).head?
        = firstHit heap info x := by
    intro x
    rw [allHits_fits hheap, List.head?_map, List.head?_filter]
    rfl
  have hsame : ∀ x : IoctlResult,
      ∀ q ∈ (allHits heap (requests heap info) x).map fun h => (x, h),
      pairKey q = (x.registerUid, x.cpu, x.status) := by
    intro x q hq
    obtain ⟨h, hh, rfl⟩ := List.mem_map.1 hq
    have hreg := readsEntry_register (mem_allHits.1 hh).2
    rw [pairKey, hreg]
  have hpairs : (pairs heap info xs).filter
        (fun q => q.1.status == msErrorSuccess)
      = pairs heap info (xs.filter fun x =>
          x.status == msErrorSuccess) := by
    unfold pairs
    induction xs with
    | nil => rfl
    | cons x xs ih =>
        rw [List.flatMap_cons, List.filter_append, ih, List.filter_map,
          List.filter_cons]
        cases hx : x.status == msErrorSuccess with
        | true => simp [Function.comp_def, hx]
        | false => simp [Function.comp_def, hx]
  rw [firsts_filter hkey, hpairs, pairs, firsts_flatMap]
  · congr 2
    funext x
    exact hgroup x
  · intro x q hq q' hq'
    rw [hsame x q hq, hsame x q' hq']

/-- Of the words that are found, the successes are those to be shown of
the readings. -/
theorem found_raw (hheap : HeapOk heap) (hnp : info.noparse = 1)
    (xs : List IoctlResult) :
    (found heap info xs).filter (fun p => p.status == msErrorSuccess)
      = rawShown heap info (xs.filterMap IoctlResult.reading) := by
  let hit := (xs.filter fun x => x.status == msErrorSuccess).filterMap
    (firstHit heap info)
  have hhit : ∀ q ∈ hit, q.1.status = msErrorSuccess ∧ q.2 ∈ heap
      ∧ q.2.info.registerUid = q.1.registerUid := by
    intro q hq
    obtain ⟨x, hx, hfirst⟩ := List.mem_filterMap.1 hq
    obtain ⟨h, hfind, rfl⟩ := Option.map_eq_some_iff.1 hfirst
    exact ⟨beq_iff_eq.1 (List.mem_filter.1 hx).2, find_fits hfind⟩
  have hwords : hit.map (wordOf heap)
      = (xs.filterMap IoctlResult.reading).filterMap fun rd =>
        (heap.find? fun h => info.selects h && rd.fits h).map
          rd.whole := by
    rw [List.map_filterMap, List.filterMap_filter, List.filterMap_filterMap]
    congr 1
    funext x
    unfold IoctlResult.reading
    by_cases hx : x.status = msErrorSuccess
    · rw [if_pos (beq_iff_eq.2 hx), if_pos hx, Option.bind_some, firstHit,
        Option.map_map]
      refine Option.map_congr fun h hh => ?_
      exact wordOf_whole hheap hx (find_fits hh).1 (find_fits hh).2
    · rw [if_neg fun h => hx (beq_iff_eq.1 h), if_neg hx]
      rfl
  rw [found, if_pos hnp, List.filter_map]
  calc ((firsts pairKey (pairs heap info xs)).filter fun q =>
          q.1.status == msErrorSuccess).map (wordOf heap)
      = (firsts pairKey hit).map (wordOf heap) := by
        rw [firsts_successes hheap]
    _ = (firsts (fun q => ((wordOf heap q).ioctl, (wordOf heap q).cpu))
          hit).map (wordOf heap) := by
        refine congrArg _ (firsts_key fun q hq q' hq' => ?_)
        have hstatus := (hhit q hq).1.trans (hhit q' hq').1.symm
        unfold pairKey
        rw [hstatus]
        show _ ↔ (q.2.info.registerUid, q.1.cpu)
          = (q'.2.info.registerUid, q'.1.cpu)
        simp
    _ = rawShown heap info (xs.filterMap IoctlResult.reading) := by
        rw [rawShown, ← hwords, firsts_map]

-- ============================================================== the screen

/-- The search is of the device, for words, and has memory for all it
does. -/
structure SaysRaw (t : Target) (stale : Stale)
    (tables : List BitfieldTableEntry) (argv : List Text) (o : Outcome)
    (heap : List BitfieldInfoHeap) (c : FindCall) (info : MatchInfo) :
    Prop extends Asks t stale tables argv o heap c info where
  runs : c.Runs
  raw : c.args.noparse = 1

variable {t : Target} {stale : Stale} {argv : List Text}
  {o : Nat → Outcome}

/-- What the tool shows for a command line that says a search for words:
of each register and cpu the first word of which there is a field to be
shown. -/
theorem raw_shows (b : Build) (machines : Nat → Machine)
    (regs : Nat → String → Option U64)
    (h : SaysRaw t stale tables argv (o 0) heap c info)
    (listing : Outcome) (p : Process ToolState) :
    (Recordable (requests heap info) →
        ∃ run, main (toolHost b machines regs) tables t stale argv listing
            o p = .ok run
          ∧ screenLines run.screen
            = (rawShown heap info (readings b machines regs p.dev
                (requests heap info))).map (fieldLine heap)
          ∧ (screenLines run.screen ≠ [] → run.result = 0))
      ∧ (¬ Recordable (requests heap info) →
        main (toolHost b machines regs) tables t stale argv listing o p
          = .error .uninitialised) := by
  have hmode := (FindCall.request_mode h.request).1
  rw [h.raw] at hmode
  constructor
  · intro hrec
    obtain ⟨r, xs, hrun, hreads, hlines, hfailed, -⟩ :=
      FindCall.run_successes b machines regs h.runs h.request (Or.inr hmode)
        h.table h.readable (p := p) hrec
    obtain ⟨run, hmain, hscreen, hresult, -⟩ := h.main_call
      (toolHost b machines regs) listing hrun hfailed
    refine ⟨run, hmain, ?_, fun hne => ?_⟩
    · rw [hscreen, hlines, found_raw h.readable.heapOk hmode, hreads]
    · rw [hresult]
      rw [hscreen] at hne
      exact result_of_lines hfailed hne
  · intro hrec
    exact h.main_fault _ listing (FindCall.run_unread b machines regs
      h.runs h.request (Or.inr h.raw) h.table hrec)

def rawWords : List Text := "--noparse".toList :: midrWords.flatten

def rawCall : FindCall :=
  ⟨{}, { arch := some "armv7a", impl := some "all", noparse := 1 },
    .register (some "MIDR") none⟩

def rawInfo : MatchInfo := { midrInfo with noparse := 1 }

theorem midr_saysRaw :
    SaysRaw .aarch32 someStale bitfieldTable rawWords {} systemHeap rawCall
      rawInfo where
  goesOn := by decide
  searches := by decide
  plain := by decide
  call := by rfl
  request := by decide +kernel
  table := rfl
  readable := shipped_readable 0
  runs := ⟨rfl, rfl, ⟨rfl, by decide⟩, rfl⟩
  raw := rfl

theorem raw_shows_midr :
    ∃ run, main (toolHost ⟨.aarch32, true⟩ (fun _ => mixedMachine)
        fun _ _ => none) bitfieldTable .aarch32 someStale rawWords {}
        (fun _ => {}) freshProcess = .ok run
      ∧ screenLines run.screen
        = (rawShown systemHeap rawInfo (readings ⟨.aarch32, true⟩
            (fun _ => mixedMachine) (fun _ _ => none) freshProcess.dev
            (requests systemHeap rawInfo))).map (fieldLine systemHeap)
      ∧ (screenLines run.screen ≠ [] → run.result = 0) :=
  (raw_shows (o := fun _ => {}) ⟨.aarch32, true⟩ (fun _ => mixedMachine)
    (fun _ _ => none) midr_saysRaw {} freshProcess).1
      (midr_recordable 1)

end Maplesyrup
