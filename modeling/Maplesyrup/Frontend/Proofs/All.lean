/-
Does --all search every group?

On a heap like the library's own (`Grouped`) the listing gives each group
once, and a search for one selects its entries and no others. So what is
left to ask is whether the loop gets to the last group: it stops at a
search that fails, and a search fails when none of its readings joins an
entry of its group (`findGroup_returned`). Every group is covered
exactly when each but the last is answered (`main_covers_iff`).
-/
import Maplesyrup.Base.Cells
import Maplesyrup.Base.Keyed
import Maplesyrup.Decode.Proofs.Modes
import Maplesyrup.Decode.Proofs.Names
import Maplesyrup.Decode.Proofs.Sort
import Maplesyrup.Frontend.All
import Maplesyrup.Library.Proofs.Listing
import Maplesyrup.Library.Proofs.Memory

namespace Maplesyrup

open Base
open MsSysreg

variable {δ : Type} {heap : List BitfieldInfoHeap}

-- ================================================================ the groups

/-- The distinct groups of a heap, in its order. -/
def groupsOf (heap : List BitfieldInfoHeap) : List String :=
  (firsts BitfieldInfoHeap.group heap).map BitfieldInfoHeap.group

theorem groupsOf_nodup (heap : List BitfieldInfoHeap) :
    (groupsOf heap).Nodup :=
  firsts_nodup _ heap

theorem mem_groupsOf {g : String} :
    g ∈ groupsOf heap ↔ ∃ h ∈ heap, h.group = g := by
  have hany := any_firsts BitfieldInfoHeap.group heap g
  rw [groupsOf, List.mem_map]
  constructor
  · intro hex
    obtain ⟨h, hh, rfl⟩ := hex
    exact ⟨h, List.mem_of_find?_eq_some (mem_firsts.1 hh), rfl⟩
  · intro hex
    obtain ⟨h, hh, hg⟩ := hex
    have htrue : (heap.any fun y => y.group == g) = true :=
      List.any_eq_true.2 ⟨h, hh, by rw [hg, beq_self_eq_true]⟩
    rw [← hany] at htrue
    obtain ⟨y, hy, hyg⟩ := List.any_eq_true.1 htrue
    exact ⟨y, hy, beq_iff_eq.1 hyg⟩

/-- A heap whose uids and group names are fit to be listed by, and on
which `info` asks for no entry but by its group. -/
structure Grouped (heap : List BitfieldInfoHeap) (info : MatchInfo) :
    Prop where
  uids : (heap.map fun h => h.info.uid).Nodup
  functionalGroup : ∀ h ∈ heap, h.group.length < parseMaxFunctional
  keys : ∀ h ∈ heap, info.matchesTable h = true →
    h.info.uid ≠ 0 ∧ h.registerNameExpanded ≠ ""
  /-- No array gets as many elements as an `int` can count. -/
  size : (msMaxCpus + 1) * heap.length * heap.length < 2 ^ 31

/-- The groups of the shipped rows. -/
def shippedGroups : List (String × Unit) :=
  bitfieldTable.flatMap fun t =>
    t.tablePtr.map fun row => (row.functionalGroup, ())

theorem shippedGroups_length :
    ∀ q ∈ shippedGroups, q.1.length < parseMaxFunctional := by
  have hcheck : ((collect (fun _ => false) [] shippedGroups).any
      fun groups => groups.all fun q =>
        decide (q.1.length < parseMaxFunctional)) = true := by
    decide +kernel
  obtain ⟨groups, hall, -, hmem⟩ := oneValue_of_collect hcheck
  intro q hq
  exact of_decide_eq_true (List.all_eq_true.1 hall q (hmem q hq))

/-- The shipped heap is such a heap, with or without devices. -/
theorem shipped_grouped (includeDevices : Int) (info : MatchInfo) :
    Grouped (expanded (included includeDevices bitfieldTable)) info := by
  have hnames : ∀ t ∈ bitfieldTable, ∀ row ∈ t.tablePtr,
      row.registerName ≠ "" := by
    decide +kernel
  have hrow : ∀ h ∈ expanded (included includeDevices bitfieldTable),
      ∃ t ∈ bitfieldTable, ∃ row ∈ t.tablePtr,
        h.group = row.functionalGroup ∧ h.registerNameExpanded ≠ "" := by
    intro h hh
    obtain ⟨i, hi⟩ := List.getElem?_of_mem hh
    obtain ⟨t, ht, row, hrow, hentry⟩ := expanded_allExpand _ i h hi
    have ht' := (included_mem ht).1
    have hcopy := strncpy_ne_empty (hnames t ht' row hrow)
      (show 0 < parseMaxRegister - 1 by decide)
    rcases hentry with ⟨-, rfl⟩ | ⟨-, k, -, rfl⟩
    · exact ⟨t, ht', row, hrow, rfl, hcopy⟩
    · refine ⟨t, ht', row, hrow, rfl, ?_⟩
      unfold mmEntry
      dsimp only
      split
      · intro hempty
        exact hcopy (String.append_eq_empty_iff.1 hempty).1
      · exact hcopy
  constructor
  · exact shipped_uid_nodup includeDevices
  · intro h hh
    obtain ⟨t, ht, row, hr, hgroup, -⟩ := hrow h hh
    rw [hgroup]
    exact shippedGroups_length (row.functionalGroup, ())
      (List.mem_flatMap.2 ⟨t, ht, List.mem_map.2 ⟨row, hr, rfl⟩⟩)
  · intro h hh _
    obtain ⟨t, -, row, -, -, hname⟩ := hrow h hh
    exact ⟨shipped_uid_ne_zero includeDevices h hh, hname⟩
  · have hlen : (expanded (included includeDevices bitfieldTable)).length
        ≤ 2 ^ 13 := by
      rw [expanded_length]
      unfold included
      split
      · decide +kernel
      · decide +kernel
    calc _ ≤ (msMaxCpus + 1) * 2 ^ 13 * 2 ^ 13 :=
          Nat.mul_le_mul (Nat.mul_le_mul_left _ hlen) hlen
      _ < 2 ^ 31 := by decide

/-- The listing gives the first entry of each group. -/
theorem getGroups_listed (hnd : (heap.map fun h => h.info.uid).Nodup)
    (hshort : ∀ h ∈ heap, h.group.length < parseMaxFunctional) :
    getGroups .ok heap []
      = some (0, (firsts BitfieldInfoHeap.group heap).map (listed heap),
          .ok) :=
  (getGroups_appends hnd hshort).whole Alloc.ok (succeed_ok _)

-- ================================================================ the arrays

/-- An array the library stores is run over whole, as long as an `int`
counts it. -/
theorem elementsOf_flattened (heap : List BitfieldInfoHeap)
    {l : List BitfieldInfoPopulated} (hl : l.length < 2 ^ 31) :
    elementsOf (flattenResults .ok heap l).2.1
      = l.map (flattenOne heap l.length) := by
  cases l with
  | nil => rfl
  | cons x l =>
      have hnat : (BitVec.ofNat 32 (x :: l).length).toNat
          = (x :: l).length := by
        rw [BitVec.toNat_ofNat]
        exact Nat.mod_eq_of_lt (by omega)
      have hsize : (BitVec.ofNat 32 (x :: l).length).toInt
          = ((x :: l).length : Int) := by
        rw [BitVec.toInt_eq_toNat_of_lt (by omega), hnat]
      show List.take (BitVec.ofNat 32 (x :: l).length).toInt.toNat _ = _
      rw [hsize, Int.toNat_natCast]
      show List.take (x :: l).length ((x :: l).map _) = _
      exact List.take_of_length_le (Nat.le_of_eq (List.length_map _))

/-- An array that is not made is not stored. -/
theorem flattenResults_failed (a : Alloc) (heap : List BitfieldInfoHeap)
    (l : List BitfieldInfoPopulated)
    (h : (flattenResults a heap l).1 ≠ 0) :
    (flattenResults a heap l).1 = -1
      ∧ (flattenResults a heap l).2.1 = none := by
  unfold flattenResults at h ⊢
  by_cases hl : l.length = 0
  · rw [if_pos hl]
    exact ⟨rfl, rfl⟩
  · rw [if_neg hl] at h ⊢
    cases ha : a 0 with
    | true =>
        rw [ha, if_pos rfl] at h
        exact absurd rfl h
    | false => exact ⟨rfl, rfl⟩

theorem tables_loaded (tables : List BitfieldTableEntry)
    (includeDevices : Int) (g : TableGlobals) :
    ∃ g', readTablesToMemory .ok tables includeDevices g = (0, g', .ok)
      ∧ g'.heap = .ok (expanded (included includeDevices tables)) := by
  obtain ⟨g', hread⟩ : ∃ g',
      readTablesToMemory .ok tables includeDevices g = (0, g', .ok) :=
    ⟨_, rfl⟩
  refine ⟨g', hread, ?_⟩
  rw [readTablesToMemory_heap hread]
  unfold TableGlobals.heap
  dsimp only
  rw [if_pos (Nat.le_refl _), List.take_length]

/-- What the listing leaves `main` with: the groups, the process. -/
theorem msGetGroups_listed {tables : List BitfieldTableEntry}
    {o : Outcome} (ha : o.alloc = .ok) {includeDevices : Int}
    (hheap : heap = expanded (included includeDevices tables))
    (hnd : (heap.map fun h => h.info.uid).Nodup)
    (hshort : ∀ h ∈ heap, h.group.length < parseMaxFunctional)
    (hlen : heap.length < 2 ^ 31) (p : Process δ) :
    ∃ r, msGetGroups tables o true includeDevices p = .ok r
      ∧ (elementsOf r.stored).map (·.functionalGroup) = groupsOf heap
      ∧ r.process.dev = p.dev := by
  obtain ⟨g, hread, hg⟩ := tables_loaded tables includeDevices p.tables
  rw [← hheap] at hg
  have hlist := getGroups_listed hnd hshort
  unfold msGetGroups msGet
  rw [if_neg (by simp), ha, hread]
  dsimp only
  rw [hg, ok_bind, hlist, orFault_some, ok_bind]
  dsimp only
  rw [if_neg (by simp)]
  have hmem : ∀ h ∈ firsts BitfieldInfoHeap.group heap, h ∈ heap :=
    fun h hh => List.mem_of_find?_eq_some (mem_firsts.1 hh)
  have hcount : ((firsts BitfieldInfoHeap.group heap).map
      (listed heap)).length < 2 ^ 31 := by
    rw [List.length_map]
    exact Nat.lt_of_le_of_lt (firsts_length_le _ heap) hlen
  have hnames : (elementsOf (flattenResults .ok heap
      ((firsts BitfieldInfoHeap.group heap).map (listed heap))).2.1).map
        (·.functionalGroup) = groupsOf heap := by
    rw [elementsOf_flattened heap hcount, List.map_map, List.map_map,
      groupsOf]
    refine List.map_congr_left fun h hh => ?_
    have hshorth := hshort h (hmem h hh)
    show strncpy (listed heap h).functionalGroup _ = _
    rw [listed_group hnd hshort (hmem h hh)]
    exact strncpy_of_le (by omega)
  by_cases hflat : (flattenResults .ok heap
      ((firsts BitfieldInfoHeap.group heap).map (listed heap))).1 = 0
  · rw [if_neg (not_not.2 hflat)]
    exact ⟨_, rfl, hnames, rfl⟩
  · rw [if_pos hflat]
    rw [(flattenResults_failed _ _ _ hflat).2] at hnames
    exact ⟨_, rfl, hnames, rfl⟩

-- ================================================================ one search

/-- The request for a group. -/
def groupInfo (base : MatchInfo) (g : String) : MatchInfo :=
  { base with functionalGroup := strncpy g (parseMaxFunctional - 1) }

/-- What is found in readings, in the mode of the request. -/
def found (heap : List BitfieldInfoHeap) (info : MatchInfo)
    (xs : List IoctlResult) : List BitfieldInfoPopulated :=
  if info.noparse = 1 then
    (firsts pairKey (pairs heap info xs)).map (wordOf heap)
  else (pairs heap info xs).map (parsedOf heap)

theorem breakoutParseResults_found {info : MatchInfo}
    (hnp : info.noparse = 0 ∨ info.noparse = 1) {xs : List IoctlResult}
    (hxs : xs ≠ []) :
    breakoutParseResults .ok heap xs (requests heap info) []
      = some (0, found heap info xs, .ok) := by
  have hmode : parseWith heap info xs info.noparse
      = breakoutParseResults .ok heap xs (requests heap info) [] := by
    rw [parseWith, breakoutSearchTable_ok]
    rfl
  unfold found
  rw [← hmode]
  rcases hnp with h | h
  · rw [h, if_neg (by decide)]
    exact parseWith_parsed hxs
  · rw [h, if_pos rfl]
    exact parseWith_unparsed hxs

theorem readState_alloc (P : Platform δ) (dev : δ)
    (reqs : List ResultsInfo) : (readState P dev reqs).alloc = .ok := by
  have h := breakoutSortIoctls_goes P dev reqs
    (succeed_ok (readSites P dev reqs).length)
  exact congrArg (fun u => u.2.alloc) h

/-- A search with memory for all it needs. -/
theorem findBitfields_found (P : Platform δ)
    (heap : List BitfieldInfoHeap) (dev : δ) {info : MatchInfo}
    (hcalc : info.calcValid = 0)
    (hnp : info.noparse = 0 ∨ info.noparse = 1) :
    let u := readState P dev (requests heap info)
    Stack.findBitfields P .ok heap dev (some info) (some [])
      = if u.listOut = [] then .error .uninitialised
        else .ok ((0, found heap info u.listOut, .ok), u.dev) := by
  intro u
  have hsort : Stack.breakoutSortIoctls P .ok dev
      (some (requests heap info)) (some [])
      = .ok (0, u.listOut, u.alloc, u.dev) := rfl
  have hsearch : breakoutSearchTable .ok heap info []
      = (0, requests heap info, .ok) := breakoutSearchTable_ok heap info []
  have halloc : u.alloc = .ok := readState_alloc P dev _
  by_cases hxs : u.listOut = []
  · rw [if_pos hxs]
    simp only [Stack.findBitfields, hsearch, hcalc, msListInit, hsort,
      ok_bind, hxs, Stack.breakoutParseResults_empty, error_bind,
      ne_eq, not_true_eq_false, ↓reduceIte]
  · rw [if_neg hxs]
    simp only [Stack.findBitfields, hsearch, hcalc, msListInit, hsort,
      ok_bind, Stack.breakoutParseResults_eq _ heap hxs, halloc,
      breakoutParseResults_found hnp hxs, orFault_some,
      Stack.findDone_some, ne_eq, not_true_eq_false, ↓reduceIte]

-- ================================================================ its size

/-- A worklist is no longer than the requests. -/
theorem workAt_length_le (level : U32) (reqs : List ResultsInfo) :
    (workAt level reqs).length ≤ reqs.length := by
  unfold workAt leaders
  rw [List.length_map]
  calc _ ≤ (firsts ResultsInfo.registerUid
          (reqs.filter ResultsInfo.readable)).length :=
        List.length_filter_le _ _
    _ ≤ (reqs.filter ResultsInfo.readable).length :=
        firsts_length_le _ _
    _ ≤ reqs.length := List.length_filter_le _ _

theorem callDriverStep_length_le (P : Platform δ) (s : DriverState δ)
    (u : UsedIoctl) :
    (callDriverStep P s u).listOut.length
      ≤ s.listOut.length + msMaxCpus := by
  have hslot : ∀ (s : DriverState δ) (c : Fin msMaxCpus),
      (saveSlot u.registerUid s c).listOut.length
        ≤ s.listOut.length + 1 := by
    intro s c
    unfold saveSlot breakoutAddIoctlResult msListAdd
    cases s.alloc 0 <;> simp
  have hslots : ∀ s : DriverState δ,
      ((List.finRange msMaxCpus).foldl (saveSlot u.registerUid)
        s).listOut.length ≤ s.listOut.length + msMaxCpus := by
    intro s
    have hloop := foldl_size_le (fun s : DriverState δ =>
      s.listOut.length) hslot (List.finRange msMaxCpus) s
    rwa [List.length_finRange, Nat.mul_one] at hloop
  unfold callDriverStep
  dsimp only
  split
  · exact Nat.le_add_right _ _
  · exact hslots _

theorem callUsermodeStep_length_le (P : Platform δ)
    (s : UsermodeState δ) (u : UsedIoctl) :
    (callUsermodeStep P s u).listOut.length
      ≤ s.listOut.length + 1 := by
  unfold callUsermodeStep
  dsimp only
  split
  · exact Nat.le_add_right _ _
  · unfold breakoutAddIoctlResult msListAdd
    cases s.alloc 0 <;> simp

/-- Every request is read at most once on each cpu, and once in user
mode. -/
theorem readState_length_le (P : Platform δ) (dev : δ)
    (reqs : List ResultsInfo) :
    (readState P dev reqs).listOut.length
      ≤ (msMaxCpus + 1) * reqs.length := by
  have hd := foldl_size_le (fun s : DriverState δ => s.listOut.length)
    (callDriverStep_length_le P) (workAt nsPrivilegeLevel1 reqs)
    ⟨{}, [], .ok, dev⟩
  have hu := foldl_size_le (fun s : UsermodeState δ => s.listOut.length)
    (callUsermodeStep_length_le P) (workAt nsPrivilegeLevel0 reqs)
  have h1 := workAt_length_le nsPrivilegeLevel1 reqs
  have h0 := workAt_length_le nsPrivilegeLevel0 reqs
  unfold readState breakoutSortIoctls
  rw [sorted]
  refine (hu _).trans ?_
  have hcpus : msMaxCpus = 8 := rfl
  simp only [hcpus, List.length_nil, Nat.zero_add, Nat.mul_one] at hd ⊢
  unfold breakoutCallDriver
  dsimp only
  omega

/-- With distinct uids a reading joins an entry at most once. -/
theorem pairs_length_le (hnd : (heap.map fun h => h.info.uid).Nodup)
    (info : MatchInfo) (xs : List IoctlResult) :
    (pairs heap info xs).length ≤ xs.length * heap.length := by
  have hhits : ∀ x, (allHits heap (requests heap info) x).length
      ≤ heap.length := by
    intro x
    rw [requests, allHits_requests hnd fun h hh =>
      (List.mem_filter.1 hh).1]
    exact (List.length_filter_le _ _).trans (List.length_filter_le _ _)
  unfold pairs
  induction xs with
  | nil => exact Nat.zero_le _
  | cons x xs ih =>
      have hx := hhits x
      rw [List.flatMap_cons, List.length_append, List.length_map,
        List.length_cons, Nat.succ_mul]
      omega

theorem found_length_le (info : MatchInfo) (xs : List IoctlResult) :
    (found heap info xs).length ≤ (pairs heap info xs).length := by
  unfold found
  split
  · rw [List.length_map]
    exact firsts_length_le _ _
  · rw [List.length_map]

-- ================================================================ its answer

/-- The request of every search, without the group. -/
def Options.info (opts : Options) : Option MatchInfo :=
  setMatchInfo false opts.findArgs.arch opts.findArgs.impl
    opts.findArgs.cpu opts.findArgs.pl opts.findArgs.noparse none

/-- The heap table of every search. -/
def Options.heapTable (opts : Options) (tables : List BitfieldTableEntry) :
    List BitfieldInfoHeap :=
  expanded (included (if opts.flagFbDevices then 1 else 0) tables)

/-- It asks for nothing yet. -/
structure Unkeyed (info : MatchInfo) : Prop where
  uid : info.uid = 0
  registerName : info.registerName = ""
  noparse : info.noparse = 0 ∨ info.noparse = 1
  calcValid : info.calcValid = 0

theorem Options.info_unkeyed {opts : Options} {base : MatchInfo}
    (h : opts.info = some base) : Unkeyed base := by
  unfold Options.info setMatchInfo at h
  obtain ⟨_, -, h⟩ := Option.bind_eq_some_iff.1 h
  obtain ⟨_, -, h⟩ := Option.bind_eq_some_iff.1 h
  obtain ⟨_, -, h⟩ := Option.bind_eq_some_iff.1 h
  obtain ⟨_, -, h⟩ := Option.bind_eq_some_iff.1 h
  obtain rfl := Option.some.inj h
  refine ⟨rfl, rfl, ?_, rfl⟩
  show (if opts.flagFbNoparse then (1 : U32) else 0) = 0
    ∨ (if opts.flagFbNoparse then (1 : U32) else 0) = 1
  cases opts.flagFbNoparse with
  | false => exact Or.inl rfl
  | true => exact Or.inr rfl

/-- The readings of a search for a group that opens the device. -/
def groupReads (H : Host δ) (heap : List BitfieldInfoHeap)
    (base : MatchInfo) (o : Outcome) (dev : δ) (g : String) :
    UsermodeState δ :=
  readState (H.platform o.opened) (H.clearIllsig dev)
    (requests heap (groupInfo base g))

variable {H : Host δ} {tables : List BitfieldTableEntry}
  {opts : Options} {base : MatchInfo} {o : Outcome}

theorem groupFound_length (hheap : Grouped heap base) (dev : δ)
    (g : String) :
    (found heap (groupInfo base g)
      (groupReads H heap base o dev g).listOut).length < 2 ^ 31 := by
  have hreqs : (requests heap (groupInfo base g)).length
      ≤ heap.length := by
    rw [requests, List.length_map]
    exact List.length_filter_le _ _
  have hreads := readState_length_le (H.platform o.opened)
    (H.clearIllsig dev) (requests heap (groupInfo base g))
  calc _ ≤ (pairs heap (groupInfo base g)
          (groupReads H heap base o dev g).listOut).length :=
        found_length_le _ _
    _ ≤ (groupReads H heap base o dev g).listOut.length * heap.length :=
        pairs_length_le hheap.uids _ _
    _ ≤ (msMaxCpus + 1) * heap.length * heap.length :=
        Nat.mul_le_mul_right _
          (hreads.trans (Nat.mul_le_mul_left _ hreqs))
    _ < 2 ^ 31 := hheap.size

/-- The search starts. -/
def Outcome.Starts (o : Outcome) : Prop :=
  o.register = true ∧ o.opened ≠ -1

theorem findGroup_failed (H : Host δ) (tables : List BitfieldTableEntry)
    (opts : Options) (hstart : ¬ o.Starts) (g : String)
    (p : Process δ) :
    ∃ q, msFindByGroup H tables o opts.findArgs (some g) p
      = .ok ⟨-1, none, q⟩ := by
  unfold msFindByGroup
  rw [msFind_device rfl rfl, findStarted,
    if_pos (startTest_failed hstart p)]
  exact ⟨_, rfl⟩

theorem stopTest_dev (o : Outcome) (p : Process δ) :
    (stopTest o p).dev = p.dev := by
  unfold stopTest
  split <;> rfl

/-- What a search of the device does with what it found. -/
def findFound (o : Outcome) (heap : List BitfieldInfoHeap)
    (p : Process δ) : Stack.Parsed × δ → Except Fault (Returned δ)
  | ((r, list, a), dev) =>
      let p := { p with dev := dev }
      if r ≠ 0 then findDone true o (some list) (-1) none p
      else
        let (r, stored, _) := flattenResults a heap list
        if r ≠ 0 then findDone true o (some list) (-1) none p
        else findDone true o (some list) 0 stored p

theorem findGroup_started (H : Host δ) (tables : List BitfieldTableEntry)
    (hbase : opts.info = some base) (hstart : o.Starts)
    (ha : o.alloc = .ok) (g : String) (p : Process δ) :
    let heap := opts.heapTable tables
    let u := groupReads H heap base o p.dev g
    if u.listOut = [] then
      msFindByGroup H tables o opts.findArgs (some g) p
        = .error .uninitialised
    else
      ∃ q, q.dev = u.dev
        ∧ msFindByGroup H tables o opts.findArgs (some g) p
          = .ok ⟨(flattenResults .ok heap
              (found heap (groupInfo base g) u.listOut)).1,
            (flattenResults .ok heap
              (found heap (groupInfo base g) u.listOut)).2.1, q⟩ := by
  intro heap u
  have hkeys := Options.info_unkeyed hbase
  have hset : setMatchInfo o.errnoRange opts.findArgs.arch
      opts.findArgs.impl opts.findArgs.cpu opts.findArgs.pl
      opts.findArgs.noparse none = some base := hbase
  let started : Process δ := { p with
    signals := ⟨.msSignalHandler, p.signals.sigill, 0⟩
    dev := H.clearIllsig p.dev
    msFd := o.opened }
  have hrequest : msFindByGroup H tables o opts.findArgs (some g) p
      = findRequest H tables true o (groupInfo base g)
          opts.findArgs.includeDevices [] started := by
    unfold msFindByGroup
    rw [msFind_device rfl rfl, startTest_ok hstart.1 hstart.2,
      findStarted, if_neg (by simp)]
    dsimp only
    rw [hset]
    rfl
  obtain ⟨tbl, hread, hheap⟩ := tables_loaded tables
    opts.findArgs.includeDevices p.tables
  have hfind : Stack.findBitfields (H.platform o.opened) .ok heap
      (H.clearIllsig p.dev) (some (groupInfo base g)) (some [])
      = if u.listOut = [] then .error .uninitialised
        else .ok ((0, found heap (groupInfo base g) u.listOut, .ok),
          u.dev) :=
    findBitfields_found _ heap _ hkeys.calcValid hkeys.noparse
  have hsearch : findRequest H tables true o (groupInfo base g)
      opts.findArgs.includeDevices [] started
      = (Stack.findBitfields (H.platform o.opened) .ok heap
          (H.clearIllsig p.dev) (some (groupInfo base g)) (some [])
        >>= findFound o heap { started with tables := tbl }) := by
    unfold findRequest
    rw [ha, show started.tables = p.tables from rfl, hread]
    dsimp only
    rw [hheap]
    rfl
  rw [hrequest, hsearch, hfind]
  by_cases hxs : u.listOut = []
  · rw [if_pos hxs, if_pos hxs]
    rfl
  · rw [if_neg hxs, if_neg hxs, ok_bind, findFound]
    dsimp only
    rw [if_neg (by simp)]
    by_cases hflat : (flattenResults .ok heap
        (found heap (groupInfo base g) u.listOut)).1 = 0
    · rw [if_neg (not_not.2 hflat), hflat]
      exact ⟨_, stopTest_dev o _, rfl⟩
    · rw [if_pos hflat, (flattenResults_failed _ _ _ hflat).1,
        (flattenResults_failed _ _ _ hflat).2]
      exact ⟨_, stopTest_dev o _, rfl⟩

-- ================================================================= the loop

/-- One of the readings is of an entry the search asks for, on a core
the entry's table is for. -/
def Joined (heap : List BitfieldInfoHeap) (info : MatchInfo)
    (xs : List IoctlResult) : Prop :=
  ∃ x ∈ xs, ∃ h ∈ heap, readsEntry heap info x h = true

/-- Then there is something to find. -/
theorem found_ne_nil {info : MatchInfo} {xs : List IoctlResult} :
    found heap info xs ≠ [] ↔ Joined heap info xs := by
  have hpairs : pairs heap info xs ≠ [] ↔ Joined heap info xs := by
    rw [ne_eq, List.eq_nil_iff_forall_not_mem]
    push Not
    constructor
    · intro hex
      obtain ⟨⟨x, h⟩, hq⟩ := hex
      obtain ⟨hx, hh, hreads⟩ := mem_pairs.1 hq
      exact ⟨x, hx, h, hh, hreads⟩
    · intro hex
      obtain ⟨x, hx, h, hh, hreads⟩ := hex
      exact ⟨(x, h), mem_pairs.2 ⟨hx, hh, hreads⟩⟩
  rw [← hpairs]
  unfold found
  split
  · rw [ne_eq, ne_eq, List.map_eq_nil_iff]
    refine not_congr ⟨fun hfirsts => ?_, fun hnil => ?_⟩
    · by_contra hne
      obtain ⟨q, hq⟩ := List.exists_mem_of_ne_nil _ hne
      have hany := any_firsts pairKey (pairs heap info xs) (pairKey q)
      rw [hfirsts, List.any_nil] at hany
      have hnot := List.any_eq_false.1 hany.symm q hq
      exact hnot (beq_self_eq_true _)
    · rw [hnil]
      rfl
  · rw [ne_eq, ne_eq, List.map_eq_nil_iff]

theorem flattenResults_ret (heap : List BitfieldInfoHeap)
    (l : List BitfieldInfoPopulated) :
    (flattenResults .ok heap l).1 = 0 ↔ l ≠ [] := by
  cases l with
  | nil => simp [flattenResults]
  | cons x l => exact iff_of_true rfl (by simp)

/-- Every search gets to its end, and every one but the last finds
something. -/
def AllAnswered (H : Host δ) (heap : List BitfieldInfoHeap)
    (base : MatchInfo) : List String → (Nat → Outcome) → δ → Prop
  | [], _, _ => True
  | g :: gs, o, dev =>
      let u := groupReads H heap base (o 0) dev g
      ((o 0).Starts → u.listOut ≠ [])
        ∧ (gs ≠ [] → (o 0).Starts
          ∧ Joined heap (groupInfo base g) u.listOut
          ∧ AllAnswered H heap base gs (fun n => o (n + 1)) u.dev)

/-- The loop makes its searches in turn, up to some. -/
theorem findGroups_calls {xs : List MsBitfieldInfo} {o : Nat → Outcome}
    {p : Process δ} {r : AllRun δ}
    (h : findGroups H tables opts xs o p = .ok r) :
    r.calls.map GroupCall.group <+: xs.map (·.functionalGroup) := by
  induction xs generalizing o p r with
  | nil =>
      cases h
      exact List.nil_prefix
  | cons x xs ih =>
      obtain ⟨r', -, h⟩ := bind_eq_ok.1 h
      split at h
      · cases h
        exact ⟨xs.map (·.functionalGroup), rfl⟩
      · obtain ⟨rest, hrest, h⟩ := bind_eq_ok.1 h
        cases h
        exact List.cons_prefix_cons.2 ⟨rfl, ih hrest⟩

/-- A search that comes back: it failed to start, or found what it
found. -/
theorem findGroup_returned (hbase : opts.info = some base)
    (ha : o.alloc = .ok) {g : String} {p : Process δ} {r : Returned δ}
    (h : msFindByGroup H tables o opts.findArgs (some g) p = .ok r) :
    let u := groupReads H (opts.heapTable tables) base o p.dev g
    let info := groupInfo base g
    (o.Starts → u.listOut ≠ [])
      ∧ (r.ret = 0 → o.Starts
          ∧ Joined (opts.heapTable tables) info u.listOut
          ∧ r.process.dev = u.dev)
      ∧ (r.ret ≠ 0 → r.stored = none)
      ∧ (r.stored = none ∨ r.stored = (flattenResults .ok
          (opts.heapTable tables)
          (found (opts.heapTable tables) info u.listOut)).2.1) := by
  intro u info
  by_cases hstart : o.Starts
  case neg =>
    obtain ⟨q, hrun⟩ := findGroup_failed H tables opts hstart g p
    rw [h] at hrun
    cases hrun
    exact ⟨fun hs => absurd hs hstart, fun h => by simp at h,
      fun _ => rfl, Or.inl rfl⟩
  have hrun := findGroup_started H tables hbase hstart ha g p
  dsimp only at hrun
  by_cases hxs : u.listOut = []
  · rw [if_pos hxs, h] at hrun
    cases hrun
  · rw [if_neg hxs] at hrun
    obtain ⟨q, hdev, hrun⟩ := hrun
    rw [h] at hrun
    cases hrun
    refine ⟨fun _ => hxs, fun hret => ⟨hstart, ?_, hdev⟩,
      fun hret => (flattenResults_failed _ _ _ hret).2, Or.inr rfl⟩
    exact found_ne_nil.1 ((flattenResults_ret _ _).1 hret)

theorem findGroup_ends (hbase : opts.info = some base)
    (ha : o.alloc = .ok) {g : String} {p : Process δ}
    (hend : o.Starts →
      (groupReads H (opts.heapTable tables) base o p.dev g).listOut
        ≠ []) :
    ∃ r, msFindByGroup H tables o opts.findArgs (some g) p = .ok r := by
  by_cases hstart : o.Starts
  · have hrun := findGroup_started H tables hbase hstart ha g p
    dsimp only at hrun
    rw [if_neg (hend hstart)] at hrun
    obtain ⟨q, -, hrun⟩ := hrun
    exact ⟨_, hrun⟩
  · obtain ⟨q, hrun⟩ := findGroup_failed H tables opts hstart g p
    exact ⟨_, hrun⟩

theorem findGroup_found (hbase : opts.info = some base)
    (ha : o.alloc = .ok) (hstart : o.Starts) {g : String}
    {p : Process δ}
    (hjoined : Joined (opts.heapTable tables) (groupInfo base g)
      (groupReads H (opts.heapTable tables) base o p.dev g).listOut) :
    ∃ r, msFindByGroup H tables o opts.findArgs (some g) p = .ok r
      ∧ r.ret = 0
      ∧ r.process.dev
        = (groupReads H (opts.heapTable tables) base o p.dev g).dev := by
  have hrun := findGroup_started H tables hbase hstart ha g p
  dsimp only at hrun
  have hxs := hjoined
  obtain ⟨x, hx, -⟩ := hxs
  rw [if_neg (List.ne_nil_of_mem hx)] at hrun
  obtain ⟨q, hdev, hrun⟩ := hrun
  exact ⟨_, hrun, (flattenResults_ret _ _).2 (found_ne_nil.2 hjoined),
    hdev⟩

/-- Where the loop has made all its searches, the groups were
answered. -/
theorem findGroups_answered (hbase : opts.info = some base)
    {xs : List MsBitfieldInfo} {o : Nat → Outcome}
    (ha : ∀ n, (o n).alloc = .ok) {p : Process δ} {r : AllRun δ}
    (h : findGroups H tables opts xs o p = .ok r)
    (hcalls : r.calls.map GroupCall.group
      = xs.map (·.functionalGroup)) :
    AllAnswered H (opts.heapTable tables) base
      (xs.map (·.functionalGroup)) o p.dev := by
  induction xs generalizing o p r with
  | nil => trivial
  | cons x xs ih =>
      obtain ⟨r', hrun, h⟩ := bind_eq_ok.1 h
      obtain ⟨hend, hfound, -, -⟩ := findGroup_returned hbase (ha 0) hrun
      refine ⟨hend, fun hmore => ?_⟩
      split at h
      · cases h
        cases xs with
        | nil => exact absurd rfl hmore
        | cons y ys => simp at hcalls
      · rename_i hret
        obtain ⟨rest, hrest, h⟩ := bind_eq_ok.1 h
        cases h
        obtain ⟨hstart, hjoined, hdev⟩ := hfound (not_not.1 hret)
        refine ⟨hstart, hjoined, ?_⟩
        rw [List.map_cons, List.map_cons] at hcalls
        have hothers := ih (fun n => ha (n + 1)) hrest
          (List.cons.inj hcalls).2
        rwa [hdev] at hothers

/-- Where the groups are answered, it makes them all. -/
theorem findGroups_complete (hbase : opts.info = some base)
    {xs : List MsBitfieldInfo} {o : Nat → Outcome}
    (ha : ∀ n, (o n).alloc = .ok) {p : Process δ}
    (h : AllAnswered H (opts.heapTable tables) base
      (xs.map (·.functionalGroup)) o p.dev) :
    ∃ r, findGroups H tables opts xs o p = .ok r
      ∧ r.calls.map GroupCall.group = xs.map (·.functionalGroup) := by
  induction xs generalizing o p with
  | nil => exact ⟨_, rfl, rfl⟩
  | cons x xs ih =>
      obtain ⟨hend, hmore⟩ := h
      cases xs with
      | nil =>
          obtain ⟨r, hrun⟩ := findGroup_ends hbase (ha 0) hend
          rw [findGroups, hrun, ok_bind]
          by_cases hret : r.ret = 0
          · rw [if_neg (not_not.2 hret)]
            exact ⟨_, rfl, rfl⟩
          · rw [if_pos hret]
            exact ⟨_, rfl, rfl⟩
      | cons y ys =>
          obtain ⟨hstart, hjoined, hothers⟩ := hmore (by simp)
          obtain ⟨r, hrun, hret, hdev⟩ :=
            findGroup_found hbase (ha 0) hstart hjoined
          rw [← hdev] at hothers
          obtain ⟨rest, hrest, hcalls⟩ :=
            ih (fun n => ha (n + 1)) hothers
          rw [findGroups, hrun, ok_bind, if_neg (not_not.2 hret), hrest]
          exact ⟨_, rfl, congrArg (x.functionalGroup :: ·) hcalls⟩

-- ============================================================ what is shown

/-- A successful element is shown in any case. -/
theorem showResults_success (showerrors : Bool)
    {output : Option (List MsBitfieldInfo)} {x : MsBitfieldInfo}
    (hx : x ∈ elementsOf output) (hs : x.status = 0) :
    Printed.line (lineOf x) ∈ showResults showerrors output := by
  have hzero : (x.status == 0) = true := beq_iff_eq.2 hs
  have hresults : (noResults showerrors output).1 = 0 := by
    cases output with
    | none => simp [elementsOf] at hx
    | some l =>
        have hvalid : x ∈ (elementsOf (some l)).filter
            fun x => x.status == 0 := List.mem_filter.2 ⟨hx, hzero⟩
        unfold noResults
        dsimp only
        rw [if_pos (Or.inl (List.ne_nil_of_mem hvalid))]
  have hline : x ∈ (elementsOf output).filter fun x =>
      x.status == 0 || showerrors :=
    List.mem_filter.2 ⟨hx, by rw [hzero, Bool.true_or]⟩
  unfold showResults
  dsimp only
  rw [if_neg fun h => h.1 hresults]
  exact List.mem_append_right _ (List.mem_map.2 ⟨x, hline, rfl⟩)

/-- What a search stores is short enough to be shown whole. -/
theorem findGroup_whole (hbase : opts.info = some base)
    (hheap : Grouped (opts.heapTable tables) base)
    (ha : o.alloc = .ok) {g : String} {p : Process δ} {r : Returned δ}
    (h : msFindByGroup H tables o opts.findArgs (some g) p = .ok r) :
    elementsOf r.stored = r.stored.getD [] := by
  obtain ⟨-, -, -, hstored⟩ := findGroup_returned hbase ha h
  rcases hstored with hnone | hflat
  · rw [hnone]
    rfl
  · rw [hflat, elementsOf_flattened _ (groupFound_length hheap p.dev g)]
    cases found _ _ _ <;> rfl

theorem findGroups_shown (hbase : opts.info = some base)
    (hheap : Grouped (opts.heapTable tables) base)
    {xs : List MsBitfieldInfo} {o : Nat → Outcome}
    (ha : ∀ n, (o n).alloc = .ok) {p : Process δ} {r : AllRun δ}
    (h : findGroups H tables opts xs o p = .ok r) :
    ∀ c ∈ r.calls, ∀ x ∈ c.returned.stored.getD [], x.status = 0 →
      Printed.line (lineOf x) ∈ r.printed := by
  induction xs generalizing o p r with
  | nil =>
      cases h
      intro c hc
      cases hc
  | cons y ys ih =>
      obtain ⟨r', hrun, h⟩ := bind_eq_ok.1 h
      obtain ⟨-, -, hfailed, -⟩ := findGroup_returned hbase (ha 0) hrun
      have hwhole := findGroup_whole hbase hheap (ha 0) hrun
      split at h
      · rename_i hret
        cases h
        intro c hc x hx
        rw [List.mem_singleton.1 hc] at hx
        dsimp only at hx
        rw [hfailed hret] at hx
        cases hx
      · obtain ⟨rest, hrest, h⟩ := bind_eq_ok.1 h
        cases h
        have hothers := ih (fun n => ha (n + 1)) hrest
        intro c hc x hx hs
        rcases List.mem_cons.1 hc with rfl | hc
        · dsimp only at hx
          rw [← hwhole] at hx
          exact List.mem_append_left _ (showResults_success _ hx hs)
        · exact List.mem_append_right _ (hothers c hc x hx hs)

-- =============================================================== every group

/-- The run searches every group, every entry of the machine's
architecture and implementation in one search, and shows what they read
with success. -/
structure Covers (heap : List BitfieldInfoHeap) (base : MatchInfo)
    (r : AllRun δ) : Prop where
  calls : ∀ h ∈ heap, ∃ c ∈ r.calls, c.group = h.group
  once : ∀ h ∈ heap, base.matchesTable h = true →
    (r.calls.filter fun c =>
      (groupInfo base c.group).selects h).length = 1
  shown : ∀ c ∈ r.calls, ∀ x ∈ c.returned.stored.getD [], x.status = 0 →
    Printed.line (lineOf x) ∈ r.printed

/-- A search for a group selects its entries. -/
theorem groupInfo_selects (hheap : Grouped heap base)
    (hkeys : Unkeyed base) {h : BitfieldInfoHeap} (hh : h ∈ heap)
    (htable : base.matchesTable h = true) {g : String}
    (hg : g ∈ groupsOf heap) :
    (groupInfo base g).selects h = true ↔ g = h.group := by
  obtain ⟨h', hh', rfl⟩ := mem_groupsOf.1 hg
  obtain ⟨huid, hname⟩ := hheap.keys h hh htable
  have hshort := hheap.functionalGroup h hh
  have hshort' := hheap.functionalGroup h' hh'
  have hbound : parseMaxFunctional = 64 := rfl
  have hgroup : strncmp h.info.functionalGroup
      (groupInfo base h'.group).functionalGroup (parseMaxFunctional - 1)
        = true ↔ h.group = h'.group := by
    show strncmp h.group (strncpy h'.group _) _ = true ↔ _
    rw [strncpy_of_le (by omega),
      strncmp_of_le (by omega) (by omega)]
  have hothername : ¬ strncmp h.registerNameExpanded
      (groupInfo base h'.group).registerName (parseMaxRegister - 1)
        = true := by
    show ¬ strncmp h.registerNameExpanded base.registerName _ = true
    rw [hkeys.registerName, strncmp_empty (by decide)]
    exact hname
  have hotheruid : ¬ h.info.uid = (groupInfo base h'.group).uid := by
    show ¬ h.info.uid = base.uid
    rw [hkeys.uid]
    exact huid
  unfold MatchInfo.selects MatchInfo.matchesKey
  rw [Bool.and_eq_true, Bool.or_eq_true, Bool.or_eq_true, beq_iff_eq]
  constructor
  · intro hcase
    rcases hcase with ⟨(hcon | hsame) | hcon, -⟩
    · exact absurd hcon hotheruid
    · exact (hgroup.1 hsame).symm
    · exact absurd hcon hothername
  · intro hsame
    exact ⟨Or.inl (Or.inr (hgroup.2 hsame.symm)), htable⟩

/-- Searches for each group once select each entry once. -/
theorem covers_once (hheap : Grouped heap base) (hkeys : Unkeyed base)
    {calls : List (GroupCall δ)}
    (hcalls : calls.map GroupCall.group = groupsOf heap)
    {h : BitfieldInfoHeap} (hh : h ∈ heap)
    (htable : base.matchesTable h = true) :
    (calls.filter fun c => (groupInfo base c.group).selects h).length
      = 1 := by
  have hg : h.group ∈ groupsOf heap := mem_groupsOf.2 ⟨h, hh, rfl⟩
  have hcount : (calls.filter fun c =>
      (groupInfo base c.group).selects h).length
      = (groupsOf heap).count h.group := by
    rw [← hcalls, List.count, List.countP_map, List.countP_eq_length_filter]
    congr 1
    refine List.filter_congr fun c hc => ?_
    have hmem : c.group ∈ groupsOf heap := by
      rw [← hcalls]
      exact List.mem_map_of_mem hc
    rw [Bool.eq_iff_iff, groupInfo_selects hheap hkeys hh htable hmem]
    exact beq_iff_eq.symm
  rw [hcount]
  exact List.count_eq_one_of_mem (groupsOf_nodup heap) hg

/-- `main` comes to an end and covers everything. -/
def CoversAll (H : Host δ) (tables : List BitfieldTableEntry)
    (opts : Options) (base : MatchInfo) (listing : Outcome)
    (o : Nat → Outcome) (p : Process δ) : Prop :=
  ∃ r, mainAll H tables opts listing o p = .ok r
    ∧ Covers (opts.heapTable tables) base r

theorem Grouped.length_lt (hheap : Grouped heap base) :
    heap.length < 2 ^ 31 := by
  have hsize := hheap.size
  have hcpus : msMaxCpus = 8 := rfl
  rw [hcpus] at hsize
  nlinarith

/-- What `main` does behind the listing. -/
theorem mainAll_eq (H : Host δ) (hheap : Grouped (opts.heapTable tables) base)
    {listing : Outcome} (ha : listing.alloc = .ok) (o : Nat → Outcome)
    (p : Process δ) :
    ∃ xs q, xs.map (·.functionalGroup) = groupsOf (opts.heapTable tables)
      ∧ q.dev = p.dev
      ∧ mainAll H tables opts listing o p
        = (findGroups H tables opts xs o q >>= fun run =>
            .ok { run with
              printed := run.printed
                ++ (if run.result = 0 then
                  showResults opts.flagFbShowerrors none else [])
                ++ [.notice] }) := by
  have hself : opts.heapTable tables
      = expanded (included (if opts.flagFbDevices then 1 else 0) tables) :=
    rfl
  obtain ⟨r, hlist, hnames, hdev⟩ := msGetGroups_listed ha hself
    hheap.uids hheap.functionalGroup hheap.length_lt p
  refine ⟨elementsOf r.stored, r.process, hnames, hdev, ?_⟩
  unfold mainAll
  rw [hlist]
  rfl

/-- On a heap whose groups can be told apart, and with memory for all
calls, every group is covered exactly when each but the last is
answered. -/
theorem main_covers_iff (H : Host δ) (tables : List BitfieldTableEntry)
    (opts : Options) (hbase : opts.info = some base)
    (hheap : Grouped (opts.heapTable tables) base) {listing : Outcome}
    (hlisting : listing.alloc = .ok) {o : Nat → Outcome}
    (ha : ∀ n, (o n).alloc = .ok) (p : Process δ) :
    CoversAll H tables opts base listing o p
      ↔ AllAnswered H (opts.heapTable tables) base
          (groupsOf (opts.heapTable tables)) o p.dev := by
  obtain ⟨xs, q, hnames, hdev, hmain⟩ :=
    mainAll_eq H hheap hlisting o p
  rw [← hnames, ← hdev]
  constructor
  · intro hex
    obtain ⟨r, hrun, hcovers⟩ := hex
    rw [hmain] at hrun
    obtain ⟨run, hgroups, hr⟩ := bind_eq_ok.1 hrun
    cases hr
    have hmade := findGroups_calls hgroups
    have hall : groupsOf (opts.heapTable tables)
        ⊆ run.calls.map GroupCall.group := by
      intro g hg
      obtain ⟨h, hh, rfl⟩ := mem_groupsOf.1 hg
      obtain ⟨c, hc, hcg⟩ := hcovers.calls h hh
      exact List.mem_map.2 ⟨c, hc, hcg⟩
    have hlen := ((groupsOf_nodup _).subperm hall).length_le
    rw [← hnames] at hlen
    exact findGroups_answered hbase ha hgroups
      (hmade.eq_of_length_le hlen)
  · intro hanswered
    obtain ⟨run, hgroups, hcalls⟩ :=
      findGroups_complete hbase ha hanswered
    have hshown := findGroups_shown hbase hheap ha hgroups
    rw [hgroups] at hmain
    rw [hnames] at hcalls
    refine ⟨_, hmain, ?_, ?_, ?_⟩
    · intro h hh
      have hg : h.group ∈ run.calls.map GroupCall.group := by
        rw [hcalls]
        exact mem_groupsOf.2 ⟨h, hh, rfl⟩
      exact List.mem_map.1 hg
    · intro h hh htable
      exact covers_once hheap (Options.info_unkeyed hbase) hcalls hh
        htable
    · intro c hc x hx hs
      exact List.mem_append_left _ (List.mem_append_left _
        (hshown c hc x hx hs))

-- ============================================================== one machine

/-- A Cortex-A7 whose every register can be read in the kernel. -/
def a7Host : Host Unit where
  ioctl dev _ buffer :=
    (0, { buffer with cpu := fun _ => { midr := 0x410FC073 } }, dev)
  usermodeResults dev _ data := (-1, data, dev)
  clearIllsig dev := dev

/-- A group that only the Cortex-A15 has, before one of the architecture's
own. -/
def foreignTables : List BitfieldTableEntry := [
  ⟨.impl, implCortexA15, [
    ⟨1, 0, ACTLR, nsPrivilegeLevel1, 6, 1, "SMP", "impl_def", "ACTLR",
      "Coherent requests"⟩]⟩,
  ⟨.arch, archArmv7a, [
    ⟨1, 0, MIDR, nsPrivilegeLevel1, 0, 4, "Revision", "ident", "MIDR",
      "Revision number"⟩]⟩]

def allOptions : Options where
  argArch := "armv7a"
  argImpl := "all"

/-- Their request. -/
def allInfo : MatchInfo where
  architecture := archArmv7a
  implementation := implAll
  pl := preferredPl
  cpu := 0xFFFFFFFF

theorem allOptions_info : allOptions.info = some allInfo := by
  decide +kernel

theorem foreignTables_grouped :
    Grouped (allOptions.heapTable foreignTables) allInfo where
  uids := by decide +kernel
  functionalGroup := by decide +kernel
  keys := by decide +kernel
  size := by decide +kernel

/-- The search for the A15's group finds nothing, and is the last. -/
theorem main_covers_fails :
    allOptions.info = some allInfo
      ∧ ¬ CoversAll a7Host foreignTables allOptions allInfo {}
          (fun _ => {}) ⟨{}, -1, {}, ()⟩ := by
  refine ⟨allOptions_info, fun h => ?_⟩
  obtain ⟨r, hrun, hcovers⟩ := h
  have hmade : (mainAll a7Host foreignTables allOptions {} (fun _ => {})
      ⟨{}, -1, {}, ()⟩).toOption.map
        (fun r => r.calls.map GroupCall.group) = some ["impl_def"] := by
    decide +kernel
  have hident : ((allOptions.heapTable foreignTables).any fun h =>
      h.group == "ident") = true := by
    decide +kernel
  obtain ⟨h, hh, hgroup⟩ := List.any_eq_true.1 hident
  obtain ⟨c, hc, hcg⟩ := hcovers.calls h hh
  rw [hrun] at hmade
  have hcalls : r.calls.map GroupCall.group = ["impl_def"] :=
    Option.some.inj hmade
  have hmem : c.group ∈ ["impl_def"] := by
    rw [← hcalls]
    exact List.mem_map_of_mem hc
  rw [hcg, beq_iff_eq.1 hgroup] at hmem
  exact absurd hmem (by decide)

theorem main_covers_iff_foreign :
    CoversAll a7Host foreignTables allOptions allInfo {} (fun _ => {})
        ⟨{}, -1, {}, ()⟩
      ↔ AllAnswered a7Host (allOptions.heapTable foreignTables) allInfo
          (groupsOf (allOptions.heapTable foreignTables)) (fun _ => {})
          () :=
  main_covers_iff a7Host foreignTables allOptions allOptions_info
    foreignTables_grouped rfl (fun _ => rfl) ⟨{}, -1, {}, ()⟩

end Maplesyrup
