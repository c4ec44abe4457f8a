/-
What a call of the library comes to on the user's screen: the lines are
the fields of what there was to read, one for each, in order.

`searchReads` follows a call down to its two loops and back for any host;
on the whole system the loops are `readState_tool`, and the successes of
what decoding finds are `found_shown`. The array's length is in every
element and on no line (`fieldLine`).

# What is assumed

Memory for all allocations: without it a search is cut short in silence
(`Site`). A heap table whose uids tell its entries apart. No raw words.
-/
import Maplesyrup.Library.Proofs.Request
import Maplesyrup.System.Proofs.Search
import Maplesyrup.System.Proofs.Shipped

namespace Maplesyrup

open Base

variable {δ : Type} {H : Host δ} {tables : List BitfieldTableEntry}
  {heap : List BitfieldInfoHeap} {c : FindCall} {info : MatchInfo}

-- ============================================================ the call

/-- The call opens the device and has memory for all it does. -/
structure FindCall.Runs (c : FindCall) : Prop where
  resultsOut : c.args.resultsOut = true
  calcValue : c.key.calcValue = none
  starts : c.outcome.Starts
  alloc : c.outcome.alloc = .ok

/-- The readings of such a call. -/
def searchReads (H : Host δ) (heap : List BitfieldInfoHeap) (o : Outcome)
    (info : MatchInfo) (dev : δ) : UsermodeState δ :=
  readState (H.platform o.opened) (H.clearIllsig dev)
    (requests heap info)

theorem FindKey.set_mode {key : FindKey} {base info : MatchInfo}
    (h : key.set base = .ok info) :
    info.noparse = base.noparse ∧ info.calcValid = base.calcValid
      ∧ info.calcValue = base.calcValue := by
  cases key with
  | bitfield uid =>
      cases h
      exact ⟨rfl, rfl, rfl⟩
  | register regname calcValue =>
      obtain ⟨name, -, h⟩ := bind_eq_ok.1 h
      cases h
      exact ⟨rfl, rfl, rfl⟩
  | group groupname =>
      obtain ⟨name, -, h⟩ := bind_eq_ok.1 h
      cases h
      exact ⟨rfl, rfl, rfl⟩

theorem FindCall.request_mode (hinfo : c.request = some info) :
    info.noparse = c.args.noparse
      ∧ (info.calcValid = 0 ↔ c.key.calcValue = none)
      ∧ info.calcValue
        = carriedValue c.outcome.errnoRange c.key.calcValue := by
  obtain ⟨base, hset, hkey⟩ := FindCall.request_some hinfo
  obtain ⟨hnoparse, hvalid, hvalue⟩ := FindKey.set_mode hkey
  refine ⟨?_, ?_, ?_⟩
  · obtain ⟨_, _, _, _, -, -, -, -, rfl⟩ := setMatchInfo_some hset
    rw [hnoparse]
  · rw [hvalid]
    exact setMatchInfo_calcValid hset
  · rw [hvalue]
    obtain ⟨_, _, _, _, -, -, -, -, rfl⟩ := setMatchInfo_some hset
    rfl

/-- A call that runs stores what is found in its readings, and leaves the
device as they do. -/
theorem FindCall.run_found (H : Host δ) (tables : List BitfieldTableEntry)
    (hc : c.Runs) (hinfo : c.request = some info)
    (hnp : info.noparse = 0 ∨ info.noparse = 1) (p : Process δ) :
    let heap := expanded (included c.args.includeDevices tables)
    let u := searchReads H heap c.outcome info p.dev
    if u.listOut = [] then c.run H tables p = .error .uninitialised
    else
      ∃ q, q.dev = u.dev
        ∧ c.run H tables p
          = .ok ⟨(flattenResults .ok heap (found heap info u.listOut)).1,
            (flattenResults .ok heap (found heap info u.listOut)).2.1,
            q⟩ := by
  intro heap u
  obtain ⟨base, hset, hkey⟩ := FindCall.request_some hinfo
  let started : Process δ := { p with
    signals := ⟨.msSignalHandler, p.signals.sigill, 0⟩
    dev := H.clearIllsig p.dev
    msFd := c.outcome.opened }
  have hrequest : c.run H tables p
      = findRequest H tables true c.outcome info c.args.includeDevices []
          started := by
    rw [FindCall.run_eq, msFind_device hc.resultsOut hc.calcValue,
      startTest_ok hc.starts.1 hc.starts.2, findStarted,
      if_neg (by simp), hset]
    dsimp only
    rw [hkey, ok_bind, hc.calcValue]
    rfl
  obtain ⟨tbl, hread, hheap⟩ := tables_loaded tables
    c.args.includeDevices p.tables
  have hvalid := (FindCall.request_mode hinfo).2.1.2 hc.calcValue
  have hfind : Stack.findBitfields (H.platform c.outcome.opened) .ok heap
      (H.clearIllsig p.dev) (some info) (some [])
      = if u.listOut = [] then .error .uninitialised
        else .ok ((0, found heap info u.listOut, .ok), u.dev) :=
    findBitfields_found _ heap _ hvalid hnp
  have hsearch : findRequest H tables true c.outcome info
      c.args.includeDevices [] started
      = (Stack.findBitfields (H.platform c.outcome.opened) .ok heap
          (H.clearIllsig p.dev) (some info) (some [])
        >>= findFound c.outcome heap { started with tables := tbl }) := by
    unfold findRequest
    rw [hc.alloc, show started.tables = p.tables from rfl, hread]
    dsimp only
    rw [hheap]
    rfl
  rw [hrequest, hsearch, hfind]
  by_cases hxs : u.listOut = []
  · rw [if_pos hxs, if_pos hxs]
    rfl
  · rw [if_neg hxs, if_neg hxs, ok_bind, findFound]
    dsimp only
    rw [if_neg (by simp)]
    by_cases hflat : (flattenResults .ok heap
        (found heap info u.listOut)).1 = 0
    · rw [if_neg (not_not.2 hflat), hflat]
      exact ⟨_, stopTest_dev c.outcome _, rfl⟩
    · rw [if_pos hflat, (flattenResults_failed _ _ _ hflat).1,
        (flattenResults_failed _ _ _ hflat).2]
      exact ⟨_, stopTest_dev c.outcome _, rfl⟩

/-- An `int` can count what a call finds. -/
theorem searchFound_length
    (hnd : (heap.map fun h => h.info.uid).Nodup)
    (hsize : (msMaxCpus + 1) * heap.length * heap.length < 2 ^ 31)
    (o : Outcome) (info : MatchInfo) (dev : δ) :
    (found heap info (searchReads H heap o info dev).listOut).length
      < 2 ^ 31 := by
  have hreqs : (requests heap info).length ≤ heap.length := by
    rw [requests, List.length_map]
    exact List.length_filter_le _ _
  have hreads := readState_length_le (H.platform o.opened)
    (H.clearIllsig dev) (requests heap info)
  calc _ ≤ (pairs heap info
          (searchReads H heap o info dev).listOut).length :=
        found_length_le _ _
    _ ≤ (searchReads H heap o info dev).listOut.length * heap.length :=
        pairs_length_le hnd _ _
    _ ≤ (msMaxCpus + 1) * heap.length * heap.length :=
        Nat.mul_le_mul_right _
          (hreads.trans (Nat.mul_le_mul_left _ hreqs))
    _ < 2 ^ 31 := hsize

-- ========================================================== the screen

/-- What is printed about an element. -/
def Printed.line? : Printed → Option Line
  | .line l => some l
  | _ => none

/-- The lines about elements among what is printed. -/
def linesOf (printed : List Printed) : List Line :=
  printed.filterMap Printed.line?

theorem linesOf_append (xs ys : List Printed) :
    linesOf (xs ++ ys) = linesOf xs ++ linesOf ys :=
  List.filterMap_append

/-- The line about a field that was found. -/
def fieldLine (heap : List BitfieldInfoHeap) (x : BitfieldInfoPopulated) :
    Line :=
  lineOf (flattenOne heap 0 x)

/-- The successes of an array are the lines shown of it. -/
theorem linesOf_showResults (output : Option (List MsBitfieldInfo)) :
    linesOf (showResults false output)
      = ((elementsOf output).filter fun x => x.status == 0).map
          lineOf := by
  have hlines : ∀ (f : MsBitfieldInfo → Line) (xs : List MsBitfieldInfo),
      linesOf (xs.map fun x => .line (f x)) = xs.map f := by
    intro f xs
    induction xs with
    | nil => rfl
    | cons x xs ih => exact congrArg (f x :: ·) ih
  cases output with
  | none => rfl
  | some l =>
      have hfilter : (fun x : MsBitfieldInfo => x.status == 0 || false)
          = fun x => x.status == 0 := by
        funext x
        exact Bool.or_false _
      unfold showResults noResults
      dsimp only
      rw [hfilter]
      by_cases hvalid : (elementsOf (some l)).filter
          (fun x => x.status == 0) = []
      · rw [hvalid]
        rfl
      · rw [if_pos (Or.inl hvalid), if_neg (by simp), ← hlines]
        rfl

theorem linesOf_flattened {l : List BitfieldInfoPopulated}
    (hl : l.length < 2 ^ 31) :
    linesOf (showResults false (flattenResults .ok heap l).2.1)
      = (l.filter fun x => x.status == msErrorSuccess).map
          (fieldLine heap) := by
  rw [linesOf_showResults, elementsOf_flattened heap hl, List.filter_map,
    List.map_map]
  rfl

-- ========================================================== the system

/-- The heap table is one a call can rely on. -/
structure Readable (heap : List BitfieldInfoHeap) : Prop where
  heapOk : HeapOk heap
  size : (msMaxCpus + 1) * heap.length * heap.length < 2 ^ 31

variable {b : Build} {machines : Nat → Machine}
  {regs : Nat → String → Option U64}

theorem Readable.length_lt (hheap : Readable heap) :
    heap.length < 2 ^ 31 := by
  have hsize := hheap.size
  have hcpus : msMaxCpus = 8 := rfl
  rw [hcpus] at hsize
  nlinarith

/-- What the call reads. -/
theorem searchReads_tool (b : Build) (machines : Nat → Machine)
    (regs : Nat → String → Option U64) {o : Outcome} (hopen : o.opened ≠ -1)
    (info : MatchInfo) (s : ToolState) :
    let u := searchReads (toolHost b machines regs) heap o info s
    u.listOut.filterMap IoctlResult.reading
        = readings b machines regs s (requests heap info)
      ∧ (u.listOut = [] ↔ ¬ Recordable (requests heap info))
      ∧ u.dev.kernel.gicMap = s.kernel.gicMap
      ∧ u.dev.requests = s.requests
        + (workAt nsPrivilegeLevel1 (requests heap info)).length
      ∧ u.dev.reads = s.reads
        + (workAt nsPrivilegeLevel0 (requests heap info)).length :=
  readState_tool b machines regs hopen
    (s := (toolHost b machines regs).clearIllsig s) rfl _

/-- Where there is something to read, a call shows the successes of what is
found there, and leaves the device as its reads do. -/
theorem FindCall.run_successes (b : Build) (machines : Nat → Machine)
    (regs : Nat → String → Option U64) (hc : c.Runs)
    (hinfo : c.request = some info)
    (hmode : info.noparse = 0 ∨ info.noparse = 1)
    (hself : heap = expanded (included c.args.includeDevices tables))
    (hheap : Readable heap) {p : Process ToolState}
    (hrec : Recordable (requests heap info)) :
    ∃ r xs, c.run (toolHost b machines regs) tables p = .ok r
      ∧ xs.filterMap IoctlResult.reading
        = readings b machines regs p.dev (requests heap info)
      ∧ linesOf (showResults false r.stored)
        = ((found heap info xs).filter fun x =>
            x.status == msErrorSuccess).map (fieldLine heap)
      ∧ (r.ret ≠ 0 → r.stored = none)
      ∧ r.process.dev.kernel.gicMap = p.dev.kernel.gicMap
      ∧ r.process.dev.requests = p.dev.requests
        + (workAt nsPrivilegeLevel1 (requests heap info)).length
      ∧ r.process.dev.reads = p.dev.reads
        + (workAt nsPrivilegeLevel0 (requests heap info)).length := by
  obtain ⟨hreads, hempty, hcount⟩ := searchReads_tool b machines regs
    hc.starts.2 info p.dev
  have hrun := FindCall.run_found (toolHost b machines regs) tables hc
    hinfo hmode p
  dsimp only at hrun
  rw [← hself, if_neg fun hnil => hempty.1 hnil hrec] at hrun
  obtain ⟨q, hdev, hrun⟩ := hrun
  refine ⟨_, _, hrun, hreads, ?_,
    fun hret => (flattenResults_failed _ _ _ hret).2, ?_⟩
  · dsimp only
    rw [linesOf_flattened (searchFound_length hheap.heapOk.uids hheap.size
      _ _ _)]
  · dsimp only
    rw [hdev]
    exact hcount

/-- It shows the requested fields. -/
theorem FindCall.run_shown (b : Build) (machines : Nat → Machine)
    (regs : Nat → String → Option U64) (hc : c.Runs)
    (hinfo : c.request = some info)
    (hparsed : c.args.noparse = 0)
    (hself : heap = expanded (included c.args.includeDevices tables))
    (hheap : Readable heap) {p : Process ToolState}
    (hrec : Recordable (requests heap info)) :
    ∃ r, c.run (toolHost b machines regs) tables p = .ok r
      ∧ linesOf (showResults false r.stored)
        = (shown heap info (readings b machines regs p.dev
            (requests heap info))).map (fieldLine heap)
      ∧ (r.ret ≠ 0 → r.stored = none)
      ∧ r.process.dev.kernel.gicMap = p.dev.kernel.gicMap
      ∧ r.process.dev.requests = p.dev.requests
        + (workAt nsPrivilegeLevel1 (requests heap info)).length
      ∧ r.process.dev.reads = p.dev.reads
        + (workAt nsPrivilegeLevel0 (requests heap info)).length := by
  have hmode := (FindCall.request_mode hinfo).1
  rw [hparsed] at hmode
  obtain ⟨r, xs, hrun, hreads, hlines, hleft⟩ := FindCall.run_successes b
    machines regs hc hinfo (Or.inl hmode) hself hheap (p := p) hrec
  refine ⟨r, hrun, ?_, hleft⟩
  rw [hlines, found_shown hheap.heapOk hmode, hreads]

/-- Where there is not, its list of readings is never made. -/
theorem FindCall.run_unread (b : Build) (machines : Nat → Machine)
    (regs : Nat → String → Option U64) (hc : c.Runs)
    (hinfo : c.request = some info)
    (hmode : c.args.noparse = 0 ∨ c.args.noparse = 1)
    (hself : heap = expanded (included c.args.includeDevices tables))
    {p : Process ToolState}
    (hrec : ¬ Recordable (requests heap info)) :
    c.run (toolHost b machines regs) tables p
      = .error .uninitialised := by
  rw [← (FindCall.request_mode hinfo).1] at hmode
  obtain ⟨-, hempty, -⟩ := searchReads_tool b machines regs
    hc.starts.2 info p.dev
  have hrun := FindCall.run_found (toolHost b machines regs) tables hc
    hinfo hmode p
  dsimp only at hrun
  rwa [← hself, if_pos (hempty.2 hrec)] at hrun

theorem shipped_readable (includeDevices : Int) :
    Readable (expanded (included includeDevices bitfieldTable)) where
  heapOk := shipped_heapOk includeDevices
  size := (shipped_grouped includeDevices {}).size

-- ================================================================ the result

/-- A search for MIDR by its name. -/
def midrCall : FindCall :=
  ⟨{}, { arch := some "armv7a", impl := some "all" },
    .register (some "MIDR") none⟩

def midrInfo : MatchInfo where
  architecture := archArmv7a
  implementation := implAll
  registerName := "MIDR"
  pl := preferredPl
  cpu := 0xFFFFFFFF

/-- The heap table of a search without devices. -/
def systemHeap : List BitfieldInfoHeap :=
  expanded (included 0 bitfieldTable)

/-- Before the first call. -/
def freshProcess : Process ToolState := ⟨{}, -1, {}, {}⟩

theorem midrCall_runs : midrCall.Runs := by
  refine ⟨rfl, rfl, ⟨rfl, ?_⟩, rfl⟩
  decide

theorem midrCall_request : midrCall.request = some midrInfo := by
  decide +kernel

/-- MIDR is read in the kernel, in either mode. -/
theorem midr_recordable (noparse : U32) :
    Recordable (requests systemHeap { midrInfo with noparse }) := by
  have hkernel : ∀ t ∈ bitfieldTable, ∀ row ∈ t.tablePtr,
      t.system = true → row.registerUid = MsSysreg.MIDR →
        row.ppl &&& nsPrivilegeLevel1 ≠ 0 := by
    decide +kernel
  obtain ⟨row, hrow, hreg, hsel⟩ : ∃ row ∈ bitfieldArmv7aTable,
      row.registerUid = MsSysreg.MIDR
        ∧ midrInfo.selects (sysEntry
          ⟨.arch, archArmv7a, bitfieldArmv7aTable⟩ row) = true := by
    decide +kernel
  have hmem : sysEntry ⟨.arch, archArmv7a, bitfieldArmv7aTable⟩ row
      ∈ systemHeap :=
    expanded_sysEntry (List.mem_filter.2 ⟨by simp [bitfieldTable], rfl⟩)
      (by simp) hrow
  have hpl : midrInfo.pl &&& preferredPl ≠ 0 := by decide
  refine recordable_of_selected hpl hmem hsel ?_
  intro g hg _ huid
  obtain ⟨i, hi⟩ := List.getElem?_of_mem hg
  obtain ⟨t, ht, row', hrow', hentry⟩ := expanded_allExpand _ i g hi
  obtain ⟨ht', hdevice⟩ := included_mem ht
  rcases hentry with ⟨hsys, rfl⟩ | ⟨hmm, -, -, -⟩
  · exact hkernel t ht' row' hrow'
      (by simpa [BitfieldTableEntry.system] using hsys) (huid.trans hreg)
  · exact absurd (hdevice hmm) (by decide)

end Maplesyrup
