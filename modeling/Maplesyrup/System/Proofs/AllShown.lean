/-
What --all shows on the whole system: the fields of one group after the
other, of the words each search found on the machine as it was by then.

The loop over the groups goes by what `search_shows` says of one search;
what carries it is the number of requests and reads the searches before
have made, which tells the machines the next one meets (`allShown`).
`findGroups_lines` is the induction, over the groups.
-/
import Maplesyrup.System.Proofs.CommandLine

namespace Maplesyrup

open Base

variable {b : Build} {machines : Nat → Machine}
  {regs : Nat → String → Option U64} {tables : List BitfieldTableEntry}
  {heap : List BitfieldInfoHeap} {base : MatchInfo} {opts : Options}

-- ============================================================== the groups

/-- The system behind a search for the requests. -/
def ToolState.after (s : ToolState) (reqs : List ResultsInfo) : ToolState :=
  { s with
    requests := s.requests + (workAt nsPrivilegeLevel1 reqs).length
    reads := s.reads + (workAt nsPrivilegeLevel0 reqs).length }

/-- What the user is to see of groups that are searched in turn. -/
def allShown (b : Build) (machines : Nat → Machine)
    (regs : Nat → String → Option U64) (heap : List BitfieldInfoHeap)
    (base : MatchInfo) : List String → ToolState →
      List BitfieldInfoPopulated
  | [], _ => []
  | g :: gs, s =>
      let reqs := requests heap (groupInfo base g)
      shown heap (groupInfo base g) (readings b machines regs s reqs)
        ++ allShown b machines regs heap base gs (s.after reqs)

/-- It takes no more of the system than where the devices are and how often
it was asked. -/
theorem readings_congr {s s' : ToolState}
    (hmap : s.kernel.gicMap = s'.kernel.gicMap)
    (hrequests : s.requests = s'.requests) (hreads : s.reads = s'.reads)
    (reqs : List ResultsInfo) :
    readings b machines regs s reqs = readings b machines regs s' reqs := by
  unfold readings
  rw [hmap, hrequests, hreads]

theorem allShown_congr {gs : List String} {s s' : ToolState}
    (hmap : s.kernel.gicMap = s'.kernel.gicMap)
    (hrequests : s.requests = s'.requests) (hreads : s.reads = s'.reads) :
    allShown b machines regs heap base gs s
      = allShown b machines regs heap base gs s' := by
  induction gs generalizing s s' with
  | nil => rfl
  | cons g gs ih =>
      unfold allShown
      dsimp only
      rw [readings_congr hmap hrequests hreads]
      congr 1
      apply ih
      · exact hmap
      · exact congrArg (· + _) hrequests
      · exact congrArg (· + _) hreads

-- ================================================================ the loop

/-- The options let a search run, and shown results are successes. -/
structure Options.Plain (opts : Options) (base : MatchInfo) : Prop where
  info : opts.info = some base
  noparse : opts.flagFbNoparse = false
  showerrors : opts.flagFbShowerrors = false

/-- The call for a group of a run under --all. -/
theorem groupCall_runs {o : Outcome} (hplain : opts.Plain base)
    (hstart : o.Starts) (ha : o.alloc = .ok) (g : String) :
    FindCall.Runs ⟨o, opts.findArgs, .group (some g)⟩
      ∧ FindCall.request ⟨o, opts.findArgs, .group (some g)⟩
        = some (groupInfo base g)
      ∧ opts.findArgs.noparse = 0 := by
  refine ⟨⟨rfl, rfl, hstart, ha⟩, ?_, ?_⟩
  · have hset : setMatchInfo o.errnoRange opts.findArgs.arch
        opts.findArgs.impl opts.findArgs.cpu opts.findArgs.pl
        opts.findArgs.noparse none = some base := hplain.info
    unfold FindCall.request
    dsimp only [FindKey.calcValue]
    rw [hset]
    rfl
  · show (if opts.flagFbNoparse then (1 : U32) else 0) = 0
    rw [hplain.noparse]
    rfl

/-- What the searches of a run have printed. -/
theorem findGroups_lines (hplain : opts.Plain base)
    (hself : heap = opts.heapTable tables)
    (hheap : Readable heap)
    {xs : List MsBitfieldInfo} {o : Nat → Outcome}
    (hstart : ∀ n, (o n).Starts) (ha : ∀ n, (o n).alloc = .ok)
    {p : Process ToolState} {run : AllRun ToolState}
    (h : findGroups (toolHost b machines regs) tables opts xs o p
      = .ok run) :
    linesOf run.printed
      = (allShown b machines regs heap base
          (run.calls.map GroupCall.group) p.dev).map (fieldLine heap) := by
  induction xs generalizing o p run with
  | nil =>
      cases h
      rfl
  | cons x xs ih =>
      obtain ⟨hruns, hinfo, hparsed⟩ := groupCall_runs hplain (hstart 0)
        (ha 0) x.functionalGroup
      obtain ⟨r, hr, h⟩ := bind_eq_ok.1 h
      have hrec : Recordable
          (requests heap (groupInfo base x.functionalGroup)) := by
        by_contra hnot
        have hfault := FindCall.run_unread b machines regs hruns hinfo
          (Or.inl hparsed) hself hnot (p := p)
        have hcall : FindCall.run (toolHost b machines regs) tables
            ⟨o 0, opts.findArgs, .group (some x.functionalGroup)⟩ p
              = .ok r := hr
        rw [hfault] at hcall
        cases hcall
      obtain ⟨r', hr', hlines, hfailed, hmap, hrequests, hreads⟩ :=
        FindCall.run_shown b machines regs hruns hinfo hparsed hself
          hheap hrec (p := p)
      obtain rfl : r = r' := Except.ok.inj (hr.symm.trans hr')
      by_cases hret : r.ret = 0
      · rw [if_neg (not_not.2 hret)] at h
        obtain ⟨rest, hrest, h⟩ := bind_eq_ok.1 h
        cases h
        have hmore := ih (fun n => hstart (n + 1)) (fun n => ha (n + 1))
          hrest
        have hleft : allShown b machines regs heap base
              (rest.calls.map GroupCall.group) r.process.dev
            = allShown b machines regs heap base
              (rest.calls.map GroupCall.group)
              (p.dev.after (requests heap
                (groupInfo base x.functionalGroup))) :=
          allShown_congr hmap hrequests hreads
        rw [hleft] at hmore
        dsimp only
        rw [linesOf_append, hplain.showerrors, hlines, hmore,
          List.map_cons, allShown]
        exact List.map_append.symm
      · rw [if_pos hret] at h
        cases h
        rw [hfailed hret] at hlines
        show [] = List.map _ (shown _ _ _ ++ [])
        rw [List.append_nil, ← hlines]
        rfl

/-- A run that succeeds has made all its searches. -/
theorem findGroups_whole {δ : Type} {H : Host δ}
    {xs : List MsBitfieldInfo} {o : Nat → Outcome} {p : Process δ}
    {run : AllRun δ} (h : findGroups H tables opts xs o p = .ok run)
    (hzero : run.result = 0) :
    run.calls.map GroupCall.group = xs.map (·.functionalGroup) := by
  induction xs generalizing o p run with
  | nil =>
      cases h
      rfl
  | cons x xs ih =>
      obtain ⟨r, -, h⟩ := bind_eq_ok.1 h
      split at h
      · cases h
        cases hzero
      · obtain ⟨rest, hrest, h⟩ := bind_eq_ok.1 h
        cases h
        rw [List.map_cons, List.map_cons, ih hrest hzero]

-- ================================================================ the run

/-- The run makes its searches for groups of the heap, in its order. -/
theorem mainAll_lines (hplain : opts.Plain base)
    (hself : heap = opts.heapTable tables)
    (hheap : Readable heap)
    {listing : Outcome} (hlisting : listing.alloc = .ok)
    {o : Nat → Outcome} (hstart : ∀ n, (o n).Starts)
    (ha : ∀ n, (o n).alloc = .ok) {p : Process ToolState}
    {run : AllRun ToolState}
    (h : mainAll (toolHost b machines regs) tables opts listing o p
      = .ok run) :
    run.calls.map GroupCall.group <+: groupsOf heap
      ∧ (run.result = 0 → run.calls.map GroupCall.group = groupsOf heap)
      ∧ linesOf run.printed
        = (allShown b machines regs heap base
            (run.calls.map GroupCall.group) p.dev).map (fieldLine heap) := by
  have hok := hheap.heapOk
  obtain ⟨r, hr, hgroups, hdev⟩ := msGetGroups_listed hlisting hself
    hok.uids hok.functionalGroup hheap.length_lt p
  obtain ⟨r', hr', h⟩ := bind_eq_ok.1 h
  obtain rfl : r = r' := Except.ok.inj (hr.symm.trans hr')
  obtain ⟨run', hrun, h⟩ := bind_eq_ok.1 h
  cases h
  have hlines := findGroups_lines hplain hself hheap hstart ha hrun
  have hfirst := findGroups_calls hrun
  have hwhole := findGroups_whole hrun
  rw [hgroups] at hfirst hwhole
  refine ⟨hfirst, hwhole, ?_⟩
  rw [hdev] at hlines
  dsimp only
  rw [linesOf_append, linesOf_append, hlines]
  split
  · simp [linesOf, Printed.line?, showResults, noResults, elementsOf]
  · simp [linesOf, Printed.line?]

/-- The command line asks for all groups, on a heap table that the searches
can rely on. -/
structure SaysAll (t : Target) (stale : Stale)
    (tables : List BitfieldTableEntry) (argv : List Text)
    (heap : List BitfieldInfoHeap) (base : MatchInfo) : Prop where
  goesOn : (getopt grammar argv).1.all goesOn = true
  searches : (given t (greeting argv) (getopt grammar argv).1).flag
    .showInfo = 0
  key : (given t (greeting argv) (getopt grammar argv).1).key t stale = none
  all : (given t (greeting argv) (getopt grammar argv).1).flag .all ≠ 0
  plain : ((given t (greeting argv) (getopt grammar argv).1).options
    stale).Plain base
  table : heap = ((given t (greeting argv)
    (getopt grammar argv).1).options stale).heapTable tables
  readable : Readable heap

/-- What the tool shows under --all: of the groups from the first on, as
far as the searches get, the fields of what there was to be read when
their turn came. A run that succeeds has searched them all. -/
theorem all_shows (b : Build) (machines : Nat → Machine)
    (regs : Nat → String → Option U64) {stale : Stale} {argv : List Text}
    (h : SaysAll b.target stale tables argv heap base)
    {listing : Outcome} (hlisting : listing.alloc = .ok)
    {o : Nat → Outcome} (hstart : ∀ n, (o n).Starts)
    (ha : ∀ n, (o n).alloc = .ok) {p : Process ToolState}
    {run : MainRun ToolState}
    (hrun : main (toolHost b machines regs) tables b.target stale argv
      listing o p = .ok run) :
    ∃ all,
      mainAll (toolHost b machines regs) tables
          ((given b.target (greeting argv) (getopt grammar argv).1).options
            stale) listing o p = .ok all
      ∧ run.result = all.result ∧ run.process = all.process
      ∧ all.calls.map GroupCall.group <+: groupsOf heap
      ∧ (run.result = 0 → all.calls.map GroupCall.group = groupsOf heap)
      ∧ screenLines run.screen
        = (allShown b machines regs heap base
            (all.calls.map GroupCall.group) p.dev).map (fieldLine heap) := by
  rw [main_eq, mainMeant, if_pos h.goesOn, mainGiven,
    if_neg (not_not.2 h.searches)] at hrun
  obtain ⟨run', hsearch, hrun⟩ := bind_eq_ok.1 hrun
  unfold mainSearch at hsearch
  dsimp only at hsearch
  rw [h.key] at hsearch
  dsimp only at hsearch
  rw [if_pos h.all] at hsearch
  obtain ⟨all, hall, hsearch⟩ := bind_eq_ok.1 hsearch
  obtain ⟨hfirst, hwhole, hlines⟩ := mainAll_lines h.plain h.table
    h.readable hlisting hstart ha hall
  cases hsearch
  cases hrun
  refine ⟨all, hall, rfl, rfl, hfirst, hwhole, ?_⟩
  dsimp only
  rw [screenLines_append, screenLines_append, screenLines_given,
    screenLines_printed, hlines]
  split <;> rfl

/-- Some cpus of a Cortex-A15 that cannot be reached or read. -/
def a15Machine : Machine :=
  { mixedMachine with midr := fun _ => 0x410FC0F0 }

def allWords : List Text :=
  ["--all".toList, "--arch".toList, "armv7a".toList, "-iall".toList]

theorem foreignTables_readable :
    Readable (allOptions.heapTable foreignTables) where
  heapOk := by constructor <;> decide +kernel
  size := by decide +kernel

theorem foreign_says :
    SaysAll .aarch32 someStale foreignTables allWords
      (allOptions.heapTable foreignTables) allInfo where
  goesOn := by decide
  searches := by decide
  key := rfl
  all := by decide
  plain := ⟨allOptions_info, rfl, rfl⟩
  table := rfl
  readable := foreignTables_readable

/-- They are searched for the groups of two tables. -/
def a15Run : Except Fault (MainRun ToolState) :=
  main (toolHost ⟨.aarch32, true⟩ (fun _ => a15Machine) fun _ _ => none)
    foreignTables .aarch32 someStale allWords {} (fun _ => {})
    freshProcess

theorem a15Run_ends : ∃ run, a15Run = .ok run := by
  have hends : a15Run.toOption.isSome = true := by
    decide +kernel
  cases hrun : a15Run with
  | error e =>
      rw [hrun] at hends
      cases hends
  | ok run => exact ⟨run, rfl⟩

theorem all_shows_foreign :
    ∃ run, a15Run = .ok run
      ∧ ∃ all,
        mainAll (toolHost ⟨.aarch32, true⟩ (fun _ => a15Machine)
            fun _ _ => none) foreignTables allOptions {} (fun _ => {})
            freshProcess = .ok all
        ∧ run.result = all.result ∧ run.process = all.process
        ∧ all.calls.map GroupCall.group
          <+: groupsOf (allOptions.heapTable foreignTables)
        ∧ (run.result = 0 →
          all.calls.map GroupCall.group
            = groupsOf (allOptions.heapTable foreignTables))
        ∧ screenLines run.screen
          = (allShown ⟨.aarch32, true⟩ (fun _ => a15Machine)
              (fun _ _ => none) (allOptions.heapTable foreignTables)
              allInfo (all.calls.map GroupCall.group)
              freshProcess.dev).map
            (fieldLine (allOptions.heapTable foreignTables)) := by
  obtain ⟨run, hrun⟩ := a15Run_ends
  refine ⟨run, hrun, ?_⟩
  exact all_shows ⟨.aarch32, true⟩ (fun _ => a15Machine)
    (fun _ _ => none) foreign_says rfl (fun _ => ⟨rfl, by decide⟩)
    (fun _ => rfl) hrun

end Maplesyrup
