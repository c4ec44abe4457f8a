/-
Do the table's pointer and its size stay together? Over any sequence of
calls.

Every function of the library that looks at the tables loads them first
and erases them last. A load sets both variables or, when there is no
memory, the pointer only; the erasure resets the pointer only. So the
size is that of the last load that succeeded, and a load that fails
behind one leaves NULL with it. The functions on a result (the accessors,
`ms_get_size`, `ms_free_result`) touch neither variable.
-/
import Maplesyrup.Library.Proofs.Stack

namespace Maplesyrup

open Base

variable {δ : Type} {H : Host δ} {tables : List BitfieldTableEntry}

-- =========================================================== the invariant

/-- The size is that of a table in the block, and 0 where there is no
block. -/
structure TableGlobals.Consistent (g : TableGlobals) : Prop where
  block : ∀ b, g.gBitfieldTableHeap = some b →
    g.gBitfieldTableSize ≤ b.capacity
      ∧ g.gBitfieldTableSize ≤ b.entries.length
  null : g.gBitfieldTableHeap = none → g.gBitfieldTableSize = 0

/-- No loop over consistent tables leaves them. -/
theorem TableGlobals.Consistent.heap {g : TableGlobals}
    (hg : g.Consistent) : ∃ heap, g.heap = .ok heap := by
  unfold TableGlobals.heap
  cases hblock : g.gBitfieldTableHeap with
  | none => exact ⟨[], if_pos (hg.null hblock)⟩
  | some b => exact ⟨_, if_pos (hg.block b hblock).2⟩

/-- The tables as a load leaves them. -/
def loaded (tables : List BitfieldTableEntry) (a : Alloc)
    (includeDevices : Int) (g : TableGlobals) : TableGlobals :=
  (readTablesToMemory a tables includeDevices g).2.1

theorem loaded_ok (tables : List BitfieldTableEntry) {a : Alloc}
    (ha : a 0 = true) (includeDevices : Int) (g : TableGlobals) :
    loaded tables a includeDevices g
      = ⟨some ⟨(tables.map BitfieldTableEntry.tableSize).sum,
          expanded (included includeDevices tables)⟩,
        (expanded (included includeDevices tables)).length⟩ := by
  unfold loaded readTablesToMemory
  rw [if_pos ha, foldl_expandTable]
  rfl

theorem loaded_failed {a : Alloc} (ha : a 0 = false)
    (includeDevices : Int) (g : TableGlobals) :
    loaded tables a includeDevices g
      = { g with gBitfieldTableHeap := none } := by
  unfold loaded readTablesToMemory
  rw [if_neg (by simp [ha])]

/-- What is loaded fits into the memory for all tables. -/
theorem included_size_le (includeDevices : Int)
    (tables : List BitfieldTableEntry) :
    (expanded (included includeDevices tables)).length
      ≤ (tables.map BitfieldTableEntry.tableSize).sum := by
  have hsub : (included includeDevices tables).Sublist tables := by
    unfold included
    split
    · exact List.Sublist.refl _
    · exact List.filter_sublist
  rw [expanded_length]
  exact (hsub.map _).sum_le_sum fun _ _ => Nat.zero_le _

/-- A load leaves the two together when there is memory, or when the size
is still 0. -/
theorem loaded_consistent_iff (a : Alloc) (includeDevices : Int)
    (g : TableGlobals) :
    (loaded tables a includeDevices g).Consistent
      ↔ (a 0 = false → g.gBitfieldTableSize = 0) := by
  cases ha : a 0 with
  | true =>
      rw [loaded_ok _ ha]
      refine iff_of_true ⟨?_, by simp⟩ (by simp)
      intro b hb
      obtain rfl := Option.some.inj hb
      exact ⟨included_size_le includeDevices tables, Nat.le_refl _⟩
  | false =>
      rw [loaded_failed ha]
      constructor
      · intro h _
        exact h.null rfl
      · intro h
        exact ⟨fun b hb => absurd hb (by simp), fun _ => h rfl⟩

-- =============================================================== one call

/-- A call of a function that looks at the tables. -/
inductive ApiCall
  | find (c : FindCall)
  | getGroups (o : Outcome) (listOut : Bool) (includeDevices : Int)
  | getRegisters (o : Outcome) (listOut : Bool) (includeDevices : Int)
  | getBitfields (o : Outcome) (listOut : Bool) (includeDevices : Int)

def ApiCall.run (H : Host δ) (tables : List BitfieldTableEntry)
    (c : ApiCall) (p : Process δ) : Except Fault (Returned δ) :=
  match c with
  | .find c => c.run H tables p
  | .getGroups o listOut includeDevices =>
      msGetGroups tables o listOut includeDevices p
  | .getRegisters o listOut includeDevices =>
      msGetRegisters tables o listOut includeDevices p
  | .getBitfields o listOut includeDevices =>
      msGetBitfields tables o listOut includeDevices p

/-- The process after a call, where the call comes to an end. -/
def ApiCall.step (H : Host δ) (tables : List BitfieldTableEntry)
    (p : Process δ) (c : ApiCall) : Option (Process δ) :=
  (c.run H tables p).toOption.map (·.process)

/-- What the operating system does in the call. -/
def ApiCall.outcome : ApiCall → Outcome
  | .find c => c.outcome
  | .getGroups o _ _ | .getRegisters o _ _ | .getBitfields o _ _ => o

def ApiCall.includeDevices : ApiCall → Int
  | .find c => c.args.includeDevices
  | .getGroups _ _ d | .getRegisters _ _ d | .getBitfields _ _ d => d

/-- A search comes to load the tables: its output is not NULL, the device
is open if it needs one, and there is a request. -/
structure FindCall.Loads (c : FindCall) : Prop where
  resultsOut : c.args.resultsOut = true
  started : c.key.calcValue = none →
    c.outcome.register = true ∧ c.outcome.opened ≠ -1
  request : c.request ≠ none

/-- The call comes to load the tables. -/
def ApiCall.Loads : ApiCall → Prop
  | .find c => c.Loads
  | .getGroups _ listOut _ => listOut = true
  | .getRegisters _ listOut _ => listOut = true
  | .getBitfields _ listOut _ => listOut = true

/-- The tables the call's loops run over, where it finds `g`. -/
def ApiCall.loaded (tables : List BitfieldTableEntry) (c : ApiCall)
    (g : TableGlobals) : TableGlobals :=
  Maplesyrup.loaded tables c.outcome.alloc c.includeDevices g

-- ------------------------------------------------------------- what is left

theorem stopTest_tables (o : Outcome) (p : Process δ) :
    (stopTest o p).tables = p.tables := by
  unfold stopTest
  split <;> rfl

theorem findDone_tables {device : Bool} {o : Outcome}
    {list : StackList BitfieldInfoPopulated} {ret : Int}
    {stored : Option (List MsBitfieldInfo)} {p : Process δ}
    {r : Returned δ} (h : findDone device o list ret stored p = .ok r) :
    r.process.tables = eraseTables p.tables := by
  unfold findDone at h
  obtain ⟨_, -, h⟩ := bind_eq_ok.1 h
  cases h
  cases device with
  | true => exact congrArg eraseTables (stopTest_tables o p)
  | false => rfl

theorem getDone_tables {list : StackList BitfieldInfoPopulated}
    {ret : Int} {stored : Option (List MsBitfieldInfo)} {p : Process δ}
    {r : Returned δ} (h : getDone list ret stored p = .ok r) :
    r.process.tables = eraseTables p.tables := by
  unfold getDone at h
  obtain ⟨_, -, h⟩ := bind_eq_ok.1 h
  cases h
  rfl

/-- Behind its request, a search runs over the loaded tables and leaves
them erased. -/
theorem findRequest_tables {device : Bool} {o : Outcome}
    {info : MatchInfo} {includeDevices : Int}
    {list : List BitfieldInfoPopulated} {p : Process δ} {r : Returned δ}
    (h : findRequest H tables device o info includeDevices list p
      = .ok r) :
    r.process.tables
      = eraseTables (loaded tables o.alloc includeDevices p.tables) := by
  unfold findRequest at h
  obtain ⟨heap, -, h⟩ := bind_eq_ok.1 h
  obtain ⟨⟨⟨n, l, a⟩, dev⟩, -, h⟩ := bind_eq_ok.1 h
  dsimp only at h
  split at h
  · exact findDone_tables h
  · split at h
    · exact findDone_tables h
    · exact findDone_tables h

theorem msGet_tables
    {collect : Alloc → List BitfieldInfoHeap →
      List BitfieldInfoPopulated →
      Option (Int × List BitfieldInfoPopulated × Alloc)}
    {o : Outcome} {listOut : Bool} {includeDevices : Int}
    {p : Process δ} {r : Returned δ}
    (h : msGet collect tables o listOut includeDevices p = .ok r) :
    listOut = true
      ∧ r.process.tables
        = eraseTables (loaded tables o.alloc includeDevices p.tables) := by
  unfold msGet at h
  cases listOut with
  | false =>
      -- the list is freed uninitialised
      cases h
  | true =>
      refine ⟨rfl, ?_⟩
      rw [if_neg (by simp)] at h
      obtain ⟨heap, -, h⟩ := bind_eq_ok.1 h
      obtain ⟨⟨n, l, a⟩, -, h⟩ := bind_eq_ok.1 h
      dsimp only at h
      split at h
      · exact getDone_tables h
      · split at h
        · exact getDone_tables h
        · exact getDone_tables h

/-- A call that comes so far is its request's, the tables untouched till
then. -/
theorem FindCall.run_loads (H : Host δ)
    (tables : List BitfieldTableEntry) {c : FindCall} (hc : c.Loads)
    (p : Process δ) :
    ∃ info q, c.run H tables p
        = findRequest H tables c.key.calcValue.isNone c.outcome info
            c.args.includeDevices [] q
      ∧ q.tables = p.tables := by
  obtain ⟨hout, hstart, hrequest⟩ := hc
  obtain ⟨info, hinfo⟩ := Option.ne_none_iff_exists'.1 hrequest
  obtain ⟨base, hset, hkey⟩ := FindCall.request_some hinfo
  have hgo : ∀ q : Process δ,
      findStarted H tables c.outcome c.args c.key.calcValue c.key.set 0 q
        = findRequest H tables c.key.calcValue.isNone c.outcome info
            c.args.includeDevices [] q := by
    intro q
    unfold findStarted
    rw [if_neg (by simp), hset]
    show (c.key.set base >>= _) = _
    rw [hkey, ok_bind]
  rw [FindCall.run_eq]
  by_cases hcalc : c.key.calcValue = none
  · obtain ⟨hreg, hopen⟩ := hstart hcalc
    rw [msFind_device hout hcalc, startTest_ok hreg hopen]
    exact ⟨info, _, hgo _, rfl⟩
  · rw [msFind_value hout hcalc]
    exact ⟨info, p, hgo p, rfl⟩

theorem startTest_tables (H : Host δ) (o : Outcome) (p : Process δ) :
    (startTest H o p).2.tables = p.tables := by
  unfold startTest
  dsimp only
  split
  · rfl
  · split <;> rfl

/-- A call that does not come so far erases the tables it found. -/
theorem FindCall.run_stops {c : FindCall} (hc : ¬ c.Loads)
    {p : Process δ} {r : Returned δ} (h : c.run H tables p = .ok r) :
    r.process.tables = eraseTables p.tables := by
  rw [FindCall.run_eq] at h
  cases hout : c.args.resultsOut with
  | false =>
      -- the list is freed uninitialised
      unfold msFind at h
      rw [if_neg (by simp [hout])] at h
      cases h
  | true =>
      have hrest : ∀ {started : Int} {q : Process δ},
          findStarted H tables c.outcome c.args c.key.calcValue c.key.set
              started q = .ok r →
            (started = 0 → c.request = none) →
            r.process.tables = eraseTables q.tables := by
        intro started q hq hnone
        unfold findStarted at hq
        dsimp only at hq
        split at hq
        · exact findDone_tables hq
        · rename_i hstarted
          have hnone := hnone (not_not.1 hstarted)
          unfold FindCall.request at hnone
          split at hq
          · exact findDone_tables hq
          · rename_i base hset
            obtain ⟨info, hkey, -⟩ := bind_eq_ok.1 hq
            simp [hset, hkey, Except.toOption] at hnone
      by_cases hcalc : c.key.calcValue = none
      · rw [msFind_device hout hcalc] at h
        rw [← startTest_tables H c.outcome p]
        refine hrest h fun hstarted => ?_
        by_contra hrequest
        refine hc ⟨hout, fun _ => ?_, hrequest⟩
        by_contra hfail
        exact startTest_failed hfail p hstarted
      · rw [msFind_value hout hcalc] at h
        refine hrest h fun _ => ?_
        by_contra hrequest
        exact hc ⟨hout, fun hcon => absurd hcon hcalc, hrequest⟩

/-- A call that loads the tables leaves those erased, another the ones it
found. -/
theorem ApiCall.step_tables {c : ApiCall} {p q : Process δ}
    (h : c.step H tables p = some q) :
    (c.Loads → q.tables = eraseTables (c.loaded tables p.tables))
      ∧ (¬ c.Loads → q.tables = eraseTables p.tables) := by
  obtain ⟨r, hrun, rfl⟩ : ∃ r, c.run H tables p = .ok r
      ∧ r.process = q := by
    unfold ApiCall.step at h
    cases hrun : c.run H tables p with
    | error e => simp [hrun, Except.toOption] at h
    | ok r => exact ⟨r, rfl, by simpa [hrun, Except.toOption] using h⟩
  cases c with
  | find c =>
      constructor
      · intro hc
        obtain ⟨info, q, hrequest, hq⟩ :=
          FindCall.run_loads H tables hc p
        show r.process.tables
          = eraseTables (Maplesyrup.loaded tables _ _ p.tables)
        rw [← hq]
        exact findRequest_tables (hrequest.symm.trans hrun)
      · intro hc
        exact FindCall.run_stops hc hrun
  | getGroups o listOut includeDevices =>
      obtain ⟨hout, htables⟩ := msGet_tables hrun
      exact ⟨fun _ => htables, fun hc => absurd hout hc⟩
  | getRegisters o listOut includeDevices =>
      obtain ⟨hout, htables⟩ := msGet_tables hrun
      exact ⟨fun _ => htables, fun hc => absurd hout hc⟩
  | getBitfields o listOut includeDevices =>
      obtain ⟨hout, htables⟩ := msGet_tables hrun
      exact ⟨fun _ => htables, fun hc => absurd hout hc⟩

-- ======================================================== sequences of them

/-- Wherever the loops of a call run, the table's pointer and its size
agree, and no loop leaves the table. -/
def StayConsistent (H : Host δ) (tables : List BitfieldTableEntry)
    (p : Process δ) (calls : List ApiCall) : Prop :=
  ∀ pre c post q, calls = pre ++ c :: post →
    run (ApiCall.step H tables) p pre = some q → c.Loads →
      (c.loaded tables q.tables).Consistent
        ∧ ∃ heap, (c.loaded tables q.tables).heap = .ok heap

/-- The call loads the tables, and there is memory for them. -/
def ApiCall.LoadSucceeds (c : ApiCall) : Prop :=
  c.Loads ∧ c.outcome.alloc 0 = true

/-- No call the run comes to fails to load the tables behind one that
loaded them. -/
def NoLoadLost (H : Host δ) (tables : List BitfieldTableEntry)
    (p : Process δ) (calls : List ApiCall) : Prop :=
  ∀ pre c post, calls = pre ++ c :: post →
    run (ApiCall.step H tables) p pre ≠ none → c.Loads →
      c.outcome.alloc 0 = false → ¬ ∃ d ∈ pre, d.LoadSucceeds

theorem shipped_nonempty (includeDevices : Int) :
    (expanded (included includeDevices bitfieldTable)).length ≠ 0 := by
  rw [expanded_length]
  unfold included
  split
  · decide +kernel
  · decide +kernel

/-- The size is not 0 once the tables were loaded. -/
theorem ApiCall.step_size {c : ApiCall} {p q : Process δ}
    (h : ApiCall.step H bitfieldTable p c = some q) :
    q.tables.gBitfieldTableSize ≠ 0
      ↔ p.tables.gBitfieldTableSize ≠ 0 ∨ c.LoadSucceeds := by
  obtain ⟨hloads, hstops⟩ := ApiCall.step_tables h
  unfold ApiCall.LoadSucceeds
  by_cases hc : c.Loads
  · rw [hloads hc]
    unfold ApiCall.loaded
    cases ha : c.outcome.alloc 0 with
    | true =>
        rw [loaded_ok _ ha]
        exact iff_of_true (shipped_nonempty _) (Or.inr ⟨hc, rfl⟩)
    | false =>
        rw [loaded_failed ha]
        simp [eraseTables]
  · rw [hstops hc]
    simp [eraseTables, hc]

/-- One call of a run: the tables agree at its loops if there is memory
for them, or if none was loaded before. -/
theorem reached_consistent_iff {p q : Process δ} (hp : p.tables = {})
    {pre : List ApiCall}
    (hrun : run (ApiCall.step H bitfieldTable) p pre = some q)
    (c : ApiCall) :
    (c.loaded bitfieldTable q.tables).Consistent
      ↔ (c.outcome.alloc 0 = false → ¬ ∃ d ∈ pre, d.LoadSucceeds) := by
  have hsize := run_found
    (Q := fun p : Process δ => p.tables.gBitfieldTableSize ≠ 0)
    ApiCall.LoadSucceeds
    (fun _ _ _ hstep => ApiCall.step_size hstep) hrun
  rw [hp] at hsize
  have hzero : q.tables.gBitfieldTableSize = 0
      ↔ ¬ ∃ d ∈ pre, d.LoadSucceeds := by
    rw [← not_iff_not, not_not]
    simpa using hsize
  unfold ApiCall.loaded
  rw [loaded_consistent_iff, hzero]

/-- From the library's start on, the pointer and the size agree wherever
loops run exactly when no load fails behind one that succeeded. -/
theorem tables_consistent_iff (H : Host δ) (signals : Signals)
    (msFd : Int) (dev : δ) (calls : List ApiCall) :
    StayConsistent H bitfieldTable ⟨signals, msFd, {}, dev⟩ calls
      ↔ NoLoadLost H bitfieldTable ⟨signals, msFd, {}, dev⟩ calls := by
  constructor
  · intro h pre c post hcalls hreached hc ha
    obtain ⟨q, hrun⟩ := Option.ne_none_iff_exists'.1 hreached
    obtain ⟨hagree, -⟩ := h pre c post q hcalls hrun hc
    exact (reached_consistent_iff rfl hrun c).1 hagree ha
  · intro h pre c post q hcalls hrun hc
    have hreached : run (ApiCall.step H bitfieldTable)
        ⟨signals, msFd, {}, dev⟩ pre ≠ none := by
      rw [hrun]
      simp
    have hagree := (reached_consistent_iff rfl hrun c).2
      (h pre c post hcalls hreached hc)
    exact ⟨hagree, hagree.heap⟩

/-- A listing with memory for the tables only. -/
def listingCall (a : Alloc) : ApiCall :=
  .getGroups { alloc := a } true 0

/-- It loads them and ends. -/
theorem listingCall_ends (H : Host δ) (p : Process δ) :
    ∃ q, ApiCall.step H bitfieldTable p (listingCall fun n => n == 0)
      = some q := by
  have hload := loaded_ok bitfieldTable (a := fun n => n == 0) rfl 0
    p.tables
  cases hheap : expanded (included 0 bitfieldTable) with
  | nil => exact absurd (congrArg List.length hheap) (shipped_nonempty 0)
  | cons h heap =>
      have hg : (loaded bitfieldTable (fun n => n == 0) 0 p.tables).heap
          = .ok (h :: heap) := by
        rw [hload, hheap]
        unfold TableGlobals.heap
        dsimp only
        rw [if_pos (Nat.le_refl _), List.take_length]
      have hrun : ∃ r, (listingCall fun n => n == 0).run H bitfieldTable p
          = .ok r := by
        show ∃ r, (TableGlobals.heap
          (loaded bitfieldTable (fun n => n == 0) 0 p.tables) >>= _)
            = .ok r
        rw [hg, ok_bind]
        exact ⟨_, rfl⟩
      obtain ⟨r, hr⟩ := hrun
      refine ⟨r.process, ?_⟩
      unfold ApiCall.step
      rw [hr]
      rfl

/-- The second listing finds no memory, the first one found some. -/
theorem tables_consistent_fails :
    ¬ ∀ calls, StayConsistent nullHost bitfieldTable ⟨{}, -1, {}, ()⟩
        calls := by
  intro h
  obtain ⟨q, hq⟩ := listingCall_ends nullHost ⟨{}, -1, {}, ()⟩
  have hrun : run (ApiCall.step nullHost bitfieldTable)
      ⟨{}, -1, {}, ()⟩ [listingCall fun n => n == 0] = some q := by
    rw [run, hq]
    rfl
  obtain ⟨hagree, -⟩ := h _ [listingCall fun n => n == 0]
    (listingCall fun _ => false) [] q rfl hrun rfl
  have hlost := (reached_consistent_iff rfl hrun _).1 hagree rfl
  exact hlost ⟨_, List.mem_singleton.2 rfl, rfl, rfl⟩

end Maplesyrup
