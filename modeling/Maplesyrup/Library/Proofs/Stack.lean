/-
Are lists initialised before they are freed?

Where its pointers are set, each function on the stack's lists does what
its namesake without them does (`Stack.breakoutParseResults_eq` and its
kin). Two things free a list nobody initialised: a NULL pointer, since
the checks come before the initialisations, and an empty list of ioctl
results, since `breakout_parse_results` initialises its lists in the
loop over it. So a search is safe when something it reads is recorded.
-/
import Maplesyrup.Base.Cells
import Maplesyrup.Base.Except
import Maplesyrup.Decode.Proofs.Heap
import Maplesyrup.Library.Proofs.Signals

namespace Maplesyrup

open Base

variable {δ : Type}

-- ============================================================ the functions

@[simp] theorem orFault_some {α : Type} (x : α) :
    orFault (some x) = .ok x := rfl

@[simp] theorem orFault_none {α : Type} :
    orFault (none : Option α) = .error .access := rfl

namespace Stack

@[simp] theorem free_some (indices : List Nat)
    (masked : List BitfieldInfoPopulated) :
    ParseLists.free ⟨some indices, some masked⟩ = .ok .init := rfl

/-- The loop does what the loop without the lists does, and leaves them
initialised if it ran, or if they were. -/
theorem parseLoop_eq (heap : List BitfieldInfoHeap)
    (reqs : List ResultsInfo) (xs : List IoctlResult) (result : Int)
    (a : Alloc) (out : List BitfieldInfoPopulated) (l : ParseLists) :
    ∃ l', parseLoop heap reqs xs result a out l
          = (do
              let r ← orFault
                (Maplesyrup.parseLoop heap reqs xs result a out)
              .ok (r, l'))
      ∧ (xs = [] → l' = l)
      ∧ (xs ≠ [] ∨ l.free = .ok .init → l'.free = .ok .init) := by
  induction xs generalizing result a out l with
  | nil =>
      exact ⟨l, rfl, fun _ => rfl, fun h => h.resolve_left fun h => h rfl⟩
  | cons x xs ih =>
      obtain ⟨indices, a', hindices⟩ : ∃ indices a',
          breakoutConstructBitfieldList a heap x.registerUid []
            = (0, indices, a') := ⟨_, _, rfl⟩
      simp only [parseLoop, Maplesyrup.parseLoop, hindices]
      cases hmask : breakoutApplyMasksToList a' heap x.val64 x.low x.high
          x.cpu x.epl x.midr x.status indices [] with
      | none => exact ⟨.init, rfl, by simp, fun _ => rfl⟩
      | some r =>
          obtain ⟨n, masked, b⟩ := r
          by_cases hn : n = 0
          · cases hfilter : breakoutFilterResults b heap masked reqs
                out with
            | none =>
                refine ⟨.init, ?_, by simp, fun _ => rfl⟩
                simp [hn, hfilter]
            | some r =>
                obtain ⟨m, out', c⟩ := r
                by_cases hm : m = 0
                · obtain ⟨l', hl', -, hinit⟩ := ih n c out' .init
                  refine ⟨l', ?_, by simp,
                    fun _ => hinit (Or.inr rfl)⟩
                  simpa [hn, hfilter, hm] using hl'
                · refine ⟨⟨some indices, some masked⟩, ?_, by simp,
                    fun _ => rfl⟩
                  simp [hn, hfilter, hm]
          · refine ⟨⟨some indices, some masked⟩, ?_, by simp,
              fun _ => rfl⟩
            simp [hn]

/-- With its pointers set the function does what its namesake does, but
for an empty list of results. -/
theorem breakoutParseResults_eq (a : Alloc) (heap : List BitfieldInfoHeap)
    {xs : List IoctlResult} (hxs : xs ≠ []) (reqs : List ResultsInfo)
    (out : List BitfieldInfoPopulated) :
    breakoutParseResults a heap (some xs) (some reqs) (some out)
      = orFault (Maplesyrup.breakoutParseResults a heap xs reqs out) := by
  obtain ⟨l', hloop, -, hfree⟩ := parseLoop_eq heap reqs xs (-1) a out {}
  have hnamesake : Maplesyrup.breakoutParseResults a heap xs reqs out
      = Maplesyrup.parseLoop heap reqs xs (-1) a out := by
    cases xs with
    | nil => exact absurd rfl hxs
    | cons x xs => rfl
  rw [hnamesake]
  show (parseLoop heap reqs xs (-1) a out {} >>= _) = _
  rw [hloop]
  cases Maplesyrup.parseLoop heap reqs xs (-1) a out with
  | none => rfl
  | some r =>
      show (l'.free >>= _) = _
      rw [hfree (Or.inl hxs)]
      rfl

theorem breakoutParseResults_empty (a : Alloc)
    (heap : List BitfieldInfoHeap) (reqs : List ResultsInfo)
    (out : List BitfieldInfoPopulated) :
    breakoutParseResults a heap (some []) (some reqs) (some out)
      = .error .uninitialised := rfl

theorem breakoutParseResultsValue_eq (a : Alloc)
    (heap : List BitfieldInfoHeap) (reqs : List ResultsInfo)
    (out : List BitfieldInfoPopulated) :
    breakoutParseResultsValue a heap (some reqs) (some out)
      = orFault
          (Maplesyrup.breakoutParseResultsValue a heap reqs out) := by
  show (orFault _ >>= _) = _
  cases Maplesyrup.breakoutParseResultsValue a heap reqs out <;> rfl

@[simp] theorem findDone_some {α : Type} (reqs : List ResultsInfo)
    (ioctls : List IoctlResult) (r : α) :
    findDone (some reqs) (some ioctls) r = .ok r := rfl

theorem breakoutSortIoctls_eq (P : Platform δ) (a : Alloc) (dev : δ)
    (reqs : List ResultsInfo) (out : List IoctlResult) :
    breakoutSortIoctls P a dev (some reqs) (some out)
      = (let u := (Maplesyrup.breakoutSortIoctls P a dev reqs out).2
        .ok (0, u.listOut, u.alloc, u.dev)) := rfl

end Stack

-- ======================================================= what is recorded

/-- The driver answers an entry of the worklist, and there is memory for
one of its results. -/
def DriverAnswers (P : Platform δ) (s : DriverState δ) (u : UsedIoctl) :
    Prop :=
  (driverResults P s.dev (driverCmd u.partnumber)
      { s.localResult with
        code := u.registerUid
        pcpu := u.cpu
        partNumber := u.partnumber }).1 = 0
    ∧ ∃ i < msMaxCpus, s.alloc i = true

/-- So does the user-mode reader. -/
def UsermodeAnswers (P : Platform δ) (s : UsermodeState δ)
    (u : UsedIoctl) : Prop :=
  (P.usermodeResults s.dev u.registerUid s.localResult).1 = 0
    ∧ s.alloc 0 = true

theorem saveSlots_nonempty (registerUid : U32) (l : List (Fin msMaxCpus))
    (s : DriverState δ) :
    (l.foldl (saveSlot registerUid) s).listOut ≠ []
      ↔ s.listOut ≠ [] ∨ ∃ i < l.length, s.alloc i = true := by
  induction l generalizing s with
  | nil => simp
  | cons c l ih =>
      rw [List.foldl_cons, ih, List.length_cons]
      have hrest : ∀ i, (saveSlot registerUid s c).alloc i
          = s.alloc (i + 1) := by
        intro i
        unfold saveSlot breakoutAddIoctlResult msListAdd
        cases s.alloc 0 <;> rfl
      have hout : (saveSlot registerUid s c).listOut ≠ []
          ↔ s.listOut ≠ [] ∨ s.alloc 0 = true := by
        unfold saveSlot breakoutAddIoctlResult msListAdd
        cases s.alloc 0 <;> simp
      rw [hout, or_assoc]
      refine or_congr_right ?_
      simp only [hrest]
      constructor
      · intro hcase
        rcases hcase with h | ⟨i, hi, h⟩
        · exact ⟨0, by omega, h⟩
        · exact ⟨i + 1, by omega, h⟩
      · intro hex
        obtain ⟨i, hi, h⟩ := hex
        cases i with
        | zero => exact Or.inl h
        | succ i => exact Or.inr ⟨i, by omega, h⟩

theorem callDriverStep_nonempty (P : Platform δ) (s : DriverState δ)
    (u : UsedIoctl) :
    (callDriverStep P s u).listOut ≠ []
      ↔ s.listOut ≠ [] ∨ DriverAnswers P s u := by
  unfold callDriverStep DriverAnswers
  dsimp only
  split
  · rename_i h
    exact ⟨Or.inl, fun hs => hs.resolve_right fun ha => h ha.1⟩
  · rename_i h
    rw [saveSlots_nonempty, List.length_finRange]
    exact or_congr_right (iff_and_self.2 fun _ => not_not.1 h)

theorem callUsermodeStep_nonempty (P : Platform δ)
    (s : UsermodeState δ) (u : UsedIoctl) :
    (callUsermodeStep P s u).listOut ≠ []
      ↔ s.listOut ≠ [] ∨ UsermodeAnswers P s u := by
  unfold callUsermodeStep UsermodeAnswers
  dsimp only
  split
  · rename_i h
    exact ⟨Or.inl, fun hs => hs.resolve_right fun ha => h ha.1⟩
  · rename_i h
    have hr := not_not.1 h
    unfold breakoutAddIoctlResult msListAdd
    cases s.alloc 0 <;> simp [hr]

/-- One of the worklists' entries is answered and recorded at its turn:
on the driver's, or, after these, on the user-mode one. -/
def Recorded (P : Platform δ) (w : Worklists) (dev : δ) : Prop :=
  (∃ pre u post, w.toDriver = pre ++ u :: post
      ∧ DriverAnswers P
          (pre.foldl (callDriverStep P) ⟨{}, [], w.alloc, dev⟩) u)
    ∨ ∃ pre u post, w.toUsermode = pre ++ u :: post
      ∧ let d := w.toDriver.foldl (callDriverStep P)
          ⟨{}, [], w.alloc, dev⟩
        UsermodeAnswers P (pre.foldl (callUsermodeStep P)
          ⟨{}, d.listOut, d.alloc, d.dev⟩) u

/-- The reads leave a result exactly when one is recorded. -/
theorem breakoutSortIoctls_nonempty (P : Platform δ) (a : Alloc) (dev : δ)
    (reqs : List ResultsInfo) :
    (breakoutSortIoctls P a dev reqs []).2.listOut ≠ []
      ↔ Recorded P (reqs.foldl sortStep { alloc := a }) dev := by
  show ((reqs.foldl sortStep { alloc := a }).toUsermode.foldl
    (callUsermodeStep P) _).listOut ≠ [] ↔ _
  rw [foldl_found (Q := fun s : UsermodeState δ => s.listOut ≠ [])
    (callUsermodeStep_nonempty P)]
  refine or_congr_left ?_
  show ((reqs.foldl sortStep { alloc := a }).toDriver.foldl
    (callDriverStep P) _).listOut ≠ [] ↔ _
  rw [foldl_found (Q := fun s : DriverState δ => s.listOut ≠ [])
    (callDriverStep_nonempty P)]
  simp

-- ============================================================= the searches

/-- Something a request reads is recorded. -/
def SomeRead (P : Platform δ) (a : Alloc) (heap : List BitfieldInfoHeap)
    (dev : δ) (info : MatchInfo) : Prop :=
  let (_, reqs, a) := breakoutSearchTable a heap info []
  Recorded P (reqs.foldl sortStep { alloc := a }) dev

/-- The search frees a list it did not initialise when it reads and
records nothing. -/
theorem findBitfields_fault (P : Platform δ) (a : Alloc)
    (heap : List BitfieldInfoHeap) (dev : δ) (info : MatchInfo)
    (list : List BitfieldInfoPopulated) :
    Stack.findBitfields P a heap dev (some info) (some list)
        = .error .uninitialised
      ↔ info.calcValid = 0 ∧ ¬ SomeRead P a heap dev info := by
  obtain ⟨reqs, a', hsearch⟩ : ∃ reqs a',
      breakoutSearchTable a heap info [] = (0, reqs, a') :=
    ⟨_, _, rfl⟩
  simp only [Stack.findBitfields, SomeRead, hsearch]
  by_cases hcalc : info.calcValid = 0
  · simp only [hcalc, Stack.breakoutSortIoctls_eq, ok_bind, msListInit]
    rw [← breakoutSortIoctls_nonempty]
    by_cases hempty : (breakoutSortIoctls P a' dev reqs []).2.listOut = []
    · simp [hempty, Stack.breakoutParseResults_empty]
    · rw [Stack.breakoutParseResults_eq _ _ hempty]
      refine iff_of_false (fun h => ?_) (fun h => h.2 hempty)
      cases hparse : breakoutParseResults
          (breakoutSortIoctls P a' dev reqs []).2.alloc heap
          (breakoutSortIoctls P a' dev reqs []).2.listOut reqs list with
      | none => simp [hparse] at h
      | some r => by_cases hr : r.1 = 0 <;> simp [hparse, hr] at h
  · refine iff_of_false (fun h => ?_) (fun h => hcalc h.1)
    simp only [hcalc, Stack.breakoutParseResultsValue_eq, msListInit] at h
    cases hparse : breakoutParseResultsValue a' heap reqs list with
    | none => simp [hparse] at h
    | some r => by_cases hr : r.1 = 0 <;> simp [hparse, hr] at h

/-- The request a call makes, where it makes one. -/
def FindCall.request (c : FindCall) : Option MatchInfo := do
  let info ← setMatchInfo c.outcome.errnoRange c.args.arch c.args.impl
    c.args.cpu c.args.pl c.args.noparse c.key.calcValue
  (c.key.set info).toOption

theorem FindCall.request_some {c : FindCall} {info : MatchInfo}
    (h : c.request = some info) :
    ∃ base, setMatchInfo c.outcome.errnoRange c.args.arch c.args.impl
        c.args.cpu c.args.pl c.args.noparse c.key.calcValue = some base
      ∧ c.key.set base = .ok info := by
  unfold FindCall.request at h
  obtain ⟨base, hset, hkey⟩ := Option.bind_eq_some_iff.1 h
  refine ⟨base, hset, ?_⟩
  cases hok : c.key.set base with
  | error e => simp [hok, Except.toOption] at hkey
  | ok info' => simpa [hok, Except.toOption] using hkey

/-- A request carries a value exactly when the call does. -/
theorem setMatchInfo_calcValid {errnoRange : Bool}
    {arch impl : Option String} {cpu : Int} {pl noparse : U32}
    {calcValue : Option String} {info : MatchInfo}
    (h : setMatchInfo errnoRange arch impl cpu pl noparse calcValue
      = some info) : info.calcValid = 0 ↔ calcValue = none := by
  unfold setMatchInfo at h
  obtain ⟨_, -, h⟩ := Option.bind_eq_some_iff.1 h
  obtain ⟨_, -, h⟩ := Option.bind_eq_some_iff.1 h
  obtain ⟨_, -, h⟩ := Option.bind_eq_some_iff.1 h
  obtain ⟨_, -, h⟩ := Option.bind_eq_some_iff.1 h
  cases calcValue with
  | none =>
      obtain rfl := Option.some.inj h
      simp
  | some s =>
      obtain rfl := Option.some.inj h
      simp

theorem FindKey.set_calcValid {key : FindKey} {info info' : MatchInfo}
    (h : key.set info = .ok info') :
    info'.calcValid = info.calcValid := by
  unfold FindKey.set at h
  cases key with
  | bitfield uid =>
      cases h
      rfl
  | register regname calcValue =>
      obtain ⟨_, -, h⟩ := bind_eq_ok.1 h
      cases h
      rfl
  | group groupname =>
      obtain ⟨_, -, h⟩ := bind_eq_ok.1 h
      cases h
      rfl

/-- A key can only fault on the NULL it is copied from. -/
theorem FindKey.set_access {key : FindKey} {info : MatchInfo} {e : Fault}
    (h : key.set info = .error e) : e = .access := by
  unfold FindKey.set at h
  cases key with
  | bitfield uid => simp at h
  | register regname calcValue =>
      cases regname with
      | none => exact (Except.error.inj h).symm
      | some s => simp [copyName] at h
  | group groupname =>
      cases groupname with
      | none => exact (Except.error.inj h).symm
      | some s => simp [copyName] at h

theorem FindKey.set_fault (key : FindKey) (info : MatchInfo) :
    key.set info ≠ .error .uninitialised := fun h => by
  cases FindKey.set_access h

theorem findDone_fault {device : Bool} {o : Outcome}
    {list : StackList BitfieldInfoPopulated} {ret : Int}
    {stored : Option (List MsBitfieldInfo)} {p : Process δ} :
    findDone device o list ret stored p = .error .uninitialised
      ↔ list = none := by
  unfold findDone
  cases list with
  | none => simp [msListFree]
  | some l => simp [msListFree]

theorem heap_fault (g : TableGlobals) :
    g.heap ≠ .error .uninitialised := by
  unfold TableGlobals.heap
  split
  · split <;> simp
  · split <;> simp

/-- What a search finds of the tables: its heap, and the allocations to
come. -/
def loadTables (tables : List BitfieldTableEntry) (o : Outcome)
    (includeDevices : Int) (p : Process δ) :
    Except Fault (List BitfieldInfoHeap) × Alloc :=
  let (_, g, a) :=
    readTablesToMemory o.alloc tables includeDevices p.tables
  (g.heap, a)

variable {H : Host δ} {tables : List BitfieldTableEntry}

/-- It finds the expanded tables, where there is memory for them. -/
theorem loadTables_ok {o : Outcome} (ha : o.alloc 0 = true)
    (includeDevices : Int) (p : Process δ) :
    loadTables tables o includeDevices p
      = (.ok (expanded (included includeDevices tables)),
          o.alloc.rest) := by
  unfold loadTables readTablesToMemory TableGlobals.heap
  rw [if_pos ha, foldl_expandTable]
  simp [expanded]

theorem findRequest_fault {device : Bool} {o : Outcome}
    {info : MatchInfo} {includeDevices : Int}
    {list : List BitfieldInfoPopulated} {p : Process δ} :
    findRequest H tables device o info includeDevices list p
        = .error .uninitialised
      ↔ info.calcValid = 0
        ∧ ∃ heap, (loadTables tables o includeDevices p).1 = .ok heap
          ∧ ¬ SomeRead (H.platform p.msFd)
              (loadTables tables o includeDevices p).2 heap p.dev
              info := by
  show (TableGlobals.heap _ >>= _) = _ ↔ _
  rw [bind_eq_error, or_iff_right (heap_fault _)]
  simp only [bind_eq_error, findBitfields_fault]
  constructor
  · intro hcase
    rcases hcase with ⟨heap, hheap, ⟨hcalc, hread⟩ | ⟨⟨⟨n, l, a⟩, dev⟩, -, h⟩⟩
    · exact ⟨hcalc, heap, hheap, hread⟩
    · dsimp only at h
      split at h
      · cases findDone_fault.1 h
      · split at h <;> cases findDone_fault.1 h
  · intro hall
    obtain ⟨hcalc, heap, hheap, hread⟩ := hall
    exact ⟨heap, hheap, Or.inl ⟨hcalc, hread⟩⟩

/-- Where a search with a device reaches its reads, something is
recorded. -/
def FindCall.Reads (H : Host δ) (tables : List BitfieldTableEntry)
    (c : FindCall) (p : Process δ) : Prop :=
  c.key.calcValue = none → c.outcome.register = true →
    c.outcome.opened ≠ -1 →
    ∀ info ∈ c.request, ∀ heap,
      let loaded := loadTables tables c.outcome c.args.includeDevices p
      loaded.1 = .ok heap →
        SomeRead (H.platform c.outcome.opened) loaded.2 heap
          (H.clearIllsig p.dev) info

theorem findStarted_fault {o : Outcome} {args : FindArgs} {key : FindKey}
    {p : Process δ} :
    findStarted H tables o args key.calcValue key.set 0 p
        = .error .uninitialised
      ↔ key.calcValue = none
        ∧ ∃ info ∈ (FindCall.request ⟨o, args, key⟩), ∃ heap,
          (loadTables tables o args.includeDevices p).1 = .ok heap
            ∧ ¬ SomeRead (H.platform p.msFd)
                (loadTables tables o args.includeDevices p).2 heap p.dev
                info := by
  unfold findStarted FindCall.request
  rw [if_neg (by simp)]
  dsimp only
  cases hset : setMatchInfo o.errnoRange args.arch args.impl args.cpu
      args.pl args.noparse key.calcValue with
  | none => simp [findDone_fault, msListInit]
  | some info =>
      have hcalc := setMatchInfo_calcValid hset
      show (key.set info >>= _) = _ ↔ _
      rw [bind_eq_error, or_iff_right (key.set_fault info)]
      simp only [findRequest_fault]
      constructor
      · intro hex
        obtain ⟨info', hkey, hvalid, hread⟩ := hex
        rw [FindKey.set_calcValid hkey, hcalc] at hvalid
        refine ⟨hvalid, info', ?_, hread⟩
        simp [hkey, Except.toOption]
      · intro hall
        obtain ⟨hvalid, info', hinfo, hread⟩ := hall
        cases hkey : key.set info with
        | error e => simp [hkey, Except.toOption] at hinfo
        | ok info'' =>
            obtain rfl : info'' = info' := by
              simpa [hkey, Except.toOption] using hinfo
            refine ⟨info'', rfl, ?_, hread⟩
            rw [FindKey.set_calcValid hkey]
            exact hcalc.2 hvalid

/-- The test starts when the handler is installed and the device is
opened. -/
theorem startTest_ok {o : Outcome} (hreg : o.register = true)
    (hopen : o.opened ≠ -1) (p : Process δ) :
    startTest H o p
      = (0, { p with
          signals := ⟨.msSignalHandler, p.signals.sigill, 0⟩
          dev := H.clearIllsig p.dev
          msFd := o.opened }) := by
  simp [startTest, registerSignalHandlers, hreg, hopen]

theorem startTest_failed {o : Outcome}
    (h : ¬ (o.register = true ∧ o.opened ≠ -1)) (p : Process δ) :
    (startTest H o p).1 ≠ 0 := by
  unfold startTest registerSignalHandlers
  cases hreg : o.register with
  | false => simp
  | true =>
      have hopen : o.opened = -1 := by
        by_contra hopen
        exact h ⟨hreg, hopen⟩
      simp [hopen]

/-- A search frees an uninitialised list when its output is NULL, or when
it reads and records nothing. -/
theorem FindCall.run_fault (c : FindCall) (p : Process δ) :
    c.run H tables p ≠ .error .uninitialised
      ↔ c.args.resultsOut = true ∧ c.Reads H tables p := by
  rw [FindCall.run_eq]
  unfold FindCall.Reads
  cases hout : c.args.resultsOut with
  | false =>
      unfold msFind
      simp [hout, findDone_fault]
  | true =>
      simp only [true_and]
      by_cases hcalc : c.key.calcValue = none
      · rw [msFind_device hout hcalc]
        by_cases hstart : c.outcome.register = true
            ∧ c.outcome.opened ≠ -1
        · obtain ⟨hreg, hopen⟩ := hstart
          rw [startTest_ok hreg hopen, ne_eq, findStarted_fault]
          constructor
          · intro h _ _ _ info hinfo heap hheap
            by_contra hread
            exact h ⟨hcalc, info, hinfo, heap, hheap, hread⟩
          · rintro h ⟨-, info, hinfo, heap, hheap, hread⟩
            exact hread (h hcalc hreg hopen info hinfo heap hheap)
        · have hfailed := startTest_failed (H := H) hstart p
          refine iff_of_true (fun h => ?_)
            (fun _ hreg hopen => absurd ⟨hreg, hopen⟩ hstart)
          unfold findStarted at h
          rw [if_pos hfailed] at h
          cases findDone_fault.1 h
      · rw [msFind_value hout hcalc]
        refine iff_of_true (fun h => ?_) (fun h => absurd h hcalc)
        exact hcalc (findStarted_fault.1 h).1

-- ============================================================ every function

theorem msGet_fault
    {collect : Alloc → List BitfieldInfoHeap →
      List BitfieldInfoPopulated →
      Option (Int × List BitfieldInfoPopulated × Alloc)}
    {o : Outcome} {listOut : Bool} {includeDevices : Int}
    {p : Process δ} :
    msGet collect tables o listOut includeDevices p
        ≠ .error .uninitialised
      ↔ listOut = true := by
  unfold msGet
  cases listOut with
  | false => simp [getDone, msListFree]
  | true =>
      refine iff_of_true (fun h => ?_) rfl
      rw [if_neg (by simp), bind_eq_error, or_iff_right (heap_fault _)]
        at h
      obtain ⟨heap, -, h⟩ := h
      rw [bind_eq_error] at h
      rcases h with h | ⟨⟨r, l, a⟩, -, h⟩
      · unfold orFault at h
        split at h <;> cases h
      · dsimp only at h
        split at h
        · cases h
        · split at h <;> cases h

/-- A call of a function that frees lists. -/
inductive ListCall (δ : Type)
  | findBitfields (P : Platform δ) (a : Alloc)
      (heap : List BitfieldInfoHeap) (dev : δ) (info : Option MatchInfo)
      (list : Option (List BitfieldInfoPopulated))
  | parseResults (a : Alloc) (heap : List BitfieldInfoHeap)
      (listInIoctls : Option (List IoctlResult))
      (listInMatches : Option (List ResultsInfo))
      (listOut : Option (List BitfieldInfoPopulated))
  | parseResultsValue (a : Alloc) (heap : List BitfieldInfoHeap)
      (listInMatches : Option (List ResultsInfo))
      (listOut : Option (List BitfieldInfoPopulated))
  | sortIoctls (P : Platform δ) (a : Alloc) (dev : δ)
      (internalList : Option (List ResultsInfo))
      (listOut : Option (List IoctlResult))
  | getGroups (tables : List BitfieldTableEntry) (o : Outcome)
      (listOut : Bool) (includeDevices : Int) (p : Process δ)
  | getRegisters (tables : List BitfieldTableEntry) (o : Outcome)
      (listOut : Bool) (includeDevices : Int) (p : Process δ)
  | getBitfields (tables : List BitfieldTableEntry) (o : Outcome)
      (listOut : Bool) (includeDevices : Int) (p : Process δ)
  | find (H : Host δ) (tables : List BitfieldTableEntry) (c : FindCall)
      (p : Process δ)

def faultOf {α : Type} : Except Fault α → Option Fault
  | .error e => some e
  | .ok _ => none

/-- The fault the call runs into. -/
def ListCall.fault : ListCall δ → Option Fault
  | .findBitfields P a heap dev info list =>
      faultOf (Stack.findBitfields P a heap dev info list)
  | .parseResults a heap listInIoctls listInMatches listOut =>
      faultOf (Stack.breakoutParseResults a heap listInIoctls
        listInMatches listOut)
  | .parseResultsValue a heap listInMatches listOut =>
      faultOf (Stack.breakoutParseResultsValue a heap listInMatches
        listOut)
  | .sortIoctls P a dev internalList listOut =>
      faultOf (Stack.breakoutSortIoctls P a dev internalList listOut)
  | .getGroups tables o listOut includeDevices p =>
      faultOf (msGetGroups tables o listOut includeDevices p)
  | .getRegisters tables o listOut includeDevices p =>
      faultOf (msGetRegisters tables o listOut includeDevices p)
  | .getBitfields tables o listOut includeDevices p =>
      faultOf (msGetBitfields tables o listOut includeDevices p)
  | .find H tables c p => faultOf (c.run H tables p)

/-- The pointers the function checks are set, and the ioctl results it
decodes are not none. -/
def ListCall.Sound : ListCall δ → Prop
  | .findBitfields P a heap dev info list =>
      list ≠ none ∧ ∃ i, info = some i
        ∧ (i.calcValid = 0 → SomeRead P a heap dev i)
  | .parseResults _ _ listInIoctls listInMatches listOut =>
      listInIoctls ≠ none ∧ listInMatches ≠ none ∧ listOut ≠ none
        ∧ listInIoctls ≠ some []
  | .parseResultsValue _ _ listInMatches listOut =>
      listInMatches ≠ none ∧ listOut ≠ none
  | .sortIoctls _ _ _ internalList listOut =>
      internalList ≠ none ∧ listOut ≠ none
  | .getGroups _ _ listOut _ _ => listOut = true
  | .getRegisters _ _ listOut _ _ => listOut = true
  | .getBitfields _ _ listOut _ _ => listOut = true
  | .find H tables c p => c.args.resultsOut = true ∧ c.Reads H tables p

theorem faultOf_ne {α : Type} {x : Except Fault α} {e : Fault} :
    faultOf x ≠ some e ↔ x ≠ .error e := by
  cases x <;> simp [faultOf]

theorem orFault_ne {α : Type} (x : Option α) :
    orFault x ≠ .error .uninitialised := by
  cases x <;> simp

/-- Every list a call frees is initialised exactly when its pointers are
set and what it decodes is not empty. -/
theorem lists_initialised_iff (c : ListCall δ) :
    c.fault ≠ some .uninitialised ↔ c.Sound := by
  cases c with
  | findBitfields P a heap dev info list =>
      rw [ListCall.fault, faultOf_ne]
      cases list with
      | none => cases info <;> simp [ListCall.Sound, Stack.findBitfields,
          Stack.findDone, msListFree]
      | some list =>
          cases info with
          | none => simp [ListCall.Sound, Stack.findBitfields,
              Stack.findDone, msListFree]
          | some info =>
              rw [ne_eq, findBitfields_fault, ListCall.Sound]
              simp
  | parseResults a heap listInIoctls listInMatches listOut =>
      rw [ListCall.fault, faultOf_ne]
      match listInIoctls, listInMatches, listOut with
      | some [], some _, some _ =>
          simp [ListCall.Sound, Stack.breakoutParseResults_empty]
      | some (x :: xs), some reqs, some out =>
          rw [Stack.breakoutParseResults_eq a heap (by simp)]
          exact iff_of_true (orFault_ne _) (by simp [ListCall.Sound])
      | none, _, _ => simp [ListCall.Sound, Stack.breakoutParseResults,
          Stack.ParseLists.free, msListFree]
      | some _, none, _ => simp [ListCall.Sound,
          Stack.breakoutParseResults, Stack.ParseLists.free, msListFree]
      | some _, some _, none => simp [ListCall.Sound,
          Stack.breakoutParseResults, Stack.ParseLists.free, msListFree]
  | parseResultsValue a heap listInMatches listOut =>
      rw [ListCall.fault, faultOf_ne]
      match listInMatches, listOut with
      | some reqs, some out =>
          rw [Stack.breakoutParseResultsValue_eq]
          exact iff_of_true (orFault_ne _) (by simp [ListCall.Sound])
      | none, _ => simp [ListCall.Sound, Stack.breakoutParseResultsValue,
          Stack.ParseLists.free, msListFree]
      | some _, none => simp [ListCall.Sound,
          Stack.breakoutParseResultsValue, Stack.ParseLists.free,
          msListFree]
  | sortIoctls P a dev internalList listOut =>
      rw [ListCall.fault, faultOf_ne]
      match internalList, listOut with
      | some reqs, some out =>
          rw [Stack.breakoutSortIoctls_eq]
          simp [ListCall.Sound]
      | none, _ => simp [ListCall.Sound, Stack.breakoutSortIoctls,
          msListFree]
      | some _, none => simp [ListCall.Sound, Stack.breakoutSortIoctls,
          msListFree]
  | getGroups tables o listOut includeDevices p =>
      rw [ListCall.fault, faultOf_ne]
      exact msGet_fault
  | getRegisters tables o listOut includeDevices p =>
      rw [ListCall.fault, faultOf_ne]
      exact msGet_fault
  | getBitfields tables o listOut includeDevices p =>
      rw [ListCall.fault, faultOf_ne]
      exact msGet_fault
  | find H tables c p =>
      rw [ListCall.fault, faultOf_ne]
      exact c.run_fault p

/-- Nothing is recorded of a device that answers nothing. -/
theorem nullHost_records_nothing (msFd : Int) (a : Alloc)
    (heap : List BitfieldInfoHeap) (info : MatchInfo) :
    ¬ SomeRead (nullHost.platform msFd) a heap () info := by
  intro hcase
  rcases hcase with ⟨pre, u, post, -, hanswer, -⟩
    | ⟨pre, u, post, -, hanswer, -⟩
  · unfold driverResults at hanswer
    split at hanswer <;> cases hanswer
  · cases hanswer

theorem identCall_fails (tables : List BitfieldTableEntry) :
    ¬ (identCall {}).Reads nullHost tables ⟨{}, -1, {}, ()⟩ := by
  have hmade : (identCall {}).request.isSome = true := by
    decide +kernel
  obtain ⟨info, hinfo⟩ := Option.isSome_iff_exists.1 hmade
  intro hreads
  unfold FindCall.Reads at hreads
  dsimp only at hreads
  rw [loadTables_ok rfl] at hreads
  exact nullHost_records_nothing _ _ _ _
    (hreads rfl rfl (by decide) info hinfo _ rfl)

/-- A search of the shipped tables on a device that answers nothing. -/
theorem lists_initialised_fails :
    ¬ ∀ c : ListCall Unit, c.fault ≠ some .uninitialised := by
  intro h
  have hfault := h (.find nullHost bitfieldTable (identCall {})
    ⟨{}, -1, {}, ()⟩)
  rw [ListCall.fault, faultOf_ne, FindCall.run_fault] at hfault
  exact identCall_fails bitfieldTable hfault.2

end Maplesyrup
