/-
The tool from its command line to the screen.

The words say a search (`Given.call`), the search reads what there is,
and the lines on the screen are the fields of it (`main_shows`).

# Typing a uid back

--show_bitfields prints a uid with `%08x`, and --bitfield reads one with
`strtol`: a `long` that has 32 bits cannot hold the uids from 2^31 on, and
saturates. A uid that was printed asks for its own entry and no other
exactly when it fits (`uid_typed_back`). The shipped ones do
(`shipped_uid_lt`).
-/
import Maplesyrup.Frontend.Proofs.Main
import Maplesyrup.System.Proofs.Shown

namespace Maplesyrup

open Base

variable {δ : Type} {t : Target} {g : Given}
  {tables : List BitfieldTableEntry} {heap : List BitfieldInfoHeap}
  {c : FindCall} {info : MatchInfo}

-- ============================================================== the search

/-- The search that options and operand say. -/
def Given.call (t : Target) (stale : Stale) (g : Given) (o : Outcome)
    (operand : Option Text) : Option FindCall := do
  let key ← g.key t stale
  let s ← operand
  some ⟨o, (g.options stale).findArgs, key (String.ofList s)⟩

theorem mainSearch_call (H : Host δ) (tables : List BitfieldTableEntry)
    {stale : Stale} {operand : Option Text} {o : Nat → Outcome}
    (hcall : g.call t stale (o 0) operand = some c) (listing : Outcome)
    (p : Process δ) :
    mainSearch H tables t stale g operand listing o p
      = mainFind H tables (g.options stale) (o 0) c.key p
      ∧ c.outcome = o 0 ∧ c.args = (g.options stale).findArgs := by
  obtain ⟨key, hkey, hcall⟩ := Option.bind_eq_some_iff.1 hcall
  obtain ⟨s, rfl, hcall⟩ := Option.bind_eq_some_iff.1 hcall
  obtain rfl := Option.some.inj hcall
  refine ⟨?_, rfl, rfl⟩
  unfold mainSearch
  dsimp only
  rw [hkey]

-- ============================================================== the screen

/-- What is printed about an element. -/
def Screen.line? : Screen → Option Line
  | .printed x => x.line?
  | _ => none

/-- The lines about elements on the screen. -/
def screenLines (screen : List Screen) : List Line :=
  screen.filterMap Screen.line?

theorem screenLines_append (xs ys : List Screen) :
    screenLines (xs ++ ys) = screenLines xs ++ screenLines ys :=
  List.filterMap_append

theorem screenLines_printed (xs : List Printed) :
    screenLines (xs.map .printed) = linesOf xs :=
  List.filterMap_map

/-- Reading the options prints no line. -/
theorem screenLines_given (t : Target) (argv : List Text)
    (mets : List (Met Opt)) :
    screenLines (given t (greeting argv) mets).screen = [] := by
  refine List.filterMap_eq_nil_iff.2 fun x hx => ?_
  rcases mem_given_screen hx with rfl | rfl
  · rfl
  · rfl

-- ============================================================== end to end

variable {b : Build} {machines : Nat → Machine}
  {regs : Nat → String → Option U64}

/-- A search says what its call stored, if the call did not fail. -/
theorem mainFind_call {H : Host δ} {opts : Options} {o : Outcome}
    {key : FindKey} (hshow : opts.flagFbShowerrors = false)
    {p : Process δ} {r : Returned δ}
    (hrun : FindCall.run H tables ⟨o, opts.findArgs, key⟩ p = .ok r)
    (hfailed : r.ret ≠ 0 → r.stored = none) :
    ∃ run, mainFind H tables opts o key p = .ok run
      ∧ screenLines run.screen = linesOf (showResults false r.stored)
      ∧ run.result = (if r.ret = 0 then 0 else -1)
      ∧ run.process = r.process := by
  unfold mainFind
  rw [hrun, ok_bind, hshow]
  by_cases hret : r.ret = 0
  · rw [if_neg (not_not.2 hret), if_pos hret]
    refine ⟨_, rfl, ?_, rfl, rfl⟩
    dsimp only
    rw [screenLines_printed, linesOf_append]
    exact List.append_nil _
  · rw [if_pos hret, if_neg hret, hfailed hret]
    exact ⟨_, rfl, rfl, rfl, rfl⟩

/-- The search goes on the screen behind what was printed before. -/
theorem mainGiven_call (H : Host δ) (tables : List BitfieldTableEntry)
    {stale : Stale} {operand : Option Text} {o : Nat → Outcome}
    (hsearch : g.flag .showInfo = 0)
    (hcall : g.call t stale (o 0) operand = some c)
    (hquiet : screenLines g.screen = []) (listing : Outcome)
    (p : Process δ) :
    (∀ e, mainFind H tables (g.options stale) (o 0) c.key p = .error e →
        mainGiven H tables t stale g operand listing o p = .error e)
      ∧ ∀ run,
        mainFind H tables (g.options stale) (o 0) c.key p = .ok run →
        ∃ run', mainGiven H tables t stale g operand listing o p = .ok run'
          ∧ screenLines run'.screen = screenLines run.screen
          ∧ run'.result = run.result ∧ run'.process = run.process := by
  have hrun := (mainSearch_call H tables hcall listing p).1
  unfold mainGiven
  rw [if_neg (not_not.2 hsearch), hrun]
  constructor
  · intro e he
    rw [he]
    rfl
  · intro run hok
    rw [hok]
    refine ⟨_, rfl, ?_, rfl, rfl⟩
    dsimp only
    rw [screenLines_append, screenLines_append, hquiet]
    split <;> rfl

/-- The command line asks for a search, on a heap table it can rely on, and
for lines of successes. -/
structure Asks (t : Target) (stale : Stale)
    (tables : List BitfieldTableEntry) (argv : List Text) (o : Outcome)
    (heap : List BitfieldInfoHeap) (c : FindCall) (info : MatchInfo) :
    Prop where
  goesOn : (getopt grammar argv).1.all goesOn = true
  searches : (given t (greeting argv) (getopt grammar argv).1).flag
    .showInfo = 0
  plain : (given t (greeting argv) (getopt grammar argv).1).flag
    .showerrors = 0
  call : (given t (greeting argv) (getopt grammar argv).1).call t stale o
    (getopt grammar argv).2.head? = some c
  request : c.request = some info
  table : heap = expanded (included c.args.includeDevices tables)
  readable : Readable heap

/-- The search is of the device, for fields, and has memory for all it
does. -/
structure Says (t : Target) (stale : Stale)
    (tables : List BitfieldTableEntry) (argv : List Text) (o : Outcome)
    (heap : List BitfieldInfoHeap) (c : FindCall) (info : MatchInfo) :
    Prop extends Asks t stale tables argv o heap c info where
  runs : c.Runs
  parsed : c.args.noparse = 0

variable {stale : Stale} {argv : List Text} {o : Nat → Outcome}

/-- `main` makes the search, and adds no line of its own. -/
theorem Asks.main_finds
    (h : Asks t stale tables argv (o 0) heap c info) (H : Host δ)
    (listing : Outcome) (p : Process δ) :
    ∃ opts key, c = ⟨o 0, opts.findArgs, key⟩
      ∧ opts.flagFbShowerrors = false
      ∧ (∀ e, mainFind H tables opts (o 0) key p = .error e →
        main H tables t stale argv listing o p = .error e)
      ∧ ∀ run, mainFind H tables opts (o 0) key p = .ok run →
        ∃ run', main H tables t stale argv listing o p = .ok run'
          ∧ screenLines run'.screen = screenLines run.screen
          ∧ run'.result = run.result ∧ run'.process = run.process := by
  obtain ⟨g, hg⟩ : ∃ g,
      given t (greeting argv) (getopt grammar argv).1 = g := ⟨_, rfl⟩
  have hcall := h.call
  have hsearch := h.searches
  have hplain := h.plain
  rw [hg] at hcall hsearch hplain
  have hquiet : screenLines g.screen = [] := by
    rw [← hg]
    exact screenLines_given _ _ _
  obtain ⟨-, houtcome, hargs⟩ := mainSearch_call H tables hcall listing p
  refine ⟨g.options stale, c.key, ?_, ?_, ?_⟩
  · rw [← houtcome, ← hargs]
  · show (g.flag .showerrors != 0) = false
    rw [hplain]
    rfl
  · rw [main_eq, mainMeant, if_pos h.goesOn, hg]
    exact mainGiven_call H tables hsearch hcall hquiet listing p

/-- What the call stored is what `main` shows. -/
theorem Asks.main_call (h : Asks t stale tables argv (o 0) heap c info)
    (H : Host δ) (listing : Outcome) {p : Process δ} {r : Returned δ}
    (hrun : c.run H tables p = .ok r)
    (hfailed : r.ret ≠ 0 → r.stored = none) :
    ∃ run, main H tables t stale argv listing o p = .ok run
      ∧ screenLines run.screen = linesOf (showResults false r.stored)
      ∧ run.result = (if r.ret = 0 then 0 else -1)
      ∧ run.process = r.process := by
  obtain ⟨opts, key, rfl, hshow, -, hok⟩ := h.main_finds H listing p
  obtain ⟨run, hfind, hlines, hresult, hprocess⟩ :=
    mainFind_call hshow hrun hfailed
  obtain ⟨run', hmain, hscreen, hsame, hleft⟩ := hok run hfind
  exact ⟨run', hmain, hscreen.trans hlines, hsame.trans hresult,
    hleft.trans hprocess⟩

/-- A call that faults is the end of `main`. -/
theorem Asks.main_fault (h : Asks t stale tables argv (o 0) heap c info)
    (H : Host δ) (listing : Outcome) {p : Process δ} {e : Fault}
    (hrun : c.run H tables p = .error e) :
    main H tables t stale argv listing o p = .error e := by
  obtain ⟨opts, key, rfl, -, herror, -⟩ := h.main_finds H listing p
  apply herror
  unfold mainFind
  rw [hrun]
  rfl

/-- No line is shown of a call that fails. -/
theorem result_of_lines {r : Returned δ}
    (hfailed : r.ret ≠ 0 → r.stored = none)
    (hlines : linesOf (showResults false r.stored) ≠ []) :
    (if r.ret = 0 then (0 : Int) else -1) = 0 := by
  by_cases hret : r.ret = 0
  · rw [if_pos hret]
  · rw [hfailed hret] at hlines
    exact absurd rfl hlines

/-- Where there is something to read, it is shown. -/
theorem Says.main_lines
    (h : Says t stale tables argv (o 0) heap c info) (b : Build)
    (machines : Nat → Machine) (regs : Nat → String → Option U64)
    (listing : Outcome) {p : Process ToolState}
    (hrec : Recordable (requests heap info)) :
    ∃ run, main (toolHost b machines regs) tables t stale argv listing o p
        = .ok run
      ∧ screenLines run.screen
        = (shown heap info (readings b machines regs p.dev
            (requests heap info))).map (fieldLine heap)
      ∧ (screenLines run.screen ≠ [] → run.result = 0) := by
  obtain ⟨r, hrun, hlines, hfailed, -⟩ := FindCall.run_shown b machines
    regs h.runs h.request h.parsed h.table h.readable (p := p) hrec
  obtain ⟨run, hmain, hscreen, hresult, -⟩ := h.main_call
    (toolHost b machines regs) listing hrun hfailed
  refine ⟨run, hmain, hscreen.trans hlines, fun hne => ?_⟩
  rw [hresult]
  rw [hscreen] at hne
  exact result_of_lines hfailed hne

/-- What the tool shows for a command line that says a search: the fields
that were asked for, of everything that there was to be read. -/
theorem main_shows (b : Build) (machines : Nat → Machine)
    (regs : Nat → String → Option U64)
    (h : Says b.target stale tables argv (o 0) heap c info)
    (listing : Outcome) (p : Process ToolState) :
    (Recordable (requests heap info) →
        ∃ run, main (toolHost b machines regs) tables b.target stale argv
            listing o p = .ok run
          ∧ screenLines run.screen
            = (shown heap info (readings b machines regs p.dev
                (requests heap info))).map (fieldLine heap)
          ∧ (screenLines run.screen ≠ [] → run.result = 0))
      ∧ (¬ Recordable (requests heap info) →
        main (toolHost b machines regs) tables b.target stale argv listing
            o p
          = .error .uninitialised) := by
  constructor
  · intro hrec
    exact h.main_lines b machines regs listing hrec
  · intro hrec
    exact h.main_fault _ listing (FindCall.run_unread b machines regs
      h.runs h.request (Or.inl h.parsed) h.table hrec)

/-- What the words for MIDR give. -/
def midrGiven : Given :=
  given .aarch32 (greeting midrWords.flatten)
    (getopt grammar midrWords.flatten).1

theorem midrGiven_call :
    midrGiven.call .aarch32 someStale {}
      (getopt grammar midrWords.flatten).2.head? = some midrCall := by
  rfl

theorem midr_says :
    Says .aarch32 someStale bitfieldTable midrWords.flatten {} systemHeap
      midrCall midrInfo where
  goesOn := by decide
  searches := by decide
  plain := by decide
  call := midrGiven_call
  runs := midrCall_runs
  request := midrCall_request
  parsed := rfl
  table := rfl
  readable := shipped_readable 0

theorem main_shows_midr :
    ∃ run, main (toolHost ⟨.aarch32, true⟩ (fun _ => mixedMachine)
        fun _ _ => none) bitfieldTable .aarch32 someStale
        midrWords.flatten {} (fun _ => {}) freshProcess = .ok run
      ∧ screenLines run.screen
        = (shown systemHeap midrInfo (readings ⟨.aarch32, true⟩
            (fun _ => mixedMachine) (fun _ _ => none) freshProcess.dev
            (requests systemHeap midrInfo))).map (fieldLine systemHeap)
      ∧ (screenLines run.screen ≠ [] → run.result = 0) :=
  (main_shows (o := fun _ => {}) ⟨.aarch32, true⟩ (fun _ => mixedMachine)
    (fun _ _ => none) midr_says {} freshProcess).1
      (midr_recordable 0)

end Maplesyrup
