/-
Is SIGILL's disposition given back? Over any sequence of searches.

Between `start_test` and `stop_test` a search leaves the signals and
the descriptor alone, so a call does to them what these two do
(`msFind_signals`). `stop_test` goes by the descriptor: when `open`
fails there is none, and the handler installed a moment before stays,
to be saved as the original by the next call.
-/
import Maplesyrup.Base.Except
import Maplesyrup.Base.Run
import Maplesyrup.Library.Find

namespace Maplesyrup

open Base

variable {δ : Type} {H : Host δ} {tables : List BitfieldTableEntry}

-- =========================================================== one search

/-- The cleanup of a search, where it comes to an end. -/
theorem findDone_eq {device : Bool} {o : Outcome}
    {list : StackList BitfieldInfoPopulated} {ret : Int}
    {stored : Option (List MsBitfieldInfo)} {p : Process δ}
    {r : Returned δ} (h : findDone device o list ret stored p = .ok r) :
    r.process.signals = (if device then stopTest o p else p).signals
      ∧ r.process.msFd = (if device then stopTest o p else p).msFd := by
  unfold findDone at h
  obtain ⟨_, -, h⟩ := bind_eq_ok.1 h
  cases h
  exact ⟨rfl, rfl⟩

/-- What a search undoes depends on the signals and the descriptor
only. -/
theorem stopTest_congr (o : Outcome) {p q : Process δ}
    (hs : p.signals = q.signals) (hfd : p.msFd = q.msFd) :
    (stopTest o p).signals = (stopTest o q).signals
      ∧ (stopTest o p).msFd = (stopTest o q).msFd := by
  unfold stopTest
  rw [hfd]
  split
  · exact ⟨hs, hfd⟩
  · rw [hs]
    exact ⟨rfl, rfl⟩

theorem findRequest_signals {device : Bool} {o : Outcome}
    {info : MatchInfo} {includeDevices : Int}
    {list : List BitfieldInfoPopulated} {p : Process δ} {r : Returned δ}
    (h : findRequest H tables device o info includeDevices list p
      = .ok r) :
    r.process.signals = (if device then stopTest o p else p).signals
      ∧ r.process.msFd = (if device then stopTest o p else p).msFd := by
  unfold findRequest at h
  obtain ⟨heap, -, h⟩ := bind_eq_ok.1 h
  obtain ⟨⟨⟨n, l, a⟩, dev⟩, -, h⟩ := bind_eq_ok.1 h
  have hkeep : ∀ {ret : Int} {stored : Option (List MsBitfieldInfo)},
      findDone device o (some l) ret stored
          { p with
            tables := (readTablesToMemory o.alloc tables includeDevices
              p.tables).2.1
            dev := dev } = .ok r →
        r.process.signals = (if device then stopTest o p else p).signals
          ∧ r.process.msFd
            = (if device then stopTest o p else p).msFd := by
    intro ret stored hdone
    obtain ⟨hs, hfd⟩ := findDone_eq hdone
    rw [hs, hfd]
    cases device with
    | false => exact ⟨rfl, rfl⟩
    | true => exact stopTest_congr o rfl rfl
  dsimp only at h
  split at h
  · exact hkeep h
  · split at h
    · exact hkeep h
    · exact hkeep h

theorem findStarted_signals {o : Outcome} {args : FindArgs}
    {calcValue : Option String}
    {setKey : MatchInfo → Except Fault MatchInfo} {started : Int}
    {p : Process δ} {r : Returned δ}
    (h : findStarted H tables o args calcValue setKey started p = .ok r) :
    let q := if calcValue.isNone then stopTest o p else p
    r.process.signals = q.signals ∧ r.process.msFd = q.msFd := by
  unfold findStarted at h
  dsimp only at h ⊢
  split at h
  · exact findDone_eq h
  · split at h
    · exact findDone_eq h
    · obtain ⟨info, -, h⟩ := bind_eq_ok.1 h
      exact findRequest_signals h

/-- A search leaves the signals and the descriptor as `start_test` and
`stop_test` do between them. -/
theorem msFind_signals {o : Outcome} {args : FindArgs}
    {calcValue : Option String}
    {setKey : MatchInfo → Except Fault MatchInfo} {p : Process δ}
    {r : Returned δ}
    (h : msFind H tables o args calcValue setKey p = .ok r) :
    let q := if calcValue.isNone then stopTest o (startTest H o p).2
      else p
    r.process.signals = q.signals ∧ r.process.msFd = q.msFd := by
  unfold msFind at h
  split at h
  · cases calcValue with
    | none => exact findStarted_signals h
    | some s => exact findStarted_signals h
  · -- the list is freed uninitialised
    unfold findDone at h
    obtain ⟨_, hfree, -⟩ := bind_eq_ok.1 h
    cases hfree

theorem FindCall.run_signals {c : FindCall} {p : Process δ}
    {r : Returned δ} (h : c.run H tables p = .ok r) :
    let q := if c.key.calcValue.isNone then
        stopTest c.outcome (startTest H c.outcome p).2
      else p
    r.process.signals = q.signals ∧ r.process.msFd = q.msFd := by
  rw [FindCall.run_eq] at h
  exact msFind_signals h

-- ======================================================== sequences of them

/-- The process after a call, where the call comes to an end. -/
def findStep (H : Host δ) (tables : List BitfieldTableEntry)
    (p : Process δ) (c : FindCall) : Option (Process δ) :=
  (c.run H tables p).toOption.map (·.process)

theorem findStep_some {p q : Process δ} {c : FindCall}
    (h : findStep H tables p c = some q) :
    ∃ r, c.run H tables p = .ok r ∧ r.process = q := by
  unfold findStep at h
  cases hrun : c.run H tables p with
  | error e => simp [hrun, Except.toOption] at h
  | ok r =>
      refine ⟨r, rfl, ?_⟩
      simpa [hrun, Except.toOption] using h

/-- SIGILL is dealt with as before, and the library has nothing open. -/
structure Restored (before : Disposition) (p : Process δ) : Prop where
  sigill : p.signals.sigill = before
  msRegHandlers : p.signals.msRegHandlers = -1
  msFd : p.msFd = -1

/-- The call does not install the handler, or it opens the device and
gives the disposition back, if there is another to give back. -/
def FindCall.Restores (p : Process δ) (c : FindCall) : Prop :=
  c.key.calcValue = none → c.outcome.register = true →
    c.outcome.opened ≠ -1
      ∧ (c.outcome.restore = true
        ∨ p.signals.sigill = .msSignalHandler)

instance (p : Process δ) (c : FindCall) : Decidable (c.Restores p) :=
  inferInstanceAs (Decidable (_ → _ → _ ∧ (_ ∨ _)))

theorem startTest_unregistered {o : Outcome} (h : o.register = false)
    (p : Process δ) :
    (startTest H o p).2
      = { p with signals := { p.signals with savedSigaction := .sigDfl } } := by
  simp [startTest, registerSignalHandlers, h]

/-- With the handler installed, whether or not the device opens. -/
theorem startTest_registered {o : Outcome} (h : o.register = true)
    (p : Process δ) :
    (startTest H o p).2
      = { p with
          signals := ⟨.msSignalHandler, p.signals.sigill, 0⟩
          dev := H.clearIllsig p.dev
          msFd := o.opened } := by
  unfold startTest registerSignalHandlers
  rw [h]
  by_cases hopen : o.opened = -1
  · simp [hopen]
  · simp [hopen]

/-- After a search that installed the handler. -/
theorem restored_stopTest_iff {before : Disposition} {o : Outcome}
    {p : Process δ} (hp : Restored before p) (dev : δ) :
    Restored before (stopTest o { p with
        signals := ⟨.msSignalHandler, p.signals.sigill, 0⟩
        dev := dev
        msFd := o.opened })
      ↔ o.opened ≠ -1
        ∧ (o.restore = true ∨ p.signals.sigill = .msSignalHandler) := by
  obtain ⟨hsigill, hreg, hclosed⟩ := hp
  unfold stopTest
  by_cases hopen : o.opened = -1
  · -- nothing is open, so nothing is undone
    rw [if_pos hopen]
    refine iff_of_false (fun h => ?_) (fun h => h.1 hopen)
    have hzero : (0 : Int) = -1 := h.msRegHandlers
    omega
  · rw [if_neg hopen]
    constructor
    · intro h
      refine ⟨hopen, ?_⟩
      cases hrestore : o.restore with
      | true => exact Or.inl rfl
      | false =>
          have hkept := h.sigill
          simp only [restoreSignalHandlers, hrestore] at hkept
          exact Or.inr (hsigill.trans hkept.symm)
    · intro hall
      obtain ⟨-, hback⟩ := hall
      refine ⟨?_, rfl, rfl⟩
      cases hrestore : o.restore with
      | true => exact hsigill
      | false =>
          rw [hrestore] at hback
          rcases hback with h | h
          · cases h
          · exact h.symm.trans hsigill

/-- A call gives the disposition back exactly when it is one of these. -/
theorem restored_step_iff {before : Disposition} {p q : Process δ}
    {c : FindCall} (hp : Restored before p)
    (hstep : findStep H tables p c = some q) :
    Restored before q ↔ c.Restores p := by
  obtain ⟨r, hrun, rfl⟩ := findStep_some hstep
  obtain ⟨hs, hfd⟩ := FindCall.run_signals hrun
  have hq : Restored before r.process ↔ Restored before
      (if c.key.calcValue.isNone then
        stopTest c.outcome (startTest H c.outcome p).2
      else p) := by
    constructor
    · intro hall
      obtain ⟨h1, h2, h3⟩ := hall
      exact ⟨hs ▸ h1, hs ▸ h2, hfd ▸ h3⟩
    · intro hall
      obtain ⟨h1, h2, h3⟩ := hall
      exact ⟨hs.symm ▸ h1, hs.symm ▸ h2, hfd.symm ▸ h3⟩
  rw [hq]
  unfold FindCall.Restores
  cases hcalc : c.key.calcValue with
  | some s =>
      refine iff_of_true ?_ (fun h => by cases h)
      exact hp
  | none =>
      simp only [Option.isNone_none, ↓reduceIte, forall_const]
      cases hregister : c.outcome.register with
      | false =>
          refine iff_of_true ?_ (fun h => by cases h)
          obtain ⟨hsigill, hreg, hclosed⟩ := hp
          rw [startTest_unregistered hregister]
          unfold stopTest
          rw [if_pos hclosed]
          exact ⟨hsigill, hreg, hclosed⟩
      | true =>
          rw [startTest_registered hregister]
          refine (restored_stopTest_iff hp _).trans ?_
          exact ⟨fun h _ => h, fun h => h rfl⟩

/-- Every call of a sequence gives the disposition back exactly when each
does: where it installs the handler, `open` succeeds, and so does the
restoring `sigaction` unless the handler was in force before. -/
theorem signals_restored_iff (H : Host δ)
    (tables : List BitfieldTableEntry) {p : Process δ}
    (hreg : p.signals.msRegHandlers = -1) (hfd : p.msFd = -1)
    (calls : List FindCall) :
    Throughout (findStep H tables) (Restored p.signals.sigill) p calls
      ↔ Guarded (findStep H tables) (fun q c => c.Restores q) p calls :=
  throughout_iff_guarded (fun _ h => h)
    (fun _ _ _ hs hsafe hstep => (restored_step_iff hs hstep).2 hsafe)
    (fun _ _ _ hs hsafe hstep h =>
      hsafe ((restored_step_iff hs hstep).1 h))
    calls ⟨rfl, hreg, hfd⟩

/-- A host without a device. -/
def nullHost : Host Unit :=
  ⟨fun _ _ b => (-1, b, ()), fun _ _ d => (-1, d, ()), fun _ => ()⟩

/-- A search for the identification registers, as the shipped tool makes
it. -/
def identCall (o : Outcome) : FindCall :=
  ⟨o, ⟨some "armv7a", some "all", -1, preferredPl, 0, 0, true⟩,
    .group (some "ident")⟩

/-- The device cannot be opened: the handler stays. -/
theorem signals_restored_fails :
    ¬ ∀ (tables : List BitfieldTableEntry) (p : Process Unit)
        (calls : List FindCall), p.signals.msRegHandlers = -1 →
        p.msFd = -1 →
        Throughout (findStep nullHost tables)
          (Restored p.signals.sigill) p calls := by
  intro h
  have hrun := h [] ⟨{}, -1, {}, ()⟩ [identCall { opened := -1 }] rfl rfl
  have hafter : Restored .sigDfl
      (⟨⟨.msSignalHandler, .sigDfl, 0⟩, -1, {}, ()⟩ : Process Unit) :=
    hrun.2 _ rfl
  exact absurd hafter.sigill (by decide)

/-- A host whose device answers, and one register in the group. -/
def answeringHost : Host Unit :=
  ⟨fun _ _ b => (0, b, ()), fun _ _ d => (-1, d, ()), fun _ => ()⟩

def identTables : List BitfieldTableEntry := [
  ⟨.arch, archArmv7a,
    [⟨1, 0, MsSysreg.MIDR, nsPrivilegeLevel1, 0, 4, "Revision", "ident",
      "MIDR", "Revision number"⟩]⟩]

/-- Two calls that open the device, and one that opens it before one that
does not. All of them return. -/
theorem signals_restored_iff_ident :
    let step := findStep answeringHost identTables
    let p : Process Unit := ⟨{}, -1, {}, ()⟩
    (run step p [identCall {}, identCall {}]).isSome = true
      ∧ Throughout step (Restored .sigDfl) p [identCall {}, identCall {}]
      ∧ (run step p [identCall {}, identCall { opened := -1 }]).isSome = true
      ∧ ¬ Throughout step (Restored .sigDfl) p
        [identCall {}, identCall { opened := -1 }] := by
  intro step p
  have hiff := fun calls => signals_restored_iff answeringHost identTables
    (p := p) rfl rfl calls
  refine ⟨by decide +kernel, (hiff _).2 (by decide +kernel),
    by decide +kernel, fun h => ?_⟩
  exact absurd ((hiff _).1 h) (by decide +kernel)

end Maplesyrup
