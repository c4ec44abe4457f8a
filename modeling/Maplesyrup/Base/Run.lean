/-
Runs of a guarded step function: `step s e` is the state after event `e`
where the event can happen in `s`, and nothing where it cannot. Events
of several parties in one list are one interleaving of theirs.

Two ways of speaking of every state of a run are compared here: that
each step the run takes met a condition (`Guarded`), and that each state
it visits has a property (`Throughout`). The rules say what one step has
to preserve for the first to give the second, and when the two are the
same. A run whose events are all `Legal` gets to its end when every legal
event can happen; `Legal.simulates` carries it over to a more abstract
machine.

What a run amounts to is counted up over its steps (`tally`): a quantity
of the state whose change is accounted for at each step is accounted for
over the run, and a log to which each step adds what it puts out is what
the run put out.
-/
import Mathlib

namespace Maplesyrup.Base

variable {σ ε : Type*} {step : σ → ε → Option σ}

/-- The state after a list of events, if each could happen. -/
def run (step : σ → ε → Option σ) : σ → List ε → Option σ
  | s, [] => some s
  | s, e :: es => (step s e).bind fun t => run step t es

/-- Every step the run takes meets the condition. -/
def Guarded (step : σ → ε → Option σ) (safe : σ → ε → Prop) :
    σ → List ε → Prop
  | _, [] => True
  | s, e :: es =>
      ∀ t, step s e = some t → safe s e ∧ Guarded step safe t es

/-- A run can be watched step by step. -/
instance Guarded.decidable {safe : σ → ε → Prop}
    [∀ s e, Decidable (safe s e)] :
    ∀ s es, Decidable (Guarded step safe s es)
  | _, [] => isTrue trivial
  | s, e :: es =>
      match hstep : step s e with
      | none => isTrue fun t ht => by simp [hstep] at ht
      | some t =>
          have hrest : Decidable (Guarded step safe t es) :=
            Guarded.decidable t es
          decidable_of_iff (safe s e ∧ Guarded step safe t es)
            ⟨fun h u hu => Option.some.inj (hstep.symm.trans hu) ▸ h,
              fun h => h t hstep⟩

/-- Every state the run visits has the property. -/
def Throughout (step : σ → ε → Option σ) (P : σ → Prop) :
    σ → List ε → Prop
  | s, [] => P s
  | s, e :: es => P s ∧ ∀ t, step s e = some t → Throughout step P t es

variable {safe : σ → ε → Prop} {Inv P : σ → Prop}

@[simp] theorem run_nil (s : σ) : run step s [] = some s := rfl

theorem run_cons {s t : σ} (e : ε) (es : List ε)
    (h : step s e = some t) : run step s (e :: es) = run step t es := by
  rw [run, h]
  rfl

/-- What holds after a run held before it, or one of its events brought
it about. -/
theorem run_found {Q : σ → Prop} (hit : ε → Prop)
    (hstep : ∀ s e t, step s e = some t → (Q t ↔ Q s ∨ hit e))
    {s t : σ} {es : List ε} (hrun : run step s es = some t) :
    Q t ↔ Q s ∨ ∃ e ∈ es, hit e := by
  induction es generalizing s with
  | nil =>
      rw [run_nil] at hrun
      rw [← Option.some.inj hrun]
      simp
  | cons e es ih =>
      rw [run, Option.bind_eq_some_iff] at hrun
      obtain ⟨u, hu, hrun⟩ := hrun
      rw [ih hrun, hstep s e u hu, or_assoc]
      simp

theorem Guarded.cons {s t : σ} {e : ε} {es : List ε}
    (h : step s e = some t) (he : safe s e)
    (hes : Guarded step safe t es) : Guarded step safe s (e :: es) := by
  intro u hu
  rw [h] at hu
  rw [← Option.some.inj hu]
  exact ⟨he, hes⟩

/-- An invariant of the steps that meet a condition is one of the runs
that do. -/
theorem Guarded.invariant
    (hstep : ∀ s e t, Inv s → safe s e → step s e = some t → Inv t)
    {s t : σ} {es : List ε} (hs : Inv s)
    (hsafe : Guarded step safe s es) (hrun : run step s es = some t) :
    Inv t := by
  induction es generalizing s with
  | nil =>
      rw [run_nil] at hrun
      rwa [← Option.some.inj hrun]
  | cons e es ih =>
      rw [run, Option.bind_eq_some_iff] at hrun
      obtain ⟨u, hu, hrun⟩ := hrun
      obtain ⟨he, hsafe⟩ := hsafe u hu
      exact ih (hstep s e u hs he hu) hsafe hrun

/-- Where the invariant gives the property and every step outside the
condition loses it, the property holds throughout exactly the runs that
stay inside. -/
theorem throughout_iff_guarded (hprop : ∀ s, Inv s → P s)
    (hstep : ∀ s e t, Inv s → safe s e → step s e = some t → Inv t)
    (hlost : ∀ s e t, Inv s → ¬ safe s e → step s e = some t → ¬ P t)
    {s : σ} (es : List ε) (hs : Inv s) :
    Throughout step P s es ↔ Guarded step safe s es := by
  induction es generalizing s with
  | nil => exact ⟨fun _ => trivial, fun _ => hprop s hs⟩
  | cons e es ih =>
      constructor
      · rintro ⟨-, hrest⟩ t ht
        have hsafe : safe s e := by
          by_contra hbefore
          have hP : P t := by
            cases es with
            | nil => exact hrest t ht
            | cons f fs => exact (hrest t ht).1
          exact hlost s e t hs hbefore ht hP
        exact ⟨hsafe, (ih (hstep s e t hs hsafe ht)).1 (hrest t ht)⟩
      · intro hguard
        refine ⟨hprop s hs, fun t ht => ?_⟩
        obtain ⟨hsafe, hrest⟩ := hguard t ht
        exact (ih (hstep s e t hs hsafe ht)).2 hrest

-- ==================================================== runs that get through

/-- Every event of the list is legal where the run gets to it. -/
def Legal (step : σ → ε → Option σ) (legal : σ → ε → Prop) :
    σ → List ε → Prop
  | _, [] => True
  | s, e :: es =>
      legal s e ∧ ∀ t, step s e = some t → Legal step legal t es

section Simulation

variable {τ : Type*} {astep : τ → ε → τ} {R : σ → τ → Prop}
  {legal : σ → ε → Prop} {alegal : τ → ε → Prop}

/-- Steps that can happen where they are legal, in step with those of an
abstract machine: a legal run gets to its end, in step with that
machine's. -/
theorem Legal.simulates
    (hstep : ∀ s a e, R s a → legal s e →
      ∃ t, step s e = some t ∧ R t (astep a e))
    {s : σ} {a : τ} {es : List ε} (h : R s a)
    (hlegal : Legal step legal s es) :
    ∃ t, run step s es = some t ∧ R t (es.foldl astep a) := by
  induction es generalizing s a with
  | nil => exact ⟨s, rfl, h⟩
  | cons e es ih =>
      obtain ⟨he, hrest⟩ := hlegal
      obtain ⟨t, ht, hR⟩ := hstep s a e h he
      obtain ⟨u, hu, hend⟩ := ih hR (hrest t ht)
      exact ⟨u, (run_cons e es ht).trans hu, hend⟩

/-- What the abstract machine counts as legal is legal. -/
theorem Legal.of_abstract
    (hstep : ∀ s a e, R s a → legal s e →
      ∃ t, step s e = some t ∧ R t (astep a e))
    (hlegal : ∀ s a e, R s a → alegal a e → legal s e)
    {s : σ} {a : τ} {es : List ε} (h : R s a)
    (hes : Legal (fun a e => some (astep a e)) alegal a es) :
    Legal step legal s es := by
  induction es generalizing s a with
  | nil => exact trivial
  | cons e es ih =>
      obtain ⟨he, hrest⟩ := hes
      have hse := hlegal s a e h he
      obtain ⟨t, ht, hR⟩ := hstep s a e h hse
      refine ⟨hse, fun u hu => ?_⟩
      rw [ht] at hu
      rw [← Option.some.inj hu]
      exact ih hR (hrest _ rfl)

end Simulation

-- ================================================================ accounts

/-- The sum of a weight over the steps of a run. -/
def tally (step : σ → ε → Option σ) (weight : σ → ε → Nat) :
    σ → List ε → Nat
  | _, [] => 0
  | s, e :: es =>
      weight s e + ((step s e).map fun t => tally step weight t es).getD 0

theorem tally_cons {weight : σ → ε → Nat} {s t : σ} (e : ε)
    (es : List ε) (h : step s e = some t) :
    tally step weight s (e :: es) = weight s e + tally step weight t es := by
  rw [tally, h]
  rfl

/-- What each step takes away and adds to a quantity, the run does. -/
theorem run_tally {f : σ → Nat} {gain loss : σ → ε → Nat}
    (hstep : ∀ s e t, step s e = some t → f t + loss s e = f s + gain s e)
    {s t : σ} {es : List ε} (hrun : run step s es = some t) :
    f t + tally step loss s es = f s + tally step gain s es := by
  induction es generalizing s with
  | nil =>
      rw [run_nil] at hrun
      rw [Option.some.inj hrun]
      rfl
  | cons e es ih =>
      rw [run, Option.bind_eq_some_iff] at hrun
      obtain ⟨u, hu, hrun⟩ := hrun
      have hone := hstep s e u hu
      have hrest := ih hrun
      rw [tally_cons e es hu, tally_cons e es hu]
      omega

/-- A weight of the events alone counts them. -/
theorem tally_countP {p : ε → Bool} {weight : σ → ε → Nat}
    (hweight : ∀ s e, weight s e = if p e then 1 else 0) {s t : σ}
    {es : List ε} (hrun : run step s es = some t) :
    tally step weight s es = es.countP p := by
  induction es generalizing s with
  | nil => rfl
  | cons e es ih =>
      rw [run, Option.bind_eq_some_iff] at hrun
      obtain ⟨u, hu, hrun⟩ := hrun
      rw [tally_cons e es hu, ih hrun, List.countP_cons, hweight,
        Nat.add_comm]

/-- A log that grows by what each step puts out. -/
theorem run_log {α : Type*} (log : σ → List α) {out : ε → List α}
    (hstep : ∀ s e t, step s e = some t → log t = log s ++ out e)
    {s t : σ} {es : List ε} (hrun : run step s es = some t) :
    log t = log s ++ es.flatMap out := by
  induction es generalizing s with
  | nil =>
      rw [run_nil] at hrun
      rw [Option.some.inj hrun, List.flatMap_nil, List.append_nil]
  | cons e es ih =>
      rw [run, Option.bind_eq_some_iff] at hrun
      obtain ⟨u, hu, hrun⟩ := hrun
      rw [ih hrun, hstep s e u hu, List.flatMap_cons, List.append_assoc]

-- ============================================================== refinement

section Refinement

variable {τ η : Type*} {astep : τ → η → Option τ}

/-- What the steps of a run are on an abstract machine; some are
nothing. -/
def emitted (step : σ → ε → Option σ) (emit : σ → ε → Option η) :
    σ → List ε → List η
  | _, [] => []
  | s, e :: es =>
      (emit s e).toList
        ++ ((step s e).map fun t => emitted step emit t es).getD []

theorem emitted_cons {emit : σ → ε → Option η} {s t : σ} (e : ε)
    (es : List ε) (h : step s e = some t) :
    emitted step emit s (e :: es)
      = (emit s e).toList ++ emitted step emit t es := by
  rw [emitted, h]
  rfl

theorem run_append {s t : σ} {es fs : List ε}
    (h : run step s es = some t) :
    run step s (es ++ fs) = run step t fs := by
  induction es generalizing s with
  | nil =>
      rw [run_nil] at h
      rw [Option.some.inj h, List.nil_append]
  | cons e es ih =>
      rw [run, Option.bind_eq_some_iff] at h
      obtain ⟨u, hu, h⟩ := h
      rw [List.cons_append, run_cons _ _ hu, ih h]

/-- Where each step is one of the abstract machine, or leaves what the
state stands for, each run is one of it. -/
theorem Guarded.refines (abs : σ → τ) {emit : σ → ε → Option η}
    (hinv : ∀ s e t, Inv s → safe s e → step s e = some t → Inv t)
    (hstep : ∀ s e t, Inv s → safe s e → step s e = some t →
      run astep (abs s) (emit s e).toList = some (abs t))
    {s t : σ} {es : List ε} (hs : Inv s)
    (hsafe : Guarded step safe s es) (hrun : run step s es = some t) :
    run astep (abs s) (emitted step emit s es) = some (abs t) := by
  induction es generalizing s with
  | nil =>
      rw [run_nil] at hrun
      rw [Option.some.inj hrun]
      rfl
  | cons e es ih =>
      rw [run, Option.bind_eq_some_iff] at hrun
      obtain ⟨u, hu, hrun⟩ := hrun
      obtain ⟨he, hsafe⟩ := hsafe u hu
      rw [emitted_cons e es hu, run_append (hstep s e u hs he hu)]
      exact ih (hinv s e u hs he hu) hsafe hrun

/-- Events of a kind are kept in number. -/
theorem emitted_countP {emit : σ → ε → Option η} {p : ε → Bool}
    {q : η → Bool}
    (hstep : ∀ s e t, step s e = some t → (emit s e).any q = p e)
    {s t : σ} {es : List ε} (hrun : run step s es = some t) :
    (emitted step emit s es).countP q = es.countP p := by
  induction es generalizing s with
  | nil => rfl
  | cons e es ih =>
      rw [run, Option.bind_eq_some_iff] at hrun
      obtain ⟨u, hu, hrun⟩ := hrun
      have hone := hstep s e u hu
      rw [emitted_cons e es hu, List.countP_append, ih hrun,
        List.countP_cons, ← hone, Nat.add_comm]
      cases emit s e with
      | none => rfl
      | some f => simp [List.countP_cons]

/-- What events of a kind carry is kept, in its order. -/
theorem emitted_flatMap {α : Type*} {emit : σ → ε → Option η}
    {f : ε → List α} {g : η → List α}
    (hstep : ∀ s e t, step s e = some t →
      (emit s e).toList.flatMap g = f e)
    {s t : σ} {es : List ε} (hrun : run step s es = some t) :
    (emitted step emit s es).flatMap g = es.flatMap f := by
  induction es generalizing s with
  | nil => rfl
  | cons e es ih =>
      rw [run, Option.bind_eq_some_iff] at hrun
      obtain ⟨u, hu, hrun⟩ := hrun
      rw [emitted_cons e es hu, List.flatMap_append, ih hrun,
        hstep s e u hu, List.flatMap_cons]

end Refinement

end Maplesyrup.Base
