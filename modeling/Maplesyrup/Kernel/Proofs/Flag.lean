/-
Verdicts under interleaving: in every run whose steps keep to themselves
each read gets its own verdict, and every step that does not can be
followed by one that gets another's.

`flagStep_cases` says once what a step can do; the invariant and the
converse both read off it.
-/
import Maplesyrup.Base.Run
import Maplesyrup.Kernel.Flag
import Maplesyrup.Kernel.Proofs.Slots

namespace Maplesyrup

open Base

variable {κ : Type*} [DecidableEq κ]

-- ================================================ one step, by its arms

/-- The clients after a step, seen from one of them. -/
theorem inFlight_update {s : FlagState κ} {k : κ} {c : Client}
    {g : U32} {vs : List (Verdict κ)} (k' : κ) (t : Bool) :
    InFlight ⟨g, Function.update s.client k c, vs⟩ k' t
      ↔ if k' = k then ∃ cpu cs, c = .reading cpu t cs
        else InFlight s k' t := by
  by_cases hk : k' = k
  · subst hk
    simp [InFlight]
  · simp [InFlight, hk]

/-- What each step does, with its guard. -/
theorem flagStep_cases {s t : FlagState κ} {e : FlagEvent κ}
    (h : flagStep s e = some t) :
    (∃ k cpus, e = .reset k cpus ∧ s.client k = .idle
        ∧ t = ⟨0, Function.update s.client k (.kicking cpus),
            s.verdicts⟩)
      ∨ (∃ k trapped c cs, e = .read k trapped
        ∧ s.client k = .kicking (c :: cs)
        ∧ t = ⟨if trapped then 1 else s.gUndefFlag,
            Function.update s.client k (.reading c trapped cs),
            s.verdicts⟩)
      ∨ (∃ k c trapped cs, e = .test k
        ∧ s.client k = .reading c trapped cs
        ∧ t = ⟨(undefVerdict s.gUndefFlag).2,
            Function.update s.client k (.kicking cs),
            s.verdicts
              ++ [⟨k, c, trapped, (undefVerdict s.gUndefFlag).1⟩]⟩)
      ∨ (∃ k, e = .done k ∧ s.client k = .kicking []
        ∧ t = ⟨s.gUndefFlag, Function.update s.client k .idle,
            s.verdicts⟩) := by
  cases e with
  | reset k cpus =>
      rw [flagStep] at h
      split at h
      · rename_i hk
        exact Or.inl ⟨k, cpus, rfl, hk, (Option.some.inj h).symm⟩
      · contradiction
  | read k trapped =>
      rw [flagStep] at h
      split at h
      · rename_i c cs hk
        exact Or.inr (Or.inl
          ⟨k, trapped, c, cs, rfl, hk, (Option.some.inj h).symm⟩)
      · contradiction
  | test k =>
      rw [flagStep] at h
      split at h
      · rename_i c trapped cs hk
        exact Or.inr (Or.inr (Or.inl
          ⟨k, c, trapped, cs, rfl, hk, (Option.some.inj h).symm⟩))
      · contradiction
  | done k =>
      rw [flagStep] at h
      split at h
      · rename_i hk
        exact Or.inr (Or.inr (Or.inr
          ⟨k, rfl, hk, (Option.some.inj h).symm⟩))
      · contradiction

theorem undefVerdict_lowered {g : U32} (h : g ≠ 1) :
    undefVerdict g = (msErrorSuccess, g) := if_neg h

omit [DecidableEq κ] in
theorem boot_inv : FlagInv (FlagState.boot : FlagState κ) where
  right := fun v hv => absurd hv List.not_mem_nil
  raised := by
    rintro k ⟨c, cs, hk⟩
    exact absurd hk (by simp [FlagState.boot])
  alone := by
    rintro k k' t ⟨c, cs, hk⟩
    exact absurd hk (by simp [FlagState.boot])
  lowered := fun _ => show (0 : U32) ≠ 1 by decide

omit [DecidableEq κ] in
/-- A verdict is right when the flag says what the read did. -/
theorem right_of_flag {k : κ} {c : Nat} {g : U32} {trapped : Bool}
    (h : g = 1 ↔ trapped = true) :
    Verdict.Right ⟨k, c, trapped, (undefVerdict g).1⟩ := by
  cases trapped with
  | true =>
      rw [h.2 rfl]
      exact ⟨iff_of_true rfl rfl,
        iff_of_false (show msErrorUndefinst ≠ msErrorSuccess by decide)
          (show true ≠ false by decide)⟩
  | false =>
      have hg : g ≠ 1 := fun hg => absurd (h.1 hg) (by decide)
      rw [undefVerdict_lowered hg]
      exact ⟨iff_of_false
          (show msErrorSuccess ≠ msErrorUndefinst by decide)
          (show false ≠ true by decide),
        iff_of_true rfl rfl⟩

variable {s : FlagState κ} {k : κ}

/-- A reset, with no trapped read in flight to lose its flag. -/
theorem FlagInv.reset (hs : FlagInv s)
    (hnone : ∀ k', ¬ InFlight s k' true) (cpus : List Nat) :
    FlagInv ⟨0, Function.update s.client k (.kicking cpus),
      s.verdicts⟩ := by
  have hnone' : ∀ k', ¬ InFlight (⟨0, Function.update s.client k
      (.kicking cpus), s.verdicts⟩ : FlagState κ) k' true := by
    intro k' hk'
    rw [inFlight_update] at hk'
    split at hk'
    · obtain ⟨_, _, hcon⟩ := hk'
      exact absurd hcon (by simp)
    · exact hnone k' hk'
  exact ⟨hs.right, fun k' hk' => absurd hk' (hnone' k'),
    fun k' _ _ hk' => absurd hk' (hnone' k'),
    fun _ => show (0 : U32) ≠ 1 by decide⟩

/-- A read, which is the only one in flight if it traps. -/
theorem FlagInv.read (hs : FlagInv s) {trapped : Bool}
    (hnone : ∀ k', ¬ InFlight s k' true)
    (halone : trapped = true → ∀ k', ¬ InFlight s k' false)
    (c : Nat) (cs : List Nat) :
    FlagInv ⟨if trapped then 1 else s.gUndefFlag,
      Function.update s.client k (.reading c trapped cs),
      s.verdicts⟩ := by
  have hcase : ∀ k' u, InFlight (⟨if trapped then 1 else s.gUndefFlag,
      Function.update s.client k (.reading c trapped cs), s.verdicts⟩
      : FlagState κ) k' u →
      (k' = k ∧ u = trapped) ∨ (k' ≠ k ∧ InFlight s k' u) := by
    intro k' u hk'
    rw [inFlight_update] at hk'
    split at hk'
    · rename_i hkk
      obtain ⟨_, _, hcon⟩ := hk'
      rw [Client.reading.injEq] at hcon
      exact Or.inl ⟨hkk, hcon.2.1.symm⟩
    · rename_i hkk
      exact Or.inr ⟨hkk, hk'⟩
  refine ⟨hs.right, ?_, ?_, ?_⟩
  · intro k' hk'
    rcases hcase k' true hk' with ⟨-, htr⟩ | ⟨-, hold⟩
    · exact if_pos htr.symm
    · exact absurd hold (hnone k')
  · intro k' k'' u hk' hk''
    rcases hcase k' true hk' with ⟨rfl, htr⟩ | ⟨-, hold⟩
    · rcases hcase k'' u hk'' with ⟨rfl, -⟩ | ⟨-, hold⟩
      · rfl
      · cases u with
        | true => exact absurd hold (hnone k'')
        | false => exact absurd hold (halone htr.symm k'')
    · exact absurd hold (hnone k')
  · intro hno
    cases htr : trapped with
    | true =>
        have hin := hno k
        rw [inFlight_update, if_pos rfl, htr] at hin
        exact absurd ⟨c, cs, rfl⟩ hin
    | false => exact hs.lowered hnone

omit [DecidableEq κ] in
/-- While a read is in flight the flag says whether it trapped. -/
theorem FlagInv.flag_iff (hs : FlagInv s) {trapped : Bool}
    (hself : InFlight s k trapped) :
    s.gUndefFlag = 1 ↔ trapped = true := by
  cases trapped with
  | true => exact iff_of_true (hs.raised k hself) rfl
  | false =>
      refine iff_of_false (hs.lowered ?_) (by decide)
      intro k' hk'
      obtain rfl := hs.alone k' k false hk' hself
      obtain ⟨c, cs, htrue⟩ := hk'
      obtain ⟨c', cs', hfalse⟩ := hself
      rw [htrue] at hfalse
      exact absurd hfalse (by simp)

/-- A test: the flag is this read's. -/
theorem FlagInv.test (hs : FlagInv s) {c : Nat} {trapped : Bool}
    {cs : List Nat} (hk : s.client k = .reading c trapped cs) :
    FlagInv ⟨(undefVerdict s.gUndefFlag).2,
      Function.update s.client k (.kicking cs),
      s.verdicts ++ [⟨k, c, trapped, (undefVerdict s.gUndefFlag).1⟩]⟩ := by
  have hself : InFlight s k trapped := ⟨c, cs, hk⟩
  have hother : ∀ k' u, InFlight (⟨(undefVerdict s.gUndefFlag).2,
      Function.update s.client k (.kicking cs),
      s.verdicts ++ [⟨k, c, trapped, (undefVerdict s.gUndefFlag).1⟩]⟩
      : FlagState κ) k' u → k' ≠ k ∧ InFlight s k' u := by
    intro k' u hk'
    rw [inFlight_update] at hk'
    split at hk'
    · obtain ⟨_, _, hcon⟩ := hk'
      exact absurd hcon (by simp)
    · rename_i hkk
      exact ⟨hkk, hk'⟩
  have hnone : ∀ k', ¬ (k' ≠ k ∧ InFlight s k' true) := by
    intro k' h
    exact h.1 (hs.alone k' k trapped h.2 hself).symm
  refine ⟨?_, fun k' hk' => absurd (hother k' true hk') (hnone k'),
    fun k' _ _ hk' => absurd (hother k' true hk') (hnone k'), ?_⟩
  · intro v hv
    rcases List.mem_append.1 hv with hv | hv
    · exact hs.right v hv
    · rw [List.mem_singleton.1 hv]
      exact right_of_flag (hs.flag_iff hself)
  · intro _
    show (undefVerdict s.gUndefFlag).2 ≠ 1
    unfold undefVerdict
    split
    · exact show (0 : U32) ≠ 1 by decide
    · assumption

/-- The end of a request: nobody's read ends. -/
theorem FlagInv.done (hs : FlagInv s) (hk : s.client k = .kicking []) :
    FlagInv ⟨s.gUndefFlag, Function.update s.client k .idle,
      s.verdicts⟩ := by
  have hother : ∀ k' u, InFlight (⟨s.gUndefFlag,
      Function.update s.client k .idle, s.verdicts⟩ : FlagState κ)
      k' u ↔ InFlight s k' u := by
    intro k' u
    rw [inFlight_update]
    split
    · rename_i hkk
      subst hkk
      refine iff_of_false (by simp) ?_
      intro h
      obtain ⟨_, _, hk'⟩ := h
      rw [hk] at hk'
      exact absurd hk' (by simp)
    · rfl
  exact ⟨hs.right, fun k' hk' => hs.raised k' ((hother k' _).1 hk'),
    fun k' k'' u hk' hk'' =>
      hs.alone k' k'' u ((hother k' _).1 hk') ((hother k'' _).1 hk''),
    fun hno => hs.lowered fun k' hk' => hno k' ((hother k' _).2 hk')⟩

/-- A step that meets nobody else's read keeps the flag and the reads in
flight together. -/
theorem flagStep_inv {t : FlagState κ} {e : FlagEvent κ}
    (hs : FlagInv s) (hsafe : flagAlone s e)
    (h : flagStep s e = some t) : FlagInv t := by
  rcases flagStep_cases h with ⟨k, cpus, rfl, -, rfl⟩
    | ⟨k, trapped, c, cs, rfl, -, rfl⟩ | ⟨k, c, trapped, cs, rfl, hk, rfl⟩
    | ⟨k, rfl, hk, rfl⟩
  · exact hs.reset hsafe cpus
  · exact hs.read hsafe.1 hsafe.2 c cs
  · exact hs.test hk
  · exact hs.done hk

-- ============================================================ whole runs

/-- In a run from boot whose every step keeps to itself, every status
written is its own read's, in every state reached. -/
theorem flag_runs_right {es : List (FlagEvent κ)} {s : FlagState κ}
    (hsafe : Guarded flagStep flagAlone FlagState.boot es)
    (hrun : run flagStep FlagState.boot es = some s) :
    VerdictsRight s :=
  (hsafe.invariant (fun _ _ _ => flagStep_inv) boot_inv hrun).right

/-- A client's own step leaves the others where they were. -/
theorem inFlight_other {s : FlagState κ} {k k' : κ} {c : Client}
    {g : U32} {vs : List (Verdict κ)} {t : Bool} (hk : k' ≠ k)
    (h : InFlight s k' t) :
    InFlight ⟨g, Function.update s.client k c, vs⟩ k' t :=
  (inFlight_update k' t).2 (by rwa [if_neg hk])

/-- The test of a read in flight can always be taken, and writes what
the flag says. -/
theorem test_step {s : FlagState κ} {k : κ} {trapped : Bool}
    (h : InFlight s k trapped) :
    ∃ t v, flagStep s (.test k) = some t
      ∧ t.gUndefFlag = (undefVerdict s.gUndefFlag).2
      ∧ v ∈ t.verdicts ∧ v.trapped = trapped
      ∧ v.status = (undefVerdict s.gUndefFlag).1
      ∧ ∀ k', k' ≠ k → t.client k' = s.client k' := by
  obtain ⟨c, cs, hk⟩ := h
  refine ⟨⟨(undefVerdict s.gUndefFlag).2,
      Function.update s.client k (.kicking cs),
      s.verdicts ++ [⟨k, c, trapped, (undefVerdict s.gUndefFlag).1⟩]⟩,
    ⟨k, c, trapped, (undefVerdict s.gUndefFlag).1⟩, ?_, rfl, ?_, rfl,
    rfl, fun k' hk' => Function.update_of_ne hk' _ _⟩
  · simp only [flagStep, hk]
  · exact List.mem_append_right _ (List.mem_singleton_self _)

/-- A flag that contradicts a read in flight ends up in its status. -/
theorem wrong_of_flag {s : FlagState κ} {k : κ} {trapped : Bool}
    (h : InFlight s k trapped)
    (hflag : ¬ (s.gUndefFlag = 1 ↔ trapped = true)) :
    ∃ t, run flagStep s [.test k] = some t ∧ ¬ VerdictsRight t := by
  obtain ⟨t, v, ht, -, hv, htr, hst, -⟩ := test_step h
  refine ⟨t, by rw [run_cons _ _ ht, run_nil], fun hright => hflag ?_⟩
  have hr := (hright v hv).1
  rw [hst, htr] at hr
  rw [← hr]
  unfold undefVerdict
  split
  · rename_i h1
    exact iff_of_true h1 rfl
  · rename_i h1
    exact iff_of_false h1 (show msErrorSuccess ≠ msErrorUndefinst by decide)

omit [DecidableEq κ] in
/-- A client in its loop has no read in flight. -/
theorem not_inFlight_kicking {s : FlagState κ} {k : κ} {cs : List Nat}
    (hk : s.client k = .kicking cs) (t : Bool) : ¬ InFlight s k t := by
  intro hall
  obtain ⟨_, _, hk'⟩ := hall
  rw [hk] at hk'
  exact absurd hk' (by simp)

omit [DecidableEq κ] in
theorem not_inFlight_idle {s : FlagState κ} {k : κ}
    (hk : s.client k = .idle) (t : Bool) : ¬ InFlight s k t := by
  intro hall
  obtain ⟨_, _, hk'⟩ := hall
  rw [hk] at hk'
  exact absurd hk' (by simp)

/-- A reset under somebody's trapped read: its test finds nothing. -/
theorem reset_shows {s : FlagState κ} {k k' : κ} (cpus : List Nat)
    (hk : s.client k = .idle) (hk' : InFlight s k' true) :
    ∃ fs u, run flagStep ⟨0, Function.update s.client k (.kicking cpus),
        s.verdicts⟩ fs = some u ∧ ¬ VerdictsRight u := by
  have hkk : k' ≠ k := fun h => not_inFlight_idle hk true (h ▸ hk')
  have hflag : ¬ ((0 : U32) = 1 ↔ true = true) := by decide
  obtain ⟨u, hu, hwrong⟩ :=
    wrong_of_flag (inFlight_other hkk hk') hflag
  exact ⟨_, u, hu, hwrong⟩

/-- A read beside somebody's trapped one: a completed read finds the
other's flag, a trapped one finds that the other's test cleared it. -/
theorem read_shows {s : FlagState κ} {k k' : κ} {c : Nat} {cs : List Nat}
    (trapped : Bool) (hk : s.client k = .kicking (c :: cs))
    (hk' : InFlight s k' true) (hflag : s.gUndefFlag = 1) :
    ∃ fs u, run flagStep ⟨if trapped then 1 else s.gUndefFlag,
        Function.update s.client k (.reading c trapped cs),
        s.verdicts⟩ fs = some u ∧ ¬ VerdictsRight u := by
  have hkk : k' ≠ k := fun h => not_inFlight_kicking hk true (h ▸ hk')
  have hself : InFlight (⟨if trapped then 1 else s.gUndefFlag,
      Function.update s.client k (.reading c trapped cs), s.verdicts⟩
      : FlagState κ) k trapped :=
    (inFlight_update k trapped).2 (by rw [if_pos rfl]; exact ⟨_, _, rfl⟩)
  cases trapped with
  | false =>
      obtain ⟨u, hu, hwrong⟩ := wrong_of_flag hself
        (fun h => absurd (h.1 hflag) (by decide))
      exact ⟨_, u, hu, hwrong⟩
  | true =>
      obtain ⟨u, v, hu, hflagu, -, -, -, hothers⟩ :=
        test_step (inFlight_other hkk hk')
      have hselfu : InFlight u k true := by
        obtain ⟨c', cs', hck⟩ := hself
        exact ⟨c', cs', (hothers k hkk.symm).trans hck⟩
      have hcleared : ¬ (u.gUndefFlag = 1 ↔ true = true) := by
        rw [hflagu]
        exact show ¬ ((0 : U32) = 1 ↔ true = true) by decide
      obtain ⟨w, hw, hwrong⟩ := wrong_of_flag hselfu hcleared
      exact ⟨.test k' :: [.test k], w, (run_cons _ _ hu).trans hw, hwrong⟩

/-- A trap beside somebody's completed read, which finds its flag. -/
theorem trap_shows {s : FlagState κ} {k k' : κ} {c : Nat} {cs : List Nat}
    (hk : s.client k = .kicking (c :: cs)) (hk' : InFlight s k' false) :
    ∃ fs u, run flagStep ⟨1,
        Function.update s.client k (.reading c true cs),
        s.verdicts⟩ fs = some u ∧ ¬ VerdictsRight u := by
  have hkk : k' ≠ k := fun h => not_inFlight_kicking hk false (h ▸ hk')
  have hflag : ¬ ((1 : U32) = 1 ↔ false = true) := by decide
  obtain ⟨u, hu, hwrong⟩ :=
    wrong_of_flag (inFlight_other hkk hk') hflag
  exact ⟨_, u, hu, hwrong⟩

/-- The condition is exact: after any run inside it, a step outside it
leaves reads in flight whose tests write a wrong status. -/
theorem flag_condition_exact {es : List (FlagEvent κ)}
    {s t : FlagState κ} {e : FlagEvent κ}
    (hsafe : Guarded flagStep flagAlone FlagState.boot es)
    (hrun : run flagStep FlagState.boot es = some s)
    (hbefore : ¬ flagAlone s e) (hstep : flagStep s e = some t) :
    ∃ fs u, run flagStep t fs = some u ∧ ¬ VerdictsRight u := by
  have hs := hsafe.invariant (fun _ _ _ => flagStep_inv) boot_inv hrun
  obtain ⟨k, cpus, rfl, hk, rfl⟩ | ⟨k, trapped, c, cs, rfl, hk, rfl⟩
    | ⟨k, c, trapped, cs, rfl, hk, rfl⟩ | ⟨k, rfl, hk, rfl⟩ :=
    flagStep_cases hstep
  · simp only [flagAlone, not_forall, not_not] at hbefore
    obtain ⟨k', hk'⟩ := hbefore
    exact reset_shows cpus hk hk'
  · by_cases hpending : ∃ k', InFlight s k' true
    · obtain ⟨k', hk'⟩ := hpending
      exact read_shows trapped hk hk' (hs.raised k' hk')
    · have hno : ∀ k', ¬ InFlight s k' true := fun k' hk' =>
        hpending ⟨k', hk'⟩
      have hbeside : trapped = true ∧ ∃ k', InFlight s k' false := by
        by_contra hcon
        exact hbefore ⟨hno, fun htr k' hk' => hcon ⟨htr, k', hk'⟩⟩
      obtain ⟨rfl, k', hk'⟩ := hbeside
      exact trap_shows hk hk'
  · exact absurd trivial hbefore
  · exact absurd trivial hbefore

-- ============================================================ two clients

/-- One client reads a register that traps; another, on another cpu,
reads one that does not, and tests first. -/
def crossedReads : List (FlagEvent (Fin 2)) :=
  [.reset 0 [0], .reset 1 [1], .read 0 true, .read 1 false, .test 1,
    .test 0]

/-- The completed read is reported undefined, the trapped one a
success. -/
theorem flag_runs_wrong :
    ¬ ∀ (es : List (FlagEvent (Fin 2))) (s : FlagState (Fin 2)),
        run flagStep FlagState.boot es = some s → VerdictsRight s := by
  intro h
  have hright := h crossedReads _ rfl
  have hwrong := (hright ⟨1, 1, false, msErrorUndefinst⟩
    (List.mem_cons_self ..)).1.1 rfl
  exact absurd hwrong (by decide)

/-- The same two, the second of them reading when the first has its
status. -/
def readsInTurn : List (FlagEvent (Fin 2)) :=
  [.reset 0 [0], .reset 1 [1], .read 0 true, .test 0, .read 1 false,
    .test 1]

theorem flag_runs_right_in_turn :
    ∃ s, run flagStep FlagState.boot readsInTurn = some s
      ∧ s.verdicts = [⟨0, 0, true, msErrorUndefinst⟩,
          ⟨1, 1, false, msErrorSuccess⟩]
      ∧ VerdictsRight s := by
  have hsafe : Guarded flagStep flagAlone FlagState.boot readsInTurn := by
    decide
  exact ⟨_, rfl, rfl, flag_runs_right hsafe rfl⟩

-- =========================================================== one request

/-- The read and the test of the interleaving are the code's: on a
supported row, running `callFuncPtr` on a cpu moves the flag and writes
the status that a client's next two steps move and log. -/
theorem callFuncPtr_steps {b : Build} {mc : Machine} {s : KState}
    {e : FuncTableEntry} {cur : Nat} {f : FlagState κ} {k : κ}
    {cs : List Nat} (he : funcTable[s.data.foundIndex]? = some e)
    (hsup : e.supported = true) (hflag : f.gUndefFlag = s.gUndefFlag)
    (hk : f.client k = .kicking (cur :: cs))
    (i : Fin msMaxCpus) (hi : i.val = b.cpuIndex cur) :
    ∃ f', run flagStep f
        [.read k (callEffect b mc cur e.funcPtr).trapped, .test k]
          = some f'
      ∧ f'.gUndefFlag = (callFuncPtr b mc cur s).gUndefFlag
      ∧ f'.client k = .kicking cs
      ∧ f'.verdicts = f.verdicts
        ++ [⟨k, cur, (callEffect b mc cur e.funcPtr).trapped,
            ((callFuncPtr b mc cur s).data.results.cpu i).status⟩] := by
  have hread : flagStep f
      (.read k (callEffect b mc cur e.funcPtr).trapped)
      = some
        { f with
          gUndefFlag :=
            raisedFlag (callEffect b mc cur e.funcPtr) s.gUndefFlag
          client := Function.update f.client k
            (.reading cur (callEffect b mc cur e.funcPtr).trapped cs) }
      := by
    simp only [flagStep, hk, hflag, raisedFlag]
  rw [callFuncPtr_eq cur he, run_cons _ _ hread]
  refine ⟨_, by simp [run, flagStep]; rfl, ?_, ?_, ?_⟩
  · simp [ranFlag, hsup]
  · simp
  · simp [slot_cpu, hi, ranSlot, hsup]

end Maplesyrup
