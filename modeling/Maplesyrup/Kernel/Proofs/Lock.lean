/-
Does the lock do its work?

`LockArm` is what one access can do; everything here reads off it. While
no lock is initialised over somebody's head, at most one client is inside
(`lock_kept_iff`: this is exact), and then the accesses under the lock
are as good as one atomic step each, although `undef_hook` raises the
flag without the lock: a flag found up is still up when it is cleared,
since only clients inside lower it (`LockInv.raised`), and a flag found
down counts as down from the moment it is looked at. So every such run
is a run of the atomic steps, with the same flag and the same statuses
(`lock_refines`), and no trap is reported twice (`lock_once`).

The initialisation in every request is what can go wrong: with a second
client inside, one trap is two reports (`lock_broken`).
-/
import Maplesyrup.Kernel.Lock
import Maplesyrup.Kernel.Proofs.Conserve

namespace Maplesyrup

open Base

variable {κ : Type*} [DecidableEq κ] {s t : LockState κ}
  {e : LockEvent κ} {es : List (LockEvent κ)}

-- ================================================ one access, by its arms

/-- What an access does, with its guard. -/
inductive LockArm (s : LockState κ) : LockEvent κ → LockState κ → Prop
  | spinLockInit (k : κ) (cpus : List Nat) (hk : s.client k = .idle) :
      LockArm s (.spinLockInit k cpus)
        { s.goes k (.initialised cpus) with locked := false }
  | enter (k : κ) (cpus : List Nat) (hfree : s.locked = false)
      (hk : s.client k = .initialised cpus) :
      LockArm s (.spinLock k)
        { s.goes k (.lowering cpus) with locked := true }
  | lower (k : κ) (cpus : List Nat) (hk : s.client k = .lowering cpus) :
      LockArm s (.lower k)
        { s.goes k (.lowered cpus) with gUndefFlag := 0 }
  | leave (k : κ) (cpus : List Nat) (hk : s.client k = .lowered cpus) :
      LockArm s (.spinUnlock k)
        { s.goes k (.kicking cpus) with locked := false }
  | read (k : κ) (trapped : Bool) (c : Nat) (cs : List Nat)
      (hk : s.client k = .kicking (c :: cs)) :
      LockArm s (.read k trapped)
        { s.goes k (.reading c trapped cs) with
          gUndefFlag := if trapped then 1 else s.gUndefFlag }
  | enterTest (k : κ) (c : Nat) (trapped : Bool) (cs : List Nat)
      (hfree : s.locked = false)
      (hk : s.client k = .reading c trapped cs) :
      LockArm s (.spinLock k)
        { s.goes k (.loading c trapped cs) with locked := true }
  | loadRaised (k : κ) (c : Nat) (trapped : Bool) (cs : List Nat)
      (hflag : s.gUndefFlag = 1)
      (hk : s.client k = .loading c trapped cs) :
      LockArm s (.load k) (s.goes k (.clearing c trapped cs))
  | loadLowered (k : κ) (c : Nat) (trapped : Bool) (cs : List Nat)
      (hflag : s.gUndefFlag ≠ 1)
      (hk : s.client k = .loading c trapped cs) :
      LockArm s (.load k)
        { s.goes k (.tested cs) with
          verdicts := s.verdicts ++ [⟨k, c, trapped, msErrorSuccess⟩] }
  | clear (k : κ) (c : Nat) (trapped : Bool) (cs : List Nat)
      (hk : s.client k = .clearing c trapped cs) :
      LockArm s (.clear k)
        { s.goes k (.tested cs) with
          gUndefFlag := 0
          verdicts := s.verdicts ++ [⟨k, c, trapped, msErrorUndefinst⟩] }
  | leaveTest (k : κ) (cs : List Nat) (hk : s.client k = .tested cs) :
      LockArm s (.spinUnlock k)
        { s.goes k (.kicking cs) with locked := false }
  | done (k : κ) (hk : s.client k = .kicking []) :
      LockArm s (.done k) (s.goes k .idle)

theorem lockStep_arm (h : lockStep s e = some t) : LockArm s e t := by
  cases e with
  | spinLockInit k cpus =>
      rw [lockStep] at h
      split at h
      · rename_i hk
        cases h
        exact .spinLockInit k cpus hk
      · contradiction
  | spinLock k =>
      rw [lockStep] at h
      split at h
      · contradiction
      · rename_i hfree
        rw [Bool.not_eq_true] at hfree
        split at h
        · rename_i cpus hk
          cases h
          exact .enter k cpus hfree hk
        · rename_i c trapped cs hk
          cases h
          exact .enterTest k c trapped cs hfree hk
        · contradiction
  | lower k =>
      rw [lockStep] at h
      split at h
      · rename_i cpus hk
        cases h
        exact .lower k cpus hk
      · contradiction
  | spinUnlock k =>
      rw [lockStep] at h
      split at h
      · rename_i cpus hk
        cases h
        exact .leave k cpus hk
      · rename_i cs hk
        cases h
        exact .leaveTest k cs hk
      · contradiction
  | read k trapped =>
      rw [lockStep] at h
      split at h
      · rename_i c cs hk
        cases h
        exact .read k trapped c cs hk
      · contradiction
  | load k =>
      rw [lockStep] at h
      split at h
      · rename_i c trapped cs hk
        split at h
        · rename_i hflag
          cases h
          exact .loadRaised k c trapped cs hflag hk
        · rename_i hflag
          cases h
          exact .loadLowered k c trapped cs hflag hk
      · contradiction
  | clear k =>
      rw [lockStep] at h
      split at h
      · rename_i c trapped cs hk
        cases h
        exact .clear k c trapped cs hk
      · contradiction
  | done k =>
      rw [lockStep] at h
      split at h
      · rename_i hk
        cases h
        exact .done k hk
      · contradiction

-- ================================================================ the lock

/-- Who is inside behind a client's move. -/
theorem inside_goes (s : LockState κ) (k : κ) (c : LockClient) (k' : κ) :
    ((s.goes k c).client k').inside
      = if k' = k then c.inside else (s.client k').inside := by
  unfold LockState.goes
  by_cases hk : k' = k
  · subst hk
    simp
  · simp [hk]

/-- A move that does not cross the lock. -/
theorem LockOk.stays (hs : LockOk s) {k : κ} {c : LockClient}
    (hc : c.inside = (s.client k).inside)
    (hclient : t.client = (s.goes k c).client)
    (hlocked : t.locked = s.locked) : LockOk t := by
  have hsame : ∀ k', (t.client k').inside = (s.client k').inside := by
    intro k'
    rw [hclient, inside_goes]
    split
    · rename_i hk
      rw [hk, hc]
    · rfl
  constructor
  · rw [hlocked, hs.held]
    simp only [hsame]
  · intro k₁ k₂ h₁ h₂
    rw [hsame] at h₁ h₂
    exact hs.alone k₁ k₂ h₁ h₂

/-- Taking a lock that is free. -/
theorem LockOk.enters (hs : LockOk s) (hfree : s.locked = false) {k : κ}
    {c : LockClient} (hc : c.inside = true)
    (hclient : t.client = (s.goes k c).client)
    (hlocked : t.locked = true) : LockOk t := by
  have hnone : ∀ k', (s.client k').inside = false := by
    intro k'
    rw [Bool.eq_false_iff]
    intro hin
    rw [hs.held.2 ⟨k', hin⟩] at hfree
    exact Bool.noConfusion hfree
  have hself : ∀ k', (t.client k').inside = true → k' = k := by
    intro k' hin
    rw [hclient, inside_goes] at hin
    split at hin
    · assumption
    · rw [hnone] at hin
      exact Bool.noConfusion hin
  constructor
  · refine iff_of_true hlocked ⟨k, ?_⟩
    rw [hclient, inside_goes, if_pos rfl, hc]
  · intro k₁ k₂ h₁ h₂
    rw [hself k₁ h₁, hself k₂ h₂]

/-- Freeing it, with nobody left inside. -/
theorem LockOk.frees {k : κ} {c : LockClient} (hc : c.inside = false)
    (hothers : ∀ k', k' ≠ k → (s.client k').inside = false)
    (hclient : t.client = (s.goes k c).client)
    (hlocked : t.locked = false) : LockOk t := by
  have hnone : ∀ k', (t.client k').inside = false := by
    intro k'
    rw [hclient, inside_goes]
    split
    · exact hc
    · rename_i hk
      exact hothers k' hk
  constructor
  · refine iff_of_false (by simp [hlocked]) ?_
    rintro ⟨k', hin⟩
    rw [hnone] at hin
    exact Bool.noConfusion hin
  · intro k₁ k₂ h₁
    rw [hnone] at h₁
    exact Bool.noConfusion h₁

theorem LockOk.leaves (hs : LockOk s) {k : κ} {c : LockClient}
    (hin : (s.client k).inside = true) (hc : c.inside = false)
    (hclient : t.client = (s.goes k c).client)
    (hlocked : t.locked = false) : LockOk t := by
  refine LockOk.frees hc (fun k' hk => ?_) hclient hlocked
  rw [Bool.eq_false_iff]
  exact fun hin' => hk (hs.alone k k' hin hin')

theorem lockStep_ok (hs : LockOk s) (hsafe : lockAlone s e)
    (h : lockStep s e = some t) : LockOk t := by
  cases lockStep_arm h with
  | spinLockInit k cpus hk =>
      exact LockOk.frees (s := s) rfl (fun k' _ => hsafe k') rfl rfl
  | enter k cpus hfree hk => exact hs.enters hfree rfl rfl rfl
  | lower k cpus hk => exact hs.stays (by rw [hk]; rfl) rfl rfl
  | leave k cpus hk => exact hs.leaves (by rw [hk]; rfl) rfl rfl rfl
  | read k trapped c cs hk => exact hs.stays (by rw [hk]; rfl) rfl rfl
  | enterTest k c trapped cs hfree hk =>
      exact hs.enters hfree rfl rfl rfl
  | loadRaised k c trapped cs hflag hk =>
      exact hs.stays (by rw [hk]; rfl) rfl rfl
  | loadLowered k c trapped cs hflag hk =>
      exact hs.stays (by rw [hk]; rfl) rfl rfl
  | clear k c trapped cs hk => exact hs.stays (by rw [hk]; rfl) rfl rfl
  | leaveTest k cs hk => exact hs.leaves (by rw [hk]; rfl) rfl rfl rfl
  | done k hk => exact hs.stays (by rw [hk]; rfl) rfl rfl

omit [DecidableEq κ] in
theorem lock_boot : LockOk (LockState.boot : LockState κ) := by
  constructor
  · refine iff_of_false (by simp [LockState.boot]) ?_
    rintro ⟨k, hin⟩
    exact absurd hin (by simp [LockState.boot, LockClient.inside])
  · intro k k' hin
    exact absurd hin (by simp [LockState.boot, LockClient.inside])

/-- An init over somebody's head leaves a lock that is free with somebody
inside. -/
theorem lockStep_lost (hsafe : ¬ lockAlone s e)
    (h : lockStep s e = some t) : ¬ LockOk t := by
  cases lockStep_arm h with
  | spinLockInit k cpus hk =>
      simp only [lockAlone, not_forall, Bool.not_eq_false] at hsafe
      obtain ⟨k', hin⟩ := hsafe
      intro ht
      have hkk : k' ≠ k := by
        rintro rfl
        rw [hk] at hin
        exact absurd hin (by simp [LockClient.inside])
      have hheld := ht.held.2 ⟨k', by
        show ((s.goes k _).client k').inside = true
        rw [inside_goes, if_neg hkk, hin]⟩
      exact Bool.noConfusion hheld
  | _ => exact absurd trivial hsafe

/-- The lock is held exactly while one client is inside, in every state of
a run, if and only if no request of the run initialises it over
somebody's head. -/
theorem lock_kept_iff (es : List (LockEvent κ)) :
    Throughout lockStep LockOk LockState.boot es
      ↔ Guarded lockStep lockAlone LockState.boot es :=
  throughout_iff_guarded (fun s (h : LockOk s) => h)
    (fun _ _ _ => lockStep_ok) (fun _ _ _ _ => lockStep_lost) es lock_boot

-- ============================================================ the atomicity

/-- And a flag that was found up is up. -/
structure LockInv (s : LockState κ) : Prop extends LockOk s where
  raised : ∀ k c trapped cs, s.client k = .clearing c trapped cs →
    s.gUndefFlag = 1

/-- A client elsewhere is where it was. -/
theorem goes_clearing {k k' : κ} {c : LockClient} {cpu : Nat}
    {trapped : Bool} {cs : List Nat}
    (hc : ∀ cpu trapped cs, c ≠ .clearing cpu trapped cs)
    (h : (s.goes k c).client k' = .clearing cpu trapped cs) :
    k' ≠ k ∧ s.client k' = .clearing cpu trapped cs := by
  unfold LockState.goes at h
  dsimp only at h
  by_cases hk : k' = k
  · subst hk
    rw [Function.update_self] at h
    exact absurd h (hc _ _ _)
  · rw [Function.update_of_ne hk] at h
    exact ⟨hk, h⟩

theorem lockStep_inv (hs : LockInv s) (hsafe : lockAlone s e)
    (h : lockStep s e = some t) : LockInv t := by
  have hok := lockStep_ok hs.toLockOk hsafe h
  refine ⟨hok, ?_⟩
  intro k' cpu tr cs' hk'
  cases lockStep_arm h with
  | spinLockInit k cpus hk =>
      exact hs.raised _ _ _ _ (goes_clearing (by simp) hk').2
  | enter k cpus hfree hk =>
      exact hs.raised _ _ _ _ (goes_clearing (by simp) hk').2
  | lower k cpus hk =>
      -- nobody else is inside
      obtain ⟨hne, hk'⟩ := goes_clearing (by simp) hk'
      exact absurd (hs.alone k k' (by rw [hk]; rfl) (by rw [hk']; rfl)) hne
  | leave k cpus hk =>
      exact hs.raised _ _ _ _ (goes_clearing (by simp) hk').2
  | read k trapped c cs hk =>
      have hflag := hs.raised _ _ _ _ (goes_clearing (by simp) hk').2
      show (if trapped then 1 else s.gUndefFlag) = 1
      rw [hflag, ite_self]
  | enterTest k c trapped cs hfree hk =>
      exact hs.raised _ _ _ _ (goes_clearing (by simp) hk').2
  | loadRaised k c trapped cs hflag hk => exact hflag
  | loadLowered k c trapped cs hflag hk =>
      exact hs.raised _ _ _ _ (goes_clearing (by simp) hk').2
  | clear k c trapped cs hk =>
      obtain ⟨hne, hk'⟩ := goes_clearing (by simp) hk'
      exact absurd (hs.alone k k' (by rw [hk]; rfl) (by rw [hk']; rfl)) hne
  | leaveTest k cs hk =>
      exact hs.raised _ _ _ _ (goes_clearing (by simp) hk').2
  | done k hk =>
      exact hs.raised _ _ _ _ (goes_clearing (by simp) hk').2

/-- A client's move, one level up. -/
theorem abs_goes {k : κ} {c : LockClient}
    (hclient : t.client = (s.goes k c).client) :
    t.abs = ⟨t.gUndefFlag, Function.update s.abs.client k c.abs,
      t.verdicts⟩ := by
  unfold LockState.abs
  rw [hclient]
  congr 1
  funext k'
  unfold LockState.goes
  by_cases hk : k' = k
  · subst hk
    simp
  · simp [hk]

/-- A move that completes nothing. -/
theorem abs_stays {k : κ} {c : LockClient}
    (hclient : t.client = (s.goes k c).client)
    (hflag : t.gUndefFlag = s.gUndefFlag)
    (hverdicts : t.verdicts = s.verdicts)
    (hc : c.abs = (s.client k).abs) :
    run flagStep s.abs [] = some t.abs := by
  have hself : Function.update s.abs.client k c.abs = s.abs.client := by
    rw [hc]
    exact Function.update_eq_self k s.abs.client
  rw [abs_goes hclient, hself, hflag, hverdicts]
  rfl

/-- A move that completes a step. -/
theorem abs_steps {f : FlagEvent κ} {k : κ} {c : LockClient}
    (hclient : t.client = (s.goes k c).client)
    (hstep : flagStep s.abs f
      = some ⟨t.gUndefFlag, Function.update s.abs.client k c.abs,
          t.verdicts⟩) :
    run flagStep s.abs [f] = some t.abs := by
  rw [run_cons _ _ hstep, run_nil, abs_goes hclient]

/-- Each access completes an atomic step, or nothing. -/
theorem lockStep_emits (hs : LockInv s) (h : lockStep s e = some t) :
    run flagStep s.abs (lockEmit s e).toList = some t.abs := by
  have hat : ∀ k c, s.client k = c → s.abs.client k = c.abs := by
    intro k c hk
    rw [← hk]
    rfl
  cases lockStep_arm h with
  | spinLockInit k cpus hk =>
      exact abs_stays (k := k) (c := .initialised cpus) rfl rfl rfl
        (by rw [hk]; rfl)
  | enter k cpus hfree hk =>
      exact abs_stays (k := k) (c := .lowering cpus) rfl rfl rfl
        (by rw [hk]; rfl)
  | lower k cpus hk =>
      rw [lockEmit, hk]
      refine abs_steps (k := k) (c := .lowered cpus) rfl ?_
      rw [flagStep, hat k _ hk]
      rfl
  | leave k cpus hk =>
      exact abs_stays (k := k) (c := .kicking cpus) rfl rfl rfl
        (by rw [hk]; rfl)
  | read k trapped c cs hk =>
      refine abs_steps (k := k) (c := .reading c trapped cs) rfl ?_
      rw [flagStep, hat k _ hk]
      rfl
  | enterTest k c trapped cs hfree hk =>
      exact abs_stays (k := k) (c := .loading c trapped cs) rfl rfl rfl
        (by rw [hk]; rfl)
  | loadRaised k c trapped cs hflag hk =>
      rw [lockEmit, if_pos hflag]
      exact abs_stays (k := k) (c := .clearing c trapped cs) rfl rfl rfl
        (by rw [hk]; rfl)
  | loadLowered k c trapped cs hflag hk =>
      have hverdict : undefVerdict s.abs.gUndefFlag
          = (msErrorSuccess, s.gUndefFlag) := undefVerdict_lowered hflag
      rw [lockEmit, if_neg hflag]
      refine abs_steps (k := k) (c := .tested cs) rfl ?_
      rw [flagStep, hat k _ hk]
      dsimp only [LockClient.abs]
      rw [hverdict]
      rfl
  | clear k c trapped cs hk =>
      have hverdict : undefVerdict s.abs.gUndefFlag
          = (msErrorUndefinst, 0) := if_pos (hs.raised k c trapped cs hk)
      refine abs_steps (k := k) (c := .tested cs) rfl ?_
      rw [flagStep, hat k _ hk]
      dsimp only [LockClient.abs]
      rw [hverdict]
      rfl
  | leaveTest k cs hk =>
      exact abs_stays (k := k) (c := .kicking cs) rfl rfl rfl
        (by rw [hk]; rfl)
  | done k hk =>
      refine abs_steps (k := k) (c := .idle) rfl ?_
      rw [flagStep, hat k _ hk]
      rfl

omit [DecidableEq κ] in
theorem lockInv_boot : LockInv (LockState.boot : LockState κ) where
  toLockOk := lock_boot
  raised := by
    intro k c trapped cs hk
    exact absurd hk (by simp [LockState.boot])

-- ============================================================== whole runs

/-- A read that traps. -/
def LockEvent.traps : LockEvent κ → Bool
  | .read _ trapped => trapped
  | _ => false

/-- What a client's read does. -/
def lockReadBy (k : κ) : LockEvent κ → List Bool
  | .read k' trapped => if k' = k then [trapped] else []
  | _ => []

theorem lockEmit_reads (k : κ) (h : lockStep s e = some t) :
    (lockEmit s e).toList.flatMap (readBy k) = lockReadBy k e := by
  cases lockStep_arm h with
  | read k' trapped c cs hk => simp [lockEmit, readBy, lockReadBy]
  | lower k' cpus hk => simp [lockEmit, hk, readBy, lockReadBy]
  | loadRaised k' c trapped cs hflag hk =>
      simp [lockEmit, hflag, lockReadBy]
  | loadLowered k' c trapped cs hflag hk =>
      rw [lockEmit, if_neg hflag]
      rfl
  | _ => rfl

theorem lockEmit_traps (h : lockStep s e = some t) :
    (lockEmit s e).any FlagEvent.traps = e.traps := by
  cases lockStep_arm h with
  | lower k' cpus hk =>
      simp [lockEmit, hk, FlagEvent.traps, LockEvent.traps]
  | loadRaised k' c trapped cs hflag hk =>
      simp [lockEmit, hflag, LockEvent.traps]
  | loadLowered k' c trapped cs hflag hk =>
      rw [lockEmit, if_neg hflag]
      rfl
  | _ => rfl

theorem lock_run (hsafe : Guarded lockStep lockAlone LockState.boot es)
    (hrun : run lockStep LockState.boot es = some s) :
    run flagStep FlagState.boot
        (emitted lockStep lockEmit LockState.boot es) = some s.abs :=
  hsafe.refines LockState.abs (fun _ _ _ => lockStep_inv)
    (fun _ _ _ hs _ => lockStep_emits hs) lockInv_boot hrun

/-- A run that initialises no lock over somebody's head is a run of the
atomic steps, with the same reads of every client, the same flag and the
same statuses. -/
theorem lock_refines
    (hsafe : Guarded lockStep lockAlone LockState.boot es)
    (hrun : run lockStep LockState.boot es = some s) :
    run flagStep FlagState.boot
        (emitted lockStep lockEmit LockState.boot es) = some s.abs
      ∧ ∀ k, (emitted lockStep lockEmit LockState.boot es).flatMap
        (readBy k) = es.flatMap (lockReadBy k) :=
  ⟨lock_run hsafe hrun, fun k =>
    emitted_flatMap (f := lockReadBy k)
      (fun _ _ _ h => lockEmit_reads k h) hrun⟩

/-- Then no trap is reported twice. -/
theorem lock_once (hsafe : Guarded lockStep lockAlone LockState.boot es)
    (hrun : run lockStep LockState.boot es = some s) :
    undefinedCount s.abs ≤ es.countP LockEvent.traps := by
  have habs := lock_run hsafe hrun
  have hmade : tally flagStep trapMade FlagState.boot
      (emitted lockStep lockEmit LockState.boot es)
      = es.countP LockEvent.traps :=
    (tally_countP (fun _ _ => rfl) habs).trans
      (emitted_countP (p := LockEvent.traps)
        (fun _ _ _ h => lockEmit_traps h) hrun)
  have haccount := flag_account habs
  omega

-- ================================================================ instances

/-- One client's request, its read a trap. -/
def lockedRead : List (LockEvent (Fin 3)) :=
  [.spinLockInit 0 [0], .spinLock 0, .lower 0, .spinUnlock 0,
    .read 0 true, .spinLock 0, .load 0, .clear 0, .spinUnlock 0, .done 0]

theorem lockedRead_alone :
    Guarded lockStep lockAlone LockState.boot lockedRead := by
  refine Guarded.cons rfl (fun _ => rfl) ?_
  refine Guarded.cons rfl trivial ?_
  refine Guarded.cons rfl trivial ?_
  refine Guarded.cons rfl trivial ?_
  refine Guarded.cons rfl trivial ?_
  refine Guarded.cons rfl trivial ?_
  refine Guarded.cons rfl trivial ?_
  refine Guarded.cons rfl trivial ?_
  refine Guarded.cons rfl trivial ?_
  exact Guarded.cons rfl trivial trivial

theorem lock_refines_read :
    ∃ s, run lockStep LockState.boot lockedRead = some s
      ∧ run flagStep FlagState.boot
          (emitted lockStep lockEmit LockState.boot lockedRead)
        = some s.abs
      ∧ ∀ k, (emitted lockStep lockEmit LockState.boot
          lockedRead).flatMap (readBy k)
        = lockedRead.flatMap (lockReadBy k) :=
  ⟨_, rfl, lock_refines lockedRead_alone rfl⟩

theorem lock_once_read :
    ∃ s, run lockStep LockState.boot lockedRead = some s
      ∧ undefinedCount s.abs ≤ lockedRead.countP LockEvent.traps :=
  ⟨_, rfl, lock_once lockedRead_alone rfl⟩

/-- A third client comes in while the first is about to clear the flag,
and the second finds the lock free and the flag up. -/
def twiceReported : List (LockEvent (Fin 3)) :=
  [.spinLockInit 0 [0], .spinLock 0, .lower 0, .spinUnlock 0,
    .spinLockInit 1 [1], .spinLock 1, .lower 1, .spinUnlock 1,
    .read 0 true, .read 1 false, .spinLock 0, .load 0,
    .spinLockInit 2 [], .spinLock 1, .load 1, .clear 0, .clear 1]

/-- One trap, two reports. -/
theorem lock_broken :
    ∃ s, run lockStep LockState.boot twiceReported = some s
      ∧ undefinedCount s.abs = 2
      ∧ twiceReported.countP LockEvent.traps = 1 :=
  ⟨_, rfl, rfl, rfl⟩

end Maplesyrup
