/-
The hook list over whole runs of opens, ioctls and releases: it is sound
throughout exactly those runs in which the clients take turns.

While they do, the node is linked iff the one client is inside
(`HookInv`). The first open that finds somebody inside links the node a
second time, whatever happens later.
-/
import Maplesyrup.Base.Run
import Maplesyrup.Kernel.Hook

namespace Maplesyrup

open Base

variable {κ : Type*} [DecidableEq κ] {env : HookEnv}

/-- At most one client is inside, and the node is linked once for it;
nobody is when opens fail. -/
structure HookInv (env : HookEnv) (s : HookState κ) : Prop where
  linked : s.hooks.count .hookStruct = s.opened.card
  single : s.opened.card ≤ 1
  noReg : env.regUndefHookP = false → s.opened = ∅

omit [DecidableEq κ] in
theorem boot_hookInv (others : List Nat) :
    HookInv env (HookState.boot others : HookState κ) where
  linked := by
    show (others.map HookNode.other).count .hookStruct = 0
    rw [List.count_eq_zero]
    simp
  single := by
    show (∅ : Finset κ).card ≤ 1
    simp
  noReg := fun _ => rfl

omit [DecidableEq κ] in
theorem hookInv_ok {s : HookState κ} (hs : HookInv env s) : HookOk s := by
  refine ⟨hs.linked ▸ hs.single, fun hne => ?_⟩
  rw [← List.count_pos_iff, hs.linked]
  exact Finset.card_pos.2 hne

theorem msDelUndefInstrHook_eq (hooks : List HookNode) :
    msDelUndefInstrHook env hooks = hooks.erase .hookStruct := by
  unfold msDelUndefInstrHook unregisterUndefHook listDel
  split <;> rfl

/-- What each call does. -/
theorem hookStep_cases {s t : HookState κ} {e : HookEvent κ}
    (h : hookStep env s e = some t) :
    (∃ k, e = .msOpen k ∧ k ∉ s.opened ∧ env.regUndefHookP = false
        ∧ t = s)
      ∨ (∃ k, e = .msOpen k ∧ k ∉ s.opened ∧ env.regUndefHookP = true
        ∧ t = ⟨.hookStruct :: s.hooks, insert k s.opened⟩)
      ∨ (∃ k, e = .msIoctl k ∧ k ∈ s.opened ∧ t = s)
      ∨ (∃ k, e = .msRelease k ∧ k ∈ s.opened
        ∧ t = ⟨s.hooks.erase .hookStruct, s.opened.erase k⟩) := by
  cases e with
  | msOpen k =>
      rw [hookStep] at h
      split at h
      · contradiction
      · rename_i hk
        cases hreg : env.regUndefHookP with
        | false =>
            simp only [msAddUndefInstrHook, hreg] at h
            exact Or.inl ⟨k, rfl, hk, rfl, (Option.some.inj h).symm⟩
        | true =>
            simp only [msAddUndefInstrHook, hreg] at h
            exact Or.inr (Or.inl
              ⟨k, rfl, hk, rfl, (Option.some.inj h).symm⟩)
  | msIoctl k =>
      rw [hookStep] at h
      split at h
      · rename_i hk
        exact Or.inr (Or.inr (Or.inl
          ⟨k, rfl, hk, (Option.some.inj h).symm⟩))
      · contradiction
  | msRelease k =>
      rw [hookStep, msDelUndefInstrHook_eq] at h
      split at h
      · rename_i hk
        exact Or.inr (Or.inr (Or.inr
          ⟨k, rfl, hk, (Option.some.inj h).symm⟩))
      · contradiction

/-- Taking turns keeps the node and the client inside together. -/
theorem hookStep_inv {s t : HookState κ} {e : HookEvent κ}
    (hs : HookInv env s) (hsafe : openAlone s e)
    (h : hookStep env s e = some t) : HookInv env t := by
  rcases hookStep_cases h with ⟨k, rfl, -, -, rfl⟩
    | ⟨k, rfl, -, hreg, rfl⟩ | ⟨k, rfl, -, rfl⟩ | ⟨k, rfl, hk, rfl⟩
  · exact hs
  · have hnone : s.opened = ∅ := hsafe
    refine ⟨?_, ?_, fun hno => ?_⟩
    · show (HookNode.hookStruct :: s.hooks).count .hookStruct
        = (insert k s.opened).card
      rw [List.count_cons_self, hs.linked, hnone]
      rfl
    · show (insert k s.opened).card ≤ 1
      rw [hnone]
      exact le_refl 1
    · rw [hreg] at hno
      exact absurd hno (by decide)
  · exact hs
  · have hcard : (s.opened.erase k).card = s.opened.card - 1 :=
      Finset.card_erase_of_mem hk
    refine ⟨?_, ?_, fun hno => ?_⟩
    · show (s.hooks.erase .hookStruct).count .hookStruct
        = (s.opened.erase k).card
      rw [List.count_erase_self, hs.linked, hcard]
    · show (s.opened.erase k).card ≤ 1
      have hsingle := hs.single
      omega
    · show s.opened.erase k = ∅
      rw [hs.noReg hno]
      rfl

/-- An open that finds somebody inside links the node again. -/
theorem hookStep_lost {s t : HookState κ} {e : HookEvent κ}
    (hs : HookInv env s) (hbefore : ¬ openAlone s e)
    (h : hookStep env s e = some t) : ¬ HookOk t := by
  rcases hookStep_cases h with ⟨k, rfl, -, hreg, rfl⟩
    | ⟨k, rfl, -, -, rfl⟩ | ⟨k, rfl, -, rfl⟩ | ⟨k, rfl, hk, rfl⟩
  · exact absurd (hs.noReg hreg) hbefore
  · intro hall
    obtain ⟨honce, -⟩ := hall
    have hsome : 0 < s.opened.card :=
      Finset.card_pos.2 (Finset.nonempty_iff_ne_empty.2 hbefore)
    rw [show (⟨HookNode.hookStruct :: s.hooks, insert k s.opened⟩
      : HookState κ).hooks = .hookStruct :: s.hooks from rfl,
      List.count_cons_self, hs.linked] at honce
    omega
  · exact absurd trivial hbefore
  · exact absurd trivial hbefore

/-- The hook list is sound in every state of a run exactly when every
open of the run finds nobody inside. -/
theorem hook_runs_iff (env : HookEnv) (others : List Nat)
    (es : List (HookEvent κ)) :
    Throughout (hookStep env) HookOk (HookState.boot others) es
      ↔ Guarded (hookStep env) openAlone (HookState.boot others) es :=
  throughout_iff_guarded (fun _ => hookInv_ok)
    (fun _ _ _ => hookStep_inv) (fun _ _ _ => hookStep_lost) es
    (boot_hookInv others)

/-- Two clients with the device open at once. -/
theorem hook_runs_fail :
    ¬ ∀ (env : HookEnv) (others : List Nat)
        (es : List (HookEvent (Fin 2))),
        Throughout (hookStep env) HookOk (HookState.boot others) es := by
  intro h
  have htwice := ((h ⟨true, true⟩ [] [.msOpen 0, .msOpen 1]).2 _ rfl).2
    _ rfl
  exact absurd htwice.1 (by decide)

end Maplesyrup
