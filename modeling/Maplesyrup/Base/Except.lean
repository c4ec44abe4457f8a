/-
Fallible steps in sequence: what the first of two must have done for the
whole to succeed, or to fail with a given error, and a loop of them in
step with one that cannot fail.
-/
import Mathlib

namespace Maplesyrup.Base

variable {ε α β : Type}

@[simp] theorem ok_bind (a : α) (f : α → Except ε β) :
    (Except.ok a >>= f) = f a := rfl

@[simp] theorem error_bind (e : ε) (f : α → Except ε β) :
    ((Except.error e : Except ε α) >>= f) = .error e := rfl

/-- A sequence succeeds when both steps do. -/
theorem bind_eq_ok {x : Except ε α} {f : α → Except ε β} {b : β} :
    x >>= f = .ok b ↔ ∃ a, x = .ok a ∧ f a = .ok b := by
  cases x with
  | error e =>
      refine iff_of_false (fun h => by cases h) ?_
      intro hex
      obtain ⟨a, ha, -⟩ := hex
      cases ha
  | ok a =>
      constructor
      · exact fun h => ⟨a, rfl, h⟩
      · intro hex
        obtain ⟨a', ha, h⟩ := hex
        cases ha
        exact h

/-- It fails in its first step or in the second. -/
theorem bind_eq_error {x : Except ε α} {f : α → Except ε β} {e : ε} :
    x >>= f = .error e
      ↔ x = .error e ∨ ∃ a, x = .ok a ∧ f a = .error e := by
  cases x with
  | error e' =>
      constructor
      · intro h
        cases h
        exact Or.inl rfl
      · intro hcase
        rcases hcase with h | ⟨a, ha, -⟩
        · cases h
          rfl
        · cases ha
  | ok a =>
      constructor
      · exact fun h => Or.inr ⟨a, rfl, h⟩
      · intro hcase
        rcases hcase with h | ⟨a', ha, h⟩
        · cases h
        · cases ha
          exact h

-- ==================================================================== loops

section Loop

variable {σ τ ι : Type} {f : σ → ι → Except ε σ} {g : τ → ι → τ}
  {R : σ → τ → Prop} {room : τ → Prop} {l : List ι}

/-- What has room at the end had it all along. -/
theorem foldl_room (hroom : ∀ x ∈ l, ∀ t, room (g t x) → room t) {t : τ}
    (hend : room (l.foldl g t)) : room t := by
  induction l generalizing t with
  | nil => exact hend
  | cons x l ih =>
      have hrest : ∀ y ∈ l, ∀ t, room (g t y) → room t :=
        fun y hy => hroom y (List.mem_cons_of_mem _ hy)
      exact hroom x (List.mem_cons_self ..) t (ih hrest hend)

/-- A loop whose passes succeed while there is room, in step with one
that ends with room. -/
theorem foldlM_refines
    (hstep : ∀ x ∈ l, ∀ s t, R s t → room (g t x) →
      ∃ s', f s x = .ok s' ∧ R s' (g t x))
    (hroom : ∀ x ∈ l, ∀ t, room (g t x) → room t) {s : σ} {t : τ}
    (h : R s t) (hend : room (l.foldl g t)) :
    ∃ s', l.foldlM f s = .ok s' ∧ R s' (l.foldl g t) := by
  induction l generalizing s t with
  | nil => exact ⟨s, rfl, h⟩
  | cons x l ih =>
      have hrest : ∀ y ∈ l, ∀ t, room (g t y) → room t :=
        fun y hy => hroom y (List.mem_cons_of_mem _ hy)
      obtain ⟨s', hx, h'⟩ := hstep x (List.mem_cons_self ..) s t h
        (foldl_room hrest hend)
      have hl := ih (fun y hy => hstep y (List.mem_cons_of_mem _ hy))
        hrest h' hend
      rw [List.foldlM_cons, hx]
      exact hl

end Loop

end Maplesyrup.Base
