/-
Computations that build a list out of elements that have to be
allocated. A schedule says which of the coming allocations succeed; a
computation grows its list by `ys` when, with `ys.length` successes to
come, it appends `ys` and uses up exactly these. What it appends may
depend on the list so far, but not on the schedule.
-/
import Mathlib

namespace Maplesyrup.Base

variable {α β : Type*}

/-- Which of the coming allocations succeed. -/
abbrev Schedule := Nat → Bool

/-- The schedule after `n` allocations. -/
def after (a : Schedule) (n : Nat) : Schedule := fun k => a (k + n)

/-- The next `n` allocations succeed. -/
def Succeed (n : Nat) (a : Schedule) : Prop := ∀ k < n, a k = true

@[simp] theorem after_zero (a : Schedule) : after a 0 = a := rfl

@[simp] theorem after_after (a : Schedule) (m n : Nat) :
    after (after a m) n = after a (m + n) := by
  funext k
  show a (k + n + m) = a (k + (m + n))
  congr 1
  omega

theorem Succeed.mono {m n : Nat} {a : Schedule} (h : Succeed n a)
    (hmn : m ≤ n) : Succeed m a :=
  fun k hk => h k (hk.trans_le hmn)

theorem Succeed.after {m n : Nat} {a : Schedule}
    (h : Succeed (m + n) a) : Succeed n (after a m) :=
  fun k hk => h (k + m) (by omega)

/-- At `out` the computation appends `ys`. -/
def Grows (f : List β × Schedule → Option (List β × Schedule))
    (out ys : List β) : Prop :=
  ∀ a, Succeed ys.length a →
    f (out, a) = some (out ++ ys, after a ys.length)

variable {f g : List β × Schedule → Option (List β × Schedule)}
  {out ys zs : List β}

/-- A computation that allocates nothing. -/
theorem Grows.none (h : ∀ a, f (out, a) = some (out, a)) :
    Grows f out [] := by
  intro a _
  rw [h, List.append_nil]
  rfl

/-- One that allocates one element. -/
theorem Grows.one {y : β}
    (h : ∀ a, a 0 = true → f (out, a) = some (out ++ [y], after a 1)) :
    Grows f out [y] :=
  fun a ha => h a (ha 0 Nat.one_pos)

/-- One after the other. -/
theorem Grows.comp (hf : Grows f out ys) (hg : Grows g (out ++ ys) zs) :
    Grows (fun s => f s >>= g) out (ys ++ zs) := by
  intro a ha
  rw [List.length_append] at ha
  have hfirst := hf a (ha.mono (Nat.le_add_right _ _))
  have hsecond := hg (after a ys.length) ha.after
  dsimp only
  rw [hfirst, List.length_append, ← after_after, ← List.append_assoc]
  exact hsecond

/-- A loop whose passes grow the list grows it. -/
theorem Grows.foldlM {step : List β × Schedule → α →
      Option (List β × Schedule)} {l : List α}
    (h : ∀ x ∈ l, ∀ out, ∃ ys, Grows (fun s => step s x) out ys)
    (out : List β) :
    ∃ ys, Grows (fun s => l.foldlM step s) out ys := by
  induction l generalizing out with
  | nil => exact ⟨[], Grows.none fun _ => rfl⟩
  | cons x l ih =>
      obtain ⟨ys, hx⟩ := h x (List.mem_cons_self ..) out
      obtain ⟨zs, hl⟩ :=
        ih (fun y hy => h y (List.mem_cons_of_mem _ hy)) (out ++ ys)
      exact ⟨ys ++ zs, hx.comp hl⟩

end Maplesyrup.Base
