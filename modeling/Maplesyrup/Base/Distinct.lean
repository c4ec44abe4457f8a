/-
Quick checks of long lists.

That the numbers of a list are distinct: the ones seen so far are the
bits of one number. Elements that are not small numbers are told apart
by a key that is; a key that happens to confuse two of them only makes
the check refuse a list, never accept one.

That a name never stands for two values: the pairs seen so far are
collected, and a pair that repeats is found by its value first, which is
quicker to compare.
-/
import Mathlib

namespace Maplesyrup.Base

variable {α : Type*}

/-- The numbers are distinct, and none is a bit of `seen`. -/
def unseen (seen : Nat) : List Nat → Bool
  | [] => true
  | n :: l => !seen.testBit n && unseen (seen ||| 1 <<< n) l

/-- Marking a number marks it and no other. -/
theorem testBit_mark (seen n m : Nat) :
    (seen ||| 1 <<< n).testBit m = (seen.testBit m || decide (n = m)) := by
  rw [Nat.testBit_or, Nat.one_shiftLeft, Nat.testBit_two_pow]

theorem unseen_sound {seen : Nat} {l : List Nat}
    (h : unseen seen l = true) :
    l.Nodup ∧ ∀ n ∈ l, seen.testBit n = false := by
  induction l generalizing seen with
  | nil => exact ⟨List.nodup_nil, fun n hn => absurd hn List.not_mem_nil⟩
  | cons n l ih =>
      rw [unseen, Bool.and_eq_true] at h
      obtain ⟨hn, hl⟩ := h
      obtain ⟨hnd, hmarked⟩ := ih hl
      have hrest : ∀ m ∈ l, seen.testBit m = false ∧ n ≠ m := by
        intro m hm
        have hm' := hmarked m hm
        rw [testBit_mark, Bool.or_eq_false_iff] at hm'
        exact ⟨hm'.1, of_decide_eq_false hm'.2⟩
      refine ⟨List.nodup_cons.2 ⟨fun hmem => (hrest n hmem).2 rfl, hnd⟩,
        fun m hm => ?_⟩
      rcases List.mem_cons.1 hm with rfl | hm
      · simpa using hn
      · exact (hrest m hm).1

/-- A list whose elements have distinct small keys has no duplicates. -/
theorem nodup_of_unseen (key : α → Nat) {l : List α}
    (h : unseen 0 (l.map key) = true) : l.Nodup :=
  (unseen_sound h).1.of_map key

-- ===================================================== names and values

section Names

variable {κ ν : Type*} [BEq κ] [BEq ν]

/-- The pairs of `seen` and of the list, each once; `none` if a name that
is not `free` comes with two values. -/
def collect (free : κ → Bool) (seen : List (κ × ν)) :
    List (κ × ν) → Option (List (κ × ν))
  | [] => some seen
  | (k, v) :: l =>
      if seen.any fun q => q.2 == v && q.1 == k then collect free seen l
      else if free k || !seen.any fun q => q.1 == k then
        collect free ((k, v) :: seen) l
      else none

/-- A name that is not `free` stands for one value. -/
def OneValue (free : κ → Bool) (pairs : List (κ × ν)) : Prop :=
  ∀ p ∈ pairs, ∀ q ∈ pairs, p.1 = q.1 → p.2 = q.2 ∨ free p.1 = true

variable [LawfulBEq κ] [LawfulBEq ν] {free : κ → Bool}

omit [BEq κ] [BEq ν] [LawfulBEq κ] [LawfulBEq ν] in
theorem OneValue.cons {seen : List (κ × ν)} {p : κ × ν}
    (hseen : OneValue free seen)
    (hp : free p.1 = true ∨ ∀ q ∈ seen, q.1 ≠ p.1) :
    OneValue free (p :: seen) := by
  intro a ha b hb hab
  rcases List.mem_cons.1 ha with rfl | ha'
  · rcases List.mem_cons.1 hb with rfl | hb'
    · exact Or.inl rfl
    · rcases hp with hfree | hnew
      · exact Or.inr hfree
      · exact absurd hab.symm (hnew b hb')
  · rcases List.mem_cons.1 hb with rfl | hb'
    · rcases hp with hfree | hnew
      · exact Or.inr (hab ▸ hfree)
      · exact absurd hab (hnew a ha')
    · exact hseen a ha' b hb' hab

theorem collect_sound {seen l pairs : List (κ × ν)}
    (h : collect free seen l = some pairs) (hseen : OneValue free seen) :
    OneValue free pairs ∧ (∀ p ∈ seen, p ∈ pairs) ∧ ∀ p ∈ l, p ∈ pairs := by
  induction l generalizing seen with
  | nil =>
      obtain rfl := Option.some.inj h
      exact ⟨hseen, fun p hp => hp, fun p hp => absurd hp List.not_mem_nil⟩
  | cons p l ih =>
      obtain ⟨k, v⟩ := p
      rw [collect] at h
      split at h
      · rename_i hrepeat
        obtain ⟨hone, hkeep, hl⟩ := ih h hseen
        obtain ⟨q, hq, hqp⟩ := List.any_eq_true.1 hrepeat
        have heq : q = (k, v) := by
          rw [Bool.and_eq_true, beq_iff_eq, beq_iff_eq] at hqp
          exact Prod.ext hqp.2 hqp.1
        refine ⟨hone, hkeep, fun p hp => ?_⟩
        rcases List.mem_cons.1 hp with rfl | hp
        · exact heq ▸ hkeep q hq
        · exact hl p hp
      · split at h
        · rename_i hnew
          have hcons : OneValue free ((k, v) :: seen) := by
            refine hseen.cons ?_
            rw [Bool.or_eq_true] at hnew
            refine hnew.imp_right fun hno q hq hqk => ?_
            have hseen' : (seen.any fun q => q.1 == k) = true :=
              List.any_eq_true.2 ⟨q, hq, by simp [hqk]⟩
            rw [hseen'] at hno
            exact absurd hno (by decide)
          obtain ⟨hone, hkeep, hl⟩ := ih h hcons
          refine ⟨hone, fun p hp => hkeep p (List.mem_cons_of_mem _ hp),
            fun p hp => ?_⟩
          rcases List.mem_cons.1 hp with rfl | hp
          · exact hkeep _ (List.mem_cons_self ..)
          · exact hl p hp
        · exact absurd h (by simp)

/-- What a check of the collected pairs says of the list. -/
theorem oneValue_of_collect {l : List (κ × ν)}
    {check : List (κ × ν) → Bool}
    (h : (collect free [] l).any check = true) :
    ∃ pairs, check pairs = true ∧ OneValue free pairs
      ∧ ∀ p ∈ l, p ∈ pairs := by
  cases hc : collect free [] l with
  | none => simp [hc] at h
  | some pairs =>
      obtain ⟨hone, -, hl⟩ := collect_sound hc
        fun p hp => absurd hp List.not_mem_nil
      exact ⟨pairs, by simpa [hc] using h, hone, hl⟩

end Names

end Maplesyrup.Base
