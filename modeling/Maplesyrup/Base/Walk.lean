/-
Singly linked lists in a memory of links: `next e` is the link of cell
`e`, `none` the null one. A walk follows the links from a pointer to
null and visits every cell on the way. A memory has at most one walk
from each pointer, so a walk cannot come back to a cell; and it sees no
link but those of the cells it visits, so what is written elsewhere does
not matter to it.
-/
import Mathlib

namespace Maplesyrup.Base

variable {α : Type*}

/-- Following the links from a pointer visits these cells, in order, and
ends in null. -/
inductive Walk (next : α → Option α) : Option α → List α → Prop
  | stop : Walk next none []
  | visit (e : α) (xs : List α) :
      Walk next (next e) xs → Walk next (some e) (e :: xs)

namespace Walk

variable {next next' : α → Option α} {p : Option α} {e t : α}
  {xs ys : List α}

/-- A walk starts at its first cell. -/
theorem head (h : Walk next p xs) : p = xs.head? := by
  cases h with
  | stop => rfl
  | visit e xs h => rfl

theorem rest (h : Walk next p (e :: xs)) : Walk next (next e) xs := by
  cases h with
  | visit e xs h => exact h

/-- There is one walk from a pointer at most. -/
theorem unique (h : Walk next p xs) (h' : Walk next p ys) : xs = ys := by
  induction h generalizing ys with
  | stop =>
      cases h' with
      | stop => rfl
  | visit e xs h ih =>
      cases h' with
      | visit e ys h' => rw [ih h']

/-- From each cell it visits the walk goes on. -/
theorem behind (h : Walk next p (xs ++ e :: ys)) :
    Walk next (some e) (e :: ys) := by
  induction xs generalizing p with
  | nil =>
      have hp := h.head
      rw [List.nil_append] at h
      rwa [hp] at h
  | cons x xs ih => exact ih h.rest

/-- It visits no cell twice. -/
theorem nodup (h : Walk next p xs) : xs.Nodup := by
  induction h with
  | stop => exact List.nodup_nil
  | visit e xs h ih =>
      refine List.nodup_cons.2 ⟨fun he => ?_, ih⟩
      -- a second visit would be followed by the cells behind the first
      obtain ⟨as, bs, rfl⟩ := List.append_of_mem he
      have hsame := unique (visit e _ h) h.behind
      have hlen := congrArg List.length hsame
      simp at hlen
      omega

/-- Only the links of the cells it visits are seen. -/
theorem congr (h : Walk next p xs) (hnext : ∀ e ∈ xs, next' e = next e) :
    Walk next' p xs := by
  induction h with
  | stop => exact stop
  | visit e xs h ih =>
      refine visit e xs ?_
      rw [hnext e (List.mem_cons_self ..)]
      exact ih fun x hx => hnext x (List.mem_cons_of_mem _ hx)

variable [DecidableEq α]

/-- Linking a cell behind the last one appends it. -/
theorem snoc (h : Walk next p (xs ++ [t])) (he : e ∉ xs ++ [t]) :
    Walk (Function.update (Function.update next t (some e)) e none) p
      (xs ++ [t] ++ [e]) := by
  have hnd := h.nodup
  induction xs generalizing p with
  | nil =>
      have hp := h.head
      rw [List.nil_append] at hp he ⊢
      have hne : t ≠ e := fun hte => he (by simp [hte])
      rw [hp]
      refine visit t [e] ?_
      rw [Function.update_of_ne hne, Function.update_self]
      refine visit e [] ?_
      rw [Function.update_self]
      exact stop
  | cons x xs ih =>
      have hp := h.head
      rw [List.cons_append] at hp he hnd h
      obtain ⟨hx, hnd⟩ := List.nodup_cons.1 hnd
      obtain ⟨hex, he⟩ := not_or.1 (mt List.mem_cons.2 he)
      have hxt : x ≠ t := fun hxt => hx (by simp [hxt])
      rw [hp]
      refine visit x _ ?_
      rw [Function.update_of_ne (Ne.symm hex), Function.update_of_ne hxt]
      exact ih h.rest he hnd

/-- A single cell. -/
theorem single (next : α → Option α) (e : α) :
    Walk (Function.update next e none) (some e) [e] := by
  refine visit e [] ?_
  rw [Function.update_self]
  exact stop

end Walk

end Maplesyrup.Base
