/-
Runs against a schedule of allocation failures: which allocations a run
makes, in order, and which of them stop it when they fail.

`Makes` describes a run up to some point by its allocation sites and by
what is left of it there, so that runs are put together by `trans`. A
run whose first failing allocation stops it ends failed; one without a
failing allocation ends as if none could fail. `Lockstep` is the
counterpart for loops that carry the schedule in their state, with as
many allocations as the state's lists grow by.
-/
import Maplesyrup.Base.Grow

namespace Maplesyrup.Base

variable {κ τ σ ι ρ β : Type*}

/-- The first allocation to fail is number `n`. -/
def FailsAt (n : Nat) (a : Schedule) : Prop :=
  (∀ k < n, a k = true) ∧ a n = false

theorem FailsAt.after {m n : Nat} {a : Schedule}
    (h : FailsAt (m + n) a) : FailsAt n (Base.after a m) := by
  obtain ⟨hbefore, hfails⟩ := h
  refine ⟨fun k hk => hbefore (k + m) (by omega), ?_⟩
  show a (n + m) = false
  rwa [Nat.add_comm]

theorem succeed_or_failsAt (n : Nat) (a : Schedule) :
    Succeed n a ∨ ∃ k < n, FailsAt k a := by
  induction n with
  | zero => exact Or.inl fun k hk => absurd hk (by omega)
  | succ n ih =>
      rcases ih with hsucceed | ⟨k, hk, hfails⟩
      · cases hn : a n with
        | false => exact Or.inr ⟨n, by omega, hsucceed, hn⟩
        | true =>
            refine Or.inl fun k hk => ?_
            rcases Nat.lt_succ_iff_lt_or_eq.1 hk with hlt | rfl
            · exact hsucceed k hlt
            · exact hn
      · exact Or.inr ⟨k, by omega, hfails⟩

-- ============================================================ their sites

/-- `f` makes the allocations `sites` and goes on as `rest`; where the
first to fail stops it, it ends as `failed` says. -/
structure Makes (stops : κ → Bool) (failed : τ → Prop)
    (f : Schedule → τ) (sites : List κ) (rest : Schedule → τ) :
    Prop where
  goes : ∀ a, Succeed sites.length a → f a = rest (after a sites.length)
  ends : ∀ a n s, FailsAt n a → sites[n]? = some s → stops s = true →
    failed (f a)

variable {stops : κ → Bool} {failed : τ → Prop}
  {f g h : Schedule → τ} {sites sites' : List κ}

theorem Makes.nothing (hfg : ∀ a, f a = g a) :
    Makes stops failed f [] g where
  goes a _ := hfg a
  ends a n s _ hs := by simp at hs

/-- Allocations whose failure does not stop the run. -/
theorem Makes.ignoring (hs : ∀ s ∈ sites, stops s = false)
    (hf : ∀ a, Succeed sites.length a →
      f a = g (after a sites.length)) :
    Makes stops failed f sites g where
  goes := hf
  ends a k s _ hk hstop := by
    rw [hs s (List.mem_of_getElem? hk)] at hstop
    cases hstop

/-- Allocations each of which stops it. -/
theorem Makes.stopping (s : κ) {n : Nat}
    (hf : ∀ a, Succeed n a → f a = g (after a n))
    (hstop : ∀ a k, FailsAt k a → k < n → failed (f a)) :
    Makes stops failed f (List.replicate n s) g where
  goes a ha := by
    rw [List.length_replicate] at ha ⊢
    exact hf a ha
  ends a k s' ha hk _ := by
    have hlen := (List.getElem?_eq_some_iff.1 hk).1
    rw [List.length_replicate] at hlen
    exact hstop a k ha hlen

/-- One run behind the other. -/
theorem Makes.trans (hf : Makes stops failed f sites g)
    (hg : Makes stops failed g sites' h) :
    Makes stops failed f (sites ++ sites') h where
  goes a ha := by
    rw [List.length_append] at ha ⊢
    rw [hf.goes a (ha.mono (Nat.le_add_right _ _)),
      hg.goes _ ha.after, after_after]
  ends a n s ha hs hstop := by
    rcases Nat.lt_or_ge n sites.length with hlt | hge
    · rw [List.getElem?_append_left hlt] at hs
      exact hf.ends a n s ha hs hstop
    · rw [List.getElem?_append_right hge] at hs
      obtain ⟨m, rfl⟩ := Nat.exists_eq_add_of_le hge
      rw [Nat.add_sub_cancel_left] at hs
      rw [hf.goes a fun k hk => ha.1 k (by omega)]
      exact hg.ends _ m s ha.after hs hstop

/-- A run whose first failing allocation, if any, stops it ends failed,
or as without failures. -/
theorem Makes.outcome (hf : Makes stops failed f sites g) {a : Schedule}
    (ha : ∀ n s, FailsAt n a → sites[n]? = some s → stops s = true) :
    failed (f a) ∨ f a = g (after a sites.length) := by
  rcases succeed_or_failsAt sites.length a with h | ⟨n, hn, h⟩
  · exact Or.inr (hf.goes a h)
  · have hs := List.getElem?_eq_getElem hn
    exact Or.inl (hf.ends a n _ h hs (ha n _ h hs))

-- ======================================================= one list's elements

/-- The run appends `ys` to `out`, with an allocation for each element,
and gives up at the first that fails, with the elements before it. -/
structure Appends (done failed : ρ)
    (f : Schedule → Option (ρ × List β × Schedule)) (out ys : List β) :
    Prop where
  whole : ∀ a, Succeed ys.length a →
    f a = some (done, out ++ ys, after a ys.length)
  short : ∀ a n, FailsAt n a → n < ys.length →
    f a = some (failed, out ++ ys.take n, after a (n + 1))

section Appends

variable {done failed : ρ} {out ys : List β}
  {f g : Schedule → Option (ρ × List β × Schedule)}

theorem Appends.nil (hf : ∀ a, f a = some (done, out, a)) :
    Appends done failed f out [] where
  whole a _ := by rw [hf, List.append_nil, List.length_nil, after_zero]
  short a n _ hn := absurd hn (Nat.not_lt_zero n)

/-- One element, then the others. -/
theorem Appends.cons {y : β}
    (hfails : ∀ a, a 0 = false → f a = some (failed, out, after a 1))
    (hgoes : ∀ a, a 0 = true → f a = g (after a 1))
    (hg : Appends done failed g (out ++ [y]) ys) :
    Appends done failed f out (y :: ys) where
  whole a ha := by
    rw [List.length_cons, Nat.add_comm] at ha
    rw [hgoes a (ha 0 (by omega)), hg.whole _ ha.after, List.append_assoc,
      after_after, List.length_cons, Nat.add_comm]
    rfl
  short a n ha hn := by
    cases n with
    | zero =>
        rw [hfails a ha.2, List.take_zero, List.append_nil]
    | succ n =>
        rw [Nat.add_comm] at ha
        rw [hgoes a (ha.1 0 (by omega)),
          hg.short _ n ha.after (Nat.lt_of_succ_lt_succ hn),
          List.append_assoc, after_after, Nat.add_comm 1]
        rfl

end Appends

-- ================================================ loops over a state with it

/-- With `n` more successes to come the step grows the state's lists by
`n` elements, as it does when none fails. -/
def Lockstep (set : Schedule → σ → σ) (size : σ → Nat) (step : σ → σ) :
    Prop :=
  ∀ s, ∃ n, size (step (set (fun _ => true) s)) = size s + n
    ∧ ∀ a, Succeed n a →
      step (set a s) = set (after a n) (step (set (fun _ => true) s))

variable {set : Schedule → σ → σ} {size : σ → Nat}

/-- A loop of such steps is one. -/
theorem Lockstep.foldl {step : σ → ι → σ} (l : List ι)
    (hset : ∀ a b s, set a (set b s) = set a s)
    (hsize : ∀ a s, size (set a s) = size s)
    (hstep : ∀ x ∈ l, Lockstep set size fun s => step s x) :
    Lockstep set size fun s => l.foldl step s := by
  induction l with
  | nil =>
      intro s
      refine ⟨0, hsize _ s, fun a _ => ?_⟩
      show set a s = set (after a 0) (set _ s)
      rw [hset, after_zero]
  | cons x l ih =>
      intro s
      obtain ⟨n, hsize, hn⟩ := hstep x (List.mem_cons_self ..) s
      obtain ⟨m, hmore, hm⟩ :=
        ih (fun y hy => hstep y (List.mem_cons_of_mem _ hy))
          (step (set (fun _ => true) s) x)
      -- without failures the state carries the schedule without failures
      have hok : set (fun _ => true) (step (set (fun _ => true) s) x)
          = step (set (fun _ => true) s) x :=
        (hn (fun _ => true) fun _ _ => rfl).symm
      dsimp only at hmore hm hsize hn
      rw [hok, hsize] at hmore
      refine ⟨n + m, hmore.trans (Nat.add_assoc _ _ _), fun a ha => ?_⟩
      have hfirst := hn a (ha.mono (Nat.le_add_right _ _))
      have hrest := hm (after a n) ha.after
      rw [hok] at hrest
      show l.foldl step (step (set a s) x) = _
      rw [hfirst, hrest, after_after]
      rfl

end Maplesyrup.Base
