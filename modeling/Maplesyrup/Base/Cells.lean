/-
Loops over an array in which pass `c` works on cell `c` and on no other:
after the loop every visited cell holds its own update of what it held
before, every other cell what it held. Nothing a pass does can leak into
another's cell except through the rest of the state, which the loop
invariant `I` pins down. Beside them the loops that work on one cell in
every pass: by one idempotent update, by overwriting it now and then, by
appending to it.
-/
import Mathlib

namespace Maplesyrup.Base

variable {σ ι κ α : Type*}

/-- An invariant that every pass of a loop keeps holds after the loop. -/
theorem foldl_keeps {I : σ → Prop} {step : σ → ι → σ} {l : List ι}
    (hstep : ∀ s, ∀ c ∈ l, I s → I (step s c)) {s : σ} (hs : I s) :
    I (l.foldl step s) :=
  List.foldlRecOn l step hs fun s hs c hc => hstep s c hc hs

/-- The cells after a loop of cell-local passes. `idx k` names the pass
that works on cell `k`. -/
theorem foldl_cell [DecidableEq ι] {I : σ → Prop} {step : σ → ι → σ}
    {l : List ι} (get : σ → κ → α) (upd : κ → α → α) (idx : κ → ι)
    (hnd : l.Nodup)
    (hkeep : ∀ s, ∀ c ∈ l, I s → I (step s c))
    (hcell : ∀ s, ∀ c ∈ l, I s → ∀ k,
      get (step s c) k = if idx k = c then upd k (get s k) else get s k)
    {s : σ} (hs : I s) (k : κ) :
    get (l.foldl step s) k
      = if idx k ∈ l then upd k (get s k) else get s k := by
  induction l generalizing s with
  | nil => simp
  | cons c l ih =>
      obtain ⟨hc, hnd⟩ := List.nodup_cons.1 hnd
      have hpass := hcell s c (List.mem_cons_self ..) hs k
      have hrest := ih hnd
        (fun s c hc => hkeep s c (List.mem_cons_of_mem _ hc))
        (fun s c hc => hcell s c (List.mem_cons_of_mem _ hc))
        (hkeep s c (List.mem_cons_self ..) hs)
      rw [List.foldl_cons, hrest, hpass]
      by_cases hk : idx k = c
      · simp [hk, hc]
      · simp [hk]

/-- A cell on which every pass does the same idempotent update. -/
theorem foldl_idem {I : σ → Prop} {step : σ → ι → σ} {l : List ι}
    (get : σ → α) (upd : α → α)
    (hidem : ∀ a, upd (upd a) = upd a)
    (hkeep : ∀ s, ∀ c ∈ l, I s → I (step s c))
    (hget : ∀ s, ∀ c ∈ l, I s → get (step s c) = upd (get s))
    {s : σ} (hs : I s) (hl : l ≠ []) :
    get (l.foldl step s) = upd (get s) := by
  induction l generalizing s with
  | nil => exact absurd rfl hl
  | cons c l ih =>
      have hpass := hget s c (List.mem_cons_self ..) hs
      rw [List.foldl_cons]
      cases l with
      | nil => exact hpass
      | cons d l =>
          rw [ih (fun s c hc => hkeep s c (List.mem_cons_of_mem _ hc))
            (fun s c hc => hget s c (List.mem_cons_of_mem _ hc))
            (hkeep s c (List.mem_cons_self ..) hs)
            (List.cons_ne_nil d l), hpass, hidem]

/-- A cell some passes overwrite holds what the last of them wrote. -/
theorem foldl_last {I : σ → Prop} {step : σ → ι → σ} {l : List ι}
    (get : σ → α) (write : ι → Option α)
    (hkeep : ∀ s, ∀ c ∈ l, I s → I (step s c))
    (hget : ∀ s, ∀ c ∈ l, I s →
      get (step s c) = (write c).getD (get s))
    {s : σ} (hs : I s) :
    get (l.foldl step s) = (l.filterMap write).getLast?.getD (get s) := by
  induction l generalizing s with
  | nil => rfl
  | cons c l ih =>
      have hpass := hget s c (List.mem_cons_self ..) hs
      have hrest := ih
        (fun s c hc => hkeep s c (List.mem_cons_of_mem _ hc))
        (fun s c hc => hget s c (List.mem_cons_of_mem _ hc))
        (hkeep s c (List.mem_cons_self ..) hs)
      rw [List.foldl_cons, hrest, hpass]
      cases hc : write c with
      | none => rw [List.filterMap_cons_none hc]; rfl
      | some a =>
          rw [List.filterMap_cons_some hc, List.getLast?_cons]
          rfl

/-- A log every pass of a loop appends its own entries to. -/
theorem foldl_log {ε : Type*} {I : σ → Prop} {step : σ → ι → σ}
    {added : ι → List ε} {l : List ι} (log : σ → List ε)
    (hkeep : ∀ s, ∀ c ∈ l, I s → I (step s c))
    (hlog : ∀ s, ∀ c ∈ l, I s → log (step s c) = log s ++ added c)
    {s : σ} (hs : I s) :
    log (l.foldl step s) = log s ++ l.flatMap added := by
  induction l generalizing s with
  | nil => simp
  | cons c l ih =>
      have hrest := ih
        (fun s c hc => hkeep s c (List.mem_cons_of_mem _ hc))
        (fun s c hc => hlog s c (List.mem_cons_of_mem _ hc))
        (hkeep s c (List.mem_cons_self ..) hs)
      rw [List.foldl_cons, hrest, hlog s c (List.mem_cons_self ..) hs,
        List.flatMap_cons, List.append_assoc]

/-- What one pass of a loop sets up and every pass keeps holds after it. -/
theorem foldl_reaches {I Q : σ → Prop} {step : σ → ι → σ} {l : List ι}
    {c : ι} (hc : c ∈ l)
    (hkeep : ∀ s, ∀ x ∈ l, I s → I (step s x))
    (hstay : ∀ s, ∀ x ∈ l, I s → Q s → Q (step s x))
    (hset : ∀ s, I s → Q (step s c)) {s : σ} (hs : I s) :
    Q (l.foldl step s) := by
  obtain ⟨pre, post, rfl⟩ := List.append_of_mem hc
  have hpre : I (pre.foldl step s) :=
    foldl_keeps (fun s x hx => hkeep s x (List.mem_append_left _ hx)) hs
  have hpost : ∀ x ∈ post, x ∈ pre ++ c :: post := fun x hx =>
    List.mem_append_right _ (List.mem_cons_of_mem _ hx)
  rw [List.foldl_append, List.foldl_cons]
  exact (foldl_keeps (I := fun s => I s ∧ Q s)
    (fun s x hx h => ⟨hkeep s x (hpost x hx) h.1,
      hstay s x (hpost x hx) h.1 h.2⟩)
    ⟨hkeep _ c hc hpre, hset _ hpre⟩).2

/-- What holds after a loop held before it, or some pass brought it
about. -/
theorem foldl_found {Q : σ → Prop} {hit : σ → ι → Prop}
    {step : σ → ι → σ}
    (hstep : ∀ s c, Q (step s c) ↔ Q s ∨ hit s c) (l : List ι) (s : σ) :
    Q (l.foldl step s)
      ↔ Q s ∨ ∃ pre c post, l = pre ++ c :: post
          ∧ hit (pre.foldl step s) c := by
  induction l generalizing s with
  | nil => simp
  | cons c l ih =>
      rw [List.foldl_cons, ih, hstep, or_assoc]
      refine or_congr_right ?_
      constructor
      · intro hcase
        rcases hcase with h | ⟨pre, d, post, rfl, h⟩
        · exact ⟨[], c, l, rfl, h⟩
        · exact ⟨c :: pre, d, post, rfl, h⟩
      · intro hex
        obtain ⟨pre, d, post, hl, h⟩ := hex
        cases pre with
        | nil =>
            obtain ⟨rfl, -⟩ := List.cons.inj hl
            exact Or.inl h
        | cons c' pre =>
            obtain ⟨rfl, rfl⟩ := List.cons.inj hl
            exact Or.inr ⟨pre, d, post, rfl, h⟩

/-- A size no pass adds more than `k` to. -/
theorem foldl_size_le {step : σ → ι → σ} (size : σ → Nat) {k : Nat}
    (hsize : ∀ s c, size (step s c) ≤ size s + k) (l : List ι) (s : σ) :
    size (l.foldl step s) ≤ size s + l.length * k := by
  induction l generalizing s with
  | nil => exact Nat.le_add_right _ _
  | cons c l ih =>
      have hpass := hsize s c
      have hrest := ih (step s c)
      rw [List.foldl_cons, List.length_cons, Nat.succ_mul]
      omega

/-- A size every pass adds its own amount to. -/
theorem foldl_size {step : σ → ι → σ} {l : List ι} (size : σ → Nat)
    (added : ι → Nat) (hsize : ∀ s c, size (step s c) = size s + added c)
    (s : σ) :
    size (l.foldl step s) = size s + (l.map added).sum := by
  induction l generalizing s with
  | nil => rfl
  | cons c l ih =>
      rw [List.foldl_cons, ih, hsize, List.map_cons, List.sum_cons,
        Nat.add_assoc]

end Maplesyrup.Base
