/-
Lists whose elements have keys: a search by key when no two elements
share one, the list a loop builds when it takes only the first element
of each key, and a fallible loop that cannot fail.
-/
import Mathlib

namespace Maplesyrup.Base

variable {α β κ σ : Type*}

-- ======================================================== distinct keys

section Distinct

variable [BEq κ] [LawfulBEq κ] (key : α → κ) {l : List α}

/-- Every element is found under its own key. -/
theorem find?_key (hnd : (l.map key).Nodup) {x : α} (hx : x ∈ l) :
    l.find? (fun y => key y == key x) = some x := by
  cases hfind : l.find? fun y => key y == key x with
  | none =>
      have hno := List.find?_eq_none.1 hfind x hx
      exact absurd (beq_self_eq_true _) hno
  | some y =>
      have hy : y ∈ l := List.mem_of_find?_eq_some hfind
      have hkey : key y = key x := by simpa using List.find?_some hfind
      rw [List.inj_on_of_nodup_map hnd hy hx hkey]

/-- At its own index. -/
theorem findIdx?_key (hnd : (l.map key).Nodup) {i : Nat} {x : α}
    (hx : l[i]? = some x) :
    l.findIdx? (fun y => key y == key x) = some i := by
  obtain ⟨hi, rfl⟩ := List.getElem?_eq_some_iff.1 hx
  refine List.findIdx?_eq_some_iff_getElem.2
    ⟨hi, beq_self_eq_true _, fun j hji hkey => ?_⟩
  have hj : j < l.length := hji.trans hi
  have hsame : key l[j] = key l[i] := by simpa using hkey
  have hidx : (l.map key)[j]? = (l.map key)[i]? := by
    rw [List.getElem?_map, List.getElem?_map,
      List.getElem?_eq_getElem hj, List.getElem?_eq_getElem hi,
      Option.map_some, Option.map_some, hsame]
  have hjlen : j < (l.map key).length := by rwa [List.length_map]
  exact absurd ((List.getElem?_inj hjlen hnd).1 hidx)
    (Nat.ne_of_lt hji)

/-- Filtered by an element's key, a part of the list is that element or
nothing. -/
theorem filter_filter_key (hnd : (l.map key).Nodup) (p : α → Bool)
    {x : α} (hx : x ∈ l) :
    ((l.filter p).filter fun y => key x == key y)
      = if p x then [x] else [] := by
  induction l with
  | nil => exact absurd hx List.not_mem_nil
  | cons a l ih =>
      rw [List.map_cons, List.nodup_cons] at hnd
      obtain ⟨ha, hnd⟩ := hnd
      rcases List.mem_cons.1 hx with rfl | hx
      · have hrest : ((l.filter p).filter fun y => key x == key y)
            = [] := by
          refine List.filter_eq_nil_iff.2 fun y hy hkey => ha ?_
          have hy' : y ∈ l := (List.mem_filter.1 hy).1
          have hkey' : key x = key y := by simpa using hkey
          exact List.mem_map.2 ⟨y, hy', hkey'.symm⟩
        rw [List.filter_cons]
        cases hp : p x with
        | false => simpa [hp] using hrest
        | true => simp [hrest]
      · have hne : ¬ key x = key a := fun hkey =>
          ha (List.mem_map.2 ⟨x, hx, hkey⟩)
        rw [List.filter_cons]
        cases hp : p a with
        | false => simpa [hp] using ih hnd hx
        | true => simpa [hne] using ih hnd hx

end Distinct

-- ================================================= first of each key

section Dedup

variable [BEq κ]

/-- Append an element unless one with its key is there. -/
def insertKey (key : α → κ) (acc : List α) (x : α) : List α :=
  if acc.any fun y => key y == key x then acc else acc ++ [x]

/-- The first element of each key, in order. -/
def firsts (key : α → κ) (l : List α) : List α :=
  l.foldl (insertKey key) []

variable [LawfulBEq κ] {key : α → κ}

omit [LawfulBEq κ] in
theorem firsts_append (l : List α) (x : α) :
    firsts key (l ++ [x]) = insertKey key (firsts key l) x := by
  rw [firsts, List.foldl_append]
  rfl

/-- A key is kept iff it occurs. -/
theorem any_firsts (key : α → κ) (l : List α) (k : κ) :
    (firsts key l).any (fun y => key y == k)
      = l.any fun y => key y == k := by
  induction l using List.reverseRecOn generalizing k with
  | nil => rfl
  | append_singleton l a ih =>
      rw [firsts_append, insertKey, List.any_append]
      split
      · rename_i hseen
        by_cases hk : key a = k
        · subst hk
          rw [hseen]
          simp
        · rw [ih]
          simp [hk]
      · rw [List.any_append, ih]

/-- The kept elements are those that come first with their key. -/
theorem mem_firsts {l : List α} {x : α} :
    x ∈ firsts key l ↔ l.find? (fun y => key y == key x) = some x := by
  induction l using List.reverseRecOn with
  | nil => simp [firsts]
  | append_singleton l a ih =>
      have hany := any_firsts key l (key a)
      rw [firsts_append, insertKey, hany, List.find?_append]
      have hnone : l.find? (fun y => key y == key x) = none →
          (l.any fun y => key y == key a) = true → key a ≠ key x := by
        intro hno hseen hk
        obtain ⟨y, hy, hya⟩ := List.any_eq_true.1 hseen
        rw [hk] at hya
        exact List.find?_eq_none.1 hno y hy hya
      split
      · rename_i hseen
        rw [ih]
        cases hfind : l.find? fun y => key y == key x with
        | some y => rfl
        | none =>
            have hk := hnone hfind hseen
            simp [hk]
      · rename_i hseen
        rw [List.mem_append, List.mem_singleton, ih]
        cases hfind : l.find? fun y => key y == key x with
        | some y =>
            have hne : x ≠ a := by
              rintro rfl
              have hy := List.find?_some hfind
              exact hseen (List.any_eq_true.2 ⟨y,
                List.mem_of_find?_eq_some hfind, hy⟩)
            simp [hne]
        | none =>
            constructor
            · intro hcase
              rcases hcase with hcon | rfl
              · exact absurd hcon (by simp)
              · simp
            · intro hx
              rw [Option.none_or] at hx
              exact Or.inr (List.mem_singleton.1
                (List.mem_of_find?_eq_some hx))

/-- No key is kept twice. -/
theorem firsts_nodup (key : α → κ) (l : List α) :
    ((firsts key l).map key).Nodup := by
  induction l using List.reverseRecOn with
  | nil => exact List.nodup_nil
  | append_singleton l a ih =>
      rw [firsts_append, insertKey]
      split
      · exact ih
      · rename_i hseen
        rw [List.map_append, List.nodup_append]
        refine ⟨ih, List.nodup_singleton _, ?_⟩
        rintro k hk k' hk' rfl
        obtain ⟨y, hy, rfl⟩ := List.mem_map.1 hk
        have heq : key y = key a := by simpa using hk'
        exact hseen (List.any_eq_true.2 ⟨y, hy, by simp [heq]⟩)

omit [LawfulBEq κ] in
/-- No more are kept than there are. -/
theorem firsts_length_le (key : α → κ) (l : List α) :
    (firsts key l).length ≤ l.length := by
  induction l using List.reverseRecOn with
  | nil => exact Nat.le_refl _
  | append_singleton l a ih =>
      rw [firsts_append, insertKey, List.length_append]
      split
      · omega
      · rw [List.length_append]
        omega

omit [LawfulBEq κ] in
/-- A list is its kept elements and more. -/
theorem firsts_sublist (key : α → κ) (l : List α) :
    (firsts key l).Sublist l := by
  induction l using List.reverseRecOn with
  | nil => exact List.Sublist.refl _
  | append_singleton l a ih =>
      rw [firsts_append, insertKey]
      split
      · exact ih.trans (List.sublist_append_left l [a])
      · exact ih.append (List.Sublist.refl _)

/-- One element of each key of the list, each the first with its key,
in the order of the list. -/
structure FirstOfEach (key : α → κ) (l kept : List α) : Prop where
  distinct : (kept.map key).Nodup
  complete : ∀ x ∈ l, ∃ y ∈ kept, key y = key x
  first : ∀ y ∈ kept, l.find? (fun x => key x == key y) = some y
  ordered : kept.Sublist l

theorem firsts_firstOfEach (key : α → κ) (l : List α) :
    FirstOfEach key l (firsts key l) where
  distinct := firsts_nodup key l
  complete x hx := by
    have hany := any_firsts key l (key x)
    have hl : (l.any fun y => key y == key x) = true :=
      List.any_eq_true.2 ⟨x, hx, beq_self_eq_true _⟩
    rw [hl] at hany
    obtain ⟨y, hy, hkey⟩ := List.any_eq_true.1 hany
    exact ⟨y, hy, beq_iff_eq.1 hkey⟩
  first _ hy := mem_firsts.1 hy
  ordered := firsts_sublist key l

omit [LawfulBEq κ] in
/-- Taking first elements commutes with a map that keeps the key. -/
theorem foldl_insert_map {f : α → β} {key' : β → κ}
    (hkey : ∀ x, key' (f x) = key x) (l acc : List α) :
    l.foldl
        (fun acc x =>
          if acc.any fun y => key' y == key x then acc
          else acc ++ [f x])
        (acc.map f)
      = (l.foldl (insertKey key) acc).map f := by
  induction l generalizing acc with
  | nil => rfl
  | cons x l ih =>
      have hany : ((acc.map f).any fun y => key' y == key x)
          = acc.any fun y => key y == key x := by
        rw [List.any_map]
        congr 1
        funext y
        exact congrArg (· == key x) (hkey y)
      rw [List.foldl_cons, List.foldl_cons, hany, insertKey]
      split
      · exact ih acc
      · rw [← ih (acc ++ [x]), List.map_append]
        rfl

/-- What is behind its keys' first elements is dropped. -/
theorem firsts_append_seen {l m : List α}
    (h : ∀ y ∈ m, ∃ x ∈ l, key x = key y) :
    firsts key (l ++ m) = firsts key l := by
  induction m using List.reverseRecOn with
  | nil => rw [List.append_nil]
  | append_singleton m a ih =>
      obtain ⟨x, hx, hkey⟩ := h a (by simp)
      have hm := ih fun y hy => h y (List.mem_append_left _ hy)
      have hseen : ((firsts key (l ++ m)).any fun y => key y == key a)
          = true := by
        rw [any_firsts]
        exact List.any_eq_true.2
          ⟨x, List.mem_append_left _ hx, beq_iff_eq.2 hkey⟩
      rw [← List.append_assoc, firsts_append, insertKey, hseen, hm]
      rfl

omit [LawfulBEq κ] in
/-- Of images, the first elements are those of the keys behind the map. -/
theorem firsts_map (f : β → α) (l : List β) :
    firsts key (l.map f) = (firsts (fun x => key (f x)) l).map f := by
  induction l using List.reverseRecOn with
  | nil => rfl
  | append_singleton l a ih =>
      rw [List.map_append, List.map_singleton, firsts_append,
        firsts_append, insertKey, insertKey, ih, List.any_map]
      show (if (firsts (fun x => key (f x)) l).any
        (fun y => key (f y) == key (f a)) then _ else _) = _
      split
      · rfl
      · rw [List.map_append, List.map_singleton]

/-- A choice by the key can be made before or after. -/
theorem firsts_filter {p : α → Bool}
    (hp : ∀ x y, key x = key y → p x = p y) (l : List α) :
    (firsts key l).filter p = firsts key (l.filter p) := by
  induction l using List.reverseRecOn with
  | nil => rfl
  | append_singleton l a ih =>
      rw [firsts_append, insertKey, List.filter_append]
      cases ha : p a with
      | false =>
          have hnone : [a].filter p = [] := by
            simp [ha]
          rw [hnone, List.append_nil, ← ih]
          split
          · rfl
          · rw [List.filter_append, hnone, List.append_nil]
      | true =>
          have hone : [a].filter p = [a] := by
            simp [ha]
          have hany : ((firsts key l).any fun y => key y == key a)
              = (firsts key (l.filter p)).any fun y => key y == key a := by
            rw [any_firsts, any_firsts, List.any_filter]
            congr 1
            funext y
            cases hkey : key y == key a with
            | false => rw [Bool.and_false]
            | true =>
                rw [hp y a (beq_iff_eq.1 hkey), ha]
                rfl
          rw [hone, firsts_append, insertKey, ← hany, ← ih]
          split
          · rfl
          · rw [List.filter_append, hone]

/-- Of groups that have a key each, the first of a group stands for it. -/
theorem firsts_flatMap {g : β → List α}
    (hkey : ∀ x, ∀ y ∈ g x, ∀ z ∈ g x, key y = key z) (xs : List β) :
    firsts key (xs.flatMap g)
      = firsts key (xs.filterMap fun x => (g x).head?) := by
  induction xs using List.reverseRecOn with
  | nil => rfl
  | append_singleton xs x ih =>
      rw [List.flatMap_append, List.filterMap_append,
        List.flatMap_singleton]
      cases hgroup : g x with
      | nil =>
          simp only [List.filterMap_cons, hgroup, List.head?_nil,
            List.filterMap_nil, List.append_nil]
          exact ih
      | cons y ys =>
          have hone : [x].filterMap (fun x => (g x).head?) = [y] := by
            simp [hgroup]
          have hseen : firsts key (xs.flatMap g ++ [y] ++ ys)
              = firsts key (xs.flatMap g ++ [y]) := by
            refine firsts_append_seen fun z hz => ⟨y, by simp, ?_⟩
            refine hkey x y ?_ z ?_
            · rw [hgroup]
              exact List.mem_cons_self ..
            · rw [hgroup]
              exact List.mem_cons_of_mem _ hz
          rw [hone, firsts_append, ← ih, ← firsts_append, ← hseen,
            List.append_assoc]
          rfl

/-- Keys that tell the same elements apart keep the same ones. -/
theorem firsts_key {κ' : Type*} [BEq κ'] [LawfulBEq κ'] {key' : α → κ'}
    {l : List α}
    (h : ∀ x ∈ l, ∀ y ∈ l, key x = key y ↔ key' x = key' y) :
    firsts key l = firsts key' l := by
  induction l using List.reverseRecOn with
  | nil => rfl
  | append_singleton l a ih =>
      have hl := ih fun x hx y hy =>
        h x (List.mem_append_left _ hx) y (List.mem_append_left _ hy)
      have hany : ((firsts key l).any fun y => key y == key a)
          = (firsts key' l).any fun y => key' y == key' a := by
        rw [any_firsts, any_firsts, Bool.eq_iff_iff, List.any_eq_true,
          List.any_eq_true]
        refine exists_congr fun y => and_congr_right fun hy => ?_
        rw [beq_iff_eq, beq_iff_eq]
        exact h y (List.mem_append_left _ hy) a (by simp)
      rw [firsts_append, firsts_append, insertKey, insertKey, hany, hl]

end Dedup

-- ======================================================= loops that work

/-- A fallible loop each of whose passes succeeds is the plain loop. -/
theorem foldlM_some {step : σ → α → Option σ} {g : β → α → β}
    {l : List α} (mk : β → σ)
    (h : ∀ acc, ∀ x ∈ l, step (mk acc) x = some (mk (g acc x)))
    (acc : β) :
    l.foldlM step (mk acc) = some (mk (l.foldl g acc)) := by
  induction l generalizing acc with
  | nil => rfl
  | cons x l ih =>
      have hx := h acc x (List.mem_cons_self ..)
      have hl := ih (fun acc y hy => h acc y (List.mem_cons_of_mem _ hy))
        (g acc x)
      rw [List.foldlM_cons, hx]
      exact hl

/-- A fallible loop whose passes append elements with a property. -/
theorem foldlM_appends {step : List β × σ → α → Option (List β × σ)}
    {P : β → Prop} {l : List α}
    (h : ∀ x ∈ l, ∀ out c, ∃ ys d,
      step (out, c) x = some (out ++ ys, d) ∧ ∀ y ∈ ys, P y)
    (out : List β) (c : σ) :
    ∃ ys d, l.foldlM step (out, c) = some (out ++ ys, d)
      ∧ ∀ y ∈ ys, P y := by
  induction l generalizing out c with
  | nil =>
      refine ⟨[], c, ?_, fun y hy => absurd hy List.not_mem_nil⟩
      rw [List.append_nil]
      rfl
  | cons x l ih =>
      obtain ⟨ys, d, hx, hys⟩ := h x (List.mem_cons_self ..) out c
      obtain ⟨zs, e, hl, hzs⟩ :=
        ih (fun y hy => h y (List.mem_cons_of_mem _ hy)) (out ++ ys) d
      refine ⟨ys ++ zs, e, ?_, fun y hy => ?_⟩
      · rw [List.foldlM_cons, hx, ← List.append_assoc]
        exact hl
      · rcases List.mem_append.1 hy with hy | hy
        · exact hys y hy
        · exact hzs y hy

end Maplesyrup.Base
