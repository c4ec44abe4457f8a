/-
What is in the lists?

A history of `ms_list_init`, `ms_list_add` and `ms_list_free` says what
each list holds: the elements added since it was last initialised or
freed (`Contents`). The memory represents that (`Represents`): from
every head the links walk through just these elements, the last is the
tail, the count is theirs, and no two lists share one. Each operation
works on one list, and what it writes (the link of its old tail, that of
the new element) is in no other (`Represents.change`).

The count is an `unsigned int`. Where a list gets to 2^32 elements it is
0 again, and `ms_list_free`, which asks the count, leaves such a list as
it is.
-/
import Maplesyrup.Base.Except
import Maplesyrup.Base.Run
import Maplesyrup.Base.Walk
import Maplesyrup.Library.Links

namespace Maplesyrup

open Base

namespace Links

variable {ι α : Type}

-- =========================================================== the statement

/-- An operation on the lists, or an element that is allocated. -/
inductive Op (ι α : Type)
  | init (list : Option ι)
  | add (list : Option ι) (toadd : Option α)
  | free (list : Option ι)
  | calloc (e : α)

/-- The list whose head an operation writes to. -/
def Op.list : Op ι α → Option ι
  | .init l => l
  | .add l _ => l
  | .free l => l
  | .calloc _ => none

def step [DecidableEq ι] [DecidableEq α] (s : Store ι α) :
    Op ι α → Option (Store ι α)
  | .init l => some (msListInit s l)
  | .add l e => (msListAdd s l e).toOption
  | .free l => (msListFree s l).toOption
  | .calloc e => some (calloc s e)

/-- Some list has the element. -/
def Linked (s : Store ι α) (e : α) : Prop :=
  ∃ l h xs, s.lists l = some h ∧ Walk s.next h.head xs ∧ e ∈ xs

/-- The list is initialised, what is added is allocated and in no list,
what is allocated is new. -/
def Proper (s : Store ι α) : Op ι α → Prop
  | .add (some l) (some e) =>
      s.lists l ≠ none ∧ e ∈ s.live ∧ ¬ Linked s e
  | .free (some l) => s.lists l ≠ none
  | .calloc e => e ∉ s.live
  | _ => True

/-- The count of a list of these elements. -/
def countOf (xs : List α) : U32 := .ofNat 32 xs.length

/-- What a history leaves in the lists, and which elements are
allocated. -/
structure Contents (ι α : Type) where
  of : ι → Option (List α)
  live : Finset α

def Contents.put [DecidableEq ι] (c : Contents ι α) (l : ι)
    (xs : List α) (live : Finset α) : Contents ι α :=
  ⟨Function.update c.of l (some xs), live⟩

def Contents.step [DecidableEq ι] [DecidableEq α] (c : Contents ι α) :
    Op ι α → Contents ι α
  | .init (some l) => c.put l [] c.live
  | .add (some l) (some e) =>
      match c.of l with
      | none => c
      | some xs => c.put l (xs ++ [e]) c.live
  | .free (some l) =>
      match c.of l with
      | none => c
      | some xs =>
          if countOf xs = 0 then c
          else c.put l [] (c.live \ xs.toFinset)
  | .calloc e => { c with live := insert e c.live }
  | _ => c

/-- The contents after a history, none of whose lists was initialised
before it. -/
def contents [DecidableEq ι] [DecidableEq α] (live : Finset α)
    (ops : List (Op ι α)) : Contents ι α :=
  ops.foldl Contents.step ⟨fun _ => none, live⟩

/-- The list is these elements. -/
structure Shape (s : Store ι α) (h : MsListHead α) (xs : List α) :
    Prop where
  walk : Walk s.next h.head xs
  live : ∀ e ∈ xs, e ∈ s.live
  tail : h.tail = xs.getLast?
  size : h.size = countOf xs

/-- The list is not initialised, or is these elements. -/
def ListAt (s : Store ι α) (l : ι) : Option (List α) → Prop
  | none => s.lists l = none
  | some xs => ∃ h, s.lists l = some h ∧ Shape s h xs

structure Represents (s : Store ι α) (c : Contents ι α) : Prop where
  lists : ∀ l, ListAt s l (c.of l)
  live : s.live = c.live
  apart : ∀ l m xs ys, l ≠ m → c.of l = some xs → c.of m = some ys →
    xs.Disjoint ys

-- ================================================================ the shapes

variable {s t : Store ι α} {c : Contents ι α} {l : ι} {e : α}
  {h : MsListHead α} {xs : List α}

theorem Represents.shape (hs : Represents s c) (hl : c.of l = some xs) :
    ∃ h, s.lists l = some h ∧ Shape s h xs := by
  have hat := hs.lists l
  rwa [hl] at hat

/-- An initialised list has contents. -/
theorem Represents.contents (hs : Represents s c) (hl : s.lists l ≠ none) :
    ∃ xs h, c.of l = some xs ∧ s.lists l = some h ∧ Shape s h xs := by
  have hat := hs.lists l
  cases hof : c.of l with
  | none =>
      rw [hof] at hat
      exact absurd hat hl
  | some xs =>
      rw [hof] at hat
      obtain ⟨h, hh, hshape⟩ := hat
      exact ⟨xs, h, rfl, hh, hshape⟩

theorem Represents.initialised (hs : Represents s c) :
    s.lists l ≠ none ↔ c.of l ≠ none := by
  have hat := hs.lists l
  cases hof : c.of l with
  | none =>
      rw [hof] at hat
      exact iff_of_false (not_not.2 hat) (not_not.2 rfl)
  | some xs =>
      rw [hof] at hat
      obtain ⟨h, hh, -⟩ := hat
      rw [hh]
      exact iff_of_true (by simp) (by simp)

/-- What is linked is in the contents of a list. -/
theorem Represents.linked (hs : Represents s c) :
    Linked s e ↔ ∃ l xs, c.of l = some xs ∧ e ∈ xs := by
  constructor
  · rintro ⟨l, h, xs, hh, hwalk, he⟩
    obtain ⟨ys, h', hof, hh', hshape⟩ :=
      hs.contents (l := l) (by simp [hh])
    rw [hh] at hh'
    obtain rfl := Option.some.inj hh'
    rw [hwalk.unique hshape.walk] at he
    exact ⟨l, ys, hof, he⟩
  · rintro ⟨l, xs, hof, he⟩
    obtain ⟨h, hh, hshape⟩ := hs.shape hof
    exact ⟨l, h, xs, hh, hshape.walk, he⟩

/-- A list with elements is walked from the first to the tail. -/
theorem Shape.head_none (hshape : Shape s h xs) :
    h.head = none ↔ xs = [] := by
  rw [hshape.walk.head, List.head?_eq_none_iff]

theorem Shape.tail_none (hshape : Shape s h xs) :
    h.tail = none ↔ xs = [] := by
  rw [hshape.tail, List.getLast?_eq_none_iff]

theorem Shape.empty (s : Store ι α) : Shape s ⟨none, none, 0⟩ [] where
  walk := Walk.stop
  live _ he := absurd he List.not_mem_nil
  tail := rfl
  size := rfl

/-- A shape is seen in the elements' links only. -/
theorem Shape.congr (hshape : Shape s h xs)
    (hsame : ∀ e ∈ xs, t.next e = s.next e ∧ e ∈ t.live) :
    Shape t h xs where
  walk := hshape.walk.congr fun e he => (hsame e he).1
  live e he := (hsame e he).2
  tail := hshape.tail
  size := hshape.size

variable [DecidableEq ι]

@[simp] theorem Contents.put_self (c : Contents ι α) (l : ι)
    (xs : List α) (live : Finset α) :
    (c.put l xs live).of l = some xs := Function.update_self _ _ _

@[simp] theorem Contents.put_of_ne (c : Contents ι α) {l m : ι}
    (hm : m ≠ l) (xs : List α) (live : Finset α) :
    (c.put l xs live).of m = c.of m := Function.update_of_ne hm _ _

/-- One list changes, and no link of another's elements. -/
theorem Represents.change (hs : Represents s c)
    (hlists : t.lists = Function.update s.lists l (some h))
    (hshape : Shape t h xs)
    (hothers : ∀ m ≠ l, ∀ ys, c.of m = some ys →
      xs.Disjoint ys ∧ ∀ e ∈ ys, t.next e = s.next e ∧ e ∈ t.live) :
    Represents t (c.put l xs t.live) where
  live := rfl
  lists m := by
    by_cases hm : m = l
    · subst hm
      rw [Contents.put_self]
      exact ⟨h, by rw [hlists, Function.update_self], hshape⟩
    · have hsame : t.lists m = s.lists m := by
        rw [hlists, Function.update_of_ne hm]
      have hat := hs.lists m
      rw [Contents.put_of_ne c hm]
      cases hof : c.of m with
      | none =>
          rw [hof] at hat
          exact hsame.trans hat
      | some ys =>
          rw [hof] at hat
          obtain ⟨h', hh', hshape'⟩ := hat
          exact ⟨h', hsame.trans hh', hshape'.congr (hothers m hm ys hof).2⟩
  apart m m' ys zs hne hys hzs := by
    by_cases hm : m = l
    · subst hm
      rw [Contents.put_self] at hys
      rw [Contents.put_of_ne c (Ne.symm hne)] at hzs
      obtain rfl := Option.some.inj hys
      exact (hothers m' (Ne.symm hne) zs hzs).1
    · rw [Contents.put_of_ne c hm] at hys
      by_cases hm' : m' = l
      · subst hm'
        rw [Contents.put_self] at hzs
        obtain rfl := Option.some.inj hzs
        exact (hothers m hm ys hys).1.symm
      · rw [Contents.put_of_ne c hm'] at hzs
        exact hs.apart m m' ys zs hne hys hzs

-- ============================================================ the operations

theorem init_represents (hs : Represents s c) (l : ι) :
    Represents (msListInit s (some l)) (c.put l [] s.live) :=
  hs.change rfl (Shape.empty _) fun m _ ys hof => by
    obtain ⟨h, -, hshape⟩ := hs.shape hof
    exact ⟨List.disjoint_nil_left ys, fun e he =>
      ⟨rfl, hshape.live e he⟩⟩

variable [DecidableEq α] {z : α}

theorem msListAdd_new (hh : s.lists l = some h) (hhead : h.head = none)
    (he : e ∈ s.live) :
    msListAdd s (some l) (some e) = .ok { s with
      lists := Function.update s.lists l
        (some ⟨some e, some e, h.size + 1⟩)
      next := Function.update s.next e none } := by
  rw [msListAdd, Store.list, hh]
  dsimp only
  rw [ok_bind, hhead]
  exact if_pos he

theorem msListAdd_behind (hh : s.lists l = some h)
    (hhead : h.head ≠ none) (htail : h.tail = some z) (hz : z ∈ s.live)
    (he : e ∈ s.live) :
    msListAdd s (some l) (some e) = .ok { s with
      lists := Function.update s.lists l
        (some ⟨h.head, some e, h.size + 1⟩)
      next := Function.update (Function.update s.next z (some e)) e
        none } := by
  rw [msListAdd, Store.list, hh]
  dsimp only
  rw [ok_bind]
  obtain ⟨x, hx⟩ := Option.ne_none_iff_exists'.1 hhead
  rw [hx]
  dsimp only
  rw [htail]
  dsimp only
  rw [Store.setNext, if_pos hz, ok_bind]
  exact if_pos he

/-- What is added to a list is behind its elements. -/
theorem add_represents (hs : Represents s c) (hof : c.of l = some xs)
    (he : e ∈ s.live) (hfresh : ∀ m ys, c.of m = some ys → e ∉ ys) :
    ∃ t h, msListAdd s (some l) (some e) = .ok t
      ∧ t.lists = Function.update s.lists l (some h)
      ∧ t.freed = s.freed
      ∧ Represents t (c.put l (xs ++ [e]) s.live) := by
  obtain ⟨h, hh, hshape⟩ := hs.shape hof
  have hnot : e ∉ xs := hfresh l xs hof
  -- the other lists have neither the new element nor those of this one
  have hapart : ∀ m ≠ l, ∀ ys, c.of m = some ys →
      (xs ++ [e]).Disjoint ys ∧ ∀ x ∈ ys, x ∈ s.live := by
    intro m hm ys hys
    obtain ⟨h', -, hshape'⟩ := hs.shape hys
    refine ⟨List.disjoint_append_left.2
      ⟨hs.apart l m xs ys (Ne.symm hm) hof hys, ?_⟩, hshape'.live⟩
    exact List.singleton_disjoint.2 (hfresh m ys hys)
  have hcount : h.size + 1 = countOf (xs ++ [e]) := by
    rw [hshape.size, countOf, countOf, List.length_append,
      List.length_singleton, BitVec.ofNat_add]
    rfl
  have hlive : ∀ x ∈ xs ++ [e], x ∈ s.live := by
    intro x hx
    rcases List.mem_append.1 hx with hx | hx
    · exact hshape.live x hx
    · rwa [List.mem_singleton.1 hx]
  rcases List.eq_nil_or_concat' xs with rfl | ⟨zs, z, rfl⟩
  · have hhead := hshape.head_none.2 rfl
    refine ⟨_, _, msListAdd_new hh hhead he, rfl, rfl,
      hs.change rfl ?_ ?_⟩
    · exact ⟨Walk.single s.next e, hlive, rfl, hcount⟩
    · intro m hm ys hys
      obtain ⟨hdis, hys⟩ := hapart m hm ys hys
      refine ⟨hdis, fun x hx => ⟨?_, hys x hx⟩⟩
      apply Function.update_of_ne
      rintro rfl
      exact hdis (by simp) hx
  · have hhead : h.head ≠ none := mt hshape.head_none.1 (by simp)
    have htail : h.tail = some z := by
      rw [hshape.tail, List.getLast?_append]
      rfl
    have hz : z ∈ s.live := hshape.live z (by simp)
    refine ⟨_, _, msListAdd_behind hh hhead htail hz he, rfl, rfl,
      hs.change rfl ?_ ?_⟩
    · refine ⟨hshape.walk.snoc hnot, hlive, ?_, hcount⟩
      rw [List.getLast?_append]
      rfl
    · intro m hm ys hys
      obtain ⟨hdis, hys⟩ := hapart m hm ys hys
      refine ⟨hdis, fun x hx => ⟨?_, hys x hx⟩⟩
      have hxe : x ≠ e := by
        rintro rfl
        exact hdis (by simp) hx
      have hxz : x ≠ z := by
        rintro rfl
        exact hdis (by simp) hx
      dsimp only
      rw [Function.update_of_ne hxe, Function.update_of_ne hxz]

omit [DecidableEq ι] in
@[simp] theorem freeLoop_null (s : Store ι α) : freeLoop s none = .ok s := by
  rw [freeLoop.eq_def]

omit [DecidableEq ι] in
theorem freeLoop_live (he : e ∈ s.live) :
    freeLoop s (some e) = freeLoop { s with
      live := s.live.erase e, freed := s.freed ++ [e] } (s.next e) := by
  rw [freeLoop.eq_def]
  exact dif_pos he

omit [DecidableEq ι] in
/-- The loop frees the elements of a walk, one after the other. -/
theorem freeLoop_walk {p : Option α} (h : Walk s.next p xs)
    (hlive : ∀ e ∈ xs, e ∈ s.live) :
    freeLoop s p = .ok { s with
      live := s.live \ xs.toFinset
      freed := s.freed ++ xs } := by
  have hnd := h.nodup
  induction xs generalizing s p with
  | nil =>
      rw [h.head, List.head?_nil, freeLoop_null]
      simp
  | cons e xs ih =>
      obtain ⟨he, hnd⟩ := List.nodup_cons.1 hnd
      have hlater : ∀ x ∈ xs, x ∈ s.live.erase e := by
        intro x hx
        refine Finset.mem_erase.2 ⟨?_, hlive x (List.mem_cons_of_mem _ hx)⟩
        rintro rfl
        exact he hx
      have hrest := ih (s := { s with
        live := s.live.erase e, freed := s.freed ++ [e] }) h.rest hlater hnd
      rw [h.head, List.head?_cons,
        freeLoop_live (hlive e (List.mem_cons_self ..)), hrest]
      have hsets : s.live.erase e \ xs.toFinset
          = s.live \ (e :: xs).toFinset := by
        ext x
        simp only [Finset.mem_sdiff, Finset.mem_erase, List.mem_toFinset,
          List.mem_cons]
        tauto
      simp only [hsets, List.append_assoc, List.singleton_append]

/-- A list whose count is 0 is left as it is. -/
theorem free_nothing (hs : Represents s c) (hof : c.of l = some xs)
    (hcount : countOf xs = 0) : msListFree s (some l) = .ok s := by
  obtain ⟨h, hh, hshape⟩ := hs.shape hof
  rw [msListFree, Store.list, hh]
  dsimp only
  rw [ok_bind, if_pos (hshape.size.trans hcount)]

/-- Every other one is freed, each element once. -/
theorem free_represents (hs : Represents s c) (hof : c.of l = some xs)
    (hcount : countOf xs ≠ 0) :
    ∃ t, msListFree s (some l) = .ok t
      ∧ t.lists = Function.update s.lists l (some ⟨none, none, 0⟩)
      ∧ t.freed = s.freed ++ xs
      ∧ Represents t (c.put l [] (s.live \ xs.toFinset)) := by
  obtain ⟨h, hh, hshape⟩ := hs.shape hof
  refine ⟨_, ?_, rfl, rfl, hs.change (t := { s with
    lists := Function.update s.lists l (some ⟨none, none, 0⟩)
    live := s.live \ xs.toFinset
    freed := s.freed ++ xs }) rfl (Shape.empty _) ?_⟩
  · rw [msListFree, Store.list, hh]
    dsimp only
    rw [ok_bind, if_neg fun h0 => hcount (hshape.size.symm.trans h0),
      freeLoop_walk hshape.walk hshape.live]
    rfl
  · intro m hm ys hys
    obtain ⟨h', -, hshape'⟩ := hs.shape hys
    have hdis := hs.apart l m xs ys (Ne.symm hm) hof hys
    refine ⟨List.disjoint_nil_left ys, fun x hx => ⟨rfl, ?_⟩⟩
    rw [Finset.mem_sdiff, List.mem_toFinset]
    exact ⟨hshape'.live x hx, fun hxs => hdis hxs hx⟩

omit [DecidableEq ι] in
/-- A new element is in no list, so no list sees its link. -/
theorem calloc_represents (hs : Represents s c) (he : e ∉ s.live) :
    Represents (calloc s e) { c with live := insert e c.live } where
  live := by rw [← hs.live]; rfl
  lists m := by
    have hat := hs.lists m
    show ListAt _ m (c.of m)
    cases hof : c.of m with
    | none =>
        rw [hof] at hat
        exact hat
    | some ys =>
        rw [hof] at hat
        obtain ⟨h, hh, hshape⟩ := hat
        refine ⟨h, hh, hshape.congr fun x hx => ?_⟩
        have hx' := hshape.live x hx
        refine ⟨Function.update_of_ne ?_ _ _, Finset.mem_insert_of_mem hx'⟩
        rintro rfl
        exact he hx'
  apart := hs.apart

-- ================================================================== one step

/-- What the history counts as proper. -/
def Contents.Proper (c : Contents ι α) : Op ι α → Prop
  | .add (some l) (some e) =>
      c.of l ≠ none ∧ e ∈ c.live ∧ ∀ m ys, c.of m = some ys → e ∉ ys
  | .free (some l) => c.of l ≠ none
  | .calloc e => e ∉ c.live
  | _ => True

omit [DecidableEq ι] [DecidableEq α] in
theorem Represents.proper (hs : Represents s c) (op : Op ι α) :
    Proper s op ↔ c.Proper op := by
  cases op with
  | init l => exact Iff.rfl
  | calloc e => show e ∉ s.live ↔ e ∉ c.live; rw [hs.live]
  | free l =>
      cases l with
      | none => exact Iff.rfl
      | some l => exact hs.initialised
  | add l e =>
      cases l with
      | none => exact Iff.rfl
      | some l =>
          cases e with
          | none => exact Iff.rfl
          | some e =>
              show _ ∧ _ ∧ _ ↔ _ ∧ _ ∧ _
              rw [hs.initialised, hs.live, hs.linked]
              simp

/-- A step from lists with these contents: it changes no other list, and
frees what is in the list it frees. -/
structure Stepped (s : Store ι α) (c : Contents ι α) (op : Op ι α)
    (t : Store ι α) : Prop where
  represents : Represents t (c.step op)
  others : ∀ l, op.list ≠ some l → t.lists l = s.lists l
  frees : ∀ l xs, op = .free (some l) → c.of l = some xs →
    countOf xs ≠ 0 → t.freed = s.freed ++ xs
      ∧ t.live = s.live \ xs.toFinset
      ∧ t.lists l = some ⟨none, none, 0⟩
  /-- A list that counts 0 is not touched. -/
  stays : ∀ l xs, op = .free (some l) → c.of l = some xs →
    countOf xs = 0 → t = s
  frees_only : (∀ l, op ≠ .free (some l)) → t.freed = s.freed

/-- An operation that is not `ms_list_free` of a list. -/
theorem Stepped.of_not_free {op : Op ι α}
    (hop : ∀ l, op ≠ .free (some l)) (ht : Represents t (c.step op))
    (hothers : ∀ l, op.list ≠ some l → t.lists l = s.lists l)
    (hfreed : t.freed = s.freed) : Stepped s c op t where
  represents := ht
  others := hothers
  frees l _ h := absurd h (hop l)
  stays l _ h := absurd h (hop l)
  frees_only _ := hfreed

theorem step_add (hs : Represents s c) (hof : c.of l = some xs)
    (hop : c.Proper (.add (some l) (some e))) :
    ∃ t, step s (.add (some l) (some e)) = some t
      ∧ Stepped s c (.add (some l) (some e)) t := by
  obtain ⟨-, he, hfresh⟩ := hop
  rw [← hs.live] at he
  obtain ⟨t, h, hadd, hlists, hfreed, ht⟩ :=
    add_represents hs hof he hfresh
  refine ⟨t, by rw [step, hadd]; rfl,
    .of_not_free (by simp) ?_ ?_ hfreed⟩
  · rw [Contents.step, hof, ← hs.live]
    exact ht
  · intro m hm
    rw [hlists, Function.update_of_ne]
    rintro rfl
    exact hm rfl

theorem step_free (hs : Represents s c) (hof : c.of l = some xs) :
    ∃ t, step s (.free (some l)) = some t
      ∧ Stepped s c (.free (some l)) t := by
  by_cases hcount : countOf xs = 0
  · refine ⟨s, by rw [step, free_nothing hs hof hcount]; rfl,
      ?_, fun _ _ => rfl, ?_, fun _ _ _ _ _ => rfl, fun _ => rfl⟩
    · rw [Contents.step, hof]
      dsimp only
      rw [if_pos hcount]
      exact hs
    · intro m ys hop hys hne
      cases hop
      rw [hof] at hys
      cases hys
      exact absurd hcount hne
  · obtain ⟨t, hfree, hlists, hfreed, ht⟩ := free_represents hs hof hcount
    refine ⟨t, by rw [step, hfree]; rfl, ?_, ?_, ?_, ?_,
      fun hop => absurd rfl (hop l)⟩
    · rw [Contents.step, hof]
      dsimp only
      rw [if_neg hcount, ← hs.live]
      exact ht
    · intro m hm
      rw [hlists, Function.update_of_ne]
      rintro rfl
      exact hm rfl
    · intro m ys hop hys _
      cases hop
      rw [hof] at hys
      cases hys
      refine ⟨hfreed, ht.live, ?_⟩
      rw [hlists, Function.update_self]
    · intro m ys hop hys hzero
      cases hop
      rw [hof] at hys
      cases hys
      exact absurd hzero hcount

/-- Every proper operation can be done. -/
theorem step_represents (hs : Represents s c) {op : Op ι α}
    (hop : Proper s op) :
    ∃ t, step s op = some t ∧ Stepped s c op t := by
  have hnull : ∀ op : Op ι α, step s op = some s → c.step op = c →
      (∀ l, op ≠ .free (some l)) →
        ∃ t, step s op = some t ∧ Stepped s c op t := by
    intro op hstep hc hfree
    exact ⟨s, hstep, .of_not_free hfree (by rwa [hc]) (fun _ _ => rfl) rfl⟩
  rw [hs.proper] at hop
  cases op with
  | init l =>
      cases l with
      | none => exact hnull _ rfl rfl (by simp)
      | some l =>
          refine ⟨_, rfl, .of_not_free (by simp) ?_ ?_ rfl⟩
          · rw [Contents.step, ← hs.live]
            exact init_represents hs l
          · intro m hm
            apply Function.update_of_ne
            rintro rfl
            exact hm rfl
  | calloc e =>
      rw [Contents.Proper, ← hs.live] at hop
      exact ⟨_, rfl, .of_not_free (by simp) (calloc_represents hs hop)
        (fun _ _ => rfl) rfl⟩
  | free l =>
      cases l with
      | none => exact hnull _ rfl rfl (by simp)
      | some l =>
          obtain ⟨xs, hof⟩ := Option.ne_none_iff_exists'.1 hop
          exact step_free hs hof
  | add l e =>
      cases l with
      | none => exact hnull _ rfl rfl (by simp)
      | some l =>
          cases e with
          | none => exact hnull _ rfl rfl (by simp)
          | some e =>
              obtain ⟨xs, hof⟩ := Option.ne_none_iff_exists'.1 hop.1
              exact step_add hs hof hop

-- ================================================================== the runs

omit [DecidableEq ι] [DecidableEq α] in
theorem start_represents (live : Finset α) :
    Represents (start live : Store ι α) ⟨fun _ => none, live⟩ where
  lists _ := rfl
  live := rfl
  apart _ _ _ _ _ h := by cases h

/-- After a history of proper operations the memory is as it says. -/
theorem run_represents {live : Finset α} {ops : List (Op ι α)}
    (hops : Legal step Proper (start live) ops) :
    ∃ s, run step (start live) ops = some s
      ∧ Represents s (contents live ops) :=
  hops.simulates (fun _ _ _ hs hop => by
    obtain ⟨t, ht, hstepped⟩ := step_represents hs hop
    exact ⟨t, ht, hstepped.represents⟩) (start_represents live)

/-- Proper by the history is proper in memory. -/
theorem legal_of_contents {live : Finset α} {ops : List (Op ι α)}
    (hops : Legal (fun c op => some (c.step op)) Contents.Proper
      ⟨fun _ => none, live⟩ ops) :
    Legal step Proper (start live) ops :=
  Legal.of_abstract (fun _ _ _ hs hop => by
    obtain ⟨t, ht, hstepped⟩ := step_represents hs hop
    exact ⟨t, ht, hstepped.represents⟩)
    (fun _ _ op hs hop => (hs.proper op).2 hop) (start_represents live)
    hops

/-- Adding elements to one list, each of them fresh. -/
def addAll (l : ι) (xs : List α) : List (Op ι α) :=
  xs.map fun e => .add (some l) (some e)

/-- They are behind what was there. -/
theorem addAll_contents (hof : c.of l = some xs) (ys : List α) :
    ((addAll l ys).foldl Contents.step c).of l = some (xs ++ ys) := by
  induction ys generalizing c xs with
  | nil => rw [List.append_nil]; exact hof
  | cons y ys ih =>
      have hput : c.step (.add (some l) (some y))
          = c.put l (xs ++ [y]) c.live := by
        rw [Contents.step, hof]
      have happ : xs ++ y :: ys = xs ++ [y] ++ ys := List.append_cons ..
      rw [addAll, List.map_cons, List.foldl_cons, hput, happ]
      exact ih (Contents.put_self c l _ _)

theorem addAll_legal (hof : c.of l = some xs) {ys : List α}
    (hnd : ys.Nodup) (hlive : ∀ e ∈ ys, e ∈ c.live)
    (hfresh : ∀ e ∈ ys, ∀ m zs, c.of m = some zs → e ∉ zs) :
    Legal (fun c op => some (c.step op)) Contents.Proper c
      (addAll l ys) := by
  induction ys generalizing c xs with
  | nil => exact trivial
  | cons y ys ih =>
      obtain ⟨hy, hnd⟩ := List.nodup_cons.1 hnd
      refine ⟨⟨by simp [hof], hlive y (List.mem_cons_self ..),
        hfresh y (List.mem_cons_self ..)⟩, fun d hd => ?_⟩
      have hput : d = c.put l (xs ++ [y]) c.live := by
        rw [← Option.some.inj hd, Contents.step, hof]
      rw [hput]
      refine ih (Contents.put_self c l _ _) hnd
        (fun e he => hlive e (List.mem_cons_of_mem _ he)) ?_
      intro e he m zs hzs
      have hold := hfresh e (List.mem_cons_of_mem _ he)
      by_cases hm : m = l
      · subst hm
        rw [Contents.put_self] at hzs
        rw [← Option.some.inj hzs, List.mem_append, List.mem_singleton]
        rintro (h | rfl)
        · exact hold m xs hof h
        · exact hy he
      · rw [Contents.put_of_ne c hm] at hzs
        exact hold m zs hzs

/-- A list built from fresh elements. -/
theorem built (l : ι) {xs : List α} (hnd : xs.Nodup) :
    Legal step Proper (start xs.toFinset)
        (.init (some l) :: addAll l xs)
      ∧ (contents xs.toFinset (.init (some l) :: addAll l xs)).of l
        = some xs := by
  have hinit : ∀ c : Contents ι α,
      (c.step (.init (some l))).of l = some [] :=
    fun c => Contents.put_self c l [] _
  constructor
  · apply legal_of_contents
    refine ⟨trivial, fun d hd => ?_⟩
    rw [← Option.some.inj hd]
    refine addAll_legal (hinit _) hnd
      (fun e he => List.mem_toFinset.2 he) (fun e he m zs hzs => ?_)
    by_cases hm : m = l
    · subst hm
      rw [hinit] at hzs
      rw [← Option.some.inj hzs]
      exact List.not_mem_nil
    · rw [Contents.step, Contents.put_of_ne _ hm] at hzs
      cases hzs
  · rw [contents, List.foldl_cons]
    exact addAll_contents (hinit _) xs

-- ============================================================= what is in them

/-- The list is these elements, as the library relies on it. -/
structure Intact (s : Store ι α) (h : MsListHead α) (xs : List α) :
    Prop where
  walk : Walk s.next h.head xs
  distinct : xs.Nodup
  live : ∀ e ∈ xs, e ∈ s.live
  tail : h.tail = xs.getLast?
  head_null : h.head = none ↔ xs = []
  tail_null : h.tail = none ↔ xs = []
  /-- The count, in 32 bits. -/
  size : h.size.toNat = xs.length % 2 ^ 32
  counted : xs.length < 2 ^ 32 → (h.size = 0 ↔ xs = [])

/-- An operation changes no other list than its own, and frees the
elements of the list it frees, each once, unless their count is 0. -/
structure Effect (s : Store ι α) (c : Contents ι α) (op : Op ι α)
    (t : Store ι α) : Prop where
  others : ∀ l h xs, op.list ≠ some l → s.lists l = some h →
    Walk s.next h.head xs → t.lists l = some h ∧ Walk t.next h.head xs
  frees : ∀ l xs, op = .free (some l) → c.of l = some xs →
    xs.length % 2 ^ 32 ≠ 0 → t.freed = s.freed ++ xs
      ∧ t.live = s.live \ xs.toFinset
      ∧ t.lists l = some ⟨none, none, 0⟩
  stays : ∀ l xs, op = .free (some l) → c.of l = some xs →
    xs.length % 2 ^ 32 = 0 → t = s
  frees_only : (∀ l, op ≠ .free (some l)) → t.freed = s.freed

omit [DecidableEq ι] [DecidableEq α] in
theorem countOf_toNat (xs : List α) :
    (countOf xs).toNat = xs.length % 2 ^ 32 := BitVec.toNat_ofNat _ _

omit [DecidableEq ι] [DecidableEq α] in
theorem countOf_zero : countOf xs = 0 ↔ xs.length % 2 ^ 32 = 0 := by
  rw [← countOf_toNat]
  constructor
  · intro h
    rw [h]
    rfl
  · exact fun h => BitVec.eq_of_toNat_eq h

omit [DecidableEq ι] [DecidableEq α] in
theorem Shape.intact (hshape : Shape s h xs) : Intact s h xs where
  walk := hshape.walk
  distinct := hshape.walk.nodup
  live := hshape.live
  tail := hshape.tail
  head_null := hshape.head_none
  tail_null := hshape.tail_none
  size := by rw [hshape.size, countOf_toNat]
  counted hlen := by
    rw [hshape.size, countOf_zero, Nat.mod_eq_of_lt hlen,
      List.length_eq_zero_iff]

/-- A history's step leaves the contents of the other lists. -/
theorem Contents.step_others (c : Contents ι α) {op : Op ι α}
    (hop : op.list ≠ some l) : (c.step op).of l = c.of l := by
  have hput : ∀ m xs live, op.list = some m →
      (c.put m xs live).of l = c.of l := by
    intro m xs live hm
    apply Contents.put_of_ne
    rintro rfl
    exact hop hm
  unfold Contents.step
  split
  · exact hput _ _ _ rfl
  · split
    · rfl
    · exact hput _ _ _ rfl
  · split
    · rfl
    · split
      · rfl
      · exact hput _ _ _ rfl
  · rfl
  · rfl

theorem Stepped.effect (hs : Represents s c) {op : Op ι α}
    (h : Stepped s c op t) : Effect s c op t where
  others l h' xs hop hh hwalk := by
    obtain ⟨ys, h'', hof, hh'', hshape⟩ := hs.contents (l := l) (by simp [hh])
    rw [hh] at hh''
    obtain rfl := Option.some.inj hh''
    obtain rfl := hwalk.unique hshape.walk
    have hlist := h.others l hop
    have hafter := (c.step_others hop).trans hof
    obtain ⟨k, hk, hkshape⟩ := h.represents.shape hafter
    rw [hlist, hh] at hk
    obtain rfl := Option.some.inj hk
    exact ⟨hlist.trans hh, hkshape.walk⟩
  frees l xs hop hof hne := h.frees l xs hop hof (mt countOf_zero.1 hne)
  stays l xs hop hof hzero := h.stays l xs hop hof (countOf_zero.2 hzero)
  frees_only := h.frees_only

/-- After any history of proper operations every list is what was added
to it since it was last initialised or freed, and the next operation
works on its own list. -/
theorem lists_linked {live : Finset α} {ops : List (Op ι α)}
    (hops : Legal step Proper (start live) ops) :
    ∃ s, run step (start live) ops = some s
      ∧ (∀ l, s.lists l = none ↔ (contents live ops).of l = none)
      ∧ (∀ l xs, (contents live ops).of l = some xs →
        ∃ h, s.lists l = some h ∧ Intact s h xs)
      ∧ (∀ l m xs ys, l ≠ m → (contents live ops).of l = some xs →
        (contents live ops).of m = some ys → xs.Disjoint ys)
      ∧ ∀ op, Proper s op →
        ∃ t, step s op = some t ∧ Effect s (contents live ops) op t := by
  obtain ⟨s, hrun, hs⟩ := run_represents hops
  refine ⟨s, hrun, fun l => not_iff_not.1 hs.initialised,
    fun l xs hof => ?_, hs.apart, fun op hop => ?_⟩
  · obtain ⟨h, hh, hshape⟩ := hs.shape hof
    exact ⟨h, hh, hshape.intact⟩
  · obtain ⟨t, ht, hstepped⟩ := step_represents hs hop
    exact ⟨t, ht, hstepped.effect hs⟩

/-- Two lists over three elements; the first is freed, and one of its
elements, allocated again, goes into the second. -/
theorem lists_linked_reused :
    ∃ s : Store Bool Nat,
      run step (start {0, 1, 2}) [.init (some true), .init (some false),
          .add (some true) (some 0), .add (some false) (some 1),
          .add (some true) (some 2), .free (some true), .calloc 0,
          .add (some false) (some 0)] = some s
        ∧ ∃ h, s.lists false = some h ∧ Intact s h [1, 0] := by
  have hops : Legal step Proper (start {0, 1, 2} : Store Bool Nat)
      [.init (some true), .init (some false),
        .add (some true) (some 0), .add (some false) (some 1),
        .add (some true) (some 2), .free (some true), .calloc 0,
        .add (some false) (some 0)] := by
    apply legal_of_contents
    simp [Legal, Contents.Proper, Contents.step, Contents.put, countOf]
  obtain ⟨s, hrun, -, hlists, -⟩ := lists_linked hops
  exact ⟨s, hrun, hlists false [1, 0] rfl⟩

/-- A list of 2^32 elements counts none. -/
theorem lists_linked_fails :
    ¬ ∀ (live : Finset Nat) (ops : List (Op Unit Nat))
        (s : Store Unit Nat) (h : MsListHead Nat) (xs : List Nat),
      Legal step Proper (start live) ops →
        run step (start live) ops = some s → s.lists () = some h →
          Walk s.next h.head xs → h.size.toNat = xs.length := by
  intro hall
  have hcount : ∀ n, n % 2 ^ 32 = n := by
    intro n
    obtain ⟨hlegal, hof⟩ := built () (List.nodup_range (n := n))
    obtain ⟨s, hrun, hs⟩ := run_represents hlegal
    obtain ⟨h, hh, hshape⟩ := hs.shape hof
    have hsize := hall _ _ s h _ hlegal hrun hh hshape.walk
    rwa [hshape.size, countOf_toNat, List.length_range] at hsize
  have hwrap := hcount (2 ^ 32)
  omega

end Links

end Maplesyrup
