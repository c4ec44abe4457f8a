/-
Do the listings give every name once?

A listing looks an entry's name up in the list it has made so far, and
appends an element if it is not there. The element's names are copies of
those the entry's uid finds, so with distinct uids and names that fit the
copies the list so far has the names of the entries it was made for
(`listed_named`), and the loop is the one that keeps the first entry of
each name (`insertKey`).

What the copies leave is compared, so the argument needs one name only:
the group for the groups, the register's for the registers.
-/
import Maplesyrup.Base.Keyed
import Maplesyrup.Base.Sites
import Maplesyrup.Decode.Proofs.Heap
import Maplesyrup.Decode.Proofs.Origin
import Maplesyrup.Library.Listing

namespace Maplesyrup

open Base

variable {heap : List BitfieldInfoHeap}

-- =========================================================== the statement

/-- The functional group of an entry. -/
def BitfieldInfoHeap.group (h : BitfieldInfoHeap) : String :=
  h.info.functionalGroup

/-- A heap whose names fit the copies. -/
structure Listable (heap : List BitfieldInfoHeap) : Prop where
  uids : (heap.map fun h => h.info.uid).Nodup
  functionalGroup : ∀ h ∈ heap, h.group.length < parseMaxFunctional
  registerName : ∀ h ∈ heap,
    h.registerNameExpanded.length < parseMaxRegister

/-- A list element with an entry's names. Group and register name are
whole. -/
def named (h : BitfieldInfoHeap) : BitfieldInfoPopulated where
  cpu := 0
  epl := 0
  uid := h.info.uid
  ioctl := 0
  midr := 0
  status := 0
  bitfield := strncpy h.info.bitfield (parseMaxBitfield - 1)
  functionalGroup := h.group
  registerName := h.registerNameExpanded
  description := strncpy h.info.description (parseMaxDescription - 1)
  value := 0
  uvalue := 0

/-- On an empty list the listing appends the elements of these entries,
one after the other, as far as its allocations succeed. -/
def Lists
    (listing : Alloc → List BitfieldInfoHeap →
      List BitfieldInfoPopulated →
        Option (Int × List BitfieldInfoPopulated × Alloc))
    (heap entries : List BitfieldInfoHeap) : Prop :=
  Appends (0 : Int) (-1) (fun a => listing a heap []) []
    (entries.map named)

-- ============================================================ the elements

/-- What the listing makes of an entry. -/
def listed (heap : List BitfieldInfoHeap) (h : BitfieldInfoHeap) :
    BitfieldInfoPopulated :=
  populated (owner heap h) h.info.uid 0 0 0 0 0 0 0

theorem listed_group (hnd : (heap.map fun h => h.info.uid).Nodup)
    (hshort : ∀ h ∈ heap, h.group.length < parseMaxFunctional)
    {h : BitfieldInfoHeap} (hh : h ∈ heap) :
    (listed heap h).functionalGroup = h.group := by
  have hlen := hshort h hh
  show strncpy (owner heap h).info.functionalGroup _ = _
  rw [owner_self hnd hh]
  exact strncpy_of_le (by unfold BitfieldInfoHeap.group at hlen; omega)

theorem listed_register (hnd : (heap.map fun h => h.info.uid).Nodup)
    (hshort : ∀ h ∈ heap,
      h.registerNameExpanded.length < parseMaxRegister)
    {h : BitfieldInfoHeap} (hh : h ∈ heap) :
    (listed heap h).registerName = h.registerNameExpanded := by
  have hlen := hshort h hh
  show strncpy (owner heap h).registerNameExpanded _ = _
  rw [owner_self hnd hh]
  exact strncpy_of_le (by omega)

theorem listed_named (hheap : Listable heap) {h : BitfieldInfoHeap}
    (hh : h ∈ heap) : listed heap h = named h := by
  have hgroup := listed_group hheap.uids hheap.functionalGroup hh
  have hregister := listed_register hheap.uids hheap.registerName hh
  rw [named, ← hgroup, ← hregister]
  unfold listed
  rw [owner_self hheap.uids hh]
  rfl

-- =============================================================== the search

/-- The list so far has the name iff it has an entry of the name. -/
theorem any_listed {f : BitfieldInfoPopulated → String}
    {key : BitfieldInfoHeap → String} {n : Nat}
    (hf : ∀ h ∈ heap, f (listed heap h) = key h)
    (hshort : ∀ h ∈ heap, (key h).length < n)
    {acc : List BitfieldInfoHeap} (hacc : ∀ x ∈ acc, x ∈ heap)
    {h : BitfieldInfoHeap} (hh : h ∈ heap) :
    ((acc.map (listed heap)).any fun temp => strncmp (key h) (f temp) n)
      = acc.any fun y => key y == key h := by
  rw [List.any_map, Bool.eq_iff_iff, List.any_eq_true, List.any_eq_true]
  refine exists_congr fun y => and_congr_right fun hy => ?_
  show strncmp (key h) (f (listed heap y)) n = true ↔ _
  rw [hf y (hacc y hy), beq_iff_eq,
    strncmp_of_le (Nat.le_of_lt (hshort h hh))
      (Nat.le_of_lt (hshort y (hacc y hy)))]
  exact eq_comm

/-- The search is positive iff it finds the name. -/
theorem getFind_pos (l : List BitfieldInfoPopulated)
    (registerName functionalGroup : Option String) :
    decide (0 < getFind l registerName functionalGroup)
      = l.any fun temp =>
          match registerName, functionalGroup with
          | some r, _ => strncmp r temp.registerName parseMaxRegister
          | none, some g =>
              strncmp g temp.functionalGroup parseMaxFunctional
          | none, none => false := by
  have hflag : ∀ b : Bool, decide ((0 : Int) < if b then 1 else 0) = b :=
    fun b => by cases b <;> rfl
  exact hflag _

-- ================================================================= the loop

/-- The loop keeps the entries it does not skip, and makes an element of
each. -/
theorem addEntries_appends
    {skip : List BitfieldInfoPopulated → BitfieldInfoHeap → Bool}
    {seen : List BitfieldInfoHeap → BitfieldInfoHeap → Bool}
    (hskip : ∀ acc : List BitfieldInfoHeap, (∀ x ∈ acc, x ∈ heap) →
      ∀ h ∈ heap, skip (acc.map (listed heap)) h = seen acc h)
    (hs acc : List BitfieldInfoHeap) (hhs : ∀ h ∈ hs, h ∈ heap)
    (hacc : ∀ h ∈ acc, h ∈ heap) :
    ∃ new : List BitfieldInfoHeap,
      hs.foldl (fun acc h => if seen acc h then acc else acc ++ [h]) acc
          = acc ++ new
        ∧ Appends (0 : Int) (-1)
            (fun a => addEntries heap skip hs a (acc.map (listed heap)))
            (acc.map (listed heap)) (new.map (listed heap)) := by
  induction hs generalizing acc with
  | nil =>
      exact ⟨[], (List.append_nil acc).symm, Appends.nil fun _ => rfl⟩
  | cons h hs ih =>
      have hh : h ∈ heap := hhs h (List.mem_cons_self ..)
      have hrest : ∀ x ∈ hs, x ∈ heap := fun x hx =>
        hhs x (List.mem_cons_of_mem _ hx)
      have hpass := hskip acc hacc h hh
      rw [List.foldl_cons]
      by_cases hseen : seen acc h = true
      · obtain ⟨new, hfold, hadd⟩ := ih acc hrest hacc
        refine ⟨new, by rw [if_pos hseen, hfold], ?_⟩
        simp only [addEntries, hpass, if_pos hseen]
        exact hadd
      · have hmore : ∀ x ∈ acc ++ [h], x ∈ heap := by
          intro x hx
          rcases List.mem_append.1 hx with hx | hx
          · exact hacc x hx
          · rwa [List.mem_singleton.1 hx]
        obtain ⟨new, hfold, hadd⟩ := ih (acc ++ [h]) hrest hmore
        refine ⟨h :: new, ?_, ?_⟩
        · rw [if_neg hseen, hfold, List.append_assoc]
          rfl
        · rw [List.map_append] at hadd
          refine Appends.cons (fun a ha => ?_) (fun a ha => ?_) hadd
          · rw [addEntries, hpass, if_neg hseen,
              breakoutAddBitfieldResult_fails ha]
            rfl
          · rw [addEntries, hpass, if_neg hseen,
              breakoutAddBitfieldResult_some (entryOf_owner hh) ha]
            rfl

/-- The listing of a name gives the first entry of each. -/
theorem addEntries_firsts
    {skip : List BitfieldInfoPopulated → BitfieldInfoHeap → Bool}
    {key : BitfieldInfoHeap → String}
    (hskip : ∀ acc : List BitfieldInfoHeap, (∀ x ∈ acc, x ∈ heap) →
      ∀ h ∈ heap, skip (acc.map (listed heap)) h
        = acc.any fun y => key y == key h) :
    Appends (0 : Int) (-1) (fun a => addEntries heap skip heap a []) []
      ((firsts key heap).map (listed heap)) := by
  obtain ⟨new, hfold, hadd⟩ :=
    addEntries_appends hskip heap [] (fun _ h => h) (by simp)
  have hnew : firsts key heap = new := hfold
  rw [hnew]
  exact hadd

theorem getGroups_appends (hnd : (heap.map fun h => h.info.uid).Nodup)
    (hshort : ∀ h ∈ heap, h.group.length < parseMaxFunctional) :
    Appends (0 : Int) (-1) (fun a => getGroups a heap []) []
      ((firsts BitfieldInfoHeap.group heap).map (listed heap)) := by
  refine addEntries_firsts fun acc hacc h hh => ?_
  rw [getFind_pos]
  exact any_listed (fun h hh => listed_group hnd hshort hh) hshort hacc hh

theorem getRegisters_appends (hnd : (heap.map fun h => h.info.uid).Nodup)
    (hshort : ∀ h ∈ heap,
      h.registerNameExpanded.length < parseMaxRegister) :
    Appends (0 : Int) (-1) (fun a => getRegisters a heap []) []
      ((firsts BitfieldInfoHeap.registerNameExpanded heap).map
        (listed heap)) := by
  refine addEntries_firsts fun acc hacc h hh => ?_
  rw [getFind_pos]
  exact any_listed (fun h hh => listed_register hnd hshort hh) hshort
    hacc hh

theorem getBitfields_appends (heap : List BitfieldInfoHeap) :
    Appends (0 : Int) (-1) (fun a => getBitfields a heap []) []
      (heap.map (listed heap)) := by
  obtain ⟨new, hfold, hadd⟩ :=
    @addEntries_appends heap (fun _ _ => false) (fun _ _ => false)
      (fun _ _ _ _ => rfl) heap [] (fun _ h => h) (by simp)
  have hnew : heap = new := by
    rw [← List.nil_append new, ← hfold]
    simp [← List.flatMap_def]
  rw [← hnew] at hadd
  exact hadd

-- =================================================================== listed

/-- The groups and the registers are listed once each, the bitfields one
for one. -/
theorem listings_complete (hheap : Listable heap) :
    FirstOfEach BitfieldInfoHeap.group heap
        (firsts BitfieldInfoHeap.group heap)
      ∧ Lists getGroups heap (firsts BitfieldInfoHeap.group heap)
      ∧ FirstOfEach BitfieldInfoHeap.registerNameExpanded heap
          (firsts BitfieldInfoHeap.registerNameExpanded heap)
      ∧ Lists getRegisters heap
          (firsts BitfieldInfoHeap.registerNameExpanded heap)
      ∧ Lists getBitfields heap heap := by
  have hnames : ∀ entries : List BitfieldInfoHeap,
      entries.Sublist heap →
        entries.map (listed heap) = entries.map named :=
    fun entries hsub => List.map_congr_left fun h hh =>
      listed_named hheap (hsub.subset hh)
  have hgroups := getGroups_appends hheap.uids hheap.functionalGroup
  have hregisters := getRegisters_appends hheap.uids hheap.registerName
  have hbitfields := getBitfields_appends heap
  rw [hnames _ (firsts_sublist _ heap)] at hgroups hregisters
  rw [hnames heap (List.Sublist.refl heap)] at hbitfields
  exact ⟨firsts_firstOfEach _ heap, hgroups, firsts_firstOfEach _ heap,
    hregisters, hbitfields⟩

/-- The CPU interface has 79 bitfields in 49 registers. -/
theorem listings_complete_gicc :
    ∃ heap : List BitfieldInfoHeap, heap.length = 79
      ∧ (firsts BitfieldInfoHeap.registerNameExpanded heap).length = 49
      ∧ Lists getRegisters heap
          (firsts BitfieldInfoHeap.registerNameExpanded heap) := by
  have hheap : Listable
      (expanded (included 1 [⟨.mm, giccV2, bitfieldGiccv2Table⟩])) := by
    constructor
    · decide +kernel
    · decide +kernel
    · decide +kernel
  exact ⟨_, by decide +kernel, by decide +kernel,
    (listings_complete hheap).2.2.2.1⟩

end Maplesyrup
