/-
Do the accessors stay in their array?

Each tests `index <= size`, so the index that is the size itself passes
and an element behind the array is read. All other indices are dealt
with as they should be: the test, between an `int` and an unsigned, is
one of unsigned words, and a list counts its elements in one.
-/
import Maplesyrup.Library.Access

namespace Maplesyrup

-- =========================================================== the statement

/-- What the accessor is to take out of an element. -/
def Accessor.datum (f : Accessor) (x : MsBitfieldInfo) : Datum :=
  match f with
  | .value => .word x.value
  | .cpu => .int x.cpu.toInt
  | .epl => .int (translateEpl x.epl)
  | .uid => .int x.uid.toInt
  | .status => .int x.status.toInt
  | .statusString => .text (some (getErrorString x.status))
  | .registerString => .text (some x.registerName)
  | .groupString => .text (some x.functionalGroup)
  | .descriptionString => .text (some x.description)
  | .partnumberString => .text (some x.partNumber)
  | .decodeString => .text (some x.partNumberTable)
  | .bitfieldString => .text (some x.bitfield)
  | .stamp => .text (some x.stamp)

/-- Its error value: -1, or NULL. -/
def Accessor.error : Accessor → Datum
  | .value => .word (.ofInt 64 (-1))
  | .cpu | .epl | .uid | .status => .int (-1)
  | .statusString | .registerString | .groupString | .descriptionString
  | .partnumberString | .decodeString | .bitfieldString | .stamp =>
      .text none

/-- At this index of an array of `n` elements the accessor returns the
element's datum, and behind the array its error value. -/
def Accessor.Exact (f : Accessor) (array : List MsBitfieldInfo) (n : Nat)
    (index : U32) : Prop :=
  (index.toNat < n → ∃ x, array[index.toNat]? = some x
    ∧ f.call (some array) index = some (f.datum x))
  ∧ (n ≤ index.toNat → f.call (some array) index = some f.error)

-- ================================================================ proofs

/-- What is made of an access can be made of its two values. -/
theorem msAccess_map {α β : Type} (g : α → β) (error : α)
    (datum : MsBitfieldInfo → α) (resultsIn : Option (List MsBitfieldInfo))
    (index : U32) :
    (msAccess error datum resultsIn index).map g
      = msAccess (g error) (fun x => g (datum x)) resultsIn index := by
  unfold msAccess
  cases resultsIn with
  | none => rfl
  | some array =>
      dsimp only
      split
      · rw [Option.map_map]
        rfl
      · rfl

/-- All accessors have one body. -/
theorem Accessor.call_eq (f : Accessor)
    (resultsIn : Option (List MsBitfieldInfo)) (index : U32) :
    f.call resultsIn index = msAccess f.error f.datum resultsIn index := by
  cases f <;> exact msAccess_map _ _ _ _ _

variable {a a' : Alloc} {heap : List BitfieldInfoHeap}
  {listin : List BitfieldInfoPopulated} {array : List MsBitfieldInfo}

/-- The array has an element for each of the list, and its length in
each. -/
theorem flattenResults_array
    (h : flattenResults a heap listin = (0, some array, a')) :
    listin ≠ [] ∧ array = listin.map (flattenOne heap listin.length) := by
  unfold flattenResults at h
  split at h
  · simp at h
  · rename_i hlen
    split at h
    · simp only [Prod.mk.injEq, Option.some.injEq, true_and] at h
      exact ⟨fun hnil => hlen (by rw [hnil]; rfl), h.1.symm⟩
    · simp at h

/-- The size an index is compared with is the number of elements. -/
theorem msGetSize_array
    (h : flattenResults a heap listin = (0, some array, a')) {n : U32}
    (hn : listin.length = n.toNat) :
    BitVec.ofInt 32 (msGetSize (some array)) = n := by
  obtain ⟨hne, rfl⟩ := flattenResults_array h
  cases hlist : listin with
  | nil => exact absurd hlist hne
  | cons x xs =>
      rw [← hlist, hn]
      have hfirst : msGetSize (some (listin.map (flattenOne heap n.toNat)))
          = n.toInt := by
        rw [hlist]
        show (BitVec.ofNat 32 n.toNat).toInt = _
        rw [BitVec.ofNat_toNat, BitVec.setWidth_eq]
      rw [hfirst, BitVec.ofInt_toInt]

/-- An accessor does what it should at every index of an array but the
one behind its last element. -/
theorem accessor_exact_iff
    (h : flattenResults a heap listin = (0, some array, a')) {n : U32}
    (hn : listin.length = n.toNat) (f : Accessor) (index : U32) :
    f.Exact array n.toNat index ↔ index ≠ n := by
  have hsize := msGetSize_array h hn
  have hlen : array.length = n.toNat := by
    obtain ⟨-, rfl⟩ := flattenResults_array h
    rw [List.length_map, hn]
  have hcall : f.call (some array) index
      = if index.toNat ≤ n.toNat then
          array[index.toNat]?.map f.datum
        else some f.error := by
    rw [f.call_eq, ← hsize]
    rfl
  have hindex : index = n ↔ index.toNat = n.toNat :=
    BitVec.toNat_inj.symm
  unfold Accessor.Exact
  rw [hcall, ne_eq, hindex]
  rcases Nat.lt_trichotomy index.toNat n.toNat with hlt | heq | hgt
  · have hin : index.toNat < array.length := by omega
    refine iff_of_true ⟨fun _ => ?_, fun hle => absurd hle (by omega)⟩
      (by omega)
    rw [if_pos (by omega), List.getElem?_eq_getElem hin]
    exact ⟨_, rfl, rfl⟩
  · -- the element behind the last one
    refine iff_of_false (fun hexact => ?_) (not_not.2 heq)
    have herror := hexact.2 (by omega)
    rw [if_pos (by omega), List.getElem?_eq_none (by omega)] at herror
    cases herror
  · refine iff_of_true ⟨fun hlt => absurd hlt (by omega), fun _ => ?_⟩
      (by omega)
    exact if_neg (by omega)

/-- One decoded field. -/
def enabledField : BitfieldInfoPopulated :=
  ⟨1, 2, 0x00010000, 1, 0x410FC073, 0, "E", "pmu", "PMCR", "Enable", 1, 0⟩

/-- Its array. -/
def enabledArray : List MsBitfieldInfo :=
  [flattenOne [] 1 enabledField]

theorem enabledArray_flattened :
    flattenResults .ok [] [enabledField]
      = (0, some enabledArray, Alloc.rest .ok) := rfl

/-- Index 1 of an array of one element is read. -/
theorem accessor_exact_fails :
    ¬ ∀ (listin : List BitfieldInfoPopulated) (array : List MsBitfieldInfo)
        (n index : U32) (f : Accessor),
        flattenResults .ok [] listin = (0, some array, Alloc.rest .ok) →
        listin.length = n.toNat → f.Exact array n.toNat index := by
  intro h
  have hexact := h [enabledField] enabledArray 1 1 .cpu
    enabledArray_flattened rfl
  have herror := hexact.2 (Nat.le_refl _)
  cases herror

theorem accessor_exact_iff_enabled :
    Accessor.Exact .cpu enabledArray (1 : U32).toNat 0 ↔ (0 : U32) ≠ 1 :=
  accessor_exact_iff enabledArray_flattened (n := 1) rfl .cpu 0

end Maplesyrup
