/-
A supplied value is decoded like the same value read from its register:
the two paths share their passes, and a payload reaches these only as
the word `value_to_long` makes of it.
-/
import Maplesyrup.Decode.Proofs.Grow
import Maplesyrup.Decode.Value

namespace Maplesyrup

open Base

variable {heap : List BitfieldInfoHeap} {l : List ResultsInfo}

-- ========================================================= the validation

/-- The requests carry one value and belong to one register. -/
theorem breakoutValueValidate_some (hl : l ≠ []) {registerUid : U32}
    {v : U64} (hv : ∀ r ∈ l, r.calcValue = v)
    (hreg : ∀ r ∈ l, r.registerUid = registerUid) :
    breakoutValueValidate l = some (registerUid, v) := by
  cases l with
  | nil => exact absurd rfl hl
  | cons r l =>
      have hr : r ∈ r :: l := List.mem_cons_self ..
      have hany : ((r :: l).any fun v => r.registerUid != v.registerUid
          || r.calcValue != v.calcValue) = false := by
        refine List.any_eq_false.2 fun q hq => ?_
        rw [hreg r hr, hreg q hq, hv r hr, hv q hq]
        simp
      rw [breakoutValueValidate]
      rw [if_neg (by rw [hany]; decide), hreg r hr, hv r hr]

/-- Requests of two registers are turned away. -/
theorem breakoutValueValidate_none {r r' : ResultsInfo} (hr : r ∈ l)
    (hr' : r' ∈ l) (hne : r.registerUid ≠ r'.registerUid) :
    breakoutValueValidate l = none := by
  cases l with
  | nil => rfl
  | cons q l =>
      have hany : ((q :: l).any fun v => q.registerUid != v.registerUid
          || q.calcValue != v.calcValue) = true := by
        by_cases hq : q.registerUid = r.registerUid
        · refine List.any_eq_true.2 ⟨r', hr', ?_⟩
          rw [hq]
          simp [hne]
        · refine List.any_eq_true.2 ⟨r, hr, ?_⟩
          simp [hq]
      rw [breakoutValueValidate]
      rw [if_pos hany]

-- =============================================================== the paths

/-- The masking pass sees nothing of a payload but its word. -/
theorem breakoutApplyMasksToList_word {v v' : U64}
    {low high low' high' : U32}
    (hword : valueToLong v low high = valueToLong v' low' high')
    (a : Alloc) (cpu epl midr status : U32) (indices : List Nat)
    (out : List BitfieldInfoPopulated) :
    breakoutApplyMasksToList a heap v low high cpu epl midr status
        indices out
      = breakoutApplyMasksToList a heap v' low' high' cpu epl midr status
          indices out := by
  induction indices generalizing a out with
  | nil => rfl
  | cons i indices ih =>
      simp only [breakoutApplyMasksToList, hword, ih]

/-- A result with nothing known of its core. -/
def readOf (registerUid : U32) (val64 : U64) (low high : U32) :
    IoctlResult :=
  ⟨registerUid, val64, low, high, 0, 0, 0, 0⟩

/-- Both paths of a value do the same, allocation by allocation. -/
theorem parseResultsValue_eq (heap : List BitfieldInfoHeap)
    {registerUid : U32} {v : U64}
    (hvalid : breakoutValueValidate l = some (registerUid, v))
    {val64 : U64} {low high : U32}
    (hword : valueToLong val64 low high = v) (a : Alloc)
    (out : List BitfieldInfoPopulated) :
    breakoutParseResultsValue a heap l out
      = breakoutParseResults a heap
          [readOf registerUid val64 low high] l out := by
  have hmask : ∀ a indices,
      breakoutApplyMasksToList a heap val64 low high 0 0 0 0 indices []
        = breakoutApplyMasksToList a heap v 0 0 0 0 0 0 indices [] :=
    fun a indices => breakoutApplyMasksToList_word
      (hword.trans (valueToLong_wide v).symm) a 0 0 0 0 indices []
  unfold breakoutParseResultsValue breakoutParseResults
  rw [hvalid]
  simp only [parseLoop, readOf, hmask]

/-- The calc path agrees with the hardware path: on requests that carry
value `v`, it succeeds and appends what decoding a single read of `v`
appends, in either encoding of `v`, if the requests are of one register,
and fails if they are not. -/
theorem calc_agrees (heap : List BitfieldInfoHeap) (hl : l ≠ []) {v : U64}
    (hv : ∀ r ∈ l, r.calcValue = v) (out : List BitfieldInfoPopulated) :
    (∀ registerUid, (∀ r ∈ l, r.registerUid = registerUid) →
      ∃ added,
        breakoutParseResultsValue .ok heap l out
            = some (0, out ++ added, .ok)
          ∧ ∀ x ∈ [readOf registerUid v 0 0,
              readOf registerUid 0 (.ofNat 32 (v.toNat % 2 ^ 32))
                (.ofNat 32 (v.toNat / 2 ^ 32))],
            breakoutParseResults .ok heap [x] l out
                = some (0, out ++ added, .ok)
              ∧ ∀ a, breakoutParseResultsValue a heap l out
                = breakoutParseResults a heap [x] l out)
    ∧ ∀ r ∈ l, ∀ r' ∈ l, r.registerUid ≠ r'.registerUid →
        ∀ a, breakoutParseResultsValue a heap l out
          = some (-1, out, a) := by
  constructor
  · intro registerUid hreg
    have hvalid := breakoutValueValidate_some hl hv hreg
    have hlow : BitVec.ofNat 32 (v.toNat % 2 ^ 32) = v.setWidth 32 := by
      apply BitVec.eq_of_toNat_eq
      rw [BitVec.toNat_ofNat, BitVec.toNat_setWidth, Nat.mod_mod]
    have hhigh : BitVec.ofNat 32 (v.toNat / 2 ^ 32)
        = (v >>> 32).setWidth 32 := by
      apply BitVec.eq_of_toNat_eq
      rw [BitVec.toNat_ofNat, BitVec.toNat_setWidth,
        BitVec.toNat_ushiftRight, Nat.shiftRight_eq_div_pow]
    have hwide := parseResultsValue_eq heap hvalid
      (valueToLong_wide v)
    have hhalves := parseResultsValue_eq heap hvalid
      (valueToLong_halves v)
    obtain ⟨added, hadded⟩ := breakoutParseResults_grows heap l
      (readOf registerUid v 0 0) out
    refine ⟨added, (hwide .ok out).trans hadded, fun x hx => ?_⟩
    rw [hlow, hhigh] at hx
    rcases List.mem_pair.1 hx with rfl | rfl
    · exact ⟨hadded, fun a => hwide a out⟩
    · refine ⟨?_, fun a => hhalves a out⟩
      rw [← hhalves .ok out, hwide .ok out, hadded]
  · intro r hr r' hr' hne a
    rw [breakoutParseResultsValue,
      breakoutValueValidate_none hr hr' hne]

/-- A request for a field of PMCR with the value 0x2001 supplied. -/
def pmcrRequests : List ResultsInfo :=
  requests smallHeap { pmcrQuery with
    calcValid := 1
    calcValue := 0x2001 }

theorem calc_agrees_pmcr :
    (∀ registerUid, (∀ r ∈ pmcrRequests, r.registerUid = registerUid) →
      ∃ added,
        breakoutParseResultsValue .ok smallHeap pmcrRequests []
            = some (0, [] ++ added, .ok)
          ∧ ∀ x ∈ [readOf registerUid 0x2001 0 0,
              readOf registerUid 0
                (.ofNat 32 ((0x2001 : U64).toNat % 2 ^ 32))
                (.ofNat 32 ((0x2001 : U64).toNat / 2 ^ 32))],
            breakoutParseResults .ok smallHeap [x] pmcrRequests []
                = some (0, [] ++ added, .ok)
              ∧ ∀ a, breakoutParseResultsValue a smallHeap pmcrRequests []
                = breakoutParseResults a smallHeap [x] pmcrRequests [])
    ∧ ∀ r ∈ pmcrRequests, ∀ r' ∈ pmcrRequests,
        r.registerUid ≠ r'.registerUid →
        ∀ a, breakoutParseResultsValue a smallHeap pmcrRequests []
          = some (-1, [], a) :=
  calc_agrees smallHeap (by decide +kernel) (by decide +kernel) []

end Maplesyrup
