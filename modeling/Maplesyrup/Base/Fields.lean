/-
Fields of a word: ranges of bits, read out one by one and put back.

The sum of the fields of a word, each at its place, is the word
restricted to the bits the fields cover, if no two of them share a bit:
what a field puts back are the word's bits in its range, and numbers
without a common bit add without a carry.

Whether the fields of a list share a bit is asked of numbers, the bits
of a field being the bits of one: a pass over the list keeps the bits
seen so far.
-/
import Mathlib

namespace Maplesyrup.Base

-- ============================================================== one field

/-- `width` bits, from bit `lo` on. -/
structure Field where
  lo : Nat
  width : Nat
deriving DecidableEq

namespace Field

variable {f g : Field}

/-- The field has bit `n`. -/
def Has (f : Field) (n : Nat) : Prop := f.lo ≤ n ∧ n < f.lo + f.width

instance (f : Field) (n : Nat) : Decidable (f.Has n) :=
  inferInstanceAs (Decidable (_ ∧ _))

/-- No bit is in both. -/
def Apart (f g : Field) : Prop := ∀ n, f.Has n → ¬ g.Has n

/-- The field's bits, set. -/
def bits (f : Field) : Nat := (2 ^ f.width - 1) <<< f.lo

/-- What the field holds of a word. -/
def read (f : Field) (x : Nat) : Nat := (x >>> f.lo) % 2 ^ f.width

theorem testBit_bits (f : Field) (n : Nat) :
    f.bits.testBit n = decide (f.Has n) := by
  rw [bits, Nat.testBit_shiftLeft, Nat.testBit_two_pow_sub_one,
    ← Bool.decide_and, decide_eq_decide]
  unfold Has
  omega

/-- A field put back at its place is the word there, and nothing
elsewhere. -/
theorem testBit_placed (f : Field) (x n : Nat) :
    (f.read x * 2 ^ f.lo).testBit n
      = (decide (f.Has n) && x.testBit n) := by
  rw [read, Nat.testBit_mul_two_pow, Nat.testBit_mod_two_pow,
    Nat.testBit_shiftRight, ← Bool.and_assoc, ← Bool.decide_and]
  by_cases hlo : f.lo ≤ n
  · have hplace : f.lo + (n - f.lo) = n := by omega
    have hin : (f.lo ≤ n ∧ n - f.lo < f.width) ↔ f.Has n := by
      unfold Has
      omega
    rw [hplace, decide_eq_decide.2 hin]
  · have hout : ¬ f.Has n := fun h => hlo h.1
    simp [hlo, hout]

/-- So it is the word masked. -/
theorem placed_eq (f : Field) (x : Nat) :
    f.read x * 2 ^ f.lo = x &&& f.bits := by
  apply Nat.eq_of_testBit_eq
  intro n
  rw [testBit_placed, Nat.testBit_and, testBit_bits, Bool.and_comm]

theorem apart_of_and (h : f.bits &&& g.bits = 0) : f.Apart g := by
  intro n hf hg
  have hbit : (f.bits &&& g.bits).testBit n = true := by
    rw [Nat.testBit_and, testBit_bits, testBit_bits]
    simp [hf, hg]
  rw [h, Nat.zero_testBit] at hbit
  cases hbit

theorem and_of_apart (h : f.Apart g) : f.bits &&& g.bits = 0 := by
  apply Nat.eq_of_testBit_eq
  intro n
  rw [Nat.testBit_and, testBit_bits, testBit_bits, Nat.zero_testBit,
    ← Bool.decide_and, decide_eq_false_iff_not]
  exact fun hn => h n hn.1 hn.2

end Field

-- ============================================================ many fields

/-- Numbers without a common bit add without a carry. -/
theorem add_eq_or {x y : Nat} (h : x &&& y = 0) : x + y = x ||| y := by
  have hx : x < 2 ^ (x + y) :=
    Nat.lt_two_pow_self.trans_le (Nat.pow_le_pow_right (by omega) (by omega))
  have hy : y < 2 ^ (x + y) :=
    Nat.lt_two_pow_self.trans_le (Nat.pow_le_pow_right (by omega) (by omega))
  have hand : BitVec.ofNat (x + y) x &&& BitVec.ofNat (x + y) y = 0#_ := by
    apply BitVec.eq_of_toNat_eq
    rw [BitVec.toNat_and, BitVec.toNat_ofNat, BitVec.toNat_ofNat,
      Nat.mod_eq_of_lt hx, Nat.mod_eq_of_lt hy, h, BitVec.toNat_ofNat,
      Nat.zero_mod]
  have hsum := BitVec.toNat_add_of_and_eq_zero hand
  rw [BitVec.add_eq_or_of_and_eq_zero _ _ hand, BitVec.toNat_or,
    BitVec.toNat_ofNat, BitVec.toNat_ofNat, Nat.mod_eq_of_lt hx,
    Nat.mod_eq_of_lt hy] at hsum
  exact hsum.symm

/-- The bits of all the fields, set. -/
def cover (fields : List Field) : Nat :=
  fields.foldr (fun f m => f.bits ||| m) 0

/-- The word without the bits outside the fields. -/
def restrict (fields : List Field) (x : Nat) : Nat := x &&& cover fields

theorem testBit_cover (fields : List Field) (n : Nat) :
    (cover fields).testBit n = fields.any fun f => decide (f.Has n) := by
  induction fields with
  | nil => simp [cover]
  | cons f fields ih =>
      show (f.bits ||| cover fields).testBit n = _
      rw [Nat.testBit_or, Field.testBit_bits, ih, List.any_cons]

/-- A bit of the restricted word is a bit of the word and of some
field. -/
theorem testBit_restrict (fields : List Field) (x n : Nat) :
    (restrict fields x).testBit n
      = (x.testBit n && fields.any fun f => decide (f.Has n)) := by
  rw [restrict, Nat.testBit_and, testBit_cover]

/-- What is apart from every field is apart from all of them. -/
theorem and_cover {f : Field} {fields : List Field}
    (h : ∀ g ∈ fields, f.Apart g) : f.bits &&& cover fields = 0 := by
  induction fields with
  | nil => exact Nat.and_zero _
  | cons g fields ih =>
      show f.bits &&& (g.bits ||| cover fields) = 0
      rw [Nat.and_or_distrib_left,
        Field.and_of_apart (h g (List.mem_cons_self ..)),
        ih fun q hq => h q (List.mem_cons_of_mem _ hq), Nat.or_zero]

/-- Fields apart: each put back at its place, they are the word
restricted to them. -/
theorem sum_placed {fields : List Field} (h : fields.Pairwise Field.Apart)
    (x : Nat) :
    (fields.map fun f => f.read x * 2 ^ f.lo).sum = restrict fields x := by
  induction fields with
  | nil => exact (Nat.and_zero x).symm
  | cons f fields ih =>
      obtain ⟨hf, hfields⟩ := List.pairwise_cons.1 h
      have hdisj : x &&& f.bits &&& restrict fields x = 0 := by
        have hcover := and_cover hf
        apply Nat.eq_of_testBit_eq
        intro n
        have hn := congrArg (·.testBit n) hcover
        simp only [Nat.testBit_and, Nat.zero_testBit,
          Bool.and_eq_false_iff] at hn ⊢
        rw [restrict, Nat.testBit_and, Bool.and_eq_false_iff]
        rcases hn with hn | hn
        · exact Or.inl (Or.inr hn)
        · exact Or.inr (Or.inr hn)
      rw [List.map_cons, List.sum_cons, ih hfields, Field.placed_eq,
        add_eq_or hdisj, restrict, ← Nat.and_or_distrib_left]
      rfl

-- ============================================================ quick check

/-- The numbers share no bit, nor one with `seen`. -/
def unshared (seen : Nat) : List Nat → Bool
  | [] => true
  | n :: l => (seen &&& n == 0) && unshared (seen ||| n) l

theorem unshared_sound {seen : Nat} {l : List Nat}
    (h : unshared seen l = true) :
    l.Pairwise (fun n m => n &&& m = 0) ∧ ∀ n ∈ l, seen &&& n = 0 := by
  induction l generalizing seen with
  | nil =>
      exact ⟨List.Pairwise.nil, fun n hn => absurd hn List.not_mem_nil⟩
  | cons n l ih =>
      rw [unshared, Bool.and_eq_true, beq_iff_eq] at h
      obtain ⟨hpair, hseen⟩ := ih h.2
      have hrest : ∀ m ∈ l, seen &&& m = 0 ∧ n &&& m = 0 := by
        intro m hm
        have hm' := hseen m hm
        rwa [Nat.and_or_distrib_right, Nat.or_eq_zero_iff] at hm'
      refine ⟨List.pairwise_cons.2 ⟨fun m hm => (hrest m hm).2, hpair⟩,
        fun m hm => ?_⟩
      rcases List.mem_cons.1 hm with rfl | hm
      · exact h.1
      · exact (hrest m hm).1

end Maplesyrup.Base
