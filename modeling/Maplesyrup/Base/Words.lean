/-
Machine words cut into low and high parts: masking, shifting out, and
putting two halves together again. Bit by bit, so that a cut at any place
is one comparison.
-/
import Mathlib

namespace Maplesyrup.Base

variable {w k n : Nat}

/-- A word has no bit beyond its width. -/
theorem getLsbD_below (x : BitVec w) (n : Nat) :
    x.getLsbD n = (decide (n < w) && x.getLsbD n) := by
  rcases Nat.lt_or_ge n w with h | h
  · simp [h]
  · rw [BitVec.getLsbD_of_ge x n h, Bool.and_false]

/-- Nor beyond the size of its number. -/
theorem getLsbD_of_small {x : BitVec w} (h : x.toNat < 2 ^ k)
    (hn : k ≤ n) : x.getLsbD n = false := by
  have hpow : x.toNat < 2 ^ n :=
    h.trans_le (Nat.pow_le_pow_right (by omega) hn)
  exact Nat.testBit_lt_two_pow hpow

/-- A number that fits below the shift is shifted out. -/
theorem ushiftRight_of_small {x : BitVec w} (h : x.toNat < 2 ^ k) :
    x >>> k = 0#w := by
  apply BitVec.eq_of_getLsbD_eq
  intro n _
  rw [BitVec.getLsbD_ushiftRight, getLsbD_of_small h (by omega),
    BitVec.getLsbD_zero]

/-- Masking with `k` ones keeps the low `k` bits. -/
theorem getLsbD_and_ones (x : BitVec w) (k n : Nat) :
    (x &&& BitVec.ofNat w (2 ^ k - 1)).getLsbD n
      = (decide (n < k) && x.getLsbD n) := by
  rw [BitVec.getLsbD_and, BitVec.getLsbD_ofNat,
    Nat.testBit_two_pow_sub_one]
  rcases Nat.lt_or_ge n w with h | h
  · simp [h, Bool.and_comm]
  · simp [BitVec.getLsbD_of_ge x n h]

/-- Cutting to `k` bits and widening again keeps the low `k` bits. -/
theorem getLsbD_setWidth_setWidth {v : BitVec w} (hk : k ≤ w) (n : Nat) :
    ((v.setWidth k).setWidth w).getLsbD n
      = (decide (n < k) && v.getLsbD n) := by
  rw [BitVec.getLsbD_setWidth, BitVec.getLsbD_setWidth]
  rcases Nat.lt_or_ge n k with h | h
  · simp [h, h.trans_le hk]
  · simp [Nat.not_lt.2 h]

/-- A word is its two halves. -/
theorem halves_or (v : BitVec (w + w)) :
    (((v >>> w).setWidth w).setWidth (w + w) <<< w)
      ||| (v.setWidth w).setWidth (w + w) = v := by
  apply BitVec.eq_of_getLsbD_eq
  intro n hn
  rw [BitVec.getLsbD_or, BitVec.getLsbD_shiftLeft,
    getLsbD_setWidth_setWidth (Nat.le_add_right w w),
    getLsbD_setWidth_setWidth (Nat.le_add_right w w),
    BitVec.getLsbD_ushiftRight]
  rcases Nat.lt_or_ge n w with h | h
  · simp [h]
  · have hback : w + (n - w) = n := by omega
    have hhigh : n - w < w := by omega
    simp [Nat.not_lt.2 h, hn, hback, hhigh]

end Maplesyrup.Base
