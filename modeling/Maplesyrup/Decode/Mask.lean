/-
Taking a field out of a register word (lib/src/parse_breakout.c):
`power`, `get_mask`, `breakout_applymask` and `value_to_long`, and what
they compute.

C's `long long` is two's complement, so a wrapping product is the
product of bit vectors.
-/
import Maplesyrup.Base.Words
import Maplesyrup.Common.Parse

namespace Maplesyrup

-- ============================================================ the code

/-- `x` to the `n`, by squaring. -/
def power (x : BitVec 32) : Nat → BitVec 64
  | 0 => 1
  | n + 1 =>
      if (n + 1) % 2 = 0 then
        let m := power x ((n + 1) / 2)
        m * m
      else x.signExtend 64 * power x n

/-- `power` on an `int` exponent, down to `depth` nested calls: its value,
and the products it computes on the way, each as the product of its two
factors. An exponent below 0 never gets to 0. -/
def powerCalls (x : BitVec 32) :
    Nat → BitVec 32 → Option (BitVec 64 × List Int)
  | 0, _ => none
  | depth + 1, n =>
      if n = 0 then some (1, [])
      else if n.srem 2 = 0 then do
        let (m, products) ← powerCalls x depth (n.sdiv 2)
        some (m * m, products ++ [m.toInt * m.toInt])
      else do
        let (m, products) ← powerCalls x depth (n - 1)
        some (x.signExtend 64 * m, products ++ [x.toInt * m.toInt])

def maskMaxBits : Nat := 64

/-- The low `bits` bits. -/
def getMask (bits : U32) : U64 :=
  if bits.toNat ≤ maskMaxBits then power 2 bits.toNat - 1 else 0

/-- A shift by 64 or more has no meaning in C; here it gives 0. -/
def breakoutApplymask (value : U64) (start mask : U32) : U64 :=
  (value >>> start.toNat) &&& getMask mask

/-- One word from a payload: the 64-bit part unless a 32-bit part is
set. -/
def valueToLong (valIn64 : U64) (low high : U32) : U64 :=
  if valIn64 ≠ 0 ∧ low = 0 ∧ high = 0 then valIn64
  else (high.setWidth 64 <<< 32) ||| low.setWidth 64

-- ==================================================== what they compute

theorem power_eq (x : BitVec 32) (n : Nat) :
    power x n = x.signExtend 64 ^ n := by
  fun_induction power x n with
  | case1 => exact (pow_zero _).symm
  | case2 n heven m ih =>
      have hhalf : (n + 1) / 2 + (n + 1) / 2 = n + 1 := by omega
      show power x ((n + 1) / 2) * power x ((n + 1) / 2) = _
      rw [ih, ← pow_add, hhalf]
  | case3 n hodd ih => rw [ih, pow_succ, mul_comm]

/-- The mask of 64 bits or fewer, as a number. -/
theorem getMask_toNat {bits : U32} (h : bits.toNat ≤ 64) :
    (getMask bits).toNat = 2 ^ bits.toNat - 1 := by
  rw [getMask, if_pos (show _ ≤ maskMaxBits from h), power_eq]
  have hbase : (2 : BitVec 32).signExtend 64 = 2#64 := by decide
  have hpow : (2#64 ^ bits.toNat).toNat = 2 ^ bits.toNat % 2 ^ 64 := by
    rw [BitVec.toNat_pow]
    rfl
  rw [hbase, BitVec.toNat_sub, hpow]
  rcases Nat.lt_or_eq_of_le h with hlt | heq
  · have hsmall : 2 ^ bits.toNat < 2 ^ 64 :=
      Nat.pow_lt_pow_right (by omega) hlt
    have hone : 0 < 2 ^ bits.toNat := Nat.two_pow_pos _
    rw [Nat.mod_eq_of_lt hsmall]
    show (2 ^ 64 - 1 + 2 ^ bits.toNat) % 2 ^ 64 = _
    omega
  · rw [heq]
    decide

/-- The field of `mask` bits from bit `start` on. -/
theorem breakoutApplymask_toNat (value : U64) (start : U32) {mask : U32}
    (h : mask.toNat ≤ 64) :
    (breakoutApplymask value start mask).toNat
      = (value.toNat >>> start.toNat) % 2 ^ mask.toNat := by
  rw [breakoutApplymask, BitVec.toNat_and, getMask_toNat h,
    BitVec.toNat_ushiftRight, Nat.and_two_pow_sub_one_eq_mod]

-- ===================================================== the rebuilt word

theorem valueToLong_wide (w : U64) : valueToLong w 0 0 = w := by
  unfold valueToLong
  by_cases hw : w = 0
  · subst hw
    rfl
  · exact if_pos ⟨hw, rfl, rfl⟩

theorem valueToLong_narrow (low high : U32) :
    valueToLong 0 low high
      = (high.setWidth 64 <<< 32) ||| low.setWidth 64 :=
  if_neg fun h => h.1 rfl

theorem valueToLong_low (low : U32) :
    valueToLong 0 low 0 = low.setWidth 64 := by
  have hhigh : (0 : U32).setWidth 64 <<< 32 = 0#64 := by decide
  rw [valueToLong_narrow, hhigh, BitVec.zero_or]

/-- A value stored in two words, rebuilt. -/
theorem valueToLong_halves (v : U64) :
    valueToLong 0 (v.setWidth 32) ((v >>> 32).setWidth 32) = v := by
  rw [valueToLong_narrow]
  exact Base.halves_or (w := 32) v

end Maplesyrup
