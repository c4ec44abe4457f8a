/-
Does `power` return, and does it stay within `long long`?

Two calls at least halve an exponent that is not negative, so 63 nested
calls do for every `int`. The value is a power of bit vectors; a product
on the way is a power of `x` to a smaller exponent, and of these only
the last can leave the range when the result is within it. An exponent
below 0 stays below 0 from call to call.
-/
import Maplesyrup.Decode.Mask

namespace Maplesyrup

variable {x n : BitVec 32}

-- ============================================================ the values

/-- The number is one of a `long long`. -/
def FitsLongLong (v : Int) : Prop := -2 ^ 63 ≤ v ∧ v < 2 ^ 63

theorem power_toInt (x : BitVec 32) (n : Nat) :
    (power x n).toInt = (x.toInt ^ n).bmod (2 ^ 64) := by
  rw [power_eq]
  induction n with
  | zero =>
      rw [pow_zero, pow_zero]
      rfl
  | succ n ih =>
      have hx : (x.signExtend 64).toInt = x.toInt :=
        BitVec.toInt_signExtend_of_le (by omega)
      rw [pow_succ, pow_succ, BitVec.toInt_mul, ih, hx]
      exact Int.bmod_mul_bmod

theorem power_fits {n : Nat} (h : FitsLongLong (x.toInt ^ n)) :
    (power x n).toInt = x.toInt ^ n := by
  obtain ⟨hlow, hhigh⟩ := h
  rw [power_toInt]
  apply Int.bmod_eq_of_le
  · norm_num
    omega
  · norm_num
    omega

/-- A smaller power fits if a larger one does. -/
theorem fitsLongLong_pow {a : Int} {m n : Nat} (hmn : m ≤ n)
    (h : FitsLongLong (a ^ n)) : FitsLongLong (a ^ m) := by
  rcases Nat.eq_or_lt_of_le hmn with rfl | hlt
  · exact h
  -- below the last exponent an absolute value has doubled at least once
  have hbound : |a ^ m| < 2 ^ 63 := by
    rw [abs_pow]
    rcases lt_or_ge 1 |a| with hlarge | hsmall
    · have hdouble : 2 * |a| ^ m ≤ |a| ^ n :=
        calc 2 * |a| ^ m ≤ |a| * |a| ^ m :=
              mul_le_mul_of_nonneg_right hlarge (pow_nonneg (abs_nonneg a) m)
          _ = |a| ^ (m + 1) := (pow_succ' _ _).symm
          _ ≤ |a| ^ n := pow_le_pow_right₀ (by omega) hlt
      have hn : |a| ^ n ≤ 2 ^ 63 := by
        rw [← abs_pow, abs_le]
        obtain ⟨hlow, hhigh⟩ := h
        omega
      omega
    · have hone : |a| ^ m ≤ 1 := pow_le_one₀ (abs_nonneg a) hsmall
      omega
  rw [abs_lt] at hbound
  exact ⟨by omega, hbound.2⟩

-- ============================================================= the calls

/-- From `depth` nested calls on, `power x n` returns its value, with
these products on the way, all within range if its result is. -/
structure PowerReturns (x : BitVec 32) (depth n : Nat)
    (products : List Int) : Prop where
  calls : ∀ d, depth ≤ d →
    powerCalls x d (.ofNat 32 n) = some (power x n, products)
  fits : FitsLongLong (x.toInt ^ n) → ∀ p ∈ products, FitsLongLong p

theorem powerReturns_zero (x : BitVec 32) : PowerReturns x 1 0 [] := by
  constructor
  · intro d hd
    obtain ⟨d, rfl⟩ := Nat.exists_eq_add_of_le' hd
    rw [power_eq, pow_zero]
    rfl
  · intro _ p hp
    cases hp

/-- The exponents of the two recursive calls. -/
theorem exponent_halves {n : Nat} (hn : n < 2 ^ 31) :
    (BitVec.ofNat 32 n).srem 2 = .ofNat 32 (n % 2)
      ∧ (BitVec.ofNat 32 n).sdiv 2 = .ofNat 32 (n / 2) := by
  have hnat : (BitVec.ofNat 32 n).toNat = n := by
    rw [BitVec.toNat_ofNat]
    omega
  have hmsb : (BitVec.ofNat 32 n).msb = false := by
    rw [BitVec.msb_eq_false_iff_two_mul_lt]
    omega
  have htwo : (2 : BitVec 32).msb = false := by decide
  have htwo' : (2 : BitVec 32).toNat = 2 := rfl
  constructor
  · rw [BitVec.srem, hmsb, htwo]
    apply BitVec.eq_of_toNat_eq
    simp only [BitVec.umod_eq, BitVec.toNat_umod, hnat, htwo',
      BitVec.toNat_ofNat]
    omega
  · rw [BitVec.sdiv, hmsb, htwo]
    apply BitVec.eq_of_toNat_eq
    simp only [BitVec.udiv_eq, BitVec.toNat_udiv, hnat, htwo',
      BitVec.toNat_ofNat]
    omega

theorem ofNat_ne_zero {n : Nat} (hpos : 0 < n) (hn : n < 2 ^ 31) :
    BitVec.ofNat 32 n ≠ 0 := by
  intro h
  have hnat := congrArg BitVec.toNat h
  rw [BitVec.toNat_ofNat] at hnat
  simp at hnat
  omega

/-- An even exponent squares the power to its half. -/
theorem PowerReturns.double {depth n : Nat} {products : List Int}
    (h : PowerReturns x depth n products) (hpos : 0 < n)
    (hn : 2 * n < 2 ^ 31) :
    PowerReturns x (depth + 1) (2 * n)
      (products ++ [(power x n).toInt * (power x n).toInt]) := by
  obtain ⟨hrem, hdiv⟩ := exponent_halves hn
  have hvalue : power x (2 * n) = power x n * power x n := by
    rw [power_eq, power_eq, two_mul, pow_add]
  constructor
  · intro d hd
    obtain ⟨d, rfl⟩ := Nat.exists_eq_add_of_le' hd
    have hcall := h.calls (d + depth) (by omega)
    have heven : 2 * n % 2 = 0 := by omega
    have hhalf : 2 * n / 2 = n := by omega
    rw [heven] at hrem
    rw [hhalf] at hdiv
    show powerCalls x (d + depth + 1) _ = _
    rw [powerCalls, if_neg (ofNat_ne_zero (by omega) hn), hrem,
      if_pos (by rfl), hdiv, hcall, hvalue]
    rfl
  · intro hfits p hp
    have hsmall := fitsLongLong_pow (show n ≤ 2 * n by omega) hfits
    rcases List.mem_append.1 hp with hp | hp
    · exact h.fits hsmall p hp
    · rw [List.mem_singleton.1 hp, power_fits hsmall, ← pow_add, ← two_mul]
      exact hfits

/-- An odd one multiplies the power before it by `x`. -/
theorem PowerReturns.next {depth n : Nat} {products : List Int}
    (h : PowerReturns x depth n products) (heven : n % 2 = 0)
    (hn : n + 1 < 2 ^ 31) :
    PowerReturns x (depth + 1) (n + 1)
      (products ++ [x.toInt * (power x n).toInt]) := by
  obtain ⟨hrem, -⟩ := exponent_halves hn
  have hvalue : power x (n + 1) = x.signExtend 64 * power x n := by
    rw [power_eq, power_eq, pow_succ']
  constructor
  · intro d hd
    obtain ⟨d, rfl⟩ := Nat.exists_eq_add_of_le' hd
    have hcall := h.calls (d + depth) (by omega)
    have hodd : (n + 1) % 2 = 1 := by omega
    have hpred : BitVec.ofNat 32 (n + 1) - 1 = .ofNat 32 n := by
      apply BitVec.eq_of_toNat_eq
      rw [BitVec.toNat_sub, BitVec.toNat_ofNat, BitVec.toNat_ofNat]
      simp
      omega
    rw [hodd] at hrem
    show powerCalls x (d + depth + 1) _ = _
    rw [powerCalls, if_neg (ofNat_ne_zero (by omega) hn), hrem,
      if_neg (by decide), hpred, hcall, hvalue]
    rfl
  · intro hfits p hp
    have hsmall := fitsLongLong_pow (show n ≤ n + 1 by omega) hfits
    rcases List.mem_append.1 hp with hp | hp
    · exact h.fits hsmall p hp
    · rw [List.mem_singleton.1 hp, power_fits hsmall, ← pow_succ']
      exact hfits

/-- Two calls for each bit of the exponent do. -/
theorem powerReturns_of_lt (x : BitVec 32) {k : Nat} (hk : k ≤ 31) {n : Nat}
    (hn : n < 2 ^ k) :
    ∃ depth products, depth ≤ 2 * k + 1
      ∧ PowerReturns x depth n products := by
  induction k generalizing n with
  | zero =>
      obtain rfl : n = 0 := by omega
      exact ⟨1, [], by omega, powerReturns_zero x⟩
  | succ k ih =>
      have hsmall : 2 ^ (k + 1) ≤ 2 ^ 31 :=
        Nat.pow_le_pow_right (by omega) hk
      have heven : ∃ depth products, depth ≤ 2 * k + 2
          ∧ PowerReturns x depth (2 * (n / 2)) products := by
        rcases Nat.eq_zero_or_pos (n / 2) with hzero | hpos
        · rw [hzero]
          exact ⟨1, [], by omega, powerReturns_zero x⟩
        · obtain ⟨depth, products, hdepth, h⟩ :=
            ih (by omega) (show n / 2 < 2 ^ k by omega)
          exact ⟨depth + 1, _, by omega, h.double hpos (by omega)⟩
      obtain ⟨depth, products, hdepth, h⟩ := heven
      rcases Nat.mod_two_eq_zero_or_one n with hn' | hn'
      · have hn2 : 2 * (n / 2) = n := by omega
        rw [hn2] at h
        exact ⟨depth, products, by omega, h⟩
      · have hn2 : 2 * (n / 2) + 1 = n := by omega
        have hnext := h.next (by omega) (by omega)
        rw [hn2] at hnext
        exact ⟨depth + 1, _, by omega, hnext⟩

/-- `power` returns for every exponent that is not negative, with `x ^ n`
as a signed 64-bit number, and if `x ^ n` is one, so is every product on
the way. -/
theorem power_exact (x n : BitVec 32) (hn : 0 ≤ n.toInt) :
    ∃ products,
      (∀ depth, 63 ≤ depth →
        powerCalls x depth n = some (power x n.toNat, products))
      ∧ (power x n.toNat).toInt = (x.toInt ^ n.toNat).bmod (2 ^ 64)
      ∧ (FitsLongLong (x.toInt ^ n.toNat) →
          ∀ p ∈ products, FitsLongLong p) := by
  have hlt : n.toNat < 2 ^ 31 := by
    have hmsb := @BitVec.msb_eq_toInt 32 n
    rw [decide_eq_false (by omega),
      BitVec.msb_eq_false_iff_two_mul_lt] at hmsb
    omega
  obtain ⟨depth, products, hdepth, h⟩ :=
    powerReturns_of_lt x (Nat.le_refl 31) hlt
  refine ⟨products, fun d hd => ?_, power_toInt x _, h.fits⟩
  have hcall := h.calls d (by omega)
  rwa [BitVec.ofNat_toNat, BitVec.setWidth_eq] at hcall

/-- The power behind the mask of a byte. -/
theorem power_exact_byte :
    ∃ products,
      (∀ depth, 63 ≤ depth →
        powerCalls 2 depth 8 = some (power 2 8, products))
      ∧ (power 2 8).toInt = (2 ^ 8 : Int).bmod (2 ^ 64)
      ∧ (FitsLongLong (2 ^ 8) → ∀ p ∈ products, FitsLongLong p) :=
  power_exact 2 8 (by decide)

example : powerCalls 2 63 8 = some (256, [2, 4, 16, 256]) := by decide

/-- Below 0 it does not return. -/
theorem power_negative (x : BitVec 32) (hn : n.toInt < 0) (depth : Nat) :
    powerCalls x depth n = none := by
  induction depth generalizing n with
  | zero => rfl
  | succ depth ih =>
      have hne : n ≠ 0 := by
        rintro rfl
        exact absurd hn (by decide)
      have hrem := BitVec.toInt_srem n 2
      have htwo : (2 : BitVec 32).toInt = 2 := by decide
      have hrange := BitVec.le_toInt n
      rw [powerCalls, if_neg hne]
      by_cases heven : n.srem 2 = 0
      · have hdiv : (n.sdiv 2).toInt < 0 := by
          have hzero : n.toInt.tmod 2 = 0 := by
            rw [← htwo, ← hrem, heven]
            rfl
          have hsplit := Int.mul_tdiv_add_tmod n.toInt 2
          rw [BitVec.toInt_sdiv, htwo, Int.bmod_eq_of_le]
          all_goals omega
        rw [if_pos heven, ih hdiv]
        rfl
      · have hpred : (n - 1).toInt < 0 := by
          have hmin : n.toInt ≠ -2 ^ 31 := by
            intro hmin
            apply heven
            have hn' : n = BitVec.ofInt 32 (-2 ^ 31) := by
              rw [← hmin, BitVec.ofInt_toInt]
            rw [hn']
            decide
          rw [BitVec.toInt_sub, Int.bmod_eq_of_le]
          all_goals
            have hone : (1 : BitVec 32).toInt = 1 := by decide
            norm_num at hrange
            omega
        rw [if_neg heven, ih hpred]
        rfl

end Maplesyrup
