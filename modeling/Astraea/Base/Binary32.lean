import Mathlib.Algebra.Order.Field.Rat
import Mathlib.Algebra.Order.Ring.Cast
import Mathlib.Algebra.Order.Ring.Abs
import Mathlib.Algebra.Order.Group.Nat
import Mathlib.Data.Rat.Cast.Defs
import Mathlib.Tactic.Ring
import Mathlib.Tactic.Linarith
import Mathlib.Tactic.NormNum
import Mathlib.Tactic.FieldSimp
import Mathlib.Tactic.Push

/-!
# Binary floating point

A finite binary floating-point number is an integer times a power of two. `scaled` is this
number; a number that is not zero can be written in many such ways, but in one only where the
integer has a given number of bits. The second half is the binary32 format: the fields of a
pattern, which patterns are normal numbers, and the number such a pattern stands for.
-/

namespace Astraea.Base

/-! ### Integers times powers of two -/

/-- The number `significand * 2 ^ exponent`. -/
def scaled (significand exponent : ℤ) : ℚ := significand * 2 ^ exponent

section Scaled

variable {m n r e f : ℤ} {p k : ℕ}

theorem scaled_add : scaled m e + scaled n e = scaled (m + n) e := by
  unfold scaled
  push_cast
  ring

theorem scaled_mul_two_pow : scaled (m * 2 ^ k) e = scaled m (e + k) := by
  unfold scaled
  rw [zpow_add₀ (by norm_num), zpow_natCast]
  push_cast
  ring

theorem scaled_injective : scaled m e = scaled n e ↔ m = n := by
  unfold scaled
  have hpos : (2 : ℚ) ^ e ≠ 0 := zpow_ne_zero _ (by norm_num)
  rw [mul_left_inj' hpos, Int.cast_inj]

theorem scaled_neg : scaled (-m) e = -scaled m e := by
  unfold scaled
  push_cast
  ring

theorem abs_scaled : |scaled m e| = scaled m.natAbs e := by
  have hpos : (0 : ℚ) < 2 ^ e := zpow_pos (by norm_num) e
  rw [scaled, scaled, abs_mul, abs_of_pos hpos, Int.natCast_natAbs, Int.cast_abs]

theorem scaled_add_exponent (k : ℤ) : scaled m (e + k) = scaled m e * 2 ^ k := by
  unfold scaled
  rw [zpow_add₀ (by norm_num), mul_assoc]

theorem scaled_eq_zero : scaled m e = 0 ↔ m = 0 := by
  have h : scaled 0 e = 0 := by simp [scaled]
  rw [← h, scaled_injective]

/-- Two such numbers are compared at the smaller exponent. -/
theorem scaled_eq_scaled_iff (h : e ≤ f) : scaled m e = scaled n f ↔ m = n * 2 ^ (f - e).toNat := by
  have hf : f = e + ((f - e).toNat : ℤ) := by omega
  conv_lhs => rw [hf, ← scaled_mul_two_pow]
  exact scaled_injective

/-- An integer whose magnitude has `p + 1` bits. -/
def HasBits (p : ℕ) (m : ℤ) : Prop := 2 ^ p ≤ m.natAbs ∧ m.natAbs < 2 ^ (p + 1)

theorem HasBits.ne_zero (h : HasBits p m) : m ≠ 0 := by
  intro hzero
  have := h.1
  rw [hzero, Int.natAbs_zero] at this
  exact absurd this (Nat.not_le_of_lt (Nat.two_pow_pos p))

/-- An integer with `p + 1` bits that is another one moved up is not moved at all. -/
theorem HasBits.shift_eq_zero (hm : HasBits p (n * 2 ^ k)) (hn : HasBits p n) : k = 0 := by
  have hlt := hm.2
  rw [Int.natAbs_mul, Int.natAbs_pow] at hlt
  by_contra hk
  have htwo : 2 ^ 1 ≤ 2 ^ k := Nat.pow_le_pow_right (by omega) (by omega)
  have hle : 2 ^ p * 2 ^ 1 ≤ n.natAbs * 2 ^ k := Nat.mul_le_mul hn.1 htwo
  rw [← Nat.pow_add] at hle
  exact Nat.not_lt_of_le hle hlt

/-- **Normal forms are unique**: the integer has a given number of bits in one way only. -/
theorem HasBits.unique (hm : HasBits p m) (hn : HasBits p n) (h : scaled m e = scaled n f) :
    m = n ∧ e = f := by
  rcases le_total e f with hle | hle
  · rw [scaled_eq_scaled_iff hle] at h
    have hk := HasBits.shift_eq_zero (h ▸ hm) hn
    rw [hk, pow_zero, mul_one] at h
    exact ⟨h, by omega⟩
  · have h := h.symm
    rw [scaled_eq_scaled_iff hle] at h
    have hk := HasBits.shift_eq_zero (h ▸ hn) hm
    rw [hk, pow_zero, mul_one] at h
    exact ⟨h.symm, by omega⟩

/-- The magnitude of a sum of two numbers that are further apart than they have bits. -/
theorem HasBits.natAbs_sum_gt (hm : HasBits p m) (hn : HasBits p n) (hk : p + 1 < k) :
    2 ^ (p + k - 1) < (m * 2 ^ k + n).natAbs := by
  have hbig : 2 ^ (p + k) ≤ (m * 2 ^ k).natAbs := by
    rw [Int.natAbs_mul, Int.natAbs_pow, Nat.pow_add]
    exact Nat.mul_le_mul_right _ hm.1
  have hsmall := hn.2
  have htwo : 2 ^ (p + 1) ≤ 2 ^ (p + k - 1) := Nat.pow_le_pow_right (by omega) (by omega)
  have hdouble : 2 ^ (p + k) = 2 * 2 ^ (p + k - 1) := by
    rw [← Nat.pow_succ', Nat.succ_eq_add_one, Nat.sub_add_cancel (by omega)]
  omega

/-- **Far apart is not representable**: two integers with `p + 1` bits, one of them moved up by more
than `p + 1`, have no sum with `p + 1` bits, at any exponent. -/
theorem HasBits.sum_ne (hm : HasBits p m) (hn : HasBits p n) (hr : HasBits p r) (hk : p + 1 < k) :
    scaled (m * 2 ^ k + n) e ≠ scaled r f := by
  intro h
  have hgt := hm.natAbs_sum_gt hn hk
  -- the sum is long, so the integer `r` stands far above the lowest bit of `n`
  have hhigh : e + (p + 1 : ℕ) ≤ f := by
    by_contra hlow
    rcases le_total e f with hle | hle
    · rw [scaled_eq_scaled_iff hle] at h
      have habs : (m * 2 ^ k + n).natAbs < 2 ^ (p + 1) * 2 ^ (f - e).toNat := by
        rw [h, Int.natAbs_mul, Int.natAbs_pow]
        exact Nat.mul_lt_mul_of_pos_right hr.2 (Nat.two_pow_pos _)
      rw [← Nat.pow_add] at habs
      have hexp : 2 ^ (p + 1 + (f - e).toNat) ≤ 2 ^ (p + k - 1) :=
        Nat.pow_le_pow_right (by omega) (by omega)
      omega
    · have h := h.symm
      rw [scaled_eq_scaled_iff hle] at h
      have habs : (m * 2 ^ k + n).natAbs ≤ r.natAbs := by
        rw [h, Int.natAbs_mul, Int.natAbs_pow]
        exact Nat.le_mul_of_pos_right _ (Nat.two_pow_pos _)
      have hexp : 2 ^ (p + 1) ≤ 2 ^ (p + k - 1) := Nat.pow_le_pow_right (by omega) (by omega)
      have := hr.2
      omega
  -- so `2 ^ (p + 1)` divides the sum and what was moved up, and with them `n`
  rw [scaled_eq_scaled_iff (by omega)] at h
  have hsum : (2 : ℤ) ^ (p + 1) ∣ m * 2 ^ k + n := by
    rw [h]
    exact Dvd.dvd.mul_left (pow_dvd_pow 2 (by omega)) r
  have hmoved : (2 : ℤ) ^ (p + 1) ∣ m * 2 ^ k := Dvd.dvd.mul_left (pow_dvd_pow 2 (by omega)) m
  have hdvd : (2 : ℤ) ^ (p + 1) ∣ n := (Int.dvd_add_right hmoved).mp hsum
  have hle := Int.natAbs_le_of_dvd_ne_zero hdvd hn.ne_zero
  rw [Int.natAbs_pow] at hle
  exact absurd hn.2 (Nat.not_lt_of_le hle)

end Scaled

/-! ### The binary32 format -/

/-- The sign bit is set. -/
def f32Negative (bits : UInt32) : Prop := 2 ^ 31 ≤ bits.toNat

instance (bits : UInt32) : Decidable (f32Negative bits) :=
  inferInstanceAs (Decidable (2 ^ 31 ≤ bits.toNat))

/-- The exponent field. -/
def f32Exponent (bits : UInt32) : ℕ := bits.toNat / 2 ^ 23 % 2 ^ 8

/-- The fraction field. -/
def f32Fraction (bits : UInt32) : ℕ := bits.toNat % 2 ^ 23

/-- The pattern of a normal number: not of zero, a subnormal number, an infinity or a NaN. -/
def IsNormalF32 (bits : UInt32) : Prop := 0 < f32Exponent bits ∧ f32Exponent bits < 255

instance (bits : UInt32) : Decidable (IsNormalF32 bits) :=
  inferInstanceAs (Decidable (0 < f32Exponent bits ∧ f32Exponent bits < 255))

/-- The number a normal pattern stands for. -/
def f32Value (bits : UInt32) : ℚ :=
  (if f32Negative bits then -1 else 1) * (1 + (f32Fraction bits : ℚ) / 2 ^ 23) *
    2 ^ ((f32Exponent bits : ℤ) - 127)

/-- The signed integer of 24 bits of a normal pattern. -/
def f32Significand (bits : UInt32) : ℤ :=
  if f32Negative bits then -(2 ^ 23 + f32Fraction bits : ℕ) else (2 ^ 23 + f32Fraction bits : ℕ)

theorem natAbs_f32Significand (bits : UInt32) :
    (f32Significand bits).natAbs = 2 ^ 23 + f32Fraction bits := by
  unfold f32Significand
  split_ifs <;> omega

theorem hasBits_f32Significand (bits : UInt32) : HasBits 23 (f32Significand bits) := by
  have hlt : f32Fraction bits < 2 ^ 23 := Nat.mod_lt _ (by norm_num)
  rw [HasBits, natAbs_f32Significand]
  omega

theorem f32Value_eq_scaled (bits : UInt32) :
    f32Value bits = scaled (f32Significand bits) ((f32Exponent bits : ℤ) - 150) := by
  have hexp : (f32Exponent bits : ℤ) - 127 = (f32Exponent bits : ℤ) - 150 + (23 : ℕ) := by omega
  rw [f32Value, scaled, f32Significand, hexp, zpow_add₀ (by norm_num), zpow_natCast]
  split_ifs
  · push_cast
    field_simp
    norm_num
  · push_cast
    field_simp
    norm_num

theorem f32Value_ne_zero (bits : UInt32) : f32Value bits ≠ 0 := by
  rw [f32Value_eq_scaled, ne_eq, scaled_eq_zero]
  exact (hasBits_f32Significand bits).ne_zero

theorem f32_ext {bits other : UInt32} (hsign : f32Negative bits ↔ f32Negative other)
    (hexponent : f32Exponent bits = f32Exponent other)
    (hfraction : f32Fraction bits = f32Fraction other) :
    bits = other := by
  have hlt := bits.toNat_lt
  have hlt' := other.toNat_lt
  rw [← UInt32.toNat_inj]
  unfold f32Negative f32Exponent f32Fraction at *
  omega

/-- **A number has one pattern**: two patterns that stand for the same number are the same. -/
theorem f32Value_injective {bits other : UInt32} (h : f32Value bits = f32Value other) :
    bits = other := by
  rw [f32Value_eq_scaled, f32Value_eq_scaled] at h
  obtain ⟨hsignificand, hexponent⟩ :=
    (hasBits_f32Significand bits).unique (hasBits_f32Significand other) h
  have habs := congrArg Int.natAbs hsignificand
  rw [natAbs_f32Significand, natAbs_f32Significand] at habs
  refine f32_ext ?_ (by omega) (by omega)
  unfold f32Significand at hsignificand
  split_ifs at hsignificand with hbits hother hother
  · exact iff_of_true hbits hother
  · omega
  · omega
  · exact iff_of_false hbits hother

end Astraea.Base
