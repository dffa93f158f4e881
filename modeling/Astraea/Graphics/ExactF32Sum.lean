import Astraea.Base.Binary32
import Astraea.Base.Word
import Astraea.Graphics.ShaderVectorExecution

/-!
# The sum of two numbers that needs no rounding

`exactNormalF32Sum` adds two binary32 patterns as integers: it aligns the significands, adds
them, and brings the sum back to 24 bits when nothing is lost by it. Here this is compared
with the sum of the two numbers as rationals: there is a result exactly when this sum is the
value of a normal number, and it is that number's pattern.

The source computes in 64-bit integers. `exactNormalF32SumChecked` is the same computation with
every one of these operations checked, and none is ever refused.
-/

namespace Astraea.Graphics

open Astraea.Base

/-! ### The length of a magnitude -/

section BitLength

variable {value n : ℕ}

theorem bitLength_zero : bitLength 0 = 0 := by
  rw [bitLength, if_pos rfl]

theorem lt_two_pow_bitLength (value : ℕ) : value < 2 ^ bitLength value := by
  fun_induction bitLength value with
  | case1 => exact Nat.two_pow_pos _
  | case2 value hne ih =>
    rw [Nat.shiftRight_eq_div_pow, pow_one] at ih
    rw [Nat.shiftRight_eq_div_pow, pow_one, Nat.pow_succ]
    omega

theorem two_pow_le_of_bitLength (h : bitLength value = n + 1) : 2 ^ n ≤ value := by
  fun_induction bitLength value generalizing n with
  | case1 => omega
  | case2 value hne ih =>
    rw [Nat.shiftRight_eq_div_pow, pow_one] at ih h
    cases n with
    | zero => rw [pow_zero]; omega
    | succ n =>
      have hle := ih (Nat.succ_injective h)
      rw [Nat.pow_succ]
      omega

theorem bitLength_eq_of_bounds (hlow : 2 ^ n ≤ value) (hhigh : value < 2 ^ (n + 1)) :
    bitLength value = n + 1 := by
  have hle : n < bitLength value :=
    (Nat.pow_lt_pow_iff_right (by omega)).mp (hlow.trans_lt (lt_two_pow_bitLength value))
  obtain ⟨k, hk⟩ := Nat.exists_eq_add_of_lt hle
  have hlow' := two_pow_le_of_bitLength hk
  have hlt : n + k < n + 1 := (Nat.pow_lt_pow_iff_right (by omega)).mp (hlow'.trans_lt hhigh)
  omega

end BitLength

/-! ### Bringing a magnitude to 24 bits -/

section Normalize

variable {magnitude significand : ℕ} {exponent resultExponent : ℤ}

theorem normalizeMagnitude_of_long (h : bitLength magnitude > 24) :
    normalizeMagnitude magnitude exponent =
      if magnitude % 2 ^ (bitLength magnitude - 24) ≠ 0 then none
      else some (magnitude / 2 ^ (bitLength magnitude - 24),
        exponent + (bitLength magnitude - 24 : ℕ)) := by
  rw [normalizeMagnitude]
  dsimp only
  rw [if_neg (by omega), if_pos h, Nat.one_shiftLeft, Nat.and_two_pow_sub_one_eq_mod,
    Nat.shiftRight_eq_div_pow]

theorem normalizeMagnitude_of_short (hzero : bitLength magnitude ≠ 0)
    (h : ¬ bitLength magnitude > 24) :
    normalizeMagnitude magnitude exponent =
      some (magnitude * 2 ^ (24 - bitLength magnitude),
        exponent - (24 - bitLength magnitude : ℕ)) := by
  rw [normalizeMagnitude]
  dsimp only
  rw [if_neg hzero, if_neg h, Nat.shiftLeft_eq]

theorem bitLength_ne_zero (h : magnitude ≠ 0) : bitLength magnitude ≠ 0 := by
  intro hzero
  have hlt := lt_two_pow_bitLength magnitude
  rw [hzero, pow_zero] at hlt
  omega

theorem normalizeMagnitude_zero : normalizeMagnitude 0 exponent = none := by
  rw [normalizeMagnitude]
  dsimp only
  rw [if_pos bitLength_zero]

/-- What comes out of `normalizeMagnitude` has 24 bits and is the same number. -/
theorem scaled_of_normalizeMagnitude
    (h : normalizeMagnitude magnitude exponent = some (significand, resultExponent)) :
    HasBits 23 significand ∧ scaled significand resultExponent = scaled magnitude exponent := by
  by_cases hne : magnitude = 0
  · rw [hne, normalizeMagnitude_zero] at h
    cases h
  have hzero := bitLength_ne_zero hne
  have hlow : 2 ^ (bitLength magnitude - 1) ≤ magnitude := two_pow_le_of_bitLength (by omega)
  have hhigh := lt_two_pow_bitLength magnitude
  by_cases hlong : bitLength magnitude > 24
  · rw [normalizeMagnitude_of_long hlong] at h
    obtain ⟨k, hk⟩ := Nat.exists_eq_add_of_lt hlong
    rw [show bitLength magnitude - 24 = k + 1 by omega] at h
    rw [show bitLength magnitude - 1 = 23 + (k + 1) by omega, Nat.pow_add] at hlow
    rw [show bitLength magnitude = 24 + (k + 1) by omega, Nat.pow_add] at hhigh
    generalize k + 1 = discard at h hlow hhigh
    by_cases hlost : magnitude % 2 ^ discard ≠ 0
    · rw [if_pos hlost] at h
      cases h
    · rw [if_neg hlost] at h
      cases h
      have hdvd : 2 ^ discard ∣ magnitude := Nat.dvd_of_mod_eq_zero (not_not.mp hlost)
      obtain ⟨s, rfl⟩ := hdvd
      rw [Nat.mul_div_cancel_left _ (Nat.two_pow_pos _)]
      rw [Nat.mul_comm, Nat.mul_le_mul_left_iff (Nat.two_pow_pos _)] at hlow
      rw [Nat.mul_comm (2 ^ 24), Nat.mul_lt_mul_left (Nat.two_pow_pos _)] at hhigh
      refine ⟨⟨by omega, by omega⟩, ?_⟩
      push_cast
      rw [mul_comm, scaled_mul_two_pow]
  · rw [normalizeMagnitude_of_short hzero hlong] at h
    cases h
    obtain ⟨k, hk⟩ := Nat.exists_eq_add_of_le (Nat.le_of_not_lt hlong)
    have hup : bitLength magnitude - 1 + k = 23 := by omega
    rw [show 24 - bitLength magnitude = k by omega]
    refine ⟨⟨?_, ?_⟩, ?_⟩
    · rw [Int.natAbs_natCast, ← hup, Nat.pow_add]
      exact Nat.mul_le_mul_right _ hlow
    · rw [Int.natAbs_natCast, show 23 + 1 = bitLength magnitude + k by omega, Nat.pow_add]
      exact Nat.mul_lt_mul_of_pos_right hhigh (Nat.two_pow_pos _)
    · push_cast
      rw [scaled_mul_two_pow, Int.sub_add_cancel]

/-- A magnitude that is a number of 24 bits at some exponent is brought there. -/
theorem exists_normalizeMagnitude (hbits : HasBits 23 significand)
    (h : scaled significand resultExponent = scaled magnitude exponent) :
    ∃ result, normalizeMagnitude magnitude exponent = some result := by
  have hlow := hbits.1
  have hhigh := hbits.2
  rw [Int.natAbs_natCast] at hlow hhigh
  have hne : magnitude ≠ 0 := by
    rintro rfl
    rw [Nat.cast_zero, scaled_eq_zero.mpr rfl, scaled_eq_zero] at h
    omega
  by_cases hlong : bitLength magnitude > 24
  · rw [normalizeMagnitude_of_long hlong]
    rcases le_total exponent resultExponent with hle | hle
    · have h := h.symm
      rw [scaled_eq_scaled_iff hle] at h
      generalize (resultExponent - exponent).toNat = k at h
      have hmagnitude : magnitude = significand * 2 ^ k := by exact_mod_cast h
      have hbounds : 2 ^ (23 + k) ≤ magnitude ∧ magnitude < 2 ^ (23 + k + 1) := by
        rw [hmagnitude, show 23 + k + 1 = 24 + k by omega, Nat.pow_add, Nat.pow_add]
        exact ⟨Nat.mul_le_mul_right _ hlow, Nat.mul_lt_mul_of_pos_right hhigh (Nat.two_pow_pos _)⟩
      have hk := bitLength_eq_of_bounds hbounds.1 hbounds.2
      rw [show bitLength magnitude - 24 = k by omega, if_neg]
      · exact ⟨_, rfl⟩
      · rw [not_not, hmagnitude]
        exact Nat.mul_mod_left _ _
    · rw [scaled_eq_scaled_iff hle] at h
      have hsignificand : significand =
        magnitude * 2 ^ (exponent - resultExponent).toNat := by exact_mod_cast h
      have hle : magnitude ≤ significand := by
        rw [hsignificand]
        exact Nat.le_mul_of_pos_right _ (Nat.two_pow_pos _)
      have hlow' : 2 ^ 24 ≤ magnitude := by
        obtain ⟨k, hk⟩ := Nat.exists_eq_add_of_lt hlong
        exact (Nat.pow_le_pow_right (by omega) (by omega)).trans (two_pow_le_of_bitLength hk)
      omega
  · rw [normalizeMagnitude_of_short (bitLength_ne_zero hne) hlong]
    exact ⟨_, rfl⟩

/-- **Normalising is exact**: it gives the one way to write the number with 24 bits, when there is
one. -/
theorem normalizeMagnitude_eq_some_iff :
    normalizeMagnitude magnitude exponent = some (significand, resultExponent) ↔
      HasBits 23 significand ∧ scaled significand resultExponent = scaled magnitude exponent := by
  constructor
  · exact scaled_of_normalizeMagnitude
  · rintro ⟨hbits, h⟩
    obtain ⟨⟨s, e⟩, hresult⟩ := exists_normalizeMagnitude hbits h
    obtain ⟨hbits', h'⟩ := scaled_of_normalizeMagnitude hresult
    obtain ⟨hs, he⟩ := hbits'.unique hbits (h'.trans h.symm)
    rw [hresult, Int.natCast_inj.mp hs, he]

end Normalize

/-! ### Patterns -/

section Patterns

variable {bits : UInt32} {number : NormalF32}

theorem toNat_exponentField (bits : UInt32) :
    ((bits >>> 23 &&& 0xff).toUInt8).toNat = f32Exponent bits := by
  rw [UInt32.toNat_toUInt8, UInt32.toNat_and, UInt32.toNat_shiftRight]
  show (bits.toNat >>> 23 &&& 2 ^ 8 - 1) % 2 ^ 8 = _
  rw [Nat.and_two_pow_sub_one_eq_mod, Nat.mod_mod, Nat.shiftRight_eq_div_pow, f32Exponent]

theorem toNat_fractionField (bits : UInt32) : (bits &&& 0x007fffff).toNat = f32Fraction bits := by
  rw [UInt32.toNat_and]
  show bits.toNat &&& 2 ^ 23 - 1 = _
  rw [Nat.and_two_pow_sub_one_eq_mod, f32Fraction]

theorem signBit_iff (bits : UInt32) : (bits &&& 0x80000000 != 0) = true ↔ f32Negative bits := by
  rw [bne_iff_ne, ne_eq, ← UInt32.toNat_inj, UInt32.toNat_and]
  have hlt := bits.toNat_lt
  rw [← ne_eq]
  show bits.toNat &&& 2 ^ 31 ≠ 0 ↔ 2 ^ 31 ≤ bits.toNat
  rw [and_two_pow_ne_zero, Nat.testBit_eq_decide_div_mod_eq, decide_eq_true_iff]
  omega

theorem isNormalF32_iff (bits : UInt32) :
    IsNormalF32 bits ↔
    ¬ ((bits >>> 23 &&& 0xff).toUInt8 = 0 ∨ (bits >>> 23 &&& 0xff).toUInt8 = 0xff) := by
  have hlt : f32Exponent bits < 2 ^ 8 := Nat.mod_lt _ (by norm_num)
  rw [← UInt8.toNat_inj, ← UInt8.toNat_inj, toNat_exponentField]
  show _ ↔ ¬ (f32Exponent bits = 0 ∨ f32Exponent bits = 255)
  rw [IsNormalF32]
  omega

/-- `decode_normal_f32` takes the normal patterns, and takes them apart. -/
theorem decodeNormalF32_eq_some_iff :
    decodeNormalF32 bits = some number ↔
      IsNormalF32 bits ∧ (number.negative = true ↔ f32Negative bits) ∧
      number.exponent.toNat = f32Exponent bits ∧
        number.significand.toNat = 2 ^ 23 + f32Fraction bits := by
  have hsignificand : ((0x00800000 : UInt32) ||| (bits &&& 0x007fffff)).toNat =
      2 ^ 23 + f32Fraction bits := by
    rw [UInt32.toNat_or, toNat_fractionField]
    have hor := Nat.two_pow_add_eq_or_of_lt (Nat.mod_lt bits.toNat (Nat.two_pow_pos 23)) 1
    rw [Nat.mul_one] at hor
    exact hor.symm
  rw [isNormalF32_iff, decodeNormalF32]
  by_cases hfield : (bits >>> 23 &&& 0xff).toUInt8 = 0 ∨ (bits >>> 23 &&& 0xff).toUInt8 = 0xff
  · rw [if_pos hfield]
    constructor
    · intro h
      cases h
    · intro h
      exact absurd hfield h.1
  · rw [if_neg hfield]
    constructor
    · intro h
      cases h
      exact ⟨hfield, signBit_iff bits, toNat_exponentField bits, hsignificand⟩
    · rintro ⟨-, hnegative, hexponent, hvalue⟩
      cases number with
      | mk negative exponent significand =>
        have h1 : (bits &&& 0x80000000 != 0) = negative :=
          Bool.eq_iff_iff.mpr ((signBit_iff bits).trans hnegative.symm)
        have h2 : (bits >>> 23 &&& 0xff).toUInt8 = exponent :=
          UInt8.toNat_inj.mp ((toNat_exponentField bits).trans hexponent.symm)
        have h3 := UInt32.toNat_inj.mp (hsignificand.trans hvalue.symm)
        rw [h1, h2, h3]

theorem decodeNormalF32_eq_none_iff : decodeNormalF32 bits = none ↔ ¬ IsNormalF32 bits := by
  rw [isNormalF32_iff, not_not, decodeNormalF32]
  split_ifs with h
  · exact iff_of_true rfl h
  · exact iff_of_false (by simp) h

/-- The significand, moved up and signed, is the signed integer of the pattern. -/
theorem signedMagnitude_of_decode (h : decodeNormalF32 bits = some number) (shift : ℕ) :
    number.signedMagnitude shift = f32Significand bits * 2 ^ shift := by
  obtain ⟨-, hnegative, -, hsignificand⟩ := decodeNormalF32_eq_some_iff.mp h
  rw [NormalF32.signedMagnitude, hsignificand, Nat.shiftLeft_eq, f32Significand]
  by_cases hneg : f32Negative bits
  · rw [if_pos hneg, if_pos (hnegative.mpr hneg)]
    push_cast
    ring
  · rw [if_neg hneg, if_neg fun h => hneg (hnegative.mp h)]
    push_cast
    rfl

end Patterns

/-! ### The sum -/

/-- The pattern with given fields, as the last step of `exact_normal_f32_sum` puts it together. -/
def packF32 (negative : Bool) (exponent significand : ℕ) : UInt32 :=
  (if negative = true then (0x80000000 : UInt32) else 0) ||| (UInt32.ofNat exponent <<< 23) |||
    (UInt32.ofNat significand &&& 0x007fffff)

section Pack

variable {negative : Bool} {exponent significand : ℕ}

theorem toNat_packF32 (hexponent : exponent < 2 ^ 8) :
    (packF32 negative exponent significand).toNat =
      2 ^ 31 * negative.toNat + (2 ^ 23 * exponent + significand % 2 ^ 23) := by
  have hfraction : (UInt32.ofNat significand &&& 0x007fffff).toNat = significand % 2 ^ 23 := by
    rw [UInt32.toNat_and, UInt32.toNat_ofNat']
    show significand % 2 ^ 32 &&& 2 ^ 23 - 1 = _
    rw [Nat.and_two_pow_sub_one_eq_mod]
    omega
  have hshifted : (UInt32.ofNat exponent <<< 23).toNat = 2 ^ 23 * exponent := by
    rw [UInt32.toNat_shiftLeft, UInt32.toNat_ofNat', show (23 : UInt32).toNat % 32 = 23 from rfl,
      Nat.shiftLeft_eq, Nat.mod_eq_of_lt (show exponent < 2 ^ 32 by omega),
      Nat.mod_eq_of_lt (by omega), Nat.mul_comm]
  have hsign : (if negative = true then (0x80000000 : UInt32) else 0).toNat =
      2 ^ 31 * negative.toNat := by
    cases negative <;> rfl
  have hfractionLt : significand % 2 ^ 23 < 2 ^ 23 := Nat.mod_lt _ (Nat.two_pow_pos 23)
  have hlt : 2 ^ 23 * exponent + significand % 2 ^ 23 < 2 ^ 31 := by omega
  rw [packF32, UInt32.toNat_or, UInt32.toNat_or, hsign, hshifted, hfraction, Nat.or_assoc,
    ← Nat.two_pow_add_eq_or_of_lt hfractionLt, ← Nat.two_pow_add_eq_or_of_lt hlt]

/-- The fields of the pattern are the ones it was put together from. -/
theorem fields_packF32 (hexponent : exponent < 2 ^ 8) (hlow : 2 ^ 23 ≤ significand)
    (hhigh : significand < 2 ^ 24) :
    (f32Negative (packF32 negative exponent significand) ↔ negative = true) ∧
      f32Exponent (packF32 negative exponent significand) = exponent ∧
      2 ^ 23 + f32Fraction (packF32 negative exponent significand) = significand := by
  have htoNat := @toNat_packF32 negative exponent significand hexponent
  unfold f32Negative f32Exponent f32Fraction
  rw [htoNat]
  cases negative with
  | false =>
    rw [Bool.toNat_false]
    refine ⟨iff_of_false (by omega) (by decide), by omega, by omega⟩
  | true =>
    rw [Bool.toNat_true]
    refine ⟨iff_of_true (by omega) rfl, by omega, by omega⟩

end Pack

/-- The sum of the two signed integers, each moved up to the smaller exponent. -/
def alignedSum (leftBits rightBits : UInt32) : ℤ :=
  let minimum := min (f32Exponent leftBits) (f32Exponent rightBits)
  f32Significand leftBits * 2 ^ (f32Exponent leftBits - minimum) +
    f32Significand rightBits * 2 ^ (f32Exponent rightBits - minimum)

section Sum

variable {leftBits rightBits resultBits : UInt32} {significand : ℕ} {exponent : ℤ}

theorem f32Value_add (leftBits rightBits : UInt32) :
    f32Value leftBits + f32Value rightBits =
      scaled (alignedSum leftBits rightBits)
        ((min (f32Exponent leftBits) (f32Exponent rightBits) : ℕ) - 150 : ℤ) := by
  have hmoved : ∀ (m : ℤ) (e minimum : ℕ), minimum ≤ e →
      scaled m ((e : ℤ) - 150) = scaled (m * 2 ^ (e - minimum)) ((minimum : ℤ) - 150) := by
    intro m e minimum hle
    rw [scaled_mul_two_pow]
    congr 1
    omega
  rw [f32Value_eq_scaled, f32Value_eq_scaled,
    hmoved (f32Significand leftBits) _ _
      (min_le_left (f32Exponent leftBits) (f32Exponent rightBits)),
    hmoved (f32Significand rightBits) _ _
      (min_le_right (f32Exponent leftBits) (f32Exponent rightBits)), scaled_add,
    alignedSum]

theorem toNat_min (a b : UInt8) : (min a b).toNat = min a.toNat b.toNat := by
  show (if a ≤ b then a else b).toNat = _
  by_cases h : a ≤ b
  · rw [if_pos h, min_eq_left (UInt8.le_iff_toNat_le.mp h)]
  · rw [if_neg h]
    rw [UInt8.le_iff_toNat_le] at h
    rw [min_eq_right (Nat.le_of_not_le h)]

/-- The tests that `exact_normal_f32_sum` makes, in terms of the fields of the patterns. -/
theorem exactNormalF32Sum_eq_some_iff_steps :
    exactNormalF32Sum leftBits rightBits = some resultBits ↔
      IsNormalF32 leftBits ∧ IsNormalF32 rightBits ∧
        f32Exponent leftBits ≤ f32Exponent rightBits + 24 ∧
        f32Exponent rightBits ≤ f32Exponent leftBits + 24 ∧
        alignedSum leftBits rightBits ≠ 0 ∧
        ∃ (significand : ℕ) (exponent : ℤ),
          normalizeMagnitude (alignedSum leftBits rightBits).natAbs
              (min (f32Exponent leftBits) (f32Exponent rightBits) : ℕ) =
                some (significand, exponent) ∧
            (0 < exponent ∧ exponent < 255) ∧ (2 ^ 23 ≤ significand ∧ significand < 2 ^ 24) ∧
            packF32 (decide (alignedSum leftBits rightBits < 0)) exponent.toNat significand =
              resultBits := by
  cases hleft : decodeNormalF32 leftBits with
  | none =>
    rw [decodeNormalF32_eq_none_iff] at hleft
    refine iff_of_false ?_ fun h => hleft h.1
    simp [exactNormalF32Sum, decodeNormalF32_eq_none_iff.mpr hleft]
  | some left =>
    cases hright : decodeNormalF32 rightBits with
    | none =>
      rw [decodeNormalF32_eq_none_iff] at hright
      refine iff_of_false ?_ fun h => hright h.2.1
      simp [exactNormalF32Sum, decodeNormalF32_eq_none_iff.mpr hright]
    | some right =>
      obtain ⟨hnormalLeft, -, hexponentLeft, -⟩ := decodeNormalF32_eq_some_iff.mp hleft
      obtain ⟨hnormalRight, -, hexponentRight, -⟩ := decodeNormalF32_eq_some_iff.mp hright
      have hmin : (min left.exponent right.exponent).toNat =
          min (f32Exponent leftBits) (f32Exponent rightBits) := by
        rw [toNat_min, hexponentLeft, hexponentRight]
      have hshiftLeft : (left.exponent - min left.exponent right.exponent).toNat =
          f32Exponent leftBits - min (f32Exponent leftBits) (f32Exponent rightBits) := by
        rw [UInt8.toNat_sub_of_le, hmin, hexponentLeft]
        rw [UInt8.le_iff_toNat_le, hmin, hexponentLeft]
        exact min_le_left _ _
      have hshiftRight : (right.exponent - min left.exponent right.exponent).toNat =
          f32Exponent rightBits - min (f32Exponent leftBits) (f32Exponent rightBits) := by
        rw [UInt8.toNat_sub_of_le, hmin, hexponentRight]
        rw [UInt8.le_iff_toNat_le, hmin, hexponentRight]
        exact min_le_right _ _
      have hsum : left.signedMagnitude (left.exponent - min left.exponent right.exponent).toNat +
          right.signedMagnitude (right.exponent - min left.exponent right.exponent).toNat =
            alignedSum leftBits rightBits := by
        rw [signedMagnitude_of_decode hleft, signedMagnitude_of_decode hright, hshiftLeft,
          hshiftRight, alignedSum]
      rw [exactNormalF32Sum, hleft, hright]
      dsimp only [Option.bind_eq_bind, Option.bind_some]
      rw [hsum, hmin, hshiftLeft, hshiftRight]
      simp only [Option.bind_eq_some_iff, Option.guard_eq_some', Option.pure_def, Option.some.injEq]
      constructor
      · rintro ⟨-, ⟨hgapLeft, hgapRight⟩, -, hne, ⟨s, e⟩, hnormalized, -, hexponent, -,
          hsignificand, hpacked⟩
        refine ⟨hnormalLeft, hnormalRight, by omega, by omega, hne, s, e, hnormalized,
          hexponent, by omega, ?_⟩
        rw [← hpacked, packF32]
        simp only [decide_eq_true_eq]
      · rintro ⟨-, -, hgapLeft, hgapRight, hne, s, e, hnormalized, hexponent, hsignificand, hpacked⟩
        refine ⟨⟨⟩, ⟨by omega, by omega⟩, ⟨⟩, hne, ⟨s, e⟩, hnormalized, ⟨⟩, hexponent, ⟨⟩,
          ⟨hsignificand.1, by omega⟩, ?_⟩
        rw [← hpacked, packF32]
        simp only [decide_eq_true_eq]

/-- What the function returns is a normal number, and the sum. -/
theorem f32Value_of_exactNormalF32Sum (h : exactNormalF32Sum leftBits rightBits = some resultBits) :
    IsNormalF32 resultBits ∧ f32Value resultBits = f32Value leftBits + f32Value rightBits := by
  obtain ⟨-, -, -, -, -, significand, exponent, hnormalized, hexponent, hsignificand, rfl⟩ :=
    exactNormalF32Sum_eq_some_iff_steps.mp h
  obtain ⟨-, hscaled⟩ := normalizeMagnitude_eq_some_iff.mp hnormalized
  obtain ⟨hnegative, hfield, hfraction⟩ :=
    @fields_packF32 (decide (alignedSum leftBits rightBits < 0)) exponent.toNat significand
      (by omega) hsignificand.1 hsignificand.2
  have hfieldInt : ((exponent.toNat : ℕ) : ℤ) = exponent := Int.toNat_of_nonneg (by omega)
  refine ⟨⟨by omega, by omega⟩, ?_⟩
  rw [f32Value_add, f32Value_eq_scaled, hfield, f32Significand, hfraction, hfieldInt,
    Int.sub_eq_add_neg, Int.sub_eq_add_neg, scaled_add_exponent, scaled_add_exponent]
  congr 1
  by_cases hneg : alignedSum leftBits rightBits < 0
  · rw [if_pos (hnegative.mpr (decide_eq_true hneg)), scaled_neg, hscaled, ← scaled_neg]
    congr 1
    omega
  · rw [if_neg fun hset => hneg (of_decide_eq_true (hnegative.mp hset)), hscaled]
    congr 1
    omega

/-- Numbers whose exponents are more than 24 apart have no sum that is a normal number. -/
theorem f32Value_add_ne_of_gap (h : f32Exponent leftBits + 24 < f32Exponent rightBits) :
    f32Value leftBits + f32Value rightBits ≠ f32Value resultBits := by
  have hmin : min (f32Exponent leftBits) (f32Exponent rightBits) = f32Exponent leftBits :=
    min_eq_left (by omega)
  rw [f32Value_add, f32Value_eq_scaled resultBits, alignedSum, hmin, Nat.sub_self, pow_zero,
    mul_one, add_comm]
  exact (hasBits_f32Significand rightBits).sum_ne (hasBits_f32Significand leftBits)
    (hasBits_f32Significand resultBits)
    (by omega)

/-- **The result is the sum**: both numbers are normal, so is the result, and it stands for their
sum. -/
theorem exactNormalF32Sum_eq_some_iff :
    exactNormalF32Sum leftBits rightBits = some resultBits ↔
      IsNormalF32 leftBits ∧ IsNormalF32 rightBits ∧ IsNormalF32 resultBits ∧
        f32Value resultBits = f32Value leftBits + f32Value rightBits := by
  constructor
  · intro h
    obtain ⟨hleft, hright, -⟩ := exactNormalF32Sum_eq_some_iff_steps.mp h
    exact ⟨hleft, hright, f32Value_of_exactNormalF32Sum h⟩
  · rintro ⟨hleft, hright, hresult, hvalue⟩
    have hgapLeft : f32Exponent leftBits ≤ f32Exponent rightBits + 24 := by
      by_contra hgap
      exact f32Value_add_ne_of_gap (Nat.lt_of_not_le hgap) ((add_comm _ _).trans hvalue.symm)
    have hgapRight : f32Exponent rightBits ≤ f32Exponent leftBits + 24 := by
      by_contra hgap
      exact f32Value_add_ne_of_gap (Nat.lt_of_not_le hgap) hvalue.symm
    have hscaled : scaled (f32Significand resultBits) (f32Exponent resultBits) =
        scaled (alignedSum leftBits rightBits)
          (min (f32Exponent leftBits) (f32Exponent rightBits) : ℕ) := by
      rw [f32Value_add, f32Value_eq_scaled, Int.sub_eq_add_neg, Int.sub_eq_add_neg,
        scaled_add_exponent, scaled_add_exponent] at hvalue
      exact mul_right_cancel₀ (zpow_ne_zero _ (by norm_num)) hvalue
    have hne : alignedSum leftBits rightBits ≠ 0 := by
      intro hzero
      rw [hzero, scaled_eq_zero.mpr rfl, scaled_eq_zero] at hscaled
      exact (hasBits_f32Significand resultBits).ne_zero hscaled
    have hmagnitude : scaled (2 ^ 23 + f32Fraction resultBits : ℕ) (f32Exponent resultBits) =
        scaled (alignedSum leftBits rightBits).natAbs
          (min (f32Exponent leftBits) (f32Exponent rightBits) : ℕ) := by
      rw [← natAbs_f32Significand, ← abs_scaled, ← abs_scaled, hscaled]
    have hbits : HasBits 23 (2 ^ 23 + f32Fraction resultBits : ℕ) := by
      rw [HasBits, Int.natAbs_natCast, ← natAbs_f32Significand]
      exact hasBits_f32Significand resultBits
    have hlow := hbits.1
    have hhigh := hbits.2
    rw [Int.natAbs_natCast] at hlow hhigh
    have hexponent := hresult
    rw [IsNormalF32] at hexponent
    -- the steps succeed, and the pattern they give is the one number with this value
    have hsteps := exactNormalF32Sum_eq_some_iff_steps.mpr ⟨hleft, hright, hgapLeft, hgapRight, hne,
      _, _, normalizeMagnitude_eq_some_iff.mpr ⟨hbits, hmagnitude⟩, ⟨by omega, by omega⟩,
      ⟨hlow, hhigh⟩, rfl⟩
    have hsame := (f32Value_of_exactNormalF32Sum hsteps).2.trans hvalue.symm
    rw [hsteps, f32Value_injective hsame]

end Sum

/-! ### Machine integers -/

/-- A computation left the integers its type can hold. -/
inductive ArithmeticOverflow where
  | overflow
  deriving DecidableEq

/-- A `std::uint64_t`. -/
def unsigned64 (value : ℕ) : Except ArithmeticOverflow ℕ :=
  if value < 2 ^ 64 then .ok value else .error .overflow

/-- A `std::int64_t`. -/
def signed64 (value : ℤ) : Except ArithmeticOverflow ℤ :=
  if -2 ^ 63 ≤ value ∧ value < 2 ^ 63 then .ok value else .error .overflow

/-- A `std::int32_t`. -/
def signed32 (value : ℤ) : Except ArithmeticOverflow ℤ :=
  if -2 ^ 31 ≤ value ∧ value < 2 ^ 31 then .ok value else .error .overflow

/-- `NormalF32.signedMagnitude`, in 64 bits. -/
def NormalF32.signedMagnitudeChecked (number : NormalF32) (shift : ℕ) :
    Except ArithmeticOverflow ℤ := do
  let shifted ← unsigned64 (number.significand.toNat <<< shift)
  let magnitude ← signed64 shifted
  signed64 (if number.negative = true then -magnitude else magnitude)

/-- `normalizeMagnitude`, in 64 bits. -/
def normalizeMagnitudeChecked (magnitude : ℕ) (exponent : ℤ) :
    Except ArithmeticOverflow (Option (ℕ × ℤ)) :=
  if bitLength magnitude = 0 then .ok none
  else if bitLength magnitude > 24 then do
    let discardBit ← unsigned64 (1 <<< (bitLength magnitude - 24))
    let resultExponent ← signed32 (exponent + (bitLength magnitude - 24 : ℕ))
    .ok (if magnitude &&& (discardBit - 1) ≠ 0 then none
      else some (magnitude >>> (bitLength magnitude - 24), resultExponent))
  else do
    let significand ← unsigned64 (magnitude <<< (24 - bitLength magnitude))
    let resultExponent ← signed32 (exponent - (24 - bitLength magnitude : ℕ))
    .ok (some (significand, resultExponent))

/-- The end of `exact_normal_f32_sum`: the range tests, and the pattern. -/
def finishF32 (negative : Bool) (significand : ℕ) (exponent : ℤ) : Option UInt32 := do
  guard (0 < exponent ∧ exponent < 0xff)
  guard (0x00800000 ≤ significand ∧ significand ≤ 0x00ffffff)
  return packF32 negative exponent.toNat significand

/-- `exactNormalF32Sum`, in 64 bits. -/
def exactNormalF32SumChecked (leftBits rightBits : UInt32) :
    Except ArithmeticOverflow (Option UInt32) :=
  match decodeNormalF32 leftBits, decodeNormalF32 rightBits with
  | some left, some right =>
    let minimumExponent := min left.exponent right.exponent
    let leftShift := (left.exponent - minimumExponent).toNat
    let rightShift := (right.exponent - minimumExponent).toNat
    if leftShift > 24 ∨ rightShift > 24 then .ok none
    else do
      let signedLeft ← left.signedMagnitudeChecked leftShift
      let signedRight ← right.signedMagnitudeChecked rightShift
      let signedSum ← signed64 (signedLeft + signedRight)
      if signedSum = 0 then .ok none
      else do
        let magnitude ← signed64 (if signedSum < 0 then -signedSum else signedSum)
        let normalized ← normalizeMagnitudeChecked magnitude.toNat minimumExponent.toNat
        .ok (normalized.bind fun (significand, exponent) =>
          finishF32 (decide (signedSum < 0)) significand exponent)
  | _, _ => .ok none

section Checked

variable {bits leftBits rightBits : UInt32} {number : NormalF32} {shift magnitude : ℕ}
  {exponent : ℤ}

theorem unsigned64_of_lt {value : ℕ} (h : value < 2 ^ 64) : unsigned64 value = .ok value := if_pos h

theorem signed64_of_natAbs_lt {value : ℤ} (h : value.natAbs < 2 ^ 63) :
    signed64 value = .ok value :=
  if_pos ⟨by omega, by omega⟩

theorem signed32_of_natAbs_lt {value : ℤ} (h : value.natAbs < 2 ^ 31) :
    signed32 value = .ok value :=
  if_pos ⟨by omega, by omega⟩

theorem significand_lt_of_decode (h : decodeNormalF32 bits = some number) :
    number.significand.toNat < 2 ^ 24 := by
  obtain ⟨-, -, -, hsignificand⟩ := decodeNormalF32_eq_some_iff.mp h
  have hlt : f32Fraction bits < 2 ^ 23 := Nat.mod_lt _ (Nat.two_pow_pos 23)
  omega

section

variable (h : decodeNormalF32 bits = some number) (hshift : shift ≤ 24)

include h hshift

theorem shifted_lt : number.significand.toNat <<< shift < 2 ^ 48 := by
  have hle : 2 ^ shift ≤ 2 ^ 24 := Nat.pow_le_pow_right (by omega) hshift
  rw [Nat.shiftLeft_eq]
  calc number.significand.toNat * 2 ^ shift ≤ number.significand.toNat * 2 ^ 24 :=
    Nat.mul_le_mul_left _ hle
    _ < 2 ^ 48 := by
      have := significand_lt_of_decode h
      omega

theorem natAbs_signedMagnitude_lt : (number.signedMagnitude shift).natAbs < 2 ^ 48 := by
  have hlt := shifted_lt h hshift
  rw [NormalF32.signedMagnitude]
  split_ifs
  · rw [Int.natAbs_neg, Int.natAbs_natCast]
    exact hlt
  · rw [Int.natAbs_natCast]
    exact hlt

theorem signedMagnitudeChecked_eq :
    number.signedMagnitudeChecked shift = .ok (number.signedMagnitude shift) := by
  have hlt := shifted_lt h hshift
  have hsigned := natAbs_signedMagnitude_lt h hshift
  rw [NormalF32.signedMagnitudeChecked, unsigned64_of_lt (by omega), ok_bind,
    signed64_of_natAbs_lt (by rw [Int.natAbs_natCast]; omega), ok_bind]
  exact signed64_of_natAbs_lt (by
    rw [NormalF32.signedMagnitude] at hsigned
    omega)

end

theorem bitLength_le_of_lt {n : ℕ} (h : magnitude < 2 ^ n) : bitLength magnitude ≤ n := by
  by_contra hlt
  obtain ⟨k, hk⟩ := Nat.exists_eq_add_of_lt (Nat.lt_of_not_le hlt)
  have hlow := two_pow_le_of_bitLength hk
  have hle : 2 ^ n ≤ 2 ^ (n + k) := Nat.pow_le_pow_right (by omega) (by omega)
  omega

theorem normalizeMagnitudeChecked_eq (hmagnitude : magnitude < 2 ^ 49)
    (hexponent : exponent.natAbs < 2 ^ 8) :
    normalizeMagnitudeChecked magnitude exponent = .ok (normalizeMagnitude magnitude exponent) := by
  have hlength := bitLength_le_of_lt hmagnitude
  rw [normalizeMagnitudeChecked, normalizeMagnitude]
  dsimp only
  by_cases hzero : bitLength magnitude = 0
  · rw [if_pos hzero, if_pos hzero]
  rw [if_neg hzero, if_neg hzero]
  by_cases hlong : bitLength magnitude > 24
  · have hbit : 1 <<< (bitLength magnitude - 24) < 2 ^ 64 := by
      rw [Nat.one_shiftLeft]
      exact Nat.pow_lt_pow_right (by omega) (by omega)
    rw [if_pos hlong, if_pos hlong, unsigned64_of_lt hbit, ok_bind,
      signed32_of_natAbs_lt (by omega), ok_bind]
  · have hshifted : magnitude <<< (24 - bitLength magnitude) < 2 ^ 64 := by
      rw [Nat.shiftLeft_eq]
      calc magnitude * 2 ^ (24 - bitLength magnitude)
          < 2 ^ bitLength magnitude * 2 ^ (24 - bitLength magnitude) :=
            Nat.mul_lt_mul_of_pos_right (lt_two_pow_bitLength _) (Nat.two_pow_pos _)
        _ = 2 ^ 24 := by rw [← Nat.pow_add, Nat.add_sub_cancel' (by omega)]
        _ < 2 ^ 64 := by norm_num
    rw [if_neg hlong, if_neg hlong, unsigned64_of_lt hshifted, ok_bind,
      signed32_of_natAbs_lt (by omega), ok_bind]

theorem guard_of {p : Prop} [Decidable p] (h : p) : (guard p : Option Unit) = some () := if_pos h

theorem guard_of_not {p : Prop} [Decidable p] (h : ¬ p) : (guard p : Option Unit) = none := if_neg h

/-- **Nothing overflows**: with every operation checked the function is the same. -/
theorem exactNormalF32SumChecked_eq (leftBits rightBits : UInt32) :
    exactNormalF32SumChecked leftBits rightBits = .ok (exactNormalF32Sum leftBits rightBits) := by
  rw [exactNormalF32SumChecked, exactNormalF32Sum]
  cases hleft : decodeNormalF32 leftBits with
  | none => rfl
  | some left =>
    cases hright : decodeNormalF32 rightBits with
    | none => rfl
    | some right =>
      dsimp only [Option.bind_eq_bind, Option.bind_some]
      generalize (left.exponent - min left.exponent right.exponent).toNat = leftShift
      generalize (right.exponent - min left.exponent right.exponent).toNat = rightShift
      by_cases hgap : leftShift > 24 ∨ rightShift > 24
      · rw [if_pos hgap, guard_of_not (by omega), Option.bind_none]
      · have hshiftLeft : leftShift ≤ 24 := by omega
        have hshiftRight : rightShift ≤ 24 := by omega
        have hboundLeft := natAbs_signedMagnitude_lt hleft hshiftLeft
        have hboundRight := natAbs_signedMagnitude_lt hright hshiftRight
        rw [if_neg hgap, guard_of ⟨hshiftLeft, hshiftRight⟩, Option.bind_some,
          signedMagnitudeChecked_eq hleft hshiftLeft, ok_bind,
          signedMagnitudeChecked_eq hright hshiftRight, ok_bind]
        generalize left.signedMagnitude leftShift = signedLeft at hboundLeft
        generalize right.signedMagnitude rightShift = signedRight at hboundRight
        rw [signed64_of_natAbs_lt (by omega), ok_bind]
        generalize hsum : signedLeft + signedRight = signedSum
        by_cases hzero : signedSum = 0
        · rw [if_pos hzero, guard_of_not (not_not.mpr hzero), Option.bind_none]
        · have hmagnitude : (if signedSum < 0 then -signedSum else signedSum) =
            signedSum.natAbs := by omega
          have hexponent := (min left.exponent right.exponent).toNat_lt
          rw [if_neg hzero, guard_of hzero, Option.bind_some, hmagnitude,
            signed64_of_natAbs_lt (by rw [Int.natAbs_natCast]; omega), ok_bind, Int.toNat_natCast,
            normalizeMagnitudeChecked_eq (by omega) (by rw [Int.natAbs_natCast]; omega), ok_bind]
          congr 2
          funext result
          rw [finishF32, packF32]
          simp only [decide_eq_true_eq]
          rfl

end Checked

/-! ### The sum is exact -/

/-- **Exact addition.** There is a result exactly when both patterns are normal numbers and their
sum, as rational numbers, is not zero and is a normal number; the result is then the one pattern of
this number. Numbers whose exponents are more than 24 apart never have such a sum, and no 64-bit
computation on the way overflows. -/
theorem exactNormalF32Sum_exact (leftBits rightBits : UInt32) :
    ((exactNormalF32Sum leftBits rightBits).isSome = true ↔
      IsNormalF32 leftBits ∧ IsNormalF32 rightBits ∧ f32Value leftBits + f32Value rightBits ≠ 0 ∧
        ∃ resultBits, IsNormalF32 resultBits ∧
          f32Value resultBits = f32Value leftBits + f32Value rightBits) ∧
    (∀ resultBits, exactNormalF32Sum leftBits rightBits = some resultBits →
      IsNormalF32 resultBits ∧ f32Value resultBits = f32Value leftBits + f32Value rightBits ∧
        ∀ other, IsNormalF32 other → f32Value other = f32Value leftBits + f32Value rightBits →
          other = resultBits) ∧
    (f32Exponent leftBits + 24 < f32Exponent rightBits ∨ f32Exponent rightBits + 24 <
      f32Exponent leftBits → ¬ ∃ resultBits, f32Value resultBits =
      f32Value leftBits + f32Value rightBits) ∧
    exactNormalF32SumChecked leftBits rightBits = .ok (exactNormalF32Sum leftBits rightBits) := by
  refine ⟨?_, ?_, ?_, exactNormalF32SumChecked_eq leftBits rightBits⟩
  · rw [Option.isSome_iff_exists]
    constructor
    · rintro ⟨resultBits, h⟩
      obtain ⟨hleft, hright, hresult, hvalue⟩ := exactNormalF32Sum_eq_some_iff.mp h
      exact ⟨hleft, hright, hvalue ▸ f32Value_ne_zero resultBits, resultBits, hresult, hvalue⟩
    · rintro ⟨hleft, hright, -, resultBits, hresult, hvalue⟩
      exact ⟨resultBits, exactNormalF32Sum_eq_some_iff.mpr ⟨hleft, hright, hresult, hvalue⟩⟩
  · intro resultBits h
    obtain ⟨hresult, hvalue⟩ := f32Value_of_exactNormalF32Sum h
    refine ⟨hresult, hvalue, ?_⟩
    intro other _ hother
    exact f32Value_injective (hother.trans hvalue.symm)
  · rintro (hgap | hgap) ⟨resultBits, hvalue⟩
    · exact f32Value_add_ne_of_gap hgap hvalue.symm
    · exact f32Value_add_ne_of_gap hgap ((add_comm _ _).trans hvalue.symm)

/-- One and a half plus one half is two; the gap of 24 is not too wide: `2 ^ 24 + 2 ^ 0` needs 25
bits, but `2 ^ 24 - 2 ^ 0` is exact. -/
example : exactNormalF32Sum 0x3fc00000 0x3f000000 = some 0x40000000 ∧
    exactNormalF32Sum 0x4b800000 0x3f800000 = none ∧
    exactNormalF32Sum 0x4b800000 0xbf800000 = some 0x4b7fffff := by decide +kernel

end Astraea.Graphics
