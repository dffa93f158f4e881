import Mathlib.Data.Nat.Bitwise
import Mathlib.Data.Nat.Prime.Basic
import Mathlib.Algebra.Order.Group.Nat

/-!
# Machine words

The operations that C++ code over `std::uint64_t` writes out by hand: an addition
or a multiplication that is refused instead of wrapping, the power-of-two test by
`value & (value - 1)`, and the test of one bit of a mask. Each comes with the fact
about natural numbers it stands for.
-/

namespace Astraea.Base

/-! ### Checked arithmetic -/

/-- `std::numeric_limits<std::uint64_t>::max()`. -/
def u64Max : UInt64 := 0xffffffffffffffff

@[simp] theorem toNat_u64Max : u64Max.toNat = 2 ^ 64 - 1 := rfl

/-- `lhs + rhs`, refused when it would pass `2 ^ 64 - 1`. -/
def checkedAdd (lhs rhs : UInt64) : Option UInt64 :=
  if lhs > u64Max - rhs then none else some (lhs + rhs)

/-- `lhs * rhs`, refused when it would pass `2 ^ 64 - 1`. -/
def checkedMultiply (lhs rhs : UInt64) : Option UInt64 :=
  if lhs ≠ 0 ∧ rhs > u64Max / lhs then none else some (lhs * rhs)

variable {value : UInt64}

theorem toNat_succ_of_ne_u64Max (h : value ≠ u64Max) : (value + 1).toNat = value.toNat + 1 := by
  have hlt := value.toNat_lt
  have hne : value.toNat ≠ 2 ^ 64 - 1 := fun heq => h (UInt64.toNat_inj.mp heq)
  rw [UInt64.toNat_add, UInt64.toNat_one, Nat.mod_eq_of_lt (by omega)]

theorem gt_u64Max_sub_iff (lhs rhs : UInt64) :
    lhs > u64Max - rhs ↔ 2 ^ 64 ≤ lhs.toNat + rhs.toNat := by
  have hl := lhs.toNat_lt
  have hr := rhs.toNat_lt
  have hle : rhs ≤ u64Max := by
    rw [UInt64.le_iff_toNat_le, toNat_u64Max]
    omega
  rw [gt_iff_lt, UInt64.lt_iff_toNat_lt, UInt64.toNat_sub_of_le _ _ hle, toNat_u64Max]
  omega

theorem checkedAdd_eq_some {lhs rhs n : UInt64} (h : checkedAdd lhs rhs = some n) :
    lhs.toNat + rhs.toNat < 2 ^ 64 ∧ n.toNat = lhs.toNat + rhs.toNat := by
  unfold checkedAdd at h
  split_ifs at h with hgt
  rw [gt_u64Max_sub_iff] at hgt
  cases h
  rw [UInt64.toNat_add]
  omega

theorem checkedAdd_of_lt {lhs rhs : UInt64} (h : lhs.toNat + rhs.toNat < 2 ^ 64) :
    checkedAdd lhs rhs = some (lhs + rhs) := by
  unfold checkedAdd
  rw [if_neg]
  rw [gt_u64Max_sub_iff]
  omega

theorem exists_checkedAdd {lhs rhs : UInt64} (h : lhs.toNat + rhs.toNat < 2 ^ 64) :
    ∃ n, checkedAdd lhs rhs = some n ∧ n.toNat = lhs.toNat + rhs.toNat :=
  ⟨_, checkedAdd_of_lt h, (checkedAdd_eq_some (checkedAdd_of_lt h)).2⟩

theorem checkedMultiply_eq_some {lhs rhs n : UInt64} (h : checkedMultiply lhs rhs = some n) :
    n.toNat = lhs.toNat * rhs.toNat := by
  unfold checkedMultiply at h
  split_ifs at h with hover
  cases h
  rw [UInt64.toNat_mul, Nat.mod_eq_of_lt]
  by_cases hzero : lhs = 0
  · rw [hzero, UInt64.toNat_zero, Nat.zero_mul]
    exact Nat.two_pow_pos 64
  · have hle : rhs.toNat ≤ (2 ^ 64 - 1) / lhs.toNat := by
      rw [← toNat_u64Max, ← UInt64.toNat_div, ← UInt64.le_iff_toNat_le]
      exact UInt64.not_lt.mp fun hgt => hover ⟨hzero, hgt⟩
    have hpos : 0 < lhs.toNat := Nat.pos_of_ne_zero fun h0 => hzero (UInt64.toNat_inj.mp h0)
    rw [Nat.le_div_iff_mul_le hpos, Nat.mul_comm] at hle
    omega

theorem checkedMultiply_of_lt {lhs rhs : UInt64} (h : lhs.toNat * rhs.toNat < 2 ^ 64) :
    checkedMultiply lhs rhs = some (lhs * rhs) := by
  unfold checkedMultiply
  rw [if_neg]
  rintro ⟨hzero, hgt⟩
  have hpos : 0 < lhs.toNat := Nat.pos_of_ne_zero fun h0 => hzero (UInt64.toNat_inj.mp h0)
  rw [gt_iff_lt, UInt64.lt_iff_toNat_lt, UInt64.toNat_div, toNat_u64Max, Nat.div_lt_iff_lt_mul hpos,
    Nat.mul_comm] at hgt
  omega

theorem exists_checkedMultiply {lhs rhs : UInt64} (h : lhs.toNat * rhs.toNat < 2 ^ 64) :
    ∃ n, checkedMultiply lhs rhs = some n ∧ n.toNat = lhs.toNat * rhs.toNat :=
  ⟨_, checkedMultiply_of_lt h, checkedMultiply_eq_some (checkedMultiply_of_lt h)⟩

theorem toNat_mul_of_lt {lhs rhs : UInt64} (h : lhs.toNat * rhs.toNat < 2 ^ 64) :
    (lhs * rhs).toNat = lhs.toNat * rhs.toNat := by
  rw [UInt64.toNat_mul, Nat.mod_eq_of_lt h]

theorem toNat_ofNat_of_lt {x : ℕ} (h : x < 2 ^ 64) : (UInt64.ofNat x).toNat = x := by
  rw [UInt64.toNat_ofNat', Nat.mod_eq_of_lt h]

theorem toNat_max (a b : UInt64) : (max a b).toNat = max a.toNat b.toNat := by
  rw [show max a b = if a ≤ b then b else a from rfl]
  split_ifs with h <;> rw [UInt64.le_iff_toNat_le] at h <;> omega

theorem toNat_min (a b : UInt64) : (min a b).toNat = min a.toNat b.toNat := by
  rw [show min a b = if a ≤ b then a else b from rfl]
  split_ifs with h <;> rw [UInt64.le_iff_toNat_le] at h <;> omega

/-! ### Powers of two -/

/-- The test `value != 0 && (value & (value - 1)) == 0`. -/
def isPowerOfTwo (value : UInt64) : Bool := value != 0 && value &&& (value - 1) == 0

/-- A number that shares no bit with its predecessor is a power of two: its top bit is
missing from the predecessor only when there is no other bit. -/
theorem exists_eq_two_pow_of_and_pred {n : ℕ} (h0 : n ≠ 0) (hand : n &&& (n - 1) = 0) :
    ∃ k, n = 2 ^ k := by
  have hlog := Nat.log2_self_le h0
  have hlt : n < 2 ^ (n.log2 + 1) := Nat.lt_log2_self
  refine ⟨n.log2, ?_⟩
  by_contra hne
  have hbit : ∀ m : ℕ, 2 ^ n.log2 ≤ m → m < 2 ^ (n.log2 + 1) → m.testBit n.log2 = true := by
    intro m hm hm'
    rw [Nat.testBit_eq_decide_div_mod_eq]
    have : m / 2 ^ n.log2 = 1 := by
      rw [Nat.div_eq_iff (Nat.two_pow_pos _)]
      rw [Nat.pow_succ] at hm'
      omega
    simp [this]
  have h1 := hbit n hlog hlt
  have h2 := hbit (n - 1) (by omega) (by omega)
  have h3 : (n &&& (n - 1)).testBit n.log2 = true := by
    rw [Nat.testBit_and, h1, h2]
    rfl
  rw [hand, Nat.zero_testBit] at h3
  cases h3

theorem exists_eq_two_pow_of_isPowerOfTwo (h : isPowerOfTwo value = true) :
    ∃ k, value.toNat = 2 ^ k := by
  simp only [isPowerOfTwo, Bool.and_eq_true, bne_iff_ne, ne_eq, beq_iff_eq] at h
  obtain ⟨h0, hand⟩ := h
  have h0' : value.toNat ≠ 0 := fun h => h0 (UInt64.toNat_inj.mp h)
  refine exists_eq_two_pow_of_and_pred h0' ?_
  have hone : (1 : UInt64) ≤ value := by
    rw [UInt64.le_iff_toNat_le]
    exact Nat.one_le_iff_ne_zero.mpr h0'
  have := congrArg UInt64.toNat hand
  rwa [UInt64.toNat_and, UInt64.toNat_sub_of_le _ _ hone] at this

theorem isPowerOfTwo_iff : isPowerOfTwo value = true ↔ ∃ k, value.toNat = 2 ^ k := by
  refine ⟨exists_eq_two_pow_of_isPowerOfTwo, ?_⟩
  rintro ⟨k, hk⟩
  have hpos : 0 < value.toNat := by
    rw [hk]
    exact Nat.two_pow_pos k
  have hone : (1 : UInt64) ≤ value := UInt64.le_iff_toNat_le.mpr hpos
  simp only [isPowerOfTwo, Bool.and_eq_true, bne_iff_ne, ne_eq, beq_iff_eq, ← UInt64.toNat_inj,
    UInt64.toNat_and, UInt64.toNat_zero]
  refine ⟨Nat.ne_of_gt hpos, ?_⟩
  rw [UInt64.toNat_sub_of_le _ _ hone, UInt64.toNat_one, hk, Nat.and_two_pow_sub_one_eq_mod,
    Nat.mod_self]

theorem isPowerOfTwo_pos (h : isPowerOfTwo value = true) : 0 < value.toNat := by
  obtain ⟨k, hk⟩ := exists_eq_two_pow_of_isPowerOfTwo h
  rw [hk]
  exact Nat.two_pow_pos k

/-- A word that is a power of two divides the size of the address space. -/
theorem dvd_two_pow_64 (h : isPowerOfTwo value = true) : value.toNat ∣ 2 ^ 64 := by
  obtain ⟨k, hk⟩ := exists_eq_two_pow_of_isPowerOfTwo h
  have hlt := value.toNat_lt
  rw [hk] at hlt ⊢
  exact Nat.pow_dvd_pow 2 (le_of_lt ((Nat.pow_lt_pow_iff_right (by omega)).mp hlt))

/-! ### Masks -/

/-- A mask of one bit meets `n` exactly when `n` has that bit. -/
theorem and_two_pow_ne_zero {n i : ℕ} : n &&& 2 ^ i ≠ 0 ↔ n.testBit i = true := by
  rw [Nat.and_two_pow]
  cases n.testBit i <;> simp

/-- A word that has none of its top `j` bits is below the others. -/
theorem lt_two_pow_of_and_mask {n j k : ℕ} (hn : n < 2 ^ (k + j))
    (h : n &&& (2 ^ j - 1) <<< k = 0) : n < 2 ^ k := by
  apply Nat.lt_pow_two_of_testBit
  intro i hi
  by_cases hij : i < k + j
  · have hbit : (n &&& (2 ^ j - 1) <<< k).testBit i = n.testBit i := by
      have hmask : i - k < j := by omega
      simp [Nat.testBit_and, Nat.testBit_shiftLeft, hi, hmask]
    rw [← hbit, h, Nat.zero_testBit]
  · exact Nat.testBit_lt_two_pow (lt_of_lt_of_le hn (Nat.pow_le_pow_right (by omega) (by omega)))

/-- A mask that has all bits but the lowest `k` rounds down to a multiple of `2 ^ k`. -/
theorem and_highMask {n j k : ℕ} (hn : n < 2 ^ (k + j)) :
    n &&& (2 ^ j - 1) <<< k = n / 2 ^ k * 2 ^ k := by
  rw [← Nat.shiftRight_eq_div_pow, ← Nat.shiftLeft_eq]
  apply Nat.eq_of_testBit_eq
  intro i
  rw [Nat.testBit_and, Nat.testBit_shiftLeft, Nat.testBit_shiftLeft, Nat.testBit_shiftRight,
    Nat.testBit_two_pow_sub_one]
  by_cases hlow : k ≤ i
  · have hsame : k + (i - k) = i := by omega
    rw [hsame]
    by_cases hhigh : i < k + j
    · have hmask : i - k < j := by omega
      simp [hlow, hmask]
    · have hzero : n.testBit i = false :=
        Nat.testBit_lt_two_pow (lt_of_lt_of_le hn (Nat.pow_le_pow_right (by omega) (by omega)))
      simp [hzero]
  · simp [hlow]

end Astraea.Base
