import Astraea.Base.RangeMap
import Mathlib.Order.Bounds.Basic

/-!
# Cells in rows

A table is kept row behind row, each row `pitch` bytes long and each cell `size` bytes, with a
pitch that is padded to a multiple. `isLeast_padded` says which multiple that is. Where the cells
of a row fit in it, different cells have no byte in common.
-/

namespace Astraea.Base

section Padding

variable {step n : ℕ}

/-- What is missing to the next multiple of `step`. -/
def paddingTo (step n : ℕ) : ℕ := if n % step = 0 then 0 else step - n % step

/-- **Padding leads to the least multiple** that is large enough. -/
theorem isLeast_padded (hstep : 0 < step) :
    IsLeast {m | step ∣ m ∧ n ≤ m} (n + paddingTo step n) := by
  have hdivision := Nat.div_add_mod n step
  have hlt := Nat.mod_lt n hstep
  unfold paddingTo
  constructor
  · split_ifs with hmod
    · exact ⟨Nat.dvd_of_mod_eq_zero hmod, le_rfl⟩
    · refine ⟨⟨n / step + 1, ?_⟩, Nat.le_add_right _ _⟩
      rw [Nat.mul_add, Nat.mul_one]
      omega
  · rintro m ⟨⟨k, rfl⟩, hle⟩
    split_ifs with hmod
    · exact hle
    · have hk : n / step < k := by
        by_contra hk
        have hsmall : step * k ≤ step * (n / step) := Nat.mul_le_mul_left step (Nat.le_of_not_lt hk)
        omega
      have hlarge : step * (n / step + 1) ≤ step * k := Nat.mul_le_mul_left step hk
      rw [Nat.mul_succ] at hlarge
      omega

end Padding

section Cells

variable {pitch size width height x y x' y' : ℕ}

/-- The bytes of the cell in column `x` of row `y`. -/
def cell (pitch size x y : ℕ) : Interval := ⟨y * pitch + x * size, size⟩

/-- The cells of a row that has room for them lie in it. -/
theorem cell_le (hx : x < width) (hrow : width * size ≤ pitch) : x * size + size ≤ pitch := by
  have hnext : (x + 1) * size ≤ width * size := Nat.mul_le_mul_right size hx
  rw [Nat.succ_mul] at hnext
  exact hnext.trans hrow

theorem cell_inside (hx : x < width) (hy : y < height) (hrow : width * size ≤ pitch) :
    (cell pitch size x y).start + size ≤ height * pitch := by
  have hcell := cell_le hx hrow
  have hrows : (y + 1) * pitch ≤ height * pitch := Nat.mul_le_mul_right pitch hy
  rw [Nat.succ_mul] at hrows
  unfold cell
  dsimp only
  omega

/-- **Different cells have no byte in common.** -/
theorem cell_apart (hx : x < width) (hx' : x' < width) (hrow : width * size ≤ pitch)
    (hne : (x, y) ≠ (x', y')) :
    ¬ (cell pitch size x y).Meets (cell pitch size x' y') := by
  have hhere := cell_le hx hrow
  have hthere := cell_le hx' hrow
  unfold cell Interval.Meets
  rintro ⟨hlow, hhigh⟩
  dsimp only at hlow hhigh
  rcases Nat.lt_trichotomy y y' with hlt | rfl | hgt
  · have hrows : (y + 1) * pitch ≤ y' * pitch := Nat.mul_le_mul_right pitch hlt
    rw [Nat.succ_mul] at hrows
    omega
  · have hcolumns : x ≠ x' := fun heq => hne (by rw [heq])
    rcases Nat.lt_or_gt_of_ne hcolumns with hlt | hgt
    · have hcells : (x + 1) * size ≤ x' * size := Nat.mul_le_mul_right size hlt
      rw [Nat.succ_mul] at hcells
      omega
    · have hcells : (x' + 1) * size ≤ x * size := Nat.mul_le_mul_right size hgt
      rw [Nat.succ_mul] at hcells
      omega
  · have hrows : (y' + 1) * pitch ≤ y * pitch := Nat.mul_le_mul_right pitch hgt
    rw [Nat.succ_mul] at hrows
    omega

end Cells

end Astraea.Base
