import Mathlib.Data.Nat.Bitwise
import Mathlib.Algebra.Order.Group.Nat

/-!
# Borrows

A difference of two numbers of `w` bits wraps to `w` bits. Each of its bits is the sum of the bits
of the two and of the borrow that the bits below it take: `testBit_wrapSub`. The borrow out of a
bit, and whether the difference of the signed numbers fits in `w` bits, can so be read off the
exclusive or of the three.
-/

namespace Astraea.Base

section Borrow

variable {w i x y : ℕ}

/-- The difference of two numbers of `w` bits, in `w` bits. -/
def wrapSub (w x y : ℕ) : ℕ := (2 ^ w - y + x) % 2 ^ w

/-- The bits below `i` take a borrow from bit `i`. -/
def borrowsFrom (i x y : ℕ) : Bool := decide (x % 2 ^ i < y % 2 ^ i)

theorem wrapSub_of_le (hx : x < 2 ^ w) (hle : y ≤ x) : wrapSub w x y = x - y := by
  rw [wrapSub, show 2 ^ w - y + x = x - y + 2 ^ w by omega, Nat.add_mod_right,
    Nat.mod_eq_of_lt (by omega)]

theorem wrapSub_of_lt (hy : y < 2 ^ w) (hlt : x < y) : wrapSub w x y = 2 ^ w - y + x := by
  rw [wrapSub, Nat.mod_eq_of_lt (by omega)]

theorem wrapSub_div (hy : y < 2 ^ w) (hi : i < w) :
    (2 ^ w - y + x) / 2 ^ i = 2 ^ (w - i) - y / 2 ^ i +
      x / 2 ^ i - (if borrowsFrom i x y = true then 1 else 0) := by
  have hpos : 0 < 2 ^ i := Nat.two_pow_pos i
  have hsplit : 2 ^ w = 2 ^ i * 2 ^ (w - i) := by rw [← Nat.pow_add, Nat.add_sub_cancel' hi.le]
  have hxdiv := Nat.div_add_mod x (2 ^ i)
  have hydiv := Nat.div_add_mod y (2 ^ i)
  have hxmod := Nat.mod_lt x hpos
  have hymod := Nat.mod_lt y hpos
  have hquotient : y / 2 ^ i < 2 ^ (w - i) := by
    rw [Nat.div_lt_iff_lt_mul hpos, Nat.mul_comm, ← hsplit]
    exact hy
  have htimes := Nat.mul_sub (2 ^ i) (2 ^ (w - i)) (y / 2 ^ i)
  have hbelow := Nat.mul_le_mul_left (2 ^ i) hquotient
  rw [Nat.mul_succ] at hbelow
  unfold borrowsFrom
  generalize x / 2 ^ i = a at *
  generalize y / 2 ^ i = b at *
  by_cases hborrow : x % 2 ^ i < y % 2 ^ i
  · rw [if_pos (decide_eq_true hborrow)]
    refine Nat.div_eq_of_lt_le ?_ ?_
    · rw [Nat.mul_comm, Nat.mul_sub, Nat.mul_add, Nat.mul_one, htimes]
      omega
    · rw [Nat.sub_add_cancel (by omega), Nat.mul_comm, Nat.mul_add, htimes]
      omega
  · rw [if_neg (fun h => hborrow (of_decide_eq_true h)), Nat.sub_zero]
    refine Nat.div_eq_of_lt_le ?_ ?_
    · rw [Nat.mul_comm, Nat.mul_add, htimes]
      omega
    · rw [Nat.mul_comm, Nat.mul_succ, Nat.mul_add, htimes]
      omega

/-- **A bit of a difference** is the sum of the two bits and the borrow, without what is carried. -/
theorem testBit_wrapSub (hy : y < 2 ^ w) (hi : i < w) :
    (wrapSub w x y).testBit i = (x.testBit i ^^ y.testBit i ^^ borrowsFrom i x y) := by
  have hpos : 0 < 2 ^ i := Nat.two_pow_pos i
  have hquotient : y / 2 ^ i < 2 ^ (w - i) := by
    rw [Nat.div_lt_iff_lt_mul hpos, ← Nat.pow_add, Nat.sub_add_cancel hi.le]
    exact hy
  have heven : 2 ^ (w - i) = 2 * 2 ^ (w - i - 1) := by
    rw [Nat.two_mul, Nat.two_pow_pred_add_two_pow_pred (by omega)]
  rw [wrapSub, Nat.testBit_mod_two_pow, decide_eq_true hi, Bool.true_and,
    Nat.testBit_eq_decide_div_mod_eq, Nat.testBit_eq_decide_div_mod_eq,
    Nat.testBit_eq_decide_div_mod_eq, wrapSub_div hy hi, heven]
  rw [heven] at hquotient
  generalize borrowsFrom i x y = borrow
  generalize x / 2 ^ i = a at *
  generalize y / 2 ^ i = b at *
  generalize 2 ^ (w - i - 1) = c at *
  rcases Nat.mod_two_eq_zero_or_one a with ha | ha
    <;> rcases Nat.mod_two_eq_zero_or_one b with hb | hb <;>
    cases borrow <;> simp only [ha, hb, Bool.false_eq_true, if_false, if_true] <;> simp <;> omega

/-- **The exclusive or of three shows the borrow.** -/
theorem testBit_xor_wrapSub (hy : y < 2 ^ w) (hi : i < w) :
    (x ^^^ y ^^^ wrapSub w x y).testBit i = borrowsFrom i x y := by
  rw [Nat.testBit_xor, Nat.testBit_xor, testBit_wrapSub hy hi]
  cases x.testBit i <;> cases y.testBit i <;> cases borrowsFrom i x y <;> rfl

end Borrow

/-! ### Signed numbers -/

section Signed

variable {w n x y : ℕ}

/-- A number of `w` bits, read with its sign. -/
def signedOf (w n : ℕ) : ℤ := if n < 2 ^ (w - 1) then n else (n : ℤ) - 2 ^ w

theorem testBit_sign (hw : 0 < w) (hn : n < 2 ^ w) :
    n.testBit (w - 1) = decide (signedOf w n < 0) := by
  have htwice := Nat.two_pow_pred_add_two_pow_pred hw
  have hsplit : (2 : ℤ) ^ w = ((2 ^ w : ℕ) : ℤ) := by push_cast; rfl
  rw [Nat.testBit_eq_decide_div_mod_eq, decide_eq_decide, signedOf]
  split_ifs with hlow
  · rw [Nat.div_eq_of_lt hlow]
    omega
  · have hquotient : n / 2 ^ (w - 1) = 1 := Nat.div_eq_of_lt_le (by omega) (by omega)
    rw [hquotient, hsplit]
    omega

/-- The signed numbers have a difference of `w` bits. -/
def SignedFits (w : ℕ) (d : ℤ) : Prop := -2 ^ (w - 1) ≤ d ∧ d < 2 ^ (w - 1)

/-- A signed number that fits is read back from its bits. -/
theorem signedOf_emod {d : ℤ} (hw : 0 < w) (h : SignedFits w d) :
    signedOf w (d % 2 ^ w).toNat = d := by
  have htwice := Nat.two_pow_pred_add_two_pow_pred hw
  have hsplit : (2 : ℤ) ^ w = ((2 ^ w : ℕ) : ℤ) := by push_cast; rfl
  have hsplit' : (2 : ℤ) ^ (w - 1) = ((2 ^ (w - 1) : ℕ) : ℤ) := by push_cast; rfl
  rw [SignedFits, hsplit'] at h
  rw [signedOf, hsplit]
  generalize 2 ^ w = top at *
  generalize 2 ^ (w - 1) = half at *
  rcases lt_or_ge d 0 with hneg | hpos
  · have hmod : d % (top : ℤ) = d + top := by
      rw [← Int.add_emod_right, Int.emod_eq_of_lt (by omega) (by omega)]
    rw [hmod, if_neg (by omega)]
    omega
  · rw [Int.emod_eq_of_lt hpos (by omega), if_pos (by omega)]
    omega

/-- **Signed overflow.** The difference of the signed numbers fails to fit exactly when their signs
differ and that of the wrapped difference is not that of the first. -/
theorem testBit_overflow (hw : 0 < w) (hx : x < 2 ^ w) (hy : y < 2 ^ w) :
    ((x ^^^ y) &&& (x ^^^ wrapSub w x y)).testBit (w - 1) = true ↔
    ¬ SignedFits w (signedOf w x - signedOf w y) := by
  have htwice := Nat.two_pow_pred_add_two_pow_pred hw
  have hwrap : wrapSub w x y < 2 ^ w := Nat.mod_lt _ (Nat.two_pow_pos w)
  have hsplit : (2 : ℤ) ^ w = ((2 ^ w : ℕ) : ℤ) := by push_cast; rfl
  have hsplit' : (2 : ℤ) ^ (w - 1) = ((2 ^ (w - 1) : ℕ) : ℤ) := by push_cast; rfl
  rw [Nat.testBit_and, Nat.testBit_xor, Nat.testBit_xor, testBit_sign hw hx, testBit_sign hw hy,
    testBit_sign hw hwrap, SignedFits, hsplit', signedOf, signedOf, signedOf, hsplit]
  have hcases : wrapSub w x y = x - y ∧ y ≤ x ∨ wrapSub w x y = 2 ^ w - y + x ∧ x < y := by
    rcases Nat.lt_or_ge x y with hlt | hle
    · exact .inr ⟨wrapSub_of_lt hy hlt, hlt⟩
    · exact .inl ⟨wrapSub_of_le hx hle, hle⟩
  generalize wrapSub w x y = d at *
  generalize 2 ^ w = top at *
  generalize 2 ^ (w - 1) = half at *
  simp only [Bool.and_eq_true, bne_iff_ne, ne_eq, decide_eq_decide]
  split_ifs <;> omega

end Signed

end Astraea.Base
