import Mathlib.Data.Nat.Digits.Lemmas

/-!
# Decimal digits

Numbers as the decimal digits `std::to_string` and `std::to_chars` write, in ASCII.
-/

namespace Astraea.Base

/-- The digit of a number below ten. -/
def digitByte (digit : ℕ) : UInt8 := UInt8.ofNat (48 + digit)

/-- A natural number, highest digit first. -/
def decimal (n : ℕ) : List UInt8 :=
  if n = 0 then [digitByte 0] else ((Nat.digits 10 n).map digitByte).reverse

/-- An integer, with a minus sign before a negative one. -/
def signedDecimal (n : ℤ) : List UInt8 :=
  if n < 0 then 45 :: decimal n.natAbs else decimal n.natAbs

theorem digitByte_inj {a b : ℕ} (ha : a < 10) (hb : b < 10) (h : digitByte a = digitByte b) :
    a = b := by
  have hnat := congrArg UInt8.toNat h
  simp only [digitByte, UInt8.toNat_ofNat'] at hnat
  omega

/-- A byte that is a digit. -/
def IsDigitByte (byte : UInt8) : Prop := 48 ≤ byte.toNat ∧ byte.toNat ≤ 57

theorem isDigitByte_digitByte {digit : ℕ} (h : digit < 10) : IsDigitByte (digitByte digit) := by
  simp only [IsDigitByte, digitByte, UInt8.toNat_ofNat']
  omega

theorem isDigitByte_of_mem_decimal {n : ℕ} {byte : UInt8} (h : byte ∈ decimal n) :
    IsDigitByte byte := by
  unfold decimal at h
  split_ifs at h with hzero
  · rw [List.mem_singleton.mp h]
    exact isDigitByte_digitByte (by decide)
  · obtain ⟨digit, hdigit, rfl⟩ := List.mem_map.mp (List.mem_reverse.mp h)
    exact isDigitByte_digitByte (Nat.digits_lt_base (by decide) hdigit)

/-- The value digits spell, after those with the value `value`. -/
def decimalValue (value : ℕ) (digits : List UInt8) : ℕ :=
  digits.foldl (fun value byte => 10 * value + (byte.toNat - 48)) value

theorem decimalValue_reverse (digits : List ℕ) (h : ∀ digit ∈ digits, digit < 10) :
    decimalValue 0 (digits.map digitByte).reverse = Nat.ofDigits 10 digits := by
  induction digits with
  | nil => rfl
  | cons digit digits ih =>
    rw [List.forall_mem_cons] at h
    have hbyte : (digitByte digit).toNat - 48 = digit := by
      simp only [digitByte, UInt8.toNat_ofNat']
      omega
    have ih := ih h.2
    unfold decimalValue at ih ⊢
    rw [List.map_cons, List.reverse_cons, List.foldl_append, ih, List.foldl_cons, List.foldl_nil,
      hbyte, Nat.ofDigits_cons]
    omega

/-- **The digits of a number spell the number.** -/
theorem decimalValue_decimal (n : ℕ) : decimalValue 0 (decimal n) = n := by
  unfold decimal
  split_ifs with hzero
  · rw [hzero]
    rfl
  · rw [decimalValue_reverse _ fun digit hdigit => Nat.digits_lt_base (by decide) hdigit,
      Nat.ofDigits_digits]

theorem decimal_inj {m n : ℕ} (h : decimal m = decimal n) : m = n := by
  rw [← decimalValue_decimal m, h, decimalValue_decimal]

theorem decimal_ne_nil (n : ℕ) : decimal n ≠ [] := by
  intro h
  have := decimalValue_decimal n
  unfold decimal at h
  split_ifs at h with hzero
  rw [List.reverse_eq_nil_iff, List.map_eq_nil_iff, Nat.digits_eq_nil_iff_eq_zero] at h
  exact hzero h

theorem decimal_of_head? {n : ℕ} (h : (decimal n).head? = some 48) : decimal n = [48] := by
  unfold decimal at *
  split_ifs at h ⊢ with hzero
  · rfl
  · have hdigits : Nat.digits 10 n ≠ [] := Nat.digits_ne_nil_iff_ne_zero.mpr hzero
    have hlast : (Nat.digits 10 n).getLast? = some ((Nat.digits 10 n).getLast hdigits) :=
      List.getLast?_eq_some_getLast hdigits
    rw [List.head?_reverse, List.getLast?_map, hlast, Option.map_some, Option.some_inj] at h
    have hlt : (Nat.digits 10 n).getLast hdigits < 10 :=
      Nat.digits_lt_base (by decide) (List.getLast_mem hdigits)
    have hfirst : (Nat.digits 10 n).getLast hdigits = 0 :=
      digitByte_inj hlt (by decide) (h : _ = digitByte 0)
    exact absurd hfirst (Nat.getLast_digit_ne_zero 10 hzero)

theorem signedDecimal_inj {m n : ℤ} (h : signedDecimal m = signedDecimal n) : m = n := by
  have hminus : ∀ k : ℕ, ∀ digits, decimal k ≠ 45 :: digits := by
    intro k digits hk
    have hdigit : IsDigitByte 45 := isDigitByte_of_mem_decimal (hk ▸ List.mem_cons_self)
    exact absurd hdigit.1 (by decide)
  unfold signedDecimal at h
  split_ifs at h with hm hn hn
  · have := decimal_inj (List.cons.inj h).2
    omega
  · exact absurd h.symm (hminus _ _)
  · exact absurd h (hminus _ _)
  · have := decimal_inj h
    omega

end Astraea.Base
