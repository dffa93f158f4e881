import Mathlib.Algebra.Order.Group.Nat
import Mathlib.Tactic.Ring
import Mathlib.Data.Nat.Bitwise

/-!
# Hexadecimal digits

Numbers of a fixed width as hexadecimal digits in ASCII, highest digit first, and back.
-/

namespace Astraea.Base

/-- The digit of a number below sixteen. -/
def hexDigit (digit : ℕ) : UInt8 :=
  if digit < 10 then UInt8.ofNat (48 + digit) else UInt8.ofNat (87 + digit)

/-- The value of a digit, in small or large letters. -/
def hexValue (byte : UInt8) : Option ℕ :=
  if 48 ≤ byte.toNat ∧ byte.toNat ≤ 57 then some (byte.toNat - 48)
  else if 97 ≤ byte.toNat ∧ byte.toNat ≤ 102 then some (byte.toNat - 87)
  else if 65 ≤ byte.toNat ∧ byte.toNat ≤ 70 then some (byte.toNat - 55)
  else none

/-- The `width` digits of `value`: digit `i` is `(value >> (4 * (width - 1 - i))) & 0xf`. -/
def hexDigits (width value : ℕ) : List UInt8 :=
  (List.range width).map fun i => hexDigit (value >>> (4 * (width - 1 - i)) &&& 0xf)

/-- The value digits spell, after those with the value `value`. -/
def readHex (value : ℕ) : List UInt8 → Option ℕ
  | [] => some value
  | byte :: bytes => (hexValue byte).bind fun digit => readHex (16 * value + digit) bytes

theorem toNat_hexDigit {digit : ℕ} (h : digit < 16) :
    (hexDigit digit).toNat = if digit < 10 then 48 + digit else 87 + digit := by
  unfold hexDigit
  split_ifs <;> rw [UInt8.toNat_ofNat'] <;> omega

theorem hexValue_hexDigit {digit : ℕ} (h : digit < 16) :
    hexValue (hexDigit digit) = some digit := by
  unfold hexValue
  rw [toNat_hexDigit h]
  split_ifs <;> first | omega | (congr 1; omega)

theorem and_fifteen (n : ℕ) : n &&& 15 = n % 16 := Nat.and_two_pow_sub_one_eq_mod n 4

@[simp] theorem length_hexDigits (width value : ℕ) : (hexDigits width value).length = width := by
  simp [hexDigits]

@[simp] theorem hexDigits_zero (value : ℕ) : hexDigits 0 value = [] := rfl

theorem hexDigits_succ (width value : ℕ) :
    hexDigits (width + 1) value = hexDigits width (value / 16) ++ [hexDigit (value % 16)] := by
  simp only [hexDigits, List.range_succ, List.map_append, List.map_cons, List.map_nil, and_fifteen]
  congr 1
  · refine List.map_congr_left ?_
    intro i hi
    rw [List.mem_range] at hi
    rw [show 4 * (width + 1 - 1 - i) = 4 * (width - 1 - i) + 4 by omega, Nat.shiftRight_eq_div_pow,
      Nat.shiftRight_eq_div_pow, Nat.div_div_eq_div_mul, pow_add, mul_comm]
    norm_num
  · simp

theorem readHex_append (value : ℕ) (bytes bytes' : List UInt8) :
    readHex value (bytes ++ bytes') = (readHex value bytes).bind fun value =>
      readHex value bytes' := by
  induction bytes generalizing value with
  | nil => rfl
  | cons byte bytes ih =>
    rw [List.cons_append, readHex, readHex]
    cases hexValue byte with
    | none => rfl
    | some digit => exact ih _

/-- **The digits of a number spell the number.** -/
theorem readHex_hexDigits (width value before : ℕ) (h : value < 16 ^ width) :
    readHex before (hexDigits width value) = some (16 ^ width * before + value) := by
  induction width generalizing value with
  | zero =>
    rw [pow_zero, Nat.lt_one_iff] at h
    simp [readHex, h]
  | succ width ih =>
    have hvalue : value / 16 < 16 ^ width := by
      rw [pow_succ] at h
      omega
    rw [hexDigits_succ, readHex_append, ih _ hvalue, Option.bind_some, readHex,
      hexValue_hexDigit (Nat.mod_lt _ (by decide)), Option.bind_some, readHex, pow_succ]
    congr 1
    ring_nf
    omega

theorem hexDigits_ascii {width value : ℕ} {byte : UInt8} (h : byte ∈ hexDigits width value) :
    (48 ≤ byte.toNat ∧ byte.toNat ≤ 57) ∨ (97 ≤ byte.toNat ∧ byte.toNat ≤ 102) := by
  obtain ⟨i, -, rfl⟩ := List.mem_map.mp h
  have hlt : value >>> (4 * (width - 1 - i)) % 16 < 16 := Nat.mod_lt _ (by decide)
  rw [and_fifteen, toNat_hexDigit hlt]
  split_ifs <;> omega

/-! ### Bytes -/

/-- Two digits for each byte. -/
def hexBytes (bytes : List UInt8) : List UInt8 := bytes.flatMap fun byte => hexDigits 2 byte.toNat

/-- The bytes that digits spell, two digits for each. -/
def readHexBytes : List UInt8 → Option (List UInt8)
  | [] => some []
  | [_] => none
  | high :: low :: rest =>
    (readHex 0 [high, low]).bind fun value => (readHexBytes rest).map fun bytes =>
      UInt8.ofNat value :: bytes

theorem exists_hexDigits_two (value : ℕ) : ∃ high low, hexDigits 2 value = [high, low] :=
  ⟨_, _, rfl⟩

/-- **The digits of bytes spell the bytes.** -/
theorem readHexBytes_hexBytes (bytes : List UInt8) :
    readHexBytes (hexBytes bytes) = some bytes := by
  induction bytes with
  | nil => rfl
  | cons byte bytes ih =>
    obtain ⟨high, low, hdigits⟩ := exists_hexDigits_two byte.toNat
    have hread := readHex_hexDigits 2 byte.toNat 0 byte.toNat_lt
    rw [hdigits] at hread
    have hcons : hexBytes (byte :: bytes) = high :: low :: hexBytes bytes := by
      rw [hexBytes, List.flatMap_cons, hdigits]
      rfl
    rw [hcons, readHexBytes, hread, ih]
    simp

end Astraea.Base
