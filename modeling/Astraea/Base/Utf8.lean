import Mathlib.Algebra.Order.Group.Nat
import Mathlib.Tactic.NormNum

/-!
# UTF-8

A byte string is UTF-8 when it is the encoding of some characters. The lemmas build such
byte strings up: from ASCII, from the sequences of two to four bytes that encode one
character, and one behind the other.
-/

namespace Astraea.Base

/-- The encoding of some characters. -/
def IsUtf8 (bytes : List UInt8) : Prop :=
  ∃ chars : List Char, bytes = chars.flatMap String.utf8EncodeChar

theorem isUtf8_nil : IsUtf8 [] := ⟨[], rfl⟩

variable {bytes : List UInt8} {n : ℕ}

theorem IsUtf8.append {bytes' : List UInt8} (h : IsUtf8 bytes) (h' : IsUtf8 bytes') :
    IsUtf8 (bytes ++ bytes') := by
  obtain ⟨chars, rfl⟩ := h
  obtain ⟨chars', rfl⟩ := h'
  exact ⟨chars ++ chars', List.flatMap_append.symm⟩

theorem isUtf8_char (char : Char) : IsUtf8 (String.utf8EncodeChar char) := ⟨[char], by simp⟩

theorem val_ofNat (h : n.isValidChar) : (Char.ofNat n).val.toNat = n := by
  rw [Char.ofNat, dif_pos h]
  rfl

theorem utf8EncodeChar_ascii (h : n < 128) :
    String.utf8EncodeChar (Char.ofNat n) = [UInt8.ofNat n] := by
  have hvalid : n.isValidChar := .inl (by omega)
  rw [String.utf8EncodeChar, val_ofNat hvalid]
  rw [if_pos (by omega)]

theorem isUtf8_of_ascii (h : ∀ byte ∈ bytes, byte.toNat < 128) : IsUtf8 bytes := by
  induction bytes with
  | nil => exact isUtf8_nil
  | cons byte bytes ih =>
    rw [List.forall_mem_cons] at h
    have hbyte := utf8EncodeChar_ascii h.1
    rw [UInt8.ofNat_toNat] at hbyte
    exact (hbyte ▸ isUtf8_char _ : IsUtf8 [byte]).append (ih h.2)

/-- The same for a fixed text, where the check can be run. -/
theorem isUtf8_of_all_ascii (h : bytes.all (fun byte => decide (byte.toNat < 128)) = true) :
    IsUtf8 bytes := by
  rw [List.all_eq_true] at h
  exact isUtf8_of_ascii fun byte hbyte => of_decide_eq_true (h byte hbyte)

/-- A character is one byte of ASCII, or none of its bytes is. -/
theorem utf8EncodeChar_cases (char : Char) :
    (∃ byte : UInt8, String.utf8EncodeChar char = [byte] ∧ byte.toNat < 128) ∨
      ∀ byte ∈ String.utf8EncodeChar char, 128 ≤ byte.toNat := by
  unfold String.utf8EncodeChar
  dsimp only
  split_ifs with h1 h2 h3
  · refine .inl ⟨_, rfl, ?_⟩
    rw [UInt8.toNat_ofNat']
    omega
  · right
    intro byte hbyte
    simp only [List.mem_cons, List.not_mem_nil, or_false] at hbyte
    rcases hbyte with rfl | rfl <;> rw [UInt8.toNat_ofNat'] <;> omega
  · right
    intro byte hbyte
    simp only [List.mem_cons, List.not_mem_nil, or_false] at hbyte
    rcases hbyte with rfl | rfl | rfl <;> rw [UInt8.toNat_ofNat'] <;> omega
  · right
    intro byte hbyte
    simp only [List.mem_cons, List.not_mem_nil, or_false] at hbyte
    rcases hbyte with rfl | rfl | rfl | rfl <;> rw [UInt8.toNat_ofNat'] <;> omega

/-! ### Characters of several bytes -/

/-- A byte behind the first of a character. -/
def IsContinuation (byte : UInt8) : Prop := 0x80 ≤ byte.toNat ∧ byte.toNat ≤ 0xbf

theorem ofNat_eq {b : UInt8} (h : n = b.toNat) : UInt8.ofNat n = b := by
  rw [h, UInt8.ofNat_toNat]

theorem isUtf8_two {first second : UInt8} (hfirst : 0xc2 ≤ first.toNat ∧ first.toNat ≤ 0xdf)
    (hsecond : IsContinuation second) :
    IsUtf8 [first, second] := by
  unfold IsContinuation at hsecond
  have hvalid : ((first.toNat - 0xc0) * 64 + (second.toNat - 0x80)).isValidChar := .inl (by omega)
  have hencoded := isUtf8_char (Char.ofNat ((first.toNat - 0xc0) * 64 + (second.toNat - 0x80)))
  rw [String.utf8EncodeChar, val_ofNat hvalid] at hencoded
  rwa [if_neg (by omega), if_pos (by omega), ofNat_eq (b := first) (by omega),
    ofNat_eq (b := second) (by omega)] at hencoded

/-- The value of a character of three bytes. -/
def valueOfThree (first second third : UInt8) : ℕ :=
  (first.toNat - 0xe0) * 4096 + (second.toNat - 0x80) * 64 + (third.toNat - 0x80)

theorem isUtf8_three {first second third : UInt8} (hfirst : 0xe0 ≤ first.toNat ∧ first.toNat ≤ 0xef)
    (hsecond : IsContinuation second) (hthird : IsContinuation third)
    (hlong : 0x800 ≤ valueOfThree first second third)
    (hscalar : valueOfThree first second third < 0xd800 ∨
    0xdfff < valueOfThree first second third) :
    IsUtf8 [first, second, third] := by
  unfold IsContinuation at hsecond hthird
  unfold valueOfThree at *
  have hvalid : ((first.toNat - 0xe0) * 4096 + (second.toNat - 0x80) * 64 +
      (third.toNat - 0x80)).isValidChar := by
    rcases hscalar with h | h
    · exact .inl h
    · exact .inr ⟨h, by omega⟩
  have hencoded := isUtf8_char
    (Char.ofNat ((first.toNat - 0xe0) * 4096 + (second.toNat - 0x80) * 64 + (third.toNat - 0x80)))
  rw [String.utf8EncodeChar, val_ofNat hvalid] at hencoded
  rwa [if_neg (by omega), if_neg (by omega), if_pos (by omega), ofNat_eq (b := first) (by omega),
    ofNat_eq (b := second) (by omega), ofNat_eq (b := third) (by omega)] at hencoded

/-- The value of a character of four bytes. -/
def valueOfFour (first second third fourth : UInt8) : ℕ :=
  (first.toNat - 0xf0) * 262144 + (second.toNat - 0x80) * 4096 + (third.toNat - 0x80) * 64 +
    (fourth.toNat - 0x80)

theorem isUtf8_four {first second third fourth : UInt8}
    (hfirst : 0xf0 ≤ first.toNat ∧ first.toNat ≤ 0xf4) (hsecond : IsContinuation second)
    (hthird : IsContinuation third) (hfourth : IsContinuation fourth)
    (hlong : 0x10000 ≤ valueOfFour first second third fourth)
    (hscalar : valueOfFour first second third fourth < 0x110000) :
    IsUtf8 [first, second, third, fourth] := by
  unfold IsContinuation at hsecond hthird hfourth
  unfold valueOfFour at *
  have hvalid : ((first.toNat - 0xf0) * 262144 + (second.toNat - 0x80) * 4096 +
    (third.toNat - 0x80) * 64 + (fourth.toNat - 0x80)).isValidChar := .inr ⟨by omega, hscalar⟩
  have hencoded := isUtf8_char
    (Char.ofNat ((first.toNat - 0xf0) * 262144 + (second.toNat - 0x80) * 4096 +
    (third.toNat - 0x80) * 64 + (fourth.toNat - 0x80)))
  rw [String.utf8EncodeChar, val_ofNat hvalid] at hencoded
  rwa [if_neg (by omega), if_neg (by omega), if_neg (by omega), ofNat_eq (b := first) (by omega),
    ofNat_eq (b := second) (by omega), ofNat_eq (b := third) (by omega),
      ofNat_eq (b := fourth) (by omega)] at hencoded

/-! ### The bytes of a character -/

/-- The byte strings that encode one character. -/
inductive CharBytes : List UInt8 → Prop where
  /-- A character of ASCII. -/
  | one {first : UInt8} (hfirst : first.toNat < 128) : CharBytes [first]
  /-- Two bytes. -/
  | two {first second : UInt8} (hfirst : 0xc2 ≤ first.toNat ∧ first.toNat ≤ 0xdf)
      (hsecond : IsContinuation second) :
    CharBytes [first, second]
  /-- Three bytes, which two could not encode, and which are not half of a pair. -/
  | three {first second third : UInt8} (hfirst : 0xe0 ≤ first.toNat ∧ first.toNat ≤ 0xef)
      (hsecond : IsContinuation second)
    (hthird : IsContinuation third) (hlong : 0x800 ≤ valueOfThree first second third)
    (hscalar : valueOfThree first second third < 0xd800 ∨
      0xdfff < valueOfThree first second third) :
    CharBytes [first, second, third]
  /-- Four bytes, which three could not encode, and which are not above the last character. -/
  | four {first second third fourth : UInt8} (hfirst : 0xf0 ≤ first.toNat ∧ first.toNat ≤ 0xf4)
    (hsecond : IsContinuation second) (hthird : IsContinuation third)
      (hfourth : IsContinuation fourth)
    (hlong : 0x10000 ≤ valueOfFour first second third fourth)
      (hscalar : valueOfFour first second third fourth < 0x110000) :
    CharBytes [first, second, third, fourth]

theorem toNat_val_valid (char : Char) :
    char.val.toNat < 0xd800 ∨ 0xdfff < char.val.toNat ∧ char.val.toNat < 0x110000 := char.valid

theorem toNat_ofNat_tail (n : ℕ) : (UInt8.ofNat (n % 64 + 128)).toNat = n % 64 + 128 := by
  rw [UInt8.toNat_ofNat']
  omega

theorem isContinuation_tail (n : ℕ) : IsContinuation (UInt8.ofNat (n % 64 + 128)) := by
  rw [IsContinuation, toNat_ofNat_tail]
  omega

theorem valueOfThree_encoded {v : ℕ} (h : v < 2 ^ 16) :
    valueOfThree (UInt8.ofNat (v / 4096 % 16 + 224)) (UInt8.ofNat (v / 64 % 64 + 128))
      (UInt8.ofNat (v % 64 + 128)) = v := by
  have hfirst : (UInt8.ofNat (v / 4096 % 16 + 224)).toNat = v / 4096 + 224 := by
    rw [UInt8.toNat_ofNat']
    omega
  unfold valueOfThree
  rw [hfirst, toNat_ofNat_tail (v / 64), toNat_ofNat_tail v, Nat.add_sub_cancel, Nat.add_sub_cancel,
    Nat.add_sub_cancel]
  omega

theorem valueOfFour_encoded {v : ℕ} (h : v < 2 ^ 21) :
    valueOfFour (UInt8.ofNat (v / 262144 % 8 + 240)) (UInt8.ofNat (v / 4096 % 64 + 128))
      (UInt8.ofNat (v / 64 % 64 + 128))
      (UInt8.ofNat (v % 64 + 128)) = v := by
  have hfirst : (UInt8.ofNat (v / 262144 % 8 + 240)).toNat = v / 262144 + 240 := by
    rw [UInt8.toNat_ofNat']
    omega
  unfold valueOfFour
  rw [hfirst, toNat_ofNat_tail (v / 4096), toNat_ofNat_tail (v / 64), toNat_ofNat_tail v,
    Nat.add_sub_cancel, Nat.add_sub_cancel, Nat.add_sub_cancel, Nat.add_sub_cancel]
  omega

/-- **The encoding of a character is one of these.** -/
theorem charBytes_utf8EncodeChar (char : Char) : CharBytes (String.utf8EncodeChar char) := by
  have hvalid := toNat_val_valid char
  unfold String.utf8EncodeChar
  generalize char.val.toNat = v at hvalid
  dsimp only
  split_ifs with h1 h2 h3
  · exact .one (by rw [UInt8.toNat_ofNat']; omega)
  · refine .two ?_ (isContinuation_tail _)
    rw [UInt8.toNat_ofNat']
    omega
  · have hvalue := valueOfThree_encoded (v := v) (by omega)
    refine .three ?_ (isContinuation_tail _) (isContinuation_tail _) (by rw [hvalue]; omega)
      (by rw [hvalue]; omega)
    rw [UInt8.toNat_ofNat']
    omega
  · have hvalue := valueOfFour_encoded (v := v) (by omega)
    refine .four ?_ (isContinuation_tail _) (isContinuation_tail _) (isContinuation_tail _)
      (by rw [hvalue]; omega)
      (by rw [hvalue]; omega)
    rw [UInt8.toNat_ofNat']
    omega

end Astraea.Base
