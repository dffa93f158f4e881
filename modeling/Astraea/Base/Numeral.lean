import Mathlib.Data.Nat.Digits.Lemmas

/-!
# Numerals

A number is written with the letters of an alphabet, which are its digits in order. The first
letter of a numeral stands for the highest digit, and that is not zero unless it is the only one.
So a number has one numeral, and a numeral writes one number.
-/

namespace Astraea.Base

universe u

/-- The letters of a text stand for these digits. -/
def IsLetters {α : Type u} (alphabet : List α) (digits : List ℕ) (text : List α) : Prop :=
  digits.map (fun digit => alphabet[digit]?) = text.map some

/-- A text is the numeral of a number: its letters stand for the digits, and there is no zero in
front. -/
def CanonicalNumeral {α : Type u} (alphabet text : List α) (value : ℕ) : Prop :=
  ∃ digits : List ℕ, digits ≠ [] ∧ IsLetters alphabet digits text ∧
    (1 < digits.length → digits.head? ≠ some 0) ∧
    Nat.ofDigits alphabet.length digits.reverse = value

section Numeral

variable {α : Type u} {alphabet text text' : List α} {digits : List ℕ} {value : ℕ}

theorem isLetters_nil_iff : IsLetters alphabet digits [] ↔ digits = [] := List.map_eq_nil_iff

theorem isLetters_cons_iff {letter : α} : IsLetters alphabet digits (letter :: text) ↔
    ∃ digit rest, digits = digit :: rest ∧ alphabet[digit]? = some letter ∧
      IsLetters alphabet rest text := by
  rw [IsLetters, List.map_cons, List.map_eq_cons_iff]
  rfl

theorem IsLetters.length_eq (h : IsLetters alphabet digits text) : digits.length = text.length := by
  rw [← List.length_map (fun digit => alphabet[digit]?), h, List.length_map]

theorem IsLetters.lt (h : IsLetters alphabet digits text) :
    ∀ digit ∈ digits, digit < alphabet.length := by
  intro digit hdigit
  have hmem : alphabet[digit]? ∈ text.map some := h ▸ List.mem_map_of_mem hdigit
  obtain ⟨letter, -, hletter⟩ := List.mem_map.mp hmem
  exact (List.getElem?_eq_some_iff.mp hletter.symm).1

/-- The digits without a zero in front are those of the number. -/
theorem reverse_eq_digits (hbase : 1 < alphabet.length)
    (hlt : ∀ digit ∈ digits, digit < alphabet.length) (hhead : digits.head? ≠ some 0) :
    Nat.digits alphabet.length (Nat.ofDigits alphabet.length digits.reverse) = digits.reverse := by
  refine Nat.digits_ofDigits _ hbase _
    (fun digit hdigit => hlt digit (List.mem_reverse.mp hdigit)) ?_
  intro hne hlast
  rw [List.getLast_reverse] at hlast
  have hdigits : digits ≠ [] := fun hnil => hne (List.reverse_eq_nil_iff.mpr hnil)
  exact hhead (by rw [List.head?_eq_some_head hdigits, hlast])

/-- The digits of a numeral: those of the number, or one zero. -/
theorem digits_of_numeral (hbase : 1 < alphabet.length) (hne : digits ≠ [])
    (hlt : ∀ digit ∈ digits, digit < alphabet.length)
    (hlead : 1 < digits.length → digits.head? ≠ some 0)
    (hvalue : Nat.ofDigits alphabet.length digits.reverse = value) :
    digits = if value = 0 then [0] else (Nat.digits alphabet.length value).reverse := by
  by_cases hhead : digits.head? = some 0
  · obtain ⟨rest, rfl⟩ : ∃ rest, digits = 0 :: rest := List.head?_eq_some_iff.mp hhead
    have hrest : rest = [] := by
      by_contra hrest
      exact hlead (by rw [List.length_cons]; have := List.length_pos_of_ne_nil hrest; omega) rfl
    subst hrest
    rw [if_pos (hvalue.symm.trans (by simp))]
  · have hdigits := reverse_eq_digits hbase hlt hhead
    rw [hvalue] at hdigits
    have hzero : value ≠ 0 := by
      rintro rfl
      rw [Nat.digits_zero] at hdigits
      exact hne (List.reverse_eq_nil_iff.mp hdigits.symm)
    rw [if_neg hzero, hdigits, List.reverse_reverse]

/-- **A number has one numeral.** -/
theorem CanonicalNumeral.text_unique (hbase : 1 < alphabet.length)
    (h : CanonicalNumeral alphabet text value) (h' : CanonicalNumeral alphabet text' value) :
    text = text' := by
  obtain ⟨digits, hne, hletters, hlead, hvalue⟩ := h
  obtain ⟨digits', hne', hletters', hlead', hvalue'⟩ := h'
  have hsame : digits = digits' := by
    rw [digits_of_numeral hbase hne hletters.lt hlead hvalue,
      digits_of_numeral hbase hne' hletters'.lt hlead' hvalue']
  rw [hsame, IsLetters, hletters'] at hletters
  exact (List.map_injective_iff.mpr (Option.some_injective α) hletters).symm

theorem CanonicalNumeral.length_le (hbase : 1 < alphabet.length)
    (h : CanonicalNumeral alphabet text value) {count : ℕ} (hcount : 0 < count)
    (hvalue : value < alphabet.length ^ count) : text.length ≤ count := by
  obtain ⟨digits, hne, hletters, hlead, hdigits⟩ := h
  rw [← hletters.length_eq, digits_of_numeral hbase hne hletters.lt hlead hdigits]
  split_ifs
  · exact hcount
  · rw [List.length_reverse]
    exact (Nat.digits_length_le_iff hbase value).mpr hvalue

/-- In an alphabet without repetition, the position of a letter is its digit. -/
theorem idxOf?_eq_some_iff_getElem? [BEq α] [LawfulBEq α] (hnodup : alphabet.Nodup) {letter : α}
    {digit : ℕ} :
    alphabet.idxOf? letter = some digit ↔ alphabet[digit]? = some letter := by
  rw [List.idxOf?_eq_some_iff, List.getElem?_eq_some_iff]
  constructor
  · rintro ⟨hdigit, hletter, -⟩
    exact ⟨hdigit, hletter⟩
  · rintro ⟨hdigit, hletter⟩
    refine ⟨hdigit, hletter, fun other hother hsame => ?_⟩
    exact absurd ((hnodup.getElem_inj_iff).mp (hsame.trans hletter.symm)) (Nat.ne_of_lt hother)

end Numeral

end Astraea.Base
