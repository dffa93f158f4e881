import Astraea.Trace.Canonical

/-!
# The validation of texts

`valid_utf8` goes through a string by its positions. `validUtf8From` is its loop with every read
of a byte made explicit: a read that the string has no byte for gives nothing. It refines
`validUtf8`, which takes the string apart instead, and always has a result, so it never reads past
the end.

`validUtf8_iff` says that the strings it accepts are those that encode some characters.
-/

namespace Astraea.Trace

open Astraea.Base

/-! ### What is accepted -/

section Accepted

variable {first second third fourth : UInt8} {bytes rest : ByteString}

theorem continuation_of_isContinuation {byte : UInt8} (h : IsContinuation byte) :
    continuation byte = true := by
  simp only [continuation, Bool.and_eq_true, decide_eq_true_eq, UInt8.le_iff_toNat_le]
  exact h

theorem between_of_toNat {low high byte : UInt8}
    (h : low.toNat ≤ byte.toNat ∧ byte.toNat ≤ high.toNat) :
    low ≤ byte ∧ byte ≤ high :=
  ⟨UInt8.le_iff_toNat_le.mpr h.1, UInt8.le_iff_toNat_le.mpr h.2⟩

/-- A byte above a limit is not in a range that ends there. -/
theorem not_between {low high byte : UInt8} (h : high.toNat < byte.toNat) :
    ¬ (low ≤ byte ∧ byte ≤ high) :=
  fun hbetween =>
  absurd (UInt8.le_iff_toNat_le.mp hbetween.2) (Nat.not_le.mpr h)

/-- Three bytes that two could not encode, and that are not half of a pair, have a second byte that
may stand there. -/
theorem validSecondOfThree_of_value (hsecond : IsContinuation second)
    (hthird : IsContinuation third)
    (hlong : 0x800 ≤ valueOfThree first second third)
    (hscalar : valueOfThree first second third < 0xd800 ∨
    0xdfff < valueOfThree first second third) :
    validSecondOfThree first second = true := by
  refine validSecondOfThree_iff.mpr ⟨hsecond, fun _ => ?_, fun _ => ?_⟩ <;>
    unfold IsContinuation at hsecond hthird <;> unfold valueOfThree at hlong hscalar <;> omega

/-- Four bytes that three could not encode, and that are not above the last character, have a second
byte that may stand there. -/
theorem validSecondOfFour_of_value (hsecond : IsContinuation second)
    (hthird : IsContinuation third)
    (hfourth : IsContinuation fourth) (hlong : 0x10000 ≤ valueOfFour first second third fourth)
    (hscalar : valueOfFour first second third fourth < 0x110000) :
    validSecondOfFour first second = true := by
  refine validSecondOfFour_iff.mpr ⟨hsecond, fun _ => ?_, fun _ => ?_⟩ <;>
    unfold IsContinuation at hsecond hthird hfourth <;>
    unfold valueOfFour at hlong hscalar <;> omega

theorem validUtf8_append_of_charBytes (h : CharBytes bytes) :
    validUtf8 (bytes ++ rest) = validUtf8 rest := by
  cases h with
  | @one first hfirst =>
    have hascii : first ≤ 0x7f := UInt8.le_iff_toNat_le.mpr (Nat.le_of_lt_succ hfirst)
    rw [List.singleton_append, validUtf8.eq_def]
    dsimp only
    rw [if_pos hascii]
  | @two first second hfirst hsecond =>
    have hascii : ¬ first ≤ 0x7f := by
      rw [UInt8.le_iff_toNat_le]
      exact Nat.not_le.mpr (lt_of_lt_of_le (by decide) hfirst.1)
    have hbetween : 0xc2 ≤ first ∧ first ≤ 0xdf := between_of_toNat hfirst
    rw [List.cons_append, List.singleton_append, validUtf8.eq_def]
    dsimp only
    rw [if_neg hascii, if_pos hbetween, continuation_of_isContinuation hsecond, Bool.true_and]
  | @three first second third hfirst hsecond hthird hlong hscalar =>
    have hascii : ¬ first ≤ 0x7f := by
      rw [UInt8.le_iff_toNat_le]
      exact Nat.not_le.mpr (lt_of_lt_of_le (by decide) hfirst.1)
    have htwo : ¬ (0xc2 ≤ first ∧ first ≤ 0xdf) := not_between (lt_of_lt_of_le (by decide) hfirst.1)
    have hbetween : 0xe0 ≤ first ∧ first ≤ 0xef := between_of_toNat hfirst
    rw [List.cons_append, List.cons_append, List.singleton_append, validUtf8.eq_def]
    dsimp only
    rw [if_neg hascii, if_neg htwo, if_pos hbetween, continuation_of_isContinuation hthird,
      validSecondOfThree_of_value hsecond hthird hlong hscalar, Bool.true_and, Bool.true_and]
  | @four first second third fourth hfirst hsecond hthird hfourth hlong hscalar =>
    have hascii : ¬ first ≤ 0x7f := by
      rw [UInt8.le_iff_toNat_le]
      exact Nat.not_le.mpr (lt_of_lt_of_le (by decide) hfirst.1)
    have htwo : ¬ (0xc2 ≤ first ∧ first ≤ 0xdf) := not_between (lt_of_lt_of_le (by decide) hfirst.1)
    have hthree : ¬ (0xe0 ≤ first ∧ first ≤ 0xef) :=
      not_between (lt_of_lt_of_le (by decide) hfirst.1)
    have hbetween : 0xf0 ≤ first ∧ first ≤ 0xf4 := between_of_toNat hfirst
    rw [List.cons_append, List.cons_append, List.cons_append, List.singleton_append,
      validUtf8.eq_def]
    dsimp only
    rw [if_neg hascii, if_neg htwo, if_neg hthree, if_pos hbetween,
      continuation_of_isContinuation hthird, continuation_of_isContinuation hfourth,
      validSecondOfFour_of_value hsecond hthird hfourth hlong hscalar, Bool.true_and,
      Bool.true_and, Bool.true_and]

/-- **What is UTF-8 is accepted.** -/
theorem validUtf8_of_isUtf8 (h : IsUtf8 bytes) : validUtf8 bytes = true := by
  obtain ⟨chars, rfl⟩ := h
  induction chars with
  | nil => rfl
  | cons char chars ih =>
    rw [List.flatMap_cons, validUtf8_append_of_charBytes (charBytes_utf8EncodeChar char), ih]

/-- **Exactly UTF-8 is accepted.** -/
theorem validUtf8_iff : validUtf8 bytes = true ↔ IsUtf8 bytes :=
  ⟨isUtf8_of_validUtf8, validUtf8_of_isUtf8⟩

end Accepted

/-! ### Reading by positions -/

/-- The loop of `valid_utf8` from a position on, for so many rounds. There is no result where a byte
is read that the string does not have, nor where the rounds do not reach the end. -/
def validUtf8From (value : ByteString) : (rounds index : ℕ) → Option Bool
  | 0, index => if index < value.length then none else some true
  | rounds + 1, index =>
    if index < value.length then do
      let first ← value[index]?
      if first ≤ 0x7f then validUtf8From value rounds (index + 1)
      else if 0xc2 ≤ first ∧ first ≤ 0xdf then
        if index + 1 ≥ value.length then some false
        else do
          let second ← value[index + 1]?
          if continuation second = false then some false else validUtf8From value rounds (index + 2)
      else if 0xe0 ≤ first ∧ first ≤ 0xef then
        if index + 2 ≥ value.length then some false
        else do
          let second ← value[index + 1]?
          let third ← value[index + 2]?
          if continuation third = false then some false
          else if validSecondOfThree first second = false then some false
          else validUtf8From value rounds (index + 3)
      else if 0xf0 ≤ first ∧ first ≤ 0xf4 then
        if index + 3 ≥ value.length then some false
        else do
          let second ← value[index + 1]?
          let third ← value[index + 2]?
          let fourth ← value[index + 3]?
          if continuation third = false ∨ continuation fourth = false then some false
          else if validSecondOfFour first second = false then some false
          else validUtf8From value rounds (index + 4)
      else some false
    else some true

section Read

variable {value rest : ByteString} {index : ℕ}

theorem getElem?_of_drop (h : value.drop index = rest) (k : ℕ) : value[index + k]? = rest[k]? := by
  rw [← h, List.getElem?_drop]

/-- Behind so many bytes of the rest, what is left of it is left of the string. -/
theorem drop_of_drop {first : ByteString} (h : value.drop index = first ++ rest) :
    value.drop (index + first.length) = rest := by
  rw [← List.drop_drop, h, List.drop_left]

theorem length_of_drop (h : value.drop index = rest) (hlt : index < value.length) :
    value.length = index + rest.length := by
  rw [← h, List.length_drop]
  omega

/-- **What the loop finds out** is whether the rest of the string is valid, and it reads no byte
behind the end. -/
theorem validUtf8From_eq {rounds : ℕ} (hrounds : value.length ≤ index + rounds)
    (hrest : value.drop index = rest) :
    validUtf8From value rounds index = some (validUtf8 rest) := by
  induction rounds generalizing index rest with
  | zero =>
    rw [Nat.add_zero] at hrounds
    rw [List.drop_eq_nil_of_le hrounds] at hrest
    subst hrest
    rw [validUtf8From, if_neg (Nat.not_lt.mpr hrounds)]
    rfl
  | succ rounds ih =>
    rw [validUtf8From]
    by_cases hlt : index < value.length
    · have hlength := length_of_drop hrest hlt
      rw [if_pos hlt]
      have hread := getElem?_of_drop hrest
      cases rest with
      | nil => exact absurd hlength (Nat.ne_of_gt (by simpa using hlt))
      | cons first rest =>
        rw [show value[index]? = some first from hread 0, validUtf8.eq_def]
        dsimp only [Option.bind_eq_bind, Option.bind_some]
        rw [List.length_cons] at hlength
        have hnext : ∀ {read after : ByteString}, read ≠ [] → value.drop index = read ++ after →
            validUtf8From value rounds (index + read.length) = some (validUtf8 after) := by
          intro read after hne hread
          have hpos := List.length_pos_iff.mpr hne
          exact ih (by omega) (drop_of_drop hread)
        by_cases hascii : first ≤ 0x7f
        · rw [if_pos hascii, if_pos hascii]
          exact @hnext [first] rest (List.cons_ne_nil _ _) hrest
        rw [if_neg hascii, if_neg hascii]
        by_cases htwo : 0xc2 ≤ first ∧ first ≤ 0xdf
        · rw [if_pos htwo, if_pos htwo]
          cases rest with
          | nil =>
            rw [List.length_nil] at hlength
            rw [if_pos (by omega)]
          | cons second rest =>
            rw [List.length_cons] at hlength
            rw [if_neg (by omega), show value[index + 1]? = some second from hread 1,
              Option.bind_some]
            dsimp only
            cases continuation second with
            | false => rfl
            | true => exact @hnext [first, second] rest (List.cons_ne_nil _ _) hrest
        rw [if_neg htwo, if_neg htwo]
        by_cases hthree : 0xe0 ≤ first ∧ first ≤ 0xef
        · rw [if_pos hthree, if_pos hthree]
          by_cases hend : index + 2 ≥ value.length
          · rw [if_pos hend]
            rcases rest with _ | ⟨second, _ | ⟨third, rest⟩⟩
            · rfl
            · rfl
            · simp only [List.length_cons] at hlength
              omega
          · rw [if_neg hend]
            obtain ⟨second, rest, rfl⟩ :=
              List.exists_cons_of_length_pos (show 0 < rest.length by omega)
            rw [List.length_cons] at hlength
            obtain ⟨third, rest, rfl⟩ :=
              List.exists_cons_of_length_pos (show 0 < rest.length by omega)
            rw [show value[index + 1]? = some second from hread 1,
              show value[index + 2]? = some third from hread 2, Option.bind_some, Option.bind_some]
            dsimp only
            cases continuation third with
            | false => rfl
            | true =>
              cases validSecondOfThree first second with
              | false => rfl
              | true => exact @hnext [first, second, third] rest (List.cons_ne_nil _ _) hrest
        rw [if_neg hthree, if_neg hthree]
        by_cases hfour : 0xf0 ≤ first ∧ first ≤ 0xf4
        · rw [if_pos hfour, if_pos hfour]
          by_cases hend : index + 3 ≥ value.length
          · rw [if_pos hend]
            rcases rest with _ | ⟨second, _ | ⟨third, _ | ⟨fourth, rest⟩⟩⟩
            · rfl
            · rfl
            · rfl
            · simp only [List.length_cons] at hlength
              omega
          · rw [if_neg hend]
            obtain ⟨second, rest, rfl⟩ :=
              List.exists_cons_of_length_pos (show 0 < rest.length by omega)
            rw [List.length_cons] at hlength
            obtain ⟨third, rest, rfl⟩ :=
              List.exists_cons_of_length_pos (show 0 < rest.length by omega)
            rw [List.length_cons] at hlength
            obtain ⟨fourth, rest, rfl⟩ :=
              List.exists_cons_of_length_pos (show 0 < rest.length by omega)
            rw [show value[index + 1]? = some second from hread 1,
              show value[index + 2]? = some third from hread 2, show value[index + 3]? = some fourth
              from hread 3, Option.bind_some, Option.bind_some, Option.bind_some]
            dsimp only
            cases continuation third with
            | false => rfl
            | true =>
              cases continuation fourth with
              | false => rfl
              | true =>
                cases validSecondOfFour first second with
                | false => rfl
                | true => exact @hnext [first, second, third,
                    fourth] rest (List.cons_ne_nil _ _) hrest
        · rw [if_neg hfour, if_neg hfour]
    · rw [List.drop_eq_nil_of_le (Nat.not_lt.mp hlt)] at hrest
      subst hrest
      rw [if_neg hlt]
      rfl

end Read

/-- **The validation of a text is exact.** The loop of `valid_utf8` has a result for every string,
so that it reads no byte behind the end, and the result is whether the string encodes some
characters. -/
theorem validUtf8From_exact (value : ByteString) :
    ∃ accepted, validUtf8From value value.length 0 = some accepted ∧
      (accepted = true ↔ ∃ chars : List Char, value = chars.flatMap String.utf8EncodeChar) :=
  ⟨validUtf8 value, validUtf8From_eq (by omega) List.drop_zero, validUtf8_iff⟩

end Astraea.Trace
