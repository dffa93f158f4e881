import Astraea.Base.Decimal
import Astraea.Base.Hex
import Astraea.Base.Utf8

/-!
# JSON

A parser for JSON texts as RFC 8259 has them, on bytes: white space, the three literals,
numbers with fraction and exponent, strings with all escapes, arrays and objects. A string
is the UTF-8 of its characters.

`render` writes a value without white space. `parse_render` says that the parser reads back
what was written, whatever the value.
-/

namespace Astraea.Base

/-- A JSON value. A number is `mantissa * 10 ^ exponent`. -/
inductive Json where
  | null
  | bool (value : Bool)
  | number (mantissa exponent : ℤ)
  | string (text : List UInt8)
  | array (items : List Json)
  | object (members : List (List UInt8 × Json))

namespace Json

/-! ### Strings -/

/-- A byte of a string as it is written. -/
def escapeByte (byte : UInt8) : List UInt8 :=
  if byte = 34 then [92, 34]
  else if byte = 92 then [92, 92]
  else if byte < 0x20 then [92, 117, 48, 48] ++ hexDigits 2 byte.toNat
  else [byte]

/-- A string with its quotes. -/
def renderString (text : List UInt8) : List UInt8 := 34 :: (text.flatMap escapeByte ++ [34])

/-- Four hexadecimal digits. -/
def readHex4 (bytes : List UInt8) : Option (ℕ × List UInt8) :=
  if bytes.length < 4 then none else (readHex 0 (bytes.take 4)).map fun unit => (unit, bytes.drop 4)

/-- The second half of a character outside the basic plane. -/
def readLowSurrogate (high : ℕ) (bytes : List UInt8) : Option (List UInt8 × List UInt8) :=
  if bytes.take 2 = [92, 117] then
    (readHex4 (bytes.drop 2)).bind fun result =>
      if 0xdc00 ≤ result.1 ∧ result.1 ≤ 0xdfff then
        some (String.utf8EncodeChar
          (Char.ofNat (0x10000 + (high - 0xd800) * 0x400 + (result.1 - 0xdc00))), result.2)
      else none
  else none

/-- What is behind `\u`. -/
def readUnicodeEscape (bytes : List UInt8) : Option (List UInt8 × List UInt8) :=
  (readHex4 bytes).bind fun result =>
    if 0xd800 ≤ result.1 ∧ result.1 ≤ 0xdbff then readLowSurrogate result.1 result.2
    else if 0xdc00 ≤ result.1 ∧ result.1 ≤ 0xdfff then none
    else some (String.utf8EncodeChar (Char.ofNat result.1), result.2)

/-- What is behind `\`. -/
def readEscape : List UInt8 → Option (List UInt8 × List UInt8)
  | [] => none
  | byte :: rest =>
    if byte = 34 ∨ byte = 92 ∨ byte = 47 then some ([byte], rest)
    else if byte = 98 then some ([8], rest)
    else if byte = 102 then some ([12], rest)
    else if byte = 110 then some ([10], rest)
    else if byte = 114 then some ([13], rest)
    else if byte = 116 then some ([9], rest)
    else if byte = 117 then readUnicodeEscape rest
    else none

/-- What is behind the opening quote, up to the closing one. -/
def parseString : (fuel : ℕ) → List UInt8 → Option (List UInt8 × List UInt8)
  | 0, _ | _, [] => none
  | fuel + 1, byte :: rest =>
    if byte = 34 then some ([], rest)
    else if byte = 92 then
      (readEscape rest).bind fun result => (parseString fuel result.2).map fun more =>
        (result.1 ++ more.1, more.2)
    else if byte < 0x20 then none
    else (parseString fuel rest).map fun more => (byte :: more.1, more.2)

/-! ### Numbers -/

/-- The digits are the bytes from 48 to 57. -/
def isDigit (byte : UInt8) : Bool := decide (48 ≤ byte.toNat) && decide (byte.toNat ≤ 57)

/-- The digits before the point: no leading zero. -/
def parseInteger (bytes : List UInt8) : Option (ℕ × List UInt8) :=
  let digits := bytes.takeWhile isDigit
  if digits = [] ∨ digits.head? = some 48 ∧ digits ≠ [48] then none
  else some (decimalValue 0 digits, bytes.dropWhile isDigit)

/-- The fraction, where there is one: the mantissa with its digits, and how many they are. -/
def parseFraction (mantissa : ℕ) : List UInt8 → Option (ℕ × ℕ × List UInt8)
  | [] => some (mantissa, 0, [])
  | byte :: rest =>
    if byte = 46 then
      let digits := rest.takeWhile isDigit
      if digits = [] then none
        else some (decimalValue mantissa digits, digits.length, rest.dropWhile isDigit)
    else some (mantissa, 0, byte :: rest)

/-- Digits of an exponent. -/
def parseExponentDigits (bytes : List UInt8) : Option (ℕ × List UInt8) :=
  let digits := bytes.takeWhile isDigit
  if digits = [] then none else some (decimalValue 0 digits, bytes.dropWhile isDigit)

/-- An exponent behind its `e`. -/
def parseSignedExponent : List UInt8 → Option (ℤ × List UInt8)
  | [] => none
  | byte :: rest =>
    if byte = 45 then (parseExponentDigits rest).map fun result => (-(result.1 : ℤ), result.2)
    else if byte = 43 then (parseExponentDigits rest).map fun result => ((result.1 : ℤ), result.2)
    else (parseExponentDigits (byte :: rest)).map fun result => ((result.1 : ℤ), result.2)

/-- The exponent, where there is one. -/
def parseExponent : List UInt8 → Option (ℤ × List UInt8)
  | [] => some (0, [])
  | byte :: rest => if byte = 101 ∨ byte = 69 then parseSignedExponent rest else some (0,
      byte :: rest)

/-- A number behind its sign. -/
def parseUnsigned (bytes : List UInt8) : Option (ℕ × ℤ × List UInt8) :=
  (parseInteger bytes).bind fun integer =>
    (parseFraction integer.1 integer.2).bind fun fraction =>
      (parseExponent fraction.2.2).map fun exponent =>
        (fraction.1, exponent.1 - fraction.2.1, exponent.2)

/-- A number, with or without a minus sign. -/
def parseNumber : List UInt8 → Option (Json × List UInt8)
  | [] => none
  | byte :: rest =>
    if byte = 45 then (parseUnsigned rest).map fun result =>
      (.number (-(result.1 : ℤ)) result.2.1, result.2.2)
    else (parseUnsigned (byte :: rest)).map fun result => (.number result.1 result.2.1, result.2.2)

/-- The exponent of a number that is printed. -/
def renderExponent (exponent : ℤ) : List UInt8 :=
  if exponent = 0 then [] else 101 :: signedDecimal exponent

/-! ### Values -/

/-- The letters of `true`. -/
def trueText : List UInt8 := [116, 114, 117, 101]

/-- The letters of `false`. -/
def falseText : List UInt8 := [102, 97, 108, 115, 101]

/-- The letters of `null`. -/
def nullText : List UInt8 := [110, 117, 108, 108]

/-- The bytes between tokens: blank, tab, line feed and carriage return. -/
def isWhitespace (byte : UInt8) : Bool :=
  byte == 0x20 || byte == 0x09 || byte == 0x0a || byte == 0x0d

/-- What follows the white space. -/
def skipWhitespace (bytes : List UInt8) : List UInt8 := bytes.dropWhile isWhitespace

/-- A key and the colon behind it. -/
def parseKey : List UInt8 → Option (List UInt8 × List UInt8)
  | [] => none
  | byte :: rest =>
    if byte = 34 then
      (parseString (rest.length + 1) rest).bind fun key =>
        if (skipWhitespace key.2).head? = some 58 then some (key.1, (skipWhitespace key.2).tail)
          else none
    else none

mutual

/-- A value, and what is behind it. -/
def parseValue : (fuel : ℕ) → List UInt8 → Option (Json × List UInt8)
  | 0, _ => none
  | fuel + 1, bytes =>
    match skipWhitespace bytes with
    | [] => none
    | byte :: rest =>
      if byte = 34 then (parseString (rest.length + 1) rest).map fun result =>
        (.string result.1, result.2)
      else if byte = 91 then
        if (skipWhitespace rest).head? = some 93 then some (.array [], (skipWhitespace rest).tail)
        else (parseItems fuel rest).map fun result => (.array result.1, result.2)
      else if byte = 123 then
        if (skipWhitespace rest).head? = some 125 then some (.object [], (skipWhitespace rest).tail)
        else (parseMembers fuel rest).map fun result => (.object result.1, result.2)
      else if trueText.isPrefixOf (byte :: rest) then some (.bool true, (byte :: rest).drop 4)
      else if falseText.isPrefixOf (byte :: rest) then some (.bool false, (byte :: rest).drop 5)
      else if nullText.isPrefixOf (byte :: rest) then some (.null, (byte :: rest).drop 4)
      else parseNumber (byte :: rest)

/-- The items of an array, up to its closing bracket. -/
def parseItems : (fuel : ℕ) → List UInt8 → Option (List Json × List UInt8)
  | 0, _ => none
  | fuel + 1, bytes =>
    (parseValue fuel bytes).bind fun item =>
      match skipWhitespace item.2 with
      | [] => none
      | byte :: rest =>
        if byte = 44 then (parseItems fuel rest).map fun more => (item.1 :: more.1, more.2)
        else if byte = 93 then some ([item.1], rest)
        else none

/-- The members of an object, up to its closing brace. -/
def parseMembers : (fuel : ℕ) → List UInt8 → Option (List (List UInt8 × Json) × List UInt8)
  | 0, _ => none
  | fuel + 1, bytes =>
    (parseKey (skipWhitespace bytes)).bind fun key =>
      (parseValue fuel key.2).bind fun value =>
        match skipWhitespace value.2 with
        | [] => none
        | byte :: rest =>
          if byte = 44 then (parseMembers fuel rest).map fun more =>
            ((key.1, value.1) :: more.1, more.2)
          else if byte = 125 then some ([(key.1, value.1)], rest)
          else none

end

/-- A JSON text: a value, and white space around it. -/
def parse (bytes : List UInt8) : Option Json :=
  (parseValue (bytes.length + 1) bytes).bind fun result => if skipWhitespace result.2 = [] then
    some result.1 else none

mutual

/-- A value without white space. -/
def render : Json → List UInt8
  | .null => nullText
  | .bool value => if value = true then trueText else falseText
  | .number mantissa exponent => signedDecimal mantissa ++ renderExponent exponent
  | .string text => renderString text
  | .array items => 91 :: (renderItems items ++ [93])
  | .object members => 123 :: (renderMembers members ++ [125])

/-- Items with commas between them. -/
def renderItems : List Json → List UInt8
  | [] => []
  | [item] => render item
  | item :: next :: items => render item ++ 44 :: renderItems (next :: items)

/-- Members with commas between them. -/
def renderMembers : List (List UInt8 × Json) → List UInt8
  | [] => []
  | [(key, value)] => renderString key ++ 58 :: render value
  | (key, value) :: next :: members =>
    renderString key ++ 58 :: render value ++ 44 :: renderMembers (next :: members)

end

/-! ### Induction -/

/-- Induction where the items of an array and the members of an object are of the motive. -/
theorem induction {motive : Json → Prop} (null : motive .null)
    (bool : ∀ value, motive (.bool value))
    (number : ∀ mantissa exponent, motive (.number mantissa exponent))
    (string : ∀ text, motive (.string text))
    (array : ∀ items, (∀ item ∈ items, motive item) → motive (.array items))
    (object : ∀ members, (∀ member ∈ members, motive member.2) → motive (.object members))
    (json : Json) : motive json :=
  @Json.rec motive (fun items => ∀ item ∈ items, motive item)
    (fun members => ∀ member ∈ members, motive member.2)
    (fun member => motive member.2) null bool number string array object (by simp)
    (fun _ _ hitem hitems => List.forall_mem_cons.mpr ⟨hitem, hitems⟩) (by simp)
    (fun _ _ hmember hmembers => List.forall_mem_cons.mpr ⟨hmember, hmembers⟩)
      (fun _ _ hvalue => hvalue) json

/-! ### Strings read back -/

theorem readHex4_append {bytes : List UInt8} (h : bytes.length = 4) (rest : List UInt8) :
    readHex4 (bytes ++ rest) = (readHex 0 bytes).map fun unit => (unit, rest) := by
  rw [readHex4, if_neg (by simp [h]), List.take_append_of_le_length h.ge,
    List.drop_append_of_le_length h.ge, List.take_of_length_le h.le, List.drop_of_length_le h.le,
    List.nil_append]

theorem readUnicodeEscape_control {byte : UInt8} (h : byte.toNat < 128) (rest : List UInt8) :
    readUnicodeEscape ([48, 48] ++ hexDigits 2 byte.toNat ++ rest) = some ([byte], rest) := by
  have hread : readHex 0 ([48, 48] ++ hexDigits 2 byte.toNat) = some byte.toNat := by
    rw [readHex_append]
    show (readHex 0 (hexDigits 2 byte.toNat)) = _
    rw [readHex_hexDigits 2 byte.toNat 0 byte.toNat_lt, Nat.mul_zero, Nat.zero_add]
  rw [readUnicodeEscape, readHex4_append (by simp), hread]
  simp only [Option.map_some, Option.bind_some]
  rw [if_neg (by omega), if_neg (by omega), utf8EncodeChar_ascii h, UInt8.ofNat_toNat]

theorem parseString_escapeByte (fuel : ℕ) (byte : UInt8) (bytes : List UInt8) :
    parseString (fuel + 1) (escapeByte byte ++ bytes) = (parseString fuel bytes).map fun more =>
      (byte :: more.1, more.2) := by
  unfold escapeByte
  split_ifs with hquote hbackslash hcontrol
  · subst hquote
    simp [parseString, readEscape]
  · subst hbackslash
    simp [parseString, readEscape]
  · have hlt : byte.toNat < 32 := UInt8.lt_iff_toNat_lt.mp hcontrol
    have hread := readUnicodeEscape_control (show byte.toNat < 128 by omega) bytes
    simp only [List.cons_append, List.nil_append] at hread ⊢
    rw [parseString, if_neg (by decide), if_pos rfl, readEscape]
    simp only [show ¬((117 : UInt8) = 34 ∨ (117 : UInt8) = 92 ∨ (117 : UInt8) = 47) by decide,
      if_false,
      show (117 : UInt8) ≠ 98 by
        decide, show (117 : UInt8) ≠ 102 by decide, show (117 : UInt8) ≠ 110 by decide,
      show (117 : UInt8) ≠ 114 by decide, show (117 : UInt8) ≠ 116 by decide, if_true]
    rw [hread]
    rfl
  · rw [List.singleton_append, parseString, if_neg hquote, if_neg hbackslash, if_neg hcontrol]

theorem parseString_escaped (text rest : List UInt8) {fuel : ℕ} (hfuel : text.length < fuel) :
    parseString fuel (text.flatMap escapeByte ++ 34 :: rest) = some (text, rest) := by
  induction text generalizing fuel with
  | nil =>
    obtain ⟨fuel, rfl⟩ := Nat.exists_eq_add_of_lt hfuel
    simp [parseString]
  | cons byte text ih =>
    cases fuel with
    | zero => exact absurd hfuel (Nat.not_lt_zero _)
    | succ fuel =>
      rw [List.flatMap_cons, List.append_assoc, parseString_escapeByte, ih (by simpa using hfuel)]
      rfl

theorem length_le_escaped (text : List UInt8) : text.length ≤ (text.flatMap escapeByte).length := by
  induction text with
  | nil => exact le_rfl
  | cons byte text ih =>
    have hbyte : 1 ≤ (escapeByte byte).length := by
      unfold escapeByte
      split_ifs <;> simp
    rw [List.flatMap_cons, List.length_append, List.length_cons]
    omega

/-- A string that was written is read back, behind its opening quote. -/
theorem parseString_render (text rest : List UInt8) :
    parseString ((text.flatMap escapeByte ++ 34 :: rest).length + 1)
      (text.flatMap escapeByte ++ 34 :: rest) = some (text, rest) := by
  refine parseString_escaped text rest ?_
  have := length_le_escaped text
  rw [List.length_append]
  omega

/-! ### Numbers read back -/

/-- What may stand behind a number. -/
def EndsNumber (rest : List UInt8) : Prop :=
  ∀ byte, rest.head? = some byte → isDigit byte = false ∧ byte ≠ 46 ∧ byte ≠ 101 ∧ byte ≠ 69

theorem endsNumber_nil : EndsNumber [] := by
  intro byte h
  cases h

theorem endsNumber_cons {byte : UInt8} {rest : List UInt8} (hdigit : isDigit byte = false)
    (hpoint : byte ≠ 46) (hexponent : byte ≠ 101 ∧ byte ≠ 69) : EndsNumber (byte :: rest) := by
  rintro byte' h
  cases h
  exact ⟨hdigit, hpoint, hexponent⟩

theorem isDigit_of_isDigitByte {byte : UInt8} (h : IsDigitByte byte) : isDigit byte = true := by
  simp only [isDigit, Bool.and_eq_true, decide_eq_true_eq]
  exact h

theorem takeWhile_digits {digits rest : List UInt8} (hdigits : ∀ byte ∈ digits, isDigit byte = true)
    (hrest : ∀ byte, rest.head? = some byte → isDigit byte = false) :
    (digits ++ rest).takeWhile isDigit = digits ∧ (digits ++ rest).dropWhile isDigit = rest := by
  induction digits with
  | nil =>
    cases rest with
    | nil => exact ⟨rfl, rfl⟩
    | cons byte rest =>
      have hbyte : ¬ isDigit byte = true := by simp [hrest byte rfl]
      exact ⟨List.takeWhile_cons_of_neg hbyte, List.dropWhile_cons_of_neg hbyte⟩
  | cons digit digits ih =>
    rw [List.forall_mem_cons] at hdigits
    obtain ⟨htake, hdrop⟩ := ih hdigits.2
    rw [List.cons_append, List.takeWhile_cons_of_pos hdigits.1,
      List.dropWhile_cons_of_pos hdigits.1, htake, hdrop]
    exact ⟨rfl, rfl⟩

theorem isDigit_decimal (n : ℕ) : ∀ byte ∈ decimal n, isDigit byte = true :=
  fun _ hbyte => isDigit_of_isDigitByte (isDigitByte_of_mem_decimal hbyte)

theorem parseInteger_decimal (n : ℕ) {rest : List UInt8}
    (hrest : ∀ byte, rest.head? = some byte → isDigit byte = false) :
    parseInteger (decimal n ++ rest) = some (n, rest) := by
  obtain ⟨htake, hdrop⟩ := takeWhile_digits (isDigit_decimal n) hrest
  simp only [parseInteger, htake, hdrop, decimalValue_decimal]
  rw [if_neg]
  rintro (hnil | ⟨hhead, hne⟩)
  · exact decimal_ne_nil n hnil
  · exact hne (decimal_of_head? hhead)

theorem parseExponentDigits_decimal (n : ℕ) {rest : List UInt8}
    (hrest : ∀ byte, rest.head? = some byte → isDigit byte = false) :
    parseExponentDigits (decimal n ++ rest) = some (n, rest) := by
  obtain ⟨htake, hdrop⟩ := takeWhile_digits (isDigit_decimal n) hrest
  simp only [parseExponentDigits, htake, hdrop, decimalValue_decimal]
  rw [if_neg (decimal_ne_nil n)]

theorem exists_decimal_eq_cons (n : ℕ) :
    ∃ byte digits, decimal n = byte :: digits ∧ isDigit byte = true := by
  cases h : decimal n with
  | nil => exact absurd h (decimal_ne_nil n)
  | cons byte digits => exact ⟨byte, digits, rfl, isDigit_decimal n byte (h ▸ List.mem_cons_self)⟩

theorem parseSignedExponent_render (exponent : ℤ) {rest : List UInt8} (hrest : EndsNumber rest) :
    parseSignedExponent (signedDecimal exponent ++ rest) = some (exponent, rest) := by
  have hdigits := parseExponentDigits_decimal exponent.natAbs fun byte h => (hrest byte h).1
  unfold signedDecimal
  split_ifs with hnegative
  · rw [List.cons_append, parseSignedExponent, if_pos rfl, hdigits, Option.map_some]
    congr 2
    omega
  · obtain ⟨byte, digits, hdecimal, hbyte⟩ := exists_decimal_eq_cons exponent.natAbs
    rw [hdecimal] at hdigits ⊢
    have hminus : byte ≠ 45 := by
      rintro rfl
      cases hbyte
    have hplus : byte ≠ 43 := by
      rintro rfl
      cases hbyte
    rw [List.cons_append] at hdigits ⊢
    rw [parseSignedExponent, if_neg hminus, if_neg hplus, hdigits, Option.map_some]
    congr 2
    omega

theorem parseExponent_render (exponent : ℤ) {rest : List UInt8} (hrest : EndsNumber rest) :
    parseExponent (renderExponent exponent ++ rest) = some (exponent, rest) := by
  unfold renderExponent
  split_ifs with hzero
  · subst hzero
    cases rest with
    | nil => rfl
    | cons byte rest =>
      obtain ⟨-, -, hsmall, hlarge⟩ := hrest byte rfl
      rw [List.nil_append, parseExponent, if_neg (by simp [hsmall, hlarge])]
  · rw [List.cons_append, parseExponent, if_pos (by simp)]
    exact parseSignedExponent_render exponent hrest

theorem parseUnsigned_render (n : ℕ) (exponent : ℤ) {rest : List UInt8} (hrest : EndsNumber rest) :
    parseUnsigned (decimal n ++ (renderExponent exponent ++ rest)) = some (n, exponent, rest) := by
  have hhead : ∀ byte, (renderExponent exponent ++ rest).head? = some byte → isDigit byte = false ∧
      byte ≠ 46 := by
    intro byte hbyte
    unfold renderExponent at hbyte
    split_ifs at hbyte
    · exact ⟨(hrest byte hbyte).1, (hrest byte hbyte).2.1⟩
    · cases hbyte
      decide
  have hfraction : parseFraction n (renderExponent exponent ++ rest) =
      some (n, 0, renderExponent exponent ++ rest) := by
    cases h : renderExponent exponent ++ rest with
    | nil => rfl
    | cons byte tail =>
      rw [h] at hhead
      rw [parseFraction, if_neg (hhead byte rfl).2]
  rw [parseUnsigned, parseInteger_decimal n fun byte h => (hhead byte h).1, Option.bind_some,
    hfraction, Option.bind_some, parseExponent_render exponent hrest, Option.map_some]
  simp

/-- **A number that was written is read back.** -/
theorem parseNumber_render (mantissa exponent : ℤ) {rest : List UInt8} (hrest : EndsNumber rest) :
    parseNumber (signedDecimal mantissa ++ (renderExponent exponent ++ rest)) =
      some (.number mantissa exponent, rest) := by
  have hunsigned := parseUnsigned_render mantissa.natAbs exponent hrest
  unfold signedDecimal
  split_ifs with hnegative
  · rw [List.cons_append, parseNumber, if_pos rfl, hunsigned, Option.map_some]
    have hvalue : -(mantissa.natAbs : ℤ) = mantissa := by omega
    simp only [hvalue]
  · obtain ⟨byte, digits, hdecimal, hbyte⟩ := exists_decimal_eq_cons mantissa.natAbs
    rw [hdecimal, List.cons_append] at hunsigned ⊢
    have hminus : byte ≠ 45 := by
      rintro rfl
      cases hbyte
    rw [parseNumber, if_neg hminus, hunsigned, Option.map_some]
    have hvalue : (mantissa.natAbs : ℤ) = mantissa := by omega
    simp only [hvalue]

/-! ### Values read back -/

theorem skipWhitespace_cons {byte : UInt8} (h : isWhitespace byte = false) (rest : List UInt8) :
    skipWhitespace (byte :: rest) = byte :: rest := List.dropWhile_cons_of_neg (by simp [h])

theorem parseValue_cons {fuel : ℕ} {byte : UInt8} (h : isWhitespace byte = false)
    (rest : List UInt8) :
    parseValue (fuel + 1) (byte :: rest) =
      if byte = 34 then (parseString (rest.length + 1) rest).map fun result =>
        (.string result.1, result.2)
      else if byte = 91 then
        if (skipWhitespace rest).head? = some 93 then some (.array [], (skipWhitespace rest).tail)
        else (parseItems fuel rest).map fun result => (.array result.1, result.2)
      else if byte = 123 then
        if (skipWhitespace rest).head? = some 125 then some (.object [], (skipWhitespace rest).tail)
        else (parseMembers fuel rest).map fun result => (.object result.1, result.2)
      else if trueText.isPrefixOf (byte :: rest) then some (.bool true, (byte :: rest).drop 4)
      else if falseText.isPrefixOf (byte :: rest) then some (.bool false, (byte :: rest).drop 5)
      else if nullText.isPrefixOf (byte :: rest) then some (.null, (byte :: rest).drop 4)
      else parseNumber (byte :: rest) := by
  rw [parseValue, skipWhitespace_cons h]

theorem exists_signedDecimal_eq_cons (n : ℤ) :
    ∃ byte digits, signedDecimal n = byte :: digits ∧ (byte = 45 ∨ isDigit byte = true) := by
  unfold signedDecimal
  split_ifs
  · exact ⟨45, _, rfl, .inl rfl⟩
  · obtain ⟨byte, digits, h, hbyte⟩ := exists_decimal_eq_cons n.natAbs
    exact ⟨byte, digits, h, .inr hbyte⟩

/-- Bytes that start a value, and no white space, closing bracket or closing brace. -/
def StartsValue (byte : UInt8) : Prop := isWhitespace byte = false ∧ byte ≠ 93 ∧ byte ≠ 125

theorem startsValue_of_number {byte : UInt8} (h : byte = 45 ∨ isDigit byte = true) :
    StartsValue byte ∧ byte ≠ 34 ∧ byte ≠ 91 ∧ byte ≠ 123 ∧ byte ≠ 116 ∧ byte ≠ 102 ∧
    byte ≠ 110 := by
  rcases h with rfl | hdigit
  · unfold StartsValue
    decide
  · simp only [isDigit, Bool.and_eq_true, decide_eq_true_eq] at hdigit
    have hne : ∀ other : UInt8, other.toNat < 48 ∨ 57 < other.toNat → byte ≠ other := by
      rintro other hother rfl
      omega
    refine ⟨⟨?_, hne _ (by decide), hne _ (by decide)⟩, hne _ (by decide), hne _ (by decide),
      hne _ (by decide), hne _ (by decide), hne _ (by decide), hne _ (by decide)⟩
    simp [isWhitespace, hne 0x20 (by decide), hne 0x09 (by decide), hne 0x0a (by decide),
      hne 0x0d (by decide)]

theorem exists_render_eq_cons (json : Json) :
    ∃ byte rest, render json = byte :: rest ∧ StartsValue byte := by
  cases json with
  | null => exact ⟨_, _, rfl, by decide, by decide, by decide⟩
  | bool value => cases value <;> exact ⟨_, _, rfl, by decide, by decide, by decide⟩
  | number mantissa exponent =>
    obtain ⟨byte, digits, h, hbyte⟩ := exists_signedDecimal_eq_cons mantissa
    refine ⟨byte, digits ++ renderExponent exponent, ?_, (startsValue_of_number hbyte).1⟩
    rw [render, h, List.cons_append]
  | string text => exact ⟨_, _, rfl, by decide, by decide, by decide⟩
  | array items =>
    refine ⟨91, renderItems items ++ [93], ?_, by decide, by decide, by decide⟩
    rw [render]
  | object members =>
    refine ⟨123, renderMembers members ++ [125], ?_, by decide, by decide, by decide⟩
    rw [render]

theorem length_render_pos (json : Json) : 0 < (render json).length := by
  obtain ⟨byte, rest, h, -⟩ := exists_render_eq_cons json
  simp [h]

/-- A value that was written is read back, whatever stands behind it. -/
def ReadsBack (json : Json) : Prop :=
  ∀ (fuel : ℕ) (rest : List UInt8), (render json).length ≤ fuel → EndsNumber rest →
    parseValue fuel (render json ++ rest) = some (json, rest)

theorem endsNumber_comma (rest : List UInt8) : EndsNumber (44 :: rest) :=
  endsNumber_cons (by decide) (by decide) (by decide)

theorem endsNumber_bracket (rest : List UInt8) : EndsNumber (93 :: rest) :=
  endsNumber_cons (by decide) (by decide) (by decide)

theorem endsNumber_brace (rest : List UInt8) : EndsNumber (125 :: rest) :=
  endsNumber_cons (by decide) (by decide) (by decide)

theorem parseItems_render {items : List Json} (hne : items ≠ [])
    (hitems : ∀ item ∈ items, ReadsBack item) {fuel : ℕ} (hfuel : (renderItems items).length < fuel)
    (rest : List UInt8) :
    parseItems fuel (renderItems items ++ 93 :: rest) = some (items, rest) := by
  induction items generalizing fuel with
  | nil => exact absurd rfl hne
  | cons item items ih =>
    rw [List.forall_mem_cons] at hitems
    cases fuel with
    | zero => exact absurd hfuel (Nat.not_lt_zero _)
    | succ fuel =>
      cases items with
      | nil =>
        rw [renderItems] at hfuel ⊢
        rw [parseItems, hitems.1 fuel _ (by omega) (endsNumber_bracket rest), Option.bind_some]
        simp only [skipWhitespace_cons (show isWhitespace 93 = false by decide)]
        rfl
      | cons next items =>
        rw [renderItems, List.length_append, List.length_cons] at hfuel
        have hpos := length_render_pos item
        rw [renderItems, List.append_assoc, List.cons_append, parseItems,
          hitems.1 fuel _ (by omega) (endsNumber_comma _), Option.bind_some]
        simp only [skipWhitespace_cons (show isWhitespace 44 = false by decide)]
        rw [if_pos trivial, ih (by simp) hitems.2 (by omega)]
        rfl

theorem parseKey_render (key rest : List UInt8) :
    parseKey (renderString key ++ 58 :: rest) = some (key, rest) := by
  have hkey := parseString_render key (58 :: rest)
  rw [renderString, List.cons_append, List.append_assoc, List.singleton_append, parseKey,
    if_pos rfl, hkey, Option.bind_some]
  simp only [skipWhitespace_cons (show isWhitespace 58 = false by decide)]
  rfl

theorem parseMembers_render {members : List (List UInt8 × Json)} (hne : members ≠ [])
    (hmembers : ∀ member ∈ members, ReadsBack member.2) {fuel : ℕ}
    (hfuel : (renderMembers members).length < fuel) (rest : List UInt8) :
    parseMembers fuel (renderMembers members ++ 125 :: rest) = some (members, rest) := by
  have hstring : ∀ text tail, skipWhitespace (renderString text ++ tail) =
      renderString text ++ tail :=
    fun text tail => skipWhitespace_cons (by decide) _
  induction members generalizing fuel with
  | nil => exact absurd rfl hne
  | cons member members ih =>
    obtain ⟨key, value⟩ := member
    rw [List.forall_mem_cons] at hmembers
    have hvalue : ReadsBack value := hmembers.1
    cases fuel with
    | zero => exact absurd hfuel (Nat.not_lt_zero _)
    | succ fuel =>
      cases members with
      | nil =>
        rw [renderMembers, List.length_append, List.length_cons] at hfuel
        rw [renderMembers, List.append_assoc, List.cons_append, parseMembers, hstring,
          parseKey_render, Option.bind_some, hvalue fuel _ (by omega) (endsNumber_brace rest),
          Option.bind_some]
        simp only [skipWhitespace_cons (show isWhitespace 125 = false by decide)]
        rfl
      | cons next members =>
        rw [renderMembers] at hfuel ⊢
        simp only [List.length_append, List.length_cons] at hfuel
        have hpos := length_render_pos value
        rw [List.append_assoc, List.append_assoc, List.cons_append, parseMembers, hstring,
          parseKey_render, Option.bind_some, List.cons_append,
          hvalue fuel _ (by omega) (endsNumber_comma _), Option.bind_some]
        simp only [skipWhitespace_cons (show isWhitespace 44 = false by decide)]
        rw [if_pos trivial, ih (by simp) hmembers.2 (by omega)]
        rfl

/-- What starts with another byte has not this text as a prefix. -/
theorem not_isPrefixOf_cons {first byte : UInt8} (h : byte ≠ first) (text rest : List UInt8) :
    (first :: text).isPrefixOf (byte :: rest) = false := by
  rw [List.isPrefixOf, beq_false_of_ne (Ne.symm h), Bool.false_and]

theorem readsBack_number (mantissa exponent : ℤ) : ReadsBack (.number mantissa exponent) := by
  intro fuel rest hfuel hrest
  obtain ⟨byte, digits, hdigits, hbyte⟩ := exists_signedDecimal_eq_cons mantissa
  obtain ⟨hstarts, hquote, hbracket, hbrace, htrue, hfalse, hnull⟩ := startsValue_of_number hbyte
  have hnumber := parseNumber_render mantissa exponent hrest
  have hpos := length_render_pos (.number mantissa exponent)
  cases fuel with
  | zero => omega
  | succ fuel =>
    rw [hdigits, List.cons_append] at hnumber
    rw [render, hdigits, List.append_assoc, List.cons_append, parseValue_cons hstarts.1,
      if_neg hquote, if_neg hbracket, if_neg hbrace, trueText, falseText, nullText,
      not_isPrefixOf_cons htrue, not_isPrefixOf_cons hfalse, not_isPrefixOf_cons hnull]
    exact hnumber

theorem readsBack_array {items : List Json} (hitems : ∀ item ∈ items, ReadsBack item) :
    ReadsBack (.array items) := by
  intro fuel rest hfuel hrest
  rw [render, List.length_cons, List.length_append, List.length_singleton] at hfuel
  cases fuel with
  | zero => omega
  | succ fuel =>
    rw [render, List.cons_append, List.append_assoc, List.singleton_append,
      parseValue_cons (by decide), if_neg (by decide), if_pos rfl]
    cases items with
    | nil =>
      rw [renderItems, List.nil_append, skipWhitespace_cons (by decide)]
      rfl
    | cons item items =>
      have hitem : ∃ byte tail, renderItems (item :: items) = byte :: tail ∧ StartsValue byte := by
        obtain ⟨byte, tail, h, hstarts⟩ := exists_render_eq_cons item
        cases items with
        | nil => exact ⟨byte, tail, by rw [renderItems, h], hstarts⟩
        | cons next items => exact ⟨byte, tail ++ 44 :: renderItems (next :: items), by
            rw [renderItems, h, List.cons_append], hstarts⟩
      obtain ⟨byte, tail, h, hstarts⟩ := hitem
      have hopen : (skipWhitespace (renderItems (item :: items) ++ 93 :: rest)).head? ≠
          some 93 := by
        rw [h, List.cons_append, skipWhitespace_cons hstarts.1, List.head?_cons, ne_eq,
          Option.some_inj]
        exact hstarts.2.1
      rw [if_neg hopen, parseItems_render (by simp) hitems (by omega)]
      rfl

theorem readsBack_object {members : List (List UInt8 × Json)}
    (hmembers : ∀ member ∈ members, ReadsBack member.2) :
    ReadsBack (.object members) := by
  intro fuel rest hfuel hrest
  rw [render, List.length_cons, List.length_append, List.length_singleton] at hfuel
  cases fuel with
  | zero => omega
  | succ fuel =>
    rw [render, List.cons_append, List.append_assoc, List.singleton_append,
      parseValue_cons (by decide), if_neg (by decide), if_neg (by decide), if_pos rfl]
    cases members with
    | nil =>
      rw [renderMembers, List.nil_append, skipWhitespace_cons (by decide)]
      rfl
    | cons member members =>
      have hopen : (skipWhitespace (renderMembers (member :: members) ++ 125 :: rest)).head? ≠
          some 125 := by
        have hmember : ∃ tail, renderMembers (member :: members) = 34 :: tail := by
          cases members with
          | nil => exact ⟨_, by rw [renderMembers, renderString, List.cons_append]⟩
          | cons next members =>
            exact ⟨_, by rw [renderMembers, renderString, List.cons_append, List.cons_append]⟩
        obtain ⟨tail, h⟩ := hmember
        rw [h, List.cons_append, skipWhitespace_cons (by decide)]
        simp
      rw [if_neg hopen, parseMembers_render (by simp) hmembers (by omega)]
      rfl

theorem readsBack (json : Json) : ReadsBack json := by
  induction json using Json.induction with
  | null =>
    intro fuel rest hfuel _
    cases fuel with
    | zero => cases hfuel
    | succ fuel => rfl
  | bool value =>
    intro fuel rest hfuel _
    cases fuel with
    | zero =>
      have := length_render_pos (.bool value)
      omega
    | succ fuel => cases value <;> rfl
  | number mantissa exponent => exact readsBack_number mantissa exponent
  | string text =>
    intro fuel rest hfuel _
    cases fuel with
    | zero => cases hfuel
    | succ fuel =>
      have htext := parseString_render text rest
      rw [render, renderString, List.cons_append, List.append_assoc, List.singleton_append,
        parseValue_cons (by decide), if_pos rfl, htext]
      rfl
  | array items hitems => exact readsBack_array hitems
  | object members hmembers => exact readsBack_object hmembers

/-- **What was written is read back.** -/
theorem parse_render (json : Json) : parse (render json) = some json := by
  have hread := readsBack json ((render json).length + 1) [] (by omega) endsNumber_nil
  rw [List.append_nil] at hread
  rw [parse, hread, Option.bind_some]
  rfl

/-! ### Looking into a value -/

/-- The members of an object. -/
def members? : Json → Option (List (List UInt8 × Json))
  | .object members => some members
  | _ => none

/-- The member of an object with a key. -/
def get? (key : List UInt8) (json : Json) : Option Json :=
  json.members?.bind fun members => members.lookup key

/-- The items of an array. -/
def items? : Json → Option (List Json)
  | .array items => some items
  | _ => none

/-- The text, of a string. -/
def text? : Json → Option (List UInt8)
  | .string text => some text
  | _ => none

/-- The flag, of a truth value. -/
def bool? : Json → Option Bool
  | .bool value => some value
  | _ => none

/-- A natural number. -/
def natural? : Json → Option ℕ
  | .number mantissa exponent => if 0 ≤ mantissa ∧ exponent = 0 then some mantissa.natAbs else none
  | _ => none

/-! ### Writing piece by piece -/

/-- Pieces with commas between them. -/
def separated : List (List UInt8) → List UInt8
  | [] => []
  | first :: rest => first ++ rest.flatMap fun piece => 44 :: piece

theorem separated_cons_cons (first next : List UInt8) (rest : List (List UInt8)) :
    separated (first :: next :: rest) = first ++ 44 :: separated (next :: rest) := by
  simp [separated]

theorem render_array (items : List Json) :
    render (.array items) = 91 :: (separated (items.map render) ++ [93]) := by
  have hitems : renderItems items = separated (items.map render) := by
    induction items with
    | nil => rw [renderItems, List.map_nil, separated]
    | cons item items ih =>
      cases items with
      | nil => simp [renderItems, separated]
      | cons next items =>
        rw [renderItems, ih]
        simp only [List.map_cons, separated_cons_cons]
  rw [render, hitems]

theorem render_object (members : List (List UInt8 × Json)) :
    render (.object members) =
      123 :: (separated (members.map fun member =>
        renderString member.1 ++ 58 :: render member.2) ++ [125]) := by
  have hmembers : renderMembers members =
      separated (members.map fun member => renderString member.1 ++ 58 :: render member.2) := by
    induction members with
    | nil => rw [renderMembers, List.map_nil, separated]
    | cons member members ih =>
      obtain ⟨key, value⟩ := member
      cases members with
      | nil => simp [renderMembers, separated]
      | cons next members =>
        rw [renderMembers, ih]
        simp only [List.map_cons, separated_cons_cons]
  rw [render, hmembers]

/-- A text without quotes, backslashes and control characters is written as it is. -/
theorem renderString_plain {text : List UInt8}
    (h : ∀ byte ∈ text, 32 ≤ byte.toNat ∧ byte ≠ 34 ∧ byte ≠ 92) :
    renderString text = 34 :: (text ++ [34]) := by
  have hsame : text.flatMap escapeByte = text := by
    conv_rhs => rw [← List.flatMap_singleton' text]
    refine List.flatMap_congr ?_
    intro byte hbyte
    obtain ⟨hprintable, hquote, hbackslash⟩ := h byte hbyte
    rw [escapeByte, if_neg hquote, if_neg hbackslash, if_neg]
    rw [UInt8.lt_iff_toNat_lt, Nat.not_lt]
    exact hprintable
  rw [renderString, hsame]

/-! ### Texts and keys -/

/-- Every string in a value, and every key, is as `p` says. -/
inductive AllStrings (p : List UInt8 → Prop) : Json → Prop where
  | null : AllStrings p .null
  | bool (value : Bool) : AllStrings p (.bool value)
  | number (mantissa exponent : ℤ) : AllStrings p (.number mantissa exponent)
  | string {text : List UInt8} (htext : p text) : AllStrings p (.string text)
  | array {items : List Json} (hitems : ∀ item ∈ items, AllStrings p item) :
      AllStrings p (.array items)
  | object {members : List (List UInt8 × Json)} (hkeys : ∀ member ∈ members, p member.1)
      (hmembers : ∀ member ∈ members, AllStrings p member.2) : AllStrings p (.object members)

/-- The keys of every object in a value increase, in the order of their bytes. -/
inductive KeysIncrease : Json → Prop where
  | null : KeysIncrease .null
  | bool (value : Bool) : KeysIncrease (.bool value)
  | number (mantissa exponent : ℤ) : KeysIncrease (.number mantissa exponent)
  | string (text : List UInt8) : KeysIncrease (.string text)
  | array {items : List Json} (hitems : ∀ item ∈ items, KeysIncrease item) :
      KeysIncrease (.array items)
  | object {members : List (List UInt8 × Json)} (hkeys : (members.map Prod.fst).Pairwise (· < ·))
      (hmembers : ∀ member ∈ members, KeysIncrease member.2) : KeysIncrease (.object members)

/-- Escapes are ASCII, and no part of a longer character is escaped. -/
theorem isUtf8_escaped {text : List UInt8} (h : IsUtf8 text) :
    IsUtf8 (text.flatMap escapeByte) := by
  obtain ⟨chars, rfl⟩ := h
  induction chars with
  | nil => exact isUtf8_nil
  | cons char chars ih =>
    rw [List.flatMap_cons, List.flatMap_append]
    refine IsUtf8.append ?_ ih
    rcases utf8EncodeChar_cases char with ⟨byte, hchar, hbyte⟩ | hbytes
    · rw [hchar, List.flatMap_cons, List.flatMap_nil, List.append_nil]
      unfold escapeByte
      split_ifs
      · exact isUtf8_of_all_ascii (by decide)
      · exact isUtf8_of_all_ascii (by decide)
      · refine IsUtf8.append (isUtf8_of_all_ascii (by decide)) (isUtf8_of_ascii ?_)
        intro digit hdigit
        have := hexDigits_ascii hdigit
        omega
      · exact isUtf8_of_ascii (by simpa using hbyte)
    · have hsame : (String.utf8EncodeChar char).flatMap escapeByte =
          String.utf8EncodeChar char := by
        conv_rhs => rw [← List.flatMap_singleton' (String.utf8EncodeChar char)]
        refine List.flatMap_congr ?_
        intro byte hbyte
        have hlarge := hbytes byte hbyte
        have hne : ∀ other : UInt8, other.toNat < 128 → byte ≠ other := by
          rintro other hother rfl
          omega
        rw [escapeByte, if_neg (hne 34 (by decide)), if_neg (hne 92 (by decide)), if_neg]
        rw [UInt8.lt_iff_toNat_lt, Nat.not_lt]
        exact le_trans (by decide) hlarge
      rw [hsame]
      exact isUtf8_char char

theorem isUtf8_renderString {text : List UInt8} (h : IsUtf8 text) : IsUtf8 (renderString text) := by
  have hquote : IsUtf8 [34] := isUtf8_of_all_ascii (by decide)
  exact hquote.append ((isUtf8_escaped h).append hquote)

theorem isUtf8_signedDecimal (n : ℤ) : IsUtf8 (signedDecimal n) := by
  refine isUtf8_of_ascii ?_
  intro byte hbyte
  unfold signedDecimal at hbyte
  split_ifs at hbyte
  · rcases List.mem_cons.mp hbyte with rfl | hbyte
    · decide
    · exact lt_of_le_of_lt (isDigitByte_of_mem_decimal hbyte).2 (by decide)
  · exact lt_of_le_of_lt (isDigitByte_of_mem_decimal hbyte).2 (by decide)

theorem isUtf8_renderItems {items : List Json} (h : ∀ item ∈ items, IsUtf8 (render item)) :
    IsUtf8 (renderItems items) := by
  have hcomma : IsUtf8 [44] := isUtf8_of_all_ascii (by decide)
  induction items with
  | nil => exact isUtf8_nil
  | cons item items ih =>
    rw [List.forall_mem_cons] at h
    cases items with
    | nil =>
      rw [renderItems]
      exact h.1
    | cons next items =>
      rw [renderItems]
      exact h.1.append (hcomma.append (ih h.2))

theorem isUtf8_renderMembers {members : List (List UInt8 × Json)}
    (hkeys : ∀ member ∈ members, IsUtf8 member.1)
    (h : ∀ member ∈ members, IsUtf8 (render member.2)) : IsUtf8 (renderMembers members) := by
  have hcomma : IsUtf8 [44] := isUtf8_of_all_ascii (by decide)
  have hcolon : IsUtf8 [58] := isUtf8_of_all_ascii (by decide)
  induction members with
  | nil => exact isUtf8_nil
  | cons member members ih =>
    obtain ⟨key, value⟩ := member
    rw [List.forall_mem_cons] at hkeys h
    have hmember : IsUtf8 (renderString key ++ 58 :: render value) :=
      (isUtf8_renderString hkeys.1).append (hcolon.append h.1)
    cases members with
    | nil =>
      rw [renderMembers]
      exact hmember
    | cons next members =>
      rw [renderMembers]
      exact hmember.append (hcomma.append (ih hkeys.2 h.2))

/-- **A value whose strings are UTF-8 is written in UTF-8.** -/
theorem isUtf8_render {json : Json} (h : AllStrings IsUtf8 json) : IsUtf8 (render json) := by
  have hascii : ∀ bytes : List UInt8, (bytes.all fun byte => decide (byte.toNat < 128)) = true →
      IsUtf8 bytes := by
    intro bytes hbytes
    exact isUtf8_of_ascii (by simpa using hbytes)
  induction h with
  | null => exact hascii _ (by decide)
  | bool value => cases value <;> exact hascii _ (by decide)
  | number mantissa exponent =>
    rw [render]
    refine (isUtf8_signedDecimal mantissa).append ?_
    unfold renderExponent
    split_ifs
    · exact isUtf8_nil
    · exact (hascii [101] (by decide)).append (isUtf8_signedDecimal exponent)
  | string htext => exact isUtf8_renderString htext
  | array _ ih =>
    rw [render]
    exact (hascii [91] (by decide)).append
      ((isUtf8_renderItems ih).append (hascii [93] (by decide)))
  | object hkeys _ ih =>
    rw [render]
    exact (hascii [123] (by decide)).append
      ((isUtf8_renderMembers hkeys ih).append (hascii [125] (by decide)))

end Json

end Astraea.Base
