import Mathlib.Data.Nat.Bitwise
import Mathlib.Tactic.Ring

/-!
# Little-endian words

A word of `width` bytes, least significant byte first. `leBytes` writes one by
shifting and masking, `leValue` reads one back by shifting and or-ing, and the two
are inverse on values that fit and on byte strings of the right length. `leAt`
reads a word at an offset of a longer string.

A record is a list of words one after another. `wordsBytes` writes one and `wordsAt`
reads one; `drop_eq_wordsBytes_iff` says that a string ends in a record exactly when
its words read that way.
-/

namespace Astraea.Base

/-- The `width` bytes of `value`: byte `i` is `(value >> (i * 8)) & 0xff`. -/
def leBytes (width value : ℕ) : List UInt8 :=
  (List.range width).map fun i => UInt8.ofNat ((value >>> (i * 8)) &&& 0xff)

/-- The value of a byte string: the bytes or-ed together, byte `i` shifted by `i * 8`. -/
def leValue (bytes : List UInt8) : ℕ :=
  bytes.foldr (fun byte rest => byte.toNat ||| rest <<< 8) 0

/-- The word of `width` bytes at `offset`. -/
def leAt (width : ℕ) (bytes : List UInt8) (offset : ℕ) : ℕ :=
  leValue ((bytes.drop offset).take width)

/-- The 16-bit word at `offset`. -/
def u16At (bytes : List UInt8) (offset : ℕ) : UInt16 := UInt16.ofNat (leAt 2 bytes offset)

/-- The 32-bit word at `offset`. -/
def u32At (bytes : List UInt8) (offset : ℕ) : UInt32 := UInt32.ofNat (leAt 4 bytes offset)

/-- The 64-bit word at `offset`. -/
def u64At (bytes : List UInt8) (offset : ℕ) : UInt64 := UInt64.ofNat (leAt 8 bytes offset)

@[simp] theorem length_leBytes (width value : ℕ) : (leBytes width value).length = width := by
  simp [leBytes]

@[simp] theorem leBytes_zero (value : ℕ) : leBytes 0 value = [] := rfl

theorem leBytes_succ (width value : ℕ) :
    leBytes (width + 1) value = UInt8.ofNat (value % 256) :: leBytes width (value / 256) := by
  have hmask : ∀ n : ℕ, n &&& 255 = n % 256 := fun n => Nat.and_two_pow_sub_one_eq_mod n 8
  simp only [leBytes, List.range_succ_eq_map, List.map_cons, List.map_map, hmask]
  refine congrArg₂ _ (by simp) (List.map_congr_left fun i _ => ?_)
  simp only [Function.comp, Nat.succ_eq_add_one]
  rw [Nat.shiftRight_eq_div_pow, Nat.shiftRight_eq_div_pow, Nat.div_div_eq_div_mul]
  congr 3
  rw [show (i + 1) * 8 = 8 + i * 8 by ring, pow_add]
  norm_num

@[simp] theorem leValue_nil : leValue [] = 0 := rfl

theorem leValue_cons (byte : UInt8) (bytes : List UInt8) :
    leValue (byte :: bytes) = byte.toNat + 256 * leValue bytes := by
  have hb : byte.toNat < 2 ^ 8 := byte.toNat_lt
  show byte.toNat ||| leValue bytes <<< 8 = _
  rw [Nat.or_comm, ← Nat.shiftLeft_add_eq_or_of_lt hb, Nat.shiftLeft_eq]
  ring

/-- Reading back what was written gives the value, up to the bits that do not fit. -/
theorem leValue_leBytes (width value : ℕ) :
    leValue (leBytes width value) = value % 256 ^ width := by
  induction width generalizing value with
  | zero => simp [Nat.mod_one]
  | succ width ih =>
    have hbyte : (UInt8.ofNat (value % 256)).toNat = value % 256 := by
      rw [UInt8.toNat_ofNat', Nat.mod_eq_of_lt (by omega)]
    rw [leBytes_succ, leValue_cons, ih, hbyte, pow_succ', Nat.mod_mul]

variable {width offset : ℕ} {bytes : List UInt8}

theorem leValue_leBytes_of_lt {value : ℕ} (h : value < 256 ^ width) :
    leValue (leBytes width value) = value := by
  rw [leValue_leBytes, Nat.mod_eq_of_lt h]

theorem leValue_lt (bytes : List UInt8) : leValue bytes < 256 ^ bytes.length := by
  induction bytes with
  | nil => simp
  | cons byte bytes ih =>
    have hb : byte.toNat < 256 := byte.toNat_lt
    rw [leValue_cons, List.length_cons, pow_succ]
    omega

theorem leBytes_leValue (bytes : List UInt8) : leBytes bytes.length (leValue bytes) = bytes := by
  induction bytes with
  | nil => rfl
  | cons byte bytes ih =>
    have hb : byte.toNat < 256 := byte.toNat_lt
    rw [List.length_cons, leBytes_succ, leValue_cons]
    rw [show (byte.toNat + 256 * leValue bytes) % 256 = byte.toNat by omega]
    rw [show (byte.toNat + 256 * leValue bytes) / 256 = leValue bytes by omega]
    rw [ih, UInt8.ofNat_toNat]

theorem leBytes_leValue_of_length (h : bytes.length = width) :
    leBytes width (leValue bytes) = bytes := by
  subst h
  exact leBytes_leValue bytes

/-! ### Words inside a longer string -/

theorem leAt_lt (width : ℕ) (bytes : List UInt8) (offset : ℕ) :
    leAt width bytes offset < 256 ^ width := by
  refine lt_of_lt_of_le (leValue_lt _) (Nat.pow_le_pow_right (by norm_num) ?_)
  simp

/-- A word that starts where a prefix ends is the word of what follows the prefix. -/
theorem leAt_append {pre rest : List UInt8} (h : pre.length = offset) :
    leAt width (pre ++ rest) offset = leAt width rest 0 := by
  subst h
  simp [leAt]

theorem leAt_zero_leBytes_append {value : ℕ} (h : value < 256 ^ width) (rest : List UInt8) :
    leAt width (leBytes width value ++ rest) 0 = value := by
  rw [leAt, List.drop_zero, List.take_append_of_le_length (by simp),
    List.take_of_length_le (by simp), leValue_leBytes_of_lt h]

/-- The word at an offset depends only on its own bytes. -/
theorem leAt_congr {a b : List UInt8} (h : ∀ i < width, a[offset + i]? = b[offset + i]?) :
    leAt width a offset = leAt width b offset := by
  unfold leAt
  congr 1
  apply List.ext_getElem?
  intro i
  rw [List.getElem?_take, List.getElem?_take]
  split_ifs with hi
  · rw [List.getElem?_drop, List.getElem?_drop]
    exact h i hi
  · rfl

theorem toNat_u32At (bytes : List UInt8) (offset : ℕ) :
    (u32At bytes offset).toNat = leAt 4 bytes offset := by
  rw [u32At, UInt32.toNat_ofNat']
  exact Nat.mod_eq_of_lt (leAt_lt 4 bytes offset)

theorem toNat_u64At (bytes : List UInt8) (offset : ℕ) :
    (u64At bytes offset).toNat = leAt 8 bytes offset := by
  rw [u64At, UInt64.toNat_ofNat']
  exact Nat.mod_eq_of_lt (leAt_lt 8 bytes offset)

theorem toNat_u16At (bytes : List UInt8) (offset : ℕ) :
    (u16At bytes offset).toNat = leAt 2 bytes offset := by
  rw [u16At, UInt16.toNat_ofNat']
  exact Nat.mod_eq_of_lt (leAt_lt 2 bytes offset)

theorem u16At_eq_iff {value : UInt16} :
    u16At bytes offset = value ↔ leAt 2 bytes offset = value.toNat := by
  rw [← UInt16.toNat_inj, toNat_u16At]

theorem u32At_eq_iff {value : UInt32} :
    u32At bytes offset = value ↔ leAt 4 bytes offset = value.toNat := by
  rw [← UInt32.toNat_inj, toNat_u32At]

theorem u64At_eq_iff {value : UInt64} :
    u64At bytes offset = value ↔ leAt 8 bytes offset = value.toNat := by
  rw [← UInt64.toNat_inj, toNat_u64At]

/-! ### Machine words -/

/-- Byte `index` of a 64-bit word. -/
def le64Byte (value : UInt64) (index : Fin 8) : UInt8 :=
  (value >>> (8 * UInt64.ofNat index) &&& 0xff).toUInt8

/-- The eight bytes of a 64-bit word. -/
def le64Bytes (value : UInt64) : Vector UInt8 8 := Vector.ofFn (le64Byte value)

theorem le64Byte_eq (value : UInt64) (index : Fin 8) :
    le64Byte value index = UInt8.ofNat (value.toNat >>> (index.val * 8) &&& 0xff) := by
  have hindex := index.isLt
  have hshift : (8 * UInt64.ofNat index.val).toNat % 64 = index.val * 8 := by
    rw [UInt64.toNat_mul, UInt64.toNat_ofNat']
    show 8 * (index.val % 2 ^ 64) % 2 ^ 64 % 64 = _
    omega
  rw [le64Byte, ← UInt8.toNat_inj, UInt64.toNat_toUInt8, UInt64.toNat_and, UInt64.toNat_shiftRight,
    hshift, UInt8.toNat_ofNat']
  rfl

theorem toList_le64Bytes (value : UInt64) : (le64Bytes value).toList = leBytes 8 value.toNat := by
  apply List.ext_getElem
  · simp
  · intro index h1 h2
    simp only [le64Bytes, leBytes, Vector.getElem_toList, Vector.getElem_ofFn, List.getElem_map,
      List.getElem_range]
    exact le64Byte_eq value _

/-! ### Records of words -/

/-- Words one after another, each given by its width and its value. -/
def wordsBytes (words : List (ℕ × ℕ)) : List UInt8 :=
  words.flatMap fun word => leBytes word.1 word.2

/-- The words of the given widths, one after another from `offset` on. -/
def wordsAt (bytes : List UInt8) : (widths : List ℕ) → (offset : ℕ) → List ℕ
  | [], _ => []
  | width :: widths, offset => leAt width bytes offset :: wordsAt bytes widths (offset + width)

/-- Every word fits its width. -/
def WordsFit (words : List (ℕ × ℕ)) : Prop := ∀ word ∈ words, word.2 < 256 ^ word.1

@[simp] theorem length_wordsBytes (words : List (ℕ × ℕ)) :
    (wordsBytes words).length = (words.map Prod.fst).sum := by
  simp [wordsBytes, List.length_flatMap]

theorem wordsBytes_cons (word : ℕ × ℕ) (words : List (ℕ × ℕ)) :
    wordsBytes (word :: words) = leBytes word.1 word.2 ++ wordsBytes words := by
  simp [wordsBytes]

/-- The bytes at an offset are the word there and what follows it. -/
theorem drop_eq_leBytes_append (width : ℕ) (h : offset + width ≤ bytes.length) :
    bytes.drop offset = leBytes width (leAt width bytes offset) ++ bytes.drop (offset + width) := by
  rw [leAt, leBytes_leValue_of_length (by rw [List.length_take, List.length_drop]; omega),
    ← List.drop_drop, List.take_append_drop]

theorem leBytes_leAt (h : offset + width ≤ bytes.length) :
    leBytes width (leAt width bytes offset) = (bytes.drop offset).take width := by
  rw [drop_eq_leBytes_append width h, List.take_left' (length_leBytes _ _)]

theorem leBytes_inj {value value' : ℕ} (h : value < 256 ^ width) (h' : value' < 256 ^ width) :
    leBytes width value = leBytes width value' ↔ value = value' := by
  constructor
  · intro heq
    have := congrArg leValue heq
    rwa [leValue_leBytes_of_lt h, leValue_leBytes_of_lt h'] at this
  · exact congrArg _

/-- A string ends in a record exactly when its words read that way. -/
theorem drop_eq_wordsBytes_iff {words : List (ℕ × ℕ)} (hfit : WordsFit words)
    (hlen : bytes.length = offset + (words.map Prod.fst).sum) :
    bytes.drop offset = wordsBytes words ↔
    wordsAt bytes (words.map Prod.fst) offset = words.map Prod.snd := by
  induction words generalizing offset with
  | nil =>
    simp only [List.map_nil, List.sum_nil, Nat.add_zero] at hlen
    simp [wordsBytes, wordsAt, hlen]
  | cons word words ih =>
    simp only [List.map_cons, List.sum_cons] at hlen
    have hhead := hfit word List.mem_cons_self
    have htail : ∀ w ∈ words, w.2 < 256 ^ w.1 := fun w hw => hfit w (List.mem_cons_of_mem _ hw)
    rw [drop_eq_leBytes_append word.1 (by omega), wordsBytes_cons,
      List.append_eq_append_iff_of_size_eq_left (by simp), ih htail (by omega),
        leBytes_inj (leAt_lt _ _ _) hhead]
    simp [wordsAt]

end Astraea.Base
