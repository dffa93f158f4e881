import Astraea.Graphics.ShaderIr

/-!
# Instruction boundaries

The instruction set says from its first word how long an instruction is: an export has two
words, and a selector of a source can announce one more word. `IsaInstruction` is an
instruction with the words this rule gives it, and `encode` writes instructions one behind
the other.

Lowering such words finds every instruction where it is exactly when no scalar instruction
other than `S_MOV_B32` takes its source from a literal: `lowerRdna2Stream_boundaries_iff`.
The decoder reads the word of a literal for that one opcode only, so behind any other the
literal itself is decoded as an instruction.
-/

namespace Astraea.Graphics

open Astraea.Base Astraea.Core

/-! ### Fields of a word -/

/-- A field of a word: `width` bits from `shift` on. -/
def bitField (word : UInt32) (shift width : ℕ) : ℕ := word.toNat / 2 ^ shift % 2 ^ width

theorem shiftRight_and_eq_iff {word shift mask value : UInt32} (width : ℕ)
    (hshift : shift.toNat < 32) (hmask : mask.toNat = 2 ^ width - 1) :
    word >>> shift &&& mask = value ↔ bitField word shift.toNat width = value.toNat := by
  rw [← UInt32.toNat_inj, UInt32.toNat_and, UInt32.toNat_shiftRight, hmask,
    Nat.and_two_pow_sub_one_eq_mod, Nat.shiftRight_eq_div_pow, Nat.mod_eq_of_lt hshift]
  rfl

theorem and_shiftLeft_mask (n shift width : ℕ) :
    n &&& (2 ^ width - 1) <<< shift = n / 2 ^ shift % 2 ^ width * 2 ^ shift := by
  rw [← Nat.shiftRight_eq_div_pow, ← Nat.and_two_pow_sub_one_eq_mod, ← Nat.shiftLeft_eq,
    Nat.shiftLeft_and_distrib]
  apply Nat.eq_of_testBit_eq
  intro i
  simp only [Nat.testBit_and, Nat.testBit_shiftLeft, Nat.testBit_shiftRight]
  by_cases hi : shift ≤ i <;> simp [hi]

theorem and_mask_eq_iff {word mask value : UInt32} (shift width field : ℕ)
    (hmask : mask.toNat = (2 ^ width - 1) <<< shift) (hvalue : value.toNat = field * 2 ^ shift) :
    word &&& mask = value ↔ bitField word shift width = field := by
  rw [← UInt32.toNat_inj, UInt32.toNat_and, hmask, and_shiftLeft_mask, hvalue]
  exact Nat.mul_left_inj (Nat.two_pow_pos shift).ne'

theorem toNat_and_toUInt8 (word : UInt32) : (word &&& 0xff).toUInt8.toNat = bitField word 0 8 := by
  rw [UInt32.toNat_toUInt8, UInt32.toNat_and]
  show (word.toNat &&& (2 ^ 8 - 1)) % 2 ^ 8 = _
  rw [Nat.and_two_pow_sub_one_eq_mod, bitField]
  omega

theorem toNat_shiftRight_toUInt8 (word : UInt32) :
    (word >>> 8 &&& 0xff).toUInt8.toNat = bitField word 8 8 := by
  rw [UInt32.toNat_toUInt8, UInt32.toNat_and, UInt32.toNat_shiftRight, Nat.shiftRight_eq_div_pow]
  show (word.toNat / 2 ^ 8 &&& (2 ^ 8 - 1)) % 2 ^ 8 = _
  rw [Nat.and_two_pow_sub_one_eq_mod, bitField]
  omega

theorem toNat_and_toUInt16 (word : UInt32) :
    (word &&& 0x1ff).toUInt16.toNat = bitField word 0 9 := by
  rw [UInt32.toNat_toUInt16, UInt32.toNat_and]
  show (word.toNat &&& (2 ^ 9 - 1)) % 2 ^ 16 = _
  rw [Nat.and_two_pow_sub_one_eq_mod, bitField]
  omega

/-! ### Instructions of the instruction set -/

/-- The formats the decoder knows. -/
inductive IsaFormat where
  | sopp
  | sop1
  | vop1
  | vop2
  | exp
  deriving DecidableEq

/-- The format of an instruction, by the highest bits of its first word. -/
def isaFormat (word : UInt32) : Option IsaFormat :=
  if bitField word 26 6 = 0b111110 then some .exp
  else if bitField word 23 9 = 0b101111111 then some .sopp
  else if bitField word 23 9 = 0b101111101 then some .sop1
  else if bitField word 25 7 = 0b0111111 then some .vop1
  else if bitField word 31 1 = 0 then some .vop2
  else none

/-- A second word follows the first. -/
def IsaFormat.isExtended (format : IsaFormat) (word : UInt32) : Bool :=
  match format with
  | .exp => true
  | .sopp => false
  | .sop1 => bitField word 0 8 == 255
  | .vop1 | .vop2 => [233, 234, 249, 250, 255].contains (bitField word 0 9)

/-- An instruction of a known format, with the words the instruction set gives it. -/
structure IsaInstruction where
  word : UInt32
  extension : Option UInt32
  format : IsaFormat
  encoded : isaFormat word = some format
  extended : extension.isSome = format.isExtended word

namespace IsaInstruction

/-- The words of an instruction. -/
def words (instruction : IsaInstruction) : List UInt32 :=
  instruction.word :: instruction.extension.toList

/-- A scalar instruction with a literal source, other than `S_MOV_B32`. -/
def HasUnreadLiteral (instruction : IsaInstruction) : Prop :=
  instruction.format = .sop1 ∧ bitField instruction.word 0 8 = 255 ∧
    bitField instruction.word 8 8 ≠ 3

instance (instruction : IsaInstruction) : Decidable instruction.HasUnreadLiteral :=
  inferInstanceAs (Decidable (_ ∧ _ ∧ _))

/-- The number of words the decoder takes for an instruction. -/
def decodedLength (instruction : IsaInstruction) : ℕ :=
  if instruction.HasUnreadLiteral then 1 else instruction.words.length

end IsaInstruction

/-- Instructions one behind the other. -/
def encode (instructions : List IsaInstruction) : List UInt32 :=
  instructions.flatMap IsaInstruction.words

/-- The position and the length of each instruction, where the first one is at `start`. -/
def boundariesFrom : (start : ℕ) → List IsaInstruction → List (ℕ × ℕ)
  | _, [] => []
  | start, instruction :: instructions =>
    (start, instruction.words.length) :: boundariesFrom
      (start + instruction.words.length) instructions

/-- Lowering succeeds, with one emission for each instruction, at its position and of its length. -/
def BoundariesKept (host : Host) (instructions : List IsaInstruction) : Prop :=
  ∃ program, lowerRdna2StreamToShaderIr host (encode instructions) = .ok program ∧
    program.emissions.map ShaderIrEmission.extent = boundariesFrom 0 instructions

/-! ### One instruction -/

theorem isaFormat_eq (word : UInt32) :
    isaFormat word =
      if word &&& 0xfc000000 = 0xf8000000 then some .exp
      else if word >>> 23 &&& 0x1ff = 0x17f then some .sopp
      else if word >>> 23 &&& 0x1ff = 0x17d then some .sop1
      else if word >>> 25 &&& 0x7f = 0x3f then some .vop1
      else if word &&& 0x80000000 = 0 then some .vop2
      else none := by
  have hexp : word &&& 0xfc000000 = 0xf8000000 ↔ bitField word 26 6 = 0b111110 :=
    and_mask_eq_iff 26 6 _ rfl rfl
  have hsopp : word >>> 23 &&& 0x1ff = 0x17f ↔ bitField word 23 9 = 0b101111111 :=
    shiftRight_and_eq_iff 9 (by decide) rfl
  have hsop1 : word >>> 23 &&& 0x1ff = 0x17d ↔ bitField word 23 9 = 0b101111101 :=
    shiftRight_and_eq_iff 9 (by decide) rfl
  have hvop1 : word >>> 25 &&& 0x7f = 0x3f ↔ bitField word 25 7 = 0b0111111 :=
    shiftRight_and_eq_iff 7 (by decide) rfl
  have hvop2 : word &&& 0x80000000 = 0 ↔ bitField word 31 1 = 0 := and_mask_eq_iff 31 1 _ rfl rfl
  simp only [isaFormat, hexp, hsopp, hsop1, hvop1, hvop2]

theorem sourceHasExtension_eq (word : UInt32) :
    sourceHasExtension (word &&& 0x1ff).toUInt16 =
      [233, 234, 249, 250, 255].contains (bitField word 0 9) := by
  have hselector : ∀ selector :
      UInt16, sourceHasExtension selector = [233, 234, 249, 250, 255].contains selector.toNat := by
    intro selector
    rw [Bool.eq_iff_iff]
    simp [sourceHasExtension, ← UInt16.toNat_inj, or_assoc]
  rw [hselector, toNat_and_toUInt16]

/-- The decoder looks for a literal behind `S_MOV_B32` only. -/
theorem literal_announced (word : UInt32) :
    (classifySop1Opcode (word >>> 8 &&& 0xff).toUInt8 == .sMovB32 &&
      (word &&& 0xff).toUInt8 == kScalarLiteralSelector) =
      (bitField word 8 8 == 3 && bitField word 0 8 == 255) := by
  have hopcode : ∀ opcode : UInt8, (classifySop1Opcode opcode == .sMovB32) =
      (opcode.toNat == 3) := by
    intro opcode
    rw [Bool.eq_iff_iff, beq_iff_eq, beq_iff_eq, ← show (3 : UInt8).toNat = 3 from rfl,
      UInt8.toNat_inj]
    unfold classifySop1Opcode
    split <;> simp_all
  have hsource : ∀ source : UInt8, (source == kScalarLiteralSelector) = (source.toNat == 255) := by
    intro source
    rw [Bool.eq_iff_iff, beq_iff_eq, beq_iff_eq, ← UInt8.toNat_inj]
    rfl
  rw [hopcode, hsource, toNat_shiftRight_toUInt8, toNat_and_toUInt8]

section Decode

variable {pre rest : List UInt32} {instruction : IsaInstruction}

theorem getElem?_first :
    (pre ++ (instruction.words ++ rest))[pre.length]? = some instruction.word := by
  simp [IsaInstruction.words]

theorem secondWord_eq {extension : UInt32} (h : instruction.extension = some extension) :
    secondWord (pre ++ (instruction.words ++ rest)) pre.length = .ok extension := by
  simp [secondWord, IsaInstruction.words, h, orRefuse]

/-- The word behind the first is read where the instruction set puts one. -/
theorem extensionWord_eq {announced : Bool}
    (h : announced = instruction.format.isExtended instruction.word) :
    extensionWord (pre ++ (instruction.words ++ rest)) pre.length announced =
      .ok instruction.extension := by
  rw [← instruction.extended] at h
  subst h
  unfold extensionWord
  cases hextension : instruction.extension with
  | none => rfl
  | some extension =>
    simp only [Option.isSome_some, if_true, secondWord_eq hextension]
    rfl

theorem extendedWordCount_eq :
    extendedWordCount instruction.extension = instruction.words.length := by
  cases h : instruction.extension <;> simp [IsaInstruction.words, extendedWordCount, h]

theorem decodedLength_of_format (h : instruction.format ≠ .sop1) :
    instruction.decodedLength = instruction.words.length :=
  if_neg fun hliteral => h hliteral.1

/-- **What the decoder makes of an instruction**: it finds it where it is, and takes the words of
its format, except for a literal it does not expect. -/
theorem decode_instruction (hindex : pre.length ≤ (2 ^ 64 - 1) / 4) :
    ∃ decoded, decodeRdna2Instruction (pre ++ (instruction.words ++ rest)) pre.length =
      .ok decoded ∧
      decoded.wordIndex = pre.length ∧ decoded.wordCount = instruction.decodedLength := by
  have hformat := instruction.encoded
  rw [isaFormat_eq] at hformat
  rw [decodeRdna2Instruction_eq hindex getElem?_first]
  have hextended := instruction.extended
  split_ifs at hformat ⊢ with hexp hsopp hsop1 hvop1 hvop2 <;> rw [Option.some_inj] at hformat
  · rw [← hformat] at hextended
    obtain ⟨extension, hextension⟩ := Option.isSome_iff_exists.mp hextended
    simp only [decodeExp, secondWord_eq hextension]
    refine ⟨_, rfl, rfl, ?_⟩
    rw [decodedLength_of_format (by simp [← hformat]), ← extendedWordCount_eq, hextension]
    rfl
  · rw [← hformat] at hextended
    have hextension : instruction.extension = none := by
      rw [← Option.isNone_iff_eq_none, ← Option.not_isSome, hextended]
      rfl
    refine ⟨_, rfl, rfl, ?_⟩
    rw [decodedLength_of_format (by simp [← hformat]), ← extendedWordCount_eq, hextension]
    rfl
  · by_cases hopcode : bitField instruction.word 8 8 = 3
    · have hread : extensionWord (pre ++ (instruction.words ++ rest)) pre.length
          (classifySop1Opcode (instruction.word >>> 8 &&& 0xff).toUInt8 == .sMovB32 &&
            (instruction.word &&& 0xff).toUInt8 == kScalarLiteralSelector) =
              .ok instruction.extension := by
        refine extensionWord_eq ?_
        rw [literal_announced, hopcode, ← hformat]
        rfl
      simp only [decodeSop1, hread]
      refine ⟨_, rfl, rfl, ?_⟩
      rw [IsaInstruction.decodedLength, if_neg (fun hliteral => hliteral.2.2 hopcode)]
      exact extendedWordCount_eq
    · have hread : extensionWord (pre ++ (instruction.words ++ rest)) pre.length
          (classifySop1Opcode (instruction.word >>> 8 &&& 0xff).toUInt8 == .sMovB32 &&
            (instruction.word &&& 0xff).toUInt8 == kScalarLiteralSelector) = .ok none := by
        rw [literal_announced, beq_false_of_ne hopcode]
        rfl
      simp only [decodeSop1, hread]
      refine ⟨_, rfl, rfl, ?_⟩
      by_cases hsource : bitField instruction.word 0 8 = 255
      · rw [IsaInstruction.decodedLength, if_pos ⟨hformat.symm, hsource, hopcode⟩]
        rfl
      · rw [← hformat] at hextended
        have hextension : instruction.extension = none := by
          rw [← Option.isNone_iff_eq_none, ← Option.not_isSome, hextended]
          simp [IsaFormat.isExtended, hsource]
        rw [IsaInstruction.decodedLength,
          if_neg (fun hliteral => hsource hliteral.2.1), ← extendedWordCount_eq, hextension]
  · have hread : extensionWord (pre ++ (instruction.words ++ rest)) pre.length
        (sourceHasExtension (instruction.word &&& 0x1ff).toUInt16) = .ok instruction.extension := by
      refine extensionWord_eq ?_
      rw [sourceHasExtension_eq, ← hformat]
      rfl
    simp only [decodeVop1, hread]
    refine ⟨_, rfl, rfl, ?_⟩
    rw [decodedLength_of_format (by simp [← hformat])]
    exact extendedWordCount_eq
  · have hread : extensionWord (pre ++ (instruction.words ++ rest)) pre.length
        (sourceHasExtension (instruction.word &&& 0x1ff).toUInt16) = .ok instruction.extension := by
      refine extensionWord_eq ?_
      rw [sourceHasExtension_eq, ← hformat]
      rfl
    simp only [decodeVop2, hread]
    refine ⟨_, rfl, rfl, ?_⟩
    rw [decodedLength_of_format (by simp [← hformat])]
    exact extendedWordCount_eq

/-! ### A stream -/

theorem decodedLength_pos : 0 < instruction.decodedLength := by
  unfold IsaInstruction.decodedLength
  split_ifs
  · exact Nat.one_pos
  · exact Nat.succ_pos _

theorem decodedLength_le : instruction.decodedLength ≤ instruction.words.length := by
  unfold IsaInstruction.decodedLength
  split_ifs
  · exact Nat.succ_pos _
  · exact le_rfl

theorem lowerStream_step (hindex : pre.length ≤ (2 ^ 64 - 1) / 4)
    (emissions : List ShaderIrEmission) :
    ∃ emission : ShaderIrEmission, emission.extent = (pre.length, instruction.decodedLength) ∧
      lowerStream (pre ++ (instruction.words ++ rest)) pre.length emissions =
        lowerStream (pre ++ (instruction.words ++ rest)) (pre.length + instruction.decodedLength)
          (emissions ++ [emission]) := by
  obtain ⟨decoded, hdecoded, hposition, hcount⟩ := @decode_instruction pre rest instruction hindex
  refine ⟨lowerRdna2ToShaderIr decoded, Prod.ext hposition hcount, ?_⟩
  have hpos := @decodedLength_pos instruction
  have hle := @decodedLength_le instruction
  have hlength : (pre ++ (instruction.words ++ rest)).length =
      pre.length + (instruction.words.length + rest.length) := by
    simp
  rw [lowerStream, dif_pos (by omega), hdecoded]
  dsimp only
  rw [dif_neg (by omega), hcount]

end Decode

theorem prefix_of_lowerStream {words : List UInt32} {wordIndex : ℕ}
    {emissions lowered : List ShaderIrEmission}
    (h : lowerStream words wordIndex emissions = .ok lowered) : emissions <+: lowered := by
  fun_induction lowerStream words wordIndex emissions with
  | case1 => cases h
  | case2 => cases h
  | case3 wordIndex emissions hindex instruction hdecoded hextent ih =>
    exact (List.prefix_append _ _).trans (ih h)
  | case4 =>
    cases h
    exact List.prefix_rfl

theorem encode_cons (instruction : IsaInstruction) (instructions : List IsaInstruction) :
    encode (instruction :: instructions) = instruction.words ++ encode instructions := rfl

/-- Where no literal is missed, every instruction is found. -/
theorem lowerStream_boundaries {instructions : List IsaInstruction} {pre : List UInt32}
    (hread : ∀ instruction ∈ instructions, ¬ instruction.HasUnreadLiteral)
    (hspan : (pre ++ encode instructions).length ≤ (2 ^ 64 - 1) / 4)
    (emissions : List ShaderIrEmission) :
    ∃ more, lowerStream (pre ++ encode instructions) pre.length emissions =
      .ok (emissions ++ more) ∧
      more.map ShaderIrEmission.extent = boundariesFrom pre.length instructions := by
  induction instructions generalizing pre emissions with
  | nil =>
    refine ⟨[], ?_, rfl⟩
    rw [lowerStream, dif_neg (by simp [encode]), List.append_nil]
  | cons instruction instructions ih =>
    rw [List.forall_mem_cons] at hread
    rw [encode_cons] at hspan ⊢
    have hlength : instruction.decodedLength = instruction.words.length := if_neg hread.1
    have hindex : pre.length ≤ (2 ^ 64 - 1) / 4 := le_trans (by simp) hspan
    obtain ⟨emission, hboundary, hstep⟩ :=
      @lowerStream_step pre (encode instructions) instruction hindex emissions
    rw [hlength] at hboundary hstep
    rw [← List.append_assoc] at hspan hstep ⊢
    rw [← List.length_append] at hstep
    obtain ⟨more, hmore, hboundaries⟩ := ih hread.2 hspan (emissions ++ [emission])
    refine ⟨emission :: more, ?_, ?_⟩
    · rw [hstep, hmore, List.append_assoc]
      rfl
    · rw [List.map_cons, hboundary, hboundaries, List.length_append]
      rfl

/-- Where every instruction is found, no literal is missed. -/
theorem read_of_lowerStream {instructions : List IsaInstruction} {pre : List UInt32}
    {emissions lowered : List ShaderIrEmission}
    (hspan : (pre ++ encode instructions).length ≤ (2 ^ 64 - 1) / 4)
    (hok : lowerStream (pre ++ encode instructions) pre.length emissions = .ok lowered)
    (hboundaries : lowered.map ShaderIrEmission.extent =
      emissions.map ShaderIrEmission.extent ++ boundariesFrom pre.length instructions) :
    ∀ instruction ∈ instructions, ¬ instruction.HasUnreadLiteral := by
  induction instructions generalizing pre emissions with
  | nil => simp
  | cons instruction instructions ih =>
    rw [encode_cons] at hspan hok
    have hindex : pre.length ≤ (2 ^ 64 - 1) / 4 := le_trans (by simp) hspan
    obtain ⟨emission, hboundary, hstep⟩ :=
      @lowerStream_step pre (encode instructions) instruction hindex emissions
    rw [hstep] at hok
    -- the emission of this instruction is the next one behind those before it
    obtain ⟨more, rfl⟩ := prefix_of_lowerStream hok
    have hlength : instruction.decodedLength = instruction.words.length := by
      rw [List.map_append, List.map_append, List.append_assoc, List.append_cancel_left_eq,
        boundariesFrom, List.map_singleton, List.singleton_append, List.cons.injEq, hboundary,
        Prod.mk.injEq] at hboundaries
      exact hboundaries.1.2
    have hthis : ¬ instruction.HasUnreadLiteral := by
      intro hliteral
      have hextended := instruction.extended
      rw [hliteral.1] at hextended
      obtain ⟨extension, hextension⟩ := Option.isSome_iff_exists.mp
        (hextended.trans (by simp [IsaFormat.isExtended, hliteral.2.1]))
      rw [IsaInstruction.decodedLength, if_pos hliteral, IsaInstruction.words, hextension]
        at hlength
      simp at hlength
    rw [List.forall_mem_cons]
    refine ⟨hthis, ?_⟩
    rw [← List.append_assoc] at hspan hok
    rw [hlength, ← List.length_append] at hok
    refine ih hspan hok ?_
    rw [hboundaries, List.map_append, List.map_singleton, hboundary, hlength, boundariesFrom,
      List.length_append, List.append_assoc]
    rfl

/-- **Instruction boundaries are kept exactly where the decoder reads every literal.** For every
list of instructions whose words fit into the address space of the host: lowering their words
succeeds with one emission for each instruction, at its position and of its length, if and only if
no scalar instruction other than `S_MOV_B32` has a literal source. -/
theorem lowerRdna2Stream_boundaries_iff (host : Host)
    (hhost : host.allocation .shaderIrStream = none) (instructions : List IsaInstruction)
    (hspan : (encode instructions).length ≤ (2 ^ 64 - 1) / 4) :
    BoundariesKept host instructions ↔
    ∀ instruction ∈ instructions, ¬ instruction.HasUnreadLiteral := by
  have hlower : ∀ program, lowerRdna2StreamToShaderIr host (encode instructions) = .ok program ↔
      ∃ emissions, lowerStream (encode instructions) 0 [] = .ok emissions ∧
        ⟨(encode instructions).length, emissions⟩ = program := by
    intro program
    simp only [lowerRdna2StreamToShaderIr, bind_eq_ok, allocate_eq_ok, pure_eq_ok]
    constructor
    · rintro ⟨-, -, emissions, hok, hprogram⟩
      exact ⟨emissions, hok, hprogram⟩
    · rintro ⟨emissions, hok, hprogram⟩
      exact ⟨(), hhost, emissions, hok, hprogram⟩
  constructor
  · rintro ⟨program, hok, hboundaries⟩
    obtain ⟨emissions, hemissions, rfl⟩ := (hlower program).mp hok
    exact @read_of_lowerStream instructions [] [] emissions hspan hemissions hboundaries
  · intro hread
    obtain ⟨more, hmore, hboundaries⟩ := @lowerStream_boundaries instructions [] hread hspan []
    exact ⟨⟨_, more⟩, (hlower _).mpr ⟨more, hmore, rfl⟩, hboundaries⟩

/-- `s_mov_b32 s5, 0xdeadbeef`. -/
def literalMove32 : IsaInstruction := ⟨0xbe8503ff, some 0xdeadbeef, .sop1, by decide, by decide⟩

/-- `s_mov_b64 s[4:5], 0xbf810000`, whose literal is the encoding of `s_endpgm`. -/
def literalMove64 : IsaInstruction := ⟨0xbe8404ff, some 0xbf810000, .sop1, by decide, by decide⟩

/-- An export of two words. -/
def twoWordExport : IsaInstruction := ⟨0xf800180f, some 0x03020100, .exp, by decide, by decide⟩

/-- A move of a literal and an export are both found. -/
theorem lowerRdna2Stream_boundaries_move32 :
    BoundariesKept Host.plentiful [literalMove32, twoWordExport] :=
  (lowerRdna2Stream_boundaries_iff Host.plentiful rfl [literalMove32, twoWordExport]
    (by decide)).mpr (by decide)

/-- The literal of a 64-bit move is lowered as an instruction of its own. -/
theorem lowerRdna2Stream_literalMove64 : ¬ BoundariesKept Host.plentiful [literalMove64] := by
  have hlowered : (lowerRdna2StreamToShaderIr Host.plentiful (encode [literalMove64])).toOption.any
      (fun program =>
      program.emissions.map ShaderIrEmission.extent == [(0, 1), (1, 1)]) = true := by decide +kernel
  obtain ⟨program, hprogram, htwo⟩ := exists_of_any hlowered
  rw [beq_iff_eq] at htwo
  rintro ⟨program', hprogram', hone⟩
  rw [hprogram, Except.ok.injEq] at hprogram'
  rw [← hprogram', htwo] at hone
  exact absurd hone (by decide)

end Astraea.Graphics
