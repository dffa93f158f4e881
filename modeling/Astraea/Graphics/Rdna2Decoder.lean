import Astraea.Base.Check
import Mathlib.Data.Int.Notation

/-!
# The RDNA2 instruction decoder

`decode_rdna2_instruction` reads one instruction at an index of a list of 32-bit words. An
instruction has one word, or two when it is an export or when a source selector announces
a word of its own. Encodings the decoder does not know are instructions too, with a kind
that says so; what fails is an index outside the words.
-/

namespace Astraea.Graphics

open Astraea.Base

/-- The formats of instructions. -/
inductive Rdna2InstructionFormat where
  | sopp
  | sop1
  | vop1
  | vop2
  | exp
  | unsupported
  deriving DecidableEq

/-- The instructions that are known. -/
inductive Rdna2InstructionKind where
  | sNop
  | sEndpgm
  | sBranch
  | sCbranchScc0
  | sCbranchScc1
  | sCbranchVccz
  | sCbranchVccnz
  | sCbranchExecz
  | sCbranchExecnz
  | sBarrier
  | sWaitcnt
  | sMovB32
  | sMovB64
  | vMovB32
  | vAddF32
  | exp
  | unknownSoppOpcode
  | unknownSop1Opcode
  | unknownVop1Opcode
  | unknownVop2Opcode
  | unsupportedEncoding
  deriving DecidableEq

/-- Why words are no instruction. -/
inductive Rdna2DecodeErrorCode where
  | sourceOffsetOverflow
  | instructionOutOfBounds
  deriving DecidableEq

/-- Words that are no instruction. -/
structure Rdna2DecodeError where
  code : Rdna2DecodeErrorCode
  wordIndex : ℕ
  availableWords : ℕ
  deriving DecidableEq

/-- The fields of a `SOPP` instruction. -/
structure Rdna2SoppFields where
  opcode : UInt8
  simm16 : Int16
  deriving DecidableEq

/-- The fields of a `SOP1` instruction. -/
structure Rdna2Sop1Fields where
  opcode : UInt8
  destinationSelector : UInt8
  sourceSelector : UInt8
  literalConstant : Option UInt32
  deriving DecidableEq

/-- The fields of a `VOP1` instruction. -/
structure Rdna2Vop1Fields where
  opcode : UInt8
  destinationSelector : UInt8
  sourceSelector : UInt16
  sourceExtension : Option UInt32
  deriving DecidableEq

/-- The fields of a `VOP2` instruction. -/
structure Rdna2Vop2Fields where
  opcode : UInt8
  destinationSelector : UInt8
  source0Selector : UInt16
  source1Selector : UInt8
  source0Extension : Option UInt32
  deriving DecidableEq

/-- The fields of an `EXP` instruction. -/
structure Rdna2ExpFields where
  enableMask : UInt8
  target : UInt8
  compressed : Bool
  done : Bool
  validMask : Bool
  sourceVgprs : Vector UInt8 4
  deriving DecidableEq

/-- An instruction and where it is. -/
structure Rdna2Instruction where
  wordIndex : ℕ
  wordCount : ℕ := 1
  byteOffset : ℕ
  rawWord : UInt32
  rawEncoding : Vector UInt8 4
  format : Rdna2InstructionFormat
  kind : Rdna2InstructionKind
  sopp : Option Rdna2SoppFields := none
  sop1 : Option Rdna2Sop1Fields := none
  vop1 : Option Rdna2Vop1Fields := none
  vop2 : Option Rdna2Vop2Fields := none
  exp : Option Rdna2ExpFields := none
  deriving DecidableEq

/-- The four bytes of a word, lowest first. -/
def bytesOfWord (word : UInt32) : Vector UInt8 4 :=
  #v[(word &&& 0xff).toUInt8, (word >>> 8 &&& 0xff).toUInt8, (word >>> 16 &&& 0xff).toUInt8,
    (word >>> 24 &&& 0xff).toUInt8]

/-- `decode_simm16`. -/
def decodeSimm16 (word : UInt32) : Int16 :=
  let bits := (word &&& 0xffff).toNat
  Int16.ofInt (if bits < 0x8000 then (bits : ℤ) else (bits : ℤ) - 0x10000)

/-- `classify_sopp_opcode`. -/
def classifySoppOpcode (opcode : UInt8) : Rdna2InstructionKind :=
  match opcode with
  | 0 => .sNop
  | 1 => .sEndpgm
  | 2 => .sBranch
  | 4 => .sCbranchScc0
  | 5 => .sCbranchScc1
  | 6 => .sCbranchVccz
  | 7 => .sCbranchVccnz
  | 8 => .sCbranchExecz
  | 9 => .sCbranchExecnz
  | 10 => .sBarrier
  | 12 => .sWaitcnt
  | _ => .unknownSoppOpcode

/-- `classify_sop1_opcode`. -/
def classifySop1Opcode (opcode : UInt8) : Rdna2InstructionKind :=
  match opcode with
  | 3 => .sMovB32
  | 4 => .sMovB64
  | _ => .unknownSop1Opcode

/-- `classify_vop1_opcode`. -/
def classifyVop1Opcode (opcode : UInt8) : Rdna2InstructionKind :=
  match opcode with
  | 1 => .vMovB32
  | _ => .unknownVop1Opcode

/-- `classify_vop2_opcode`. -/
def classifyVop2Opcode (opcode : UInt8) : Rdna2InstructionKind :=
  match opcode with
  | 3 => .vAddF32
  | _ => .unknownVop2Opcode

/-- The selectors after which a word of the source follows: `vop1_source_has_extension` and
`vop2_source0_has_extension`. -/
def sourceHasExtension (selector : UInt16) : Bool :=
  selector == 233 || selector == 234 || selector == 249 || selector == 250 || selector == 255

/-- `kScalarLiteralSelector`. -/
def kScalarLiteralSelector : UInt8 := 255

section Decode

variable (words : List UInt32) (wordIndex : ℕ)

/-- The word after the instruction's first. -/
def secondWord : Except Rdna2DecodeError UInt32 :=
  orRefuse words[wordIndex + 1]? ⟨.instructionOutOfBounds, wordIndex + 1, words.length⟩

/-- The word after the instruction's first, where one is announced. -/
def extensionWord (announced : Bool) : Except Rdna2DecodeError (Option UInt32) :=
  if announced = true then (secondWord words wordIndex).map some else .ok none

/-- The number of words of an instruction with this extension. -/
def extendedWordCount (extension : Option UInt32) : ℕ := if extension.isSome = true then 2 else 1

/-- An export, of two words. -/
def decodeExp (word : UInt32) : Except Rdna2DecodeError Rdna2Instruction := do
  let sources ← secondWord words wordIndex
  return {
    wordIndex := wordIndex
    wordCount := 2
    byteOffset := wordIndex * 4
    rawWord := word
    rawEncoding := bytesOfWord word
    format := .exp
    kind := .exp
    exp := some {
      enableMask := (word &&& 0x0f).toUInt8
      target := (word >>> 4 &&& 0x3f).toUInt8
      compressed := word >>> 10 &&& 1 != 0
      done := word >>> 11 &&& 1 != 0
      validMask := word >>> 12 &&& 1 != 0
      sourceVgprs := bytesOfWord sources } }

/-- A scalar instruction without operands. -/
def decodeSopp (word : UInt32) : Rdna2Instruction :=
  let opcode := (word >>> 16 &&& 0x7f).toUInt8
  { wordIndex := wordIndex
    byteOffset := wordIndex * 4
    rawWord := word
    rawEncoding := bytesOfWord word
    format := .sopp
    kind := classifySoppOpcode opcode
    sopp := some ⟨opcode, decodeSimm16 word⟩ }

/-- A scalar instruction with one source. -/
def decodeSop1 (word : UInt32) : Except Rdna2DecodeError Rdna2Instruction := do
  let opcode := (word >>> 8 &&& 0xff).toUInt8
  let source := (word &&& 0xff).toUInt8
  let kind := classifySop1Opcode opcode
  let literalConstant ← extensionWord words wordIndex
    (kind == .sMovB32 && source == kScalarLiteralSelector)
  return {
    wordIndex := wordIndex
    wordCount := extendedWordCount literalConstant
    byteOffset := wordIndex * 4
    rawWord := word
    rawEncoding := bytesOfWord word
    format := .sop1
    kind := kind
    sop1 := some ⟨opcode, (word >>> 16 &&& 0x7f).toUInt8, source, literalConstant⟩ }

/-- A vector instruction with one source. -/
def decodeVop1 (word : UInt32) : Except Rdna2DecodeError Rdna2Instruction := do
  let opcode := (word >>> 9 &&& 0xff).toUInt8
  let source := (word &&& 0x1ff).toUInt16
  let sourceExtension ← extensionWord words wordIndex (sourceHasExtension source)
  return {
    wordIndex := wordIndex
    wordCount := extendedWordCount sourceExtension
    byteOffset := wordIndex * 4
    rawWord := word
    rawEncoding := bytesOfWord word
    format := .vop1
    kind := classifyVop1Opcode opcode
    vop1 := some ⟨opcode, (word >>> 17 &&& 0xff).toUInt8, source, sourceExtension⟩ }

/-- A vector instruction with two sources. -/
def decodeVop2 (word : UInt32) : Except Rdna2DecodeError Rdna2Instruction := do
  let opcode := (word >>> 25 &&& 0x3f).toUInt8
  let source0 := (word &&& 0x1ff).toUInt16
  let source0Extension ← extensionWord words wordIndex (sourceHasExtension source0)
  return {
    wordIndex := wordIndex
    wordCount := extendedWordCount source0Extension
    byteOffset := wordIndex * 4
    rawWord := word
    rawEncoding := bytesOfWord word
    format := .vop2
    kind := classifyVop2Opcode opcode
    vop2 := some ⟨opcode, (word >>> 17 &&& 0xff).toUInt8, source0, (word >>> 9 &&& 0xff).toUInt8,
      source0Extension⟩ }

/-- An encoding the decoder does not know. -/
def unsupportedInstruction (word : UInt32) : Rdna2Instruction where
  wordIndex := wordIndex
  byteOffset := wordIndex * 4
  rawWord := word
  rawEncoding := bytesOfWord word
  format := .unsupported
  kind := .unsupportedEncoding

/-- `decode_rdna2_instruction`. -/
def decodeRdna2Instruction : Except Rdna2DecodeError Rdna2Instruction := do
  refuseIf (wordIndex > (2 ^ 64 - 1) / 4) ⟨.sourceOffsetOverflow, wordIndex, words.length⟩
  let word ← orRefuse words[wordIndex]? ⟨.instructionOutOfBounds, wordIndex, words.length⟩
  let encoding := word >>> 23 &&& 0x1ff
  if word &&& 0xfc000000 = 0xf8000000 then decodeExp words wordIndex word
  else if encoding = 0x17f then return decodeSopp wordIndex word
  else if encoding = 0x17d then decodeSop1 words wordIndex word
  else if word >>> 25 &&& 0x7f = 0x3f then decodeVop1 words wordIndex word
  else if word &&& 0x80000000 = 0 then decodeVop2 words wordIndex word
  else return unsupportedInstruction wordIndex word

end Decode

theorem decodeRdna2Instruction_eq {words : List UInt32} {wordIndex : ℕ} {word : UInt32}
    (hindex : wordIndex ≤ (2 ^ 64 - 1) / 4) (hword : words[wordIndex]? = some word) :
    decodeRdna2Instruction words wordIndex =
      if word &&& 0xfc000000 = 0xf8000000 then decodeExp words wordIndex word
      else if word >>> 23 &&& 0x1ff = 0x17f then .ok (decodeSopp wordIndex word)
      else if word >>> 23 &&& 0x1ff = 0x17d then decodeSop1 words wordIndex word
      else if word >>> 25 &&& 0x7f = 0x3f then decodeVop1 words wordIndex word
      else if word &&& 0x80000000 = 0 then decodeVop2 words wordIndex word
      else .ok (unsupportedInstruction wordIndex word) := by
  unfold decodeRdna2Instruction
  rw [refuseIf, if_neg (Nat.not_lt.mpr hindex), hword]
  rfl

/-- An instruction is decoded from a word that is there. -/
theorem exists_word_of_decode {words : List UInt32} {wordIndex : ℕ} {instruction : Rdna2Instruction}
    (h : decodeRdna2Instruction words wordIndex = .ok instruction) :
    wordIndex ≤ (2 ^ 64 - 1) / 4 ∧ ∃ word, words[wordIndex]? = some word := by
  unfold decodeRdna2Instruction at h
  rw [bind_eq_ok] at h
  obtain ⟨⟨⟩, hindex, h⟩ := h
  rw [bind_eq_ok] at h
  obtain ⟨word, hword, -⟩ := h
  exact ⟨Nat.not_lt.mp (refuseIf_eq_ok.mp hindex), word, orRefuse_eq_ok.mp hword⟩

end Astraea.Graphics
