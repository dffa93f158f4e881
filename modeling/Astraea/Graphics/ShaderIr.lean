import Astraea.Core.HostAllocation
import Astraea.Graphics.Rdna2Decoder

/-!
# The shader intermediate representation

`lower_rdna2_to_shader_ir` gives a decoded instruction its meaning as an operation, and
keeps the instruction beside it. What has no meaning yet becomes `unsupported` with a
reason. `lower_rdna2_stream_to_shader_ir` does this for a whole list of words.
-/

namespace Astraea.Graphics

open Astraea.Base Astraea.Core

/-- When a branch is taken. -/
inductive ShaderIrBranchCondition where
  | sccZero
  | sccOne
  | vccZero
  | vccNonzero
  | execZero
  | execNonzero
  deriving DecidableEq

/-- A vector register. -/
@[ext]
structure ShaderIrVgpr where
  index : UInt8
  deriving DecidableEq

/-- A scalar register. -/
@[ext]
structure ShaderIrSgpr where
  index : UInt8
  deriving DecidableEq

/-- Two scalar registers, of which this is the first. -/
@[ext]
structure ShaderIrSgprPair where
  firstIndex : UInt8
  deriving DecidableEq

/-- What is exported to. -/
inductive ShaderIrExportTargetKind where
  | mrt
  | mrtZ
  | nullTarget
  | position
  | primitive
  | parameter
  deriving DecidableEq

/-- An export: its target and the registers of its components. -/
@[ext]
structure ShaderIrExport where
  targetKind : ShaderIrExportTargetKind
  targetIndex : UInt8
  enableMask : UInt8
  compressed : Bool
  done : Bool
  validMask : Bool
  sources : Vector ShaderIrVgpr 4
  deriving DecidableEq

/-- The scalar sources that are no registers. -/
inductive ShaderIrSpecialScalarSourceKind32 where
  | vccLo
  | vccHi
  | m0
  | nullRegister
  | execLo
  | execHi
  deriving DecidableEq

/-- What a scalar operand is read from. -/
inductive ShaderIrScalarSource32 where
  | sgpr (register : ShaderIrSgpr)
  | special (kind : ShaderIrSpecialScalarSourceKind32)
  | inlineInteger (value : Int32)
  | literal (bits : UInt32)
  deriving DecidableEq

/-- Why an instruction has no operation. -/
inductive ShaderIrUnsupportedReason where
  | unknownSoppOpcode
  | unknownSop1Opcode
  | unknownVop1Opcode
  | unknownVop2Opcode
  | unknownExportTarget
  | unsupportedScalarOperand
  | unsupportedVectorOperand
  | unsupportedEncoding
  | invalidDecodedInstruction
  deriving DecidableEq

/-- What an instruction does. -/
inductive ShaderIrOperation where
  | nop (repeatCount : UInt8)
  | endProgram
  | relativeBranch (byteDelta : Int32)
  | conditionalRelativeBranch (condition : ShaderIrBranchCondition) (byteDelta : Int32)
  | workgroupBarrier
  | waitCount (vmcnt expcnt lgkmcnt : UInt8)
  | scalarMove32 (destination : ShaderIrSgpr) (source : ShaderIrScalarSource32)
  | scalarMove64 (destination source : ShaderIrSgprPair)
  | vectorMove32 (destination source : ShaderIrVgpr)
  | vectorAddF32 (destination source0 source1 : ShaderIrVgpr)
  | exporting (fields : ShaderIrExport)
  | unsupported (reason : ShaderIrUnsupportedReason)
  deriving DecidableEq

/-- An operation and the instruction it comes from. -/
structure ShaderIrEmission where
  operation : ShaderIrOperation
  /-- The instruction the operation is from. -/
  sourceInstruction : Rdna2Instruction
  deriving DecidableEq

/-- The words of an emission: where its instruction begins, and how long it is. -/
def ShaderIrEmission.extent (emission : ShaderIrEmission) : ℕ × ℕ :=
  (emission.sourceInstruction.wordIndex, emission.sourceInstruction.wordCount)

/-- `shader_ir_semantically_equal`. -/
def shaderIrSemanticallyEqual (left right : ShaderIrEmission) : Bool :=
  decide (left.operation = right.operation)

/-! ### Operands -/

/-- `export_target`. -/
def exportTarget (target : UInt8) : Option (ShaderIrExportTargetKind × UInt8) :=
  if target ≤ 0x07 then some (.mrt, target)
  else if target = 0x08 then some (.mrtZ, 0)
  else if target = 0x09 then some (.nullTarget, 0)
  else if 0x0c ≤ target ∧ target ≤ 0x0f then some (.position, target - 0x0c)
  else if target = 0x14 then some (.primitive, 0)
  else if 0x20 ≤ target ∧ target ≤ 0x3f then some (.parameter, target - 0x20)
  else none

/-- `plain_sgpr_selector`. -/
def plainSgprSelector (selector : UInt8) : Bool := decide (selector ≤ 105)

/-- `plain_sgpr_pair_selector`. -/
def plainSgprPairSelector (selector : UInt8) : Bool := decide (selector ≤ 104) && selector % 2 == 0

/-- `special_scalar_source32`. -/
def specialScalarSource32 (selector : UInt8) : Option ShaderIrSpecialScalarSourceKind32 :=
  match selector with
  | 106 => some .vccLo
  | 107 => some .vccHi
  | 124 => some .m0
  | 125 => some .nullRegister
  | 126 => some .execLo
  | 127 => some .execHi
  | _ => none

/-- `scalar_source32`. -/
def scalarSource32 (selector : UInt8) (literalConstant : Option UInt32) :
    Option ShaderIrScalarSource32 :=
  if plainSgprSelector selector = true then some (.sgpr ⟨selector⟩)
  else if (specialScalarSource32 selector).isSome = true then
    (specialScalarSource32 selector).map .special
  else if 128 ≤ selector ∧ selector ≤ 192 then
    some (.inlineInteger (Int32.ofInt (selector.toNat - 128)))
  else if 193 ≤ selector ∧ selector ≤ 208 then
    some (.inlineInteger (Int32.ofInt (-(selector.toNat - 192))))
  else if selector = 255 then literalConstant.map .literal
  else none

/-- `relative_branch_delta`. -/
def relativeBranchDelta (fields : Rdna2SoppFields) : Int32 :=
  Int32.ofInt (fields.simm16.toInt * 4 + 4)

/-- `wait_count`. -/
def waitCount (fields : Rdna2SoppFields) : ShaderIrOperation :=
  let bits := fields.simm16.toUInt16
  .waitCount (((bits >>> 14 &&& 0x3) <<< 4) ||| (bits &&& 0x0f)).toUInt8
    (bits >>> 4 &&& 0x7).toUInt8
    (bits >>> 8 &&& 0x3f).toUInt8

/-! ### Lowering one instruction -/

section Source

variable (instruction : Rdna2Instruction)

/-- `valid_sopp_source`, with the fields it vouches for. -/
def validSoppSource : Option Rdna2SoppFields :=
  if instruction.format = .sopp ∧ instruction.sop1.isNone = true ∧ instruction.vop1.isNone = true ∧
    instruction.vop2.isNone = true ∧ instruction.exp.isNone = true then instruction.sopp else none

/-- `valid_sop1_source`, with the fields it vouches for. -/
def validSop1Source : Option Rdna2Sop1Fields :=
  if instruction.format = .sop1 ∧ instruction.sopp.isNone = true ∧ instruction.vop1.isNone = true ∧
    instruction.vop2.isNone = true ∧ instruction.exp.isNone = true then instruction.sop1 else none

/-- `valid_vop1_source`, with the fields it vouches for. -/
def validVop1Source : Option Rdna2Vop1Fields :=
  if instruction.format = .vop1 ∧ instruction.sopp.isNone = true ∧ instruction.sop1.isNone = true ∧
    instruction.vop2.isNone = true ∧ instruction.exp.isNone = true then instruction.vop1 else none

/-- `valid_vop2_source`, with the fields it vouches for. -/
def validVop2Source : Option Rdna2Vop2Fields :=
  if instruction.format = .vop2 ∧ instruction.sopp.isNone = true ∧ instruction.sop1.isNone = true ∧
    instruction.vop1.isNone = true ∧ instruction.exp.isNone = true then instruction.vop2 else none

/-- `valid_exp_source`, with the fields it vouches for. -/
def validExpSource : Option Rdna2ExpFields :=
  if instruction.format = .exp ∧ instruction.sopp.isNone = true ∧ instruction.sop1.isNone = true ∧
    instruction.vop1.isNone = true ∧ instruction.vop2.isNone = true ∧
      instruction.wordCount = 2 then instruction.exp
  else none

/-- The operation of an instruction whose fields are those of its format. -/
def lowerFields {α : Type} (fields : Option α) (operation : α → ShaderIrOperation) :
    ShaderIrOperation :=
  match fields with
  | some fields => operation fields
  | none => .unsupported .invalidDecodedInstruction

/-- A branch on a condition. -/
def lowerConditionalBranch (condition : ShaderIrBranchCondition) : ShaderIrOperation :=
  lowerFields (validSoppSource instruction) fun fields =>
    .conditionalRelativeBranch condition (relativeBranchDelta fields)

/-- `S_MOV_B32`. -/
def lowerScalarMove32 (fields : Rdna2Sop1Fields) : ShaderIrOperation :=
  match scalarSource32 fields.sourceSelector fields.literalConstant with
  | some source =>
    if plainSgprSelector fields.destinationSelector = true then
      .scalarMove32 ⟨fields.destinationSelector⟩ source
    else .unsupported .unsupportedScalarOperand
  | none => .unsupported .unsupportedScalarOperand

/-- `S_MOV_B64`. -/
def lowerScalarMove64 (fields : Rdna2Sop1Fields) : ShaderIrOperation :=
  if plainSgprPairSelector fields.destinationSelector = true ∧
    plainSgprPairSelector fields.sourceSelector = true then
    .scalarMove64 ⟨fields.destinationSelector⟩ ⟨fields.sourceSelector⟩
  else .unsupported .unsupportedScalarOperand

/-- `V_MOV_B32`. -/
def lowerVectorMove32 (fields : Rdna2Vop1Fields) : ShaderIrOperation :=
  if 256 ≤ fields.sourceSelector ∧ fields.sourceSelector ≤ 511 then
    .vectorMove32 ⟨fields.destinationSelector⟩ ⟨(fields.sourceSelector - 256).toUInt8⟩
  else .unsupported .unsupportedVectorOperand

/-- `V_ADD_F32`. -/
def lowerVectorAddF32 (fields : Rdna2Vop2Fields) : ShaderIrOperation :=
  if 256 ≤ fields.source0Selector ∧ fields.source0Selector ≤ 511 then
    .vectorAddF32 ⟨fields.destinationSelector⟩ ⟨(fields.source0Selector - 256).toUInt8⟩
      ⟨fields.source1Selector⟩
  else .unsupported .unsupportedVectorOperand

/-- `EXP`. -/
def lowerExport (fields : Rdna2ExpFields) : ShaderIrOperation :=
  match exportTarget fields.target with
  | some (kind, index) =>
    .exporting
      { targetKind := kind
        targetIndex := index
        enableMask := fields.enableMask
        compressed := fields.compressed
        done := fields.done
        validMask := fields.validMask
        sources := fields.sourceVgprs.map ShaderIrVgpr.mk }
  | none => .unsupported .unknownExportTarget

/-- The operation of an instruction: the switch of `lower_rdna2_to_shader_ir`. -/
def lowerOperation : ShaderIrOperation :=
  match instruction.kind with
  | .sNop => lowerFields (validSoppSource instruction) fun fields =>
      .nop ((fields.simm16.toUInt16 &&& 0x0f) + 1).toUInt8
  | .sEndpgm => lowerFields (validSoppSource instruction) fun _ => .endProgram
  | .sBranch =>
    lowerFields (validSoppSource instruction) fun fields =>
      .relativeBranch (relativeBranchDelta fields)
  | .sCbranchScc0 => lowerConditionalBranch instruction .sccZero
  | .sCbranchScc1 => lowerConditionalBranch instruction .sccOne
  | .sCbranchVccz => lowerConditionalBranch instruction .vccZero
  | .sCbranchVccnz => lowerConditionalBranch instruction .vccNonzero
  | .sCbranchExecz => lowerConditionalBranch instruction .execZero
  | .sCbranchExecnz => lowerConditionalBranch instruction .execNonzero
  | .sBarrier => lowerFields (validSoppSource instruction) fun _ => .workgroupBarrier
  | .sWaitcnt => lowerFields (validSoppSource instruction) waitCount
  | .sMovB32 => lowerFields (validSop1Source instruction) lowerScalarMove32
  | .sMovB64 => lowerFields (validSop1Source instruction) lowerScalarMove64
  | .vMovB32 => lowerFields (validVop1Source instruction) lowerVectorMove32
  | .vAddF32 => lowerFields (validVop2Source instruction) lowerVectorAddF32
  | .exp => lowerFields (validExpSource instruction) lowerExport
  | .unknownSoppOpcode =>
    lowerFields (validSoppSource instruction) fun _ => .unsupported .unknownSoppOpcode
  | .unknownSop1Opcode =>
    lowerFields (validSop1Source instruction) fun _ => .unsupported .unknownSop1Opcode
  | .unknownVop1Opcode =>
    lowerFields (validVop1Source instruction) fun _ => .unsupported .unknownVop1Opcode
  | .unknownVop2Opcode =>
    lowerFields (validVop2Source instruction) fun _ => .unsupported .unknownVop2Opcode
  | .unsupportedEncoding =>
    if instruction.format = .unsupported ∧ instruction.sopp.isNone = true ∧
      instruction.sop1.isNone = true ∧
      instruction.vop1.isNone = true ∧ instruction.vop2.isNone = true ∧
        instruction.exp.isNone = true then
      .unsupported .unsupportedEncoding
    else .unsupported .invalidDecodedInstruction

/-- `lower_rdna2_to_shader_ir`. -/
def lowerRdna2ToShaderIr : ShaderIrEmission := ⟨lowerOperation instruction, instruction⟩

end Source

/-! ### Lowering a stream -/

/-- The emissions of a program. -/
structure ShaderIrProgram where
  sourceWordCount : ℕ
  emissions : List ShaderIrEmission
  deriving DecidableEq

/-- Why words are no program. -/
inductive ShaderIrProgramErrorCode where
  | decodeFailure
  | invalidInstructionExtent
  | hostAllocationFailure
  deriving DecidableEq

/-- Words that are no program, with the word they are about. -/
structure ShaderIrProgramError where
  code : ShaderIrProgramErrorCode
  wordIndex : ℕ
  loweredInstructionCount : ℕ
  decodeError : Option Rdna2DecodeError := none
  deriving DecidableEq

/-- The loop of `lower_rdna2_stream_to_shader_ir`, over what it has lowered so far. -/
def lowerStream (words : List UInt32) (wordIndex : ℕ) (emissions : List ShaderIrEmission) :
    Except ShaderIrProgramError (List ShaderIrEmission) :=
  if _hindex : wordIndex < words.length then
    match decodeRdna2Instruction words wordIndex with
    | .error e => .error ⟨.decodeFailure, wordIndex, emissions.length, some e⟩
    | .ok instruction =>
      if _hextent : instruction.wordCount = 0 ∨ instruction.wordCount >
        words.length - wordIndex then
        .error ⟨.invalidInstructionExtent, wordIndex, emissions.length, none⟩
      else
        lowerStream words (wordIndex + instruction.wordCount)
          (emissions ++ [lowerRdna2ToShaderIr instruction])
  else .ok emissions
termination_by words.length - wordIndex
decreasing_by omega

/-- `lower_rdna2_stream_to_shader_ir`. -/
def lowerRdna2StreamToShaderIr (host : Host) (words : List UInt32) :
    Except ShaderIrProgramError ShaderIrProgram := do
  allocate host .shaderIrStream ⟨.hostAllocationFailure, 0, 0, none⟩
    ⟨.hostAllocationFailure, 0, 0, none⟩
  let emissions ← lowerStream words 0 []
  return ⟨words.length, emissions⟩

end Astraea.Graphics
