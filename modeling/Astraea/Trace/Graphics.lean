import Astraea.Base.Decimal
import Astraea.Graphics.GraphicsIr
import Astraea.Graphics.ShaderIr
import Astraea.Trace.V0

/-!
# Trace events of the graphics pipeline

The stages of the graphics pipeline are traced by one event for each packet, instruction or
operation. What a stage means goes into the stable fields of the event, where it came from
into the diagnostics.

The diagnostics of a decoded instruction hold its bytes. They are put together from the
decoded fields, and for an export the second word is missing:
`traceRdna2DecodeV0_rawEncoding_iff`.
-/

namespace Astraea.Trace

open Astraea.Base Astraea.Core Astraea.Graphics

/-- Why an emission has no event. -/
inductive GraphicsTraceAdapterErrorCodeV0 where
  | hostSizeUnrepresentable
  | hostAllocationFailure
  deriving DecidableEq

/-- An emission that has no event. -/
structure GraphicsTraceAdapterErrorV0 where
  code : GraphicsTraceAdapterErrorCodeV0
  deriving DecidableEq

/-- `size_to_u64`; a `std::size_t` has no more than 64 bits, so that no size is refused. -/
def sizeToU64 (value : ℕ) : UInt64 := UInt64.ofNat value

/-- `u64_field`. -/
def u64Field (name : ByteString) (value : UInt64) : TraceFieldV0 := ⟨name, .u64 value⟩

/-- `text_field`. -/
def textField (name : ByteString) (value : ByteString) : TraceFieldV0 := ⟨name, .text value⟩

/-- `bytes_field`. -/
def bytesField (name : ByteString) (value : List UInt8) : TraceFieldV0 := ⟨name, .bytes value⟩

/-- The fields of the event are allocated. -/
def allocateEvent (host : Host) (event : TraceEventV0) :
    Except GraphicsTraceAdapterErrorV0 TraceEventV0 := do
  allocate host (.graphicsTraceEvent event.id) ⟨.hostAllocationFailure⟩ ⟨.hostAllocationFailure⟩
  return event

theorem allocateEvent_eq_ok {host : Host} {event event' : TraceEventV0} :
    allocateEvent host event = .ok event' ↔ host.allocation (.graphicsTraceEvent event.id) = none ∧
    event = event' := by
  simp only [allocateEvent, bind_eq_ok, allocate_eq_ok, pure_eq_ok, exists_const]

/-! ### Graphics IR -/

/-- `graphics_ir_dword_value_bytes`. -/
def graphicsIrDwordValueBytes (values : List UInt32) : List UInt8 :=
  values.flatMap fun value => (bytesOfWord value).toList

/-- `packet_bytes`. -/
def packetBytes (packet : RawPacket) : List UInt8 :=
  packet.rawWords.flatMap fun word => word.bytes.toList

/-- `graphics_ir_reason_text`. -/
def graphicsIrReasonText : GraphicsIrUnsupportedReason → String
  | .packetSemanticsUnknown => "packet_semantics_unknown"

/-- The stable fields of a range of registers. -/
def registerWriteRangeFields (startOffset : UInt16) (values : List UInt32) : List TraceFieldV0 :=
  [u64Field (bytesOf "start_offset") startOffset.toUInt64,
    u64Field (bytesOf "value_count") (sizeToU64 values.length),
    bytesField (bytesOf "value_bits") (graphicsIrDwordValueBytes values)]

/-- The type of an event of `trace_graphics_ir_v0`. Three operations are not among those it asks
for. -/
def graphicsIrEventType : GraphicsIrOperation → String
  | .unsupported _ => "unsupported"
  | .shaderRegisterWriteRange _ _ => "shader_register_write_range"
  | .contextRegisterWriteRange _ _ => "context_register_write_range"
  | .gpuMemoryWrite _ _ => "gpu_memory_write"
  | .userConfigRegisterWriteRange _ _ | .setInstanceCount _ | .drawIndexAuto _ _ => ""

/-- The stable fields of an event of `trace_graphics_ir_v0`. -/
def graphicsIrStable : GraphicsIrOperation → List TraceFieldV0
  | .unsupported reason => [textField (bytesOf "reason") (bytesOf (graphicsIrReasonText reason))]
  | .shaderRegisterWriteRange startOffset values => registerWriteRangeFields startOffset values
  | .contextRegisterWriteRange startOffset values => registerWriteRangeFields startOffset values
  | .gpuMemoryWrite destination values =>
    [u64Field (bytesOf "destination_gpu_address") destination,
      u64Field (bytesOf "value_count") (sizeToU64 values.length),
      bytesField (bytesOf "value_bits") (graphicsIrDwordValueBytes values)]
  | .userConfigRegisterWriteRange _ _ | .setInstanceCount _ | .drawIndexAuto _ _ => []

/-- `trace_graphics_ir_v0`. -/
def traceGraphicsIrV0 (host : Host) (eventId : UInt64) (emission : GraphicsIrEmission) :
    Except GraphicsTraceAdapterErrorV0 TraceEventV0 :=
  allocateEvent host {
    id := eventId
    subsystem := bytesOf "graphics.ir"
    type := bytesOf (graphicsIrEventType emission.operation)
    guest := none
    stable := graphicsIrStable emission.operation
    diagnostics := [
      bytesField (bytesOf "source_raw_words") (packetBytes emission.sourcePacket),
      u64Field (bytesOf "source_word_count") (sizeToU64 emission.sourcePacket.extent.wordCount),
      u64Field (bytesOf "source_word_offset") (sizeToU64 emission.sourcePacket.extent.wordOffset)] }

/-! ### Decoded instructions -/

/-- The bytes of a word that is there. -/
def extensionBytes (extension : Option UInt32) : List UInt8 :=
  extension.elim [] fun word => (bytesOfWord word).toList

/-- `instruction_bytes`. -/
def instructionBytes (instruction : Rdna2Instruction) : List UInt8 :=
  instruction.rawEncoding.toList ++
    extensionBytes (instruction.sop1.bind Rdna2Sop1Fields.literalConstant) ++
    extensionBytes (instruction.vop1.bind Rdna2Vop1Fields.sourceExtension) ++
    extensionBytes (instruction.vop2.bind Rdna2Vop2Fields.source0Extension)

/-- `rdna2_format_text`. -/
def rdna2FormatText : Rdna2InstructionFormat → String
  | .sopp => "sopp"
  | .sop1 => "sop1"
  | .vop1 => "vop1"
  | .vop2 => "vop2"
  | .exp => "exp"
  | .unsupported => "unsupported"

/-- `rdna2_kind_text`. -/
def rdna2KindText : Rdna2InstructionKind → String
  | .sNop => "s_nop"
  | .sEndpgm => "s_endpgm"
  | .sBranch => "s_branch"
  | .sCbranchScc0 => "s_cbranch_scc0"
  | .sCbranchScc1 => "s_cbranch_scc1"
  | .sCbranchVccz => "s_cbranch_vccz"
  | .sCbranchVccnz => "s_cbranch_vccnz"
  | .sCbranchExecz => "s_cbranch_execz"
  | .sCbranchExecnz => "s_cbranch_execnz"
  | .sBarrier => "s_barrier"
  | .sWaitcnt => "s_waitcnt"
  | .sMovB32 => "s_mov_b32"
  | .sMovB64 => "s_mov_b64"
  | .vMovB32 => "v_mov_b32"
  | .vAddF32 => "v_add_f32"
  | .exp => "exp"
  | .unknownSoppOpcode => "unknown_sopp_opcode"
  | .unknownSop1Opcode => "unknown_sop1_opcode"
  | .unknownVop1Opcode => "unknown_vop1_opcode"
  | .unknownVop2Opcode => "unknown_vop2_opcode"
  | .unsupportedEncoding => "unsupported_encoding"

/-- A flag as a number. -/
def flagField (name : ByteString) (flag : Bool) : TraceFieldV0 :=
  u64Field name (if flag = true then 1 else 0)

/-- The fields `source0_vgpr` to `source3_vgpr`. -/
def sourceVgprFields (vgprs : List UInt8) : List TraceFieldV0 :=
  vgprs.mapIdx fun source vgpr =>
    u64Field (bytesOf "source" ++ decimal source ++ bytesOf "_vgpr") vgpr.toUInt64

/-- The fields of a `SOPP` instruction. -/
def soppStable (sopp : Rdna2SoppFields) : List TraceFieldV0 :=
  [u64Field (bytesOf "opcode") sopp.opcode.toUInt64,
    textField (bytesOf "simm16") (signedDecimal sopp.simm16.toInt)]

/-- The fields of a `SOP1` instruction. -/
def sop1Stable (sop1 : Rdna2Sop1Fields) : List TraceFieldV0 :=
  [u64Field (bytesOf "opcode") sop1.opcode.toUInt64,
    u64Field (bytesOf "destination_selector") sop1.destinationSelector.toUInt64,
    u64Field (bytesOf "source_selector") sop1.sourceSelector.toUInt64] ++
  sop1.literalConstant.elim [] fun bits =>
    [u64Field (bytesOf "literal_constant_bits") bits.toUInt64]

/-- The fields of a `VOP1` instruction. -/
def vop1Stable (vop1 : Rdna2Vop1Fields) : List TraceFieldV0 :=
  [u64Field (bytesOf "opcode") vop1.opcode.toUInt64,
    u64Field (bytesOf "destination_selector") vop1.destinationSelector.toUInt64,
    u64Field (bytesOf "source_selector") vop1.sourceSelector.toUInt64]

/-- The fields of a `VOP2` instruction. -/
def vop2Stable (vop2 : Rdna2Vop2Fields) : List TraceFieldV0 :=
  [u64Field (bytesOf "opcode") vop2.opcode.toUInt64,
    u64Field (bytesOf "destination_selector") vop2.destinationSelector.toUInt64,
    u64Field (bytesOf "source0_selector") vop2.source0Selector.toUInt64,
    u64Field (bytesOf "source1_selector") vop2.source1Selector.toUInt64]

/-- The fields of an `EXP` instruction. -/
def expStable (exp : Rdna2ExpFields) : List TraceFieldV0 :=
  [u64Field (bytesOf "enable_mask") exp.enableMask.toUInt64,
    u64Field (bytesOf "target") exp.target.toUInt64,
    flagField (bytesOf "compressed") exp.compressed, flagField (bytesOf "done") exp.done,
    flagField (bytesOf "valid_mask") exp.validMask] ++
  sourceVgprFields exp.sourceVgprs.toList

/-- `trace_rdna2_decode_v0`. -/
def traceRdna2DecodeV0 (host : Host) (eventId : UInt64) (instruction : Rdna2Instruction) :
    Except GraphicsTraceAdapterErrorV0 TraceEventV0 :=
  allocateEvent host {
    id := eventId
    subsystem := bytesOf "shader.decode"
    type := bytesOf "instruction"
    guest := none
    stable :=
      [textField (bytesOf "format") (bytesOf (rdna2FormatText instruction.format)),
        textField (bytesOf "kind") (bytesOf (rdna2KindText instruction.kind))] ++
      instruction.sopp.elim [] soppStable ++ instruction.sop1.elim [] sop1Stable ++
      instruction.vop1.elim [] vop1Stable ++ instruction.vop2.elim [] vop2Stable ++
      instruction.exp.elim [] expStable
    diagnostics := [
      u64Field (bytesOf "source_byte_offset") (sizeToU64 instruction.byteOffset),
      bytesField (bytesOf "source_raw_encoding") (instructionBytes instruction)] }

/-! ### Shader IR -/

/-- `shader_ir_export_target_text`. -/
def shaderIrExportTargetText : ShaderIrExportTargetKind → String
  | .mrt => "mrt"
  | .mrtZ => "mrt_z"
  | .nullTarget => "null"
  | .position => "position"
  | .primitive => "primitive"
  | .parameter => "parameter"

/-- `shader_ir_branch_condition_text`. -/
def shaderIrBranchConditionText : ShaderIrBranchCondition → String
  | .sccZero => "scc_zero"
  | .sccOne => "scc_one"
  | .vccZero => "vcc_zero"
  | .vccNonzero => "vcc_nonzero"
  | .execZero => "exec_zero"
  | .execNonzero => "exec_nonzero"

/-- `shader_ir_special_scalar_source_text`. -/
def shaderIrSpecialScalarSourceText : ShaderIrSpecialScalarSourceKind32 → String
  | .vccLo => "vcc_lo"
  | .vccHi => "vcc_hi"
  | .m0 => "m0"
  | .nullRegister => "null"
  | .execLo => "exec_lo"
  | .execHi => "exec_hi"

/-- `shader_ir_reason_text`. -/
def shaderIrReasonText : ShaderIrUnsupportedReason → String
  | .unknownSoppOpcode => "unknown_sopp_opcode"
  | .unknownSop1Opcode => "unknown_sop1_opcode"
  | .unknownVop1Opcode => "unknown_vop1_opcode"
  | .unknownVop2Opcode => "unknown_vop2_opcode"
  | .unknownExportTarget => "unknown_export_target"
  | .unsupportedScalarOperand => "unsupported_scalar_operand"
  | .unsupportedVectorOperand => "unsupported_vector_operand"
  | .unsupportedEncoding => "unsupported_encoding"
  | .invalidDecodedInstruction => "invalid_decoded_instruction"

/-- The type of an event of `trace_shader_ir_v0`. -/
def shaderIrEventType : ShaderIrOperation → String
  | .nop _ => "nop"
  | .endProgram => "end_program"
  | .relativeBranch _ => "relative_branch"
  | .conditionalRelativeBranch _ _ => "conditional_relative_branch"
  | .workgroupBarrier => "workgroup_barrier"
  | .waitCount _ _ _ => "wait_count"
  | .scalarMove32 _ _ => "scalar_move_32"
  | .scalarMove64 _ _ => "scalar_move_64"
  | .vectorMove32 _ _ => "vector_move_32"
  | .vectorAddF32 _ _ _ => "vector_add_f32"
  | .exporting _ => "export"
  | .unsupported _ => "unsupported"

/-- The fields of the source of a scalar move. -/
def scalarSourceFields : ShaderIrScalarSource32 → List TraceFieldV0
  | .sgpr register =>
    [textField (bytesOf "source_kind") (bytesOf "sgpr"),
      u64Field (bytesOf "source_sgpr") register.index.toUInt64]
  | .special kind =>
    [textField (bytesOf "source_kind") (bytesOf "special_register"),
      textField (bytesOf "source_special_register")
        (bytesOf (shaderIrSpecialScalarSourceText kind))]
  | .inlineInteger value =>
    [textField (bytesOf "source_kind") (bytesOf "inline_integer"),
      textField (bytesOf "source_inline_integer") (signedDecimal value.toInt)]
  | .literal bits =>
    [textField (bytesOf "source_kind") (bytesOf "literal"),
      u64Field (bytesOf "source_literal_bits") bits.toUInt64]

/-- The fields of an export. -/
def exportFields (fields : ShaderIrExport) : List TraceFieldV0 :=
  [textField (bytesOf "target_kind") (bytesOf (shaderIrExportTargetText fields.targetKind)),
    u64Field (bytesOf "target_index") fields.targetIndex.toUInt64,
    u64Field (bytesOf "enable_mask") fields.enableMask.toUInt64,
      flagField (bytesOf "compressed") fields.compressed,
    flagField (bytesOf "done") fields.done, flagField (bytesOf "valid_mask") fields.validMask] ++
  sourceVgprFields (fields.sources.toList.map ShaderIrVgpr.index)

/-- The stable fields of an event of `trace_shader_ir_v0`. -/
def shaderIrStable : ShaderIrOperation → List TraceFieldV0
  | .nop repeatCount => [u64Field (bytesOf "repeat_count") repeatCount.toUInt64]
  | .endProgram => []
  | .relativeBranch byteDelta => [textField (bytesOf "byte_delta") (signedDecimal byteDelta.toInt)]
  | .conditionalRelativeBranch condition byteDelta =>
    [textField (bytesOf "condition") (bytesOf (shaderIrBranchConditionText condition)),
      textField (bytesOf "byte_delta") (signedDecimal byteDelta.toInt)]
  | .workgroupBarrier => []
  | .waitCount vmcnt expcnt lgkmcnt =>
    [u64Field (bytesOf "vmcnt") vmcnt.toUInt64, u64Field (bytesOf "expcnt") expcnt.toUInt64,
      u64Field (bytesOf "lgkmcnt") lgkmcnt.toUInt64]
  | .scalarMove32 destination source =>
    u64Field (bytesOf "destination_sgpr") destination.index.toUInt64 :: scalarSourceFields source
  | .scalarMove64 destination source =>
    [u64Field (bytesOf "destination_sgpr_pair_start") destination.firstIndex.toUInt64,
      u64Field (bytesOf "source_sgpr_pair_start") source.firstIndex.toUInt64]
  | .vectorMove32 destination source =>
    [u64Field (bytesOf "destination_vgpr") destination.index.toUInt64,
      u64Field (bytesOf "source_vgpr") source.index.toUInt64]
  | .vectorAddF32 destination source0 source1 =>
    [u64Field (bytesOf "destination_vgpr") destination.index.toUInt64,
      u64Field (bytesOf "source0_vgpr") source0.index.toUInt64,
        u64Field (bytesOf "source1_vgpr") source1.index.toUInt64]
  | .exporting fields => exportFields fields
  | .unsupported reason => [textField (bytesOf "reason") (bytesOf (shaderIrReasonText reason))]

/-- `trace_shader_ir_v0`. -/
def traceShaderIrV0 (host : Host) (eventId : UInt64) (emission : ShaderIrEmission) :
    Except GraphicsTraceAdapterErrorV0 TraceEventV0 :=
  allocateEvent host {
    id := eventId
    subsystem := bytesOf "shader.ir"
    type := bytesOf (shaderIrEventType emission.operation)
    guest := none
    stable := shaderIrStable emission.operation
    diagnostics := [
      u64Field (bytesOf "source_byte_offset") (sizeToU64 emission.sourceInstruction.byteOffset),
      bytesField (bytesOf "source_raw_encoding") (instructionBytes emission.sourceInstruction)] }

/-! ### The bytes of a decoded instruction -/

theorem toList_bytesOfWord (word : UInt32) : (bytesOfWord word).toList = leBytes 4 word.toNat := by
  have hbyte : ∀ shift : UInt32, shift.toNat < 32 →
      (word >>> shift &&& 0xff).toUInt8 = UInt8.ofNat (word.toNat >>> shift.toNat &&& 0xff) := by
    intro shift hshift
    rw [← UInt8.toNat_inj, UInt32.toNat_toUInt8, UInt32.toNat_and, UInt32.toNat_shiftRight,
      Nat.mod_eq_of_lt hshift, UInt8.toNat_ofNat']
    rfl
  have hzero := hbyte 0 (by decide)
  rw [UInt32.shiftRight_zero] at hzero
  show [_, _, _, _] = [_, _, _, _]
  rw [hzero, hbyte 8 (by decide), hbyte 16 (by decide), hbyte 24 (by decide)]
  rfl

/-- Words as bytes, the lowest byte of each first. -/
def littleEndianBytes (words : List UInt32) : List UInt8 :=
  words.flatMap fun word => leBytes 4 word.toNat

/-- The first word of an export: the test of `decode_rdna2_instruction`. -/
def isExpEncoding (word : UInt32) : Bool := decide (word &&& 0xfc000000 = 0xf8000000)

theorem littleEndianBytes_cons (word : UInt32) (words : List UInt32) :
    littleEndianBytes (word :: words) = (bytesOfWord word).toList ++ littleEndianBytes words := by
  rw [littleEndianBytes, List.flatMap_cons, toList_bytesOfWord, littleEndianBytes]

/-- A word at an index starts what is behind the words before it. -/
theorem drop_eq_cons {words : List UInt32} {wordIndex : ℕ} {word : UInt32}
    (hword : words[wordIndex]? = some word) :
    words.drop wordIndex = word :: words.drop (wordIndex + 1) := by
  obtain ⟨hlt, rfl⟩ := List.getElem?_eq_some_iff.mp hword
  exact List.drop_eq_getElem_cons hlt

section Instruction

variable {words : List UInt32} {wordIndex : ℕ} {word second : UInt32}

section

variable (hword : words[wordIndex]? = some word)

include hword

theorem littleEndianBytes_one :
    littleEndianBytes ((words.drop wordIndex).take 1) = (bytesOfWord word).toList := by
  rw [drop_eq_cons hword, List.take_succ_cons, List.take_zero, littleEndianBytes_cons]
  exact List.append_nil _

theorem littleEndianBytes_two (hsecond : words[wordIndex + 1]? = some second) :
    littleEndianBytes ((words.drop wordIndex).take 2) =
      (bytesOfWord word).toList ++ (bytesOfWord second).toList := by
  rw [drop_eq_cons hword, drop_eq_cons hsecond, List.take_succ_cons, List.take_succ_cons,
    List.take_zero, littleEndianBytes_cons, littleEndianBytes_cons]
  exact congrArg _ (List.append_nil _)

/-- An instruction of one word, or of two where a second word was announced. -/
theorem littleEndianBytes_extended {announced : Bool} {extension : Option UInt32}
    (hextension : extensionWord words wordIndex announced = .ok extension) :
    littleEndianBytes ((words.drop wordIndex).take (extendedWordCount extension)) =
      (bytesOfWord word).toList ++ extensionBytes extension := by
  unfold extensionWord at hextension
  split_ifs at hextension
  · rw [map_eq_ok] at hextension
    obtain ⟨second, hsecond, rfl⟩ := hextension
    exact littleEndianBytes_two hword (orRefuse_eq_ok.mp hsecond)
  · cases hextension
    rw [extensionBytes, Option.elim_none, List.append_nil]
    exact littleEndianBytes_one hword

/-- The bytes of an instruction that is no export are complete. -/
theorem instructionBytes_of_decode {instruction : Rdna2Instruction}
    (hexp : isExpEncoding word = false)
    (hdecoded : decodeRdna2Instruction words wordIndex = .ok instruction) :
    instructionBytes instruction =
      littleEndianBytes ((words.drop wordIndex).take instruction.wordCount) := by
  rw [decodeRdna2Instruction_eq (exists_word_of_decode hdecoded).1 hword,
    if_neg (of_decide_eq_false hexp)] at hdecoded
  split_ifs at hdecoded
  · cases hdecoded
    rw [decodeSopp, littleEndianBytes_one hword]
    simp [instructionBytes, extensionBytes]
  · simp only [decodeSop1, bind_eq_ok, pure_eq_ok] at hdecoded
    obtain ⟨extension, hextension, rfl⟩ := hdecoded
    rw [littleEndianBytes_extended hword hextension]
    simp [instructionBytes, extensionBytes]
  · simp only [decodeVop1, bind_eq_ok, pure_eq_ok] at hdecoded
    obtain ⟨extension, hextension, rfl⟩ := hdecoded
    rw [littleEndianBytes_extended hword hextension]
    simp [instructionBytes, extensionBytes]
  · simp only [decodeVop2, bind_eq_ok, pure_eq_ok] at hdecoded
    obtain ⟨extension, hextension, rfl⟩ := hdecoded
    rw [littleEndianBytes_extended hword hextension]
    simp [instructionBytes, extensionBytes]
  · cases hdecoded
    rw [unsupportedInstruction, littleEndianBytes_one hword]
    simp [instructionBytes, extensionBytes]

theorem instructionBytes_of_decode_exp {instruction : Rdna2Instruction}
    (hexp : isExpEncoding word = true)
    (hdecoded : decodeRdna2Instruction words wordIndex = .ok instruction) :
    instructionBytes instruction ≠
      littleEndianBytes ((words.drop wordIndex).take instruction.wordCount) := by
  rw [decodeRdna2Instruction_eq (exists_word_of_decode hdecoded).1 hword,
    if_pos (of_decide_eq_true hexp)] at hdecoded
  simp only [decodeExp, bind_eq_ok, pure_eq_ok] at hdecoded
  obtain ⟨second, hsecond, rfl⟩ := hdecoded
  intro h
  have hlength := congrArg List.length h
  rw [littleEndianBytes_two hword (orRefuse_eq_ok.mp hsecond)] at hlength
  simp [instructionBytes, extensionBytes] at hlength

end

end Instruction

/-- **The bytes in the trace are those of the instruction exactly when it is no export.** -/
theorem traceRdna2DecodeV0_rawEncoding_iff {host : Host} {words : List UInt32} {wordIndex : ℕ}
    {instruction : Rdna2Instruction} (eventId : UInt64)
    (hdecoded : decodeRdna2Instruction words wordIndex = .ok instruction)
    (hhost : host.allocation (.graphicsTraceEvent eventId) = none) :
    ∃ event, traceRdna2DecodeV0 host eventId instruction = .ok event ∧
      (bytesField (bytesOf "source_raw_encoding")
          (littleEndianBytes ((words.drop wordIndex).take instruction.wordCount)) ∈
            event.diagnostics ↔
        ∀ word, words[wordIndex]? = some word → isExpEncoding word = false) := by
  refine ⟨_, allocateEvent_eq_ok.mpr ⟨hhost, rfl⟩, ?_⟩
  obtain ⟨-, word, hword⟩ := exists_word_of_decode hdecoded
  have hname : bytesOf "source_raw_encoding" ≠ bytesOf "source_byte_offset" := by decide
  simp only [bytesField, u64Field, List.mem_cons, List.not_mem_nil, TraceFieldV0.mk.injEq, hname,
    false_and, false_or, or_false, true_and, TraceValueV0.bytes.injEq, hword, Option.some.injEq,
    forall_eq']
  cases hexp : isExpEncoding word with
  | false => simp [instructionBytes_of_decode hword hexp hdecoded]
  | true =>
    simp only [Bool.true_eq_false, iff_false]
    exact (instructionBytes_of_decode_exp hword hexp hdecoded).symm

/-- A scalar move of a literal, `s_mov_b32 s0, 0x12345678`, is traced with both of its words. -/
theorem traceRdna2DecodeV0_rawEncoding_literal :
    ∃ instruction event, decodeRdna2Instruction [0xbe8003ff, 0x12345678] 0 = .ok instruction ∧
      traceRdna2DecodeV0 Host.plentiful 1 instruction = .ok event ∧
      bytesField (bytesOf "source_raw_encoding") [0xff, 0x03, 0x80, 0xbe, 0x78, 0x56, 0x34, 0x12] ∈
        event.diagnostics := by
  obtain ⟨instruction, hdecoded⟩ :
      ∃ instruction, decodeRdna2Instruction [0xbe8003ff, 0x12345678] 0 = .ok instruction :=
    ⟨_, rfl⟩
  obtain ⟨event, htraced, hbytes⟩ :=
    traceRdna2DecodeV0_rawEncoding_iff 1 hdecoded (rfl : Host.plentiful.allocation _ = none)
  refine ⟨instruction, event, hdecoded, htraced, ?_⟩
  cases hdecoded
  refine hbytes.mpr ?_
  intro word hword
  cases hword
  decide

/-- The export `exp mrt0 v0, v1, v2, v3 done vm` is traced with the first of its two words. -/
theorem traceRdna2DecodeV0_rawEncoding_export :
    ∃ instruction event, decodeRdna2Instruction [0xf800180f, 0x03020100] 0 = .ok instruction ∧
      traceRdna2DecodeV0 Host.plentiful 1 instruction = .ok event ∧ instruction.wordCount = 2 ∧
      bytesField (bytesOf "source_raw_encoding") [0x0f, 0x18, 0x00, 0xf8] ∈ event.diagnostics ∧
      bytesField (bytesOf "source_raw_encoding") (littleEndianBytes [0xf800180f, 0x03020100]) ∉
        event.diagnostics :=
  ⟨_, _, rfl, rfl, rfl, by decide, by decide⟩

end Astraea.Trace
