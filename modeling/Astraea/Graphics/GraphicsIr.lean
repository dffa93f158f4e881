import Astraea.Graphics.Pm4Framing
import Astraea.Base.RegisterFile
import Astraea.Base.Word

/-!
# Graphics IR and register state

The packets that write registers are lowered to an intermediate representation, and the
result is applied to a register file. There are three files, for shader, context and
user-config registers, with a packet each; the packets differ in their opcode and the
operation they become, and the files in the operation they accept.

`RegisterBank.apply_of_lower` says that a frame that is lowered is also applied, and writes
the range its packet words spell; `RegisterBank.loadAll_eq` says that a run of frames
replays the ranges of those that go through.
-/

namespace Astraea.Graphics

open Astraea.Base Astraea.Core

/-! ### The representation -/

/-- Why a packet has no operation. -/
inductive GraphicsIrUnsupportedReason where
  | packetSemanticsUnknown
  deriving DecidableEq

/-- What a packet does. -/
inductive GraphicsIrOperation where
  | unsupported (reason : GraphicsIrUnsupportedReason)
  | shaderRegisterWriteRange (startOffset : UInt16) (values : List UInt32)
  | contextRegisterWriteRange (startOffset : UInt16) (values : List UInt32)
  | userConfigRegisterWriteRange (startOffset : UInt16) (values : List UInt32)
  | setInstanceCount (instanceCount : UInt32)
  | drawIndexAuto (indexCount initiator : UInt32)
  | gpuMemoryWrite (destination : UInt64) (values : List UInt32)
  deriving DecidableEq

/-- An operation, and the packet it came from. -/
structure GraphicsIrEmission where
  operation : GraphicsIrOperation
  sourcePacket : RawPacket
  deriving DecidableEq

/-- `graphics_ir_semantically_equal`. -/
def graphicsIrSemanticallyEqual (left right : GraphicsIrEmission) : Bool :=
  decide (left.operation = right.operation)

/-- `make_unsupported_packet_ir`. -/
def makeUnsupportedPacketIr (packet : RawPacket) : GraphicsIrEmission :=
  ⟨.unsupported .packetSemanticsUnknown, packet⟩

/-- The value of a word of a packet. -/
def RawPacket.word (packet : RawPacket) (index : ℕ) : UInt32 :=
  (packet.rawWords[index]?.map rawWordValue).getD 0

/-! ### Packets that write registers -/

/-- The opcode of `SET_SH_REG`. -/
def kPm4SetShRegOpcode : UInt8 := 0x76

/-- The opcode of `SET_CONTEXT_REG`. -/
def kPm4SetContextRegOpcode : UInt8 := 0x69

/-- The opcode of `SET_UCONFIG_REG`. -/
def kPm4SetUconfigRegOpcode : UInt8 := 0x79

/-- The shader registers a packet can reach. -/
def kPm4ShaderRegisterWindowDwords : ℕ := 0x400

/-- The context registers a packet can reach. -/
def kPm4ContextRegisterWindowDwords : ℕ := 0x400

/-- The user configuration registers a packet can reach. -/
def kPm4UserConfigRegisterWindowDwords : ℕ := 0x400

/-- The codes of the three lowerings, which differ in the name of the first. -/
inductive Pm4SetRegLowerErrorCode where
  | malformedSetReg
  | unsupportedRegisterControlBits
  | registerRangeOutOfBounds
  | hostAllocationFailure
  deriving DecidableEq

/-- A packet for registers that is not lowered. -/
structure Pm4SetRegLowerError where
  code : Pm4SetRegLowerErrorCode
  wordOffset : ℕ
  rawOffsetControlWord : UInt32 := 0
  valueCount : ℕ := 0
  deriving DecidableEq

/-- The lowering of a packet that writes registers: `opcode` is the packet's, `window` the size of
the register file and `operation` what the packet becomes. -/
def lowerSetRegFrame (opcode : UInt8) (window : ℕ)
    (operation : UInt16 → List UInt32 → GraphicsIrOperation) (host : Host) (frame : Pm4Type3Frame) :
    Except Pm4SetRegLowerError GraphicsIrEmission := do
  let allocationFailure : Pm4SetRegLowerError :=
    { code := .hostAllocationFailure, wordOffset := frame.wordOffset }
  if frame.header.opcode ≠ opcode then
    allocate host (.pm4RegisterValues frame.wordOffset) allocationFailure allocationFailure
    return makeUnsupportedPacketIr frame.rawPacket
  else
    let valueCount := frame.header.encodedCount.toNat
    refuseIf (valueCount = 0 ∨ frame.rawPacket.rawWords.length ≠ valueCount + 2 ∨
        frame.header.totalWordCount ≠ valueCount + 2)
          ⟨.malformedSetReg, frame.wordOffset, 0, valueCount⟩
    let offsetControlWord := frame.rawPacket.word 1
    refuseIf (offsetControlWord &&& 0xffff0000 ≠ 0)
      ⟨.unsupportedRegisterControlBits, frame.wordOffset, offsetControlWord, valueCount⟩
    let startOffset := (offsetControlWord &&& 0xffff).toUInt16
    let start := startOffset.toNat
    refuseIf (start ≥ window ∨ valueCount > window - start)
      ⟨.registerRangeOutOfBounds, frame.wordOffset, offsetControlWord, valueCount⟩
    allocate host (.pm4RegisterValues frame.wordOffset) allocationFailure allocationFailure
    let values := (List.range valueCount).map fun index => frame.rawPacket.word (index + 2)
    return ⟨operation startOffset values, frame.rawPacket⟩

/-- `lower_pm4_set_sh_reg_frame_to_graphics_ir`. -/
def lowerPm4SetShRegFrameToGraphicsIr :
    Host → Pm4Type3Frame → Except Pm4SetRegLowerError GraphicsIrEmission :=
  lowerSetRegFrame kPm4SetShRegOpcode kPm4ShaderRegisterWindowDwords .shaderRegisterWriteRange

/-- `lower_pm4_set_context_reg_frame_to_graphics_ir`. -/
def lowerPm4SetContextRegFrameToGraphicsIr :
    Host → Pm4Type3Frame → Except Pm4SetRegLowerError GraphicsIrEmission :=
  lowerSetRegFrame kPm4SetContextRegOpcode kPm4ContextRegisterWindowDwords
    .contextRegisterWriteRange

/-- `lower_pm4_set_uconfig_reg_frame_to_graphics_ir`. -/
def lowerPm4SetUconfigRegFrameToGraphicsIr :
    Host → Pm4Type3Frame → Except Pm4SetRegLowerError GraphicsIrEmission :=
  lowerSetRegFrame kPm4SetUconfigRegOpcode kPm4UserConfigRegisterWindowDwords
    .userConfigRegisterWriteRange

/-! ### Packets that draw -/

/-- The opcode of `DRAW_INDEX_AUTO`. -/
def kPm4DrawIndexAutoOpcode : UInt8 := 0x2d

/-- The opcode of `NUM_INSTANCES`. -/
def kPm4NumInstancesOpcode : UInt8 := 0x2f

/-- Why a packet for a draw is not lowered. -/
inductive Pm4DrawControlLowerErrorCode where
  | malformedNumInstances
  | malformedDrawIndexAuto
  deriving DecidableEq

/-- A packet for a draw that is not lowered. -/
structure Pm4DrawControlLowerError where
  code : Pm4DrawControlLowerErrorCode
  wordOffset : ℕ
  expectedTotalWordCount : ℕ
  actualTotalWordCount : ℕ
  deriving DecidableEq

/-- `lower_pm4_draw_control_frame_to_graphics_ir`. -/
def lowerPm4DrawControlFrameToGraphicsIr (frame : Pm4Type3Frame) :
    Except Pm4DrawControlLowerError GraphicsIrEmission :=
  let packet := frame.rawPacket
  if frame.header.opcode = kPm4NumInstancesOpcode then do
    refuseIf (frame.header.encodedCount ≠ 0 ∨ frame.header.totalWordCount ≠ 2 ∨
      packet.rawWords.length ≠ 2)
      ⟨.malformedNumInstances, frame.wordOffset, 2, packet.rawWords.length⟩
    return ⟨.setInstanceCount (packet.word 1), packet⟩
  else if frame.header.opcode = kPm4DrawIndexAutoOpcode then do
    refuseIf (frame.header.encodedCount ≠ 1 ∨ frame.header.totalWordCount ≠ 3 ∨
      packet.rawWords.length ≠ 3)
      ⟨.malformedDrawIndexAuto, frame.wordOffset, 3, packet.rawWords.length⟩
    return ⟨.drawIndexAuto (packet.word 1) (packet.word 2), packet⟩
  else .ok (makeUnsupportedPacketIr packet)

/-! ### Register state -/

/-- The number of shader registers. -/
def kShaderRegisterStateDwords : ℕ := kPm4ShaderRegisterWindowDwords

/-- The number of context registers. -/
def kContextRegisterStateDwords : ℕ := kPm4ContextRegisterWindowDwords

/-- The number of user configuration registers. -/
def kUserConfigRegisterStateDwords : ℕ := kPm4UserConfigRegisterWindowDwords

/-- A file of 1024 registers, which is what each of the three states is. -/
abbrev RegisterState := RegisterFile UInt32 0x400

/-- The shader registers. -/
abbrev ShaderRegisterState := RegisterState

/-- The context registers. -/
abbrev ContextRegisterState := RegisterState

/-- The user configuration registers. -/
abbrev UserConfigRegisterState := RegisterState

/-- The state nobody has written. -/
def RegisterState.initial : RegisterState := RegisterFile.clear 0x400 0

/-- What a write did to the registers. -/
structure RegisterWriteEffect where
  startOffset : UInt16
  valueCount : ℕ
  deriving DecidableEq

/-- Why a write is refused. -/
inductive RegisterApplyErrorCode where
  | unsupportedOperation
  | registerRangeOutOfBounds
  deriving DecidableEq

/-- A write that is refused. -/
structure RegisterApplyError where
  code : RegisterApplyErrorCode
  startOffset : UInt16 := 0
  valueCount : ℕ := 0
  unsupportedReason : Option GraphicsIrUnsupportedReason := none
  deriving DecidableEq

/-- Apply an operation to a register file of `dwords` registers; `range` finds the operation the
file accepts. -/
def applyRegisterGraphicsIr (dwords : ℕ)
    (range : GraphicsIrOperation → Option (UInt16 × List UInt32)) (emission : GraphicsIrEmission)
    (state : RegisterState) : Except RegisterApplyError RegisterWriteEffect × RegisterState :=
  match emission.operation with
  | .unsupported reason => (.error { code := .unsupportedOperation, unsupportedReason := reason },
      state)
  | operation =>
    match range operation with
    | none => (.error { code := .unsupportedOperation }, state)
    | some (startOffset, values) =>
      let start := startOffset.toNat
      let count := values.length
      if start ≥ dwords ∨ count > dwords - start then
        (.error
          { code := .registerRangeOutOfBounds, startOffset := startOffset, valueCount := count },
          state)
      else (.ok ⟨startOffset, count⟩, state.write start values)

/-- The operation the shader registers accept. -/
def GraphicsIrOperation.shaderRange : GraphicsIrOperation → Option (UInt16 × List UInt32)
  | .shaderRegisterWriteRange startOffset values => some (startOffset, values)
  | _ => none

/-- The operation the context registers accept. -/
def GraphicsIrOperation.contextRange : GraphicsIrOperation → Option (UInt16 × List UInt32)
  | .contextRegisterWriteRange startOffset values => some (startOffset, values)
  | _ => none

/-- The operation the user-config registers accept. -/
def GraphicsIrOperation.userConfigRange : GraphicsIrOperation → Option (UInt16 × List UInt32)
  | .userConfigRegisterWriteRange startOffset values => some (startOffset, values)
  | _ => none

/-- `apply_shader_register_graphics_ir`. -/
def applyShaderRegisterGraphicsIr :
    GraphicsIrEmission → RegisterState →
    Except RegisterApplyError RegisterWriteEffect × RegisterState :=
  applyRegisterGraphicsIr kShaderRegisterStateDwords GraphicsIrOperation.shaderRange

/-- `apply_context_register_graphics_ir`. -/
def applyContextRegisterGraphicsIr :
    GraphicsIrEmission → RegisterState →
    Except RegisterApplyError RegisterWriteEffect × RegisterState :=
  applyRegisterGraphicsIr kContextRegisterStateDwords GraphicsIrOperation.contextRange

/-- `apply_user_config_register_graphics_ir`. -/
def applyUserConfigRegisterGraphicsIr :
    GraphicsIrEmission → RegisterState →
    Except RegisterApplyError RegisterWriteEffect × RegisterState :=
  applyRegisterGraphicsIr kUserConfigRegisterStateDwords GraphicsIrOperation.userConfigRange

/-! ### Program addresses -/

/-- The lower half of the address of the pixel program. -/
def kPixelProgramLoRegisterOffset : UInt16 := 0x0008

/-- The upper half of the address of the pixel program. -/
def kPixelProgramHiRegisterOffset : UInt16 := 0x0009

/-- The lower half of the address of the geometry program. -/
def kGeometryEsProgramLoRegisterOffset : UInt16 := 0x00c8

/-- The upper half of the address of the geometry program. -/
def kGeometryEsProgramHiRegisterOffset : UInt16 := 0x00c9

/-- Why registers have no address of a program. -/
inductive ProgramAddressErrorCode where
  | pgmLoUninitialized
  | pgmHiUninitialized
  | unsupportedPgmHiBits
  deriving DecidableEq

/-- Registers that have no address of a program. -/
structure ProgramAddressError where
  code : ProgramAddressErrorCode
  pgmLo : UInt32 := 0
  pgmHi : UInt32 := 0
  deriving DecidableEq

/-- The test of one mark. -/
def RegisterState.isInitialized (state : RegisterState) (offset : UInt16) : Bool :=
  state.initialized[offset.toNat]?.getD false

/-- The value of one register. -/
def RegisterState.valueOf (state : RegisterState) (offset : UInt16) : UInt32 :=
  state.values[offset.toNat]?.getD 0

/-- The program address in a pair of registers. -/
def resolveProgramAddress (loOffset hiOffset : UInt16) (state : ShaderRegisterState) :
    Except ProgramAddressError UInt64 := do
  refuseIf (state.isInitialized loOffset = false) { code := .pgmLoUninitialized }
  let pgmLo := state.valueOf loOffset
  refuseIf (state.isInitialized hiOffset = false) { code := .pgmHiUninitialized, pgmLo := pgmLo }
  let pgmHi := state.valueOf hiOffset
  refuseIf (pgmHi &&& 0xffffff00 ≠ 0) ⟨.unsupportedPgmHiBits, pgmLo, pgmHi⟩
  return pgmLo.toUInt64 <<< 8 ||| (pgmHi &&& 0xff).toUInt64 <<< 40

/-- `resolve_pixel_program_address`. -/
def resolvePixelProgramAddress : ShaderRegisterState → Except ProgramAddressError UInt64 :=
  resolveProgramAddress kPixelProgramLoRegisterOffset kPixelProgramHiRegisterOffset

/-- `resolve_geometry_es_program_address`. -/
def resolveGeometryEsProgramAddress : ShaderRegisterState → Except ProgramAddressError UInt64 :=
  resolveProgramAddress kGeometryEsProgramLoRegisterOffset kGeometryEsProgramHiRegisterOffset

section Read

variable {state : RegisterState} {offset : UInt16} {value : UInt32}

theorem RegisterState.isInitialized_of_read (h : state.read offset.toNat = some value) :
    state.isInitialized offset = true := by
  rw [RegisterState.isInitialized, (RegisterFile.read_eq_some.mp h).1]
  rfl

theorem RegisterState.valueOf_of_read (h : state.read offset.toNat = some value) :
    state.valueOf offset = value := by
  rw [RegisterState.valueOf, (RegisterFile.read_eq_some.mp h).2]
  rfl

theorem resolveProgramAddress_of_read {loOffset hiOffset : UInt16} {lo hi : UInt32}
    (hlo : state.read loOffset.toNat = some lo) (hhi : state.read hiOffset.toNat = some hi)
    (hbits : hi &&& 0xffffff00 = 0) :
    resolveProgramAddress loOffset hiOffset state =
      .ok (lo.toUInt64 <<< 8 ||| (hi &&& 0xff).toUInt64 <<< 40) := by
  simp only [resolveProgramAddress, bind_eq_ok, refuseIf_eq_ok, pure_eq_ok,
    RegisterState.isInitialized_of_read hlo, RegisterState.isInitialized_of_read hhi,
    RegisterState.valueOf_of_read hlo, RegisterState.valueOf_of_read hhi]
  exact ⟨(), by simp, (), by simp, (), not_not.mpr hbits, trivial⟩

end Read

/-! ### The first draw -/

/-- The register of the primitive type. -/
def kFirstRasterPrimitiveTypeUconfigOffset : UInt16 := 0x242

/-- The primitive type that is supported. -/
def kFirstRasterPrimitiveTypeRaw : UInt32 := 4

/-- The number of instances that is supported. -/
def kFirstRasterInstanceCount : UInt32 := 1

/-- The number of indices that is supported. -/
def kFirstRasterIndexCount : UInt32 := 3

/-- The initiator that is supported. -/
def kFirstRasterAutoIndexInitiatorRaw : UInt32 := 2

/-- A draw that is supported. -/
structure FirstRasterDrawPlan where
  primitiveTypeRaw : UInt32
  instanceCount : UInt32
  indexCount : UInt32
  initiatorRaw : UInt32
  deriving DecidableEq

/-- Why a draw is not supported. -/
inductive FirstRasterDrawPlanErrorCode where
  | primitiveTypeNotInitialized
  | unsupportedPrimitiveType
  | unsupportedInstanceCount
  | unsupportedIndexCount
  | unsupportedInitiator
  deriving DecidableEq

/-- A draw that is not supported. -/
structure FirstRasterDrawPlanError where
  code : FirstRasterDrawPlanErrorCode
  actualValue : UInt32 := 0
  deriving DecidableEq

/-- `plan_first_raster_draw`. -/
def planFirstRasterDraw (userConfigState : UserConfigRegisterState)
    (instanceCount indexCount initiator : UInt32) :
    Except FirstRasterDrawPlanError FirstRasterDrawPlan := do
  refuseIf (userConfigState.isInitialized kFirstRasterPrimitiveTypeUconfigOffset = false)
    { code := .primitiveTypeNotInitialized }
  let primitiveType := userConfigState.valueOf kFirstRasterPrimitiveTypeUconfigOffset
  refuseIf (primitiveType ≠ kFirstRasterPrimitiveTypeRaw) ⟨.unsupportedPrimitiveType, primitiveType⟩
  refuseIf (instanceCount ≠ kFirstRasterInstanceCount) ⟨.unsupportedInstanceCount, instanceCount⟩
  refuseIf (indexCount ≠ kFirstRasterIndexCount) ⟨.unsupportedIndexCount, indexCount⟩
  refuseIf (initiator ≠ kFirstRasterAutoIndexInitiatorRaw) ⟨.unsupportedInitiator, initiator⟩
  return ⟨primitiveType, instanceCount, indexCount, initiator⟩

/-! ### What a frame writes -/

/-- The three register files. -/
inductive RegisterBank where
  | shader
  | context
  | userConfig
  deriving DecidableEq

namespace RegisterBank

/-- The packet that writes a file. -/
def opcode : RegisterBank → UInt8
  | shader => kPm4SetShRegOpcode
  | context => kPm4SetContextRegOpcode
  | userConfig => kPm4SetUconfigRegOpcode

/-- The lowering of that packet. -/
def lower : RegisterBank → Host → Pm4Type3Frame → Except Pm4SetRegLowerError GraphicsIrEmission
  | shader => lowerPm4SetShRegFrameToGraphicsIr
  | context => lowerPm4SetContextRegFrameToGraphicsIr
  | userConfig => lowerPm4SetUconfigRegFrameToGraphicsIr

/-- The application of what it becomes. -/
def apply :
    RegisterBank → GraphicsIrEmission → RegisterState →
    Except RegisterApplyError RegisterWriteEffect × RegisterState
  | shader => applyShaderRegisterGraphicsIr
  | context => applyContextRegisterGraphicsIr
  | userConfig => applyUserConfigRegisterGraphicsIr

/-- What it becomes. -/
def operation : RegisterBank → UInt16 → List UInt32 → GraphicsIrOperation
  | shader => .shaderRegisterWriteRange
  | context => .contextRegisterWriteRange
  | userConfig => .userConfigRegisterWriteRange

end RegisterBank

/-- The range a packet spells: the second word is the first register, the words behind it are the
values. -/
def RawPacket.range (packet : RawPacket) : RegisterRange UInt32 :=
  ⟨(packet.word 1).toNat, (packet.rawWords.drop 2).map rawWordValue⟩

theorem RawPacket.map_word_eq {packet : RawPacket} {count : ℕ}
    (h : packet.rawWords.length = count + 2) :
    (List.range count).map (fun index => packet.word (index + 2)) = packet.range.values := by
  apply List.ext_getElem
  · simp [RawPacket.range, h]
  · intro index h1 h2
    have hindex : index + 2 < packet.rawWords.length := by
      simp only [List.length_map, List.length_range] at h1
      omega
    simp [RawPacket.word, RawPacket.range, List.getElem?_eq_getElem hindex, Nat.add_comm 2]

/-- An offset word without control bits is the register it names. -/
theorem toNat_startOffset {word : UInt32} (h : word &&& 0xffff0000 = 0) :
    (word &&& 0xffff).toUInt16.toNat = word.toNat := by
  have hlt : word.toNat < 2 ^ 16 := by
    refine lt_two_pow_of_and_mask (j := 16) word.toNat_lt ?_
    have := congrArg UInt32.toNat h
    rwa [UInt32.toNat_and] at this
  have hmask : (word &&& 0xffff).toNat = word.toNat := by
    rw [UInt32.toNat_and]
    exact (Nat.and_two_pow_sub_one_eq_mod word.toNat 16).trans (Nat.mod_eq_of_lt hlt)
  rw [UInt32.toNat_toUInt16, hmask, Nat.mod_eq_of_lt hlt]

/-- What goes through the lowering of a register packet is the range the packet spells. -/
theorem lowerSetRegFrame_eq_ok {opcode : UInt8} {window : ℕ}
    {operation : UInt16 → List UInt32 → GraphicsIrOperation} {host : Host} {frame : Pm4Type3Frame}
    {emission : GraphicsIrEmission} (hopcode : frame.header.opcode = opcode)
    (h : lowerSetRegFrame opcode window operation host frame = .ok emission) :
    ∃ startOffset, emission = ⟨operation startOffset frame.rawPacket.range.values,
      frame.rawPacket⟩ ∧
      startOffset.toNat = frame.rawPacket.range.start ∧ 0 < frame.rawPacket.range.values.length ∧
      frame.rawPacket.range.start + frame.rawPacket.range.values.length ≤ window := by
  rw [lowerSetRegFrame, if_neg (not_not.mpr hopcode)] at h
  simp only [bind_eq_ok, refuseIf_eq_ok, allocate_eq_ok, pure_eq_ok, not_or, not_not] at h
  obtain ⟨-, ⟨hpos, hlength, -⟩, -, hcontrol, -, ⟨hstart, hcount⟩, -, -, rfl⟩ := h
  have hvalues : frame.rawPacket.range.values.length = frame.header.encodedCount.toNat := by
    simp [RawPacket.range, hlength]
  refine ⟨_, by rw [RawPacket.map_word_eq hlength], toNat_startOffset hcontrol, ?_, ?_⟩
  · rw [hvalues]
    exact Nat.pos_of_ne_zero hpos
  · rw [toNat_startOffset hcontrol] at hstart hcount
    rw [hvalues]
    simp only [RawPacket.range]
    omega

namespace RegisterBank

variable {bank : RegisterBank} {host : Host} {frame : Pm4Type3Frame} {emission : GraphicsIrEmission}
  {state : RegisterState}

theorem lower_eq_ok (hopcode : frame.header.opcode = bank.opcode)
    (h : bank.lower host frame = .ok emission) :
    ∃ startOffset, emission = ⟨bank.operation startOffset frame.rawPacket.range.values,
      frame.rawPacket⟩ ∧
      startOffset.toNat = frame.rawPacket.range.start ∧ 0 < frame.rawPacket.range.values.length ∧
      frame.rawPacket.range.start + frame.rawPacket.range.values.length ≤ 0x400 := by
  cases bank with
  | shader => exact lowerSetRegFrame_eq_ok hopcode h
  | context => exact lowerSetRegFrame_eq_ok hopcode h
  | userConfig => exact lowerSetRegFrame_eq_ok hopcode h

theorem apply_operation {startOffset : UInt16} {values : List UInt32} {packet : RawPacket}
    (hpos : 0 < values.length) (hfits : startOffset.toNat + values.length ≤ 0x400) :
    bank.apply ⟨bank.operation startOffset values, packet⟩ state =
      (.ok ⟨startOffset, values.length⟩, state.write startOffset.toNat values) := by
  have hin : ¬ (startOffset.toNat ≥ 0x400 ∨ values.length > 0x400 - startOffset.toNat) := by omega
  cases bank with
  | shader => exact if_neg hin
  | context => exact if_neg hin
  | userConfig => exact if_neg hin

/-- **A frame that is lowered is applied**, and writes the range its packet spells. -/
theorem apply_of_lower (hopcode : frame.header.opcode = bank.opcode)
    (h : bank.lower host frame = .ok emission) (state : RegisterState) :
    ∃ effect, bank.apply emission state =
      (.ok effect, state.write frame.rawPacket.range.start frame.rawPacket.range.values) := by
  obtain ⟨startOffset, rfl, hstart, hpos, hfits⟩ := lower_eq_ok hopcode h
  exact ⟨_, by rw [apply_operation hpos (by rwa [hstart]), hstart]⟩

theorem apply_of_lower_ne (hopcode : frame.header.opcode ≠ bank.opcode)
    (h : bank.lower host frame = .ok emission) (state : RegisterState) :
    ∃ e, bank.apply emission state = (.error e, state) := by
  have hemission : emission = makeUnsupportedPacketIr frame.rawPacket := by
    cases bank <;>
    · simp only [lower, lowerPm4SetShRegFrameToGraphicsIr, lowerPm4SetContextRegFrameToGraphicsIr,
        lowerPm4SetUconfigRegFrameToGraphicsIr, lowerSetRegFrame] at h
      simp only [opcode] at hopcode
      rw [if_pos hopcode] at h
      simp only [bind_eq_ok, allocate_eq_ok, pure_eq_ok] at h
      obtain ⟨-, -, rfl⟩ := h
      rfl
  subst hemission
  cases bank <;> exact ⟨_, rfl⟩

/-- Lower a frame and apply the result; what fails leaves the registers as they are. -/
def load (bank : RegisterBank) (host : Host) (state : RegisterState) (frame : Pm4Type3Frame) :
    RegisterState :=
  match bank.lower host frame with
  | .ok emission => (bank.apply emission state).2
  | .error _ => state

/-- Load frames one after another. -/
def loadAll (bank : RegisterBank) (host : Host) (state : RegisterState)
    (frames : List Pm4Type3Frame) : RegisterState :=
  frames.foldl (bank.load host) state

/-- The range a frame writes, if it goes through. -/
def written (bank : RegisterBank) (host : Host) (frame : Pm4Type3Frame) :
    Option (RegisterRange UInt32) :=
  if frame.header.opcode = bank.opcode ∧ (bank.lower host frame).isOk = true then
    some frame.rawPacket.range else none

theorem load_eq (bank : RegisterBank) (host : Host) (state : RegisterState)
    (frame : Pm4Type3Frame) :
    bank.load host state frame = state.replay (bank.written host frame).toList := by
  unfold load written
  cases hlower : bank.lower host frame with
  | error e => simp [Except.isOk, Except.toBool, RegisterFile.replay]
  | ok emission =>
    by_cases hopcode : frame.header.opcode = bank.opcode
    · obtain ⟨effect, happly⟩ := apply_of_lower hopcode hlower state
      simp [happly, hopcode, Except.isOk, Except.toBool, RegisterFile.replay]
    · obtain ⟨e, happly⟩ := apply_of_lower_ne hopcode hlower state
      simp [happly, hopcode, RegisterFile.replay]

/-- **Loading frames replays the ranges they write.** -/
theorem loadAll_eq (bank : RegisterBank) (host : Host) (state : RegisterState)
    (frames : List Pm4Type3Frame) :
    bank.loadAll host state frames = state.replay (frames.filterMap (bank.written host)) := by
  induction frames generalizing state with
  | nil => rfl
  | cons frame frames ih =>
    show bank.loadAll host (bank.load host state frame) frames = _
    rw [ih, load_eq, ← RegisterFile.replay_append, List.filterMap_cons]
    cases bank.written host frame <;> rfl

/-- The word for a register that is left over when frames are loaded: a frame writes it and no later
one does. -/
def LastLoaded (bank : RegisterBank) (host : Host) (frames : List Pm4Type3Frame) (register : ℕ)
    (word : UInt32) : Prop :=
  ∃ before frame after, frames = before ++ frame :: after ∧
    (∃ range, bank.written host frame = some range ∧ range.valueAt register = some word) ∧
    ∀ later ∈ after, ∀ range, bank.written host later = some range → ¬ range.Covers register

/-- **A register reads the word that was loaded last.** -/
theorem read_loadAll {frames : List Pm4Type3Frame} {register : ℕ} (hregister : register < 0x400)
    {word : UInt32} (h : bank.LastLoaded host frames register word) :
    (bank.loadAll host state frames).read register = some word := by
  obtain ⟨before, frame, after, hframes, ⟨range, hrange, hword⟩, hafter⟩ := h
  have hlast : lastHit (fun frame => (bank.written host frame).bind (·.valueAt register)) frames =
      some word := by
    rw [lastHit_eq_some]
    refine ⟨before, frame, after, hframes, by rw [hrange]; exact hword, fun later hlater => ?_⟩
    rw [Option.bind_eq_none_iff]
    intro range' hrange'
    exact RegisterRange.valueAt_eq_none.mpr (hafter later hlater range' hrange')
  rw [loadAll_eq, RegisterFile.read_replay _ hregister, lastHit_filterMap, hlast, Option.some_or]

end RegisterBank

end Astraea.Graphics
