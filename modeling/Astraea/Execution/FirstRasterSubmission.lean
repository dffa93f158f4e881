import Astraea.Graphics.ColorTarget

/-!
# The first raster submission

`plan_sce_agc_first_raster_submission` turns a command buffer with a single draw into a plan.
It goes through the frames of the buffer, applies every packet that writes registers to one
of three register files, and notes for the registers it is going to use which word of the
buffer they came from. At the draw all of this is put aside; when the buffer has come to its
end the plan is made from what was put aside.

`Tracks` says what the registers and the notes have to do with the frames so far: the files
are a replay of the ranges the frames write, and each note is the last frame that reaches the
register. It holds after every frame, so it holds of what was put aside at the draw.
-/

namespace Astraea.Execution

open Astraea.Base Astraea.Core Astraea.Graphics

/-! ### The submission and its errors -/

/-- A command buffer that was submitted. -/
structure SceAgcDcbSubmission where
  flag : UInt8
  commandBufferBytes : List UInt8
  deriving DecidableEq

/-- Where a value was set: a frame of the buffer, and a word of it. -/
structure SceAgcRasterPacketSource where
  frameIndex : ℕ
  packetWordOffset : ℕ
  valueWordOffset : ℕ
  deriving DecidableEq

/-- Where each register of the color target was set. -/
structure SceAgcColorTargetPacketSources where
  targetMask : SceAgcRasterPacketSource
  base : SceAgcRasterPacketSource
  info : SceAgcRasterPacketSource
  baseExt : SceAgcRasterPacketSource
  attrib2 : SceAgcRasterPacketSource
  attrib3 : SceAgcRasterPacketSource
  deriving DecidableEq

/-- What a submission draws, and where each of its values was set. -/
structure SceAgcFirstRasterSubmissionPlan where
  shaderRegisterState : ShaderRegisterState
  contextRegisterState : ContextRegisterState
  userConfigRegisterState : UserConfigRegisterState
  geometryProgramAddress : UInt64
  pixelProgramAddress : UInt64
  colorTargetState : ColorTarget0ContextState
  colorTargetImage : GuestGpuImageDescriptor
  draw : FirstRasterDrawPlan
  geometryPgmLoSource : SceAgcRasterPacketSource
  geometryPgmHiSource : SceAgcRasterPacketSource
  pixelPgmLoSource : SceAgcRasterPacketSource
  pixelPgmHiSource : SceAgcRasterPacketSource
  primitiveTypeSource : SceAgcRasterPacketSource
  instancesSource : SceAgcRasterPacketSource
  drawSource : SceAgcRasterPacketSource
  colorTargetSources : SceAgcColorTargetPacketSources

/-- Why a submission is refused. -/
inductive SceAgcFirstRasterSubmissionErrorCode where
  | unsupportedSubmitFlag
  | pm4FramingFailure
  | unsupportedType3HeaderControlBits
  | unsupportedOpcode
  | setShLoweringFailure
  | shaderRegisterApplyFailure
  | setContextLoweringFailure
  | contextRegisterApplyFailure
  | setUconfigLoweringFailure
  | userConfigRegisterApplyFailure
  | drawControlLoweringFailure
  | missingInstanceCountBeforeDraw
  | multipleDraws
  | missingDraw
  | geometryProgramAddressFailure
  | pixelProgramAddressFailure
  | missingProgramRegisterProvenance
  | missingPrimitiveProvenance
  | missingColorTargetProvenance
  | drawPlanFailure
  | colorTargetDecodeFailure
  | colorTargetImageFailure
  deriving DecidableEq

/-- A refused submission: the code, the frame it is about, and the error below it. -/
structure SceAgcFirstRasterSubmissionError where
  code : SceAgcFirstRasterSubmissionErrorCode
  submitFlag : UInt8 := 0
  frameIndex : Option ℕ := none
  wordOffset : Option ℕ := none
  opcode : UInt8 := 0
  type3HeaderControlBits : UInt8 := 0
  pm4FramingError : Option Pm4Type3FrameError := none
  setShLoweringError : Option Pm4SetRegLowerError := none
  shaderRegisterApplyError : Option RegisterApplyError := none
  setContextLoweringError : Option Pm4SetRegLowerError := none
  contextRegisterApplyError : Option RegisterApplyError := none
  setUconfigLoweringError : Option Pm4SetRegLowerError := none
  userConfigRegisterApplyError : Option RegisterApplyError := none
  drawControlLoweringError : Option Pm4DrawControlLowerError := none
  geometryProgramAddressError : Option ProgramAddressError := none
  pixelProgramAddressError : Option ProgramAddressError := none
  drawPlanError : Option FirstRasterDrawPlanError := none
  colorTargetError : Option ColorTarget0ContextError := none
  colorTargetImageError : Option Gfx10ColorTargetImageError := none
  deriving DecidableEq

/-- An error at a frame. -/
def frameError (code : SceAgcFirstRasterSubmissionErrorCode) (frameIndex : ℕ)
    (frame : Pm4Type3Frame) :
    SceAgcFirstRasterSubmissionError where
  code := code
  frameIndex := frameIndex
  wordOffset := frame.wordOffset
  opcode := frame.header.opcode

/-! ### Where a register came from -/

/-- Note the word that a write has for a register, if it reaches the register; `range` finds the
write. -/
def recordRegisterSource (range : GraphicsIrOperation → Option (UInt16 × List UInt32))
    (emission : GraphicsIrEmission) (frameIndex : ℕ) (targetRegister : UInt16)
    (output : Option SceAgcRasterPacketSource) : Option SceAgcRasterPacketSource :=
  match range emission.operation with
  | none => output
  | some (startOffset, values) =>
    let start := startOffset.toNat
    let target := targetRegister.toNat
    if target < start ∨ target - start ≥ values.length then output
    else
      let valueIndex := target - start
      let packetWordOffset := emission.sourcePacket.extent.wordOffset
      some ⟨frameIndex, packetWordOffset, packetWordOffset + 2 + valueIndex⟩

/-- `record_shader_register_source`. -/
def recordShaderRegisterSource :
    GraphicsIrEmission → ℕ → UInt16 → Option SceAgcRasterPacketSource →
    Option SceAgcRasterPacketSource :=
  recordRegisterSource GraphicsIrOperation.shaderRange

/-- `record_context_register_source`. -/
def recordContextRegisterSource :
    GraphicsIrEmission → ℕ → UInt16 → Option SceAgcRasterPacketSource →
    Option SceAgcRasterPacketSource :=
  recordRegisterSource GraphicsIrOperation.contextRange

/-- `record_uconfig_register_source`. -/
def recordUconfigRegisterSource :
    GraphicsIrEmission → ℕ → UInt16 → Option SceAgcRasterPacketSource →
    Option SceAgcRasterPacketSource :=
  recordRegisterSource GraphicsIrOperation.userConfigRange

/-! ### The loop over the frames -/

/-- Where the registers of the color target were set so far. -/
structure ColorTargetSourceSnapshot where
  targetMask : Option SceAgcRasterPacketSource := none
  base : Option SceAgcRasterPacketSource := none
  info : Option SceAgcRasterPacketSource := none
  baseExt : Option SceAgcRasterPacketSource := none
  attrib2 : Option SceAgcRasterPacketSource := none
  attrib3 : Option SceAgcRasterPacketSource := none

/-- The register files, and the sources of the registers the plan is going to use. -/
structure RasterRegisters where
  shaderState : ShaderRegisterState := RegisterState.initial
  contextState : ContextRegisterState := RegisterState.initial
  userConfigState : UserConfigRegisterState := RegisterState.initial
  geometryPgmLoSource : Option SceAgcRasterPacketSource := none
  geometryPgmHiSource : Option SceAgcRasterPacketSource := none
  pixelPgmLoSource : Option SceAgcRasterPacketSource := none
  pixelPgmHiSource : Option SceAgcRasterPacketSource := none
  primitiveTypeSource : Option SceAgcRasterPacketSource := none
  colorTargetSources : ColorTargetSourceSnapshot := {}

/-- What is put aside at the draw. -/
structure DrawSnapshot where
  registers : RasterRegisters
  instanceCount : UInt32
  indexCount : UInt32
  initiator : UInt32
  instancesSource : SceAgcRasterPacketSource
  drawSource : SceAgcRasterPacketSource

/-- The variables of the loop. -/
structure RasterLoop where
  registers : RasterRegisters := {}
  currentInstances : Option UInt32 := none
  currentInstancesSource : Option SceAgcRasterPacketSource := none
  drawSnapshot : Option DrawSnapshot := none

section Step

variable (host : Host) (frameIndex : ℕ) (frame : Pm4Type3Frame)

/-- The case of `SET_SH_REG`. -/
def setShReg (registers : RasterRegisters) :
    Except SceAgcFirstRasterSubmissionError RasterRegisters := do
  let emission ← (lowerPm4SetShRegFrameToGraphicsIr host frame).mapError fun e =>
    { frameError .setShLoweringFailure frameIndex frame with setShLoweringError := some e }
  let applied := applyShaderRegisterGraphicsIr emission registers.shaderState
  let _ ← applied.1.mapError fun e =>
    { frameError .shaderRegisterApplyFailure frameIndex frame with
      shaderRegisterApplyError := some e }
  let record := recordShaderRegisterSource emission frameIndex
  return { registers with
    shaderState := applied.2
    geometryPgmLoSource := record kGeometryEsProgramLoRegisterOffset registers.geometryPgmLoSource
    geometryPgmHiSource := record kGeometryEsProgramHiRegisterOffset registers.geometryPgmHiSource
    pixelPgmLoSource := record kPixelProgramLoRegisterOffset registers.pixelPgmLoSource
    pixelPgmHiSource := record kPixelProgramHiRegisterOffset registers.pixelPgmHiSource }

/-- The case of `SET_CONTEXT_REG`. -/
def setContextReg (registers : RasterRegisters) :
    Except SceAgcFirstRasterSubmissionError RasterRegisters := do
  let emission ← (lowerPm4SetContextRegFrameToGraphicsIr host frame).mapError fun e =>
    { frameError .setContextLoweringFailure frameIndex frame with
      setContextLoweringError := some e }
  let applied := applyContextRegisterGraphicsIr emission registers.contextState
  let _ ← applied.1.mapError fun e =>
    { frameError .contextRegisterApplyFailure frameIndex frame with
      contextRegisterApplyError := some e }
  let record := recordContextRegisterSource emission frameIndex
  let sources := registers.colorTargetSources
  return { registers with
    contextState := applied.2
    colorTargetSources :=
      { targetMask := record kColorTargetMaskContextOffset sources.targetMask
        base := record kColorTarget0BaseContextOffset sources.base
        info := record kColorTarget0InfoContextOffset sources.info
        baseExt := record kColorTarget0BaseExtContextOffset sources.baseExt
        attrib2 := record kColorTarget0Attrib2ContextOffset sources.attrib2
        attrib3 := record kColorTarget0Attrib3ContextOffset sources.attrib3 } }

/-- The case of `SET_UCONFIG_REG`. -/
def setUconfigReg (registers : RasterRegisters) :
    Except SceAgcFirstRasterSubmissionError RasterRegisters := do
  let emission ← (lowerPm4SetUconfigRegFrameToGraphicsIr host frame).mapError fun e =>
    { frameError .setUconfigLoweringFailure frameIndex frame with
      setUconfigLoweringError := some e }
  let applied := applyUserConfigRegisterGraphicsIr emission registers.userConfigState
  let _ ← applied.1.mapError fun e =>
    { frameError .userConfigRegisterApplyFailure frameIndex frame with
      userConfigRegisterApplyError := some e }
  return { registers with
    userConfigState := applied.2
    primitiveTypeSource :=
      recordUconfigRegisterSource emission frameIndex kFirstRasterPrimitiveTypeUconfigOffset
      registers.primitiveTypeSource }

/-- The source of the first word behind the header of the frame. -/
def frameSource : SceAgcRasterPacketSource := ⟨frameIndex, frame.wordOffset, frame.wordOffset + 1⟩

/-- The draw itself: put everything aside. -/
def takeDraw (indexCount initiator : UInt32) (state : RasterLoop) :
    Except SceAgcFirstRasterSubmissionError RasterLoop := do
  refuseIf (state.drawSnapshot.isSome = true) (frameError .multipleDraws frameIndex frame)
  let instanceCount ← orRefuse state.currentInstances
    (frameError .missingInstanceCountBeforeDraw frameIndex frame)
  let instancesSource ← orRefuse state.currentInstancesSource
    (frameError .missingInstanceCountBeforeDraw frameIndex frame)
  return { state with
    drawSnapshot := some
      { registers := state.registers
        instanceCount := instanceCount
        indexCount := indexCount
        initiator := initiator
        instancesSource := instancesSource
        drawSource := frameSource frameIndex frame } }

/-- The case of `NUM_INSTANCES` and `DRAW_INDEX_AUTO`. -/
def drawControl (state : RasterLoop) : Except SceAgcFirstRasterSubmissionError RasterLoop := do
  let emission ← (lowerPm4DrawControlFrameToGraphicsIr frame).mapError fun e =>
    { frameError .drawControlLoweringFailure frameIndex frame with
      drawControlLoweringError := some e }
  match emission.operation with
  | .setInstanceCount instanceCount =>
    return { state with
      currentInstances := some instanceCount
      currentInstancesSource := some (frameSource frameIndex frame) }
  | .drawIndexAuto indexCount initiator => takeDraw frameIndex frame indexCount initiator state
  | _ => .error (frameError .unsupportedOpcode frameIndex frame)

/-- One turn of the loop. -/
def rasterStep (state : RasterLoop) : Except SceAgcFirstRasterSubmissionError RasterLoop :=
  let opcode := frame.header.opcode
  if frame.header.lowControlBits ≠ 0 then
    .error { frameError .unsupportedType3HeaderControlBits frameIndex frame with
      type3HeaderControlBits := frame.header.lowControlBits }
  else if opcode = kPm4SetShRegOpcode then
    (setShReg host frameIndex frame state.registers).map ({ state with registers := · })
  else if opcode = kPm4SetContextRegOpcode then
    (setContextReg host frameIndex frame state.registers).map ({ state with registers := · })
  else if opcode = kPm4SetUconfigRegOpcode then
    (setUconfigReg host frameIndex frame state.registers).map ({ state with registers := · })
  else if opcode = kPm4NumInstancesOpcode ∨ opcode = kPm4DrawIndexAutoOpcode then
    drawControl frameIndex frame state
  else .error (frameError .unsupportedOpcode frameIndex frame)

end Step

/-- The loop, from a frame index on. -/
def rasterLoop (host : Host) :
    (frameIndex : ℕ) → List Pm4Type3Frame → RasterLoop →
    Except SceAgcFirstRasterSubmissionError RasterLoop
  | _, [], state => .ok state
  | frameIndex, frame :: frames, state => do
    let state ← rasterStep host frameIndex frame state
    rasterLoop host (frameIndex + 1) frames state

/-! ### The plan -/

/-- `complete_color_target_sources`: the six sources, if all of them are there. -/
def completeColorTargetSources (sources : ColorTargetSourceSnapshot) :
    Option SceAgcColorTargetPacketSources := do
  return ⟨← sources.targetMask, ← sources.base, ← sources.info, ← sources.baseExt,
    ← sources.attrib2, ← sources.attrib3⟩

/-- The plan for what was put aside at the draw. -/
def planDraw (snapshot : DrawSnapshot) :
    Except SceAgcFirstRasterSubmissionError SceAgcFirstRasterSubmissionPlan := do
  let registers := snapshot.registers
  let geometryAddress ← (resolveGeometryEsProgramAddress registers.shaderState).mapError fun e =>
    { code := .geometryProgramAddressFailure, geometryProgramAddressError := some e }
  let pixelAddress ← (resolvePixelProgramAddress registers.shaderState).mapError fun e =>
    { code := .pixelProgramAddressFailure, pixelProgramAddressError := some e }
  let missingProgram : SceAgcFirstRasterSubmissionError :=
    { code := .missingProgramRegisterProvenance }
  let geometryPgmLoSource ← orRefuse registers.geometryPgmLoSource missingProgram
  let geometryPgmHiSource ← orRefuse registers.geometryPgmHiSource missingProgram
  let pixelPgmLoSource ← orRefuse registers.pixelPgmLoSource missingProgram
  let pixelPgmHiSource ← orRefuse registers.pixelPgmHiSource missingProgram
  let draw ← (planFirstRasterDraw registers.userConfigState snapshot.instanceCount
    snapshot.indexCount snapshot.initiator).mapError fun e =>
    { code := .drawPlanFailure, drawPlanError := some e }
  let colorTarget ← (resolveColorTarget0ContextState registers.contextState).mapError fun e =>
    { code := .colorTargetDecodeFailure, colorTargetError := some e }
  let colorTargetImage ← (planGfx10LinearRgba8UnormColorTargetImage colorTarget).mapError fun e =>
    { code := .colorTargetImageFailure, colorTargetImageError := some e }
  let primitiveTypeSource ← orRefuse registers.primitiveTypeSource
    { code := .missingPrimitiveProvenance }
  let colorTargetSources ← orRefuse (completeColorTargetSources registers.colorTargetSources)
    { code := .missingColorTargetProvenance }
  return {
    shaderRegisterState := registers.shaderState
    contextRegisterState := registers.contextState
    userConfigRegisterState := registers.userConfigState
    geometryProgramAddress := geometryAddress
    pixelProgramAddress := pixelAddress
    colorTargetState := colorTarget
    colorTargetImage := colorTargetImage
    draw := draw
    geometryPgmLoSource := geometryPgmLoSource
    geometryPgmHiSource := geometryPgmHiSource
    pixelPgmLoSource := pixelPgmLoSource
    pixelPgmHiSource := pixelPgmHiSource
    primitiveTypeSource := primitiveTypeSource
    instancesSource := snapshot.instancesSource
    drawSource := snapshot.drawSource
    colorTargetSources := colorTargetSources }

/-- `plan_sce_agc_first_raster_submission`. -/
def planSceAgcFirstRasterSubmission (host : Host) (submission : SceAgcDcbSubmission) :
    Except SceAgcFirstRasterSubmissionError SceAgcFirstRasterSubmissionPlan := do
  refuseIf (submission.flag ≠ 0) { code := .unsupportedSubmitFlag, submitFlag := submission.flag }
  let frames ← (framePm4Type3Stream host submission.commandBufferBytes).mapError fun e =>
    { code := .pm4FramingFailure, wordOffset := some e.wordOffset, pm4FramingError := some e }
  let state ← rasterLoop host 0 frames {}
  let snapshot ← orRefuse state.drawSnapshot { code := .missingDraw }
  planDraw snapshot

/-! ### The registers a plan uses -/

/-- The registers whose source is noted. -/
inductive TrackedRegister where
  | geometryPgmLo
  | geometryPgmHi
  | pixelPgmLo
  | pixelPgmHi
  | primitiveType
  | targetMask
  | base
  | info
  | baseExt
  | attrib2
  | attrib3
  deriving DecidableEq

namespace TrackedRegister

/-- The file a register is in. -/
def bank : TrackedRegister → RegisterBank
  | geometryPgmLo | geometryPgmHi | pixelPgmLo | pixelPgmHi => .shader
  | primitiveType => .userConfig
  | targetMask | base | info | baseExt | attrib2 | attrib3 => .context

/-- The offset of the register in its bank. -/
def offset : TrackedRegister → UInt16
  | geometryPgmLo => kGeometryEsProgramLoRegisterOffset
  | geometryPgmHi => kGeometryEsProgramHiRegisterOffset
  | pixelPgmLo => kPixelProgramLoRegisterOffset
  | pixelPgmHi => kPixelProgramHiRegisterOffset
  | primitiveType => kFirstRasterPrimitiveTypeUconfigOffset
  | targetMask => kColorTargetMaskContextOffset
  | base => kColorTarget0BaseContextOffset
  | info => kColorTarget0InfoContextOffset
  | baseExt => kColorTarget0BaseExtContextOffset
  | attrib2 => kColorTarget0Attrib2ContextOffset
  | attrib3 => kColorTarget0Attrib3ContextOffset

theorem offset_lt (register : TrackedRegister) : register.offset.toNat < 0x400 := by
  cases register <;> decide

end TrackedRegister

namespace RasterRegisters

/-- The file of a bank. -/
def file (registers : RasterRegisters) : RegisterBank → RegisterState
  | .shader => registers.shaderState
  | .context => registers.contextState
  | .userConfig => registers.userConfigState

/-- The source that is noted for a register. -/
def source (registers : RasterRegisters) : TrackedRegister → Option SceAgcRasterPacketSource
  | .geometryPgmLo => registers.geometryPgmLoSource
  | .geometryPgmHi => registers.geometryPgmHiSource
  | .pixelPgmLo => registers.pixelPgmLoSource
  | .pixelPgmHi => registers.pixelPgmHiSource
  | .primitiveType => registers.primitiveTypeSource
  | .targetMask => registers.colorTargetSources.targetMask
  | .base => registers.colorTargetSources.base
  | .info => registers.colorTargetSources.info
  | .baseExt => registers.colorTargetSources.baseExt
  | .attrib2 => registers.colorTargetSources.attrib2
  | .attrib3 => registers.colorTargetSources.attrib3

end RasterRegisters

namespace SceAgcFirstRasterSubmissionPlan

/-- The register state a plan reports for a bank. -/
def file (plan : SceAgcFirstRasterSubmissionPlan) : RegisterBank → RegisterState
  | .shader => plan.shaderRegisterState
  | .context => plan.contextRegisterState
  | .userConfig => plan.userConfigRegisterState

/-- The source a plan reports for a register. -/
def source (plan : SceAgcFirstRasterSubmissionPlan) : TrackedRegister → SceAgcRasterPacketSource
  | .geometryPgmLo => plan.geometryPgmLoSource
  | .geometryPgmHi => plan.geometryPgmHiSource
  | .pixelPgmLo => plan.pixelPgmLoSource
  | .pixelPgmHi => plan.pixelPgmHiSource
  | .primitiveType => plan.primitiveTypeSource
  | .targetMask => plan.colorTargetSources.targetMask
  | .base => plan.colorTargetSources.base
  | .info => plan.colorTargetSources.info
  | .baseExt => plan.colorTargetSources.baseExt
  | .attrib2 => plan.colorTargetSources.attrib2
  | .attrib3 => plan.colorTargetSources.attrib3

end SceAgcFirstRasterSubmissionPlan

/-! ### What a frame does to the registers -/

/-- The range a frame writes to a file. -/
def registerRange (bank : RegisterBank) (frame : Pm4Type3Frame) : Option (RegisterRange UInt32) :=
  if frame.header.opcode = bank.opcode then some frame.rawPacket.range else none

/-- The source that a frame is for a register. -/
def sourceAt (register : TrackedRegister) (place : Pm4Type3Frame × ℕ) :
    Option SceAgcRasterPacketSource :=
  (registerRange register.bank place.1).bind fun range =>
    if range.Covers register.offset.toNat then
      some ⟨place.2, place.1.rawPacket.extent.wordOffset,
        place.1.rawPacket.extent.wordOffset + 2 + (register.offset.toNat - range.start)⟩
    else none

/-- What a frame that was applied did: it wrote its range, and it is the source of what it wrote. -/
structure Advances (frameIndex : ℕ) (frame : Pm4Type3Frame)
    (registers registers' : RasterRegisters) : Prop where
  file : ∀ bank, registers'.file bank =
    (registers.file bank).replay (registerRange bank frame).toList
  source : ∀ register, registers'.source register =
    (sourceAt register (frame, frameIndex)).or (registers.source register)

theorem opcode_injective : Function.Injective RegisterBank.opcode := by
  intro bank bank' h
  cases bank <;> cases bank' <;> first | rfl | cases h

variable {bank : RegisterBank} {register : TrackedRegister} {state : RasterLoop}
  {source : SceAgcRasterPacketSource}

theorem registerRange_of_opcode {frame : Pm4Type3Frame} (h : frame.header.opcode = bank.opcode)
    (other : RegisterBank) :
    registerRange other frame = if other = bank then some frame.rawPacket.range else none := by
  unfold registerRange
  rw [h]
  by_cases hother : other = bank
  · rw [if_pos hother, if_pos (by rw [hother])]
  · rw [if_neg hother, if_neg fun heq => hother (opcode_injective heq).symm]

/-- A frame that is no register packet leaves the registers as they are. -/
theorem Advances.refl {frameIndex : ℕ} {frame : Pm4Type3Frame}
    (h : ∀ bank : RegisterBank, frame.header.opcode ≠ bank.opcode) (registers : RasterRegisters) :
    Advances frameIndex frame registers registers where
  file bank := by
    rw [registerRange, if_neg (h bank)]
    rfl
  source register := by
    rw [sourceAt, registerRange, if_neg (h register.bank)]
    rfl

/-- The recording of one bank. -/
def recordSource :
    RegisterBank → GraphicsIrEmission → ℕ → UInt16 → Option SceAgcRasterPacketSource →
    Option SceAgcRasterPacketSource
  | .shader => recordShaderRegisterSource
  | .context => recordContextRegisterSource
  | .userConfig => recordUconfigRegisterSource

theorem recordSource_operation {startOffset : UInt16} {values : List UInt32} {packet : RawPacket}
    {frameIndex : ℕ} {target : UInt16} {output : Option SceAgcRasterPacketSource} :
    recordSource bank ⟨bank.operation startOffset values, packet⟩ frameIndex target output =
      if startOffset.toNat ≤ target.toNat ∧ target.toNat < startOffset.toNat + values.length then
        some ⟨frameIndex, packet.extent.wordOffset,
          packet.extent.wordOffset + 2 + (target.toNat - startOffset.toNat)⟩
      else output := by
  have hout : recordSource bank
    ⟨bank.operation startOffset values, packet⟩ frameIndex target output =
      if target.toNat < startOffset.toNat ∨ target.toNat - startOffset.toNat ≥ values.length then
        output
      else some ⟨frameIndex, packet.extent.wordOffset,
        packet.extent.wordOffset + 2 + (target.toNat - startOffset.toNat)⟩ := by
    cases bank <;> rfl
  rw [hout]
  split_ifs with h1 h2 h2
  · omega
  · rfl
  · rfl
  · omega

variable {emission : GraphicsIrEmission} {state' : RasterLoop} {snapshot : DrawSnapshot}
  {instanceCount : UInt32}

section

variable {frame : Pm4Type3Frame} {host : Host} (hopcode : frame.header.opcode = bank.opcode)
  (hlower : bank.lower host frame = .ok emission)

include hopcode hlower

theorem recordSource_of_lower (hbank : register.bank = bank) (frameIndex : ℕ)
    (output : Option SceAgcRasterPacketSource) :
    recordSource bank emission frameIndex register.offset output =
      (sourceAt register (frame, frameIndex)).or output := by
  obtain ⟨startOffset, rfl, hstart, -, -⟩ := RegisterBank.lower_eq_ok hopcode hlower
  have hcovers : startOffset.toNat ≤ register.offset.toNat ∧
      register.offset.toNat < startOffset.toNat + frame.rawPacket.range.values.length ↔
      frame.rawPacket.range.Covers register.offset.toNat := by
    rw [hstart]
    rfl
  rw [recordSource_operation, sourceAt, hbank, registerRange, if_pos hopcode, Option.bind_some]
  by_cases h : frame.rawPacket.range.Covers register.offset.toNat
  · rw [if_pos (hcovers.mpr h), if_pos h, hstart]
    rfl
  · rw [if_neg (mt hcovers.mp h), if_neg h]
    rfl

/-- A frame of a bank changes the file of the bank and the sources of its registers. -/
theorem Advances.of_lower {frameIndex : ℕ} {registers registers' : RasterRegisters}
    (hfile : registers'.file bank = (bank.apply emission (registers.file bank)).2)
    (hfiles : ∀ other ≠ bank, registers'.file other = registers.file other)
    (hsource : ∀ register : TrackedRegister, register.bank = bank → registers'.source register =
      recordSource bank emission frameIndex register.offset (registers.source register))
    (hsources : ∀ register : TrackedRegister, register.bank ≠ bank → registers'.source register =
      registers.source register) :
    Advances frameIndex frame registers registers' where
  file other := by
    rw [registerRange_of_opcode hopcode]
    by_cases hother : other = bank
    · obtain ⟨effect, happly⟩ := RegisterBank.apply_of_lower hopcode hlower (registers.file bank)
      subst hother
      rw [hfile, happly, if_pos rfl]
      rfl
    · rw [hfiles other hother, if_neg hother]
      rfl
  source register := by
    by_cases hregister : register.bank = bank
    · rw [hsource register hregister, recordSource_of_lower hopcode hlower hregister]
    · rw [hsources register hregister, sourceAt, registerRange_of_opcode hopcode, if_neg hregister]
      rfl

end

/-- The case of the loop for a bank. -/
def RegisterBank.set : RegisterBank → Host → ℕ → Pm4Type3Frame → RasterRegisters →
    Except SceAgcFirstRasterSubmissionError RasterRegisters
  | .shader => setShReg
  | .context => setContextReg
  | .userConfig => setUconfigReg

/-- A turn for a frame of a bank is the case of the bank. -/
theorem rasterStep_of_opcode {host : Host} {frameIndex : ℕ} {frame : Pm4Type3Frame}
    (hbits : frame.header.lowControlBits = 0) (hopcode : frame.header.opcode = bank.opcode)
    (state : RasterLoop) :
    rasterStep host frameIndex frame state =
      (RegisterBank.set bank host frameIndex frame state.registers).map
        ({ state with registers := · }) := by
  simp only [rasterStep, hbits, hopcode]
  cases bank <;> rfl

theorem set_advances {bank : RegisterBank} {host : Host} {frameIndex : ℕ} {frame : Pm4Type3Frame}
    {registers registers' : RasterRegisters} (hopcode : frame.header.opcode = bank.opcode)
    (h : RegisterBank.set bank host frameIndex frame registers = .ok registers') :
    Advances frameIndex frame registers registers' := by
  have hset : ∃ emission, bank.lower host frame = .ok emission ∧
      registers'.file bank = (bank.apply emission (registers.file bank)).2 ∧
      (∀ other ≠ bank, registers'.file other = registers.file other) ∧
      (∀ register : TrackedRegister, register.bank = bank →
        registers'.source register =
          recordSource bank emission frameIndex register.offset (registers.source register)) ∧
      ∀ register : TrackedRegister, register.bank ≠ bank →
        registers'.source register = registers.source register := by
    cases bank <;> (
      simp only [RegisterBank.set, setShReg, setContextReg, setUconfigReg, bind_eq_ok,
        mapError_eq_ok, pure_eq_ok] at h
      obtain ⟨emission, hlower, -, -, rfl⟩ := h
      refine ⟨emission, hlower, rfl, ?_, ?_, ?_⟩
      · intro other hother
        cases other <;> first | rfl | exact absurd rfl hother
      · intro register hregister
        cases register <;> first | rfl | cases hregister
      · intro register hregister
        cases register <;> first | rfl | exact absurd rfl hregister)
  obtain ⟨emission, hlower, hfile, hfiles, hsource, hsources⟩ := hset
  exact Advances.of_lower hopcode hlower hfile hfiles hsource hsources

/-! ### What a frame does to the loop -/

/-- The count of instances a frame sets, and its source. -/
def instancesAt (place : Pm4Type3Frame × ℕ) : Option (UInt32 × SceAgcRasterPacketSource) :=
  if place.1.header.opcode = kPm4NumInstancesOpcode then
    some (place.1.rawPacket.word 1, frameSource place.2 place.1) else none

theorem rasterStep_cases {host : Host} {frameIndex : ℕ} {frame : Pm4Type3Frame}
    (h : rasterStep host frameIndex frame state = .ok state') :
    (frame.header.opcode ≠ kPm4DrawIndexAutoOpcode ∧ state'.drawSnapshot = state.drawSnapshot ∧
      Advances frameIndex frame state.registers state'.registers ∧
      state'.currentInstances =
        ((instancesAt (frame, frameIndex)).map Prod.fst).or state.currentInstances ∧
      state'.currentInstancesSource =
        ((instancesAt (frame, frameIndex)).map Prod.snd).or state.currentInstancesSource) ∨
    (frame.header.opcode = kPm4DrawIndexAutoOpcode ∧ state.drawSnapshot = none ∧
      ∃ instanceCount instancesSource, state.currentInstances = some instanceCount ∧
        state.currentInstancesSource = some instancesSource ∧
        state' = { state with
          drawSnapshot := some
            { registers := state.registers
              instanceCount := instanceCount
              indexCount := frame.rawPacket.word 1
              initiator := frame.rawPacket.word 2
              instancesSource := instancesSource
              drawSource := frameSource frameIndex frame } }) := by
  have hinstances (hne : frame.header.opcode ≠ kPm4NumInstancesOpcode) :
    instancesAt (frame, frameIndex) = none := if_neg hne
  simp only [rasterStep] at h
  split_ifs at h with hbits hsh hcontext huconfig hdraw
  · obtain ⟨registers, hset, rfl⟩ := map_eq_ok.mp h
    rw [hinstances (by rw [hsh]; decide)]
    exact .inl ⟨by rw [hsh]; decide, rfl, @set_advances .shader _ _ _ _ _ hsh hset, rfl, rfl⟩
  · obtain ⟨registers, hset, rfl⟩ := map_eq_ok.mp h
    rw [hinstances (by rw [hcontext]; decide)]
    exact .inl ⟨by rw [hcontext]; decide, rfl, @set_advances .context _ _ _ _ _ hcontext hset, rfl,
      rfl⟩
  · obtain ⟨registers, hset, rfl⟩ := map_eq_ok.mp h
    rw [hinstances (by rw [huconfig]; decide)]
    exact .inl ⟨by rw [huconfig]; decide, rfl, @set_advances .userConfig _ _ _ _ _ huconfig hset,
      rfl, rfl⟩
  · simp only [drawControl, bind_eq_ok, mapError_eq_ok] at h
    obtain ⟨emission, hlower, h⟩ := h
    have hbank (bank : RegisterBank) : frame.header.opcode ≠ bank.opcode := by
      rcases hdraw with hdraw | hdraw <;> rw [hdraw] <;> cases bank <;> decide
    by_cases hnum : frame.header.opcode = kPm4NumInstancesOpcode
    · rw [lowerPm4DrawControlFrameToGraphicsIr, if_pos hnum] at hlower
      simp only [bind_eq_ok, pure_eq_ok] at hlower
      obtain ⟨-, -, rfl⟩ := hlower
      simp only [pure_eq_ok] at h
      subst h
      refine .inl ⟨by rw [hnum]; decide, rfl, Advances.refl hbank _, ?_, ?_⟩
      · rw [instancesAt, if_pos hnum]
        rfl
      · rw [instancesAt, if_pos hnum]
        rfl
    · have hauto := hdraw.resolve_left hnum
      rw [lowerPm4DrawControlFrameToGraphicsIr, if_neg hnum, if_pos hauto] at hlower
      simp only [bind_eq_ok, pure_eq_ok] at hlower
      obtain ⟨-, -, rfl⟩ := hlower
      simp only [takeDraw, bind_eq_ok, refuseIf_eq_ok, orRefuse_eq_ok, pure_eq_ok, Bool.not_eq_true,
        Option.isSome_eq_false_iff, Option.isNone_iff_eq_none] at h
      obtain ⟨-, hnone, instanceCount, hcount, instancesSource, hsource, rfl⟩ := h
      exact .inr ⟨hauto, hnone, instanceCount, instancesSource, hcount, hsource, rfl⟩

/-! ### The frames so far -/

/-- The files are a replay of the frames so far, and a source is the last frame that reaches its
register. -/
structure Tracks (frames : List Pm4Type3Frame) (registers : RasterRegisters) : Prop where
  file : ∀ bank, registers.file bank =
    RegisterState.initial.replay (frames.filterMap (registerRange bank))
  source : ∀ register, registers.source register = lastHit (sourceAt register) frames.zipIdx

theorem Tracks.nil : Tracks [] {} where
  file bank := by cases bank <;> rfl
  source register := by cases register <;> rfl

theorem Tracks.concat {frames : List Pm4Type3Frame} {frame : Pm4Type3Frame}
    {registers registers' : RasterRegisters} (h : Tracks frames registers)
    (hframe : Advances frames.length frame registers registers') :
    Tracks (frames ++ [frame]) registers' where
  file bank := by
    rw [hframe.file, h.file, List.filterMap_append, RegisterFile.replay_append, List.filterMap_cons]
    cases registerRange bank frame <;> rfl
  source register := by
    rw [hframe.source, h.source, lastHit_zipIdx_concat]

/-- What was put aside at a draw belongs to the frames before it. -/
structure TakenAt (before : List Pm4Type3Frame) (draw : Pm4Type3Frame) (snapshot : DrawSnapshot) :
    Prop where
  opcode : draw.header.opcode = kPm4DrawIndexAutoOpcode
  first : ∀ frame ∈ before, frame.header.opcode ≠ kPm4DrawIndexAutoOpcode
  registers : Tracks before snapshot.registers
  instances : lastHit instancesAt before.zipIdx =
    some (snapshot.instanceCount, snapshot.instancesSource)
  indexCount : snapshot.indexCount = draw.rawPacket.word 1
  drawSource : snapshot.drawSource = frameSource before.length draw

/-- The invariant of the loop. -/
structure LoopInv (frames : List Pm4Type3Frame) (state : RasterLoop) : Prop where
  registers : Tracks frames state.registers
  instances : state.currentInstances = (lastHit instancesAt frames.zipIdx).map Prod.fst
  instancesSource : state.currentInstancesSource = (lastHit instancesAt frames.zipIdx).map Prod.snd
  undrawn : state.drawSnapshot = none →
    ∀ frame ∈ frames, frame.header.opcode ≠ kPm4DrawIndexAutoOpcode
  drawn : ∀ snapshot, state.drawSnapshot = some snapshot →
    ∃ before draw after, frames = before ++ draw :: after ∧
    TakenAt before draw snapshot ∧ ∀ frame ∈ after, frame.header.opcode ≠ kPm4DrawIndexAutoOpcode

theorem LoopInv.nil : LoopInv [] {} where
  registers := Tracks.nil
  instances := rfl
  instancesSource := rfl
  undrawn _ := by simp
  drawn _ h := by cases h

theorem LoopInv.step {host : Host} {frames : List Pm4Type3Frame} {frame : Pm4Type3Frame}
    {state state' : RasterLoop} (hinv : LoopInv frames state)
    (h : rasterStep host frames.length frame state = .ok state') :
    LoopInv (frames ++ [frame]) state' := by
  rcases rasterStep_cases h with ⟨hopcode, hsnapshot, hregisters, hcount, hsource⟩ |
    ⟨hopcode, hnone, instanceCount, instancesSource, hcount, hsource, rfl⟩
  · refine ⟨hinv.registers.concat hregisters, ?_, ?_, ?_, ?_⟩
    · rw [hcount, hinv.instances, lastHit_zipIdx_concat, Option.map_or]
    · rw [hsource, hinv.instancesSource, lastHit_zipIdx_concat, Option.map_or]
    · intro hnone
      rw [hsnapshot] at hnone
      exact List.forall_mem_append.mpr
        ⟨hinv.undrawn hnone, List.forall_mem_singleton.mpr hopcode⟩
    · intro snapshot hsome
      rw [hsnapshot] at hsome
      obtain ⟨before, draw, after, rfl, htaken, hafter⟩ := hinv.drawn snapshot hsome
      refine ⟨before, draw, after ++ [frame], by simp, htaken, ?_⟩
      exact List.forall_mem_append.mpr ⟨hafter, List.forall_mem_singleton.mpr hopcode⟩
  · have hbank (bank : RegisterBank) : frame.header.opcode ≠ bank.opcode := by
      rw [hopcode]
      cases bank <;> decide
    have hno : instancesAt (frame, frames.length) = none := if_neg (by rw [hopcode]; decide)
    refine ⟨hinv.registers.concat (Advances.refl hbank _), ?_, ?_, nofun, ?_⟩
    · rw [lastHit_zipIdx_concat, hno, Option.none_or]
      exact hinv.instances
    · rw [lastHit_zipIdx_concat, hno, Option.none_or]
      exact hinv.instancesSource
    · intro snapshot hsome
      cases hsome
      have hlast : lastHit instancesAt frames.zipIdx = some (instanceCount, instancesSource) := by
        rw [hinv.instances] at hcount
        rw [hinv.instancesSource] at hsource
        obtain ⟨⟨_, _⟩, hlast, rfl⟩ := Option.map_eq_some_iff.mp hcount
        rw [hlast] at hsource
        cases hsource
        exact hlast
      exact ⟨frames, frame, [], rfl,
        ⟨hopcode, hinv.undrawn hnone, hinv.registers, hlast, rfl, rfl⟩, by simp⟩

/-- **The invariant holds when the loop has come to its end.** -/
theorem LoopInv.loop {host : Host} {done frames : List Pm4Type3Frame} (hinv : LoopInv done state)
    (h : rasterLoop host done.length frames state = .ok state') :
    LoopInv (done ++ frames) state' := by
  induction frames generalizing done state with
  | nil =>
    cases h
    rwa [List.append_nil]
  | cons frame frames ih =>
    rw [rasterLoop, bind_eq_ok] at h
    obtain ⟨next, hstep, hrest⟩ := h
    have hdone := hinv.step hstep
    rw [show done.length + 1 = (done ++ [frame]).length by simp] at hrest
    rw [List.append_cons]
    exact ih hdone hrest

/-! ### The words of the buffer -/

/-- The registers a packet of the buffer writes, as the words of the buffer spell them. -/
def bufferRange (commandBuffer : List UInt8) (frame : Pm4Type3Frame) : RegisterRange UInt32 where
  start := (readLittleEndianWord commandBuffer (frame.wordOffset + 1)).toNat
  values := (List.range frame.header.encodedCount.toNat).map fun index =>
    readLittleEndianWord commandBuffer (frame.wordOffset + 2 + index)

/-- The fold of the packets that write a file, in the order of the stream. -/
def replayBuffer (commandBuffer : List UInt8) (bank : RegisterBank) (frames : List Pm4Type3Frame) :
    RegisterState :=
  RegisterState.initial.replay
    ((frames.filter fun frame => frame.header.opcode = bank.opcode).map (bufferRange commandBuffer))

/-- A source that is true of a register: the frame it names writes the register, its word is the
value the register has, and no later frame writes the register. -/
structure TrueSource (commandBuffer : List UInt8) (frames : List Pm4Type3Frame)
    (bank : RegisterBank) (register : ℕ) (state : RegisterState)
    (source : SceAgcRasterPacketSource) : Prop where
  frame : ∃ frame : Pm4Type3Frame, frames[source.frameIndex]? = some frame ∧
    frame.header.opcode = bank.opcode ∧
    frame.wordOffset = source.packetWordOffset ∧ (bufferRange commandBuffer frame).Covers register
  value : state.read register = some (readLittleEndianWord commandBuffer source.valueWordOffset)
  last : ∀ (later : ℕ) (frame : Pm4Type3Frame), source.frameIndex < later →
    frames[later]? = some frame →
    frame.header.opcode = bank.opcode → ¬ (bufferRange commandBuffer frame).Covers register

section Buffer

variable {index : ℕ}

variable {commandBuffer : List UInt8} {frames : List Pm4Type3Frame} {registers : RasterRegisters}

section

variable {frame : Pm4Type3Frame} (h : FrameOf commandBuffer frame)

include h

theorem word_of_frameOf (hindex : index < frame.header.totalWordCount) :
    frame.rawPacket.word index = readLittleEndianWord commandBuffer (frame.wordOffset + index) := by
  have hfits := h.fits
  rw [RawPacket.word, h.rawWords, List.getElem?_map, List.getElem?_range hindex]
  exact rawWordValue_readRawWord (by omega)

theorem totalWordCount_of_frameOf :
    frame.header.totalWordCount = frame.header.encodedCount.toNat + 2 := by
  rw [h.header, totalWordCount_type3Header]

/-- The range of a packet is the one the words of the buffer spell. -/
theorem range_of_frameOf : frame.rawPacket.range = bufferRange commandBuffer frame := by
  have htotal := totalWordCount_of_frameOf h
  have hlength : frame.rawPacket.rawWords.length = frame.header.encodedCount.toNat + 2 := by
    rw [h.rawWords, List.length_map, List.length_range, htotal]
  have hvalues : frame.rawPacket.range.values = (bufferRange commandBuffer frame).values := by
    rw [← RawPacket.map_word_eq hlength]
    apply List.map_congr_left
    intro index hindex
    rw [List.mem_range] at hindex
    rw [word_of_frameOf h (by omega), Nat.add_comm index 2, Nat.add_assoc]
  have hstart : frame.rawPacket.range.start = (bufferRange commandBuffer frame).start := by
    show (frame.rawPacket.word 1).toNat = _
    rw [word_of_frameOf h (by omega)]
    rfl
  calc frame.rawPacket.range
      = ⟨(bufferRange commandBuffer frame).start, (bufferRange commandBuffer frame).values⟩ := by
        rw [← hstart, ← hvalues]
    _ = bufferRange commandBuffer frame := rfl

end

theorem filterMap_registerRange (hframes : ∀ frame ∈ frames, FrameOf commandBuffer frame)
    (bank : RegisterBank) :
    frames.filterMap (registerRange bank) =
      (frames.filter fun frame => frame.header.opcode = bank.opcode).map
        (bufferRange commandBuffer) := by
  induction frames with
  | nil => rfl
  | cons frame frames ih =>
    rw [List.forall_mem_cons] at hframes
    rw [List.filterMap_cons, ih hframes.2, registerRange]
    by_cases hopcode : frame.header.opcode = bank.opcode
    · rw [if_pos hopcode, List.filter_cons_of_pos (by simpa using hopcode), List.map_cons,
        range_of_frameOf hframes.1]
    · rw [if_neg hopcode, List.filter_cons_of_neg (by simpa using hopcode)]

theorem Tracks.file_eq (h : Tracks frames registers)
    (hframes : ∀ frame ∈ frames, FrameOf commandBuffer frame) (bank : RegisterBank) :
    registers.file bank = replayBuffer commandBuffer bank frames := by
  rw [h.file, filterMap_registerRange hframes]
  rfl

/-- A register reads the value of the last frame that reaches it. -/
theorem Tracks.read (h : Tracks frames registers) (bank : RegisterBank) {register : ℕ}
    (hregister : register < 0x400) :
    (registers.file bank).read register =
      lastHit (fun frame => (registerRange bank frame).bind (·.valueAt register)) frames := by
  rw [h.file, RegisterFile.read_replay _ hregister, lastHit_filterMap, RegisterState.initial,
    RegisterFile.read_clear, Option.or_none]

theorem sourceAt_eq_some {frame : Pm4Type3Frame} :
    sourceAt register (frame, index) = some source ↔
      frame.header.opcode = register.bank.opcode ∧
      frame.rawPacket.range.Covers register.offset.toNat ∧
        source = ⟨index, frame.rawPacket.extent.wordOffset,
          frame.rawPacket.extent.wordOffset + 2 +
            (register.offset.toNat - frame.rawPacket.range.start)⟩ := by
  unfold sourceAt registerRange
  by_cases hopcode : frame.header.opcode = register.bank.opcode
  · rw [if_pos hopcode, Option.bind_some]
    split_ifs with hcovers
    · simp [hopcode, hcovers, eq_comm]
    · simp [hcovers]
  · simp [hopcode]

theorem sourceAt_eq_none {frame : Pm4Type3Frame} :
    sourceAt register (frame, index) = none ↔
      (frame.header.opcode = register.bank.opcode →
        ¬ frame.rawPacket.range.Covers register.offset.toNat) := by
  unfold sourceAt registerRange
  by_cases hopcode : frame.header.opcode = register.bank.opcode
  · rw [if_pos hopcode, Option.bind_some]
    split_ifs with hcovers <;> simp [hopcode, hcovers]
  · simp [hopcode]

/-- A frame has a value for a register where it is its source. -/
theorem isSome_sourceAt (register : TrackedRegister) (frame : Pm4Type3Frame) (index : ℕ) :
    (sourceAt register (frame, index)).isSome =
      ((registerRange register.bank frame).bind (·.valueAt register.offset.toNat)).isSome := by
  unfold sourceAt
  cases registerRange register.bank frame with
  | none => rfl
  | some range =>
    rw [Option.bind_some, Option.bind_some, Bool.eq_iff_iff, RegisterRange.isSome_valueAt_iff]
    split_ifs with hcovers <;> simp [hcovers]

/-- **A register is initialized exactly where a source is noted for it.** -/
theorem Tracks.isSome_source (h : Tracks frames registers) (register : TrackedRegister) :
    (registers.source register).isSome =
      (registers.file register.bank).isInitialized register.offset := by
  have hread : (registers.file register.bank).isInitialized register.offset =
      ((registers.file register.bank).read register.offset.toNat).isSome := by
    have hlt := register.offset_lt
    rw [RegisterState.isInitialized, Vector.getElem?_eq_getElem hlt, Option.getD_some,
      RegisterFile.isSome_read hlt]
  have hfst : frames = frames.zipIdx.map Prod.fst := (List.zipIdx_map_fst 0 frames).symm
  rw [hread, h.source, h.read _ register.offset_lt]
  conv_rhs => rw [hfst, lastHit_map]
  exact isSome_lastHit_congr fun place _ => isSome_sourceAt register place.1 place.2

/-- The word of the buffer that a packet has for a register. -/
theorem valueAt_bufferRange {frame : Pm4Type3Frame} {register : ℕ}
    (h : (bufferRange commandBuffer frame).Covers register) :
    (bufferRange commandBuffer frame).valueAt register = some (readLittleEndianWord commandBuffer
      (frame.wordOffset + 2 + (register - (bufferRange commandBuffer frame).start))) := by
  obtain ⟨hstart, hlt⟩ := h
  have hcount : (bufferRange commandBuffer frame).values.length =
      frame.header.encodedCount.toNat := by
    simp [bufferRange]
  have hindex : register - (bufferRange commandBuffer frame).start <
    frame.header.encodedCount.toNat := by omega
  unfold RegisterRange.valueAt
  rw [if_pos hstart]
  generalize register - (bufferRange commandBuffer frame).start = index at hindex
  rw [bufferRange, List.getElem?_map, List.getElem?_range hindex]
  rfl

/-- **A source that is noted is true.** -/
theorem Tracks.trueSource (h : Tracks frames registers)
    (hframes : ∀ frame ∈ frames, FrameOf commandBuffer frame)
    (hsource : registers.source register = some source) :
    TrueSource commandBuffer frames register.bank register.offset.toNat
      (registers.file register.bank) source := by
  rw [h.source, lastHit_zipIdx_eq_some] at hsource
  obtain ⟨index, frame, hframe, hhit, hlater⟩ := hsource
  obtain ⟨hopcode, hcovers, rfl⟩ := sourceAt_eq_some.mp hhit
  have hof := hframes frame (List.mem_of_getElem? hframe)
  have hextent : frame.rawPacket.extent.wordOffset = frame.wordOffset := by rw [hof.extent]
  have hlast : ∀ (later : ℕ) (other : Pm4Type3Frame), index < later → frames[later]? = some other →
      other.header.opcode = register.bank.opcode →
        ¬ (bufferRange commandBuffer other).Covers register.offset.toNat := by
    intro later other hlt hother hotherOpcode
    rw [← range_of_frameOf (hframes other (List.mem_of_getElem? hother))]
    exact sourceAt_eq_none.mp (hlater later other hlt hother) hotherOpcode
  rw [range_of_frameOf hof] at hcovers
  refine ⟨⟨frame, hframe, hopcode, hextent.symm, hcovers⟩, ?_, hlast⟩
  have hfst : frames = frames.zipIdx.map Prod.fst := (List.zipIdx_map_fst 0 frames).symm
  rw [h.read _ register.offset_lt]
  conv_lhs => rw [hfst, lastHit_map]
  rw [lastHit_zipIdx_eq_some]
  refine ⟨index, frame, hframe, ?_, ?_⟩
  · rw [registerRange, if_pos hopcode, Option.bind_some, range_of_frameOf hof, hextent,
      valueAt_bufferRange hcovers]
  · intro later other hlt hother
    have hof' := hframes other (List.mem_of_getElem? hother)
    unfold registerRange
    by_cases hotherOpcode : other.header.opcode = register.bank.opcode
    · rw [if_pos hotherOpcode, Option.bind_some, RegisterRange.valueAt_eq_none,
        range_of_frameOf hof']
      exact hlast later other hlt hother hotherOpcode
    · rw [if_neg hotherOpcode]
      rfl

end Buffer

/-! ### The plan -/

/-- What a plan takes over from the snapshot of the draw. -/
structure DrawPlanned (snapshot : DrawSnapshot) (plan : SceAgcFirstRasterSubmissionPlan) :
    Prop where
  file : ∀ bank, plan.file bank = snapshot.registers.file bank
  source : ∀ register, snapshot.registers.source register = some (plan.source register)
  instanceCount : plan.draw.instanceCount = snapshot.instanceCount
  indexCount : plan.draw.indexCount = snapshot.indexCount
  instancesSource : plan.instancesSource = snapshot.instancesSource
  drawSource : plan.drawSource = snapshot.drawSource
  pixelProgram : resolvePixelProgramAddress snapshot.registers.shaderState =
    .ok plan.pixelProgramAddress

theorem planDraw_eq_ok {plan : SceAgcFirstRasterSubmissionPlan} (h : planDraw snapshot = .ok plan) :
    DrawPlanned snapshot plan := by
  simp only [planDraw, planFirstRasterDraw, completeColorTargetSources, bind_eq_ok, refuseIf_eq_ok,
    mapError_eq_ok, orRefuse_eq_ok, pure_eq_ok, Option.bind_eq_bind, Option.bind_eq_some_iff,
    Option.pure_def, Option.some.injEq] at h
  obtain ⟨_, -, _, hpixel, _, hgeometryLo, _, hgeometryHi, _, hpixelLo, _, hpixelHi, _,
    ⟨-, -, -, -, -, -, -, -, -, -, rfl⟩, _, -, _, -, _, hprimitive, _,
    ⟨_, hmask, _, hbase, _, hinfo, _, hbaseExt, _, hattrib2, _, hattrib3, rfl⟩, rfl⟩ := h
  refine ⟨?_, ?_, rfl, rfl, rfl, rfl, hpixel⟩
  · intro bank
    cases bank <;> rfl
  · intro register
    cases register <;> assumption

theorem isInitialized_of_resolveProgramAddress {loOffset hiOffset : UInt16}
    {state : ShaderRegisterState} {address : UInt64}
    (h : resolveProgramAddress loOffset hiOffset state = .ok address) :
    state.isInitialized loOffset = true ∧ state.isInitialized hiOffset = true := by
  simp only [resolveProgramAddress, bind_eq_ok, refuseIf_eq_ok, Bool.not_eq_false] at h
  obtain ⟨-, hlo, -, hhi, -⟩ := h
  exact ⟨hlo, hhi⟩

theorem isInitialized_of_planFirstRasterDraw {state : UserConfigRegisterState}
    {indexCount initiator : UInt32} {draw : FirstRasterDrawPlan}
    (h : planFirstRasterDraw state instanceCount indexCount initiator = .ok draw) :
    state.isInitialized kFirstRasterPrimitiveTypeUconfigOffset = true := by
  simp only [planFirstRasterDraw, bind_eq_ok, refuseIf_eq_ok, Bool.not_eq_false] at h
  obtain ⟨-, hmark, -⟩ := h
  exact hmark

theorem isInitialized_of_resolveColorTarget0 {state : ContextRegisterState}
    {target : ColorTarget0ContextState} (h : resolveColorTarget0ContextState state = .ok target)
    (hbank : register.bank = .context) :
    state.isInitialized register.offset = true := by
  simp only [resolveColorTarget0ContextState, bind_eq_ok, refuseIf_eq_ok, Bool.not_eq_false] at h
  obtain ⟨-, hmask, -, hbase, -, hbaseExt, -, hinfo, -, hattrib2, -, hattrib3, -⟩ := h
  cases register <;> first | assumption | cases hbank

theorem completeColorTargetSources_eq_none {sources : ColorTargetSourceSnapshot}
    (h : completeColorTargetSources sources = none) :
    sources.targetMask = none ∨ sources.base = none ∨ sources.info = none ∨ sources.baseExt = none ∨
      sources.attrib2 = none ∨ sources.attrib3 = none := by
  by_contra hall
  simp only [not_or, ← ne_eq, Option.ne_none_iff_exists'] at hall
  obtain ⟨⟨_, hmask⟩, ⟨_, hbase⟩, ⟨_, hinfo⟩, ⟨_, hbaseExt⟩, ⟨_, hattrib2⟩, ⟨_, hattrib3⟩⟩ := hall
  simp [completeColorTargetSources, hmask, hbase, hinfo, hbaseExt, hattrib2, hattrib3] at h

/-- The three codes for a source that is missing. -/
def IsMissingProvenance : SceAgcFirstRasterSubmissionErrorCode → Prop
  | .missingProgramRegisterProvenance | .missingPrimitiveProvenance
  | .missingColorTargetProvenance => True
  | _ => False

/-- **No source is missing where a register was found initialized.** -/
theorem planDraw_eq_error {frames : List Pm4Type3Frame} {e : SceAgcFirstRasterSubmissionError}
    (htracks : Tracks frames snapshot.registers) (h : planDraw snapshot = .error e) :
    ¬ IsMissingProvenance e.code := by
  have hnoted (register : TrackedRegister)
      (hmark : (snapshot.registers.file register.bank).isInitialized register.offset = true) :
      snapshot.registers.source register ≠ none := by
    rw [← htracks.isSome_source] at hmark
    intro hnone
    rw [hnone] at hmark
    cases hmark
  simp only [planDraw, bind_eq_error, mapError_eq_error, mapError_eq_ok, orRefuse_eq_error,
    orRefuse_eq_ok, pure_ne_error, and_false, exists_false, or_false] at h
  -- one case for each place where the plan can be refused
  rcases h with ⟨_, -, rfl⟩ | ⟨_, hgeometry, ⟨_, -, rfl⟩ | ⟨_, hpixel, h⟩⟩
  · exact not_false
  · exact not_false
  obtain ⟨hgeometryLo, hgeometryHi⟩ := isInitialized_of_resolveProgramAddress hgeometry
  obtain ⟨hpixelLo, hpixelHi⟩ := isInitialized_of_resolveProgramAddress hpixel
  rcases h with ⟨hnone, -⟩ | ⟨_, -,
    ⟨hnone, -⟩ | ⟨_, -, ⟨hnone, -⟩ | ⟨_, -, ⟨hnone, -⟩ | ⟨_, -, h⟩⟩⟩⟩
  · exact absurd hnone (hnoted .geometryPgmLo hgeometryLo)
  · exact absurd hnone (hnoted .geometryPgmHi hgeometryHi)
  · exact absurd hnone (hnoted .pixelPgmLo hpixelLo)
  · exact absurd hnone (hnoted .pixelPgmHi hpixelHi)
  rcases h with ⟨_, -, rfl⟩ | ⟨_, hdraw,
    ⟨_, -, rfl⟩ | ⟨_, htarget, ⟨_, -, rfl⟩ | ⟨_, -, ⟨hnone, -⟩ | ⟨_, -, hnone, -⟩⟩⟩⟩
  · exact not_false
  · exact not_false
  · exact not_false
  · exact absurd hnone (hnoted .primitiveType (isInitialized_of_planFirstRasterDraw hdraw))
  · have hmark (register : TrackedRegister) (hbank : register.bank = .context) :
        snapshot.registers.source register ≠ none :=
      hnoted register (by rw [hbank]; exact isInitialized_of_resolveColorTarget0 htarget hbank)
    rcases completeColorTargetSources_eq_none hnone with h | h | h | h | h | h
    · exact absurd h (hmark .targetMask rfl)
    · exact absurd h (hmark .base rfl)
    · exact absurd h (hmark .info rfl)
    · exact absurd h (hmark .baseExt rfl)
    · exact absurd h (hmark .attrib2 rfl)
    · exact absurd h (hmark .attrib3 rfl)

section Errors

variable {host : Host} {frameIndex : ℕ} {frame : Pm4Type3Frame}
  {e : SceAgcFirstRasterSubmissionError}

theorem setReg_eq_error {registers : RasterRegisters}
    (h : setShReg host frameIndex frame registers = .error e ∨
      setContextReg host frameIndex frame registers = .error e ∨
    setUconfigReg host frameIndex frame registers = .error e) : ¬ IsMissingProvenance e.code := by
  simp only [setShReg, setContextReg, setUconfigReg, bind_eq_error, mapError_eq_error,
    pure_ne_error, and_false, exists_false, or_false] at h
  rcases h with (⟨_, -, rfl⟩ | ⟨_, -, _, -, rfl⟩) | (⟨_, -, rfl⟩ | ⟨_, -, _, -,
    rfl⟩) | (⟨_, -, rfl⟩ | ⟨_, -, _, -, rfl⟩) <;>
    exact not_false

theorem takeDraw_eq_error {indexCount initiator : UInt32}
    (h : takeDraw frameIndex frame indexCount initiator state = .error e) :
    ¬ IsMissingProvenance e.code := by
  simp only [takeDraw, bind_eq_error, refuseIf_eq_error, orRefuse_eq_error, pure_ne_error,
    and_false, exists_false, or_false] at h
  rcases h with ⟨-, rfl⟩ | ⟨_, -, ⟨-, rfl⟩ | ⟨_, -, -, rfl⟩⟩ <;> exact not_false

theorem drawControl_eq_error (h : drawControl frameIndex frame state = .error e) :
    ¬ IsMissingProvenance e.code := by
  simp only [drawControl, bind_eq_error, mapError_eq_error, mapError_eq_ok] at h
  rcases h with ⟨_, -, rfl⟩ | ⟨emission, -, h⟩
  · exact not_false
  · cases hop : emission.operation with
    | setInstanceCount instanceCount =>
      rw [hop] at h
      cases h
    | drawIndexAuto indexCount initiator =>
      rw [hop] at h
      exact takeDraw_eq_error h
    | unsupported reason =>
      rw [hop] at h
      cases h
      exact not_false
    | shaderRegisterWriteRange startOffset values =>
      rw [hop] at h
      cases h
      exact not_false
    | contextRegisterWriteRange startOffset values =>
      rw [hop] at h
      cases h
      exact not_false
    | userConfigRegisterWriteRange startOffset values =>
      rw [hop] at h
      cases h
      exact not_false
    | gpuMemoryWrite destination values =>
      rw [hop] at h
      cases h
      exact not_false

theorem rasterStep_eq_error (h : rasterStep host frameIndex frame state = .error e) :
    ¬ IsMissingProvenance e.code := by
  simp only [rasterStep] at h
  split_ifs at h
  · cases h
    exact not_false
  · exact setReg_eq_error (.inl (map_eq_error.mp h))
  · exact setReg_eq_error (.inr (.inl (map_eq_error.mp h)))
  · exact setReg_eq_error (.inr (.inr (map_eq_error.mp h)))
  · exact drawControl_eq_error h
  · cases h
    exact not_false

theorem rasterLoop_eq_error {frames : List Pm4Type3Frame}
    (h : rasterLoop host frameIndex frames state = .error e) : ¬ IsMissingProvenance e.code := by
  induction frames generalizing frameIndex state with
  | nil => cases h
  | cons frame frames ih =>
    rw [rasterLoop, bind_eq_error] at h
    rcases h with h | ⟨next, -, h⟩
    · exact rasterStep_eq_error h
    · exact ih h

end Errors

/-- The count of instances of a draw: the last frame that sets it is the source, and its word is the
count. -/
structure TrueInstances (commandBuffer : List UInt8) (frames : List Pm4Type3Frame)
    (instanceCount : UInt32) (source : SceAgcRasterPacketSource) : Prop where
  frame : ∃ frame : Pm4Type3Frame, frames[source.frameIndex]? = some frame ∧
    frame.header.opcode = kPm4NumInstancesOpcode ∧ frame.wordOffset = source.packetWordOffset
  value : instanceCount = readLittleEndianWord commandBuffer source.valueWordOffset
  last : ∀ (later : ℕ) (frame : Pm4Type3Frame), source.frameIndex < later →
    frames[later]? = some frame →
    frame.header.opcode ≠ kPm4NumInstancesOpcode

theorem trueInstances_of_lastHit {commandBuffer : List UInt8} {frames : List Pm4Type3Frame}
    (hframes : ∀ frame ∈ frames, FrameOf commandBuffer frame)
    (h : lastHit instancesAt frames.zipIdx = some (instanceCount, source)) :
    TrueInstances commandBuffer frames instanceCount source := by
  obtain ⟨index, frame, hframe, hhit, hlater⟩ := lastHit_zipIdx_eq_some.mp h
  have hof := hframes frame (List.mem_of_getElem? hframe)
  unfold instancesAt at hhit
  split_ifs at hhit with hopcode
  cases hhit
  refine ⟨⟨frame, hframe, hopcode, rfl⟩, word_of_frameOf hof ?_, ?_⟩
  · rw [totalWordCount_of_frameOf hof]
    omega
  · intro later other hlt hother hotherOpcode
    have hnone := hlater later other hlt hother
    rw [instancesAt, if_pos hotherOpcode] at hnone
    cases hnone

/-- **The plan is a replay in which the last write wins, with true sources.** A buffer that is
accepted has a single draw; the register states of the plan are the fold of the register packets
before it, in the order of the stream; and every source of the plan names the word the register has
at the draw, in the last packet that writes it. Whatever the buffer is, no source is ever found to
be missing. -/
theorem planSceAgcFirstRasterSubmission_replays (host : Host) (submission : SceAgcDcbSubmission) :
    (∀ plan, planSceAgcFirstRasterSubmission host submission = .ok plan →
      ∃ before draw after,
        framePm4Type3Stream host submission.commandBufferBytes = .ok (before ++ draw :: after) ∧
        draw.header.opcode = kPm4DrawIndexAutoOpcode ∧
        (∀ frame ∈ before ++ after, frame.header.opcode ≠ kPm4DrawIndexAutoOpcode) ∧
        (∀ bank, plan.file bank = replayBuffer submission.commandBufferBytes bank before) ∧
        (∀ register : TrackedRegister,
          TrueSource submission.commandBufferBytes before register.bank register.offset.toNat
          (plan.file register.bank) (plan.source register)) ∧
        TrueInstances submission.commandBufferBytes before plan.draw.instanceCount
          plan.instancesSource ∧
        plan.drawSource = ⟨before.length, draw.wordOffset, draw.wordOffset + 1⟩ ∧
        plan.draw.indexCount =
          readLittleEndianWord submission.commandBufferBytes plan.drawSource.valueWordOffset) ∧
    ∀ e, planSceAgcFirstRasterSubmission host submission = .error e →
      ¬ IsMissingProvenance e.code := by
  constructor
  · intro plan h
    simp only [planSceAgcFirstRasterSubmission, bind_eq_ok, refuseIf_eq_ok, mapError_eq_ok,
      orRefuse_eq_ok] at h
    obtain ⟨-, -, frames, hframes, state, hloop, snapshot, hsnapshot, hplan⟩ := h
    have hinv : LoopInv frames state := LoopInv.nil.loop hloop
    obtain ⟨before, draw, after, rfl, htaken, hafter⟩ := hinv.drawn snapshot hsnapshot
    have hof := (tiles_of_framePm4Type3Stream hframes).frameOf
    have hbefore : ∀ frame ∈ before, FrameOf submission.commandBufferBytes frame :=
        fun frame hframe =>
      hof frame (List.mem_append_left _ hframe)
    have hdraw := hof draw (List.mem_append_right _ List.mem_cons_self)
    obtain ⟨hfile, hsource, hinstances, hindex, hinstancesSource, hdrawSource, -⟩ :=
      planDraw_eq_ok hplan
    refine ⟨before, draw, after, hframes, htaken.opcode, ?_, ?_, ?_, ?_, ?_, ?_⟩
    · intro frame hframe
      rcases List.mem_append.mp hframe with hframe | hframe
      · exact htaken.first frame hframe
      · exact hafter frame hframe
    · intro bank
      rw [hfile, htaken.registers.file_eq hbefore]
    · intro register
      rw [hfile]
      exact htaken.registers.trueSource hbefore (hsource register)
    · rw [hinstances, hinstancesSource]
      exact trueInstances_of_lastHit hbefore htaken.instances
    · rw [hdrawSource, htaken.drawSource]
      rfl
    · rw [hindex, htaken.indexCount, hdrawSource, htaken.drawSource]
      refine word_of_frameOf hdraw ?_
      rw [totalWordCount_of_frameOf hdraw]
      omega
  · intro e h
    simp only [planSceAgcFirstRasterSubmission, bind_eq_error, refuseIf_eq_error, mapError_eq_error,
      mapError_eq_ok, orRefuse_eq_error, orRefuse_eq_ok] at h
    rcases h with ⟨-, rfl⟩ | ⟨_, -,
      ⟨_, -, rfl⟩ | ⟨frames, -, h | ⟨state, hloop, ⟨-, rfl⟩ | ⟨snapshot, hsnapshot, h⟩⟩⟩⟩
    · exact not_false
    · exact not_false
    · exact rasterLoop_eq_error h
    · exact not_false
    · have hinv : LoopInv frames state := LoopInv.nil.loop hloop
      obtain ⟨before, draw, after, -, htaken, -⟩ := hinv.drawn snapshot hsnapshot
      exact planDraw_eq_error htaken.registers h

/-- A command buffer that draws a triangle into a target of 64 by 64 pixels. The primitive type is
written twice. -/
def triangleWords : List ℕ :=
  [0xc0027600, 0xc8, 0x200, 0, 0xc0027600, 0x08, 0x101, 0, 0xc0017900, 0x242, 9,
    0xc0016900, 0x8e, 0xf, 0xc0016900, 0x318, 0x100, 0xc0016900, 0x31c, 0x28, 0xc0016900, 0x390, 0,
    0xc0016900, 0x3b0, 0xfc03f, 0xc0016900, 0x3b8, 0x1000000, 0xc0017900, 0x242, 4,
    0xc0002f00, 1, 0xc0012d00, 3, 2]

/-- The submission of the buffer that draws a triangle. -/
def triangleSubmission : SceAgcDcbSubmission := ⟨0, wordsBytes (triangleWords.map (4, ·))⟩

set_option maxRecDepth 10000 in

/-- The triangle is accepted, and its primitive type comes from the second write. -/
theorem planSceAgcFirstRasterSubmission_triangle :
    ∃ plan, planSceAgcFirstRasterSubmission Host.plentiful triangleSubmission = .ok plan ∧
      plan.primitiveTypeSource = ⟨9, 29, 31⟩ ∧
      readLittleEndianWord triangleSubmission.commandBufferBytes
        plan.primitiveTypeSource.valueWordOffset = 4 ∧
      ∃ before, before.length = 11 ∧
        ∀ bank, plan.file bank =
          replayBuffer triangleSubmission.commandBufferBytes bank before := by
  have haccepted : (planSceAgcFirstRasterSubmission Host.plentiful triangleSubmission).toOption.any
      (fun plan =>
      plan.primitiveTypeSource = ⟨9, 29, 31⟩ ∧ plan.drawSource.frameIndex = 11) = true := by
        decide +kernel
  obtain ⟨plan, hplan, hfacts⟩ := exists_of_any haccepted
  simp only [decide_eq_true_eq] at hfacts
  obtain ⟨hprimitive, hindex⟩ := hfacts
  obtain ⟨before, draw, after, -, -, -, hfile, -, -, hdraw, -⟩ :=
    (planSceAgcFirstRasterSubmission_replays Host.plentiful triangleSubmission).1 plan hplan
  rw [hdraw] at hindex
  refine ⟨plan, hplan, hprimitive, ?_, before, hindex, hfile⟩
  rw [hprimitive]
  decide +kernel

end Astraea.Execution
