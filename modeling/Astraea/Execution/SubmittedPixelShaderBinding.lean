import Astraea.Execution.FirstRasterSubmission
import Astraea.Execution.ProgramAddress
import Astraea.Graphics.Pm4Format

/-!
# The binding of a submitted pixel shader

`plan_sce_agc_submitted_pixel_shader_binding` looks for the pixel shader of a command buffer that
does nothing but write shader registers: it replays the registers, puts the address of the program
together and looks it up. The planner of the first raster submission does the first two as well, on
its way to the draw, with code of its own.

`view` is what the raster planner knows that the binding planner also knows, and `bindingLoop_view`
says that on packets of shader registers the one loop is the other one seen in this way. A packet
writes the same registers wherever it stands, so the two planners agree on a buffer and on the
shader packets cut out of it.
-/

namespace Astraea.Execution

open Astraea.Base Astraea.Core Astraea.Graphics

/-! ### The planner -/

/-- Where the address of the pixel program was set. -/
structure SubmittedPixelProgramRegisterSource where
  frameIndex : ℕ
  packetWordOffset : ℕ
  valueWordOffset : ℕ
  deriving DecidableEq

/-- The shader that a submission binds, and where it was bound. -/
structure SceAgcSubmittedPixelShaderBinding where
  shaderRegisterState : ShaderRegisterState
  programAddress : UInt64
  shader : CreatedAgcShader
  pgmLoSource : SubmittedPixelProgramRegisterSource
  pgmHiSource : SubmittedPixelProgramRegisterSource

/-- Why a submission has no binding. -/
inductive SceAgcSubmittedPixelShaderBindingErrorCode where
  | unsupportedSubmitFlag
  | pm4FramingFailure
  | unsupportedType3HeaderControlBits
  | pm4LoweringFailure
  | shaderRegisterApplyFailure
  | pixelProgramAddressFailure
  | missingProgramRegisterProvenance
  | createdShaderLookupFailure
  deriving DecidableEq

/-- A submission without a binding, with the frame it is about. -/
structure SceAgcSubmittedPixelShaderBindingError where
  code : SceAgcSubmittedPixelShaderBindingErrorCode
  submitFlag : UInt8 := 0
  frameIndex : Option ℕ := none
  wordOffset : Option ℕ := none
  type3HeaderControlBits : UInt8 := 0
  pm4FramingError : Option Pm4Type3FrameError := none
  pm4LoweringError : Option Pm4SetRegLowerError := none
  shaderRegisterApplyError : Option RegisterApplyError := none
  pixelProgramAddressError : Option ProgramAddressError := none
  createdShaderLookupError : Option CreatedAgcShaderLookupError := none
  deriving DecidableEq

/-- `record_program_register_source`. -/
def recordProgramRegisterSource (emission : GraphicsIrEmission) (frameIndex : ℕ)
    (targetRegister : UInt16) (output : Option SubmittedPixelProgramRegisterSource) :
    Option SubmittedPixelProgramRegisterSource :=
  match emission.operation with
  | .shaderRegisterWriteRange startOffset values =>
    let start := startOffset.toNat
    let target := targetRegister.toNat
    if target < start ∨ target - start ≥ values.length then output
    else
      let valueIndex := target - start
      let packetWordOffset := emission.sourcePacket.extent.wordOffset
      some ⟨frameIndex, packetWordOffset, packetWordOffset + 2 + valueIndex⟩
  | _ => output

/-- The variables of the loop. -/
structure BindingRegisters where
  registerState : ShaderRegisterState := RegisterState.initial
  pgmLoSource : Option SubmittedPixelProgramRegisterSource := none
  pgmHiSource : Option SubmittedPixelProgramRegisterSource := none

/-- One turn of the loop. -/
def bindingStep (host : Host) (frameIndex : ℕ) (frame : Pm4Type3Frame)
    (registers : BindingRegisters) :
    Except SceAgcSubmittedPixelShaderBindingError BindingRegisters := do
  let bindingError (code : SceAgcSubmittedPixelShaderBindingErrorCode) :
      SceAgcSubmittedPixelShaderBindingError :=
    { code := code, frameIndex := frameIndex, wordOffset := frame.wordOffset }
  refuseIf (frame.header.lowControlBits ≠ 0) { bindingError .unsupportedType3HeaderControlBits with
    type3HeaderControlBits := frame.header.lowControlBits }
  let emission ← (lowerPm4SetShRegFrameToGraphicsIr host frame).mapError fun e =>
    { bindingError .pm4LoweringFailure with pm4LoweringError := some e }
  let applied := applyShaderRegisterGraphicsIr emission registers.registerState
  let _ ← applied.1.mapError fun e =>
    { bindingError .shaderRegisterApplyFailure with shaderRegisterApplyError := some e }
  return {
    registerState := applied.2
    pgmLoSource := recordProgramRegisterSource emission frameIndex kPixelProgramLoRegisterOffset
      registers.pgmLoSource
    pgmHiSource := recordProgramRegisterSource emission frameIndex kPixelProgramHiRegisterOffset
      registers.pgmHiSource }

/-- The loop, from a frame index on. -/
def bindingLoop (host : Host) : (frameIndex : ℕ) → List Pm4Type3Frame → BindingRegisters →
    Except SceAgcSubmittedPixelShaderBindingError BindingRegisters
  | _, [], registers => .ok registers
  | frameIndex, frame :: frames, registers => do
    let registers ← bindingStep host frameIndex frame registers
    bindingLoop host (frameIndex + 1) frames registers

/-- `plan_sce_agc_submitted_pixel_shader_binding`. -/
def planSceAgcSubmittedPixelShaderBinding (host : Host) (submission : SceAgcDcbSubmission)
    (registry : CreatedAgcShaderRegistry) :
    Except SceAgcSubmittedPixelShaderBindingError SceAgcSubmittedPixelShaderBinding := do
  refuseIf (submission.flag ≠ 0) { code := .unsupportedSubmitFlag, submitFlag := submission.flag }
  let frames ← (framePm4Type3Stream host submission.commandBufferBytes).mapError fun e =>
    { code := .pm4FramingFailure, wordOffset := some e.wordOffset, pm4FramingError := some e }
  let registers ← bindingLoop host 0 frames {}
  let programAddress ← (resolvePixelProgramAddress registers.registerState).mapError fun e =>
    { code := .pixelProgramAddressFailure, pixelProgramAddressError := some e }
  let missing : SceAgcSubmittedPixelShaderBindingError :=
    { code := .missingProgramRegisterProvenance }
  let pgmLoSource ← orRefuse registers.pgmLoSource missing
  let pgmHiSource ← orRefuse registers.pgmHiSource missing
  let shader ← (registry.lookupUnique programAddress).mapError fun e =>
    { code := .createdShaderLookupFailure, createdShaderLookupError := some e }
  return ⟨registers.registerState, programAddress, shader, pgmLoSource, pgmHiSource⟩

/-! ### The raster loop seen by the binding planner -/

/-- The same place, in the words of the binding planner. -/
def SceAgcRasterPacketSource.submitted (source : SceAgcRasterPacketSource) :
    SubmittedPixelProgramRegisterSource :=
  ⟨source.frameIndex, source.packetWordOffset, source.valueWordOffset⟩

/-- What the binding planner knows of what the raster planner knows. -/
def view (registers : RasterRegisters) : BindingRegisters where
  registerState := registers.shaderState
  pgmLoSource := registers.pixelPgmLoSource.map SceAgcRasterPacketSource.submitted
  pgmHiSource := registers.pixelPgmHiSource.map SceAgcRasterPacketSource.submitted

theorem recordProgramRegisterSource_submitted (emission : GraphicsIrEmission) (frameIndex : ℕ)
    (targetRegister : UInt16) (output : Option SceAgcRasterPacketSource) :
    recordProgramRegisterSource emission frameIndex targetRegister
      (output.map SceAgcRasterPacketSource.submitted) =
      (recordShaderRegisterSource emission frameIndex targetRegister output).map
        SceAgcRasterPacketSource.submitted := by
  cases hoperation : emission.operation with
  | shaderRegisterWriteRange startOffset values =>
    simp only [recordProgramRegisterSource, recordShaderRegisterSource, recordRegisterSource,
      hoperation, GraphicsIrOperation.shaderRange]
    split_ifs <;> rfl
  | _ => simp only [recordProgramRegisterSource, recordShaderRegisterSource, recordRegisterSource,
      hoperation, GraphicsIrOperation.shaderRange]

section Loop

variable {host : Host} {frameIndex : ℕ} {frame : Pm4Type3Frame} {frames : List Pm4Type3Frame}

/-- A packet of shader registers that both planners go through. -/
structure ShaderPacket (host : Host) (frame : Pm4Type3Frame) : Prop where
  opcode : frame.header.opcode = kPm4SetShRegOpcode
  lowControlBits : frame.header.lowControlBits = 0
  lowered : ∃ emission, lowerPm4SetShRegFrameToGraphicsIr host frame = .ok emission

/-- **One turn of the two loops.** -/
theorem bindingStep_view (h : ShaderPacket host frame) (frameIndex : ℕ) (state : RasterLoop) :
    ∃ registers, rasterStep host frameIndex frame state =
      .ok { state with registers := registers } ∧
      bindingStep host frameIndex frame (view state.registers) = .ok (view registers) := by
  obtain ⟨emission, hlower⟩ := h.lowered
  obtain ⟨effect, happly⟩ :=
    @RegisterBank.apply_of_lower .shader host frame emission h.opcode hlower
    state.registers.shaderState
  obtain ⟨registers, hset, hbinding⟩ :
    ∃ registers, setShReg host frameIndex frame state.registers = .ok registers ∧
      bindingStep host frameIndex frame (view state.registers) = .ok (view registers) := by
    simp only [setShReg, bindingStep, bind_eq_ok, refuseIf_eq_ok, mapError_eq_ok, pure_eq_ok]
    refine ⟨_, ⟨emission, hlower, effect, congrArg Prod.fst happly, rfl⟩, (), ?_, emission, hlower,
      effect, congrArg Prod.fst happly, ?_⟩
    · rw [h.lowControlBits]
      decide
    · simp only [view, recordProgramRegisterSource_submitted]
  have hset' : RegisterBank.set .shader host frameIndex frame state.registers = .ok registers :=
    hset
  refine ⟨registers, ?_, hbinding⟩
  rw [rasterStep_of_opcode h.lowControlBits
    (show frame.header.opcode = RegisterBank.shader.opcode from h.opcode), hset']
  rfl

/-- **On packets of shader registers the loop of the binding planner is the loop of the raster
planner**, seen through `view`. -/
theorem bindingLoop_view (h : ∀ frame ∈ frames, ShaderPacket host frame) (frameIndex : ℕ)
    (state : RasterLoop) :
    ∃ registers, rasterLoop host frameIndex frames state =
      .ok { state with registers := registers } ∧
      bindingLoop host frameIndex frames (view state.registers) = .ok (view registers) := by
  induction frames generalizing frameIndex state with
  | nil => exact ⟨state.registers, rfl, rfl⟩
  | cons frame frames ih =>
    rw [List.forall_mem_cons] at h
    obtain ⟨next, hraster, hbinding⟩ := bindingStep_view h.1 frameIndex state
    obtain ⟨registers, hrest, hrest'⟩ := ih h.2 (frameIndex + 1) { state with registers := next }
    refine ⟨registers, ?_, ?_⟩
    · rw [rasterLoop, hraster]
      exact hrest
    · rw [bindingLoop, hbinding]
      exact hrest'

/-! ### Packets that were moved -/

section Moved

variable {other : Pm4Type3Frame}

theorem word_of_samePacket (h : SamePacket frame other) (index : ℕ) :
    other.rawPacket.word index = frame.rawPacket.word index := by
  rw [RawPacket.word, h.rawWords, RawPacket.word]

theorem registerRange_of_samePacket (bank : RegisterBank) (h : SamePacket frame other) :
    registerRange bank other = registerRange bank frame := by
  have hrange : other.rawPacket.range = frame.rawPacket.range := by
    rw [RawPacket.range, RawPacket.range, word_of_samePacket h, h.rawWords]
  rw [registerRange, registerRange, h.header, hrange]

theorem lower_of_samePacket {bank : RegisterBank} {emission : GraphicsIrEmission}
    (hmemory : ∀ site, host.allocation site = none) (h : SamePacket frame other)
    (hopcode : frame.header.opcode = bank.opcode) (hlower : bank.lower host frame = .ok emission) :
    ∃ emission', bank.lower host other = .ok emission' := by
  have hmoved {opcode : UInt8} {window : ℕ} {operation : UInt16 → List UInt32 → GraphicsIrOperation}
      (hopcode : frame.header.opcode = opcode)
        (hlower : lowerSetRegFrame opcode window operation host frame = .ok emission) :
      ∃ emission', lowerSetRegFrame opcode window operation host other = .ok emission' := by
    rw [lowerSetRegFrame, if_neg (not_not.mpr hopcode)] at hlower
    simp only [bind_eq_ok, refuseIf_eq_ok, allocate_eq_ok, pure_eq_ok] at hlower
    obtain ⟨-, hlength, -, hcontrol, -, hrange, -, -, -⟩ := hlower
    rw [lowerSetRegFrame, h.header, if_neg (not_not.mpr hopcode), word_of_samePacket h, h.rawWords]
    simp only [bind_eq_ok, refuseIf_eq_ok, allocate_eq_ok, pure_eq_ok]
    exact ⟨_, (), hlength, (), hcontrol, (), hrange, (), hmemory _, rfl⟩
  cases bank with
  | shader => exact hmoved hopcode hlower
  | context => exact hmoved hopcode hlower
  | userConfig => exact hmoved hopcode hlower

theorem lowerDrawControl_of_samePacket {emission : GraphicsIrEmission} (h : SamePacket frame other)
    (hopcode : frame.header.opcode = kPm4NumInstancesOpcode)
    (hlower : lowerPm4DrawControlFrameToGraphicsIr frame = .ok emission) :
    ∃ emission', lowerPm4DrawControlFrameToGraphicsIr other = .ok emission' := by
  rw [lowerPm4DrawControlFrameToGraphicsIr, if_pos hopcode] at hlower
  simp only [bind_eq_ok, refuseIf_eq_ok, pure_eq_ok] at hlower
  obtain ⟨-, hlength, -⟩ := hlower
  rw [lowerPm4DrawControlFrameToGraphicsIr, h.header, if_pos hopcode, h.rawWords]
  simp only [bind_eq_ok, refuseIf_eq_ok, pure_eq_ok]
  exact ⟨_, (), hlength, rfl⟩

theorem ShaderPacket.moved (hmemory : ∀ site, host.allocation site = none)
    (hsame : SamePacket frame other) (h : ShaderPacket host frame) : ShaderPacket host other where
  opcode := by rw [hsame.header, h.opcode]
  lowControlBits := by rw [hsame.header, h.lowControlBits]
  lowered := by
    obtain ⟨emission, hlower⟩ := h.lowered
    exact @lower_of_samePacket host frame other .shader emission hmemory hsame h.opcode hlower

end Moved

/-! ### Packets behind the draw -/

/-- A packet that sets registers or the count of instances, and is lowered. -/
def SetsState (host : Host) (frame : Pm4Type3Frame) : Prop :=
  (∃ bank : RegisterBank, frame.header.opcode = bank.opcode ∧
    ∃ emission, bank.lower host frame = .ok emission) ∨
    (frame.header.opcode = kPm4NumInstancesOpcode ∧
      ∃ emission, lowerPm4DrawControlFrameToGraphicsIr frame = .ok emission)

theorem SetsState.moved {other : Pm4Type3Frame} (hmemory : ∀ site, host.allocation site = none)
    (hsame : SamePacket frame other) (h : SetsState host frame) : SetsState host other := by
  rcases h with ⟨bank, hopcode, emission, hlower⟩ | ⟨hopcode, emission, hlower⟩
  · exact .inl ⟨bank, by rw [hsame.header, hopcode],
      lower_of_samePacket hmemory hsame hopcode hlower⟩
  · exact .inr ⟨by rw [hsame.header, hopcode], lowerDrawControl_of_samePacket hsame hopcode hlower⟩

theorem SetsState.opcode_ne (h : SetsState host frame) :
    frame.header.opcode ≠ kPm4DrawIndexAutoOpcode := by
  rcases h with ⟨bank, hopcode, -⟩ | ⟨hopcode, -⟩
  · rw [hopcode]
    cases bank <;> decide
  · rw [hopcode]
    decide

theorem SetsState.exists_rasterStep (h : SetsState host frame)
    (hbits : frame.header.lowControlBits = 0) (frameIndex : ℕ) (state : RasterLoop) :
    ∃ next, rasterStep host frameIndex frame state = .ok next := by
  rcases h with ⟨bank, hopcode, emission, hlower⟩ | ⟨hopcode, emission, hlower⟩
  · obtain ⟨effect, happly⟩ :=
      RegisterBank.apply_of_lower hopcode hlower (state.registers.file bank)
    have happlied := congrArg Prod.fst happly
    obtain ⟨registers, hset⟩ :
        ∃ registers, RegisterBank.set bank host frameIndex frame state.registers =
        .ok registers := by
      cases bank <;> (
        simp only [RegisterBank.set, setShReg, setContextReg, setUconfigReg, bind_eq_ok,
          mapError_eq_ok, pure_eq_ok]
        exact ⟨_, emission, hlower, effect, happlied, rfl⟩)
    rw [rasterStep_of_opcode hbits hopcode, hset]
    exact ⟨_, rfl⟩
  · have hzero : ¬ frame.header.lowControlBits ≠ 0 := not_not.mpr hbits
    simp only [rasterStep]
    rw [if_neg hzero, if_neg (by rw [hopcode]; decide), if_neg (by rw [hopcode]; decide),
      if_neg (by rw [hopcode]; decide), if_pos (.inl hopcode), drawControl, hlower]
    rw [lowerPm4DrawControlFrameToGraphicsIr, if_pos hopcode] at hlower
    simp only [bind_eq_ok, pure_eq_ok] at hlower
    obtain ⟨-, -, rfl⟩ := hlower
    exact ⟨_, rfl⟩

/-- **Packets that set state leave alone what was put aside at the draw.** -/
theorem rasterLoop_of_setsState (h : ∀ frame ∈ frames, SetsState host frame)
    (hbits : ∀ frame ∈ frames, frame.header.lowControlBits = 0) (frameIndex : ℕ)
    (state : RasterLoop) :
    ∃ last, rasterLoop host frameIndex frames state = .ok last ∧
      last.drawSnapshot = state.drawSnapshot := by
  induction frames generalizing frameIndex state with
  | nil => exact ⟨state, rfl, rfl⟩
  | cons frame frames ih =>
    rw [List.forall_mem_cons] at h hbits
    obtain ⟨next, hstep⟩ := h.1.exists_rasterStep hbits.1 frameIndex state
    obtain ⟨last, hrest, hlast⟩ := ih h.2 hbits.2 (frameIndex + 1) next
    have hnext : next.drawSnapshot = state.drawSnapshot := by
      rcases rasterStep_cases hstep with ⟨-, hsnapshot, -⟩ | ⟨hopcode, -⟩
      · exact hsnapshot
      · exact absurd hopcode h.1.opcode_ne
    refine ⟨last, ?_, hlast.trans hnext⟩
    rw [rasterLoop, hstep]
    exact hrest

theorem rasterLoop_append (frames more : List Pm4Type3Frame) (frameIndex : ℕ) (state : RasterLoop) :
    rasterLoop host frameIndex (frames ++ more) state =
      rasterLoop host frameIndex frames state >>= rasterLoop host
        (frameIndex + frames.length) more := by
  induction frames generalizing frameIndex state with
  | nil => rfl
  | cons frame frames ih =>
    rw [List.cons_append, rasterLoop, rasterLoop, bind_assoc]
    refine bind_congr fun next => ?_
    rw [ih, List.length_cons, Nat.add_right_comm, Nat.add_assoc]

/-! ### The packets of an accepted submission -/

/-- Every frame of a loop that came to its end went through a turn. -/
theorem exists_rasterStep_of_mem {state last : RasterLoop}
    (h : rasterLoop host frameIndex frames state = .ok last) (hframe : frame ∈ frames) :
    ∃ index before after, rasterStep host index frame before = .ok after := by
  induction frames generalizing frameIndex state with
  | nil => cases hframe
  | cons first frames ih =>
    rw [rasterLoop, bind_eq_ok] at h
    obtain ⟨next, hstep, hrest⟩ := h
    rcases List.mem_cons.mp hframe with rfl | hframe
    · exact ⟨_, _, _, hstep⟩
    · exact ih hrest hframe

theorem shaderPacket_of_rasterStep {state next : RasterLoop}
    (h : rasterStep host frameIndex frame state = .ok next)
    (hopcode : frame.header.opcode = kPm4SetShRegOpcode) : ShaderPacket host frame := by
  simp only [rasterStep] at h
  by_cases hbits : frame.header.lowControlBits = 0
  · rw [if_neg (not_not.mpr hbits), if_pos hopcode, map_eq_ok] at h
    obtain ⟨registers, hset, -⟩ := h
    simp only [setShReg, bind_eq_ok, mapError_eq_ok] at hset
    obtain ⟨emission, hlower, -⟩ := hset
    exact ⟨hopcode, hbits, emission, hlower⟩
  · rw [if_pos hbits] at h
    cases h

/-- The packets of shader registers before the draw. -/
def shaderPacketsBeforeDraw (frames : List Pm4Type3Frame) : List Pm4Type3Frame :=
  (frames.takeWhile fun frame => frame.header.opcode ≠ kPm4DrawIndexAutoOpcode).filter fun frame =>
    frame.header.opcode = kPm4SetShRegOpcode

theorem shaderPacketsBeforeDraw_eq {before after : List Pm4Type3Frame} {draw : Pm4Type3Frame}
    (hdraw : draw.header.opcode = kPm4DrawIndexAutoOpcode)
    (hbefore : ∀ frame ∈ before, frame.header.opcode ≠ kPm4DrawIndexAutoOpcode) :
    shaderPacketsBeforeDraw (before ++ draw :: after) =
      before.filter fun frame => frame.header.opcode = kPm4SetShRegOpcode := by
  rw [shaderPacketsBeforeDraw, List.takeWhile_append_of_pos (by simpa using hbefore),
    List.takeWhile_cons_of_neg (by simpa using hdraw), List.append_nil]

/-- They write what the frames before the draw write to the shader registers. -/
theorem filterMap_registerRange_filter (frames : List Pm4Type3Frame) :
    (frames.filter fun frame => frame.header.opcode = kPm4SetShRegOpcode).filterMap
      (registerRange .shader) =
      frames.filterMap (registerRange .shader) := by
  induction frames with
  | nil => rfl
  | cons frame frames ih =>
    by_cases hopcode : frame.header.opcode = kPm4SetShRegOpcode
    · rw [List.filter_cons_of_pos (by simpa using hopcode), List.filterMap_cons,
        List.filterMap_cons, ih]
    · have hnone : registerRange .shader frame = none := if_neg hopcode
      rw [List.filter_cons_of_neg (by simpa using hopcode), List.filterMap_cons, hnone, ih]

end Loop

/-- The submission of the packets of shader registers before the draw, one behind the other. -/
def shaderSubmission (submission : SceAgcDcbSubmission) (frames : List Pm4Type3Frame) :
    SceAgcDcbSubmission :=
  { submission with
    commandBufferBytes := (shaderPacketsBeforeDraw frames).flatMap Pm4Type3Frame.bytes }

section Agreement

variable {host : Host} {submission : SceAgcDcbSubmission} {plan : SceAgcFirstRasterSubmissionPlan}

/-- A binding whose registers were read can only fail for the shader. -/
theorem planSceAgcSubmittedPixelShaderBinding_eq {frames : List Pm4Type3Frame}
    {registerState : ShaderRegisterState}
    {pgmLoSource pgmHiSource : SubmittedPixelProgramRegisterSource} {programAddress : UInt64}
    (hflag : ¬ submission.flag ≠ 0)
    (hframes : framePm4Type3Stream host submission.commandBufferBytes = .ok frames)
    (hloop : bindingLoop host 0 frames {} = .ok ⟨registerState, some pgmLoSource, some pgmHiSource⟩)
    (haddress : resolvePixelProgramAddress registerState = .ok programAddress)
    (registry : CreatedAgcShaderRegistry) :
    planSceAgcSubmittedPixelShaderBinding host submission registry =
      match registry.lookupUnique programAddress with
      | .error e =>
        .error { code := .createdShaderLookupFailure, createdShaderLookupError := some e }
      | .ok shader => .ok ⟨registerState, programAddress, shader, pgmLoSource, pgmHiSource⟩ := by
  unfold planSceAgcSubmittedPixelShaderBinding
  rw [refuseIf_of_not hflag, hframes]
  show (bindingLoop host 0 frames {} >>= _) = _
  rw [hloop]
  show ((resolvePixelProgramAddress registerState).mapError _ >>= _) = _
  rw [haddress]
  show ((registry.lookupUnique programAddress).mapError _ >>= _) = _
  cases registry.lookupUnique programAddress <;> rfl

/-- **The binding planner agrees with the raster planner** on the shader packets before the draw. -/
theorem binding_of_plan (hmemory : ∀ site, host.allocation site = none)
    (hsize : submission.commandBufferBytes.length < 2 ^ 64) {frames : List Pm4Type3Frame}
    (hframes : framePm4Type3Stream host submission.commandBufferBytes = .ok frames)
    (hplan : planSceAgcFirstRasterSubmission host submission = .ok plan) :
    ∃ shaderFrames loSource hiSource,
      framePm4Type3Stream host (shaderSubmission submission frames).commandBufferBytes =
        .ok shaderFrames ∧
      TrueSource (shaderSubmission submission frames).commandBufferBytes shaderFrames .shader
        kPixelProgramLoRegisterOffset.toNat plan.shaderRegisterState loSource ∧
      TrueSource (shaderSubmission submission frames).commandBufferBytes shaderFrames .shader
        kPixelProgramHiRegisterOffset.toNat plan.shaderRegisterState hiSource ∧
      ∀ registry, planSceAgcSubmittedPixelShaderBinding host
        (shaderSubmission submission frames) registry =
        match registry.lookupUnique plan.pixelProgramAddress with
        | .error e =>
          .error { code := .createdShaderLookupFailure, createdShaderLookupError := some e }
        | .ok shader => .ok ⟨plan.shaderRegisterState, plan.pixelProgramAddress, shader,
            loSource.submitted, hiSource.submitted⟩ := by
  simp only [planSceAgcFirstRasterSubmission, bind_eq_ok, refuseIf_eq_ok, mapError_eq_ok,
    orRefuse_eq_ok, hframes, Except.ok.injEq] at hplan
  obtain ⟨-, hflag, _, rfl, state, hloop, snapshot, hsnapshot, hdraw⟩ := hplan
  obtain ⟨before, draw, after, rfl, htaken, -⟩ := (LoopInv.nil.loop hloop).drawn snapshot hsnapshot
  set packets := shaderPacketsBeforeDraw (before ++ draw :: after) with hpackets
  rw [shaderPacketsBeforeDraw_eq htaken.opcode htaken.first] at hpackets
  have hsublist : packets.Sublist (before ++ draw :: after) := by
    rw [hpackets]
    exact List.filter_sublist.trans (List.sublist_append_left before _)
  have hshader : ∀ frame ∈ packets, ShaderPacket host frame := by
    intro frame hframe
    obtain ⟨_, _, _, hstep⟩ := exists_rasterStep_of_mem hloop (hsublist.subset hframe)
    rw [hpackets] at hframe
    exact shaderPacket_of_rasterStep hstep (by simpa using (List.mem_filter.mp hframe).2)
  obtain ⟨shaderFrames, hcut, hsame⟩ := framePm4Type3Stream_cut hmemory hsize hframes hsublist
  have hmoved : ∀ frame ∈ shaderFrames, ShaderPacket host frame :=
    forall_mem_of_samePacket (fun _ _ hsame h => h.moved hmemory hsame) hsame hshader
  obtain ⟨registers, hraster, hbinding⟩ := bindingLoop_view hmoved 0 {}
  have htracks : Tracks shaderFrames registers := (LoopInv.nil.loop hraster).registers
  have hfile : registers.shaderState = plan.shaderRegisterState := by
    have hplanned : plan.shaderRegisterState = snapshot.registers.shaderState :=
      (planDraw_eq_ok hdraw).file .shader
    have hbefore : snapshot.registers.shaderState = _ := htaken.registers.file .shader
    have hafter : registers.shaderState = _ := htracks.file .shader
    rw [hplanned, hbefore, hafter,
      filterMap_of_samePacket (fun _ _ => registerRange_of_samePacket .shader) hsame, hpackets,
      filterMap_registerRange_filter]
  have haddress : resolvePixelProgramAddress registers.shaderState =
      .ok plan.pixelProgramAddress := by
    have hplanned : plan.shaderRegisterState = snapshot.registers.shaderState :=
      (planDraw_eq_ok hdraw).file .shader
    rw [hfile, hplanned]
    exact (planDraw_eq_ok hdraw).pixelProgram
  obtain ⟨hlo, hhi⟩ := isInitialized_of_resolveProgramAddress haddress
  have hsource (register : TrackedRegister) (hbank : register.bank = .shader)
      (hmark : registers.shaderState.isInitialized register.offset = true) :
      ∃ source, registers.source register = some source ∧
        TrueSource (packets.flatMap Pm4Type3Frame.bytes) shaderFrames .shader register.offset.toNat
          plan.shaderRegisterState source := by
    have hsome := htracks.isSome_source register
    rw [hbank] at hsome
    obtain ⟨source, hsource⟩ := Option.isSome_iff_exists.mp (hsome.trans hmark)
    have htrue := htracks.trueSource (tiles_of_framePm4Type3Stream hcut).frameOf hsource
    rw [hbank] at htrue
    refine ⟨source, hsource, ?_⟩
    rw [← hfile]
    exact htrue
  obtain ⟨loSource, hloSource, hloTrue⟩ := hsource .pixelPgmLo rfl hlo
  obtain ⟨hiSource, hhiSource, hhiTrue⟩ := hsource .pixelPgmHi rfl hhi
  refine ⟨_, loSource, hiSource, hcut, hloTrue, hhiTrue, ?_⟩
  intro registry
  have hview : view registers =
      ⟨plan.shaderRegisterState, some loSource.submitted, some hiSource.submitted⟩ := by
    have hloNoted : registers.pixelPgmLoSource = some loSource := hloSource
    have hhiNoted : registers.pixelPgmHiSource = some hiSource := hhiSource
    rw [view, hfile, hloNoted, hhiNoted]
    rfl
  have hloop' : bindingLoop host 0 shaderFrames {} = .ok (view registers) := hbinding
  have hflag' : ¬ (shaderSubmission submission (before ++ draw :: after)).flag ≠ 0 := hflag
  rw [hview] at hloop'
  rw [hfile] at haddress
  exact planSceAgcSubmittedPixelShaderBinding_eq hflag' hcut hloop' haddress registry

/-- **Packets behind the draw change nothing.** -/
theorem plan_append (hmemory : ∀ site, host.allocation site = none)
    (hplan : planSceAgcFirstRasterSubmission host submission = .ok plan) {moreBytes : List UInt8}
    {more : List Pm4Type3Frame} (hmore : framePm4Type3Stream host moreBytes = .ok more)
    (hsets : ∀ frame ∈ more, SetsState host frame)
    (hbits : ∀ frame ∈ more, frame.header.lowControlBits = 0)
    (hsize : (submission.commandBufferBytes ++ moreBytes).length < 2 ^ 64) :
    planSceAgcFirstRasterSubmission host
      { submission with commandBufferBytes := submission.commandBufferBytes ++ moreBytes } =
        .ok plan := by
  simp only [planSceAgcFirstRasterSubmission, bind_eq_ok, refuseIf_eq_ok, mapError_eq_ok,
    orRefuse_eq_ok] at hplan ⊢
  obtain ⟨-, hflag, frames, hframes, state, hloop, snapshot, hsnapshot, hdraw⟩ := hplan
  have hwhole := framePm4Type3Stream_append hmemory hsize hframes hmore
  have hsame := samePacket_shift (submission.commandBufferBytes.length / 4) more
  obtain ⟨last, hrest, hlast⟩ := @rasterLoop_of_setsState host _
    (forall_mem_of_samePacket (fun _ _ hsame h => h.moved hmemory hsame) hsame hsets)
    (forall_mem_of_samePacket (fun _ _ hsame h => by rw [hsame.header, h]) hsame hbits)
      (0 + frames.length) state
  refine ⟨(), hflag, _, hwhole, last, ?_, snapshot, hlast.trans hsnapshot, hdraw⟩
  rw [rasterLoop_append, hloop]
  exact hrest

/-- **The two planners agree, and what stands behind the draw does not matter.** For a submission
that is accepted, the binding planner fails at most for the shader on the packets of shader
registers before the draw; otherwise it reports the registers and the address of the raster plan,
and its sources are true. Packets behind the draw that set state and have no control bits in their
headers leave the plan as it is. -/
theorem planSceAgcSubmittedPixelShaderBinding_agrees (hmemory : ∀ site, host.allocation site = none)
    (hsize : submission.commandBufferBytes.length < 2 ^ 64)
    (hplan : planSceAgcFirstRasterSubmission host submission = .ok plan) :
    (∃ frames shaderFrames loSource hiSource,
      framePm4Type3Stream host submission.commandBufferBytes = .ok frames ∧
      framePm4Type3Stream host (shaderSubmission submission frames).commandBufferBytes =
        .ok shaderFrames ∧
      TrueSource (shaderSubmission submission frames).commandBufferBytes shaderFrames .shader
        kPixelProgramLoRegisterOffset.toNat plan.shaderRegisterState loSource ∧
      TrueSource (shaderSubmission submission frames).commandBufferBytes shaderFrames .shader
        kPixelProgramHiRegisterOffset.toNat plan.shaderRegisterState hiSource ∧
      ∀ registry, planSceAgcSubmittedPixelShaderBinding host
        (shaderSubmission submission frames) registry =
        match registry.lookupUnique plan.pixelProgramAddress with
        | .error e =>
          .error { code := .createdShaderLookupFailure, createdShaderLookupError := some e }
        | .ok shader => .ok ⟨plan.shaderRegisterState, plan.pixelProgramAddress, shader,
            loSource.submitted,
            hiSource.submitted⟩) ∧
    ∀ moreBytes more, framePm4Type3Stream host moreBytes = .ok more →
      (∀ frame ∈ more, SetsState host frame) →
      (∀ frame ∈ more, frame.header.lowControlBits = 0) →
      (submission.commandBufferBytes ++ moreBytes).length < 2 ^ 64 →
      planSceAgcFirstRasterSubmission host
        { submission with commandBufferBytes := submission.commandBufferBytes ++ moreBytes } =
          .ok plan := by
  constructor
  · obtain ⟨frames, hframes⟩ :
        ∃ frames, framePm4Type3Stream host submission.commandBufferBytes = .ok frames := by
      simp only [planSceAgcFirstRasterSubmission, bind_eq_ok, mapError_eq_ok] at hplan
      obtain ⟨-, -, frames, hframes, -⟩ := hplan
      exact ⟨frames, hframes⟩
    obtain ⟨shaderFrames, loSource, hiSource, hcut, hlo, hhi, hbinding⟩ :=
      binding_of_plan hmemory hsize hframes hplan
    exact ⟨frames, shaderFrames, loSource, hiSource, hframes, hcut, hlo, hhi, hbinding⟩
  · intro moreBytes more hmore hsets hbits hsize'
    exact plan_append hmemory hplan hmore hsets hbits hsize'

end Agreement

/-- A packet that sets the pixel program once more, and a count of instances. -/
def packetsBehindTheDraw : List UInt8 :=
  wordsBytes ([0xc0017600, 0x08, 0x202, 0xc0002f00, 7].map (4, ·))

/-- A packet of a shader register whose header has a control bit. -/
def packetWithControlBits : List UInt8 := wordsBytes ([0xc0017601, 0x08, 0x202].map (4, ·))

/-- Where a bank takes the frames of a buffer, they set state. -/
theorem setsState_of_all {moreBytes : List UInt8} {p : Pm4Type3Frame → Bool}
    {more : List Pm4Type3Frame} (hmore : framePm4Type3Stream Host.plentiful moreBytes = .ok more)
    (h : (framePm4Type3Stream Host.plentiful moreBytes).toOption.any
      (fun frames => frames.all fun frame =>
      p frame && ((frame.header.opcode == kPm4SetShRegOpcode &&
          (lowerPm4SetShRegFrameToGraphicsIr Host.plentiful frame).toOption.isSome) ||
        (frame.header.opcode == kPm4NumInstancesOpcode &&
          (lowerPm4DrawControlFrameToGraphicsIr frame).toOption.isSome))) =
      true) :
    ∀ frame ∈ more, p frame = true ∧ SetsState Host.plentiful frame := by
  have hok {ε α : Type} {x : Except ε α} (hx : x.toOption.isSome = true) : ∃ a, x = .ok a := by
    cases x with
    | error e => cases hx
    | ok a => exact ⟨a, rfl⟩
  rw [hmore] at h
  intro frame hframe
  have hall := List.all_eq_true.mp h frame hframe
  simp only [Bool.and_eq_true, Bool.or_eq_true, beq_iff_eq] at hall
  obtain ⟨hp, ⟨hopcode, hlower⟩ | ⟨hopcode, hlower⟩⟩ := hall
  · exact ⟨hp, .inl ⟨.shader, hopcode, hok hlower⟩⟩
  · exact ⟨hp, .inr ⟨hopcode, hok hlower⟩⟩

set_option maxRecDepth 10000 in

/-- The triangle, and the triangle with packets behind its draw. -/
theorem planSceAgcSubmittedPixelShaderBinding_triangle :
    ∃ plan loSource hiSource frames,
      planSceAgcFirstRasterSubmission Host.plentiful triangleSubmission = .ok plan ∧
      (∀ registry, planSceAgcSubmittedPixelShaderBinding Host.plentiful
        (shaderSubmission triangleSubmission frames) registry =
        match registry.lookupUnique plan.pixelProgramAddress with
        | .error e =>
          .error { code := .createdShaderLookupFailure, createdShaderLookupError := some e }
        | .ok shader => .ok ⟨plan.shaderRegisterState, plan.pixelProgramAddress, shader, loSource,
            hiSource⟩) ∧
      planSceAgcFirstRasterSubmission Host.plentiful
        { triangleSubmission with
          commandBufferBytes := triangleSubmission.commandBufferBytes ++ packetsBehindTheDraw } =
            .ok plan := by
  have haccepted : (planSceAgcFirstRasterSubmission Host.plentiful triangleSubmission).toOption.any
      (fun _ => true) = true := by
    decide +kernel
  have hframed : (framePm4Type3Stream Host.plentiful packetsBehindTheDraw).toOption.any
      (fun _ => true) = true := by
    decide +kernel
  obtain ⟨plan, hplan, -⟩ := exists_of_any haccepted
  obtain ⟨more, hmore, -⟩ := exists_of_any hframed
  obtain ⟨⟨frames, _, loSource, hiSource, -, -, -, -, hbinding⟩, hbehind⟩ :=
    planSceAgcSubmittedPixelShaderBinding_agrees (fun _ => rfl) (by decide +kernel) hplan
  have hsets := @setsState_of_all packetsBehindTheDraw
    (fun frame => frame.header.lowControlBits == 0) more hmore
    (by decide +kernel)
  refine ⟨plan, loSource.submitted, hiSource.submitted, frames, hplan, hbinding, ?_⟩
  exact hbehind packetsBehindTheDraw more hmore (fun frame hframe => (hsets frame hframe).2)
    (fun frame hframe => by simpa using (hsets frame hframe).1) (by decide +kernel)

set_option maxRecDepth 10000 in

/-- A packet with a control bit in its header is lowered, but a submission that ends in it is
refused. -/
theorem plan_append_controlBits :
    ∃ plan more, planSceAgcFirstRasterSubmission Host.plentiful triangleSubmission = .ok plan ∧
      framePm4Type3Stream Host.plentiful packetWithControlBits = .ok more ∧
      (∀ frame ∈ more, SetsState Host.plentiful frame) ∧
      planSceAgcFirstRasterSubmission Host.plentiful
        { triangleSubmission with
          commandBufferBytes := triangleSubmission.commandBufferBytes ++ packetWithControlBits } ≠
            .ok plan := by
  have haccepted : (planSceAgcFirstRasterSubmission Host.plentiful triangleSubmission).toOption.any
      (fun _ => true) = true := by
    decide +kernel
  have hframed : (framePm4Type3Stream Host.plentiful packetWithControlBits).toOption.any
      (fun _ => true) = true := by
    decide +kernel
  have hrefused : (planSceAgcFirstRasterSubmission Host.plentiful
      { triangleSubmission with
        commandBufferBytes :=
          triangleSubmission.commandBufferBytes ++ packetWithControlBits }).toOption.isNone =
          true := by
    decide +kernel
  obtain ⟨plan, hplan, -⟩ := exists_of_any haccepted
  obtain ⟨more, hmore, -⟩ := exists_of_any hframed
  refine ⟨plan, more, hplan, hmore, ?_, ?_⟩
  · intro frame hframe
    exact (@setsState_of_all packetWithControlBits (fun _ => true) more hmore
      (by decide +kernel) frame hframe).2
  · intro hsame
    rw [hsame] at hrefused
    cases hrefused

end Astraea.Execution
