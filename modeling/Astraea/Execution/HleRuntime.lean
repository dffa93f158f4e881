import Astraea.Execution.SceAgcShaderPreparation
import Astraea.Graphics.ShaderIr

/-!
# The runtime of high-level emulation

`dispatch_hle` serves a call of the guest. Three services exist: writing guest bytes to an
output transcript, ending the guest, and `sceAgcCreateShader`, which plans and prepares a
shader, enters it into the registry of created shaders and then patches guest memory.

The state is the transcript, the registry and the bytes of guest memory, and every result
comes with the state it leaves. `dispatchHle_atomic` says that a call that fails leaves the
state it found. `createdShader_snapshot_iff` says when the shader that a call enters into
the registry is still what guest memory holds after the call has patched it.
-/

namespace Astraea.Execution

open Astraea.Base Astraea.Core Astraea.Memory Astraea.Graphics

/-! ### Created shaders -/

/-- A shader that was created: its handle, header, code and registers. -/
structure CreatedAgcShader where
  codeAddress : UInt64
  stage : AgcShaderStage
  preparationProfile : SceAgcShaderPreparationProfile
  shaderHandle : GuestAddress
  shaderHeaderAddress : GuestAddress
  shaderTextAddress : GuestAddress
  shader : AgcShaderBinary
  shaderIr : ShaderIrProgram
  deriving DecidableEq

/-- Why a shader cannot be made of what is in memory. -/
inductive CreatedAgcShaderMaterializationErrorCode where
  | unsupportedPreparationProfile
  | preparationStageMismatch
  | shaderIrLoweringFailure
  | hostAllocationFailure
  deriving DecidableEq

/-- A shader that cannot be made of what is in memory. -/
structure CreatedAgcShaderMaterializationError where
  code : CreatedAgcShaderMaterializationErrorCode
  shaderIrError : Option ShaderIrProgramError := none
  deriving DecidableEq

/-- The stage of a preparation profile, with the program type it asks for. -/
def SceAgcShaderPreparationProfile.stage : SceAgcShaderPreparationProfile → AgcShaderStage × UInt8
  | .v18PixelPublicShape => (.pixel, 1)
  | .v18GeometryEsPublicShape => (.geometry, 2)

/-- `materialize_created_agc_shader`. -/
def materializeCreatedAgcShader (host : Host) (preparation : SceAgcShaderPreparationPlan) :
    Except CreatedAgcShaderMaterializationError CreatedAgcShader := do
  let shader := preparation.createShader.shader
  let request := preparation.createShader.request
  let (stage, raw) := preparation.profile.stage
  refuseIf (shader.programType.raw ≠ raw ∨ shader.programType.known ≠ some stage)
    { code := .preparationStageMismatch }
  let shaderIr ← (lowerRdna2StreamToShaderIr host shader.rdna2Words).mapError fun e =>
    ⟨.shaderIrLoweringFailure, some e⟩
  allocate host .createdShader { code := .hostAllocationFailure } { code := .hostAllocationFailure }
  return {
    codeAddress := request.shaderTextAddress.value
    stage := stage
    preparationProfile := preparation.profile
    shaderHandle := preparation.shaderHandle
    shaderHeaderAddress := request.shaderHeaderAddress
    shaderTextAddress := request.shaderTextAddress
    shader := shader
    shaderIr := shaderIr }

/-- Why the registry refuses a shader. -/
inductive CreatedAgcShaderRegistrationErrorCode where
  | hostAllocationFailure
  | hostSizeUnrepresentable
  deriving DecidableEq

/-- A shader that the registry refuses. -/
structure CreatedAgcShaderRegistrationError where
  code : CreatedAgcShaderRegistrationErrorCode
  deriving DecidableEq

/-- The registry: the shaders in the order they were created. -/
structure CreatedAgcShaderRegistry where
  shaders : List CreatedAgcShader
  deriving DecidableEq

/-- `register_shader`: the index of the new entry, and the registry with it. -/
def CreatedAgcShaderRegistry.registerShader (host : Host) (registry : CreatedAgcShaderRegistry)
    (shader : CreatedAgcShader) :
    Except CreatedAgcShaderRegistrationError (ℕ × CreatedAgcShaderRegistry) := do
  let index := registry.shaders.length
  refuseIf (index = host.createdShadersMaxSize) ⟨.hostSizeUnrepresentable⟩
  allocate host .shaderRegistration ⟨.hostAllocationFailure⟩ ⟨.hostSizeUnrepresentable⟩
  return (index, ⟨registry.shaders ++ [shader]⟩)

/-- `rollback_last_registration`: the registry without its last entry, if that is the one at
`index`. -/
def CreatedAgcShaderRegistry.rollbackLastRegistration (registry : CreatedAgcShaderRegistry)
    (index : ℕ) :
    Option CreatedAgcShaderRegistry :=
  if registry.shaders.isEmpty = true ∨ index ≠ registry.shaders.length - 1 then none
  else some ⟨registry.shaders.dropLast⟩

/-! ### Dispatch -/

/-- Why a call is not served. -/
inductive HleRuntimeErrorCode where
  | invalidExecutionStop
  | unboundGate
  | unknownFunction
  | unsupportedSyntheticService
  | hostSizeUnrepresentable
  | hostAllocationFailure
  | guestMemoryFailure
  | guestStackPointerOverflow
  | guestReturnAddressNotExecutable
  | sceAgcCreateShaderPlanFailure
  | sceAgcShaderPreparationFailure
  | sceAgcShaderMaterializationFailure
  | sceAgcShaderRegistrationFailure
  | sceAgcShaderRegistryRollbackFailure
  | sceAgcShaderApplyFailure
  deriving DecidableEq

/-- A call that is not served, with the error below it. -/
structure HleRuntimeError where
  code : HleRuntimeErrorCode
  functionId : Option HleFunctionId := none
  gateSlot : Option UInt32 := none
  guestAddress : Option UInt64 := none
  guestMemoryError : Option GuestMemoryError := none
  sceAgcCreateShaderPlanError : Option SceAgcCreateShaderPlanError := none
  sceAgcShaderPreparationError : Option SceAgcShaderPreparationError := none
  sceAgcShaderApplyError : Option SceAgcShaderApplyError := none
  sceAgcShaderMaterializationError : Option CreatedAgcShaderMaterializationError := none
  sceAgcShaderRegistrationError : Option CreatedAgcShaderRegistrationError := none
  deriving DecidableEq

/-- What is to happen behind a call: the guest goes on, or exits. -/
inductive HleHandlerAction where
  | resume
  | exit
  deriving DecidableEq

/-- The result of a call. -/
structure HleHandlerResult where
  action : HleHandlerAction
  value : UInt64
  deriving DecidableEq

/-- The transcript, the registry and guest memory. -/
structure HleDispatchState where
  output : List UInt8
  createdAgcShaders : CreatedAgcShaderRegistry
  guestBytes : ℕ → UInt8

/-- The function that writes to the output. -/
def kSyntheticTestWriteId : HleFunctionId := ⟨1⟩

/-- The function that ends the guest. -/
def kSyntheticTestExitId : HleFunctionId := ⟨2⟩

/-- `max_size()` of a vector of bytes. -/
def kOutputMaxSize : ℕ := 2 ^ 63 - 1

section Dispatch

variable (host : Host) (memory : GuestMemoryAccess) (gateSlot : UInt32) (call : HleCall)
  (state : HleDispatchState)

/-- The error of a service: its function and its gate. -/
def serviceError (code : HleRuntimeErrorCode) (functionId : HleFunctionId) (gateSlot : UInt32) :
    HleRuntimeError where
  code := code
  functionId := functionId
  gateSlot := gateSlot

/-- `agc_create_plan_runtime_error`. -/
def agcCreatePlanRuntimeError (functionId : HleFunctionId) (gateSlot : UInt32)
    (detail : SceAgcCreateShaderPlanError) :
    HleRuntimeError :=
  { serviceError .sceAgcCreateShaderPlanFailure functionId gateSlot with
    guestAddress := detail.guestAddress.map GuestAddress.value
    guestMemoryError := detail.guestMemoryError
    sceAgcCreateShaderPlanError := detail }

/-- `agc_preparation_runtime_error`. -/
def agcPreparationRuntimeError (functionId : HleFunctionId) (gateSlot : UInt32)
    (detail : SceAgcShaderPreparationError) :
    HleRuntimeError :=
  { serviceError .sceAgcShaderPreparationFailure functionId gateSlot with
    guestAddress := detail.guestAddress.map GuestAddress.value
    sceAgcShaderPreparationError := detail }

/-- The guest address of a memory error. -/
def GuestMemoryError.address (e : GuestMemoryError) : Option UInt64 :=
  if e.hasGuestAddress = true then some e.guestAddress else none

/-- `agc_apply_runtime_error`. -/
def agcApplyRuntimeError (functionId : HleFunctionId) (gateSlot : UInt32)
    (detail : SceAgcShaderApplyError) :
    HleRuntimeError :=
  { serviceError .sceAgcShaderApplyFailure functionId gateSlot with
    guestAddress := detail.guestMemoryError.bind GuestMemoryError.address
    guestMemoryError := detail.guestMemoryError
    sceAgcShaderApplyError := detail }

/-- `agc_materialization_runtime_error`. -/
def agcMaterializationRuntimeError (functionId : HleFunctionId) (gateSlot : UInt32)
    (detail : CreatedAgcShaderMaterializationError) : HleRuntimeError :=
  { serviceError .sceAgcShaderMaterializationFailure functionId gateSlot with
    sceAgcShaderMaterializationError := detail }

/-- `agc_registration_runtime_error`. -/
def agcRegistrationRuntimeError (functionId : HleFunctionId) (gateSlot : UInt32)
    (detail : CreatedAgcShaderRegistrationError) : HleRuntimeError :=
  { serviceError .sceAgcShaderRegistrationFailure functionId gateSlot with
    sceAgcShaderRegistrationError := detail }

/-- `memory_runtime_error`. -/
def memoryRuntimeError (functionId : HleFunctionId) (gateSlot : UInt32)
    (detail : GuestMemoryError) : HleRuntimeError :=
  { serviceError .guestMemoryFailure functionId gateSlot with
    guestAddress := detail.address
    guestMemoryError := detail }

/-- What `sceAgcCreateShader` does before it changes anything: plan, prepare and materialize. -/
def prepareCreateShader :
    Except HleRuntimeError (SceAgcShaderPreparationPlan × CreatedAgcShader) := do
  let createShader ← (planSceAgcCreateShader host call memory state.guestBytes).mapError
    (agcCreatePlanRuntimeError kSceAgcCreateShaderHleId gateSlot)
  let preparation ← (planSceAgcShaderPreparation host createShader).mapError
    (agcPreparationRuntimeError kSceAgcCreateShaderHleId gateSlot)
  let createdShader ← (materializeCreatedAgcShader host preparation).mapError
    (agcMaterializationRuntimeError kSceAgcCreateShaderHleId gateSlot)
  return (preparation, createdShader)

/-- Register the shader, patch guest memory, and take the registration back if that fails. -/
def commitCreateShader (preparation : SceAgcShaderPreparationPlan)
    (createdShader : CreatedAgcShader) :
    Except HleRuntimeError HleHandlerResult × HleDispatchState :=
  match state.createdAgcShaders.registerShader host createdShader with
  | .error e => (.error (agcRegistrationRuntimeError kSceAgcCreateShaderHleId gateSlot e), state)
  | .ok (index, registry) =>
    let applied := applySceAgcShaderPreparation preparation memory state.guestBytes
    let state := { state with createdAgcShaders := registry, guestBytes := applied.2 }
    match applied.1 with
    | .ok _ => (.ok ⟨.resume, 0⟩, state)
    | .error e =>
      match state.createdAgcShaders.rollbackLastRegistration index with
      | none =>
        (.error (serviceError .sceAgcShaderRegistryRollbackFailure kSceAgcCreateShaderHleId
          gateSlot), state)
      | some registry =>
        (.error (agcApplyRuntimeError kSceAgcCreateShaderHleId gateSlot e),
          { state with createdAgcShaders := registry })

/-- The service `sceAgcCreateShader`. -/
def serveCreateShader : Except HleRuntimeError HleHandlerResult × HleDispatchState :=
  match prepareCreateShader host memory gateSlot call state with
  | .error e => (.error e, state)
  | .ok (preparation, createdShader) =>
    commitCreateShader host memory gateSlot state preparation createdShader

/-- The error of the write service: it names the guest buffer. -/
def writeError (code : HleRuntimeErrorCode) : HleRuntimeError :=
  { serviceError code kSyntheticTestWriteId gateSlot with guestAddress := some (call.argument 0) }

/-- The write service: the output is enlarged first and cut back if guest memory cannot be read. -/
def serveWrite : Except HleRuntimeError HleHandlerResult × HleDispatchState :=
  let rawCount := call.argument 1
  let count := rawCount.toNat
  let oldSize := state.output.length
  if count > kOutputMaxSize - oldSize then
    (.error (writeError gateSlot call .hostSizeUnrepresentable), state)
  else if count = 0 then (.ok ⟨.resume, rawCount⟩, state)
  else
    match allocate host .output (writeError gateSlot call .hostAllocationFailure)
      (writeError gateSlot call .hostSizeUnrepresentable) with
    | .error e => (.error e, state)
    | .ok () =>
      let resized := state.output ++ List.replicate count 0
      match memory.read state.guestBytes ⟨call.argument 0⟩ count with
      | .error e =>
        (.error (memoryRuntimeError kSyntheticTestWriteId gateSlot e),
          { state with output := resized.take oldSize })
      | .ok copied => (.ok ⟨.resume, rawCount⟩,
          { state with output := resized.take oldSize ++ copied })

/-- The services by their ids. -/
def serve (id : HleFunctionId) : Except HleRuntimeError HleHandlerResult × HleDispatchState :=
  if id = kSceAgcCreateShaderHleId then serveCreateShader host memory gateSlot call state
  else if id = kSyntheticTestWriteId then serveWrite host memory gateSlot call state
  else if id = kSyntheticTestExitId then (.ok ⟨.exit, call.argument 0⟩, state)
  else (.error (serviceError .unsupportedSyntheticService id gateSlot), state)

end Dispatch

/-- The function a gate stop asks for, and what the registry knows of it. -/
def calledFunction (registry : HleRegistry) (gateRegion : SyntheticGateRegion)
    (stop : ExecutionStop) :
    Except HleRuntimeError (GateBinding × HleFunctionDescriptor) := do
  refuseIf (stop.reason ≠ .hostGate ∨ stop.hasGateSlot = false) { code := .invalidExecutionStop }
  let binding ← orRefuse (gateRegion.bindingForSlot stop.gateSlot)
    { code := .unboundGate, gateSlot := stop.gateSlot }
  let descriptor ← orRefuse (registry.find binding.functionId)
    { code := .unknownFunction, functionId := binding.functionId, gateSlot := stop.gateSlot }
  return (binding, descriptor)

/-- `dispatch_hle`: the result, and the state the call leaves. -/
def dispatchHle (host : Host) (registry : HleRegistry) (gateRegion : SyntheticGateRegion)
    (stop : ExecutionStop) (memory : GuestMemoryAccess) (state : HleDispatchState) :
    Except HleRuntimeError HleHandlerResult × HleDispatchState :=
  match calledFunction registry gateRegion stop with
  | .error e => (.error e, state)
  | .ok (binding, descriptor) =>
    serve host memory stop.gateSlot
      (makeCall binding.functionId stop.gateSlot stop.context) state descriptor.id

/-! ### What a call does -/

section Cases

variable (host : Host) (memory : GuestMemoryAccess) (gateSlot : UInt32) (call : HleCall)
  (state : HleDispatchState)

/-- The state after a shader was registered and its preparation applied. -/
def HleDispatchState.withShader (state : HleDispatchState)
    (preparation : SceAgcShaderPreparationPlan) (createdShader : CreatedAgcShader) :
    HleDispatchState where
  output := state.output
  createdAgcShaders := ⟨state.createdAgcShaders.shaders ++ [createdShader]⟩
  guestBytes := preparation.stored state.guestBytes

/-- The call failed and left the state as it was; it was not the rollback that failed. -/
def Refused (outcome : Except HleRuntimeError HleHandlerResult × HleDispatchState) : Prop :=
  ∃ e, outcome = (.error e, state) ∧ e.code ≠ .sceAgcShaderRegistryRollbackFailure

/-- The call created a shader. -/
def Created (outcome : Except HleRuntimeError HleHandlerResult × HleDispatchState) : Prop :=
  ∃ preparation createdShader,
    prepareCreateShader host memory gateSlot call state = .ok (preparation, createdShader) ∧
    Writable memory preparation.patches ∧
    outcome = (.ok ⟨.resume, 0⟩, state.withShader preparation createdShader)

/-- The call did nothing but write output. -/
def Answered (outcome : Except HleRuntimeError HleHandlerResult × HleDispatchState) : Prop :=
  ∃ result copied, outcome = (.ok result, { state with output := state.output ++ copied })

/-- A registration appends one shader, and can be taken back. -/
theorem CreatedAgcShaderRegistry.registerShader_eq_ok {host : Host}
    {registry registry' : CreatedAgcShaderRegistry} {shader : CreatedAgcShader} {index : ℕ}
    (h : registry.registerShader host shader = .ok (index, registry')) :
    registry' = ⟨registry.shaders ++ [shader]⟩ ∧
    registry'.rollbackLastRegistration index = some registry := by
  simp only [registerShader, bind_eq_ok, refuseIf_eq_ok, allocate_eq_ok, pure_eq_ok, Prod.mk.injEq]
    at h
  obtain ⟨-, -, -, -, rfl, rfl⟩ := h
  simp [rollbackLastRegistration]

theorem code_of_prepareCreateShader {host : Host} {memory : GuestMemoryAccess} {gateSlot : UInt32}
    {call : HleCall} {state : HleDispatchState} {e : HleRuntimeError}
    (h : prepareCreateShader host memory gateSlot call state = .error e) :
    e.code ≠ .sceAgcShaderRegistryRollbackFailure := by
  simp only [prepareCreateShader, bind_eq_error, mapError_eq_error, mapError_eq_ok, pure_ne_error,
    and_false, exists_false, or_false] at h
  rcases h with ⟨detail, -, rfl⟩ | ⟨_, -, ⟨detail, -, rfl⟩ | ⟨_, -, detail, -, rfl⟩⟩
    <;> exact fun h => by cases h

theorem commitCreateShader_cases (preparation : SceAgcShaderPreparationPlan)
    (createdShader : CreatedAgcShader) :
    Refused state (commitCreateShader host memory gateSlot state preparation createdShader) ∨
    (Writable memory preparation.patches ∧
      commitCreateShader host memory gateSlot state preparation createdShader =
        (.ok ⟨.resume, 0⟩, state.withShader preparation createdShader)) := by
  rw [commitCreateShader]
  cases hregister : state.createdAgcShaders.registerShader host createdShader with
  | error e => exact .inl ⟨_, rfl, nofun⟩
  | ok registered =>
    obtain ⟨index, registry⟩ := registered
    obtain ⟨rfl, hrollback⟩ := CreatedAgcShaderRegistry.registerShader_eq_ok hregister
    rcases apply_cases preparation memory state.guestBytes with ⟨hwritable, happly⟩ | ⟨e, happly⟩
    · refine .inr ⟨hwritable, ?_⟩
      simp only [happly]
      rfl
    · -- guest memory is untouched and the entry is taken back: the state is the old one
      refine .inl ⟨agcApplyRuntimeError kSceAgcCreateShaderHleId gateSlot e, ?_, nofun⟩
      simp only [happly, hrollback]

theorem serveCreateShader_cases :
    Refused state (serveCreateShader host memory gateSlot call state) ∨
    Created host memory gateSlot call state
      (serveCreateShader host memory gateSlot call state) := by
  rw [serveCreateShader]
  cases hprepare : prepareCreateShader host memory gateSlot call state with
  | error e => exact .inl ⟨e, rfl, code_of_prepareCreateShader hprepare⟩
  | ok prepared =>
    obtain ⟨preparation, createdShader⟩ := prepared
    rcases commitCreateShader_cases host memory gateSlot state preparation createdShader
      with hrefused | ⟨hwritable, hcommit⟩
    · exact .inl hrefused
    · exact .inr ⟨preparation, createdShader, hprepare, hwritable, hcommit⟩

/-- The write service fails without a trace, or appends to the output. -/
theorem serveWrite_cases :
    Refused state (serveWrite host memory gateSlot call state) ∨
    Answered state (serveWrite host memory gateSlot call state) := by
  rw [serveWrite]
  dsimp only
  split_ifs with hsize hzero
  · exact .inl ⟨_, rfl, nofun⟩
  · exact .inr ⟨_, [], by rw [List.append_nil]⟩
  · cases hallocate : allocate host .output (writeError gateSlot call .hostAllocationFailure)
      (writeError gateSlot call .hostSizeUnrepresentable) with
    | error e =>
      refine .inl ⟨e, rfl, ?_⟩
      unfold allocate at hallocate
      split at hallocate <;> cases hallocate
      · nofun
      · nofun
    | ok =>
      cases hread : memory.read state.guestBytes ⟨call.argument 0⟩ (call.argument 1).toNat with
      | error e => exact .inl ⟨memoryRuntimeError kSyntheticTestWriteId gateSlot e, by
          rw [List.take_left], nofun⟩
      | ok copied => exact .inr ⟨_, copied, by rw [List.take_left]⟩

theorem serve_cases (id : HleFunctionId) :
    Refused state (serve host memory gateSlot call state id) ∨
    (id = kSceAgcCreateShaderHleId ∧
      Created host memory gateSlot call state (serve host memory gateSlot call state id)) ∨
    (id ≠ kSceAgcCreateShaderHleId ∧
      Answered state (serve host memory gateSlot call state id)) := by
  rw [serve]
  split_ifs with hcreate hwrite hexit
  · rcases serveCreateShader_cases host memory gateSlot call state with hrefused | hcreated
    · exact .inl hrefused
    · exact .inr (.inl ⟨hcreate, hcreated⟩)
  · rcases serveWrite_cases host memory gateSlot call state with hrefused | hanswered
    · exact .inl hrefused
    · exact .inr (.inr ⟨hcreate, hanswered⟩)
  · exact .inr (.inr ⟨hcreate, _, [], by rw [List.append_nil]⟩)
  · exact .inl ⟨_, rfl, nofun⟩

/-- What a dispatch does, by the function that was called. -/
theorem dispatchHle_cases (registry : HleRegistry) (gateRegion : SyntheticGateRegion)
    (stop : ExecutionStop) :
    Refused state (dispatchHle host registry gateRegion stop memory state) ∨
    ∃ binding descriptor, calledFunction registry gateRegion stop = .ok (binding, descriptor) ∧
      ((descriptor.id = kSceAgcCreateShaderHleId ∧
          Created host memory stop.gateSlot
            (makeCall binding.functionId stop.gateSlot stop.context) state
            (dispatchHle host registry gateRegion stop memory state)) ∨
        (descriptor.id ≠ kSceAgcCreateShaderHleId ∧
          Answered state (dispatchHle host registry gateRegion stop memory state))) := by
  rw [dispatchHle]
  cases hcalled : calledFunction registry gateRegion stop with
  | error e =>
    refine .inl ⟨e, rfl, ?_⟩
    simp only [calledFunction, bind_eq_error, orRefuse_eq_error, refuseIf_eq_error, pure_ne_error,
      and_false, exists_false, or_false] at hcalled
    rcases hcalled with ⟨-, rfl⟩ | ⟨_, -, ⟨-, rfl⟩ | ⟨_, -, -, rfl⟩⟩ <;> exact fun h => by cases h
  | ok called =>
    obtain ⟨binding, descriptor⟩ := called
    have hcases := serve_cases host memory stop.gateSlot
      (makeCall binding.functionId stop.gateSlot stop.context) state
      descriptor.id
    rcases hcases with hrefused | hdone
    · exact .inl hrefused
    · exact .inr ⟨binding, descriptor, rfl, hdone⟩

end Cases

/-! ### Atomicity -/

/-- What a created shader is: the shader planned for the call, and its preparation. -/
structure ShaderCreated (call : HleCall) (bytes : ℕ → UInt8) (create : SceAgcCreateShaderPlan)
    (listOffset : UInt64) (preparation : SceAgcShaderPreparationPlan)
    (createdShader : CreatedAgcShader) : Prop where
  created : CreatedFrom call bytes create
  prepared : PreparedFrom create listOffset preparation
  shader : createdShader.shader = create.shader
  handle : createdShader.shaderHandle = create.request.shaderHeaderAddress
  headerAddress : createdShader.shaderHeaderAddress = create.request.shaderHeaderAddress
  textAddress : createdShader.shaderTextAddress = create.request.shaderTextAddress
  codeAddress : createdShader.codeAddress = create.request.shaderTextAddress.value

/-- A shader that was materialized has the addresses of its preparation, and the stage of its
profile. -/
structure MaterializedFrom (preparation : SceAgcShaderPreparationPlan)
    (createdShader : CreatedAgcShader) : Prop where
  shader : createdShader.shader = preparation.createShader.shader
  stage : createdShader.stage = preparation.profile.stage.1
  handle : createdShader.shaderHandle = preparation.shaderHandle
  headerAddress : createdShader.shaderHeaderAddress =
    preparation.createShader.request.shaderHeaderAddress
  textAddress : createdShader.shaderTextAddress = preparation.createShader.request.shaderTextAddress
  codeAddress : createdShader.codeAddress = preparation.createShader.request.shaderTextAddress.value

theorem materializedFrom_of_materialize {host : Host} {preparation : SceAgcShaderPreparationPlan}
    {createdShader : CreatedAgcShader}
    (h : materializeCreatedAgcShader host preparation = .ok createdShader) :
    MaterializedFrom preparation createdShader := by
  simp only [materializeCreatedAgcShader, bind_eq_ok, pure_eq_ok] at h
  obtain ⟨_, _, shaderIr, _, _, _, rfl⟩ := h
  exact ⟨rfl, rfl, rfl, rfl, rfl, rfl⟩

theorem shaderCreated_of_prepareCreateShader {host : Host} {memory : GuestMemoryAccess}
    {gateSlot : UInt32} {call : HleCall} {state : HleDispatchState}
    {preparation : SceAgcShaderPreparationPlan} {createdShader : CreatedAgcShader}
    (h : prepareCreateShader host memory gateSlot call state = .ok (preparation, createdShader)) :
    ∃ create listOffset, ShaderCreated call state.guestBytes create listOffset preparation
      createdShader := by
  simp only [prepareCreateShader, bind_eq_ok, mapError_eq_ok, pure_eq_ok, Prod.mk.injEq] at h
  obtain ⟨create, hcreate, plan, hplan, shader, hshader, rfl, rfl⟩ := h
  have hfrom := createdFrom_of_plan hcreate
  have hlen : create.shader.shaderHeaderBytes.length < 2 ^ 64 := by
    rw [hfrom.parsed.headerBytes, length_load]
    exact lt_trans create.shader.declaredHeaderSize.toNat_lt (by decide)
  obtain ⟨listOffset, hprepared⟩ := preparedFrom_of_plan hlen hplan
  obtain ⟨hbinary, -, hhandle, hheader, htext, hcode⟩ := materializedFrom_of_materialize hshader
  rw [hprepared.createShader] at hbinary hheader htext hcode
  exact ⟨create, listOffset, hfrom, hprepared, hbinary, hhandle.trans hprepared.handle, hheader,
    htext, hcode⟩

theorem ShaderCreated.load_output {call : HleCall} {bytes : ℕ → UInt8}
    {create : SceAgcCreateShaderPlan} {listOffset : UInt64}
    {preparation : SceAgcShaderPreparationPlan} {createdShader : CreatedAgcShader}
    (h : ShaderCreated call bytes create listOffset preparation createdShader) :
    leValue (load (preparation.stored bytes) (call.argument 0).toNat 8) =
      createdShader.shaderHandle.toNat := by
  have hmem : (outputPatch create.request).toPatch ∈
      preparation.patches.map SceAgcShaderPatch.toPatch := by
    rw [h.prepared.patches_eq]
    exact List.mem_append_right _ (List.mem_singleton_self _)
  have hload := load_storeAll h.prepared.disjoint hmem bytes
  have haddress : (outputPatch create.request).toPatch.1 = (call.argument 0).toNat := by
    rw [outputPatch, h.created.request]
    rfl
  rw [haddress, outputPatch, SceAgcShaderPatch.toPatch, length_leBytes] at hload
  rw [SceAgcShaderPreparationPlan.stored, hload, h.handle]
  exact leValue_leBytes_of_lt (GuestAddress.toNat_lt _)

/-- **A call that fails leaves no trace.** Output, registry and guest memory are what they were,
and the registry never loses its last entry to a failed rollback. A call of `sceAgcCreateShader`
that succeeds appends one shader, and the output slot holds its handle. -/
theorem dispatchHle_atomic (host : Host) (registry : HleRegistry) (gateRegion : SyntheticGateRegion)
    (stop : ExecutionStop) (memory : GuestMemoryAccess) (state : HleDispatchState) :
    (∀ e, (dispatchHle host registry gateRegion stop memory state).1 = .error e →
      (dispatchHle host registry gateRegion stop memory state).2 = state ∧
      e.code ≠ .sceAgcShaderRegistryRollbackFailure) ∧
    ∀ binding descriptor result, calledFunction registry gateRegion stop =
      .ok (binding, descriptor) →
      descriptor.id = kSceAgcCreateShaderHleId →
      (dispatchHle host registry gateRegion stop memory state).1 = .ok result →
      ∃ createdShader : CreatedAgcShader,
        (dispatchHle host registry gateRegion stop memory state).2.createdAgcShaders.shaders =
          state.createdAgcShaders.shaders ++ [createdShader] ∧
        leValue (load (dispatchHle host registry gateRegion stop memory state).2.guestBytes
          stop.context.rdi.toNat 8) =
          createdShader.shaderHandle.toNat := by
  rcases dispatchHle_cases host memory state registry gateRegion stop with
    ⟨e, houtcome, hcode⟩ | ⟨binding, descriptor, hcalled,
      ⟨-, hcreated⟩ | ⟨hid, result, copied, houtcome⟩⟩
  · rw [houtcome]
    refine ⟨fun e' he => ?_, fun _ _ _ _ _ hok => absurd hok (by simp)⟩
    cases he
    exact ⟨rfl, hcode⟩
  · obtain ⟨preparation, createdShader, hprepare, -, houtcome⟩ := hcreated
    obtain ⟨create, listOffset, hshader⟩ := shaderCreated_of_prepareCreateShader hprepare
    rw [houtcome]
    exact ⟨fun e he => absurd he (by simp),
      fun _ _ _ _ _ _ => ⟨createdShader, rfl, hshader.load_output⟩⟩
  · rw [houtcome]
    refine ⟨fun e he => absurd he (by simp), fun binding' descriptor' _ hcalled' hcreate _ => ?_⟩
    rw [hcalled] at hcalled'
    cases hcalled'
    exact absurd hcreate hid

/-! ### The shader the registry keeps -/

/-- A register with its word of the code address, if it is one of the first two. -/
def withProgramWord (codeAddress : UInt64) (index : ℕ) (write : AgcRegisterWrite) :
    AgcRegisterWrite :=
  if index = 0 then { write with value := pgmLo codeAddress }
  else if index = 1 then { write with value := pgmHi codeAddress }
  else write

theorem eq_withProgramWord_iff {codeAddress : UInt64} {index : ℕ}
    {write write' : AgcRegisterWrite} :
    write' = withProgramWord codeAddress index write ↔
      write'.registerOffset = write.registerOffset ∧
      write'.value = (withProgramWord codeAddress index write).value := by
  have hoffset : (withProgramWord codeAddress index write).registerOffset =
      write.registerOffset := by
    unfold withProgramWord
    split_ifs <;> rfl
  rw [← hoffset]
  cases write'
  cases withProgramWord codeAddress index write
  exact AgcRegisterWrite.mk.injEq _ _ _ _ ▸ Iff.rfl

theorem registerRecordsAt_eq_mapIdx_iff {header header' : List UInt8} {offset count : ℕ}
    {f : ℕ → AgcRegisterWrite → AgcRegisterWrite} :
    registerRecordsAt header' offset count = (registerRecordsAt header offset count).mapIdx f ↔
      ∀ index < count, registerRecordAt header' (offset + index * kAgcRegisterRecordSize) =
        f index (registerRecordAt header (offset + index * kAgcRegisterRecordSize)) := by
  simp [registerRecordsAt, List.ext_getElem_iff]

/-- The bytes of a record that count: two of the offset and four of the value. -/
theorem forall_recordBytes_iff {P : ℕ → Prop} :
    (∀ k ∈ [0, 1, 4, 5, 6, 7], P k) ↔ (∀ k < 2, P k) ∧ ∀ k < 4, P (4 + k) := by
  constructor
  · intro h
    refine ⟨fun k hk => h k ?_, fun k hk => h (4 + k) ?_⟩ <;>
      simp only [List.mem_cons, List.not_mem_nil, or_false] <;> omega
  · rintro ⟨hoffset, hvalue⟩ k hk
    by_cases hlow : k < 2
    · exact hoffset k hlow
    · obtain ⟨k, rfl⟩ : ∃ k', k = 4 + k' := ⟨k - 4, by simp at hk; omega⟩
      exact hvalue k (by simp at hk; omega)

/-- What the registry keeps is what guest memory holds: the text, and the registers with the
words of the code address entered. -/
structure CreatedAgcShader.TrueOf (createdShader : CreatedAgcShader) (bytes : ℕ → UInt8) :
    Prop where
  text : load bytes createdShader.shaderTextAddress.toNat
    createdShader.shader.declaredShaderTextSize.toNat =
    createdShader.shader.shaderTextBytes
  registers : ∃ listOffset, createdShader.shader.shaderRegisterListHeaderOffset = some listOffset ∧
    registerRecordsAt
        (load bytes createdShader.shaderHeaderAddress.toNat
          createdShader.shader.declaredHeaderSize.toNat)
        listOffset.toNat createdShader.shader.shaderRegisters.length =
      createdShader.shader.shaderRegisters.mapIdx (withProgramWord createdShader.codeAddress)

section Input

variable (bytes : ℕ → UInt8) (headerAddress : ℕ)

/-- The header the guest has put at an address, of the size it declares. -/
def guestHeader : List UInt8 :=
  load bytes headerAddress
    (u32At (load bytes headerAddress kAgcHeaderMinimumSize) kAgcHeaderSizeOffset).toNat

/-- The size of the text such a header declares. -/
def guestTextSize : ℕ :=
  (u32At (load bytes headerAddress kAgcHeaderMinimumSize) kAgcShaderTextSizeOffset).toNat

/-- Where its shader registers are. -/
def guestRegisterList : ℕ :=
  kAgcShaderRegistersOffset +
    (u64At (guestHeader bytes headerAddress) kAgcShaderRegistersOffset).toNat

/-- How many shader registers it has. -/
def guestRegisterCount : ℕ :=
  (u8At (guestHeader bytes headerAddress) kAgcShaderRegisterCountOffset).toNat

/-- A patch writes what is there already. -/
def WritesAgain (p : Patch) (x : ℕ) : Prop := p.Hits x → p.2.getD (x - p.1) 0 = bytes x

instance (p : Patch) (x : ℕ) : Decidable (WritesAgain bytes p x) :=
  inferInstanceAs (Decidable (_ → _))

/-- The relocations of its pointers and of its code field. -/
def guestPointers (textAddress : UInt64) : List Patch :=
  pointerRelocations (guestHeader bytes headerAddress) headerAddress textAddress.toNat

/-- The relocations of its program registers. -/
def guestProgram (textAddress : UInt64) : List Patch :=
  programRelocations headerAddress (guestRegisterList bytes headerAddress) textAddress

/-- No relocation changes a byte of the text, and none of a pointer or of the code field changes
the offset or the value of a shader register. -/
structure RelocationApart (textAddress : UInt64) : Prop where
  text : ∀ i < guestTextSize bytes headerAddress,
    ∀ p ∈ guestPointers bytes headerAddress textAddress ++
      guestProgram bytes headerAddress textAddress,
      WritesAgain bytes p (textAddress.toNat + i)
  registers : ∀ index < guestRegisterCount bytes headerAddress, ∀ k ∈ [0, 1, 4, 5, 6, 7],
    ∀ p ∈ guestPointers bytes headerAddress textAddress,
      WritesAgain bytes p (headerAddress +
        (guestRegisterList bytes headerAddress + index * kAgcRegisterRecordSize + k))

end Input

section Snapshot

variable {call : HleCall} {bytes : ℕ → UInt8} {create : SceAgcCreateShaderPlan}
  {listOffset : UInt64} {preparation : SceAgcShaderPreparationPlan}
  {createdShader : CreatedAgcShader}

section

variable (h : ShaderCreated call bytes create listOffset preparation createdShader)

include h

theorem ShaderCreated.header_eq :
    create.shader.shaderHeaderBytes =
      guestHeader bytes create.request.shaderHeaderAddress.toNat := by
  rw [h.created.parsed.headerBytes, h.created.headerSize]
  rfl

theorem ShaderCreated.list_eq :
    listOffset.toNat = guestRegisterList bytes create.request.shaderHeaderAddress.toNat := by
  rw [(h.prepared.registerList h.created).1, h.header_eq]
  rfl

theorem ShaderCreated.textSize_eq :
    create.shader.declaredShaderTextSize.toNat =
      guestTextSize bytes create.request.shaderHeaderAddress.toNat := by
  rw [h.created.textSize]
  rfl

theorem ShaderCreated.patches_eq :
    preparation.patches.map SceAgcShaderPatch.toPatch =
      guestPointers bytes create.request.shaderHeaderAddress.toNat
        create.request.shaderTextAddress.value ++
        guestProgram bytes create.request.shaderHeaderAddress.toNat
          create.request.shaderTextAddress.value ++
        [(outputPatch create.request).toPatch] := by
  rw [h.prepared.patches_eq, h.header_eq, h.list_eq]
  rfl

/-- Outside the output slot a byte is kept exactly when no relocation changes it. -/
theorem ShaderCreated.stored_eq_iff {x : ℕ} (hout : ¬ (outputPatch create.request).toPatch.Hits x) :
    preparation.stored bytes x = bytes x ↔
      ∀ p ∈ guestPointers bytes create.request.shaderHeaderAddress.toNat
        create.request.shaderTextAddress.value ++
          guestProgram bytes create.request.shaderHeaderAddress.toNat
            create.request.shaderTextAddress.value,
        WritesAgain bytes p x := by
  rw [SceAgcShaderPreparationPlan.stored, storeAll_eq_iff h.prepared.disjoint, h.patches_eq]
  refine ⟨fun hall p hp => hall p (List.mem_append_left _ hp), fun hall => ?_⟩
  exact List.forall_mem_append.mpr
    ⟨hall, List.forall_mem_singleton.mpr fun hx => absurd hx hout⟩

/-- The text is kept exactly when no relocation changes a byte of it. -/
theorem ShaderCreated.text_iff :
    load (preparation.stored bytes) createdShader.shaderTextAddress.toNat
      createdShader.shader.declaredShaderTextSize.toNat =
        createdShader.shader.shaderTextBytes ↔
      ∀ i < guestTextSize bytes create.request.shaderHeaderAddress.toNat,
        ∀ p ∈ guestPointers bytes create.request.shaderHeaderAddress.toNat
          create.request.shaderTextAddress.value ++
            guestProgram bytes create.request.shaderHeaderAddress.toNat
              create.request.shaderTextAddress.value,
          WritesAgain bytes p (create.request.shaderTextAddress.toNat + i) := by
  rw [h.shader, h.textAddress, h.created.parsed.textBytes, load_eq_load_iff, ← h.textSize_eq]
  refine forall₂_congr fun i hi => h.stored_eq_iff fun hx => ?_
  exact outputApart h.prepared.textApart (Nat.zero_lt_of_lt hi) hx
    ⟨Nat.le_add_right _ _, Nat.add_lt_add_left hi _⟩

/-- A word of the header that holds no program register is kept exactly when no pointer changes it.
-/
theorem ShaderCreated.leAt_eq_iff (width offset : ℕ)
    (hfits : offset + width ≤ create.shader.declaredHeaderSize.toNat)
    (hprogram : ∀ k < width, ∀ p ∈ guestProgram bytes create.request.shaderHeaderAddress.toNat
      create.request.shaderTextAddress.value, ¬ p.Hits (create.request.shaderHeaderAddress.toNat +
      (offset + k))) :
    leAt width (load (preparation.stored bytes) create.request.shaderHeaderAddress.toNat
          create.shader.declaredHeaderSize.toNat) offset =
        leAt width create.shader.shaderHeaderBytes offset ↔
      ∀ k < width, ∀ p ∈ guestPointers bytes create.request.shaderHeaderAddress.toNat
        create.request.shaderTextAddress.value,
        WritesAgain bytes p (create.request.shaderHeaderAddress.toNat + (offset + k)) := by
  rw [h.created.parsed.headerBytes, leAt_load hfits, leAt_load hfits, leValue_load_eq_iff]
  refine forall₂_congr fun k hk => ?_
  rw [Nat.add_assoc, h.stored_eq_iff fun hx => ?_]
  · refine ⟨fun hall p hp => hall p (List.mem_append_left _ hp), fun hall p hp => ?_⟩
    rcases List.mem_append.mp hp with hp | hp
    · exact hall p hp
    · exact fun hx => absurd hx (hprogram k hk p hp)
  · exact outputApart h.prepared.headerApart (by omega) hx ⟨Nat.le_add_right _ _, by omega⟩

/-- A program register holds its word of the code address, and no pointer reaches it. -/
theorem ShaderCreated.leAt_program (offset : ℕ) {value : ℕ}
    (hfits : offset + 4 ≤ create.shader.declaredHeaderSize.toNat) (hvalue : value < 256 ^ 4)
    (hmem : (create.request.shaderHeaderAddress.toNat + offset, leBytes 4 value) ∈ guestProgram
      bytes create.request.shaderHeaderAddress.toNat create.request.shaderTextAddress.value) :
    leAt 4 (load (preparation.stored bytes) create.request.shaderHeaderAddress.toNat
      create.shader.declaredHeaderSize.toNat) offset = value ∧
    ∀ k < 4, ∀ p ∈ guestPointers bytes create.request.shaderHeaderAddress.toNat
      create.request.shaderTextAddress.value,
      ¬ p.Hits (create.request.shaderHeaderAddress.toNat + (offset + k)) := by
  have hdisjoint := h.prepared.disjoint
  rw [h.patches_eq] at hdisjoint
  constructor
  · have hload :=
      load_storeAll hdisjoint (List.mem_append_left _ (List.mem_append_right _ hmem)) bytes
    rw [length_leBytes] at hload
    rw [leAt_load hfits, SceAgcShaderPreparationPlan.stored, h.patches_eq, hload,
      leValue_leBytes_of_lt hvalue]
  · intro k hk p hp hx
    rw [List.append_assoc, List.pairwise_append] at hdisjoint
    refine hdisjoint.2.2 p hp _ (List.mem_append_left _ hmem) _ ⟨hx, ?_, ?_⟩
    · dsimp only
      omega
    · dsimp only
      rw [length_leBytes]
      omega

/-- What guest memory holds of a register is the register that was registered, with its word of
the code address, exactly when no pointer changes its offset or its value. -/
theorem ShaderCreated.record_iff {index : ℕ}
    (hindex : index < guestRegisterCount bytes create.request.shaderHeaderAddress.toNat) :
    registerRecordAt (load (preparation.stored bytes) create.request.shaderHeaderAddress.toNat
          create.shader.declaredHeaderSize.toNat)
            (listOffset.toNat + index * kAgcRegisterRecordSize) =
        withProgramWord create.request.shaderTextAddress.value index
          (registerRecordAt create.shader.shaderHeaderBytes
            (listOffset.toNat + index * kAgcRegisterRecordSize)) ↔
      ∀ k ∈ [0, 1, 4, 5, 6, 7],
        ∀ p ∈ guestPointers bytes create.request.shaderHeaderAddress.toNat
          create.request.shaderTextAddress.value,
          WritesAgain bytes p (create.request.shaderHeaderAddress.toNat +
            (listOffset.toNat + index * kAgcRegisterRecordSize + k)) := by
  have hbound := (h.prepared.registerList h.created).2.2
  rw [h.header_eq] at hbound
  change _ + guestRegisterCount _ _ * _ ≤ _ at hbound
  have hprogram : guestProgram bytes create.request.shaderHeaderAddress.toNat
    create.request.shaderTextAddress.value =
      programRelocations create.request.shaderHeaderAddress.toNat listOffset.toNat
        create.request.shaderTextAddress.value := by
    rw [guestProgram, h.list_eq]
  rw [kAgcRegisterRecordSize] at hbound ⊢
  -- the offset of a register is never a program word
  have hoffset := h.leAt_eq_iff 2 (listOffset.toNat + index * 8) (by omega) (by
    rw [hprogram]
    simp only [programRelocations, List.mem_cons, List.not_mem_nil, or_false, forall_eq_or_imp,
      forall_eq, Patch.Hits, length_leBytes]
    omega)
  have hvalue : u32At (load (preparation.stored bytes) create.request.shaderHeaderAddress.toNat
        create.shader.declaredHeaderSize.toNat) (listOffset.toNat + index * 8 + 4) =
      (withProgramWord create.request.shaderTextAddress.value index
        (registerRecordAt create.shader.shaderHeaderBytes (listOffset.toNat + index * 8))).value ↔
      ∀ k < 4, ∀ p ∈ guestPointers bytes create.request.shaderHeaderAddress.toNat
        create.request.shaderTextAddress.value,
        WritesAgain bytes p (create.request.shaderHeaderAddress.toNat +
          (listOffset.toNat + index * 8 + 4 + k)) := by
    rw [u32At_eq_iff]
    by_cases h0 : index = 0
    · subst h0
      obtain ⟨hword, hapart⟩ := h.leAt_program (listOffset.toNat + 0 * 8 + 4) (by omega)
        (pgmLo create.request.shaderTextAddress.value).toNat_lt
          (by simp [hprogram, programRelocations])
      exact iff_of_true hword fun k hk p hp hx => absurd hx (hapart k hk p hp)
    · by_cases h1 : index = 1
      · subst h1
        obtain ⟨hword, hapart⟩ := h.leAt_program (listOffset.toNat + 1 * 8 + 4) (by omega)
          (pgmHi create.request.shaderTextAddress.value).toNat_lt
            (by simp [hprogram, programRelocations])
        exact iff_of_true hword fun k hk p hp hx => absurd hx (hapart k hk p hp)
      · rw [withProgramWord, if_neg h0, if_neg h1, registerRecordAt, toNat_u32At]
        refine h.leAt_eq_iff 4 (listOffset.toNat + index * 8 + 4) (by omega) ?_
        rw [hprogram]
        simp only [programRelocations, List.mem_cons, List.not_mem_nil, or_false, forall_eq_or_imp,
          forall_eq, Patch.Hits, length_leBytes]
        omega
  rw [← toNat_u16At create.shader.shaderHeaderBytes, ← u16At_eq_iff] at hoffset
  rw [eq_withProgramWord_iff]
  rw [forall_recordBytes_iff]
  simp only [← Nat.add_assoc (listOffset.toNat + index * 8) 4]
  exact and_congr hoffset hvalue

theorem ShaderCreated.registers_iff :
    (∃ offset, createdShader.shader.shaderRegisterListHeaderOffset = some offset ∧
      registerRecordsAt (load (preparation.stored bytes) createdShader.shaderHeaderAddress.toNat
            createdShader.shader.declaredHeaderSize.toNat) offset.toNat
              createdShader.shader.shaderRegisters.length =
        createdShader.shader.shaderRegisters.mapIdx (withProgramWord createdShader.codeAddress)) ↔
      ∀ index < guestRegisterCount bytes create.request.shaderHeaderAddress.toNat,
        ∀ k ∈ [0, 1, 4, 5, 6, 7],
        ∀ p ∈ guestPointers bytes create.request.shaderHeaderAddress.toNat
          create.request.shaderTextAddress.value,
          WritesAgain bytes p (create.request.shaderHeaderAddress.toNat +
            (guestRegisterList bytes create.request.shaderHeaderAddress.toNat + index *
              kAgcRegisterRecordSize + k)) := by
  have hregisters := (h.prepared.registerList h.created).2.1
  simp only [h.shader, h.headerAddress, h.codeAddress, h.prepared.listOffset_eq, Option.some.injEq,
    exists_eq_left']
  rw [hregisters, length_registerRecordsAt, ← h.list_eq, registerRecordsAt_eq_mapIdx_iff,
    h.header_eq]
  refine forall₂_congr fun index hindex => ?_
  rw [← h.header_eq]
  exact h.record_iff hindex

theorem ShaderCreated.trueOf_iff :
    createdShader.TrueOf (preparation.stored bytes) ↔
      RelocationApart bytes create.request.shaderHeaderAddress.toNat
        create.request.shaderTextAddress.value := by
  constructor
  · rintro ⟨htext, hregisters⟩
    exact ⟨h.text_iff.mp htext, h.registers_iff.mp hregisters⟩
  · rintro ⟨htext, hregisters⟩
    exact ⟨h.text_iff.mpr htext, h.registers_iff.mpr hregisters⟩

end

end Snapshot

/-- **When the registry keeps what guest memory holds.** The shader a call of
`sceAgcCreateShader` enters into the registry is what guest memory holds after the call exactly
when the relocation of its header changes neither the text nor the offsets and values of its
registers, the words of the code address apart. Nothing in the call sees to that: the guest may
put the text, or the register list, over the fields that are relocated. -/
theorem createdShader_snapshot_iff (host : Host) (registry : HleRegistry)
    (gateRegion : SyntheticGateRegion) (stop : ExecutionStop) (memory : GuestMemoryAccess)
    (state : HleDispatchState) (binding : GateBinding) (descriptor : HleFunctionDescriptor)
    (result : HleHandlerResult)
    (hcalled : calledFunction registry gateRegion stop = .ok (binding, descriptor))
    (hid : descriptor.id = kSceAgcCreateShaderHleId)
    (hok : (dispatchHle host registry gateRegion stop memory state).1 = .ok result) :
    ∃ createdShader : CreatedAgcShader,
      (dispatchHle host registry gateRegion stop memory state).2.createdAgcShaders.shaders =
        state.createdAgcShaders.shaders ++ [createdShader] ∧
      (createdShader.TrueOf (dispatchHle host registry gateRegion stop memory state).2.guestBytes ↔
        RelocationApart state.guestBytes stop.context.rsi.toNat stop.context.rdx) := by
  rcases dispatchHle_cases host memory state registry gateRegion stop with
    ⟨e, houtcome, -⟩ | ⟨binding', descriptor', hcalled', ⟨-, hcreated⟩ | ⟨hid', -⟩⟩
  · rw [houtcome] at hok
    cases hok
  · obtain ⟨preparation, createdShader, hprepare, -, houtcome⟩ := hcreated
    obtain ⟨create, listOffset, hshader⟩ := shaderCreated_of_prepareCreateShader hprepare
    have hiff := hshader.trueOf_iff
    rw [hshader.created.request] at hiff
    rw [houtcome]
    exact ⟨createdShader, rfl, hiff⟩
  · rw [hcalled] at hcalled'
    cases hcalled'
    exact absurd hid hid'

/-! ### The pixel shader created -/

/-- A registry with the one function. -/
def pixelRegistry : HleRegistry :=
  ⟨[⟨kSceAgcCreateShaderHleId, "sceAgcCreateShader".toList.map fun c => UInt8.ofNat c.toNat, 3⟩]⟩

/-- One gate, bound to the function. -/
def pixelGate : SyntheticGateRegion :=
  ⟨⟨⟨0x20000⟩, ⟨0x10⟩, by decide⟩, 1, [⟨0, kSceAgcCreateShaderHleId⟩]⟩

/-- The guest calls the function, with the text at `textAddress`. -/
def pixelStop (textAddress : UInt64) : ExecutionStop :=
  ⟨.hostGate, { rdi := 0x10200, rsi := 0x10000, rdx := textAddress }, true, 0⟩

/-- What the dispatch of that call leaves. -/
def pixelDispatch (textAddress : UInt64) :
    Except HleRuntimeError HleHandlerResult × HleDispatchState :=
  dispatchHle Host.plentiful pixelRegistry pixelGate (pixelStop textAddress) pixelMemory
    ⟨[], ⟨[]⟩, pixelBytes⟩

set_option maxRecDepth 10000 in

/-- A text of its own is kept. -/
theorem createdShader_snapshot_pixel :
    ∃ createdShader, (pixelDispatch 0x10100).2.createdAgcShaders.shaders = [createdShader] ∧
      createdShader.TrueOf (pixelDispatch 0x10100).2.guestBytes := by
  have hok : (pixelDispatch 0x10100).1 = .ok ⟨.resume, 0⟩ := by decide +kernel
  obtain ⟨createdShader, hshaders, hiff⟩ :=
    createdShader_snapshot_iff Host.plentiful pixelRegistry pixelGate
    (pixelStop 0x10100) pixelMemory ⟨[], ⟨[]⟩, pixelBytes⟩ ⟨0, kSceAgcCreateShaderHleId⟩ _
      ⟨.resume, 0⟩ rfl rfl hok
  exact ⟨createdShader, hshaders, hiff.mpr ⟨by decide +kernel, by decide +kernel⟩⟩

set_option maxRecDepth 10000 in

/-- Where the text is the front of the header itself, the call succeeds, the code field is
relocated, and the text in the registry is no longer the one in guest memory. -/
theorem createdShader_snapshot_aliased :
    (pixelDispatch 0x10000).1 = .ok ⟨.resume, 0⟩ ∧
    ∃ createdShader, (pixelDispatch 0x10000).2.createdAgcShaders.shaders = [createdShader] ∧
      ¬ createdShader.TrueOf (pixelDispatch 0x10000).2.guestBytes := by
  have hok : (pixelDispatch 0x10000).1 = .ok ⟨.resume, 0⟩ := by decide +kernel
  have hshaders : (pixelDispatch 0x10000).2.createdAgcShaders.shaders.length =
    1 := by decide +kernel
  have htext : ∀ createdShader ∈ (pixelDispatch 0x10000).2.createdAgcShaders.shaders,
      load (pixelDispatch 0x10000).2.guestBytes createdShader.shaderTextAddress.toNat
        createdShader.shader.declaredShaderTextSize.toNat ≠
          createdShader.shader.shaderTextBytes := by decide +kernel
  obtain ⟨createdShader, hone⟩ := List.length_eq_one_iff.mp hshaders
  refine ⟨hok, createdShader, hone, fun htrue => htext createdShader ?_ htrue.text⟩
  rw [hone]
  exact List.mem_singleton_self _

end Astraea.Execution
