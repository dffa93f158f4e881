import Astraea.Execution.CreatedShaderHistory
import Astraea.Execution.SceAgcDriverSubmitDcb
import Astraea.Execution.SceAgcLinkShaders
import Astraea.Execution.SubmittedPixelShaderBinding

/-!
# Where the shaders of a call come from

A guest creates its shaders by one call after another, and later names them:
`plan_sce_agc_link_shaders` is given the handles of two shaders, and the packets of a submission
have the address of one. `plan_sce_agc_driver_submit_dcb` captures these packets, and
`plan_sce_agc_submitted_pixel_shader_binding` finds the pixel shader.

`linkedShaders_created` and `submittedPixelShader_created` lead back to the calls that created the
shaders. Of the address of a submitted shader they tell too which two words of guest memory it is
made of.
-/

namespace Astraea.Execution

open Astraea.Base Astraea.Core Astraea.Memory Astraea.Graphics

/-! ### Shaders that are linked -/

/-- **Where linked shaders come from.** The guest has run from an empty registry. Where two shaders
are linked, each was created in one episode of the run: it called `sceAgcCreateShader` with the
handle that the link is given, and no other episode created a shader with that handle. -/
theorem linkedShaders_created (memory : GuestMemoryAccess) (start : HleDispatchState)
    (hstart : start.createdAgcShaders.shaders = []) (episodes : List GuestEpisode) {call : HleCall}
    {plan : SceAgcLinkShadersPlan}
    (hplan : planSceAgcLinkShaders call (dispatchAll memory start episodes).createdAgcShaders =
      .ok plan) :
    ∃ preRaster pixel : CreatedAgcShader,
      plan.preRasterShader = preRaster.identity ∧ preRaster.stage = .geometry ∧
      CreatedOnce memory start episodes
        (fun episode _ => episode.stop.context.rsi = call.argument 3) preRaster ∧
      plan.pixelShader = pixel.identity ∧ pixel.stage = .pixel ∧
      CreatedOnce memory start episodes
        (fun episode _ => episode.stop.context.rsi = call.argument 4) pixel := by
  have hlooks (handle : UInt64) :
    LooksUp memory start episodes (fun shader => shader.shaderHandle == ⟨handle⟩) (⟨·, ⟨handle⟩, ·⟩)
      ((dispatchAll memory start episodes).createdAgcShaders.lookupUniqueByHandle ⟨handle⟩) :=
        looksUp_lookup hstart _
  have hway (handle : UInt64) (state : HleDispatchState) (episode : GuestEpisode)
    (other : CreatedAgcShader)
      (hcreates : Creates memory state episode other) :
      (other.shaderHandle == ⟨handle⟩) = true ↔ episode.stop.context.rsi = handle := by
    rw [beq_iff_eq, hcreates.addresses.2, GuestAddress.mk.injEq]
  obtain ⟨preRaster, pixel, hplanned⟩ := linkPlanned_of_planSceAgcLinkShaders hplan
  have hpreRaster := (hlooks (call.argument 3)).createdOnce (hway _) hplanned.preRasterFound
  have hpixel := (hlooks (call.argument 4)).createdOnce (hway _) hplanned.pixelFound
  exact ⟨preRaster, pixel, hplanned.preRasterShader, hplanned.preRasterStage, hpreRaster,
    hplanned.pixelShader, hplanned.pixelStage, hpixel⟩

/-- The header of a geometry shader, otherwise like that of the pixel shader. -/
def geometryHeader : List UInt8 :=
  wordsBytes [(4, 0x34333231), (4, 0x18), (8, 0), (8, 0), (8, 0x60 - 0x18), (8, 0x68 - 0x20),
    (8, 0), (8, 0), (8, 0), (4, 0x78), (4, 0x30), (8, 0), (8, 0), (2, 0), (1, 2), (1, 1), (4, 2),
    (4, 0x0001), (4, 0), (4, 0x00c8), (4, 0), (4, 0x00c9), (4, 0)]

/-- The guest creates the geometry shader, with its header at `0x10800` and its text at `0x10400`.
-/
def geometryEpisode : GuestEpisode :=
  ⟨Host.plentiful, fun x => if 0x10800 ≤ x then geometryHeader.getD (x - 0x10800) 0 else 0,
    pixelRegistry, pixelGate,
    ⟨.hostGate, { rdi := 0x10200, rsi := 0x10800, rdx := 0x10400 }, true, 0⟩⟩

/-- The call that links the two shaders. -/
def linkCall : HleCall :=
  ⟨kSceAgcLinkShadersHleId, 0, 0, 0, #v[0x1000, 0x2000, 0, 0x10800, 0x10000, 4]⟩

set_option maxRecDepth 10000 in

/-- A geometry shader and a pixel shader are created, and linked. -/
theorem linkedShaders_created_example :
    ∃ plan pixel, planSceAgcLinkShaders linkCall
        (dispatchAll pixelMemory emptyStart [geometryEpisode,
          pixelEpisode 0x10100]).createdAgcShaders = .ok plan ∧
      plan.pixelShader = CreatedAgcShader.identity pixel ∧
      CreatedOnce pixelMemory emptyStart [geometryEpisode, pixelEpisode 0x10100]
        (fun episode _ => episode.stop.context.rsi = 0x10000) pixel := by
  have hlinked : (planSceAgcLinkShaders linkCall
      (dispatchAll pixelMemory emptyStart [geometryEpisode,
        pixelEpisode 0x10100]).createdAgcShaders).toOption.any
        (fun _ => true) = true := by decide +kernel
  obtain ⟨plan, hplan, -⟩ := exists_of_any hlinked
  obtain ⟨_, pixel, -, -, -, hpixel, -, hcreated⟩ :=
    linkedShaders_created pixelMemory emptyStart rfl
    [geometryEpisode, pixelEpisode 0x10100] hplan
  exact ⟨plan, pixel, hplan, hpixel, hcreated⟩

/-! ### What is bound -/

section Loop

variable {host : Host} {frameIndex : ℕ} {frame : Pm4Type3Frame} {frames : List Pm4Type3Frame}
  {registers registers' : BindingRegisters}

theorem shaderPacket_of_bindingStep
    (h : bindingStep host frameIndex frame registers = .ok registers') :
    ShaderPacket host frame := by
  simp only [bindingStep, bind_eq_ok, refuseIf_eq_ok, mapError_eq_ok, pure_eq_ok, not_not] at h
  obtain ⟨_, hbits, emission, hlower, effect, happlied, -⟩ := h
  refine ⟨?_, hbits, emission, hlower⟩
  -- a packet with another opcode is lowered too, but it cannot be applied
  by_contra hopcode
  obtain ⟨e, herror⟩ :=
    @RegisterBank.apply_of_lower_ne .shader host frame emission hopcode hlower
    registers.registerState
  have hrefused : (applyShaderRegisterGraphicsIr emission registers.registerState).1 = .error e :=
    congrArg Prod.fst herror
  rw [hrefused] at happlied
  cases happlied

theorem shaderPacket_of_bindingLoop
    (h : bindingLoop host frameIndex frames registers = .ok registers') :
    ∀ frame ∈ frames, ShaderPacket host frame := by
  induction frames generalizing frameIndex registers with
  | nil => simp
  | cons frame frames ih =>
    rw [bindingLoop, bind_eq_ok] at h
    obtain ⟨next, hstep, hrest⟩ := h
    exact List.forall_mem_cons.mpr ⟨shaderPacket_of_bindingStep hstep, ih hrest⟩

end Loop

/-- What a binding is made of: the packets of a submission, what they leave in the registers, and a
lookup. -/
structure BoundFrom (host : Host) (submission : SceAgcDcbSubmission)
    (registry : CreatedAgcShaderRegistry) (binding : SceAgcSubmittedPixelShaderBinding)
    (frames : List Pm4Type3Frame) (registers : RasterRegisters) : Prop where
  framed : framePm4Type3Stream host submission.commandBufferBytes = .ok frames
  packets : ∀ frame ∈ frames, ShaderPacket host frame
  tracks : Tracks frames registers
  viewed : view registers = ⟨binding.shaderRegisterState, some binding.pgmLoSource,
    some binding.pgmHiSource⟩
  address : resolvePixelProgramAddress binding.shaderRegisterState = .ok binding.programAddress
  shader : registry.lookupUnique binding.programAddress = .ok binding.shader

theorem boundFrom_of_plan {host : Host} {submission : SceAgcDcbSubmission}
    {registry : CreatedAgcShaderRegistry} {binding : SceAgcSubmittedPixelShaderBinding}
    (h : planSceAgcSubmittedPixelShaderBinding host submission registry = .ok binding) :
    ∃ frames registers, BoundFrom host submission registry binding frames registers := by
  simp only [planSceAgcSubmittedPixelShaderBinding, bind_eq_ok, refuseIf_eq_ok, mapError_eq_ok,
    orRefuse_eq_ok, pure_eq_ok] at h
  obtain ⟨_, -, frames, hframes, bound, hloop, address, haddress, loSource, hlo, hiSource, hhi,
    shader, hshader, rfl⟩ := h
  have hpackets := shaderPacket_of_bindingLoop hloop
  obtain ⟨registers, hraster, hbinding⟩ := bindingLoop_view hpackets 0 {}
  have hview : view registers = bound := Except.ok.inj (hbinding.symm.trans hloop)
  refine ⟨frames, registers, hframes, hpackets, (LoopInv.nil.loop hraster).registers, ?_, haddress,
    hshader⟩
  show view registers = ⟨bound.registerState, some loSource, some hiSource⟩
  rw [hview, ← hlo, ← hhi]

/-! ### The words of guest memory -/

theorem Tracks.source_inside {commandBuffer : List UInt8} {frames : List Pm4Type3Frame}
    {registers : RasterRegisters} (h : Tracks frames registers)
    (hframes : ∀ frame ∈ frames, FrameOf commandBuffer frame) {register : TrackedRegister}
    {source : SceAgcRasterPacketSource} (hsource : registers.source register = some source) :
    (source.valueWordOffset + 1) * 4 ≤ commandBuffer.length := by
  rw [h.source, lastHit_zipIdx_eq_some] at hsource
  obtain ⟨index, frame, hframe, hhit, -⟩ := hsource
  obtain ⟨-, ⟨hstart, hlt⟩, rfl⟩ := sourceAt_eq_some.mp hhit
  have hof := hframes frame (List.mem_of_getElem? hframe)
  have hfits := hof.fits
  have hcount : frame.rawPacket.range.values.length + 2 = frame.header.totalWordCount := by
    rw [RawPacket.range, List.length_map, List.length_drop, hof.rawWords, List.length_map,
      List.length_range, totalWordCount_of_frameOf hof]
    omega
  rw [hof.extent]
  dsimp only
  omega

/-- The word that the packets of a captured submission have last for a register, where guest memory
holds it. -/
structure SubmittedWord (bytes : ℕ → UInt8) (capture : SceAgcDcbCapture)
    (frames : List Pm4Type3Frame) (register : UInt16) (source : SubmittedPixelProgramRegisterSource)
    (word : UInt32) : Prop where
  word : word = guestWord bytes (capture.commandWordsAddress.toNat + source.valueWordOffset * 4)
  frame : ∃ frame : Pm4Type3Frame, frames[source.frameIndex]? = some frame ∧
    frame.wordOffset = source.packetWordOffset ∧
    (bufferRange capture.commandBufferBytes frame).Covers register.toNat
  last : ∀ (later : ℕ) (frame : Pm4Type3Frame), source.frameIndex < later →
    frames[later]? = some frame →
    ¬ (bufferRange capture.commandBufferBytes frame).Covers register.toNat

section Words

variable {host : Host} {call : HleCall} {bytes : ℕ → UInt8} {capture : SceAgcDcbCapture}
  {registry : CreatedAgcShaderRegistry} {binding : SceAgcSubmittedPixelShaderBinding}
  {frames : List Pm4Type3Frame} {registers : RasterRegisters}

/-- **What a register has at the end is a word of guest memory.** -/
theorem BoundFrom.submittedWord
    (h : BoundFrom host capture.toSceAgcDcbSubmission registry binding frames registers)
    (hcapture : CapturedFrom call bytes capture) (register : TrackedRegister)
    (hbank : register.bank = .shader) {source : SceAgcRasterPacketSource}
    (hsource : registers.source register = some source) :
    ∃ word, SubmittedWord bytes capture frames register.offset source.submitted word ∧
      binding.shaderRegisterState.read register.offset.toNat = some word := by
  have hof := (tiles_of_framePm4Type3Stream h.framed).frameOf
  have htrue := h.tracks.trueSource hof hsource
  have hinside := h.tracks.source_inside hof hsource
  have hstate : registers.file .shader = binding.shaderRegisterState :=
    congrArg BindingRegisters.registerState h.viewed
  rw [hbank, hstate] at htrue
  obtain ⟨frame, hframe, -, hoffset, hcovers⟩ := htrue.frame
  refine ⟨_, ⟨rfl, ⟨frame, hframe, hoffset, hcovers⟩, fun later other hlt hother => ?_⟩, ?_⟩
  · exact htrue.last later other hlt hother (h.packets other (List.mem_of_getElem? hother)).opcode
  · rw [htrue.value, hcapture.word hinside]
    rfl

theorem words_of_resolveProgramAddress {loOffset hiOffset : UInt16} {state : RegisterState}
    {lo hi : UInt32} {address : UInt64} (hlo : state.read loOffset.toNat = some lo)
    (hhi : state.read hiOffset.toNat = some hi)
    (h : resolveProgramAddress loOffset hiOffset state = .ok address) :
    address = lo.toUInt64 <<< 8 ||| (hi &&& 0xff).toUInt64 <<< 40 := by
  simp only [resolveProgramAddress, bind_eq_ok, refuseIf_eq_ok, pure_eq_ok,
    RegisterState.valueOf_of_read hlo, RegisterState.valueOf_of_read hhi] at h
  obtain ⟨_, -, _, -, _, -, haddress⟩ := h
  exact haddress.symm

end Words

/-- **Where a submitted pixel shader comes from.** The guest has run from an empty registry, and
submits what guest memory now holds. Where a shader is bound, all packets set shader registers, the
address is made of two words of guest memory, each the last one for its register, and the shader was
created in one episode of the run: it called `sceAgcCreateShader` with that address, and no other
episode created a pixel shader there. -/
theorem submittedPixelShader_created (memory : GuestMemoryAccess) (start : HleDispatchState)
    (hstart : start.createdAgcShaders.shaders = []) (episodes : List GuestEpisode) (host : Host)
    {submitHost : Host} {call : HleCall} {bytes : ℕ → UInt8} {capture : SceAgcDcbCapture}
    (hcapture : planSceAgcDriverSubmitDcb submitHost call memory bytes = .ok capture)
    {binding : SceAgcSubmittedPixelShaderBinding}
    (hbinding : planSceAgcSubmittedPixelShaderBinding host capture.toSceAgcDcbSubmission
      (dispatchAll memory start episodes).createdAgcShaders = .ok binding) :
    (∃ frames lo hi, framePm4Type3Stream host capture.commandBufferBytes = .ok frames ∧
      (∀ frame ∈ frames, frame.header.opcode = kPm4SetShRegOpcode) ∧
      SubmittedWord bytes capture frames kPixelProgramLoRegisterOffset binding.pgmLoSource lo ∧
      SubmittedWord bytes capture frames kPixelProgramHiRegisterOffset binding.pgmHiSource hi ∧
      binding.programAddress = lo.toUInt64 <<< 8 ||| (hi &&& 0xff).toUInt64 <<< 40) ∧
    CreatedOnce memory start episodes
      (fun episode shader => shader.stage = .pixel ∧
        episode.stop.context.rdx = binding.programAddress) binding.shader := by
  obtain ⟨frames, registers, hbound⟩ := boundFrom_of_plan hbinding
  have hcaptured := capturedFrom_of_plan hcapture
  constructor
  · have hloSource : registers.pixelPgmLoSource.map SceAgcRasterPacketSource.submitted =
        some binding.pgmLoSource :=
      congrArg BindingRegisters.pgmLoSource hbound.viewed
    have hhiSource : registers.pixelPgmHiSource.map SceAgcRasterPacketSource.submitted =
        some binding.pgmHiSource :=
      congrArg BindingRegisters.pgmHiSource hbound.viewed
    obtain ⟨loSource, hloNoted, hlo⟩ := Option.map_eq_some_iff.mp hloSource
    obtain ⟨hiSource, hhiNoted, hhi⟩ := Option.map_eq_some_iff.mp hhiSource
    obtain ⟨lo, hloWord, hloRead⟩ := hbound.submittedWord hcaptured .pixelPgmLo rfl hloNoted
    obtain ⟨hi, hhiWord, hhiRead⟩ := hbound.submittedWord hcaptured .pixelPgmHi rfl hhiNoted
    rw [hlo] at hloWord
    rw [hhi] at hhiWord
    exact ⟨frames, lo, hi, hbound.framed, fun frame hframe => (hbound.packets frame hframe).opcode,
      hloWord, hhiWord, words_of_resolveProgramAddress hloRead hhiRead hbound.address⟩
  · have hlooks : LooksUp memory start episodes
        (fun shader => shader.stage == .pixel && shader.codeAddress == binding.programAddress)
        (⟨·, binding.programAddress, ·⟩)
        ((dispatchAll memory start episodes).createdAgcShaders.lookupUnique
          binding.programAddress) := looksUp_lookup hstart _
    refine hlooks.createdOnce (fun state episode other hcreates => ?_) hbound.shader
    rw [Bool.and_eq_true, beq_iff_eq, beq_iff_eq, hcreates.addresses.1]

/-- A description of 16 bytes, and behind it the packet that loads the two words of the pixel
program at `0x10100`. -/
def submitBytes (x : ℕ) : UInt8 :=
  if 0x10000 ≤ x then (wordsBytes [(8, 0x10010), (4, 4), (1, 0), (3, 0)] ++ pixelProgramBytes).getD
    (x - 0x10000) 0 else 0

/-- The call that submits the buffer. -/
def submitCall : HleCall := ⟨kSceAgcDriverSubmitDcbHleId, 0, 0, 0, #v[0x10000, 0, 0, 0, 0, 0]⟩

set_option maxRecDepth 10000 in

/-- The guest creates a pixel shader and submits a packet that names it. -/
theorem submittedPixelShader_created_example :
    ∃ capture binding, planSceAgcDriverSubmitDcb Host.plentiful submitCall pixelMemory submitBytes =
      .ok capture ∧
      planSceAgcSubmittedPixelShaderBinding Host.plentiful capture.toSceAgcDcbSubmission
        (dispatchAll pixelMemory emptyStart [pixelEpisode 0x10100]).createdAgcShaders =
          .ok binding ∧
      binding.programAddress = 0x10100 ∧
      Creates pixelMemory emptyStart (pixelEpisode 0x10100) binding.shader := by
  have hran :
      (planSceAgcDriverSubmitDcb Host.plentiful submitCall pixelMemory submitBytes).toOption.any
      (fun capture =>
      (planSceAgcSubmittedPixelShaderBinding Host.plentiful capture.toSceAgcDcbSubmission
        (dispatchAll pixelMemory emptyStart [pixelEpisode 0x10100]).createdAgcShaders).toOption.any
          fun binding =>
          binding.programAddress == 0x10100) = true := by decide +kernel
  obtain ⟨capture, hcapture, hbound⟩ := exists_of_any hran
  obtain ⟨binding, hbinding, haddress⟩ := exists_of_any hbound
  obtain ⟨-, k, episode, hepisode, hcreates, -⟩ :=
    submittedPixelShader_created pixelMemory emptyStart rfl
    [pixelEpisode 0x10100] Host.plentiful hcapture hbinding
  refine ⟨capture, binding, hcapture, hbinding, beq_iff_eq.mp haddress, ?_⟩
  rcases k with _ | k
  · obtain rfl := Option.some.inj hepisode
    exact hcreates
  · cases hepisode

end Astraea.Execution
