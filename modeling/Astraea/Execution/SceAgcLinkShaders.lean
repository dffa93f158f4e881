import Astraea.Base.Blocks
import Astraea.Execution.ProgramAddress

/-!
# The output of the linker of shaders

`sceAgcLinkShaders` fills two tables of the guest with register records. Of the context table only
the 32 interpolant records and one routing record have been measured; the record between them and
the user configuration are not known, and are left as they are.

`plan_sce_agc_link_shaders` checks a call, `materialize_sce_agc_link_shaders_measured_output` works
out the two writes, and `apply_sce_agc_link_shaders_measured_output` makes them, after both have
been validated. `exists_measuredOutput` says that the second step never fails after the first, and
`applyMeasuredOutput_cases` that the third is all or nothing.
-/

namespace Astraea.Execution

open Astraea.Base Astraea.Graphics Astraea.Memory

/-- The function that links two shaders. -/
def kSceAgcLinkShadersHleId : HleFunctionId := ⟨5⟩

/-- The number of context records. -/
def kSceAgcLinkShadersContextRecordCount : ℕ := 34

/-- The number of user configuration records. -/
def kSceAgcLinkShadersUserConfigRecordCount : ℕ := 3

/-- The bytes of a record. -/
def kSceAgcLinkShadersRegisterRecordSize : ℕ := 8

/-- The bytes of the context records. -/
def kSceAgcLinkShadersContextOutputSize : ℕ :=
  kSceAgcLinkShadersContextRecordCount * kSceAgcLinkShadersRegisterRecordSize

/-- The bytes of the user configuration records. -/
def kSceAgcLinkShadersUserConfigOutputSize : ℕ :=
  kSceAgcLinkShadersUserConfigRecordCount * kSceAgcLinkShadersRegisterRecordSize

/-- The primitive type of a list of triangles. -/
def kSceAgcLinkShadersTriangleListPrimitiveType : UInt32 := 4

/-- The number of records for interpolants. -/
def kSceAgcLinkShadersMeasuredInterpolantRecordCount : ℕ := 32

/-- The bytes of the records for interpolants. -/
def kSceAgcLinkShadersMeasuredInterpolantByteCount : ℕ :=
  kSceAgcLinkShadersMeasuredInterpolantRecordCount * kSceAgcLinkShadersRegisterRecordSize

/-- Where the record for the routing is. -/
def kSceAgcLinkShadersMeasuredRoutingByteOffset : UInt64 := 0x108

/-! ### The plan -/

/-- The two shaders of a link. -/
inductive SceAgcLinkShadersShaderSlot where
  | preRaster
  | pixel
  deriving DecidableEq

/-- A shader of a link: its handle, header and code. -/
structure SceAgcLinkedShaderIdentity where
  shaderHandle : GuestAddress
  codeAddress : UInt64
  stage : AgcShaderStage
  preparationProfile : SceAgcShaderPreparationProfile
  deriving DecidableEq

/-- What a call links, and where its records go. -/
structure SceAgcLinkShadersPlan where
  contextOutputAddress : GuestAddress
  contextOutputRange : GuestRange
  userConfigOutputAddress : GuestAddress
  userConfigOutputRange : GuestRange
  hullShaderHandle : GuestAddress
  preRasterShader : SceAgcLinkedShaderIdentity
  pixelShader : SceAgcLinkedShaderIdentity
  primitiveType : UInt32
  deriving DecidableEq

/-- Why a call cannot be planned. -/
inductive SceAgcLinkShadersPlanErrorCode where
  | unexpectedFunction
  | nullContextOutput
  | nullUserConfigOutput
  | unsupportedHullShader
  | unsupportedPrimitiveType
  | outputRangeOverflow
  | outputRangesOverlap
  | sameShaderHandle
  | preRasterHandleLookupFailure
  | pixelHandleLookupFailure
  | unsupportedPreRasterShader
  | unsupportedPixelShader
  deriving DecidableEq

/-- A call that cannot be planned, with the shader it is about. -/
structure SceAgcLinkShadersPlanError where
  code : SceAgcLinkShadersPlanErrorCode
  functionId : HleFunctionId
  guestAddress : Option GuestAddress := none
  shaderSlot : Option SceAgcLinkShadersShaderSlot := none
  handleLookupError : Option CreatedAgcShaderHandleLookupError := none
  actualStage : Option AgcShaderStage := none
  actualPreparationProfile : Option SceAgcShaderPreparationProfile := none
  primitiveType : UInt32 := 0
  deriving DecidableEq

/-- `identity`. -/
def CreatedAgcShader.identity (shader : CreatedAgcShader) : SceAgcLinkedShaderIdentity :=
  ⟨shader.shaderHandle, shader.codeAddress, shader.stage, shader.preparationProfile⟩

/-- The range of an output, from the address the guest has given for it. -/
def linkOutputRange (functionId : HleFunctionId) (address : GuestAddress) (size : ℕ) :
    Except SceAgcLinkShadersPlanError GuestRange :=
  (GuestRange.create address ⟨UInt64.ofNat size⟩).mapError fun _ =>
    { code := .outputRangeOverflow, functionId := functionId, guestAddress := some address }

/-- `plan_sce_agc_link_shaders`. -/
def planSceAgcLinkShaders (call : HleCall) (shaderRegistry : CreatedAgcShaderRegistry) :
    Except SceAgcLinkShadersPlanError SceAgcLinkShadersPlan := do
  let error (code : SceAgcLinkShadersPlanErrorCode) (address : Option GuestAddress) :
      SceAgcLinkShadersPlanError :=
    { code := code, functionId := call.functionId, guestAddress := address }
  refuseIf (call.functionId ≠ kSceAgcLinkShadersHleId) (error .unexpectedFunction none)
  let contextOutput : GuestAddress := ⟨call.argument 0⟩
  refuseIf (contextOutput.value = 0) (error .nullContextOutput (some contextOutput))
  let userConfigOutput : GuestAddress := ⟨call.argument 1⟩
  refuseIf (userConfigOutput.value = 0) (error .nullUserConfigOutput (some userConfigOutput))
  let hullShader : GuestAddress := ⟨call.argument 2⟩
  refuseIf (hullShader.value ≠ 0) (error .unsupportedHullShader (some hullShader))
  let primitiveType := (call.argument 5 &&& 0xffffffff).toUInt32
  refuseIf (call.argument 5 ≠ primitiveType.toUInt64 ∨
    primitiveType ≠ kSceAgcLinkShadersTriangleListPrimitiveType)
    { error .unsupportedPrimitiveType none with primitiveType := primitiveType }
  let contextRange ← linkOutputRange call.functionId contextOutput
    kSceAgcLinkShadersContextOutputSize
  let userConfigRange ← linkOutputRange call.functionId userConfigOutput
    kSceAgcLinkShadersUserConfigOutputSize
  refuseIf (contextRange.overlaps userConfigRange = true)
    (error .outputRangesOverlap (some userConfigOutput))
  let preRasterHandle : GuestAddress := ⟨call.argument 3⟩
  let pixelHandle : GuestAddress := ⟨call.argument 4⟩
  refuseIf (preRasterHandle.value ≠ 0 ∧ preRasterHandle = pixelHandle)
    (error .sameShaderHandle (some preRasterHandle))
  let preRaster ← (shaderRegistry.lookupUniqueByHandle preRasterHandle).mapError fun e =>
    { error .preRasterHandleLookupFailure (some preRasterHandle) with
      shaderSlot := some .preRaster, handleLookupError := some e }
  refuseIf (preRaster.stage ≠ .geometry ∨ preRaster.preparationProfile ≠ .v18GeometryEsPublicShape)
    { error .unsupportedPreRasterShader (some preRasterHandle) with
      shaderSlot := some .preRaster, actualStage := some preRaster.stage,
      actualPreparationProfile := some preRaster.preparationProfile }
  let pixel ← (shaderRegistry.lookupUniqueByHandle pixelHandle).mapError fun e =>
    { error .pixelHandleLookupFailure (some pixelHandle) with
      shaderSlot := some .pixel, handleLookupError := some e }
  refuseIf (pixel.stage ≠ .pixel ∨ pixel.preparationProfile ≠ .v18PixelPublicShape)
    { error .unsupportedPixelShader (some pixelHandle) with
      shaderSlot := some .pixel, actualStage := some pixel.stage,
      actualPreparationProfile := some pixel.preparationProfile }
  return ⟨contextOutput, contextRange, userConfigOutput, userConfigRange, hullShader,
    preRaster.identity, pixel.identity, primitiveType⟩

/-! ### The measured output -/

/-- A register and its value. -/
structure SceAgcLinkShadersRegisterRecord where
  offset : UInt32
  value : UInt32
  deriving DecidableEq

/-- If the output is all that is written, or what was measured of it. -/
inductive SceAgcLinkShadersOutputCompleteness where
  | measuredPartial
  deriving DecidableEq

/-- What a patch of the output is for. -/
inductive SceAgcLinkShadersMeasuredPatchKind where
  | interpolantTable
  | gsOutPrimitiveType
  deriving DecidableEq

/-- The records that were measured, for the outputs of a call. -/
structure SceAgcLinkShadersMeasuredOutputPlan where
  completeness : SceAgcLinkShadersOutputCompleteness := .measuredPartial
  interpolantOutputAddress : GuestAddress
  interpolantOutputRange : GuestRange
  routingOutputAddress : GuestAddress
  routingOutputRange : GuestRange
  preservedUserConfigAddress : GuestAddress
  interpolantRecords :
    Vector SceAgcLinkShadersRegisterRecord kSceAgcLinkShadersMeasuredInterpolantRecordCount
  routingRecord : SceAgcLinkShadersRegisterRecord
  deriving DecidableEq

/-- Why an output cannot be planned. -/
inductive SceAgcLinkShadersMeasuredOutputPlanErrorCode where
  | measuredOutputAddressOverflow
  deriving DecidableEq

/-- An output that cannot be planned. -/
structure SceAgcLinkShadersMeasuredOutputPlanError where
  code : SceAgcLinkShadersMeasuredOutputPlanErrorCode
  baseAddress : GuestAddress
  byteOffset : UInt64
  deriving DecidableEq

/-- `measured_plan_error`. -/
def measuredPlanError (baseAddress : GuestAddress) (byteOffset : UInt64) :
    SceAgcLinkShadersMeasuredOutputPlanError :=
  ⟨.measuredOutputAddressOverflow, baseAddress, byteOffset⟩

/-- `serialize_record`. -/
def serializeRecord (record : SceAgcLinkShadersRegisterRecord) : List UInt8 :=
  leBytes 4 record.offset.toNat ++ leBytes 4 record.value.toNat

/-- `serialize_records`. -/
def serializeRecords (records : List SceAgcLinkShadersRegisterRecord) : List UInt8 :=
  records.flatMap serializeRecord

/-- The record of an interpolant, by its index. -/
def interpolantRecord (index : ℕ) : SceAgcLinkShadersRegisterRecord :=
  ⟨0x191 + UInt32.ofNat index, UInt32.ofNat index⟩

/-- `materialize_sce_agc_link_shaders_measured_output`. -/
def materializeSceAgcLinkShadersMeasuredOutput (plan : SceAgcLinkShadersPlan) :
    Except SceAgcLinkShadersMeasuredOutputPlanError SceAgcLinkShadersMeasuredOutputPlan := do
  let routingAddress ← (plan.contextOutputAddress.checkedAdd
      ⟨kSceAgcLinkShadersMeasuredRoutingByteOffset⟩).mapError fun _ =>
    measuredPlanError plan.contextOutputAddress kSceAgcLinkShadersMeasuredRoutingByteOffset
  let interpolantRange ← (GuestRange.create plan.contextOutputAddress
      ⟨UInt64.ofNat kSceAgcLinkShadersMeasuredInterpolantByteCount⟩).mapError fun _ =>
    measuredPlanError plan.contextOutputAddress 0
  let routingRange ← (GuestRange.create routingAddress
      ⟨UInt64.ofNat kSceAgcLinkShadersRegisterRecordSize⟩).mapError fun _ =>
    measuredPlanError plan.contextOutputAddress kSceAgcLinkShadersMeasuredRoutingByteOffset
  return {
    interpolantOutputAddress := plan.contextOutputAddress
    interpolantOutputRange := interpolantRange
    routingOutputAddress := routingAddress
    routingOutputRange := routingRange
    preservedUserConfigAddress := plan.userConfigOutputAddress
    interpolantRecords := Vector.ofFn fun index => interpolantRecord index
    routingRecord := ⟨0x29b, 2⟩ }

/-! ### The writes -/

/-- Why an output was not written. -/
inductive SceAgcLinkShadersMeasuredApplyErrorCode where
  | guestMemoryPreflightFailure
  | guestMemoryWriteFailure
  deriving DecidableEq

/-- An output that was not written. -/
structure SceAgcLinkShadersMeasuredApplyError where
  code : SceAgcLinkShadersMeasuredApplyErrorCode
  patchKind : SceAgcLinkShadersMeasuredPatchKind
  patchIndex : ℕ
  patchCount : ℕ := 2
  appliedPatchCount : ℕ
  appliedRecordCount : ℕ
  guestMemoryError : Option GuestMemoryError
  deriving DecidableEq

/-- What was written of an output. -/
structure SceAgcLinkShadersMeasuredApplyReport where
  completeness : SceAgcLinkShadersOutputCompleteness := .measuredPartial
  appliedPatchCount : ℕ := 2
  appliedContextRecordCount : ℕ := kSceAgcLinkShadersMeasuredInterpolantRecordCount + 1
  appliedUserConfigRecordCount : ℕ := 0
  deriving DecidableEq

/-- `apply_error`. -/
def linkApplyError (code : SceAgcLinkShadersMeasuredApplyErrorCode)
    (patchKind : SceAgcLinkShadersMeasuredPatchKind)
    (patchIndex appliedPatchCount appliedRecordCount : ℕ) (detail : GuestMemoryError) :
    SceAgcLinkShadersMeasuredApplyError :=
  ⟨code, patchKind, patchIndex, 2, appliedPatchCount, appliedRecordCount, some detail⟩

/-- `apply_sce_agc_link_shaders_measured_output`: the result, and what guest memory holds
afterwards. -/
def applySceAgcLinkShadersMeasuredOutput (plan : SceAgcLinkShadersMeasuredOutputPlan)
    (memory : GuestMemoryAccess) (bytes : ℕ → UInt8) :
    Except SceAgcLinkShadersMeasuredApplyError SceAgcLinkShadersMeasuredApplyReport × (ℕ → UInt8) :=
  match memory.preflightWrite plan.interpolantOutputAddress
    kSceAgcLinkShadersMeasuredInterpolantByteCount with
  | .error e => (.error (linkApplyError .guestMemoryPreflightFailure .interpolantTable 0 0 0 e),
      bytes)
  | .ok _ =>
    match memory.preflightWrite plan.routingOutputAddress kSceAgcLinkShadersRegisterRecordSize with
    | .error e => (.error (linkApplyError .guestMemoryPreflightFailure .gsOutPrimitiveType 1 0 0 e),
        bytes)
    | .ok _ =>
      match memory.write bytes plan.interpolantOutputAddress
        (serializeRecords plan.interpolantRecords.toList) with
      | .error e => (.error (linkApplyError .guestMemoryWriteFailure .interpolantTable 0 0 0 e),
          bytes)
      | .ok written =>
        match memory.write written plan.routingOutputAddress (serializeRecord plan.routingRecord)
          with
        | .error e =>
          (.error (linkApplyError .guestMemoryWriteFailure .gsOutPrimitiveType 1 1
            kSceAgcLinkShadersMeasuredInterpolantRecordCount e), written)
        | .ok written => (.ok {}, written)

/-- The two writes. -/
def SceAgcLinkShadersMeasuredOutputPlan.patches (plan : SceAgcLinkShadersMeasuredOutputPlan) :
    List Patch :=
  [(plan.interpolantOutputAddress.toNat, serializeRecords plan.interpolantRecords.toList),
    (plan.routingOutputAddress.toNat, serializeRecord plan.routingRecord)]

@[simp] theorem length_serializeRecord (record : SceAgcLinkShadersRegisterRecord) :
    (serializeRecord record).length = 8 := by
  simp [serializeRecord]

@[simp] theorem length_serializeRecords (records : List SceAgcLinkShadersRegisterRecord) :
    (serializeRecords records).length = records.length * 8 :=
      length_blocks length_serializeRecord records

/-- **All or nothing.** Both writes are made, or the guest's memory stays as it is: what was
validated can be written. -/
theorem applyMeasuredOutput_cases (plan : SceAgcLinkShadersMeasuredOutputPlan)
    (memory : GuestMemoryAccess) (bytes : ℕ → UInt8) :
    applySceAgcLinkShadersMeasuredOutput plan memory bytes = (.ok {}, storeAll bytes plan.patches) ∨
      ∃ e, applySceAgcLinkShadersMeasuredOutput plan memory bytes = (.error e, bytes) := by
  unfold applySceAgcLinkShadersMeasuredOutput
  cases hinterpolant : memory.preflightWrite plan.interpolantOutputAddress
    kSceAgcLinkShadersMeasuredInterpolantByteCount with
  | error e => exact .inr ⟨_, rfl⟩
  | ok n =>
    cases hrouting :
      memory.preflightWrite plan.routingOutputAddress kSceAgcLinkShadersRegisterRecordSize with
    | error e => exact .inr ⟨_, rfl⟩
    | ok m =>
      have htable : memory.preflightWrite plan.interpolantOutputAddress
          (serializeRecords plan.interpolantRecords.toList).length = .ok n := by
        rw [length_serializeRecords, Vector.length_toList]
        exact hinterpolant
      have hrecord : memory.preflightWrite plan.routingOutputAddress
          (serializeRecord plan.routingRecord).length = .ok m := by
        rw [length_serializeRecord]
        exact hrouting
      simp only [GuestMemoryAccess.write_of_preflightWrite htable,
        GuestMemoryAccess.write_of_preflightWrite hrecord]
      exact .inl rfl

/-! ### After a plan -/

section Planned

variable {call : HleCall} {registry : CreatedAgcShaderRegistry} {plan : SceAgcLinkShadersPlan}
  {output : SceAgcLinkShadersMeasuredOutputPlan}

/-- What a plan says of its two outputs. -/
structure SceAgcLinkShadersPlan.Sound (plan : SceAgcLinkShadersPlan) : Prop where
  contextBase : plan.contextOutputRange.base = plan.contextOutputAddress
  contextSize : plan.contextOutputRange.size.toNat = 272
  userConfigBase : plan.userConfigOutputRange.base = plan.userConfigOutputAddress
  userConfigSize : plan.userConfigOutputRange.size.toNat = 24
  apart : ∀ x, ¬ (x ∈ plan.contextOutputRange ∧ x ∈ plan.userConfigOutputRange)

theorem linkOutputRange_eq_ok {functionId : HleFunctionId} {address : GuestAddress} {size : ℕ}
    {range : GuestRange} (hsize : size < 2 ^ 64)
    (h : linkOutputRange functionId address size = .ok range) :
    range.base = address ∧ range.size.toNat = size := by
  rw [linkOutputRange, mapError_eq_ok] at h
  obtain ⟨hbase, hrange⟩ := GuestRange.create_eq_ok h
  refine ⟨hbase, ?_⟩
  rw [hrange, GuestSize.toNat_mk, toNat_ofNat_of_lt hsize]

/-- What a call that is planned comes to: a table at each of its two addresses, apart from each
other, and the two shaders that its handles name. -/
structure LinkPlanned (call : HleCall) (registry : CreatedAgcShaderRegistry)
    (plan : SceAgcLinkShadersPlan) (preRaster pixel : CreatedAgcShader) : Prop where
  contextRange : linkOutputRange call.functionId plan.contextOutputAddress
    kSceAgcLinkShadersContextOutputSize =
    .ok plan.contextOutputRange
  userConfigRange : linkOutputRange call.functionId plan.userConfigOutputAddress
    kSceAgcLinkShadersUserConfigOutputSize = .ok plan.userConfigOutputRange
  apart : plan.contextOutputRange.overlaps plan.userConfigOutputRange ≠ true
  preRasterFound : registry.lookupUniqueByHandle ⟨call.argument 3⟩ = .ok preRaster
  preRasterStage : preRaster.stage = .geometry
  preRasterShader : plan.preRasterShader = preRaster.identity
  pixelFound : registry.lookupUniqueByHandle ⟨call.argument 4⟩ = .ok pixel
  pixelStage : pixel.stage = .pixel
  pixelShader : plan.pixelShader = pixel.identity

theorem linkPlanned_of_planSceAgcLinkShaders (h : planSceAgcLinkShaders call registry = .ok plan) :
    ∃ preRaster pixel, LinkPlanned call registry plan preRaster pixel := by
  simp only [planSceAgcLinkShaders, bind_eq_ok, refuseIf_eq_ok, mapError_eq_ok, pure_eq_ok, not_or,
    not_not] at h
  obtain ⟨-, -, -, -, -, -, -, -, -, -, contextRange, hcontext, userRange, huser, -, hoverlap, -, -,
    preRaster, hpreRaster, -, ⟨hgeometry, -⟩, pixel, hpixel, -, ⟨hpixelStage, -⟩, rfl⟩ := h
  exact ⟨preRaster, pixel, hcontext, huser, hoverlap, hpreRaster, hgeometry, rfl, hpixel,
    hpixelStage, rfl⟩

theorem sound_of_planSceAgcLinkShaders (h : planSceAgcLinkShaders call registry = .ok plan) :
    plan.Sound := by
  obtain ⟨preRaster, pixel, hplanned⟩ := linkPlanned_of_planSceAgcLinkShaders h
  obtain ⟨hcontextBase, hcontextSize⟩ := linkOutputRange_eq_ok (by decide) hplanned.contextRange
  obtain ⟨huserBase, huserSize⟩ := linkOutputRange_eq_ok (by decide) hplanned.userConfigRange
  refine ⟨hcontextBase, hcontextSize, huserBase, huserSize, fun x hx => hplanned.apart ?_⟩
  exact GuestRange.overlaps_iff.mpr ⟨x, hx⟩

/-- The measured output lies in the context table: the interpolants at its front, the routing record
at its end. -/
structure SceAgcLinkShadersMeasuredOutputPlan.Measures
    (output : SceAgcLinkShadersMeasuredOutputPlan) (plan : SceAgcLinkShadersPlan) : Prop where
  interpolantAddress : output.interpolantOutputAddress = plan.contextOutputAddress
  interpolantBase : output.interpolantOutputRange.base = plan.contextOutputAddress
  interpolantSize : output.interpolantOutputRange.size.toNat = 256
  routingAddress : output.routingOutputAddress.toNat = plan.contextOutputAddress.toNat + 264
  routingBase : output.routingOutputRange.base = output.routingOutputAddress
  routingSize : output.routingOutputRange.size.toNat = 8
  interpolantRecords : output.interpolantRecords = Vector.ofFn fun index => interpolantRecord index
  routingRecord : output.routingRecord = ⟨0x29b, 2⟩

theorem measures_of_materialize (h : materializeSceAgcLinkShadersMeasuredOutput plan = .ok output) :
    output.Measures plan := by
  have hoffset : kSceAgcLinkShadersMeasuredRoutingByteOffset.toNat = 264 := rfl
  simp only [materializeSceAgcLinkShadersMeasuredOutput, bind_eq_ok, mapError_eq_ok, pure_eq_ok]
    at h
  obtain ⟨routingAddress, hrouting, interpolantRange, hinterpolantRange, routingRange,
    hroutingRange, rfl⟩ := h
  obtain ⟨hinterpolantBase, hinterpolantSize⟩ := GuestRange.create_eq_ok hinterpolantRange
  obtain ⟨hroutingBase, hroutingSize⟩ := GuestRange.create_eq_ok hroutingRange
  have hrouting := (GuestAddress.checkedAdd_eq_ok hrouting).2
  rw [GuestSize.toNat_mk, hoffset] at hrouting
  refine ⟨rfl, hinterpolantBase, ?_, hrouting, hroutingBase, ?_, rfl, rfl⟩
  · rw [hinterpolantSize]
    rfl
  · rw [hroutingSize]
    rfl

/-- **After a plan the output is worked out.** Its last byte is the last of the context table. -/
theorem exists_measuredOutput (h : plan.Sound) :
    ∃ output, materializeSceAgcLinkShadersMeasuredOutput plan = .ok output := by
  have hoffset : kSceAgcLinkShadersMeasuredRoutingByteOffset.toNat = 264 := rfl
  have hbytes : (UInt64.ofNat kSceAgcLinkShadersMeasuredInterpolantByteCount).toNat = 256 := rfl
  have hrecord : (UInt64.ofNat kSceAgcLinkShadersRegisterRecordSize).toNat = 8 := rfl
  have hwrap := plan.contextOutputRange.noWrap
  rw [h.contextBase, h.contextSize] at hwrap
  have hadd : plan.contextOutputAddress.toNat +
      (GuestSize.mk kSceAgcLinkShadersMeasuredRoutingByteOffset).toNat < 2 ^ 64 := by
    rw [GuestSize.toNat_mk, hoffset]
    omega
  have hrouting := (GuestAddress.checkedAdd_eq_ok (GuestAddress.checkedAdd_of_lt hadd)).2
  rw [GuestSize.toNat_mk, hoffset] at hrouting
  have hinterpolantRange : plan.contextOutputAddress.toNat +
      (GuestSize.mk (UInt64.ofNat kSceAgcLinkShadersMeasuredInterpolantByteCount)).toNat ≤
        2 ^ 64 := by
    rw [GuestSize.toNat_mk, hbytes]
    omega
  have hroutingRange :
      (GuestAddress.mk (plan.contextOutputAddress.value +
        kSceAgcLinkShadersMeasuredRoutingByteOffset)).toNat +
        (GuestSize.mk (UInt64.ofNat kSceAgcLinkShadersRegisterRecordSize)).toNat ≤ 2 ^ 64 := by
    rw [hrouting, GuestSize.toNat_mk, hrecord]
    omega
  simp only [materializeSceAgcLinkShadersMeasuredOutput, bind_eq_ok, mapError_eq_ok, pure_eq_ok]
  exact ⟨_, _, GuestAddress.checkedAdd_of_lt hadd, _, GuestRange.create_of_le hinterpolantRange, _,
    GuestRange.create_of_le hroutingRange, rfl⟩

/-! ### The frame -/

theorem SceAgcLinkShadersMeasuredOutputPlan.Measures.hits_iff (h : output.Measures plan) {x : ℕ} :
    (∃ patch ∈ output.patches, patch.Hits x) ↔
    x ∈ output.interpolantOutputRange ∨ x ∈ output.routingOutputRange := by
  have hrecords : output.interpolantRecords.toList.length = 32 := Vector.length_toList
  simp only [SceAgcLinkShadersMeasuredOutputPlan.patches, List.mem_cons, List.not_mem_nil, or_false,
    exists_eq_or_imp, exists_eq_left, Patch.Hits, length_serializeRecord, length_serializeRecords,
    hrecords, GuestRange.mem_def, GuestRange.last, h.interpolantAddress, h.interpolantBase,
    h.interpolantSize, h.routingBase, h.routingSize]

theorem SceAgcLinkShadersMeasuredOutputPlan.Measures.inside (hsound : plan.Sound)
    (h : output.Measures plan) (x : ℕ) :
    (x ∈ output.interpolantOutputRange → x ∈ plan.contextOutputRange) ∧
      (x ∈ output.routingOutputRange → x ∈ plan.contextOutputRange) ∧
      ¬ (x ∈ output.interpolantOutputRange ∧ x ∈ output.routingOutputRange) := by
  simp only [GuestRange.mem_def, GuestRange.last, h.interpolantBase, h.interpolantSize,
    h.routingBase, h.routingSize, h.routingAddress, hsound.contextBase, hsound.contextSize]
  omega

theorem SceAgcLinkShadersMeasuredOutputPlan.Measures.pairwise (h : output.Measures plan) :
    output.patches.Pairwise Patch.Disjoint := by
  have hrecords : output.interpolantRecords.toList.length = 32 := Vector.length_toList
  rw [SceAgcLinkShadersMeasuredOutputPlan.patches, List.pairwise_pair]
  intro x
  simp only [Patch.Hits, length_serializeRecord, length_serializeRecords, hrecords,
    h.interpolantAddress, h.routingAddress]
  omega

theorem SceAgcLinkShadersMeasuredOutputPlan.Measures.frame (h : output.Measures plan)
    {bytes : ℕ → UInt8} {x : ℕ} (hinterpolant : x ∉ output.interpolantOutputRange)
    (hrouting : x ∉ output.routingOutputRange) :
    storeAll bytes output.patches x = bytes x := by
  refine storeAll_frame (fun patch hpatch hhits => ?_) bytes
  exact not_or.mpr ⟨hinterpolant, hrouting⟩ (h.hits_iff.mp ⟨patch, hpatch, hhits⟩)

end Planned

end Astraea.Execution
