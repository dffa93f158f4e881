import Astraea.Execution.SceAgcLinkShaders

/-!
# What a probe sees of linked shaders

A probe calls `sceAgcLinkShaders` on a real console, over tables that are filled with sentinels, and
reads the two tables back. `validate_agc_link_shaders_tail_observation` accepts what it has read if
the known records are there, and takes down the unknown ones.

The validator does not share the records with the code that writes them here, so that it could
disagree with it. `sceAgcLinkShaders_observed` says that it does not: what the emulated call leaves
is accepted, and the unknown records are what the guest had there before.
-/

namespace Astraea.Probe

open Astraea.Base Astraea.Execution Astraea.Graphics Astraea.Memory

/-- The bytes of the context records. -/
def kAgcLinkShadersTailCxBytes : ℕ := kSceAgcLinkShadersContextOutputSize

/-- The bytes of the user configuration records. -/
def kAgcLinkShadersTailUcBytes : ℕ := kSceAgcLinkShadersUserConfigOutputSize

/-- The bytes behind a call, as they were read. -/
structure AgcLinkShadersTailObservation where
  linkReturnCode : Int64 := 0
  cxRaw : List UInt8
  ucRaw : List UInt8
  cxSentinel : UInt8 := 0
  ucSentinel : UInt8 := 0
  deriving DecidableEq

/-- Why an observation is refused. -/
inductive AgcLinkShadersTailValidationErrorCode where
  | linkReturnFailure
  | cxSizeMismatch
  | ucSizeMismatch
  | interpolantRecordMismatch
  | measuredRoutingRecordMismatch
  deriving DecidableEq

/-- An observation that is refused, with the record it is about. -/
structure AgcLinkShadersTailValidationError where
  code : AgcLinkShadersTailValidationErrorCode
  linkReturnCode : Int64 := 0
  expectedSize : ℕ := 0
  actualSize : ℕ := 0
  recordIndex : Option ℕ := none
  expectedRecord : Option SceAgcLinkShadersRegisterRecord := none
  actualRecord : Option SceAgcLinkShadersRegisterRecord := none
  deriving DecidableEq

/-- What an observation says. -/
structure AgcLinkShadersTailValidatedObservation where
  cxRaw : Vector UInt8 kAgcLinkShadersTailCxBytes
  ucRaw : Vector UInt8 kAgcLinkShadersTailUcBytes
  unknownContextRecord : SceAgcLinkShadersRegisterRecord
  unknownUserConfigRecords : Vector SceAgcLinkShadersRegisterRecord 3
  unknownContextRecordMatchesSentinel : Bool
  unknownUserConfigRecordMatchesSentinel : Vector Bool 3
  deriving DecidableEq

/-- `decode_record`. -/
def decodeRecord (bytes : List UInt8) : SceAgcLinkShadersRegisterRecord :=
  ⟨u32At bytes 0, u32At bytes 4⟩

/-- The eight bytes of a record. -/
def recordBytes (raw : List UInt8) (offset : ℕ) : List UInt8 := slice raw offset 8

/-- `all_sentinel`. -/
def allSentinel (bytes : List UInt8) (sentinel : UInt8) : Bool :=
  bytes.all fun value => value == sentinel

/-- `size_error`. -/
def sizeError (code : AgcLinkShadersTailValidationErrorCode) (expected actual : ℕ) :
    AgcLinkShadersTailValidationError :=
  { code := code, expectedSize := expected, actualSize := actual }

/-- `record_error`. -/
def recordError (code : AgcLinkShadersTailValidationErrorCode) (index : ℕ)
    (expected actual : SceAgcLinkShadersRegisterRecord) : AgcLinkShadersTailValidationError :=
  { code := code, recordIndex := some index, expectedRecord := some expected,
    actualRecord := some actual }

/-- Bytes as an array of `size`, if there are as many. -/
def exactly (size : ℕ) (raw : List UInt8) : Option (Vector UInt8 size) :=
  if h : raw.length = size then some ⟨raw.toArray, h⟩ else none

/-- The record the probe expects of an interpolant. -/
def expectedInterpolant (index : ℕ) : SceAgcLinkShadersRegisterRecord :=
  ⟨0x191 + UInt32.ofNat index, UInt32.ofNat index⟩

/-- `kExpectedRouting`. -/
def kExpectedRouting : SceAgcLinkShadersRegisterRecord := ⟨0x29b, 2⟩

/-- What is taken down of an observation that is accepted. -/
def AgcLinkShadersTailObservation.validated (observation : AgcLinkShadersTailObservation)
    (cxRaw : Vector UInt8 kAgcLinkShadersTailCxBytes)
    (ucRaw : Vector UInt8 kAgcLinkShadersTailUcBytes) :
    AgcLinkShadersTailValidatedObservation where
  cxRaw := cxRaw
  ucRaw := ucRaw
  unknownContextRecord := decodeRecord (recordBytes observation.cxRaw 0x100)
  unknownUserConfigRecords :=
    Vector.ofFn fun index => decodeRecord (recordBytes observation.ucRaw (index * 8))
  unknownContextRecordMatchesSentinel :=
    allSentinel (recordBytes observation.cxRaw 0x100) observation.cxSentinel
  unknownUserConfigRecordMatchesSentinel :=
    Vector.ofFn fun index =>
      allSentinel (recordBytes observation.ucRaw (index * 8)) observation.ucSentinel

/-- `validate_agc_link_shaders_tail_observation`. -/
def validateAgcLinkShadersTailObservation (observation : AgcLinkShadersTailObservation) :
    Except AgcLinkShadersTailValidationError AgcLinkShadersTailValidatedObservation := do
  refuseIf (observation.linkReturnCode ≠ 0)
    { code := .linkReturnFailure, linkReturnCode := observation.linkReturnCode }
  let cxRaw ← orRefuse (exactly kAgcLinkShadersTailCxBytes observation.cxRaw)
    (sizeError .cxSizeMismatch kAgcLinkShadersTailCxBytes observation.cxRaw.length)
  let ucRaw ← orRefuse (exactly kAgcLinkShadersTailUcBytes observation.ucRaw)
    (sizeError .ucSizeMismatch kAgcLinkShadersTailUcBytes observation.ucRaw.length)
  (List.range 32).forM fun index =>
    let actual := decodeRecord (recordBytes observation.cxRaw (index * 8))
    refuseIf (actual ≠ expectedInterpolant index)
      (recordError .interpolantRecordMismatch index (expectedInterpolant index) actual)
  let measuredRouting := decodeRecord (recordBytes observation.cxRaw 0x108)
  refuseIf (measuredRouting ≠ kExpectedRouting)
    (recordError .measuredRoutingRecordMismatch 33 kExpectedRouting measuredRouting)
  return observation.validated cxRaw ucRaw

/-! ### Records -/

section Records

variable {bytes raw : List UInt8} {size : ℕ}

@[simp] theorem decodeRecord_serializeRecord (record : SceAgcLinkShadersRegisterRecord) :
    decodeRecord (serializeRecord record) = record := by
  have hoffset : u32At (serializeRecord record) 0 = record.offset := by
    rw [u32At_eq_iff, serializeRecord, leAt_zero_leBytes_append record.offset.toNat_lt]
  have hvalue : u32At (serializeRecord record) 4 = record.value := by
    rw [u32At_eq_iff, serializeRecord, leAt_append (length_leBytes 4 _),
      ← List.append_nil (leBytes 4 record.value.toNat),
      leAt_zero_leBytes_append record.value.toNat_lt]
  rw [decodeRecord, hoffset, hvalue]

/-- The bytes of a record are written as they were read. -/
theorem serializeRecord_decodeRecord (h : bytes.length = 8) :
    serializeRecord (decodeRecord bytes) = bytes := by
  have hfirst := drop_eq_leBytes_append 4 (show 0 + 4 ≤ bytes.length by omega)
  have hsecond := drop_eq_leBytes_append 4 (show 4 + 4 ≤ bytes.length by omega)
  rw [List.drop_zero] at hfirst
  rw [List.drop_eq_nil_of_le (show bytes.length ≤ 4 + 4 by omega), List.append_nil] at hsecond
  rw [serializeRecord, decodeRecord, toNat_u32At, toNat_u32At]
  conv_rhs => rw [hfirst, Nat.zero_add, hsecond]

theorem exactly_of_length (h : raw.length = size) :
    ∃ array, exactly size raw = some array ∧ array.toList = raw := by
  rw [exactly, dif_pos h]
  exact ⟨_, rfl, rfl⟩

/-- **What the validator takes down.** An observation with the known records is accepted. -/
theorem exists_validated {observation : AgcLinkShadersTailObservation}
    (hreturn : observation.linkReturnCode = 0)
    (hcx : observation.cxRaw.length = kAgcLinkShadersTailCxBytes)
    (huc : observation.ucRaw.length = kAgcLinkShadersTailUcBytes)
    (hinterpolants : ∀ index < 32, decodeRecord (recordBytes observation.cxRaw (index * 8)) =
      expectedInterpolant index)
    (hrouting : decodeRecord (recordBytes observation.cxRaw 0x108) = kExpectedRouting) :
    ∃ cxRaw ucRaw, validateAgcLinkShadersTailObservation observation =
      .ok (observation.validated cxRaw ucRaw) ∧
      cxRaw.toList = observation.cxRaw ∧ ucRaw.toList = observation.ucRaw := by
  obtain ⟨cxRaw, hcxRaw, hcxList⟩ := exactly_of_length hcx
  obtain ⟨ucRaw, hucRaw, hucList⟩ := exactly_of_length huc
  have hloop : ((List.range 32).forM fun index =>
      refuseIf (decodeRecord (recordBytes observation.cxRaw (index * 8)) ≠
        expectedInterpolant index)
        (recordError .interpolantRecordMismatch index (expectedInterpolant index)
          (decodeRecord (recordBytes observation.cxRaw (index * 8))))) = .ok () := by
    rw [forM_eq_ok]
    intro index hindex
    rw [refuseIf_eq_ok, not_not]
    exact hinterpolants index (List.mem_range.mp hindex)
  refine ⟨cxRaw, ucRaw, ?_, hcxList, hucList⟩
  simp only [validateAgcLinkShadersTailObservation, bind_eq_ok, refuseIf_eq_ok, orRefuse_eq_ok,
    pure_eq_ok]
  exact ⟨(), not_not.mpr hreturn, cxRaw, hcxRaw, ucRaw, hucRaw, (), hloop, (), not_not.mpr hrouting,
    rfl⟩

end Records

/-! ### The emulated call -/

/-- What a probe would read of the two tables of a plan. -/
def observationOf (plan : SceAgcLinkShadersPlan) (bytes : ℕ → UInt8)
    (cxSentinel ucSentinel : UInt8) :
    AgcLinkShadersTailObservation where
  cxRaw := load bytes plan.contextOutputAddress.toNat kAgcLinkShadersTailCxBytes
  ucRaw := load bytes plan.userConfigOutputAddress.toNat kAgcLinkShadersTailUcBytes
  cxSentinel := cxSentinel
  ucSentinel := ucSentinel

/-- The unknown records are what the guest had there. -/
structure UnknownRecordsAre (plan : SceAgcLinkShadersPlan) (bytes : ℕ → UInt8)
    (validated : AgcLinkShadersTailValidatedObservation) : Prop where
  context : serializeRecord validated.unknownContextRecord =
    load bytes (plan.contextOutputAddress.toNat + 0x100) 8
  userConfig : ∀ index : Fin 3, serializeRecord validated.unknownUserConfigRecords[index] =
    load bytes (plan.userConfigOutputAddress.toNat + index * 8) 8

/-- What a call that went through has made of guest memory. -/
structure LinkedTables (plan : SceAgcLinkShadersPlan) (output : SceAgcLinkShadersMeasuredOutputPlan)
    (before after : ℕ → UInt8) : Prop where
  frame : ∀ x, x ∉ output.interpolantOutputRange → x ∉ output.routingOutputRange →
    after x = before x
  unmeasured : ∀ x, plan.contextOutputAddress.toNat + 0x100 ≤ x →
    x < plan.contextOutputAddress.toNat + 0x108 →
    after x = before x
  userConfig : ∀ x ∈ plan.userConfigOutputRange, after x = before x
  observed : ∀ cxSentinel ucSentinel, ∃ validated,
    validateAgcLinkShadersTailObservation (observationOf plan after cxSentinel ucSentinel) =
      .ok validated ∧
      UnknownRecordsAre plan before validated

section Linked

variable {plan : SceAgcLinkShadersPlan} {output : SceAgcLinkShadersMeasuredOutputPlan}
  {before : ℕ → UInt8}

/-- The record at an offset of a table, as bytes of the guest. -/
theorem recordBytes_load {bytes : ℕ → UInt8} {address count offset : ℕ} (h : offset + 8 ≤ count) :
    recordBytes (load bytes address count) offset = load bytes (address + offset) 8 := slice_load h

/-- An interpolant is written where the probe looks for it. -/
theorem load_interpolant (h : output.Measures plan) {index : ℕ} (hindex : index < 32) :
    load (storeAll before output.patches) (plan.contextOutputAddress.toNat + index * 8) 8 =
      serializeRecord (interpolantRecord index) := by
  have hmem : (output.interpolantOutputAddress.toNat,
      serializeRecords output.interpolantRecords.toList) ∈ output.patches :=
    List.mem_cons_self
  have htable := load_storeAll h.pairwise hmem before
  have hlength : (serializeRecords output.interpolantRecords.toList).length = 256 := by
    rw [length_serializeRecords, Vector.length_toList]
    rfl
  have hget : output.interpolantRecords.toList[index]? = some (interpolantRecord index) := by
    rw [h.interpolantRecords, Vector.toList_ofFn, List.getElem?_ofFn]
    exact dif_pos hindex
  rw [h.interpolantAddress] at htable
  rw [load_of_slice htable (by rw [hlength]; omega)]
  have hblock := @slice_blocks _ _ serializeRecord 8 index _ _ [] length_serializeRecord hget
  rwa [List.append_nil] at hblock

theorem load_routing (h : output.Measures plan) :
    load (storeAll before output.patches) (plan.contextOutputAddress.toNat + 0x108) 8 =
      serializeRecord output.routingRecord := by
  have hmem : (output.routingOutputAddress.toNat, serializeRecord output.routingRecord) ∈
      output.patches :=
    List.mem_cons_of_mem _ List.mem_cons_self
  have hrecord := load_storeAll h.pairwise hmem before
  rwa [length_serializeRecord, h.routingAddress] at hrecord

theorem linkedTables_storeAll (hsound : plan.Sound) (h : output.Measures plan) :
    LinkedTables plan output before (storeAll before output.patches) := by
  have hcx : kAgcLinkShadersTailCxBytes = 272 := rfl
  have huc : kAgcLinkShadersTailUcBytes = 24 := rfl
  have hunmeasured : ∀ x, plan.contextOutputAddress.toNat + 0x100 ≤ x →
    x < plan.contextOutputAddress.toNat + 0x108 →
      storeAll before output.patches x = before x := by
    intro x hlow hhigh
    apply h.frame
    · rw [GuestRange.mem_def, GuestRange.last, h.interpolantBase, h.interpolantSize]
      omega
    · rw [GuestRange.mem_def, h.routingBase, h.routingAddress]
      omega
  have huser : ∀ x ∈ plan.userConfigOutputRange, storeAll before output.patches x = before x := by
    intro x hx
    obtain ⟨hinterpolant, hrouting, -⟩ := h.inside hsound x
    exact h.frame (fun hin => hsound.apart x ⟨hinterpolant hin, hx⟩)
      (fun hin => hsound.apart x ⟨hrouting hin, hx⟩)
  refine ⟨fun x => h.frame, hunmeasured, huser, fun cxSentinel ucSentinel => ?_⟩
  obtain ⟨cxRaw, ucRaw, hvalid, -⟩ := @exists_validated
    (observationOf plan (storeAll before output.patches) cxSentinel ucSentinel) rfl
      (length_load _ _ _)
    (length_load _ _ _)
    (fun index hindex => by
      rw [observationOf, recordBytes_load (by omega), load_interpolant h hindex,
        decodeRecord_serializeRecord]
      rfl)
    (by
      rw [observationOf, recordBytes_load (by omega), load_routing h, decodeRecord_serializeRecord,
        h.routingRecord]
      rfl)
  refine ⟨_, hvalid, ?_, fun index => ?_⟩
  · rw [AgcLinkShadersTailObservation.validated, observationOf, recordBytes_load (by omega),
      serializeRecord_decodeRecord (length_load _ _ _), load_eq_load_iff]
    exact fun i hi => hunmeasured _ (by omega) (by omega)
  · have hrecord : (Vector.ofFn fun index : Fin 3 => decodeRecord (recordBytes
        (observationOf plan (storeAll before output.patches) cxSentinel ucSentinel).ucRaw
          (index * 8)))[index] =
        decodeRecord (load (storeAll before output.patches)
          (plan.userConfigOutputAddress.toNat + index * 8) 8) := by
      rw [Fin.getElem_fin, Vector.getElem_ofFn, observationOf, recordBytes_load (by omega)]
    rw [AgcLinkShadersTailObservation.validated, hrecord,
      serializeRecord_decodeRecord (length_load _ _ _), load_eq_load_iff]
    intro i hi
    apply huser
    rw [GuestRange.mem_def, GuestRange.last, hsound.userConfigBase, hsound.userConfigSize]
    omega

end Linked

/-- **The output satisfies its observer.** After a plan the writes can be worked out; they are apart
and in the context table. The call changes nothing or makes both, and then the probe accepts what it
reads back, whatever the sentinels, and finds the unknown records as they were before. -/
theorem sceAgcLinkShaders_observed {call : HleCall} {registry : CreatedAgcShaderRegistry}
    {plan : SceAgcLinkShadersPlan} (hplan : planSceAgcLinkShaders call registry = .ok plan) :
    ∃ output, materializeSceAgcLinkShadersMeasuredOutput plan = .ok output ∧
      (∀ x, (x ∈ output.interpolantOutputRange → x ∈ plan.contextOutputRange) ∧
        (x ∈ output.routingOutputRange → x ∈ plan.contextOutputRange) ∧
        ¬ (x ∈ output.interpolantOutputRange ∧ x ∈ output.routingOutputRange)) ∧
      ∀ (memory : GuestMemoryAccess) (before after : ℕ → UInt8),
        (∀ e, applySceAgcLinkShadersMeasuredOutput output memory before = (.error e, after) →
          after = before) ∧
        ∀ report, applySceAgcLinkShadersMeasuredOutput output memory before = (.ok report, after) →
          LinkedTables plan output before after := by
  have hsound := sound_of_planSceAgcLinkShaders hplan
  obtain ⟨output, houtput⟩ := exists_measuredOutput hsound
  have hmeasures := measures_of_materialize houtput
  refine ⟨output, houtput, hmeasures.inside hsound, fun memory before after => ?_⟩
  rcases applyMeasuredOutput_cases output memory before with happly | ⟨e, happly⟩
  · rw [happly]
    refine ⟨fun e he => (by cases he), fun report hreport => ?_⟩
    cases hreport
    exact linkedTables_storeAll hsound hmeasures
  · rw [happly]
    refine ⟨fun e he => ?_, fun report hreport => (by cases hreport)⟩
    cases he
    rfl

/-! ### A context table at the top of memory -/

/-- A shader of which nothing but its handle and its profile matters. -/
def bareShader (handle : UInt64) (stage : AgcShaderStage)
    (profile : SceAgcShaderPreparationProfile) : CreatedAgcShader where
  codeAddress := 0x10000
  stage := stage
  preparationProfile := profile
  shaderHandle := ⟨handle⟩
  shaderHeaderAddress := ⟨handle⟩
  shaderTextAddress := ⟨0x10000⟩
  shader := ⟨kAgcHeaderMagic, 0, 96, 48, ⟨0, none⟩, none, none, [], [], 0, 0, [], [], []⟩
  shaderIr := ⟨0, []⟩

/-- A registry with the two shaders of a link. -/
def twoShaders : CreatedAgcShaderRegistry :=
  ⟨[bareShader 0x5000 .geometry .v18GeometryEsPublicShape,
    bareShader 0x6000 .pixel .v18PixelPublicShape]⟩

/-- A call that puts the context table on the last bytes of the address space. -/
def topOfMemoryLink : HleCall :=
  ⟨kSceAgcLinkShadersHleId, 0, 0x1000, 0x2000, #v[0xfffffffffffffef0, 0x3000, 0, 0x5000, 0x6000, 4]⟩

theorem sceAgcLinkShaders_topOfMemory :
    ∃ plan, planSceAgcLinkShaders topOfMemoryLink twoShaders = .ok plan ∧
    plan.contextOutputRange.last = 2 ^ 64 ∧
    ∃ output, materializeSceAgcLinkShadersMeasuredOutput plan = .ok output := by
  have hany : (planSceAgcLinkShaders topOfMemoryLink twoShaders).toOption.any
      (fun plan => decide (plan.contextOutputRange.last = 2 ^ 64)) = true := by decide +kernel
  obtain ⟨plan, hplan, hlast⟩ := exists_of_any hany
  obtain ⟨output, houtput, -⟩ := sceAgcLinkShaders_observed hplan
  exact ⟨plan, hplan, of_decide_eq_true hlast, output, houtput⟩

end Astraea.Probe
