import Astraea.Base.Batch
import Astraea.Execution.GuestMemory
import Astraea.Execution.SceImports

/-!
# Patches to gates

A planned import is resolved by writing the address of a gate over the eight bytes of its target.
There are two kinds, `GLOB_DAT` and `JUMP_SLOT`, which differ in nothing but the table and the
type of relocation they are for. A patch is only built for a gate that is bound to the function of
the plan. A batch of patches is written one after another; where one cannot be written, those
before it stay.
-/

namespace Astraea.Execution

open Astraea.Base Astraea.Core Astraea.Memory Astraea.Loader

/-- The relocation type of a data address. -/
def kX8664GlobDatRelocationType : UInt32 := 6

/-- The relocation type of a jump slot. -/
def kX8664JumpSlotRelocationType : UInt32 := 7

/-- The codes of `SceGlobDatPatchError` and `SceJumpSlotPatchError`. -/
inductive SceGatePatchErrorCode where
  | unsupportedTableKind
  | unsupportedRelocationType
  | unboundGateSlot
  | gateFunctionMismatch
  | gateAddressUnavailable
  deriving DecidableEq

/-- `SceGlobDatPatchError` and `SceJumpSlotPatchError`. -/
structure SceGatePatchError where
  code : SceGatePatchErrorCode
  gateSlot : UInt32
  relocationType : UInt32
  expectedFunctionId : Option HleFunctionId := none
  actualFunctionId : Option HleFunctionId := none
  deriving DecidableEq

/-- `SceGlobDatPatch` and `SceJumpSlotPatch`. -/
structure SceGatePatch where
  relocationTarget : GuestAddress
  gateDestination : GuestAddress
  gateSlot : UInt32
  functionId : HleFunctionId
  bytes : Vector UInt8 8
  rawAddend : Option Int64
  deriving DecidableEq

/-- The codes of the errors of a batch that is built. -/
inductive SceGateBatchErrorCode where
  | gateSlotCountMismatch
  | patchFailure
  | hostAllocationFailure
  deriving DecidableEq

/-- `SceGlobDatBatchError` and `SceJumpSlotBatchError`. -/
structure SceGateBatchError where
  code : SceGateBatchErrorCode
  planIndex : ℕ
  planCount : ℕ
  gateSlotCount : ℕ
  patchError : Option SceGatePatchError := none
  deriving DecidableEq

/-! ### Building patches -/

section Build

variable (tableKind : RelocationTableKind) (relocationType : UInt32)
  (gateRegion : SyntheticGateRegion)

/-- The patch of one plan: the same for both kinds, except for the table and the type of relocation
it is for. -/
def buildGatePatch (plan : SceImportResolutionPlan) (gateSlot : UInt32) :
    Except SceGatePatchError SceGatePatch := do
  let patchError (code : SceGatePatchErrorCode) (actualFunctionId : Option HleFunctionId) :
      SceGatePatchError :=
    ⟨code, gateSlot, plan.rawRelocationType, some plan.functionId, actualFunctionId⟩
  refuseIf (plan.tableKind ≠ tableKind) (patchError .unsupportedTableKind none)
  refuseIf (plan.rawRelocationType ≠ relocationType) (patchError .unsupportedRelocationType none)
  let binding ← orRefuse (gateRegion.bindingForSlot gateSlot) (patchError .unboundGateSlot none)
  refuseIf (binding.functionId ≠ plan.functionId)
    (patchError .gateFunctionMismatch binding.functionId)
  let gateAddress ← orRefuse (gateRegion.slotAddress gateSlot)
    (patchError .gateAddressUnavailable binding.functionId)
  return {
    relocationTarget := plan.relocationTarget
    gateDestination := gateAddress
    gateSlot := gateSlot
    functionId := plan.functionId
    bytes := le64Bytes gateAddress.value
    rawAddend := plan.rawAddend }

/-- The patches of a batch of plans, each with the gate that was chosen for it. -/
def buildGatePatches (host : Host) (plans : List SceImportResolutionPlan)
    (gateSlots : List UInt32) :
    Except SceGateBatchError (List SceGatePatch) := do
  refuseIf (plans.length ≠ gateSlots.length) ⟨.gateSlotCountMismatch, 0, plans.length,
    gateSlots.length, none⟩
  allocate host .gatePatches ⟨.hostAllocationFailure, 0, plans.length, gateSlots.length, none⟩
    ⟨.hostAllocationFailure, 0, plans.length, gateSlots.length, none⟩
  (plans.zip gateSlots).zipIdx.mapM fun place =>
    (buildGatePatch tableKind relocationType gateRegion place.1.1 place.1.2).mapError fun e =>
      ⟨.patchFailure, place.2, plans.length, gateSlots.length, some e⟩

end Build

/-- `build_synthetic_x86_64_glob_dat_gate_patch`. -/
def buildSyntheticX8664GlobDatGatePatch (gateRegion : SyntheticGateRegion)
    (plan : SceImportResolutionPlan) (gateSlot : UInt32) : Except SceGatePatchError SceGatePatch :=
  buildGatePatch .rela kX8664GlobDatRelocationType gateRegion plan gateSlot

/-- `build_synthetic_x86_64_glob_dat_gate_patches`. -/
def buildSyntheticX8664GlobDatGatePatches (gateRegion : SyntheticGateRegion) (host : Host)
    (plans : List SceImportResolutionPlan) (gateSlots : List UInt32) :
    Except SceGateBatchError (List SceGatePatch) :=
  buildGatePatches .rela kX8664GlobDatRelocationType gateRegion host plans gateSlots

/-- `build_synthetic_x86_64_jump_slot_patch`. -/
def buildSyntheticX8664JumpSlotPatch (gateRegion : SyntheticGateRegion)
    (plan : SceImportResolutionPlan) (gateSlot : UInt32) : Except SceGatePatchError SceGatePatch :=
  buildGatePatch .pltRela kX8664JumpSlotRelocationType gateRegion plan gateSlot

/-- `build_synthetic_x86_64_jump_slot_patches`. -/
def buildSyntheticX8664JumpSlotPatches (gateRegion : SyntheticGateRegion) (host : Host)
    (plans : List SceImportResolutionPlan) (gateSlots : List UInt32) :
    Except SceGateBatchError (List SceGatePatch) :=
  buildGatePatches .pltRela kX8664JumpSlotRelocationType gateRegion host plans gateSlots

/-! ### Applying patches -/

/-- `SceGlobDatApplyResult` and `SceJumpSlotApplyResult`. -/
structure SceGateApplyResult where
  relocationTarget : GuestAddress
  gateDestination : GuestAddress
  gateSlot : UInt32
  functionId : HleFunctionId
  deriving DecidableEq

/-- The codes of the errors of a batch that is applied. -/
inductive SceGateApplyBatchErrorCode where
  | applyFailure
  | hostAllocationFailure
  deriving DecidableEq

/-- `SceGlobDatApplyBatchError` and `SceJumpSlotApplyBatchError`. -/
structure SceGateApplyBatchError where
  code : SceGateApplyBatchErrorCode
  patchIndex : ℕ
  patchCount : ℕ
  appliedCount : ℕ
  memoryError : Option GuestMemoryError := none
  deriving DecidableEq

/-- What is reported of a patch that was applied. -/
def SceGatePatch.applied (patch : SceGatePatch) : SceGateApplyResult :=
  ⟨patch.relocationTarget, patch.gateDestination, patch.gateSlot, patch.functionId⟩

/-- `apply_synthetic_glob_dat_patch` and `apply_synthetic_jump_slot_patch`, and what guest memory
holds afterwards. -/
def applySyntheticGatePatch (memory : GuestMemoryAccess) (patch : SceGatePatch)
    (bytes : ℕ → UInt8) :
    Except GuestMemoryError SceGateApplyResult × (ℕ → UInt8) :=
  match memory.write bytes patch.relocationTarget patch.bytes.toList with
  | .error e => (.error e, bytes)
  | .ok written => (.ok patch.applied, written)

/-- `apply_synthetic_glob_dat_patches` and `apply_synthetic_jump_slot_patches`, and what guest
memory holds afterwards. -/
def applySyntheticGatePatches (host : Host) (memory : GuestMemoryAccess)
    (patches : List SceGatePatch) (bytes : ℕ → UInt8) :
    Except SceGateApplyBatchError (List SceGateApplyResult) × (ℕ → UInt8) :=
  let failure : SceGateApplyBatchError := ⟨.hostAllocationFailure, 0, patches.length, 0, none⟩
  match allocate host .gateApplies failure failure with
  | .error e => (.error e, bytes)
  | .ok () =>
    let applied := batchFrom (applySyntheticGatePatch memory) 0 patches bytes
    (applied.1.mapError fun failed =>
      ⟨.applyFailure, failed.1, patches.length, failed.1, some failed.2⟩, applied.2)

/-- `apply_synthetic_glob_dat_patches`, which does to its patches what
`apply_synthetic_jump_slot_patches` does. -/
def applySyntheticGlobDatPatches (host : Host) (memory : GuestMemoryAccess)
    (patches : List SceGatePatch) (bytes : ℕ → UInt8) :
    Except SceGateApplyBatchError (List SceGateApplyResult) × (ℕ → UInt8) :=
  applySyntheticGatePatches host memory patches bytes

/-- `apply_synthetic_jump_slot_patches`. -/
def applySyntheticJumpSlotPatches (host : Host) (memory : GuestMemoryAccess)
    (patches : List SceGatePatch) (bytes : ℕ → UInt8) :
    Except SceGateApplyBatchError (List SceGateApplyResult) × (ℕ → UInt8) :=
  applySyntheticGatePatches host memory patches bytes

/-! ### What a patch is -/

/-- The bytes a patch writes. -/
def SceGatePatch.toPatch (patch : SceGatePatch) : Patch :=
  (patch.relocationTarget.toNat, patch.bytes.toList)

/-- A patch for a plan: it leads to a gate that is bound to the function of the plan. -/
structure PatchFor (gateRegion : SyntheticGateRegion) (plan : SceImportResolutionPlan)
    (patch : SceGatePatch) : Prop where
  target : patch.relocationTarget = plan.relocationTarget
  function : patch.functionId = plan.functionId
  bound : gateRegion.bindingForSlot patch.gateSlot = some ⟨patch.gateSlot, plan.functionId⟩
  address : gateRegion.slotAddress patch.gateSlot = some patch.gateDestination
  bytes : patch.bytes = le64Bytes patch.gateDestination.value

section Patches

variable {tableKind : RelocationTableKind} {relocationType : UInt32}
  {gateRegion : SyntheticGateRegion} {plan : SceImportResolutionPlan} {gateSlot : UInt32}
  {patch : SceGatePatch} {host : Host} {plans : List SceImportResolutionPlan}
  {gateSlots : List UInt32} {patches : List SceGatePatch} {memory : GuestMemoryAccess}

theorem SyntheticGateRegion.slot_of_bindingForSlot {binding : GateBinding}
    (h : gateRegion.bindingForSlot gateSlot = some binding) : binding.slot = gateSlot :=
  beq_iff_eq.mp (List.find?_some h :)

/-- **A patch leads to the function of its plan.** -/
theorem patchFor_of_buildGatePatch
    (h : buildGatePatch tableKind relocationType gateRegion plan gateSlot = .ok patch) :
    PatchFor gateRegion plan patch ∧ patch.gateSlot = gateSlot ∧ plan.tableKind = tableKind ∧
      plan.rawRelocationType = relocationType := by
  simp only [buildGatePatch, bind_eq_ok, refuseIf_eq_ok, orRefuse_eq_ok, not_not, pure_eq_ok] at h
  obtain ⟨-, htable, -, htype, binding, hbinding, -, hfunction, gateAddress, haddress, rfl⟩ := h
  refine ⟨⟨rfl, rfl, ?_, haddress, rfl⟩, rfl, htable, htype⟩
  rw [hbinding, ← hfunction]
  cases binding
  exact congrArg (fun slot => some (GateBinding.mk slot _))
    (SyntheticGateRegion.slot_of_bindingForSlot hbinding)

/-- **There is a patch for every plan**, in the order of the plans, through the gate chosen for it.
-/
theorem buildGatePatches_eq_ok
    (h : buildGatePatches tableKind relocationType gateRegion host plans gateSlots = .ok patches) :
    plans.length = gateSlots.length ∧ patches.length = plans.length ∧
      ∀ (index : ℕ) (plan : SceImportResolutionPlan) (patch : SceGatePatch),
        plans[index]? = some plan →
        patches[index]? = some patch → PatchFor gateRegion plan patch ∧
        gateSlots[index]? = some patch.gateSlot := by
  simp only [buildGatePatches, bind_eq_ok, refuseIf_eq_ok, not_not] at h
  obtain ⟨-, hcount, -, -, hpatches⟩ := h
  rw [mapM_eq_ok, List.forall₂_iff_get] at hpatches
  obtain ⟨hlength, hget⟩ := hpatches
  rw [List.length_zipIdx, List.length_zip, ← hcount, Nat.min_self] at hlength
  refine ⟨hcount, hlength.symm, fun index plan patch hplan hpatch => ?_⟩
  obtain ⟨hplanIndex, rfl⟩ := List.getElem?_eq_some_iff.mp hplan
  obtain ⟨hpatchIndex, rfl⟩ := List.getElem?_eq_some_iff.mp hpatch
  have hslotIndex : index < gateSlots.length := by omega
  have hturn := hget index (by rw [List.length_zipIdx, List.length_zip]; omega) hpatchIndex
  simp only [List.get_eq_getElem, List.getElem_zipIdx, List.getElem_zip, mapError_eq_ok] at hturn
  obtain ⟨hpatchFor, hslot, -⟩ := patchFor_of_buildGatePatch hturn
  exact ⟨hpatchFor, by rw [hslot, List.getElem?_eq_getElem hslotIndex]⟩

variable {bytes : ℕ → UInt8}

theorem applySyntheticGatePatch_eq_ok {result : SceGateApplyResult}
    (h : (applySyntheticGatePatch memory patch bytes).1 = .ok result) :
    applySyntheticGatePatch memory patch bytes =
      (.ok patch.applied, store bytes patch.toPatch.1 patch.toPatch.2) := by
  unfold applySyntheticGatePatch at h ⊢
  cases hwrite : memory.write bytes patch.relocationTarget patch.bytes.toList with
  | error e =>
    rw [hwrite] at h
    cases h
  | ok written =>
    simp only [GuestMemoryAccess.write, bind_eq_ok, pure_eq_ok] at hwrite
    obtain ⟨-, -, rfl⟩ := hwrite
    rfl

theorem applySyntheticGatePatch_eq_error {e : GuestMemoryError}
    (h : (applySyntheticGatePatch memory patch bytes).1 = .error e) :
    (applySyntheticGatePatch memory patch bytes).2 = bytes := by
  unfold applySyntheticGatePatch at h ⊢
  cases hwrite : memory.write bytes patch.relocationTarget patch.bytes.toList with
  | error e' => rfl
  | ok written =>
    rw [hwrite] at h
    cases h

theorem exists_applySyntheticGatePatch_eq_ok :
    (∃ result, (applySyntheticGatePatch memory patch bytes).1 = .ok result) ↔
      ∃ validated, memory.preflightWrite patch.relocationTarget 8 = .ok validated := by
  have hlength : patch.bytes.toList.length = 8 := Vector.length_toList
  rw [applySyntheticGatePatch, GuestMemoryAccess.write, hlength, ← GuestMemoryAccess.preflightWrite]
  cases memory.preflightWrite patch.relocationTarget 8 with
  | error e => simp [bind, Except.bind]
  | ok validated => exact ⟨fun _ => ⟨validated, rfl⟩, fun _ => ⟨patch.applied, rfl⟩⟩

/-- What applying a batch does, when there is room for its results. -/
theorem applySyntheticGatePatches_of_room (hhost : host.allocation .gateApplies = none)
    (bytes : ℕ → UInt8) :
    applySyntheticGatePatches host memory patches bytes =
      ((batchFrom (applySyntheticGatePatch memory) 0 patches bytes).1.mapError fun failed =>
        ⟨.applyFailure, failed.1, patches.length, failed.1, some failed.2⟩,
        (batchFrom (applySyntheticGatePatch memory) 0 patches bytes).2) := by
  have hroom : allocate host .gateApplies
    (⟨.hostAllocationFailure, 0, patches.length, 0, none⟩ : SceGateApplyBatchError)
      ⟨.hostAllocationFailure, 0, patches.length, 0, none⟩ = .ok () := allocate_eq_ok.mpr hhost
  rw [applySyntheticGatePatches]
  dsimp only
  rw [hroom]

theorem applySyntheticGatePatches_of_no_room (hhost : host.allocation .gateApplies ≠ none)
    (bytes : ℕ → UInt8) :
    applySyntheticGatePatches host memory patches bytes =
      (.error ⟨.hostAllocationFailure, 0, patches.length, 0, none⟩, bytes) := by
  have hroom : allocate host .gateApplies
    (⟨.hostAllocationFailure, 0, patches.length, 0, none⟩ : SceGateApplyBatchError)
      ⟨.hostAllocationFailure, 0, patches.length, 0, none⟩ =
        .error ⟨.hostAllocationFailure, 0, patches.length, 0, none⟩ := by
    unfold allocate
    split
    · next hnone => exact absurd hnone hhost
    · rfl
    · rfl
  rw [applySyntheticGatePatches]
  dsimp only
  rw [hroom]

theorem applied_step (patch : SceGatePatch) (bytes : ℕ → UInt8) (result : SceGateApplyResult)
    (h : (applySyntheticGatePatch memory patch bytes).1 = .ok result) :
    applySyntheticGatePatch memory patch bytes =
      (.ok patch.applied, store bytes patch.toPatch.1 patch.toPatch.2) :=
        applySyntheticGatePatch_eq_ok h

/-- **A batch that came to its end** has stored its patches one after another. -/
theorem applySyntheticGatePatches_eq_ok {results : List SceGateApplyResult}
    (h : (applySyntheticGatePatches host memory patches bytes).1 = .ok results) :
    applySyntheticGatePatches host memory patches bytes =
      (.ok (patches.map SceGatePatch.applied),
        storeAll bytes (patches.map SceGatePatch.toPatch)) := by
  by_cases hhost : host.allocation .gateApplies = none
  · rw [applySyntheticGatePatches_of_room hhost] at h ⊢
    rw [mapError_eq_ok] at h
    obtain ⟨rfl, hstate⟩ := batchFrom_eq_ok applied_step h
    rw [h, hstate, storeAll_map]
    rfl
  · rw [applySyntheticGatePatches_of_no_room hhost] at h
    cases h

/-- **A batch that ended early** has stored the patches before the one that it names, and changed
nothing else. -/
theorem applySyntheticGatePatches_eq_error {e : SceGateApplyBatchError}
    (h : (applySyntheticGatePatches host memory patches bytes).1 = .error e)
    (hcode : e.code = .applyFailure) :
    e.appliedCount = e.patchIndex ∧ e.patchIndex < patches.length ∧ e.patchCount = patches.length ∧
      (applySyntheticGatePatches host memory patches bytes).2 =
        storeAll bytes ((patches.take e.patchIndex).map SceGatePatch.toPatch) := by
  by_cases hhost : host.allocation .gateApplies = none
  · rw [applySyntheticGatePatches_of_room hhost] at h ⊢
    obtain ⟨failed, hfailed, rfl⟩ := mapError_eq_error.mp h
    obtain ⟨-, hlt, hstate⟩ := batchFrom_eq_error applied_step
      (fun patch bytes e hpatch => applySyntheticGatePatch_eq_error hpatch) hfailed
    rw [Nat.zero_add] at hlt
    rw [Nat.sub_zero] at hstate
    exact ⟨rfl, hlt, rfl, by rw [storeAll_map]; exact hstate⟩
  · rw [applySyntheticGatePatches_of_no_room hhost] at h
    cases h
    cases hcode

/-- **Whether a batch comes to its end** depends on the targets of its patches, not on their bytes,
their order or what memory holds. -/
theorem exists_applySyntheticGatePatches_eq_ok :
    (∃ results, (applySyntheticGatePatches host memory patches bytes).1 = .ok results) ↔
      host.allocation .gateApplies = none ∧
        ∀ patch ∈ patches, ∃ validated, memory.preflightWrite patch.relocationTarget 8 =
          .ok validated := by
  by_cases hhost : host.allocation .gateApplies = none
  · rw [applySyntheticGatePatches_of_room hhost]
    have hstep : ∀ (patch : SceGatePatch) (bytes : ℕ → UInt8),
        (∃ result, (applySyntheticGatePatch memory patch bytes).1 = .ok result) ↔
          ∃ validated, memory.preflightWrite patch.relocationTarget 8 = .ok validated :=
      fun _ _ => exists_applySyntheticGatePatch_eq_ok
    simp only [mapError_eq_ok, hhost, true_and]
    exact exists_batchFrom_eq_ok hstep
  · rw [applySyntheticGatePatches_of_no_room hhost]
    exact ⟨fun h => (by obtain ⟨_, h⟩ := h; cases h), fun h => absurd h.1 hhost⟩

end Patches

/-! ### What a batch reports -/

/-- What a batch that applies patches reports is what it did. -/
structure ReportsWhatItDid
    (apply : List SceGatePatch → (ℕ → UInt8) →
      Except SceGateApplyBatchError (List SceGateApplyResult) × (ℕ → UInt8)) :
    Prop where
  failed : ∀ patches bytes e, (apply patches bytes).1 = .error e → e.code = .applyFailure →
    e.appliedCount = e.patchIndex ∧ e.patchIndex < patches.length ∧
      (apply patches bytes).2 =
        storeAll bytes ((patches.take e.patchIndex).map SceGatePatch.toPatch)
  refused : ∀ patches bytes e, (apply patches bytes).1 = .error e → e.code ≠ .applyFailure →
    e.appliedCount = 0 ∧ (apply patches bytes).2 = bytes
  succeeded : ∀ patches bytes results, (apply patches bytes).1 = .ok results →
    results = patches.map SceGatePatch.applied ∧
      (apply patches bytes).2 = storeAll bytes (patches.map SceGatePatch.toPatch)
  order : ∀ patches patches' bytes bytes',
    (patches.map SceGatePatch.relocationTarget).Perm (patches'.map SceGatePatch.relocationTarget) →
      ((∃ results, (apply patches bytes).1 = .ok results) ↔
        ∃ results, (apply patches' bytes').1 = .ok results)

theorem reportsWhatItDid_applySyntheticGatePatches (host : Host) (memory : GuestMemoryAccess) :
    ReportsWhatItDid (applySyntheticGatePatches host memory) where
  failed patches bytes e h hcode := by
    obtain ⟨hcount, hlt, -, hstate⟩ := applySyntheticGatePatches_eq_error h hcode
    exact ⟨hcount, hlt, hstate⟩
  refused patches bytes e h hcode := by
    by_cases hhost : host.allocation .gateApplies = none
    · rw [applySyntheticGatePatches_of_room hhost] at h
      obtain ⟨failed, -, rfl⟩ := mapError_eq_error.mp h
      exact absurd rfl hcode
    · rw [applySyntheticGatePatches_of_no_room hhost] at h ⊢
      cases h
      exact ⟨rfl, rfl⟩
  succeeded patches bytes results h := by
    have happlied := applySyntheticGatePatches_eq_ok h
    rw [happlied] at h ⊢
    cases h
    exact ⟨rfl, rfl⟩
  order patches patches' bytes bytes' hperm := by
    rw [exists_applySyntheticGatePatches_eq_ok, exists_applySyntheticGatePatches_eq_ok]
    refine and_congr_right fun _ => ?_
    rw [← List.forall_mem_map (f := SceGatePatch.relocationTarget)
        (P := fun target => ∃ validated, memory.preflightWrite target 8 = .ok validated),
      ← List.forall_mem_map (f := SceGatePatch.relocationTarget)
        (P := fun target => ∃ validated, memory.preflightWrite target 8 = .ok validated)]
    exact forall_congr' fun target => by rw [hperm.mem_iff]

/-- **Both kinds of batches report what they did.** -/
theorem gatePatches_report (host : Host) (memory : GuestMemoryAccess) :
    ReportsWhatItDid (applySyntheticGlobDatPatches host memory) ∧
      ReportsWhatItDid (applySyntheticJumpSlotPatches host memory) :=
  ⟨reportsWhatItDid_applySyntheticGatePatches host memory,
    reportsWhatItDid_applySyntheticGatePatches host memory⟩

/-- A page of data. -/
def slotMemory : GuestMemoryAccess where
  image := bareImage
    [⟨nextPage, GuestPermissions.only .write, ⟨.zeroFill, 0, ⟨0x1000⟩⟩, 0⟩] noBytes
  preparedPlan := ⟨0x1000, [⟨nextPage, GuestPermissions.only .write, []⟩]⟩
  preparedMemoryAvailable := true

/-- A slot that is to lead to a gate. -/
def slotPatch (target gate : UInt64) (gateSlot : UInt32) : SceGatePatch :=
  ⟨⟨target⟩, ⟨gate⟩, gateSlot, ⟨1⟩, le64Bytes gate, none⟩

/-- Two slots are written in either order. Where the second is behind the page, the report says that
the first was written, and it was. -/
theorem gatePatches_report_two :
    (applySyntheticJumpSlotPatches Host.plentiful slotMemory
      [slotPatch 0x2ff0 0x20000 0, slotPatch 0x2ff8 0x20010 1] fun _ => 0).2 =
      storeAll (fun _ => 0) [(0x2ff0, leBytes 8 0x20000), (0x2ff8, leBytes 8 0x20010)] ∧
    (∃ results, (applySyntheticJumpSlotPatches Host.plentiful slotMemory
      [slotPatch 0x2ff8 0x20010 1, slotPatch 0x2ff0 0x20000 0] fun _ => 0).1 = .ok results) ∧
    ∃ e, (applySyntheticJumpSlotPatches Host.plentiful slotMemory [slotPatch 0x2ff0 0x20000 0,
      slotPatch 0x3000 0x20010 1] fun _ => 0).1 = .error e ∧ e.appliedCount = 1 ∧
      (applySyntheticJumpSlotPatches Host.plentiful slotMemory
        [slotPatch 0x2ff0 0x20000 0, slotPatch 0x3000 0x20010 1] fun _ => 0).2 =
        storeAll (fun _ => 0) [(0x2ff0, leBytes 8 0x20000)] := by
  obtain ⟨-, hreport⟩ := gatePatches_report Host.plentiful slotMemory
  have hok : (applySyntheticJumpSlotPatches Host.plentiful slotMemory
      [slotPatch 0x2ff0 0x20000 0, slotPatch 0x2ff8 0x20010 1] fun _ => 0).1 =
        .ok [(slotPatch 0x2ff0 0x20000 0).applied, (slotPatch 0x2ff8 0x20010 1).applied] := by
          decide +kernel
  have hcode : (applySyntheticJumpSlotPatches Host.plentiful slotMemory
      [slotPatch 0x2ff0 0x20000 0, slotPatch 0x3000 0x20010 1] fun _ => 0).1.mapError
        (fun e => (e.code, e.patchIndex)) = .error (.applyFailure, 1) := by decide +kernel
  obtain ⟨e, he, hfound⟩ := mapError_eq_error.mp hcode
  obtain ⟨happly, hindex⟩ := Prod.mk.inj hfound
  obtain ⟨hcount, -, hafter⟩ := hreport.failed _ _ e he happly
  have hswap := hreport.order [slotPatch 0x2ff0 0x20000 0, slotPatch 0x2ff8 0x20010 1]
    [slotPatch 0x2ff8 0x20010 1, slotPatch 0x2ff0 0x20000 0] (fun _ => 0) (fun _ => 0)
      (List.Perm.swap _ _ _)
  refine ⟨(hreport.succeeded _ _ _ hok).2, hswap.mp ⟨_, hok⟩, e, he, hcount.trans hindex, ?_⟩
  rw [hafter, hindex]
  rfl

end Astraea.Execution
