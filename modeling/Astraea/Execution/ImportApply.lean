import Astraea.Base.Batch
import Astraea.Execution.ProviderRegistry

/-!
# Batches of imports

An import of a module is resolved by a patch: eight bytes at a target, the address of the
symbol. `apply_owned_module_import_batch` checks the targets of a batch, writable and apart from
each other, and then writes them; `apply_live_owned_jump_slot_batch` checks before that what the
patches point to, and `apply_generation_bound_owned_jump_slot_batch` that a current provider
stands behind each of them.

Everything that can be refused is refused before the first write: what the checks establish is
enough for every write to go through.
-/

namespace Astraea.Execution

open Astraea.Base Astraea.Core Astraea.Memory

/-- An absolute address that is to be written to a place. -/
structure OwnedModuleAbsolutePatch where
  target : GuestAddress
  sourceSymbolAddress : GuestAddress
  rawRelocationType : UInt32
  rawAddend : Option Int64
  bytes : Vector UInt8 8
  deriving DecidableEq

/-- What an applied batch did. -/
structure OwnedModuleImportApplyResult where
  target : GuestAddress
  providerGuestAddress : GuestAddress
  deriving DecidableEq

/-- `apply_owned_module_import_patch`, and what guest memory holds afterwards. -/
def applyOwnedModuleImportPatch (memory : GuestMemoryAccess) (patch : OwnedModuleAbsolutePatch)
    (bytes : ℕ → UInt8) :
    Except GuestMemoryError OwnedModuleImportApplyResult × (ℕ → UInt8) :=
  memory.applyPatch patch.target patch.bytes ⟨patch.target, patch.sourceSymbolAddress⟩ bytes

/-! ### A batch -/

/-- Why a batch of imports is refused. -/
inductive OwnedModuleImportBatchErrorCode where
  | tooManyPatches
  | conflictingTarget
  | preflightFailure
  | applyFailure
  | hostAllocationFailure
  deriving DecidableEq

/-- A refused batch, with the patches it is about. -/
structure OwnedModuleImportBatchError where
  code : OwnedModuleImportBatchErrorCode
  patchIndex : ℕ
  conflictingPatchIndex : Option ℕ := none
  appliedCount : ℕ := 0
  memoryError : Option GuestMemoryError := none
  deriving DecidableEq

/-- The most patches of a batch. -/
def kMaxOwnedImportPatches : ℕ := 256

section Batch

variable (memory : GuestMemoryAccess)

/-- One turn of the loop that validates the targets. -/
def preflightTarget (place : OwnedModuleAbsolutePatch × ℕ) :
    Except OwnedModuleImportBatchError Unit := do
  let _validated ← (memory.preflightWrite place.1.target 8).mapError fun e =>
    ({ code := .preflightFailure, patchIndex := place.2, memoryError := some e } :
      OwnedModuleImportBatchError)

/-- The eight bytes of a target. -/
def targetRange (patch : OwnedModuleAbsolutePatch) : Except AddressErrorCode GuestRange :=
  GuestRange.create patch.target ⟨8⟩

/-- One turn of the loop that compares the targets: the patch against every patch before it. -/
def compareTarget (patches : List OwnedModuleAbsolutePatch) (place : OwnedModuleAbsolutePatch × ℕ) :
    Except OwnedModuleImportBatchError Unit := do
  let first ← (targetRange place.1).mapError fun _ =>
    ({ code := .preflightFailure, patchIndex := place.2,
       memoryError := some ⟨.guestMemoryRangeOverflow, true, place.1.target.value⟩ } :
         OwnedModuleImportBatchError)
  (patches.take place.2).zipIdx.forM fun previous =>
    refuseIf ((targetRange previous.1).toOption.any first.overlaps = true)
      { code := .conflictingTarget, patchIndex := place.2,
        conflictingPatchIndex := some previous.2 }

/-- Everything that is checked before the first write. -/
def checkImportBatch (host : Host) (patches : List OwnedModuleAbsolutePatch) :
    Except OwnedModuleImportBatchError Unit := do
  refuseIf (patches.length > kMaxOwnedImportPatches)
    { code := .tooManyPatches, patchIndex := patches.length }
  patches.zipIdx.forM (preflightTarget memory)
  patches.zipIdx.forM (compareTarget patches)
  allocate host .importBatch { code := .hostAllocationFailure, patchIndex := 0 }
    { code := .hostAllocationFailure, patchIndex := 0 }

/-- `apply_owned_module_import_batch`, and what guest memory holds afterwards. -/
def applyOwnedModuleImportBatch (host : Host) (patches : List OwnedModuleAbsolutePatch)
    (bytes : ℕ → UInt8) :
    Except OwnedModuleImportBatchError (List OwnedModuleImportApplyResult) × (ℕ → UInt8) :=
  match checkImportBatch memory host patches with
  | .error e => (.error e, bytes)
  | .ok () =>
    let applied := batchFrom (applyOwnedModuleImportPatch memory) 0 patches bytes
    (applied.1.mapError fun failed =>
      { code := .applyFailure, patchIndex := failed.1, appliedCount := failed.1,
        memoryError := some failed.2 }, applied.2)

end Batch

/-! ### Jump slots -/

/-- Why a jump slot is not written. -/
inductive OwnedLiveJumpSlotErrorCode where
  | tooManyPatches
  | unsupportedRelocationType
  | invalidPatchEncoding
  | providerNotLiveExecutable
  | batchFailure
  deriving DecidableEq

/-- A jump slot that is not written. -/
structure OwnedLiveJumpSlotError where
  code : OwnedLiveJumpSlotErrorCode
  patchIndex : ℕ
  appliedCount : ℕ := 0
  batchError : Option OwnedModuleImportBatchError := none
  deriving DecidableEq

/-- The relocation type of a jump slot. -/
def kJumpSlot : UInt32 := 7

/-- One turn of the loop that checks what the patches point to. -/
def checkLivePatch (memory : GuestMemoryAccess) (place : OwnedModuleAbsolutePatch × ℕ) :
    Except OwnedLiveJumpSlotError Unit := do
  let patch := place.1
  refuseIf (patch.rawRelocationType ≠ kJumpSlot)
    { code := .unsupportedRelocationType, patchIndex := place.2 }
  refuseIf (patch.rawAddend = none ∨ patch.sourceSymbolAddress.value = 0)
    { code := .invalidPatchEncoding, patchIndex := place.2 }
  (List.finRange 8).forM fun byteIndex =>
    refuseIf (patch.bytes.get byteIndex ≠ le64Byte patch.sourceSymbolAddress.value byteIndex)
      { code := .invalidPatchEncoding, patchIndex := place.2 }
  refuseIf (memory.isExactExecutableAddress patch.sourceSymbolAddress = false)
    { code := .providerNotLiveExecutable, patchIndex := place.2 }

/-- What is checked before the batch is handed on. -/
def checkLiveBatch (memory : GuestMemoryAccess) (patches : List OwnedModuleAbsolutePatch) :
    Except OwnedLiveJumpSlotError Unit := do
  refuseIf (patches.length > kMaxOwnedImportPatches)
    { code := .tooManyPatches, patchIndex := patches.length }
  patches.zipIdx.forM (checkLivePatch memory)

/-- `apply_live_owned_jump_slot_batch`, and what guest memory holds afterwards. -/
def applyLiveOwnedJumpSlotBatch (memory : GuestMemoryAccess) (host : Host)
    (patches : List OwnedModuleAbsolutePatch) (bytes : ℕ → UInt8) :
    Except OwnedLiveJumpSlotError (List OwnedModuleImportApplyResult) × (ℕ → UInt8) :=
  match checkLiveBatch memory patches with
  | .error e => (.error e, bytes)
  | .ok () =>
    let applied := applyOwnedModuleImportBatch memory host patches bytes
    (applied.1.mapError fun previous =>
      ⟨.batchFailure, previous.patchIndex, previous.appliedCount, some previous⟩, applied.2)

/-- Why a bound jump slot is not written. -/
inductive OwnedBoundJumpSlotErrorCode where
  | bindingCountMismatch
  | staleOrForeignProviderGeneration
  | livePatchFailure
  deriving DecidableEq

/-- A bound jump slot that is not written. -/
structure OwnedBoundJumpSlotError where
  code : OwnedBoundJumpSlotErrorCode
  patchIndex : ℕ
  appliedCount : ℕ := 0
  liveError : Option OwnedLiveJumpSlotError := none
  deriving DecidableEq

/-- What is checked of the providers. -/
def checkBindings (memory : MappedGuestMemory) (registry : OwnedProviderRegistry)
    (patches : List OwnedModuleAbsolutePatch) (generations : List OwnedProviderGeneration) :
    Except OwnedBoundJumpSlotError Unit := do
  refuseIf (patches.length ≠ generations.length)
    { code := .bindingCountMismatch, patchIndex := patches.length }
  (patches.zip generations).zipIdx.forM fun place =>
    refuseIf (registry.isCurrent place.1.2 place.1.1.sourceSymbolAddress memory = false)
      { code := .staleOrForeignProviderGeneration, patchIndex := place.2 }

/-- `apply_generation_bound_owned_jump_slot_batch`, and what guest memory holds afterwards. -/
def applyGenerationBoundOwnedJumpSlotBatch (memory : MappedGuestMemory) (host : Host)
    (registry : OwnedProviderRegistry) (patches : List OwnedModuleAbsolutePatch)
    (generations : List OwnedProviderGeneration) (bytes : ℕ → UInt8) :
    Except OwnedBoundJumpSlotError (List OwnedModuleImportApplyResult) × (ℕ → UInt8) :=
  match checkBindings memory registry patches generations with
  | .error e => (.error e, bytes)
  | .ok () =>
    let applied := applyLiveOwnedJumpSlotBatch memory.toGuestMemoryAccess host patches bytes
    (applied.1.mapError fun e => ⟨.livePatchFailure, e.patchIndex, e.appliedCount, some e⟩,
      applied.2)

/-! ### What the checks establish -/

/-- The bytes of a patch and where they go. -/
def OwnedModuleAbsolutePatch.toPatch (patch : OwnedModuleAbsolutePatch) : Patch :=
  (patch.target.toNat, patch.bytes.toList)

/-- What is reported for a patch. -/
def OwnedModuleAbsolutePatch.applied (patch : OwnedModuleAbsolutePatch) :
    OwnedModuleImportApplyResult :=
  ⟨patch.target, patch.sourceSymbolAddress⟩

theorem OwnedModuleAbsolutePatch.length_toPatch (patch : OwnedModuleAbsolutePatch) :
    patch.toPatch.2.length = 8 := by
  simp [toPatch]

/-- What the checks of a batch establish: every target may be written, and no two of them meet. -/
structure Checked (memory : GuestMemoryAccess) (patches : List OwnedModuleAbsolutePatch) :
    Prop where
  count : patches.length ≤ 256
  writable : ∀ patch ∈ patches, ∃ validated, memory.preflightWrite patch.target 8 = .ok validated
  disjoint : (patches.map OwnedModuleAbsolutePatch.toPatch).Pairwise Patch.Disjoint

variable {patch : OwnedModuleAbsolutePatch} {patches : List OwnedModuleAbsolutePatch}

theorem mem_targetRange {range : GuestRange} (h : targetRange patch = .ok range) {x : ℕ} :
    x ∈ range ↔ patch.toPatch.Hits x := by
  obtain ⟨hbase, hsize⟩ := GuestRange.create_eq_ok h
  rw [GuestRange.mem_def, GuestRange.last, hbase, hsize, Patch.Hits, patch.length_toPatch]
  rfl

theorem disjoint_of_overlaps_eq_false {other : OwnedModuleAbsolutePatch} {range range' : GuestRange}
    (h : targetRange patch = .ok range) (h' : targetRange other = .ok range')
    (hoverlaps : ¬ range.overlaps range' = true) :
    Patch.Disjoint other.toPatch patch.toPatch := by
  intro x hx
  rw [GuestRange.overlaps_iff] at hoverlaps
  exact hoverlaps ⟨x, (mem_targetRange h).mpr hx.2, (mem_targetRange h').mpr hx.1⟩

theorem checked_of_checkImportBatch {memory : GuestMemoryAccess} {host : Host}
    (h : checkImportBatch memory host patches = .ok ()) :
    Checked memory patches := by
  simp only [checkImportBatch, bind_eq_ok, refuseIf_eq_ok] at h
  obtain ⟨-, hcount, ⟨⟩, hpreflight, ⟨⟩, hcompare, -⟩ := h
  unfold kMaxOwnedImportPatches at hcount
  rw [forM_zipIdx_eq_ok] at hpreflight hcompare
  have hranges : ∀ (index : ℕ) (patch : OwnedModuleAbsolutePatch), patches[index]? = some patch →
      ∃ range, targetRange patch = .ok range ∧ ∀ (previous : ℕ) (other : OwnedModuleAbsolutePatch),
        previous < index → patches[previous]? = some other →
          ¬ (targetRange other).toOption.any range.overlaps = true := by
    intro index patch hpatch
    have hturn := hcompare index patch hpatch
    simp only [compareTarget, bind_eq_ok, mapError_eq_ok] at hturn
    obtain ⟨range, hrange, hprevious⟩ := hturn
    refine ⟨range, hrange, fun previous other hlt hother => ?_⟩
    rw [forM_zipIdx_eq_ok] at hprevious
    exact refuseIf_eq_ok.mp
      (hprevious previous other (by rw [List.getElem?_take, if_pos hlt, hother]))
  refine ⟨by omega, ?_, ?_⟩
  · intro patch hpatch
    obtain ⟨index, hindex⟩ := List.mem_iff_getElem?.mp hpatch
    have hturn := hpreflight index patch hindex
    simp only [preflightTarget, bind_eq_ok, mapError_eq_ok] at hturn
    obtain ⟨validated, hvalidated, -⟩ := hturn
    exact ⟨validated, hvalidated⟩
  · rw [List.pairwise_map, List.pairwise_iff_getElem]
    intro previous index hprevious hindex hlt
    obtain ⟨range, hrange, hapart⟩ := hranges index _ (List.getElem?_eq_getElem hindex)
    obtain ⟨range', hrange', -⟩ := hranges previous _ (List.getElem?_eq_getElem hprevious)
    have hoverlaps := hapart previous _ hlt (List.getElem?_eq_getElem hprevious)
    rw [hrange'] at hoverlaps
    exact disjoint_of_overlaps_eq_false hrange hrange' hoverlaps

/-- **A batch is refused before the first write, or goes through to the end.** -/
theorem applyOwnedModuleImportBatch_cases (memory : GuestMemoryAccess) (host : Host)
    (patches : List OwnedModuleAbsolutePatch) (bytes : ℕ → UInt8) :
    (∃ e, checkImportBatch memory host patches = .error e ∧
      applyOwnedModuleImportBatch memory host patches bytes = (.error e, bytes)) ∨
    Checked memory patches ∧ applyOwnedModuleImportBatch memory host patches bytes =
      (.ok (patches.map OwnedModuleAbsolutePatch.applied),
        storeAll bytes (patches.map OwnedModuleAbsolutePatch.toPatch)) := by
  unfold applyOwnedModuleImportBatch
  cases hcheck : checkImportBatch memory host patches with
  | error e => exact .inl ⟨e, rfl, rfl⟩
  | ok u =>
    have hchecked := checked_of_checkImportBatch hcheck
    have hstep : ∀ patch ∈ patches, ∀ bytes, applyOwnedModuleImportPatch memory patch bytes =
        (.ok patch.applied, store bytes patch.toPatch.1 patch.toPatch.2) := by
      intro patch hpatch bytes
      obtain ⟨validated, hvalidated⟩ := hchecked.writable patch hpatch
      exact GuestMemoryAccess.applyPatch_of_preflightWrite hvalidated patch.bytes patch.applied
        bytes
    have hbatch := batchFrom_of_forall hstep 0 bytes
    refine .inr ⟨hchecked, ?_⟩
    simp only [hbatch, storeAll_map]
    rfl

theorem appliedCount_of_checkImportBatch {memory : GuestMemoryAccess} {host : Host}
    {e : OwnedModuleImportBatchError} (h : checkImportBatch memory host patches = .error e) :
    e.appliedCount = 0 ∧ e.code ≠ .applyFailure := by
  simp only [checkImportBatch, bind_eq_error, refuseIf_eq_error] at h
  rcases h with ⟨-, rfl⟩ | ⟨-, -, h | ⟨-, -, h | ⟨-, -, h⟩⟩⟩
  · exact ⟨rfl, by simp⟩
  · obtain ⟨_, place, _, -, -, h⟩ := forM_eq_error.mp h
    simp only [preflightTarget, bind_eq_error, mapError_eq_error, pure_ne_error, and_false,
      exists_false, or_false] at h
    obtain ⟨_, -, rfl⟩ := h
    exact ⟨rfl, by simp⟩
  · obtain ⟨_, place, _, -, -, h⟩ := forM_eq_error.mp h
    simp only [compareTarget, bind_eq_error, mapError_eq_error] at h
    rcases h with ⟨_, -, rfl⟩ | ⟨_, -, h⟩
    · exact ⟨rfl, by simp⟩
    · obtain ⟨_, previous, _, -, -, h⟩ := forM_eq_error.mp h
      obtain ⟨-, rfl⟩ := refuseIf_eq_error.mp h
      exact ⟨rfl, by simp⟩
  · unfold allocate at h
    split at h <;> cases h <;> exact ⟨rfl, by simp⟩

/-- What the checks of jump slots establish of a patch. -/
structure LivePatch (memory : GuestMemoryAccess) (patch : OwnedModuleAbsolutePatch) : Prop where
  nonzero : patch.sourceSymbolAddress.value ≠ 0
  bytes : patch.bytes.toList = leBytes 8 patch.sourceSymbolAddress.toNat
  executable : memory.isExactExecutableAddress patch.sourceSymbolAddress = true

theorem livePatch_of_checkLivePatch {memory : GuestMemoryAccess} {index : ℕ}
    (h : checkLivePatch memory (patch, index) = .ok ()) : LivePatch memory patch := by
  simp only [checkLivePatch, bind_eq_ok, refuseIf_eq_ok, not_or, Bool.not_eq_false] at h
  obtain ⟨-, -, -, ⟨-, hnonzero⟩, ⟨⟩, hbytes, hexecutable⟩ := h
  refine ⟨hnonzero, ?_, hexecutable⟩
  have hencoded : patch.bytes = le64Bytes patch.sourceSymbolAddress.value := by
    apply Vector.ext
    intro byteIndex hlt
    have hbyte := forM_eq_ok.mp hbytes ⟨byteIndex, hlt⟩ (List.mem_finRange _)
    rw [refuseIf_eq_ok, not_not] at hbyte
    rw [le64Bytes, Vector.getElem_ofFn, ← hbyte]
    rfl
  rw [hencoded, toList_le64Bytes]
  rfl

theorem appliedCount_of_checkLiveBatch {memory : GuestMemoryAccess} {e : OwnedLiveJumpSlotError}
    (h : checkLiveBatch memory patches = .error e) : e.appliedCount = 0 := by
  simp only [checkLiveBatch, bind_eq_error, refuseIf_eq_error] at h
  rcases h with ⟨-, rfl⟩ | ⟨-, -, h⟩
  · rfl
  · obtain ⟨_, place, _, -, -, h⟩ := forM_eq_error.mp h
    simp only [checkLivePatch, bind_eq_error, refuseIf_eq_error] at h
    rcases h with ⟨-, rfl⟩ | ⟨-, -, ⟨-, rfl⟩ | ⟨-, -, h | ⟨-, -, -, rfl⟩⟩⟩
    · rfl
    · rfl
    · obtain ⟨_, _, _, -, -, h⟩ := forM_eq_error.mp h
      obtain ⟨-, rfl⟩ := refuseIf_eq_error.mp h
      rfl
    · rfl

theorem applyLiveOwnedJumpSlotBatch_cases (memory : GuestMemoryAccess) (host : Host)
    (patches : List OwnedModuleAbsolutePatch) (bytes : ℕ → UInt8) :
    (∃ e, e.appliedCount = 0 ∧ applyLiveOwnedJumpSlotBatch memory host patches bytes =
      (.error e, bytes)) ∨
    Checked memory patches ∧ (∀ patch ∈ patches, LivePatch memory patch) ∧
      applyLiveOwnedJumpSlotBatch memory host patches bytes =
        (.ok (patches.map OwnedModuleAbsolutePatch.applied),
          storeAll bytes (patches.map OwnedModuleAbsolutePatch.toPatch)) := by
  unfold applyLiveOwnedJumpSlotBatch
  cases hlive : checkLiveBatch memory patches with
  | error e => exact .inl ⟨e, appliedCount_of_checkLiveBatch hlive, rfl⟩
  | ok u =>
    rcases applyOwnedModuleImportBatch_cases memory host patches bytes
      with ⟨e, hcheck, hresult⟩ | ⟨hchecked, hresult⟩
    · refine .inl ⟨⟨.batchFailure, e.patchIndex, e.appliedCount, some e⟩,
        (appliedCount_of_checkImportBatch hcheck).1, ?_⟩
      simp only [hresult]
      rfl
    · refine .inr ⟨hchecked, ?_, ?_⟩
      · simp only [checkLiveBatch, bind_eq_ok] at hlive
        obtain ⟨-, -, hpatches⟩ := hlive
        intro patch hpatch
        obtain ⟨index, hindex⟩ := List.mem_iff_getElem?.mp hpatch
        exact livePatch_of_checkLivePatch (forM_zipIdx_eq_ok.mp hpatches index patch hindex)
      · simp only [hresult]
        rfl

theorem isCurrent_of_checkBindings {memory : MappedGuestMemory} {registry : OwnedProviderRegistry}
    {generations : List OwnedProviderGeneration}
    (h : checkBindings memory registry patches generations = .ok ()) :
    patches.length = generations.length ∧
      ∀ (index : ℕ) (patch : OwnedModuleAbsolutePatch) (token : OwnedProviderGeneration),
        patches[index]? = some patch →
        generations[index]? = some token →
        registry.isCurrent token patch.sourceSymbolAddress memory = true := by
  simp only [checkBindings, bind_eq_ok, refuseIf_eq_ok, not_not] at h
  obtain ⟨-, hlength, hcurrent⟩ := h
  refine ⟨hlength, fun index patch token hpatch htoken => ?_⟩
  have hturn := forM_zipIdx_eq_ok.mp hcurrent index (patch, token)
    (List.getElem?_zip_eq_some.mpr ⟨hpatch, htoken⟩)
  rwa [refuseIf_eq_ok, Bool.not_eq_false] at hturn

/-- **Import batches are all or nothing.** A batch of jump slots that is refused has changed no byte
and reports none; one that succeeds has at most 256 patches with disjoint targets, and afterwards
every target holds the address of its symbol, which is not zero and may be executed, behind every
patch stands a current provider, and no other byte has changed. The batch without the checks of the
sources is as atomic, and never finds a write to fail. -/
theorem importBatch_allOrNothing (host : Host) (memory : MappedGuestMemory)
    (registry : OwnedProviderRegistry) (patches : List OwnedModuleAbsolutePatch)
    (generations : List OwnedProviderGeneration) (bytes : ℕ → UInt8) :
    (∀ e, (applyGenerationBoundOwnedJumpSlotBatch memory host registry patches generations
      bytes).1 = .error e →
    (applyGenerationBoundOwnedJumpSlotBatch memory host registry patches generations bytes).2 =
      bytes ∧ e.appliedCount = 0) ∧
    (∀ results, (applyGenerationBoundOwnedJumpSlotBatch memory host registry patches generations
      bytes).1 = .ok results →
      patches.length ≤ 256 ∧
      Written (patches.map fun patch =>
        (patch.target.toNat, leBytes 8 patch.sourceSymbolAddress.toNat)) bytes
        (applyGenerationBoundOwnedJumpSlotBatch memory host registry patches generations bytes).2 ∧
      (∀ patch ∈ patches, patch.sourceSymbolAddress.value ≠ 0 ∧
        memory.isExactExecutableAddress patch.sourceSymbolAddress = true) ∧
      patches.length = generations.length ∧
      (∀ (index : ℕ) (patch : OwnedModuleAbsolutePatch) (token : OwnedProviderGeneration),
        patches[index]? = some patch → generations[index]? = some token →
      registry.isCurrent token patch.sourceSymbolAddress memory = true ∧
      token.mappingEpoch = memory.currentMappingEpoch) ∧
      results = patches.map fun patch => ⟨patch.target, patch.sourceSymbolAddress⟩) ∧
    (∀ e, (applyOwnedModuleImportBatch memory.toGuestMemoryAccess host patches bytes).1 = .error e →
      (applyOwnedModuleImportBatch memory.toGuestMemoryAccess host patches bytes).2 = bytes ∧
      e.appliedCount = 0 ∧
        e.code ≠ .applyFailure) ∧
    ∀ results, (applyOwnedModuleImportBatch memory.toGuestMemoryAccess host patches bytes).1 =
      .ok results →
      patches.length ≤ 256 ∧
      Written (patches.map fun patch => (patch.target.toNat, patch.bytes.toList)) bytes
        (applyOwnedModuleImportBatch memory.toGuestMemoryAccess host patches bytes).2 ∧
      results = patches.map fun patch => ⟨patch.target, patch.sourceSymbolAddress⟩ := by
  refine ⟨?_, ?_, ?_, ?_⟩
  · intro e h
    unfold applyGenerationBoundOwnedJumpSlotBatch at h ⊢
    cases hbindings : checkBindings memory registry patches generations with
    | error e' =>
      rw [hbindings] at h
      cases h
      refine ⟨rfl, ?_⟩
      simp only [checkBindings, bind_eq_error, refuseIf_eq_error] at hbindings
      rcases hbindings with ⟨-, rfl⟩ | ⟨-, -, hbindings⟩
      · rfl
      · obtain ⟨_, _, _, -, -, hturn⟩ := forM_eq_error.mp hbindings
        obtain ⟨-, rfl⟩ := refuseIf_eq_error.mp hturn
        rfl
    | ok u =>
      rw [hbindings] at h
      rcases applyLiveOwnedJumpSlotBatch_cases memory.toGuestMemoryAccess host patches bytes with
        ⟨e', hcount, hresult⟩ | ⟨-, -, hresult⟩
      · simp only [hresult] at h
        cases h
        exact ⟨by simp only [hresult], hcount⟩
      · simp only [hresult] at h
        cases h
  · intro results h
    unfold applyGenerationBoundOwnedJumpSlotBatch at h ⊢
    cases hbindings : checkBindings memory registry patches generations with
    | error e' =>
      rw [hbindings] at h
      cases h
    | ok u =>
      rw [hbindings] at h
      obtain ⟨hlength, hcurrent⟩ := isCurrent_of_checkBindings hbindings
      rcases applyLiveOwnedJumpSlotBatch_cases memory.toGuestMemoryAccess host patches bytes with
        ⟨e', -, hresult⟩ | ⟨hchecked, hlive, hresult⟩
      · simp only [hresult] at h
        cases h
      · simp only [hresult] at h ⊢
        cases h
        have hpatches : patches.map OwnedModuleAbsolutePatch.toPatch =
            patches.map fun patch =>
              (patch.target.toNat, leBytes 8 patch.sourceSymbolAddress.toNat) :=
          List.map_congr_left fun patch hpatch => by
            rw [OwnedModuleAbsolutePatch.toPatch, (hlive patch hpatch).bytes]
        refine ⟨hchecked.count, ?_, ?_, hlength, ?_, rfl⟩
        · rw [← hpatches]
          exact written_storeAll hchecked.disjoint bytes
        · intro patch hpatch
          exact ⟨(hlive patch hpatch).nonzero, (hlive patch hpatch).executable⟩
        · intro index patch token hpatch htoken
          have hok := hcurrent index patch token hpatch htoken
          exact ⟨hok, (OwnedProviderRegistry.isCurrent_iff.mp hok).2.2.2.2.1⟩
  · intro e h
    rcases applyOwnedModuleImportBatch_cases memory.toGuestMemoryAccess host patches bytes with
      ⟨e', hcheck, hresult⟩ | ⟨-, hresult⟩
    · rw [hresult] at h ⊢
      cases h
      exact ⟨rfl, appliedCount_of_checkImportBatch hcheck⟩
    · rw [hresult] at h
      cases h
  · intro results h
    rcases applyOwnedModuleImportBatch_cases memory.toGuestMemoryAccess host patches bytes with
      ⟨e', -, hresult⟩ | ⟨hchecked, hresult⟩
    · rw [hresult] at h
      cases h
    · rw [hresult] at h ⊢
      cases h
      exact ⟨hchecked.count, written_storeAll hchecked.disjoint bytes, rfl⟩

/-- A page of code, a page of data behind it, and a registry with a provider in the code. -/
def importMemory : MappedGuestMemory where
  image := bareImage
    [⟨lowPage, GuestPermissions.only .execute, ⟨.zeroFill, 0, ⟨0x1000⟩⟩, 0⟩,
      ⟨nextPage, GuestPermissions.only .write, ⟨.zeroFill, 0, ⟨0x1000⟩⟩, 1⟩]
    noBytes
  preparedPlan := ⟨0x1000,
    [⟨lowPage, GuestPermissions.only .execute, []⟩,
      ⟨nextPage, GuestPermissions.only .write, []⟩]⟩
  preparedMemoryAvailable := true
  preparedEpoch := 7

/-- Two jump slots at the end of the data: the last is for the beginning of the code, the one before
it for the middle. -/
def importPatch : OwnedModuleAbsolutePatch :=
  ⟨⟨0x2ff8⟩, ⟨0x1000⟩, kJumpSlot, some 0, le64Bytes 0x1000⟩

/-- A patch between two others. -/
def middlePatch : OwnedModuleAbsolutePatch :=
  ⟨⟨0x2ff0⟩, ⟨0x1800⟩, kJumpSlot, some 0, le64Bytes 0x1800⟩

/-- A registry with the two providers, in the code. -/
def importToken : OwnedProviderGeneration := ⟨1, 1, 7, [65], ⟨0x1000⟩⟩

/-- The token of the module that has the place between. -/
def middleToken : OwnedProviderGeneration := ⟨1, 2, 7, [66], ⟨0x1800⟩⟩

/-- The registry of both modules. -/
def importRegistry : OwnedProviderRegistry := ⟨1, 3, [importToken, middleToken]⟩

/-- What becomes of the two slots. -/
def importRun : Except OwnedBoundJumpSlotError (List OwnedModuleImportApplyResult) × (ℕ → UInt8) :=
  applyGenerationBoundOwnedJumpSlotBatch importMemory Host.plentiful importRegistry [importPatch,
    middlePatch]
    [importToken, middleToken] fun _ => 0xff

/-- Both jump slots are written, side by side, and the byte before them stays. -/
theorem importBatch_allOrNothing_two :
    importRun.1 = .ok [⟨⟨0x2ff8⟩, ⟨0x1000⟩⟩, ⟨⟨0x2ff0⟩, ⟨0x1800⟩⟩] ∧
      load importRun.2 0x2ff8 8 = leBytes 8 0x1000 ∧ load importRun.2 0x2ff0 8 = leBytes 8 0x1800 ∧
      importRun.2 0x2fef = 0xff := by
  have hok : importRun.1 = .ok [⟨⟨0x2ff8⟩, ⟨0x1000⟩⟩, ⟨⟨0x2ff0⟩, ⟨0x1800⟩⟩] := by decide +kernel
  obtain ⟨-, hwritten, -⟩ := (importBatch_allOrNothing Host.plentiful importMemory importRegistry
    [importPatch, middlePatch] [importToken, middleToken] fun _ => 0xff).2.1 _ hok
  have hlast := hwritten.holds (0x2ff8, leBytes 8 0x1000) List.mem_cons_self
  have hmiddle :=
    hwritten.holds (0x2ff0, leBytes 8 0x1800) (List.mem_cons_of_mem _ List.mem_cons_self)
  refine ⟨hok, hlast, hmiddle, hwritten.frame 0x2fef ?_⟩
  simp only [List.map_cons, List.map_nil, List.forall_mem_cons]
  exact ⟨by decide, by decide, List.forall_mem_nil _⟩

end Astraea.Execution
