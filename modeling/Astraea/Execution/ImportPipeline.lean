import Astraea.Execution.HleRuntime
import Astraea.Execution.ImportApply
import Astraea.Execution.SceGatePatches

/-!
# From the name of a symbol to the function that is called

The stages of an import put together: the registry of functions, the bindings of identities, the
region of gates, the plans of a relocation table, their patches, and the writes. Each stage counts
in its own way: records of a table, symbols, bindings, gates, plans. `imports_reach_functions`
follows one record through all of them, to the call that the guest makes through the word that was
written for it.
-/

namespace Astraea.Execution

open Astraea.Base Astraea.Core Astraea.Memory Astraea.Loader

/-! ### Batches -/

/-- The two kinds of relocation that are resolved to a gate. -/
inductive GateRelocation where
  | globDat
  | jumpSlot
  deriving DecidableEq

/-- The builder of batches of patches of a kind. -/
def GateRelocation.buildPatches :
    GateRelocation → SyntheticGateRegion → Host → List SceImportResolutionPlan → List UInt32 →
    Except SceGateBatchError (List SceGatePatch)
  | .globDat => buildSyntheticX8664GlobDatGatePatches
  | .jumpSlot => buildSyntheticX8664JumpSlotPatches

/-- A relocation table that was planned, and whose patches were built. -/
structure GateBatch (host : Host) (bindings : SceImportBindingRegistry)
    (gateRegion : SyntheticGateRegion) where
  kind : GateRelocation
  relocations : DynamicRelocationTableDescriptor
  symbols : DynamicSymbolTableDescriptor
  strings : DynamicStringTableDescriptor
  view : InitializedImageView
  gateSlots : List UInt32
  plans : List SceImportResolutionPlan
  patches : List SceGatePatch
  planned : planSceImports host bindings relocations symbols strings view = .ok plans
  built : kind.buildPatches gateRegion host plans gateSlots = .ok patches

section Batches

variable {host : Host} {bindings : SceImportBindingRegistry} {gateRegion : SyntheticGateRegion}

/-- The batches applied one after another, and what guest memory holds afterwards. -/
def applyGateBatches (memory : GuestMemoryAccess)
    (batches : List (GateBatch host bindings gateRegion)) (bytes : ℕ → UInt8) :
    Except (ℕ × SceGateApplyBatchError) (List (List SceGateApplyResult)) × (ℕ → UInt8) :=
  batchFrom (fun batch => applySyntheticGatePatches host memory batch.patches) 0 batches bytes

/-- No other patch of the batches reaches the target of the patch at `index` in the batch at
`batchIndex`. -/
def TargetApart (batches : List (GateBatch host bindings gateRegion)) (batchIndex index : ℕ) :
    Prop :=
  ∀ (batch other : GateBatch host bindings gateRegion) (otherBatchIndex otherIndex : ℕ)
    (patch otherPatch : SceGatePatch),
    batches[batchIndex]? = some batch → batch.patches[index]? = some patch →
    batches[otherBatchIndex]? = some other → other.patches[otherIndex]? = some otherPatch →
    (otherBatchIndex, otherIndex) ≠ (batchIndex, index) →
    Patch.Disjoint patch.toPatch otherPatch.toPatch

/-- The patches of the batches, in the order in which they are written. -/
def writtenPatches (batches : List (GateBatch host bindings gateRegion)) : List Patch :=
  batches.flatMap fun batch => batch.patches.map SceGatePatch.toPatch

variable {memory : GuestMemoryAccess} {batches : List (GateBatch host bindings gateRegion)}
  {batch : GateBatch host bindings gateRegion} {bytes : ℕ → UInt8} {batchIndex index : ℕ}
  {patch : SceGatePatch}

/-- Batches that came to their end have stored their patches one after another. -/
theorem applyGateBatches_eq_ok {results : List (List SceGateApplyResult)}
    (h : (applyGateBatches memory batches bytes).1 = .ok results) :
    (applyGateBatches memory batches bytes).2 = storeAll bytes (writtenPatches batches) := by
  have hstep : ∀ (batch : GateBatch host bindings gateRegion) (bytes : ℕ → UInt8)
    (applied : List SceGateApplyResult),
      (applySyntheticGatePatches host memory batch.patches bytes).1 = .ok applied →
        applySyntheticGatePatches host memory batch.patches bytes =
          (.ok (batch.patches.map SceGatePatch.applied),
          storeAll bytes (batch.patches.map SceGatePatch.toPatch)) :=
    fun _ _ _ hbatch => applySyntheticGatePatches_eq_ok hbatch
  obtain ⟨-, hstate⟩ := batchFrom_eq_ok hstep h
  rw [applyGateBatches, hstate]
  clear h hstate
  induction batches generalizing bytes with
  | nil => rfl
  | cons batch batches ih =>
    rw [List.foldl_cons, ih, writtenPatches, writtenPatches, List.flatMap_cons, storeAll_append]

theorem eq_take_append_cons_drop {α : Type} {xs : List α} {index : ℕ} {x : α}
    (h : xs[index]? = some x) :
    xs = xs.take index ++ x :: xs.drop (index + 1) := by
  obtain ⟨hlt, rfl⟩ := List.getElem?_eq_some_iff.mp h
  rw [← List.drop_eq_getElem_cons, List.take_append_drop]

theorem exists_index_of_mem_drop {α : Type} {xs : List α} {index : ℕ} {y : α}
    (h : y ∈ xs.drop (index + 1)) :
    ∃ later, index < later ∧ xs[later]? = some y := by
  obtain ⟨offset, hoffset⟩ := List.mem_iff_getElem?.mp h
  rw [List.getElem?_drop] at hoffset
  exact ⟨index + 1 + offset, by omega, hoffset⟩

/-- **A target that no other patch reaches** holds in the end what its own patch has written. -/
theorem load_writtenPatches (hbatch : batches[batchIndex]? = some batch)
    (hpatch : batch.patches[index]? = some patch) (hapart : TargetApart batches batchIndex index)
    (bytes : ℕ → UInt8) :
    load (storeAll bytes (writtenPatches batches)) patch.relocationTarget.toNat 8 =
      patch.bytes.toList := by
  have hwritten : writtenPatches batches =
      (writtenPatches (batches.take batchIndex) ++
        (batch.patches.take index).map SceGatePatch.toPatch) ++
        patch.toPatch :: ((batch.patches.drop (index + 1)).map SceGatePatch.toPatch ++
          writtenPatches (batches.drop (batchIndex + 1))) := by
    conv_lhs => rw [eq_take_append_cons_drop hbatch]
    rw [writtenPatches, List.flatMap_append, List.flatMap_cons]
    conv_lhs => rw [eq_take_append_cons_drop hpatch]
    simp only [writtenPatches, List.map_append, List.map_cons, List.append_assoc, List.cons_append]
  have hlater : ∀ q ∈ (batch.patches.drop (index + 1)).map SceGatePatch.toPatch ++
      writtenPatches (batches.drop (batchIndex + 1)), Patch.Disjoint patch.toPatch q := by
    intro q hq
    rcases List.mem_append.mp hq with hq | hq
    · obtain ⟨otherPatch, hother, rfl⟩ := List.mem_map.mp hq
      obtain ⟨later, hlt, hlater⟩ := exists_index_of_mem_drop hother
      refine hapart batch batch batchIndex later patch otherPatch hbatch hpatch hbatch hlater ?_
      rw [Ne, Prod.mk.injEq]
      omega
    · obtain ⟨other, hother, hq⟩ := List.mem_flatMap.mp hq
      obtain ⟨otherPatch, hmem, rfl⟩ := List.mem_map.mp hq
      obtain ⟨laterBatch, hlt, hlaterBatch⟩ := exists_index_of_mem_drop hother
      obtain ⟨later, hlater⟩ := List.mem_iff_getElem?.mp hmem
      refine hapart batch other laterBatch later patch otherPatch hbatch hpatch hlaterBatch hlater
        ?_
      rw [Ne, Prod.mk.injEq]
      omega
  have hload : load (storeAll bytes (writtenPatches batches)) patch.toPatch.1
      patch.toPatch.2.length = patch.toPatch.2 := by
    rw [hwritten]
    exact load_storeAll_of_later hlater bytes
  rw [SceGatePatch.toPatch, Vector.length_toList] at hload
  exact hload

/-- Every record of the table has a plan and a patch for it. -/
theorem GateBatch.exists_patch (batch : GateBatch host bindings gateRegion)
    (h : index < batch.relocations.count.toNat) :
    ∃ plan patch relocation symbol, batch.patches[index]? = some patch ∧
      PatchFor gateRegion plan patch ∧
      PlannedImport bindings batch.relocations batch.symbols batch.strings batch.view index
        relocation symbol plan := by
  obtain ⟨hplans, hplanned⟩ := planSceImports_eq_ok batch.planned
  have hbuilt : ∃ tableKind relocationType,
    buildGatePatches tableKind relocationType gateRegion host batch.plans
      batch.gateSlots = .ok batch.patches := by
    have hkind := batch.built
    cases hk : batch.kind with
    | globDat =>
      rw [hk] at hkind
      exact ⟨_, _, hkind⟩
    | jumpSlot =>
      rw [hk] at hkind
      exact ⟨_, _, hkind⟩
  obtain ⟨_, _, hbuilt⟩ := hbuilt
  obtain ⟨-, hpatches, hfor⟩ := buildGatePatches_eq_ok hbuilt
  have hplan : batch.plans[index]? = some (batch.plans.get ⟨index, by omega⟩) :=
    List.getElem?_eq_getElem _
  have hpatch : batch.patches[index]? = some (batch.patches.get ⟨index, by omega⟩) :=
    List.getElem?_eq_getElem _
  obtain ⟨relocation, symbol, himport⟩ := hplanned index _ hplan
  exact ⟨_, _, relocation, symbol, hpatch, (hfor index _ _ hplan hpatch).1, himport⟩

end Batches

/-- A stop at a gate whose function exists is a call of that function. -/
theorem calledFunction_of_bound {registry : HleRegistry} {gateRegion : SyntheticGateRegion}
    {stop : ExecutionStop} {binding : GateBinding} {descriptor : HleFunctionDescriptor}
    (hreason : stop.reason = .hostGate) (hslot : stop.hasGateSlot = true)
    (hbinding : gateRegion.bindingForSlot stop.gateSlot = some binding)
    (hdescriptor : registry.find binding.functionId = some descriptor) :
    calledFunction registry gateRegion stop = .ok (binding, descriptor) := by
  simp only [calledFunction, bind_eq_ok, refuseIf_eq_ok, orRefuse_eq_ok, not_or, not_not,
    Bool.not_eq_false]
  exact ⟨(), ⟨hreason, hslot⟩, binding, hbinding, descriptor, hdescriptor, rfl⟩

/-- **Imports reach the functions they name.** Where every stage has succeeded, the word at the
target of a record, unless another patch reaches it too, is the address of a gate; the gate is bound
to the one function that is bound to the identity which the name of the record's symbol spells; and
a call through the gate is served by that function. -/
theorem imports_reach_functions {host : Host} {descriptors : List HleFunctionDescriptor}
    {registry : HleRegistry} (hregistry : HleRegistry.create descriptors = .ok registry)
    {importBindings : List SceImportBinding} {bindings : SceImportBindingRegistry}
    (hbindings : SceImportBindingRegistry.create host registry importBindings = .ok bindings)
    {base : GuestAddress} {slotCount : UInt32} {gateBindings : List GateBinding}
    {image : GuestImage} {reserved : List GuestRange} {gateRegion : SyntheticGateRegion}
    (hregion : buildSyntheticGateRegion host registry base slotCount gateBindings image reserved =
    .ok gateRegion) (memory : GuestMemoryAccess) (batches :
    List (GateBatch host bindings gateRegion)) (bytes : ℕ → UInt8)
    {results : List (List SceGateApplyResult)}
    (happlied : (applyGateBatches memory batches bytes).1 = .ok results) {batchIndex index : ℕ}
    {batch : GateBatch host bindings gateRegion} (hbatch : batches[batchIndex]? = some batch)
    (hindex : index < batch.relocations.count.toNat)
    (hapart : TargetApart batches batchIndex index) :
    ∃ (relocation : DynamicRelocation) (symbol : SceDynamicSymbolRecord)
      (identity : SceSymbolIdentity)
      (functionId : HleFunctionId) (descriptor : HleFunctionDescriptor) (gate : GuestAddress)
        (slot : UInt32),
      parseDynamicRelocation batch.relocations (UInt64.ofNat index) batch.symbols batch.view =
        .ok relocation ∧
      SymbolNamed batch.view batch.symbols batch.strings relocation.symbolIndex.toUInt64 symbol ∧
      symbol.name.raw = identity.spelling ∧ identity.WellFormed ∧
      (⟨identity, functionId⟩ ∈ importBindings ∧
        ∀ binding ∈ importBindings, binding.identity = identity → binding.functionId = functionId) ∧
      leValue (load (applyGateBatches memory batches bytes).2 relocation.target.toNat 8) =
        gate.toNat ∧
      gateRegion.recognizeSlot gate = some slot ∧
      (gateRegion.bindingForSlot slot = some ⟨slot, functionId⟩ ∧
        ⟨slot, functionId⟩ ∈ gateBindings ∧
      ∀ binding ∈ gateBindings, binding.slot = slot → binding.functionId = functionId) ∧
      (descriptor ∈ descriptors ∧ descriptor.id = functionId ∧
        ∀ other ∈ descriptors, other.id = functionId → other = descriptor) ∧
      ∀ stop : ExecutionStop, stop.reason = .hostGate → stop.hasGateSlot = true →
        stop.gateSlot = slot →
        calledFunction registry gateRegion stop = .ok (⟨slot, functionId⟩, descriptor) ∧
        ∀ (runtime : Host) (accessed : GuestMemoryAccess) (state : HleDispatchState),
          dispatchHle runtime registry gateRegion stop accessed state =
            serve runtime accessed slot
              (makeCall functionId slot stop.context) state functionId := by
  obtain ⟨hwellFormed, hfunctions⟩ := HleRegistry.create_eq_ok hregistry
  obtain ⟨hbound, rfl⟩ := SceImportBindingRegistry.create_eq_ok hbindings
  obtain ⟨hbuilt, -, -, hgates⟩ := gateRegionBuilt_of_build hregion
  obtain ⟨plan, patch, relocation, symbol, hpatch, hpatchFor, himport⟩ := batch.exists_patch hindex
  obtain ⟨hspelled, hidentity⟩ := himport.named.identity _ himport.identity
  have hmemBinding := hbound.function_eq_some.mp himport.function
  obtain ⟨descriptor, hdescriptor⟩ := (hbound.binding _ hmemBinding).2
  obtain ⟨hmemDescriptor, hid⟩ := hwellFormed.find_eq_some.mp hdescriptor
  obtain ⟨hmemGate, -⟩ := hbuilt.bindingForSlot_eq_some.mp hpatchFor.bound
  have hgate := hgates.mem_iff.mp hmemGate
  have hfunction := hfunctions.mem_iff.mp hmemDescriptor
  refine ⟨relocation, symbol, plan.identity, plan.functionId, descriptor, patch.gateDestination,
    patch.gateSlot, himport.parsed, himport.named, hspelled, hidentity, ⟨hmemBinding, ?_⟩, ?_, ?_,
    ⟨hpatchFor.bound, hgate, ?_⟩, ⟨hfunction, hid, ?_⟩, ?_⟩
  · exact fun binding hmem heq => hbound.functionId_eq hmemBinding hmem heq
  · have htarget : relocation.target = patch.relocationTarget := by
      rw [hpatchFor.target, himport.eq_sceImportPlanOf]
      rfl
    rw [applyGateBatches_eq_ok happlied, htarget, load_writtenPatches hbatch hpatch hapart,
      hpatchFor.bytes, toList_le64Bytes]
    exact leValue_leBytes_of_lt patch.gateDestination.value.toNat_lt
  · exact hbuilt.recognizeSlot_eq_some.mpr hpatchFor.address
  · intro binding hmem hslot
    have hfound := hbuilt.bindingForSlot_eq_some.mpr ⟨hgates.mem_iff.mpr hmem, hslot⟩
    rw [hpatchFor.bound] at hfound
    cases hfound
    rfl
  · intro other hmem hother
    have hfound := hwellFormed.find_eq_some.mpr ⟨hfunctions.mem_iff.mpr hmem, hother⟩
    rw [hdescriptor] at hfound
    cases hfound
    rfl
  · intro stop hreason hslot hstop
    have hcalled : calledFunction registry gateRegion stop =
        .ok (⟨patch.gateSlot, plan.functionId⟩, descriptor) := by
      refine calledFunction_of_bound hreason hslot ?_ hdescriptor
      rw [hstop]
      exact hpatchFor.bound
    refine ⟨hcalled, fun runtime accessed state => ?_⟩
    rw [dispatchHle, hcalled, hstop]
    dsimp only
    rw [hid]

/-! ### Two imports of one function -/

/-- A record of `DT_RELA`, a record of `DT_JMPREL`, a symbol table and a string table with the name
of one import. -/
def importedFile : List UInt8 :=
  wordsBytes [(8, 0x2ff8), (8, 0x100000006), (8, 0), (8, 0x2ff0), (8, 0x100000007), (8, 0)] ++
    List.replicate 24 0 ++ wordsBytes [(4, 1), (4, 0x12), (8, 0), (8, 0)] ++
    0 :: ("12345678901#A#B".toList.map fun c => UInt8.ofNat c.toNat) ++ [0]

/-- The file in the second page. -/
def importedView : InitializedImageView where
  imageBytes := importedFile
  intents := [⟨⟨⟨0x1000⟩, ⟨113⟩, by decide⟩, GuestPermissions.only .read, ⟨.file, 0, ⟨113⟩⟩, 0⟩]
  backed := by
    intro intent hintent
    rw [List.mem_singleton.mp hintent]
    exact ⟨rfl, by decide, fun _ => by decide⟩
  sorted := List.pairwise_singleton _ _

/-- The table of one record of a kind at an address. -/
def oneRecord (kind : RelocationTableKind) (base : UInt64)
    (h : (GuestAddress.mk base).toNat + 24 ≤ 2 ^ 64) :
    DynamicRelocationTableDescriptor :=
  ⟨kind, ⟨⟨base⟩, ⟨24⟩, h⟩, ⟨24⟩, 1, 0, 0, 0⟩

/-- Two symbols, the first of them the reserved one. -/
def importedSymbols : DynamicSymbolTableDescriptor :=
  ⟨⟨⟨0x1030⟩, ⟨48⟩, by decide⟩, ⟨24⟩, 2, true, false, 0, 0, none, none, false, none⟩

/-- The strings of the sample: seventeen bytes. -/
def importedStrings : DynamicStringTableDescriptor := ⟨⟨⟨0x1060⟩, ⟨17⟩, by decide⟩⟩

/-- The identity of the import. -/
def importedIdentity : SceSymbolIdentity :=
  ⟨"12345678901".toList.map fun c => UInt8.ofNat c.toNat, [65], [66]⟩

/-- The registry has two functions, and the import is bound to the second. -/
def importedRegistry : HleRegistry :=
  ⟨[⟨kSyntheticTestWriteId, [119], 2⟩, ⟨kSyntheticTestExitId, [101], 1⟩]⟩

/-- The import of the sample is bound to the function that ends the guest. -/
def importedBindings : SceImportBindingRegistry := ⟨[⟨importedIdentity, kSyntheticTestExitId⟩]⟩

/-- Two gates, the second for the import. -/
def importedGates : SyntheticGateRegion :=
  ⟨twoGates, 2, [⟨0, kSyntheticTestWriteId⟩, ⟨1, kSyntheticTestExitId⟩]⟩

/-- The plan of the record of a kind. -/
def importedPlan (kind : RelocationTableKind) (target : UInt64) (type : UInt32) :
    SceImportResolutionPlan :=
  ⟨kind, 0, ⟨target⟩, type, some 0, 1, importedIdentity.spelling, importedIdentity,
    kSyntheticTestExitId⟩

/-- The patch of the import at a place. -/
def importedPatch (target : UInt64) : SceGatePatch :=
  ⟨⟨target⟩, ⟨0x20010⟩, 1, kSyntheticTestExitId, le64Bytes 0x20010, some 0⟩

set_option maxRecDepth 10000 in

/-- The record of `DT_RELA`. -/
def globDatBatch : GateBatch Host.plentiful importedBindings importedGates where
  kind := .globDat
  relocations := oneRecord .rela 0x1000 (by decide)
  symbols := importedSymbols
  strings := importedStrings
  view := importedView
  gateSlots := [1]
  plans := [importedPlan .rela 0x2ff8 6]
  patches := [importedPatch 0x2ff8]
  planned := by decide +kernel
  built := by decide +kernel

set_option maxRecDepth 10000 in

/-- The record of `DT_JMPREL`. -/
def jumpSlotBatch : GateBatch Host.plentiful importedBindings importedGates where
  kind := .jumpSlot
  relocations := oneRecord .pltRela 0x1018 (by decide)
  symbols := importedSymbols
  strings := importedStrings
  view := importedView
  gateSlots := [1]
  plans := [importedPlan .pltRela 0x2ff0 7]
  patches := [importedPatch 0x2ff0]
  planned := by decide +kernel
  built := by decide +kernel

theorem importedBatches_apart : TargetApart [globDatBatch, jumpSlotBatch] 0 0 := by
  intro batch other otherBatchIndex otherIndex patch otherPatch hbatch hpatch hother hotherPatch hne
  cases hbatch
  cases hpatch
  rcases otherBatchIndex with _ | _ | _
  · cases hother
    rcases otherIndex with _ | _
    · exact absurd rfl hne
    · cases hotherPatch
  · cases hother
    rcases otherIndex with _ | _
    · cases hotherPatch
      rintro x ⟨⟨hlow, -⟩, ⟨-, hhigh⟩⟩
      exact absurd (lt_of_le_of_lt hlow hhigh) (by decide)
    · cases hotherPatch
  · cases hother

/-- The word at the first target is the address of the second gate, through which the guest ends. -/
theorem imports_reach_functions_two :
    ∃ gate slot, leValue
      (load (applyGateBatches importMemory.toGuestMemoryAccess [globDatBatch, jumpSlotBatch]
      fun _ => 0).2 0x2ff8 8) = GuestAddress.toNat gate ∧
      importedGates.recognizeSlot gate = some slot ∧
      ∃ functionId descriptor, ∀ stop : ExecutionStop, stop.reason = .hostGate →
        stop.hasGateSlot = true →
        stop.gateSlot = slot → calledFunction importedRegistry importedGates stop =
          .ok (⟨slot, functionId⟩, descriptor) := by
  have hregistry :
    HleRegistry.create [⟨kSyntheticTestExitId, [101], 1⟩, ⟨kSyntheticTestWriteId, [119], 2⟩] =
      .ok importedRegistry := by decide +kernel
  have hbindings : SceImportBindingRegistry.create Host.plentiful importedRegistry
      [⟨importedIdentity, kSyntheticTestExitId⟩] = .ok importedBindings := by decide +kernel
  have hregion : buildSyntheticGateRegion Host.plentiful importedRegistry ⟨0x20000⟩ 2
      [⟨1, kSyntheticTestExitId⟩, ⟨0, kSyntheticTestWriteId⟩] importMemory.image [] =
        .ok importedGates := by decide +kernel
  have happlied :
    (applyGateBatches importMemory.toGuestMemoryAccess [globDatBatch, jumpSlotBatch] fun _ => 0).1 =
      .ok [[(importedPatch 0x2ff8).applied], [(importedPatch 0x2ff0).applied]] := by decide +kernel
  have hbatch : [globDatBatch, jumpSlotBatch][0]? = some globDatBatch := rfl
  have hindex : 0 < globDatBatch.relocations.count.toNat := by decide
  obtain ⟨relocation, _, _, functionId, descriptor, gate, slot, hparsed, -, -, -, -, hword, hslot,
      -, -, hcalled⟩ :=
    imports_reach_functions hregistry hbindings hregion importMemory.toGuestMemoryAccess
      [globDatBatch, jumpSlotBatch]
      (fun _ => 0) happlied hbatch hindex importedBatches_apart
  have htarget :
    (parseDynamicRelocation globDatBatch.relocations 0 globDatBatch.symbols globDatBatch.view).map
      DynamicRelocation.target = .ok ⟨0x2ff8⟩ := by decide +kernel
  obtain ⟨_, hsame, htarget⟩ := map_eq_ok.mp htarget
  rw [show UInt64.ofNat 0 = 0 from rfl, hsame] at hparsed
  cases hparsed
  rw [htarget] at hword
  exact ⟨gate, slot, hword, hslot, functionId, descriptor,
    fun stop hreason hgate hstop => (hcalled stop hreason hgate hstop).1⟩

end Astraea.Execution
