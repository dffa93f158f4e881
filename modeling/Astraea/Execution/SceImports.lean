import Astraea.Execution.HleSetup
import Astraea.Loader.RelocationRecords
import Astraea.Loader.SceDynamicSymbol

/-!
# Planning imports

The bindings say which function of the host stands for an identity; no identity has two.
`plan_sce_imports` goes through a relocation table: for every record it reads the symbol, takes
its name apart and looks up the function. A plan keeps what the record says beside the function,
and `PlannedImport` is where each part of it comes from.
-/

namespace Astraea.Execution

open Astraea.Base Astraea.Core Astraea.Memory Astraea.Loader

/-! ### Bindings -/

/-- Why bindings are refused. -/
inductive SceImportBindingErrorCode where
  | invalidIdentity
  | unknownHleFunction
  | duplicateIdentity
  | hostAllocationFailure
  deriving DecidableEq

/-- Bindings that are refused, with those they are about. -/
structure SceImportBindingError where
  code : SceImportBindingErrorCode
  bindingIndex : Option ℕ := none
  conflictingBindingIndex : Option ℕ := none
  functionId : Option HleFunctionId := none
  deriving DecidableEq

/-- The identity of an import, and the function it is bound to. -/
structure SceImportBinding where
  identity : SceSymbolIdentity
  functionId : HleFunctionId
  deriving DecidableEq

/-- What the lookup of an import comes to. -/
inductive SceImportResolutionKind where
  | resolved
  | unresolved
  deriving DecidableEq

/-- The result of the lookup of an import. -/
structure SceImportResolution where
  kind : SceImportResolutionKind
  functionId : Option HleFunctionId
  deriving DecidableEq

/-- The bindings that are known. -/
structure SceImportBindingRegistry where
  bindings : List SceImportBinding
  deriving DecidableEq

/-- `valid_identity`. -/
def validIdentity (identity : SceSymbolIdentity) : Bool :=
  identity.nid.length == 11 && !identity.libraryId.isEmpty && !identity.moduleId.isEmpty

/-- One turn of the loop over the bindings. -/
def checkImportBinding (hleRegistry : HleRegistry) (bindings : List SceImportBinding)
    (place : SceImportBinding × ℕ) :
    Except SceImportBindingError Unit := do
  let binding := place.1
  refuseIf (validIdentity binding.identity = false)
    { code := .invalidIdentity, bindingIndex := place.2, functionId := binding.functionId }
  refuseIf ((hleRegistry.find binding.functionId).isNone = true)
    { code := .unknownHleFunction, bindingIndex := place.2, functionId := binding.functionId }
  (bindings.take place.2).zipIdx.forM fun previous =>
    refuseIf (previous.1.identity = binding.identity)
      { code := .duplicateIdentity, bindingIndex := place.2, conflictingBindingIndex := previous.2,
        functionId := binding.functionId }

/-- `SceImportBindingRegistry::create`. -/
def SceImportBindingRegistry.create (host : Host) (hleRegistry : HleRegistry)
    (bindings : List SceImportBinding) :
    Except SceImportBindingError SceImportBindingRegistry := do
  allocate host .importBindings { code := .hostAllocationFailure }
    { code := .hostAllocationFailure }
  bindings.zipIdx.forM (checkImportBinding hleRegistry bindings)
  return ⟨bindings⟩

/-- `SceImportBindingRegistry::resolve`. -/
def SceImportBindingRegistry.resolve (registry : SceImportBindingRegistry)
    (identity : SceSymbolIdentity) :
    SceImportResolution :=
  match registry.bindings.find? fun binding => binding.identity == identity with
  | some binding => ⟨.resolved, some binding.functionId⟩
  | none => ⟨.unresolved, none⟩

/-- The function of a resolution that is resolved and has one. -/
def SceImportResolution.function (resolution : SceImportResolution) : Option HleFunctionId :=
  if resolution.kind ≠ .resolved then none else resolution.functionId

/-! ### Plans -/

/-- Why an import cannot be planned. -/
inductive SceImportResolutionPlanErrorCode where
  | symbolIndexMismatch
  | symbolNotUndefined
  | missingSceIdentity
  | unresolvedImport
  | hostAllocationFailure
  deriving DecidableEq

/-- An import that cannot be planned. -/
structure SceImportResolutionPlanError where
  code : SceImportResolutionPlanErrorCode
  relocationSymbolIndex : UInt32
  symbolRecordIndex : UInt64
  deriving DecidableEq

/-- An import, its relocation and the function it is bound to. -/
structure SceImportResolutionPlan where
  tableKind : RelocationTableKind
  tableIndex : UInt64
  relocationTarget : GuestAddress
  rawRelocationType : UInt32
  rawAddend : Option Int64
  symbolIndex : UInt32
  rawSymbolName : List UInt8
  identity : SceSymbolIdentity
  functionId : HleFunctionId
  deriving DecidableEq

/-- Why a batch cannot be planned. -/
inductive SceImportBatchPlanErrorCode where
  | relocationFailure
  | symbolFailure
  | resolutionFailure
  | hostAllocationFailure
  deriving DecidableEq

/-- A batch that cannot be planned, with the import it is about. -/
structure SceImportBatchPlanError where
  code : SceImportBatchPlanErrorCode
  relocationIndex : UInt64
  relocationError : Option DynamicRelocationError := none
  symbolError : Option SceDynamicSymbolError := none
  resolutionError : Option SceImportResolutionPlanError := none
  deriving DecidableEq

section Plan

variable (host : Host) (bindings : SceImportBindingRegistry)

/-- `plan_error`. -/
def sceImportPlanError (relocation : DynamicRelocation) (symbol : SceDynamicSymbolRecord)
    (code : SceImportResolutionPlanErrorCode) :
    SceImportResolutionPlanError :=
  ⟨code, relocation.symbolIndex, symbol.symbol.index⟩

/-- The plan of a relocation whose symbol is imported under `identity`. -/
def sceImportPlanOf (relocation : DynamicRelocation) (symbol : SceDynamicSymbolRecord)
    (identity : SceSymbolIdentity) (functionId : HleFunctionId) : SceImportResolutionPlan where
  tableKind := relocation.tableKind
  tableIndex := relocation.tableIndex
  relocationTarget := relocation.target
  rawRelocationType := relocation.relocationType
  rawAddend := relocation.addend
  symbolIndex := relocation.symbolIndex
  rawSymbolName := symbol.name.raw
  identity := identity
  functionId := functionId

/-- `plan_sce_import_resolution`. -/
def planSceImportResolution (relocation : DynamicRelocation) (symbol : SceDynamicSymbolRecord) :
    Except SceImportResolutionPlanError SceImportResolutionPlan := do
  refuseIf (relocation.symbolIndex.toUInt64 ≠ symbol.symbol.index)
    (sceImportPlanError relocation symbol .symbolIndexMismatch)
  -- an undefined symbol is in section zero
  refuseIf (symbol.symbol.sectionIndexRaw ≠ 0)
    (sceImportPlanError relocation symbol .symbolNotUndefined)
  let identity ← orRefuse symbol.name.identity
    (sceImportPlanError relocation symbol .missingSceIdentity)
  let functionId ← orRefuse (bindings.resolve identity).function
    (sceImportPlanError relocation symbol .unresolvedImport)
  allocate host .importPlan (sceImportPlanError relocation symbol .hostAllocationFailure)
    (sceImportPlanError relocation symbol .hostAllocationFailure)
  return sceImportPlanOf relocation symbol identity functionId

variable (relocations : DynamicRelocationTableDescriptor) (symbols : DynamicSymbolTableDescriptor)
  (strings : DynamicStringTableDescriptor) (view : InitializedImageView)

/-- One turn of the loop over the relocations. -/
def planSceImport (index : UInt64) : Except SceImportBatchPlanError SceImportResolutionPlan := do
  let relocation ← (parseDynamicRelocation relocations index symbols view).mapError fun e =>
    ({ code := .relocationFailure, relocationIndex := index, relocationError := some e } :
      SceImportBatchPlanError)
  let symbol ← (materializeSceDynamicSymbol host symbols strings relocation.symbolIndex.toUInt64
      view).mapError fun e =>
    ({ code := .symbolFailure, relocationIndex := index, symbolError := some e } :
      SceImportBatchPlanError)
  let plan ← (planSceImportResolution host bindings relocation symbol).mapError fun e =>
    ({ code := .resolutionFailure, relocationIndex := index, resolutionError := some e } :
      SceImportBatchPlanError)
  allocate host (.importPlans index) { code := .hostAllocationFailure, relocationIndex := index }
    { code := .hostAllocationFailure, relocationIndex := index }
  return plan

/-- `plan_sce_imports`. -/
def planSceImports : Except SceImportBatchPlanError (List SceImportResolutionPlan) :=
  (List.range relocations.count.toNat).mapM fun index =>
    planSceImport host bindings relocations symbols strings view (UInt64.ofNat index)

end Plan

/-! ### What the bindings are -/

/-- The bindings of a registry: to functions that exist, under identities of which none comes twice.
-/
structure SceImportBindingRegistry.WellFormed (hleRegistry : HleRegistry)
    (registry : SceImportBindingRegistry) : Prop where
  binding : ∀ binding ∈ registry.bindings, validIdentity binding.identity = true ∧
    ∃ descriptor, hleRegistry.find binding.functionId = some descriptor
  identities : (registry.bindings.map SceImportBinding.identity).Nodup

section Bindings

variable {host : Host} {hleRegistry : HleRegistry} {bindings : List SceImportBinding}
  {registry : SceImportBindingRegistry} {identity : SceSymbolIdentity} {functionId : HleFunctionId}

/-- **The bindings are well formed**, and those that were given. -/
theorem SceImportBindingRegistry.create_eq_ok
    (h : SceImportBindingRegistry.create host hleRegistry bindings = .ok registry) :
    registry.WellFormed hleRegistry ∧ registry.bindings = bindings := by
  simp only [SceImportBindingRegistry.create, bind_eq_ok, pure_eq_ok] at h
  obtain ⟨-, -, _, hchecked, rfl⟩ := h
  rw [forM_zipIdx_eq_ok] at hchecked
  have hturns : ∀ (index : ℕ) (binding : SceImportBinding), bindings[index]? = some binding →
      (validIdentity binding.identity = true ∧
        ∃ descriptor, hleRegistry.find binding.functionId = some descriptor) ∧
      ∀ (previous : ℕ) (other : SceImportBinding), previous < index →
      bindings[previous]? = some other →
        other.identity ≠ binding.identity := by
    intro index binding hbinding
    have hturn := hchecked index binding hbinding
    simp only [checkImportBinding, bind_eq_ok, refuseIf_eq_ok, Bool.not_eq_false,
      Option.isNone_iff_eq_none] at hturn
    obtain ⟨-, hvalid, -, hknown, hprevious⟩ := hturn
    rw [forM_zipIdx_eq_ok] at hprevious
    refine ⟨⟨hvalid, Option.ne_none_iff_exists'.mp hknown⟩, fun previous other hlt hother => ?_⟩
    exact refuseIf_eq_ok.mp
      (hprevious previous other (by rw [List.getElem?_take, if_pos hlt, hother]))
  refine ⟨⟨fun binding hmem => ?_, ?_⟩, rfl⟩
  · obtain ⟨index, hindex⟩ := List.mem_iff_getElem?.mp hmem
    exact (hturns index binding hindex).1
  · rw [List.Nodup, List.pairwise_map, List.pairwise_iff_getElem]
    intro previous index hprevious hindex hlt
    exact (hturns index _ (List.getElem?_eq_getElem hindex)).2 previous _ hlt
      (List.getElem?_eq_getElem hprevious)

/-- An identity is resolved to the function it is bound to. -/
theorem SceImportBindingRegistry.WellFormed.function_eq_some (h : registry.WellFormed hleRegistry) :
    (registry.resolve identity).function = some functionId ↔
    ⟨identity, functionId⟩ ∈ registry.bindings := by
  rw [SceImportBindingRegistry.resolve]
  constructor
  · intro hfunction
    cases hfind : registry.bindings.find? fun binding => binding.identity == identity with
    | none =>
      rw [hfind] at hfunction
      cases hfunction
    | some binding =>
      rw [hfind] at hfunction
      obtain ⟨hmem, rfl⟩ := (find?_key_eq_some h.identities).mp hfind
      cases hfunction
      exact hmem
  · intro hmem
    have hfind : (registry.bindings.find? fun binding => binding.identity == identity) =
        some ⟨identity, functionId⟩ :=
      (find?_key_eq_some h.identities).mpr ⟨hmem, rfl⟩
    rw [hfind]
    rfl

theorem SceImportBindingRegistry.WellFormed.functionId_eq (h : registry.WellFormed hleRegistry)
    (hmem : ⟨identity, functionId⟩ ∈ registry.bindings) {binding : SceImportBinding}
    (hother : binding ∈ registry.bindings) (heq : binding.identity = identity) :
    binding.functionId = functionId := by
  rw [List.inj_on_of_nodup_map h.identities hother hmem heq]

end Bindings

/-! ### What a plan is -/

/-- The plan of the record at an index: the record, its symbol, the identity its name spells and the
function bound to that. -/
structure PlannedImport (bindings : SceImportBindingRegistry)
    (relocations : DynamicRelocationTableDescriptor) (symbols : DynamicSymbolTableDescriptor)
    (strings : DynamicStringTableDescriptor) (view : InitializedImageView) (index : ℕ)
    (relocation : DynamicRelocation) (symbol : SceDynamicSymbolRecord)
    (plan : SceImportResolutionPlan) :
    Prop where
  parsed : parseDynamicRelocation relocations (UInt64.ofNat index) symbols view = .ok relocation
  named : SymbolNamed view symbols strings relocation.symbolIndex.toUInt64 symbol
  undefined : symbol.symbol.sectionIndexRaw = 0
  identity : symbol.name.identity = some plan.identity
  function : (bindings.resolve plan.identity).function = some plan.functionId
  eq_sceImportPlanOf : plan = sceImportPlanOf relocation symbol plan.identity plan.functionId

section Planned

variable {host : Host} {bindings : SceImportBindingRegistry}
  {relocations : DynamicRelocationTableDescriptor} {symbols : DynamicSymbolTableDescriptor}
  {strings : DynamicStringTableDescriptor} {view : InitializedImageView}
  {plan : SceImportResolutionPlan} {plans : List SceImportResolutionPlan}

theorem plannedImport_of_planSceImport {index : ℕ}
    (h : planSceImport host bindings relocations symbols strings view (UInt64.ofNat index) =
      .ok plan) :
    ∃ relocation symbol, PlannedImport bindings relocations symbols strings view index relocation
      symbol plan := by
  simp only [planSceImport, bind_eq_ok, mapError_eq_ok, pure_eq_ok] at h
  obtain ⟨relocation, hrelocation, symbol, hsymbol, found, hfound, -, -, rfl⟩ := h
  simp only [planSceImportResolution, bind_eq_ok, refuseIf_eq_ok, orRefuse_eq_ok, not_not,
    pure_eq_ok] at hfound
  obtain ⟨-, -, -, hundefined, identity, hidentity, functionId, hfunction, -, -, rfl⟩ := hfound
  exact ⟨relocation, symbol, hrelocation, materializeSceDynamicSymbol_eq_ok hsymbol, hundefined,
    hidentity, hfunction, rfl⟩

/-- **There is a plan for every record of the table**, in the order of the records. -/
theorem planSceImports_eq_ok
    (h : planSceImports host bindings relocations symbols strings view = .ok plans) :
    plans.length = relocations.count.toNat ∧
    ∀ (index : ℕ) (plan : SceImportResolutionPlan), plans[index]? = some plan →
      ∃ relocation symbol, PlannedImport bindings relocations symbols strings view index relocation
        symbol plan := by
  rw [planSceImports, mapM_eq_ok, List.forall₂_iff_get] at h
  obtain ⟨hlength, hget⟩ := h
  rw [List.length_range] at hlength
  refine ⟨hlength.symm, fun index plan hplan => ?_⟩
  obtain ⟨hindex, rfl⟩ := List.getElem?_eq_some_iff.mp hplan
  have hturn := hget index (by rw [List.length_range]; omega) hindex
  rw [List.get_eq_getElem, List.get_eq_getElem, List.getElem_range] at hturn
  exact plannedImport_of_planSceImport hturn

end Planned

end Astraea.Execution
