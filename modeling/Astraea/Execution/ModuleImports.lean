import Astraea.Execution.ImportApply
import Astraea.Execution.ModuleGraph

/-!
# Imports from modules, from the name to the word

`plan_module_graph_import` resolves the symbol of a relocation in the module graph,
`build_owned_x86_64_module_import_patch` makes a patch of the plan, and
`apply_owned_module_import_batch` writes the patches of a batch.

`moduleImports_reach_exports` follows imports through the three of them: the word at the target of
an import is the address its provider declares for the name.
-/

namespace Astraea.Execution

open Astraea.Base Astraea.Core Astraea.Loader Astraea.Memory

/-! ### The patch of a plan -/

/-- Why no patch can be made of an import. -/
inductive OwnedModuleAbsolutePatchErrorCode where
  | unsupportedTableKind
  | unsupportedRelocationType
  | invalidExportAddress
  | unsupportedSymbolBinding
  | targetRangeOverflow
  | missingRelaAddend
  deriving DecidableEq

/-- An import that no patch can be made of. -/
structure OwnedModuleAbsolutePatchError where
  code : OwnedModuleAbsolutePatchErrorCode
  rawRelocationType : UInt32
  deriving DecidableEq

/-- The relocation type of a data address. -/
def kGlobDat : UInt32 := 6

/-- `build_owned_x86_64_module_import_patch`. -/
def buildOwnedX8664ModuleImportPatch (plan : ModuleGraphImportPlan) :
    Except OwnedModuleAbsolutePatchError OwnedModuleAbsolutePatch := do
  let error (code : OwnedModuleAbsolutePatchErrorCode) : OwnedModuleAbsolutePatchError :=
    ⟨code, plan.rawRelocationType⟩
  refuseIf (plan.rawRelocationType ≠ kGlobDat ∧ plan.rawRelocationType ≠ kJumpSlot)
    (error .unsupportedRelocationType)
  refuseIf (¬ (plan.rawRelocationType = kGlobDat ∧ plan.tableKind = .rela ∨
    plan.rawRelocationType = kJumpSlot ∧ plan.tableKind = .pltRela)) (error .unsupportedTableKind)
  refuseIf (plan.rawAddend = none) (error .missingRelaAddend)
  refuseIf (plan.symbolBinding ≠ 1 ∧ plan.symbolBinding ≠ 2) (error .unsupportedSymbolBinding)
  refuseIf (plan.providerGuestAddress.value = 0) (error .invalidExportAddress)
  let _target ← (GuestRange.create plan.relocationTarget ⟨8⟩).mapError fun _ =>
    error .targetRangeOverflow
  return {
    target := plan.relocationTarget
    sourceSymbolAddress := plan.providerGuestAddress
    rawRelocationType := plan.rawRelocationType
    rawAddend := plan.rawAddend
    bytes := le64Bytes plan.providerGuestAddress.value }

/-- What an x86-64 patch of an import is: the address of the symbol, in a table of the right kind.
-/
structure PatchOf (plan : ModuleGraphImportPlan) (patch : OwnedModuleAbsolutePatch) : Prop where
  table : plan.rawRelocationType = kGlobDat ∧ plan.tableKind = .rela ∨
    plan.rawRelocationType = kJumpSlot ∧ plan.tableKind = .pltRela
  addend : plan.rawAddend ≠ none
  binding : plan.symbolBinding = 1 ∨ plan.symbolBinding = 2
  address : plan.providerGuestAddress.value ≠ 0
  target : plan.relocationTarget.toNat + 8 ≤ 2 ^ 64
  patch_eq : patch = ⟨plan.relocationTarget, plan.providerGuestAddress, plan.rawRelocationType,
    plan.rawAddend, le64Bytes plan.providerGuestAddress.value⟩

variable {plan : ModuleGraphImportPlan} {patch : OwnedModuleAbsolutePatch}

/-- **A plan has a patch exactly where everything checks.** -/
theorem buildOwnedX8664ModuleImportPatch_eq_ok :
    buildOwnedX8664ModuleImportPatch plan = .ok patch ↔ PatchOf plan patch := by
  simp only [buildOwnedX8664ModuleImportPatch, bind_eq_ok, refuseIf_eq_ok, mapError_eq_ok,
    pure_eq_ok, not_not]
  constructor
  · rintro ⟨_, -, _, htable, _, haddend, _, hbinding, _, haddress, range, hrange, rfl⟩
    refine ⟨htable, haddend, ?_, haddress, ?_, rfl⟩
    · tauto
    · obtain ⟨hbase, hsize⟩ := GuestRange.create_eq_ok hrange
      have hwrap := range.noWrap
      rw [hbase, hsize] at hwrap
      exact hwrap
  · intro h
    refine ⟨(), ?_, (), h.table, (), h.addend, (), ?_, (), h.address, _,
      GuestRange.create_of_le h.target, h.patch_eq.symm⟩
    · rintro ⟨hglob, hjump⟩
      rcases h.table with ⟨htype, -⟩ | ⟨htype, -⟩
      · exact hglob htype
      · exact hjump htype
    · have hbinding := h.binding
      tauto

theorem PatchOf.toPatch_eq (h : PatchOf plan patch) :
    patch.toPatch = (plan.relocationTarget.toNat, leBytes 8 plan.providerGuestAddress.toNat) := by
  rw [h.patch_eq, OwnedModuleAbsolutePatch.toPatch, toList_le64Bytes]
  rfl

/-! ### A batch of imports -/

/-- An import that was resolved in a module graph, and the patch that was made of it. -/
structure PatchedImport (host : Host) (graph : ModuleGraph) where
  relocation : DynamicRelocation
  symbol : SceDynamicSymbolRecord
  requesterKey : List UInt8
  providerKey : List UInt8
  plan : ModuleGraphImportPlan
  patch : OwnedModuleAbsolutePatch
  planned : planModuleGraphImport host relocation symbol graph requesterKey providerKey = .ok plan
  built : buildOwnedX8664ModuleImportPatch plan = .ok patch

section Batch

variable {host host' : Host} {declarations : List ModuleGraphDeclaration} {graph : ModuleGraph}

/-- The bytes of the target of an import. -/
def PatchedImport.InTarget (moduleImport : PatchedImport host graph) (x : ℕ) : Prop :=
  moduleImport.relocation.target.toNat ≤ x ∧ x < moduleImport.relocation.target.toNat + 8

/-- The address the declarations give an import: its symbol has an identity, and the provider, on
which the requester depends, exports it there. -/
structure PatchedImport.Declared (moduleImport : PatchedImport host graph)
    (declarations : List ModuleGraphDeclaration) (identity : SceSymbolIdentity)
    (guestAddress : GuestAddress) : Prop where
  named : moduleImport.symbol.name.identity = some identity
  declares : ModuleGraph.Declares declarations moduleImport.requesterKey moduleImport.providerKey
    identity guestAddress
  nonzero : guestAddress.value ≠ 0

/-- The patch of an import has the address that is declared. -/
theorem PatchedImport.declared (hgraph : ModuleGraph.create host' declarations = .ok graph)
    (moduleImport : PatchedImport host graph) :
    ∃ identity guestAddress, moduleImport.Declared declarations identity guestAddress ∧
      moduleImport.patch.toPatch =
        (moduleImport.relocation.target.toNat, leBytes 8 guestAddress.toNat) := by
  obtain ⟨htarget, hidentity, hdeclares⟩ := planModuleGraphImport_eq_ok hgraph moduleImport.planned
  have hpatch := buildOwnedX8664ModuleImportPatch_eq_ok.mp moduleImport.built
  refine ⟨_, _, ⟨hidentity, hdeclares, hpatch.address⟩, ?_⟩
  rw [hpatch.toPatch_eq, htarget]

/-- **Imports from the name to the word.** A batch of imports is refused, and guest memory is as it
was; or it goes through, and then the word at the target of each import is the address the
declarations give its name, and nothing but the targets has changed. -/
theorem moduleImports_reach_exports (hgraph : ModuleGraph.create host' declarations = .ok graph)
    (imports : List (PatchedImport host graph)) (memory : GuestMemoryAccess) (host'' : Host)
    (bytes : ℕ → UInt8) :
    (∃ e, applyOwnedModuleImportBatch memory host'' (imports.map PatchedImport.patch) bytes =
      (.error e, bytes) ∧ e.appliedCount = 0) ∨
    ∃ results after, applyOwnedModuleImportBatch memory host''
      (imports.map PatchedImport.patch) bytes = (.ok results, after) ∧
      (∀ moduleImport ∈ imports, ∃ identity guestAddress,
        moduleImport.Declared declarations identity guestAddress ∧
      leValue (load after moduleImport.relocation.target.toNat 8) = guestAddress.toNat) ∧
      ∀ x, (∀ moduleImport ∈ imports, ¬ moduleImport.InTarget x) → after x = bytes x := by
  rcases applyOwnedModuleImportBatch_cases memory host'' (imports.map PatchedImport.patch) bytes
    with
    ⟨e, hcheck, hresult⟩ | ⟨hchecked, hresult⟩
  · exact .inl ⟨e, hresult, (appliedCount_of_checkImportBatch hcheck).1⟩
  · have hwritten := written_storeAll hchecked.disjoint bytes
    refine .inr ⟨_, _, hresult, fun moduleImport hmem => ?_, fun x hx =>
      hwritten.frame x fun p hp hhits => ?_⟩
    · obtain ⟨identity, guestAddress, hdeclared, htoPatch⟩ := moduleImport.declared hgraph
      refine ⟨identity, guestAddress, hdeclared, ?_⟩
      have hholds :=
        hwritten.holds moduleImport.patch.toPatch (List.mem_map_of_mem (List.mem_map_of_mem hmem))
      rw [htoPatch, length_leBytes] at hholds
      rw [hholds, leValue_leBytes_of_lt guestAddress.toNat_lt]
    · obtain ⟨patch, hpatch, rfl⟩ := List.mem_map.mp hp
      obtain ⟨moduleImport, hmem, rfl⟩ := List.mem_map.mp hpatch
      obtain ⟨-, guestAddress, -, htoPatch⟩ := moduleImport.declared hgraph
      rw [htoPatch, Patch.Hits, length_leBytes] at hhits
      exact hx moduleImport hmem hhits

end Batch

/-- A name of eleven times the same character, in the second of two modules. -/
def sampleIdentity (character : UInt8) : SceSymbolIdentity :=
  ⟨List.replicate 11 character, [0x6c], [0x6d]⟩

/-- Two modules, of which the first imports from the second, which exports two functions. -/
def twoExports : List ModuleGraphDeclaration :=
  [⟨[0x61], [[0x62]], []⟩,
    ⟨[0x62], [], [⟨sampleIdentity 0x6e, ⟨0x1000⟩⟩, ⟨sampleIdentity 0x6f, ⟨0x1800⟩⟩]⟩]

/-- The imports of both functions, through two jump slots that lie side by side. -/
def firstImport : PatchedImport Host.plentiful ⟨twoExports⟩ where
  relocation := ⟨.pltRela, 0, ⟨0x2ff8⟩, 0x100000007, 1, 7, some 0⟩
  symbol := ⟨⟨1, 1, 0x12, 0, 0, 0, 0⟩, ⟨[], some (sampleIdentity 0x6e)⟩⟩
  requesterKey := [0x61]
  providerKey := [0x62]
  plan := ⟨.pltRela, 0, ⟨0x2ff8⟩, 7, some 0, 1, 1, [0x62], sampleIdentity 0x6e, ⟨0x1000⟩⟩
  patch := importPatch
  planned := by decide +kernel
  built := by decide +kernel

/-- The second import of the sample. -/
def secondImport : PatchedImport Host.plentiful ⟨twoExports⟩ where
  relocation := ⟨.pltRela, 1, ⟨0x2ff0⟩, 0x200000007, 2, 7, some 0⟩
  symbol := ⟨⟨2, 1, 0x12, 0, 0, 0, 0⟩, ⟨[], some (sampleIdentity 0x6f)⟩⟩
  requesterKey := [0x61]
  providerKey := [0x62]
  plan := ⟨.pltRela, 1, ⟨0x2ff0⟩, 7, some 0, 2, 1, [0x62], sampleIdentity 0x6f, ⟨0x1800⟩⟩
  patch := middlePatch
  planned := by decide +kernel
  built := by decide +kernel

/-- Each word is the address that the second module exports for its name, and the byte before the
two stays. -/
theorem moduleImports_reach_exports_two :
    ∃ results after, applyOwnedModuleImportBatch importMemory.toGuestMemoryAccess Host.plentiful
        [importPatch, middlePatch] (fun _ => 0xff) = (.ok results, after) ∧
      (∃ identity guestAddress, firstImport.Declared twoExports identity guestAddress ∧
        leValue (load after 0x2ff8 8) = GuestAddress.toNat guestAddress) ∧
      (∃ identity guestAddress, secondImport.Declared twoExports identity guestAddress ∧
        leValue (load after 0x2ff0 8) = GuestAddress.toNat guestAddress) ∧
      after 0x2fef = 0xff := by
  have hok :
    (applyOwnedModuleImportBatch importMemory.toGuestMemoryAccess Host.plentiful
    [importPatch, middlePatch] fun _ => 0xff).1 =
    .ok [importPatch.applied, middlePatch.applied] := by decide +kernel
  have hgraph : ModuleGraph.create Host.plentiful twoExports = .ok ⟨twoExports⟩ := rfl
  rcases moduleImports_reach_exports hgraph [firstImport, secondImport]
    importMemory.toGuestMemoryAccess Host.plentiful
    (fun _ => 0xff) with ⟨e, hresult, -⟩ | ⟨results, after, hresult, hwords, hframe⟩
  · have hrefused := congrArg Prod.fst hresult
    cases hrefused.symm.trans hok
  · refine ⟨results, after, hresult, hwords firstImport List.mem_cons_self,
      hwords secondImport (List.mem_cons_of_mem _ List.mem_cons_self), hframe 0x2fef ?_⟩
    simp only [List.forall_mem_cons]
    refine ⟨?_, ?_, List.forall_mem_nil _⟩
    · rintro ⟨hlow, -⟩
      exact absurd hlow (by decide)
    · rintro ⟨hlow, -⟩
      exact absurd hlow (by decide)

end Astraea.Execution
