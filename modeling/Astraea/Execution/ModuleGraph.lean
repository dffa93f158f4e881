import Astraea.Base.DistinctKeys
import Astraea.Base.KeySort
import Astraea.Loader.RelocationRecords
import Astraea.Loader.SceDynamicSymbol
import Mathlib.Data.List.Perm.Basic

/-!
# The module graph

A module is declared under a key, with the keys of the modules it depends on and the identities
it exports. `ModuleGraph::create` takes a list of declarations in which no key, no dependency of
a module and no export of a module comes twice. `resolve` looks an identity up for one module in
another, and only where the first has declared that it depends on the second.

`create_eq_ok_iff` is what a graph is made of, and `resolve_eq_resolved_iff` what resolving is:
a statement about which declarations there are. Neither depends on an order, of the declarations
or within one of them: `resolve_rearranged`.
-/

namespace Astraea.Execution

open Astraea.Base Astraea.Core Astraea.Memory Astraea.Loader

/-! ### Declarations -/

/-- What a module exports, and where it is. -/
structure ModuleGraphExport where
  identity : SceSymbolIdentity
  guestAddress : GuestAddress
  deriving DecidableEq

/-- A module with its dependencies and exports. -/
structure ModuleGraphDeclaration where
  moduleKey : List UInt8
  dependencyKeys : List (List UInt8)
  exports : List ModuleGraphExport
  deriving DecidableEq

/-- Why a graph is refused. -/
inductive ModuleGraphErrorCode where
  | tooManyModules
  | invalidModuleKey
  | duplicateModuleKey
  | tooManyDependencies
  | invalidDependencyKey
  | duplicateDependencyKey
  | tooManyExports
  | invalidExportIdentity
  | invalidExportAddress
  | duplicateExportIdentity
  | hostAllocationFailure
  deriving DecidableEq

/-- A graph that is refused, with the module it is about. -/
structure ModuleGraphError where
  code : ModuleGraphErrorCode
  moduleIndex : ℕ
  recordIndex : Option ℕ := none
  conflictingIndex : Option ℕ := none
  deriving DecidableEq

/-- What a lookup comes to. -/
inductive ModuleGraphResolutionKind where
  | resolved
  | unknownRequester
  | undeclaredDependency
  | providerNotRegistered
  | invalidSymbolIdentity
  | unresolvedExport
  deriving DecidableEq

/-- The result of a lookup. -/
structure ModuleGraphResolution where
  kind : ModuleGraphResolutionKind
  guestAddress : Option GuestAddress
  deriving DecidableEq

/-- The modules of a process, in the order they were declared. -/
structure ModuleGraph where
  modules : List ModuleGraphDeclaration
  deriving DecidableEq

namespace ModuleGraph

/-- The most modules of a graph. -/
def kMaxModuleCount : ℕ := 64

/-- The most dependencies of a module. -/
def kMaxPerModuleDependencies : ℕ := 64

/-- The most exports of a module. -/
def kMaxPerModuleExports : ℕ := 512

/-- The longest key of a module. -/
def kMaxKeyBytes : ℕ := 256

/-- `valid_key`. -/
def validKey (key : List UInt8) : Bool := !key.isEmpty && key.length ≤ kMaxKeyBytes

/-- `valid_identity`. -/
def validIdentity (identity : SceSymbolIdentity) : Bool :=
  identity.nid.length == 11 && validKey identity.libraryId && validKey identity.moduleId

section Create

variable (moduleIndex : ℕ)

/-- One turn of the loop over the dependencies of a module. -/
def checkDependency (dependencyKeys : List (List UInt8)) (place : List UInt8 × ℕ) :
    Except ModuleGraphError Unit := do
  refuseIf (validKey place.1 = false) ⟨.invalidDependencyKey, moduleIndex, some place.2, none⟩
  refuseRepeated id (fun previous =>
    ⟨.duplicateDependencyKey, moduleIndex, some place.2, some previous⟩) dependencyKeys place

/-- One turn of the loop over the exports of a module. -/
def checkExport (exports : List ModuleGraphExport) (place : ModuleGraphExport × ℕ) :
    Except ModuleGraphError Unit := do
  refuseIf (validIdentity place.1.identity = false)
    ⟨.invalidExportIdentity, moduleIndex, some place.2, none⟩
  refuseIf (place.1.guestAddress.value = 0) ⟨.invalidExportAddress, moduleIndex, some place.2, none⟩
  refuseRepeated ModuleGraphExport.identity
    (fun previous => ⟨.duplicateExportIdentity, moduleIndex, some place.2, some previous⟩) exports
      place

end Create

/-- One turn of the loop over the modules. -/
def checkModule (declarations : List ModuleGraphDeclaration) (place : ModuleGraphDeclaration × ℕ) :
    Except ModuleGraphError Unit := do
  refuseIf (validKey place.1.moduleKey = false) ⟨.invalidModuleKey, place.2, none, none⟩
  refuseRepeated ModuleGraphDeclaration.moduleKey
    (fun previous => ⟨.duplicateModuleKey, place.2, none, some previous⟩) declarations place
  refuseIf (place.1.dependencyKeys.length > kMaxPerModuleDependencies)
    ⟨.tooManyDependencies, place.2, none, none⟩
  place.1.dependencyKeys.zipIdx.forM (checkDependency place.2 place.1.dependencyKeys)
  refuseIf (place.1.exports.length > kMaxPerModuleExports) ⟨.tooManyExports, place.2, none, none⟩
  place.1.exports.zipIdx.forM (checkExport place.2 place.1.exports)

/-- `ModuleGraph::create`. -/
def create (host : Host) (declarations : List ModuleGraphDeclaration) :
    Except ModuleGraphError ModuleGraph := do
  refuseIf (declarations.length > kMaxModuleCount)
    ⟨.tooManyModules, declarations.length, none, none⟩
  declarations.zipIdx.forM (checkModule declarations)
  allocate host .moduleGraph ⟨.hostAllocationFailure, 0, none, none⟩
    ⟨.hostAllocationFailure, 0, none, none⟩
  return ⟨declarations⟩

/-- `ModuleGraph::find`. -/
def find (graph : ModuleGraph) (key : List UInt8) : Option ModuleGraphDeclaration :=
  graph.modules.find? fun module => module.moduleKey == key

/-- `ModuleGraph::resolve`. -/
def resolve (graph : ModuleGraph) (requester provider : List UInt8) (identity : SceSymbolIdentity) :
    ModuleGraphResolution :=
  match graph.find requester with
  | none => ⟨.unknownRequester, none⟩
  | some source =>
    if provider ∉ source.dependencyKeys then ⟨.undeclaredDependency, none⟩
    else
      match graph.find provider with
      | none => ⟨.providerNotRegistered, none⟩
      | some target =>
        if validIdentity identity = false then ⟨.invalidSymbolIdentity, none⟩
        else
          match target.exports.find? fun symbol => symbol.identity == identity with
          | some symbol => ⟨.resolved, some symbol.guestAddress⟩
          | none => ⟨.unresolvedExport, none⟩

/-! ### What a graph is made of -/

/-- A declaration that breaks no rule of its own. -/
structure WellFormedModule (module : ModuleGraphDeclaration) : Prop where
  key : validKey module.moduleKey = true
  dependencyCount : module.dependencyKeys.length ≤ kMaxPerModuleDependencies
  dependency : ∀ key ∈ module.dependencyKeys, validKey key = true
  dependencies : module.dependencyKeys.Nodup
  exportCount : module.exports.length ≤ kMaxPerModuleExports
  exported : ∀ symbol ∈ module.exports, validIdentity symbol.identity = true ∧
    symbol.guestAddress.value ≠ 0
  exports : (module.exports.map ModuleGraphExport.identity).Nodup

/-- Declarations that break no rule. -/
structure WellFormedDeclarations (declarations : List ModuleGraphDeclaration) : Prop where
  count : declarations.length ≤ kMaxModuleCount
  module : ∀ module ∈ declarations, WellFormedModule module
  keys : (declarations.map ModuleGraphDeclaration.moduleKey).Nodup

section WellFormed

variable {host : Host} {declarations : List ModuleGraphDeclaration} {graph : ModuleGraph}
  {moduleIndex : ℕ}

theorem checkDependencies_eq_ok {dependencyKeys : List (List UInt8)} :
    dependencyKeys.zipIdx.forM (checkDependency moduleIndex dependencyKeys) = .ok () ↔
      (∀ key ∈ dependencyKeys, validKey key = true) ∧ dependencyKeys.Nodup := by
  have hturn : ∀ place, checkDependency moduleIndex dependencyKeys place = .ok () ↔
      validKey place.1 = true ∧ refuseRepeated id
        (fun previous =>
          (⟨.duplicateDependencyKey, moduleIndex, some place.2, some previous⟩ : ModuleGraphError))
        dependencyKeys place = .ok () := by
    intro place
    simp only [checkDependency, check_bind_eq_ok, refuseIf_eq_ok, Bool.not_eq_false]
  have hall := @forM_distinct_eq_ok _ _ _ _ id
    (fun place previous =>
      (⟨.duplicateDependencyKey, moduleIndex, some place.2, some previous⟩ : ModuleGraphError))
    (checkDependency moduleIndex dependencyKeys)
      (fun key => validKey key = true) dependencyKeys hturn
  rw [hall, List.map_id]

theorem checkExports_eq_ok {exports : List ModuleGraphExport} :
    exports.zipIdx.forM (checkExport moduleIndex exports) = .ok () ↔
      (∀ symbol ∈ exports, validIdentity symbol.identity = true ∧ symbol.guestAddress.value ≠ 0) ∧
        (exports.map ModuleGraphExport.identity).Nodup := by
  have hturn : ∀ place, checkExport moduleIndex exports place = .ok () ↔
      (validIdentity place.1.identity = true ∧ place.1.guestAddress.value ≠ 0) ∧
        refuseRepeated ModuleGraphExport.identity
        (fun previous =>
          (⟨.duplicateExportIdentity, moduleIndex, some place.2, some previous⟩ : ModuleGraphError))
        exports place = .ok () := by
    intro place
    simp only [checkExport, check_bind_eq_ok, refuseIf_eq_ok, Bool.not_eq_false, and_assoc]
  exact forM_distinct_eq_ok hturn

theorem checkModules_eq_ok :
    declarations.zipIdx.forM (checkModule declarations) = .ok () ↔
      (∀ module ∈ declarations, WellFormedModule module) ∧
        (declarations.map ModuleGraphDeclaration.moduleKey).Nodup := by
  have hturn : ∀ place, checkModule declarations place = .ok () ↔
      WellFormedModule place.1 ∧ refuseRepeated ModuleGraphDeclaration.moduleKey
        (fun previous => (⟨.duplicateModuleKey, place.2, none, some previous⟩ : ModuleGraphError))
          declarations place = .ok () := by
    intro place
    simp only [checkModule, check_bind_eq_ok, refuseIf_eq_ok, Bool.not_eq_false, gt_iff_lt, not_lt,
      checkDependencies_eq_ok, checkExports_eq_ok]
    constructor
    · rintro ⟨hkey, hrepeated, hdependencyCount, ⟨hdependency, hdependencies⟩, hexportCount,
        hexported, hexports⟩
      exact ⟨⟨hkey, hdependencyCount, hdependency, hdependencies, hexportCount, hexported,
        hexports⟩, hrepeated⟩
    · rintro ⟨⟨hkey, hdependencyCount, hdependency, hdependencies, hexportCount, hexported,
        hexports⟩, hrepeated⟩
      exact ⟨hkey, hrepeated, hdependencyCount, ⟨hdependency, hdependencies⟩, hexportCount,
        hexported, hexports⟩
  exact forM_distinct_eq_ok hturn

/-- **A graph is made of declarations that break no rule.** -/
theorem create_eq_ok_iff :
    create host declarations = .ok graph ↔
      WellFormedDeclarations declarations ∧ host.allocation .moduleGraph = none ∧
      graph = ⟨declarations⟩ := by
  simp only [create, check_bind_eq_ok, refuseIf_eq_ok, allocate_eq_ok, pure_eq_ok, gt_iff_lt,
    not_lt, checkModules_eq_ok]
  constructor
  · rintro ⟨hcount, ⟨hmodule, hkeys⟩, hhost, rfl⟩
    exact ⟨⟨hcount, hmodule, hkeys⟩, hhost, rfl⟩
  · rintro ⟨⟨hcount, hmodule, hkeys⟩, hhost, rfl⟩
    exact ⟨hcount, ⟨hmodule, hkeys⟩, hhost, rfl⟩

theorem exists_create_eq_ok_iff :
    (∃ graph, create host declarations = .ok graph) ↔
      WellFormedDeclarations declarations ∧ host.allocation .moduleGraph = none := by
  simp only [create_eq_ok_iff]
  exact ⟨fun ⟨_, hwell, hhost, _⟩ => ⟨hwell, hhost⟩, fun ⟨hwell, hhost⟩ => ⟨_, hwell, hhost, rfl⟩⟩

/-- What is found wrong with a module is a rule that it breaks. -/
theorem leavesWith_checkModule (place : ModuleGraphDeclaration × ℕ) :
    LeavesWith (fun e => e.code ≠ .hostAllocationFailure) (checkModule declarations place) := by
  have hdependency : ∀ dependency ∈ place.1.dependencyKeys.zipIdx,
    LeavesWith (fun e => e.code ≠ .hostAllocationFailure)
      (checkDependency place.2 place.1.dependencyKeys dependency) := fun dependency _ =>
    (leavesWith_refuseIf (by simp)).bind fun _ _ => leavesWith_refuseRepeated (by simp)
  have hexport : ∀ symbol ∈ place.1.exports.zipIdx,
    LeavesWith (fun e => e.code ≠ .hostAllocationFailure)
      (checkExport place.2 place.1.exports symbol) := fun symbol _ =>
    (leavesWith_refuseIf (by simp)).bind fun _ _ => (leavesWith_refuseIf (by simp)).bind fun _ _ =>
      leavesWith_refuseRepeated (by simp)
  refine (leavesWith_refuseIf (by simp)).bind fun _ _ =>
    (leavesWith_refuseRepeated (by simp)).bind fun _ _ => ?_
  refine (leavesWith_refuseIf (by simp)).bind fun _ _ =>
    (leavesWith_forM hdependency).bind fun _ _ => ?_
  exact (leavesWith_refuseIf (by simp)).bind fun _ _ => leavesWith_forM hexport

/-- **Declarations that break a rule are refused for that**, whether the host has memory or not. -/
theorem create_refuses_iff :
    (∃ e, create host declarations = .error e ∧ e.code ≠ .hostAllocationFailure) ↔
      ¬ WellFormedDeclarations declarations := by
  constructor
  · rintro ⟨e, herror, hcode⟩ hwell
    have hchecked := checkModules_eq_ok.mpr ⟨hwell.module, hwell.keys⟩
    rw [create, refuseIf_of_not (Nat.not_lt_of_le hwell.count), ok_bind, hchecked, ok_bind,
      allocate] at herror
    split at herror <;> cases herror <;> exact hcode rfl
  · intro hbroken
    rw [create]
    by_cases hcount : declarations.length > kMaxModuleCount
    · exact ⟨_, bind_eq_error.mpr (.inl (refuseIf_eq_error.mpr ⟨hcount, rfl⟩)), by simp⟩
    · rw [refuseIf_of_not hcount, ok_bind]
      cases hchecked : declarations.zipIdx.forM (checkModule declarations) with
      | error e => exact ⟨e, rfl,
          leavesWith_forM (fun place _ => leavesWith_checkModule place) e hchecked⟩
      | ok u =>
        obtain ⟨hmodule, hkeys⟩ := checkModules_eq_ok.mp hchecked
        exact absurd ⟨Nat.le_of_not_lt hcount, hmodule, hkeys⟩ hbroken

end WellFormed

/-! ### What resolving finds -/

/-- The declarations say that the requester depends on the provider, and that the provider exports
the identity there. -/
def Declares (declarations : List ModuleGraphDeclaration) (requester provider : List UInt8)
    (identity : SceSymbolIdentity) (guestAddress : GuestAddress) : Prop :=
  ∃ source ∈ declarations, source.moduleKey = requester ∧ provider ∈ source.dependencyKeys ∧
    ∃ target ∈ declarations, target.moduleKey = provider ∧ ⟨identity, guestAddress⟩ ∈ target.exports

/-- The same declaration with its dependencies and its exports in another order. -/
structure RearrangedModule (module module' : ModuleGraphDeclaration) : Prop where
  key : module.moduleKey = module'.moduleKey
  dependencies : module.dependencyKeys.Perm module'.dependencyKeys
  exports : module.exports.Perm module'.exports

/-- The same declarations in another order, and each of them too. -/
def Rearranged (declarations declarations' : List ModuleGraphDeclaration) : Prop :=
  ∃ between, declarations.Perm between ∧ List.Forall₂ RearrangedModule between declarations'

section Resolve

variable {declarations declarations' : List ModuleGraphDeclaration}
  {module module' : ModuleGraphDeclaration} {requester provider key : List UInt8}
  {identity : SceSymbolIdentity} {guestAddress guestAddress' : GuestAddress}

theorem WellFormedDeclarations.find_eq_some (h : WellFormedDeclarations declarations) :
    find ⟨declarations⟩ key = some module ↔ module ∈ declarations ∧ module.moduleKey = key := by
  rw [find]
  exact find?_key_eq_some h.keys

/-- **Resolving is a lookup among the declarations.** -/
theorem WellFormedDeclarations.resolve_eq_resolved_iff (h : WellFormedDeclarations declarations) :
    resolve ⟨declarations⟩ requester provider identity = ⟨.resolved, some guestAddress⟩ ↔
      Declares declarations requester provider identity guestAddress := by
  constructor
  · intro hresolve
    rw [resolve] at hresolve
    cases hsource : find ⟨declarations⟩ requester with
    | none =>
      rw [hsource] at hresolve
      cases hresolve
    | some source =>
      obtain ⟨hsourceMem, hsourceKey⟩ := h.find_eq_some.mp hsource
      rw [hsource] at hresolve
      by_cases hdependency : provider ∉ source.dependencyKeys
      · simp only [if_pos hdependency] at hresolve
        cases hresolve
      simp only [if_neg hdependency] at hresolve
      cases htarget : find ⟨declarations⟩ provider with
      | none =>
        rw [htarget] at hresolve
        cases hresolve
      | some target =>
        obtain ⟨htargetMem, htargetKey⟩ := h.find_eq_some.mp htarget
        rw [htarget] at hresolve
        by_cases hvalid : validIdentity identity = false
        · simp only [if_pos hvalid] at hresolve
          cases hresolve
        simp only [if_neg hvalid] at hresolve
        cases hsymbol : target.exports.find? fun symbol => symbol.identity == identity with
        | none =>
          rw [hsymbol] at hresolve
          cases hresolve
        | some symbol =>
          rw [hsymbol] at hresolve
          cases hresolve
          obtain ⟨hmem, rfl⟩ := (find?_key_eq_some (h.module target htargetMem).exports).mp hsymbol
          exact ⟨source, hsourceMem, hsourceKey, not_not.mp hdependency, target, htargetMem,
            htargetKey, hmem⟩
  · rintro ⟨source, hsourceMem, hsourceKey, hdependency, target, htargetMem, htargetKey, hmem⟩
    have hmodule := h.module target htargetMem
    have hsymbol : (target.exports.find? fun symbol => symbol.identity == identity) =
        some ⟨identity, guestAddress⟩ :=
      (find?_key_eq_some hmodule.exports).mpr ⟨hmem, rfl⟩
    have hvalid : validIdentity identity = true := (hmodule.exported _ hmem).1
    rw [resolve, h.find_eq_some.mpr ⟨hsourceMem, hsourceKey⟩]
    simp only [hdependency, h.find_eq_some.mpr ⟨htargetMem, htargetKey⟩, hvalid, hsymbol,
      not_true_eq_false, if_false, Bool.true_eq_false]

/-- An identity has one address in a module, and it is not zero. -/
theorem WellFormedDeclarations.guestAddress_eq (h : WellFormedDeclarations declarations)
    (hdeclares : Declares declarations requester provider identity guestAddress)
    (hdeclares' : Declares declarations requester provider identity guestAddress') :
    guestAddress.value ≠ 0 ∧ guestAddress' = guestAddress := by
  obtain ⟨-, -, -, -, target, htarget, hkey, hexport⟩ := hdeclares
  obtain ⟨-, -, -, -, target', htarget', hkey', hexport'⟩ := hdeclares'
  have hsame : target' = target :=
    List.inj_on_of_nodup_map h.keys htarget' htarget (hkey'.trans hkey.symm)
  subst hsame
  have hmodule := h.module target' htarget
  refine ⟨(hmodule.exported _ hexport).2, ?_⟩
  exact congrArg ModuleGraphExport.guestAddress
    (List.inj_on_of_nodup_map hmodule.exports hexport' hexport rfl)

theorem RearrangedModule.symm (h : RearrangedModule module module') :
    RearrangedModule module' module :=
  ⟨h.key.symm, h.dependencies.symm, h.exports.symm⟩

theorem RearrangedModule.wellFormed (h : RearrangedModule module module')
    (hwell : WellFormedModule module) :
    WellFormedModule module' where
  key := h.key ▸ hwell.key
  dependencyCount := h.dependencies.length_eq ▸ hwell.dependencyCount
  dependency key hkey := hwell.dependency key (h.dependencies.mem_iff.mpr hkey)
  dependencies := h.dependencies.nodup_iff.mp hwell.dependencies
  exportCount := h.exports.length_eq ▸ hwell.exportCount
  exported symbol hsymbol := hwell.exported symbol (h.exports.mem_iff.mpr hsymbol)
  exports := (h.exports.map _).nodup_iff.mp hwell.exports

section

variable (h : Rearranged declarations declarations')

include h

theorem Rearranged.exists_mem :
    (∀ module ∈ declarations, ∃ module' ∈ declarations', RearrangedModule module module') ∧
      ∀ module' ∈ declarations', ∃ module ∈ declarations, RearrangedModule module module' := by
  obtain ⟨between, hperm, hmodules⟩ := h
  obtain ⟨hleft, hright⟩ := exists_mem_of_forall₂ hmodules
  refine ⟨fun module hmodule => hleft module (hperm.mem_iff.mp hmodule), fun module' hmodule' => ?_⟩
  obtain ⟨module, hmodule, hrearranged⟩ := hright module' hmodule'
  exact ⟨module, hperm.mem_iff.mpr hmodule, hrearranged⟩

theorem Rearranged.keys :
    (declarations.map ModuleGraphDeclaration.moduleKey).Perm
      (declarations'.map ModuleGraphDeclaration.moduleKey) := by
  obtain ⟨between, hperm, hmodules⟩ := h
  have hsame : between.map ModuleGraphDeclaration.moduleKey =
      declarations'.map ModuleGraphDeclaration.moduleKey := by
    rw [← List.forall₂_eq_eq_eq, List.forall₂_map_left_iff, List.forall₂_map_right_iff]
    exact hmodules.imp fun _ _ hmodule => hmodule.key
  exact hsame ▸ hperm.map _

theorem Rearranged.wellFormed (hwell : WellFormedDeclarations declarations) :
    WellFormedDeclarations declarations' where
  count := by
    have hlength := h.keys.length_eq
    rw [List.length_map, List.length_map] at hlength
    exact hlength ▸ hwell.count
  module module' hmodule' := by
    obtain ⟨module, hmodule, hrearranged⟩ := h.exists_mem.2 module' hmodule'
    exact hrearranged.wellFormed (hwell.module module hmodule)
  keys := h.keys.nodup_iff.mp hwell.keys

theorem Rearranged.symm : Rearranged declarations' declarations := by
  obtain ⟨between, hperm, hmodules⟩ := h
  obtain ⟨between', hmodules', hperm'⟩ := List.perm_comp_forall₂ hperm hmodules
  exact ⟨between', hperm'.symm, hmodules'.flip.imp fun _ _ hmodule => hmodule.symm⟩

theorem Rearranged.find (hwell : WellFormedDeclarations declarations) (key : List UInt8) :
    ModuleGraph.find ⟨declarations⟩ key = none ∧ ModuleGraph.find ⟨declarations'⟩ key = none ∨
      ∃ module ∈ declarations, ∃ module', RearrangedModule module module' ∧
        ModuleGraph.find ⟨declarations⟩ key = some module ∧
        ModuleGraph.find ⟨declarations'⟩ key = some module' := by
  cases hfind : ModuleGraph.find ⟨declarations⟩ key with
  | none =>
    refine .inl ⟨rfl, ?_⟩
    by_contra hsome
    obtain ⟨module', hfind'⟩ := Option.ne_none_iff_exists'.mp hsome
    obtain ⟨hmem', hkey'⟩ := (h.wellFormed hwell).find_eq_some.mp hfind'
    obtain ⟨module, hmem, hrearranged⟩ := h.exists_mem.2 module' hmem'
    rw [hwell.find_eq_some.mpr ⟨hmem, hrearranged.key.trans hkey'⟩] at hfind
    cases hfind
  | some module =>
    obtain ⟨hmem, hkey⟩ := hwell.find_eq_some.mp hfind
    obtain ⟨module', hmem', hrearranged⟩ := h.exists_mem.1 module hmem
    have hfind' := (h.wellFormed hwell).find_eq_some.mpr ⟨hmem', hrearranged.key.symm.trans hkey⟩
    exact .inr ⟨module, hmem, module', hrearranged, rfl, hfind'⟩

/-- **Resolving depends on no order.** -/
theorem Rearranged.resolve (hwell : WellFormedDeclarations declarations)
    (requester provider : List UInt8) (identity : SceSymbolIdentity) :
    ModuleGraph.resolve ⟨declarations'⟩ requester provider identity =
      ModuleGraph.resolve ⟨declarations⟩ requester provider identity := by
  rw [ModuleGraph.resolve, ModuleGraph.resolve]
  obtain ⟨hsource, hsource'⟩ | ⟨source, -, source', hsources, hsource, hsource'⟩ :=
    h.find hwell requester
  · rw [hsource, hsource']
  · rw [hsource, hsource']
    simp only [hsources.dependencies.mem_iff]
    obtain ⟨htarget, htarget'⟩ | ⟨target, hmem, target', htargets, htarget, htarget'⟩ :=
      h.find hwell provider
    · rw [htarget, htarget']
    · rw [htarget, htarget']
      simp only [find?_key_eq_of_perm htargets.exports (hwell.module target hmem).exports]

end

end Resolve

/-! ### The graph of a list of declarations -/

/-- **A module graph is a lookup that depends on no order.** It is made of any declarations that
break no rule. What `resolve` finds is what the declarations say: the one address, not zero, at
which a module that the requester depends on exports the identity. Declarations in another order
make a graph too, or fail to, and it resolves alike. -/
theorem moduleGraph_lookup (host : Host) (declarations : List ModuleGraphDeclaration) :
    ((∃ graph, create host declarations = .ok graph) ↔
      WellFormedDeclarations declarations ∧ host.allocation .moduleGraph = none) ∧
    ((∃ e, create host declarations = .error e ∧ e.code ≠ .hostAllocationFailure) ↔
      ¬ WellFormedDeclarations declarations) ∧
    (∀ graph, create host declarations = .ok graph → ∀ requester provider identity,
      (∀ guestAddress, graph.resolve requester provider identity = ⟨.resolved, some guestAddress⟩ ↔
        Declares declarations requester provider identity guestAddress) ∧
      ∀ guestAddress guestAddress', Declares declarations requester provider identity guestAddress →
        Declares declarations requester provider identity guestAddress' →
          guestAddress.value ≠ 0 ∧ guestAddress' = guestAddress) ∧
    ∀ declarations', Rearranged declarations declarations' →
      ((∃ graph, create host declarations = .ok graph) ↔
        ∃ graph', create host declarations' = .ok graph') ∧
      ∀ graph graph', create host declarations = .ok graph →
        create host declarations' = .ok graph' →
        ∀ requester provider identity,
          graph'.resolve requester provider identity =
            graph.resolve requester provider identity := by
  refine ⟨exists_create_eq_ok_iff, create_refuses_iff,
    fun graph hgraph requester provider identity => ?_, fun declarations' hrearranged =>
    ⟨?_, fun graph graph' hgraph hgraph' => ?_⟩⟩
  · obtain ⟨hwell, -, rfl⟩ := create_eq_ok_iff.mp hgraph
    exact ⟨fun guestAddress => hwell.resolve_eq_resolved_iff, fun guestAddress guestAddress' =>
      hwell.guestAddress_eq⟩
  · rw [exists_create_eq_ok_iff, exists_create_eq_ok_iff]
    exact and_congr_left fun _ => ⟨hrearranged.wellFormed, hrearranged.symm.wellFormed⟩
  · obtain ⟨hwell, -, rfl⟩ := create_eq_ok_iff.mp hgraph
    obtain ⟨-, -, rfl⟩ := create_eq_ok_iff.mp hgraph'
    exact hrearranged.resolve hwell

/-- Two modules, of which the first imports from the second. -/
def sampleDeclarations : List ModuleGraphDeclaration :=
  [⟨[0x61], [[0x62]], []⟩, ⟨[0x62], [], [⟨⟨List.replicate 11 0x6e, [0x6c], [0x6d]⟩, ⟨0x1000⟩⟩]⟩]

/-- The second module resolves for the first, in either order of the two. -/
theorem moduleGraph_lookup_sample :
    resolve ⟨sampleDeclarations⟩ [0x61] [0x62] ⟨List.replicate 11 0x6e, [0x6c], [0x6d]⟩ =
      ⟨.resolved, some ⟨0x1000⟩⟩ ∧
      resolve ⟨sampleDeclarations.reverse⟩ [0x61] [0x62] ⟨List.replicate 11 0x6e, [0x6c], [0x6d]⟩ =
        ⟨.resolved, some ⟨0x1000⟩⟩ := by
  have hgraph : create Host.plentiful sampleDeclarations = .ok ⟨sampleDeclarations⟩ := rfl
  have hgraph' : create Host.plentiful sampleDeclarations.reverse =
    .ok ⟨sampleDeclarations.reverse⟩ := rfl
  obtain ⟨-, -, hresolve, horder⟩ := moduleGraph_lookup Host.plentiful sampleDeclarations
  have hrearranged : Rearranged sampleDeclarations sampleDeclarations.reverse :=
    ⟨sampleDeclarations.reverse, (List.reverse_perm _).symm,
      List.forall₂_same.mpr fun module _ => ⟨rfl, List.Perm.refl _, List.Perm.refl _⟩⟩
  have hfound :=
    ((hresolve _ hgraph [0x61] [0x62] ⟨List.replicate 11 0x6e, [0x6c], [0x6d]⟩).1 ⟨0x1000⟩).mpr
    ⟨⟨[0x61], [[0x62]], []⟩, by simp [sampleDeclarations], rfl, by simp,
      ⟨[0x62], [], [⟨⟨List.replicate 11 0x6e, [0x6c], [0x6d]⟩, ⟨0x1000⟩⟩]⟩, by
        simp [sampleDeclarations], rfl, by simp⟩
  exact ⟨hfound, ((horder _ hrearranged).2 _ _ hgraph hgraph' _ _ _).trans hfound⟩

end ModuleGraph

/-! ### Imports from modules -/

/-- Why an import cannot be planned. -/
inductive ModuleGraphImportPlanErrorCode where
  | symbolIndexMismatch
  | symbolNotUndefined
  | missingSceIdentity
  | moduleResolutionFailure
  | hostAllocationFailure
  deriving DecidableEq

/-- An import that cannot be planned. -/
structure ModuleGraphImportPlanError where
  code : ModuleGraphImportPlanErrorCode
  relocationSymbolIndex : UInt32
  dynamicSymbolRecordIndex : UInt64
  resolutionFailure : Option ModuleGraphResolutionKind := none
  deriving DecidableEq

/-- An import that was resolved in the graph. -/
structure ModuleGraphImportPlan where
  tableKind : RelocationTableKind
  tableIndex : UInt64
  relocationTarget : GuestAddress
  rawRelocationType : UInt32
  rawAddend : Option Int64
  symbolIndex : UInt32
  symbolBinding : UInt8
  providerKey : List UInt8
  symbolIdentity : SceSymbolIdentity
  providerGuestAddress : GuestAddress
  deriving DecidableEq

/-- `make_error`. -/
def moduleGraphImportError (relocation : DynamicRelocation) (symbol : SceDynamicSymbolRecord)
    (code : ModuleGraphImportPlanErrorCode) (resolution : Option ModuleGraphResolutionKind) :
    ModuleGraphImportPlanError :=
  ⟨code, relocation.symbolIndex, symbol.symbol.index, resolution⟩

/-- The address of a resolution that is resolved and has one. -/
def ModuleGraphResolution.address (resolution : ModuleGraphResolution) : Option GuestAddress :=
  if resolution.kind ≠ .resolved then none else resolution.guestAddress

theorem ModuleGraphResolution.address_eq_some {resolution : ModuleGraphResolution}
    {address : GuestAddress} :
    resolution.address = some address ↔ resolution = ⟨.resolved, some address⟩ := by
  obtain ⟨kind, guestAddress⟩ := resolution
  rw [ModuleGraphResolution.address, ModuleGraphResolution.mk.injEq]
  by_cases hkind : kind = .resolved
  · rw [if_neg (not_not.mpr hkind)]
    exact ⟨fun h => ⟨hkind, h⟩, fun h => h.2⟩
  · rw [if_pos hkind]
    exact ⟨fun h => (by cases h), fun h => absurd h.1 hkind⟩

/-- `plan_module_graph_import`. -/
def planModuleGraphImport (host : Host) (relocation : DynamicRelocation)
    (symbol : SceDynamicSymbolRecord) (graph : ModuleGraph)
    (requesterKey providerKey : List UInt8) :
    Except ModuleGraphImportPlanError ModuleGraphImportPlan := do
  refuseIf (relocation.symbolIndex.toUInt64 ≠ symbol.symbol.index)
    (moduleGraphImportError relocation symbol .symbolIndexMismatch none)
  refuseIf (symbol.symbol.sectionIndexRaw ≠ 0)
    (moduleGraphImportError relocation symbol .symbolNotUndefined none)
  let identity ← orRefuse symbol.name.identity
    (moduleGraphImportError relocation symbol .missingSceIdentity none)
  let resolved := graph.resolve requesterKey providerKey identity
  let address ← orRefuse resolved.address
    (moduleGraphImportError relocation symbol .moduleResolutionFailure (some resolved.kind))
  allocate host .moduleGraphImport
    (moduleGraphImportError relocation symbol .hostAllocationFailure none)
    (moduleGraphImportError relocation symbol .hostAllocationFailure none)
  return {
    tableKind := relocation.tableKind
    tableIndex := relocation.tableIndex
    relocationTarget := relocation.target
    rawRelocationType := relocation.relocationType
    rawAddend := relocation.addend
    symbolIndex := relocation.symbolIndex
    symbolBinding := symbol.symbol.binding
    providerKey := providerKey
    symbolIdentity := identity
    providerGuestAddress := address }

/-- **A plan has the address that the declarations say**: where the provider, on which the requester
depends, exports the identity that the symbol is named by. -/
theorem planModuleGraphImport_eq_ok {host host' : Host} {relocation : DynamicRelocation}
    {symbol : SceDynamicSymbolRecord} {declarations : List ModuleGraphDeclaration}
    {graph : ModuleGraph} {requesterKey providerKey : List UInt8} {plan : ModuleGraphImportPlan}
    (hgraph : ModuleGraph.create host' declarations = .ok graph)
    (h : planModuleGraphImport host relocation symbol graph requesterKey providerKey = .ok plan) :
    plan.relocationTarget = relocation.target ∧ symbol.name.identity = some plan.symbolIdentity ∧
      ModuleGraph.Declares declarations requesterKey providerKey plan.symbolIdentity
        plan.providerGuestAddress := by
  obtain ⟨hwell, -, rfl⟩ := ModuleGraph.create_eq_ok_iff.mp hgraph
  simp only [planModuleGraphImport, bind_eq_ok, refuseIf_eq_ok, orRefuse_eq_ok, not_not, pure_eq_ok]
    at h
  obtain ⟨-, -, -, -, identity, hidentity, address, haddress, -, -, rfl⟩ := h
  exact ⟨rfl, hidentity,
    hwell.resolve_eq_resolved_iff.mp (ModuleGraphResolution.address_eq_some.mp haddress)⟩

end Astraea.Execution
