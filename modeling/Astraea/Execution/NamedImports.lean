import Astraea.Execution.ModuleGraph
import Astraea.Execution.SceImports

/-!
# Identities stand for names

Exports of modules and functions of the host are found by what a name says, not by the name.
`names_stand_for_themselves` is why nothing is lost in that: a name says at most one thing and
two names do not say the same, so a lookup by what a name says finds what was entered under
exactly that name.
-/

namespace Astraea.Execution

open Astraea.Base Astraea.Core Astraea.Memory Astraea.Loader

/-- The name was parsed, and says what is imported. -/
def Says (host : Host) (name : List UInt8) (identity : SceSymbolIdentity) : Prop :=
  parseSceDynamicSymbolName host name = .ok ⟨name, some identity⟩

/-- Entries that were made under names, each with the identity that its name says. -/
def EntersNames {α β : Type} (host : Host) (identity : β → SceSymbolIdentity) (value : β → α)
    (named : List (List UInt8 × α)) (entries : List β) : Prop :=
  List.Forall₂ (fun (pair : List UInt8 × α) entry => Says host pair.1 (identity entry) ∧
    pair.2 = value entry) named entries

section Names

variable {host : Host} {name name' : List UInt8} {identity identity' : SceSymbolIdentity}

/-- **Two names say the same only if they are the same.** -/
theorem Says.eq_iff (h : Says host name identity) (h' : Says host name' identity') :
    identity = identity' ↔ name = name' := by
  obtain ⟨-, hname, -⟩ := parseSceDynamicSymbolName_eq_ok_iff.mp h
  obtain ⟨-, hname', -⟩ := parseSceDynamicSymbolName_eq_ok_iff.mp h'
  constructor
  · rintro rfl
    exact hname.raw_eq hname'
  · rintro rfl
    exact Option.some.inj (hname.unique hname')

variable {α β : Type} {entryIdentity : β → SceSymbolIdentity} {value : β → α}
  {named : List (List UInt8 × α)} {entries : List β}

/-- What is entered under an identity is what was entered under the name that says it. -/
theorem EntersNames.mem_iff (h : EntersNames host entryIdentity value named entries)
    (hname : Says host name identity) {a : α} :
    (∃ entry ∈ entries, entryIdentity entry = identity ∧ value entry = a) ↔ (name, a) ∈ named := by
  obtain ⟨hleft, hright⟩ := exists_mem_of_forall₂ h
  constructor
  · rintro ⟨entry, hentry, rfl, rfl⟩
    obtain ⟨⟨name', a⟩, hpair, htells, rfl⟩ := hright entry hentry
    rw [(hname.eq_iff htells).mp rfl]
    exact hpair
  · intro hpair
    obtain ⟨entry, hentry, htells, rfl⟩ := hleft _ hpair
    exact ⟨entry, hentry, (htells.eq_iff hname).mpr rfl, rfl⟩

/-- Names that are not given twice are not taken for the same. -/
theorem EntersNames.nodup_iff (h : EntersNames host entryIdentity value named entries) :
    (entries.map entryIdentity).Nodup ↔ (named.map Prod.fst).Nodup := by
  induction h with
  | nil => simp
  | @cons pair entry named entries hpair hrest ih =>
    rw [List.map_cons, List.map_cons, List.nodup_cons, List.nodup_cons, ih]
    refine and_congr_left fun _ => not_congr ?_
    rw [List.mem_map, List.mem_map]
    constructor
    · rintro ⟨entry', hentry', heq⟩
      exact ⟨(pair.1, value entry'),
        (EntersNames.mem_iff hrest hpair.1).mp ⟨entry', hentry', heq, rfl⟩, rfl⟩
    · rintro ⟨⟨name', a⟩, hmem, rfl⟩
      obtain ⟨entry', hentry', hidentity, -⟩ := (EntersNames.mem_iff hrest hpair.1).mpr hmem
      exact ⟨entry', hentry', hidentity⟩

/-- The exports of a module are found under the names they were entered under. -/
theorem resolve_named {host' : Host} {declarations : List ModuleGraphDeclaration}
    {graph : ModuleGraph} (hgraph : ModuleGraph.create host' declarations = .ok graph)
    {target : ModuleGraphDeclaration} (htarget : target ∈ declarations)
    {exported : List (List UInt8 × GuestAddress)}
    (hexports : EntersNames host ModuleGraphExport.identity ModuleGraphExport.guestAddress exported
      target.exports) (hname : Says host name identity) (requester : List UInt8)
    (guestAddress : GuestAddress) :
    graph.resolve requester target.moduleKey identity = ⟨.resolved, some guestAddress⟩ ↔
      (∃ source ∈ declarations, source.moduleKey = requester ∧
        target.moduleKey ∈ source.dependencyKeys) ∧
        (name, guestAddress) ∈ exported := by
  obtain ⟨hwell, -, rfl⟩ := ModuleGraph.create_eq_ok_iff.mp hgraph
  rw [hwell.resolve_eq_resolved_iff, ← hexports.mem_iff hname]
  constructor
  · rintro ⟨source, hsource, hkey, hdependency, target', htarget', hkey', hmem⟩
    rw [List.inj_on_of_nodup_map hwell.keys htarget' htarget hkey'] at hmem
    exact ⟨⟨source, hsource, hkey, hdependency⟩, _, hmem, rfl, rfl⟩
  · rintro ⟨⟨source, hsource, hkey, hdependency⟩, symbol, hsymbol, rfl, rfl⟩
    exact ⟨source, hsource, hkey, hdependency, target, htarget, rfl, hsymbol⟩

/-- The functions of the host are found under the names they were bound under. -/
theorem function_named {host' : Host} {hleRegistry : HleRegistry} {bindings : List SceImportBinding}
    {registry : SceImportBindingRegistry}
    (hcreate : SceImportBindingRegistry.create host' hleRegistry bindings = .ok registry)
    {bound : List (List UInt8 × HleFunctionId)}
    (hbindings : EntersNames host SceImportBinding.identity SceImportBinding.functionId bound
      bindings) (hname : Says host name identity) (functionId : HleFunctionId) :
    (registry.resolve identity).function = some functionId ↔ (name, functionId) ∈ bound := by
  obtain ⟨hwell, rfl⟩ := SceImportBindingRegistry.create_eq_ok hcreate
  rw [hwell.function_eq_some, ← hbindings.mem_iff hname]
  constructor
  · intro hmem
    exact ⟨_, hmem, rfl, rfl⟩
  · rintro ⟨binding, hmem, rfl, rfl⟩
    exact hmem

end Names

/-- **Names stand for themselves.** A name is parsed if it is one, and refused if it is none. A name
says one thing and no two names say the same; so names are not merged where modules and functions of
the host are entered by what their names say, and a lookup finds what was entered under the very
name. -/
theorem names_stand_for_themselves (host : Host) :
    (∀ raw name, parseSceDynamicSymbolName host raw = .ok name ↔
      name.raw = raw ∧ SceName raw name.identity ∧ host.allocation .symbolName = none) ∧
    (∀ raw, (∃ e, parseSceDynamicSymbolName host raw = .error e ∧ e.code ≠ .hostAllocationFailure) ↔
      ¬ ∃ said, SceName raw said) ∧
    (∀ raw said said', SceName raw said → SceName raw said' → said = said') ∧
    (∀ raw raw' identity, SceName raw (some identity) → SceName raw' (some identity) → raw = raw') ∧
    (∀ exported exports, EntersNames host ModuleGraphExport.identity ModuleGraphExport.guestAddress
      exported exports → ((exports.map ModuleGraphExport.identity).Nodup ↔
      (exported.map Prod.fst).Nodup)) ∧
    (∀ host' declarations graph, ModuleGraph.create host' declarations = .ok graph →
      ∀ target ∈ declarations, ∀ exported,
      EntersNames host ModuleGraphExport.identity ModuleGraphExport.guestAddress exported
      target.exports → ∀ name identity, Says host name identity →
    ∀ requester guestAddress,
      (graph.resolve requester target.moduleKey identity = ⟨.resolved, some guestAddress⟩ ↔
      (∃ source ∈ declarations, source.moduleKey = requester ∧
      target.moduleKey ∈ source.dependencyKeys) ∧ (name, guestAddress) ∈ exported)) ∧
    (∀ bound bindings, EntersNames host SceImportBinding.identity SceImportBinding.functionId bound
      bindings → ((bindings.map SceImportBinding.identity).Nodup ↔ (bound.map Prod.fst).Nodup)) ∧
    ∀ host' hleRegistry bindings registry,
      SceImportBindingRegistry.create host' hleRegistry bindings = .ok registry →
      ∀ bound, EntersNames host SceImportBinding.identity SceImportBinding.functionId bound
        bindings →
      ∀ name identity, Says host name identity → ∀ functionId,
        ((registry.resolve identity).function = some functionId ↔ (name, functionId) ∈ bound) :=
  ⟨fun _ _ => parseSceDynamicSymbolName_eq_ok_iff, fun _ => parseSceDynamicSymbolName_refuses_iff,
    fun _ _ _ h h' => h.unique h', fun _ _ _ h h' => h.raw_eq h', fun _ _ h => h.nodup_iff,
    fun _ _ _ hgraph _ htarget _ hexports _ _ hname requester guestAddress =>
      resolve_named hgraph htarget hexports hname requester guestAddress,
    fun _ _ h => h.nodup_iff,
    fun _ _ _ _ hcreate _ hbindings _ _ hname functionId =>
      function_named hcreate hbindings hname functionId⟩

/-- The name `nnnnnnnnnnn#l#m` says what the sample exports, and is resolved to where it is
exported. -/
theorem names_stand_for_themselves_sample :
    ModuleGraph.resolve ⟨ModuleGraph.sampleDeclarations⟩ [0x61] [0x62]
      ⟨List.replicate 11 0x6e, [0x6c], [0x6d]⟩ =
      ⟨.resolved, some ⟨0x1000⟩⟩ := by
  have hgraph : ModuleGraph.create Host.plentiful ModuleGraph.sampleDeclarations =
    .ok ⟨ModuleGraph.sampleDeclarations⟩ := rfl
  have hname : Says Host.plentiful (List.replicate 11 0x6e ++ [0x23, 0x6c, 0x23, 0x6d])
      ⟨List.replicate 11 0x6e, [0x6c], [0x6d]⟩ := rfl
  obtain ⟨-, -, -, -, -, hresolve, -⟩ := names_stand_for_themselves Host.plentiful
  have hexporter : (⟨[0x62], [], [⟨⟨List.replicate 11 0x6e, [0x6c], [0x6d]⟩, ⟨0x1000⟩⟩]⟩ :
      ModuleGraphDeclaration) ∈ ModuleGraph.sampleDeclarations := by
    simp [ModuleGraph.sampleDeclarations]
  have himporter : (⟨[0x61], [[0x62]], []⟩ : ModuleGraphDeclaration) ∈
      ModuleGraph.sampleDeclarations := by
    simp [ModuleGraph.sampleDeclarations]
  have hresolved := hresolve _ _ _ hgraph _ hexporter
    [(List.replicate 11 0x6e ++ [0x23, 0x6c, 0x23, 0x6d], ⟨0x1000⟩)] (.cons ⟨hname, rfl⟩ .nil) _ _
    hname [0x61] ⟨0x1000⟩
  exact hresolved.mpr ⟨⟨_, himporter, rfl, by simp⟩, by simp⟩

end Astraea.Execution
