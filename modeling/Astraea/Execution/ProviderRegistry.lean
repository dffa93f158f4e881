import Mathlib.Data.List.Nodup
import Astraea.Core.HostAllocation
import Astraea.Execution.GuestMemory
import Astraea.Execution.MappingEpoch

/-!
# The registry of providers

A module that provides functions to others is entered into an `OwnedProviderRegistry` under a
key, with the address it provides and the epoch of the mapping it lives in. The caller gets a
token; the token is current as long as the entry is there and the mapping is still the same.
Tokens carry a generation, a number the registry never hands out twice, so that a module that
comes back under the same key at the same address is told apart from the one that left.

`Live` says, in terms of the calls that were made, which tokens were issued and not retired
since; `RegistryInv` says that these are the active ones, after every sequence of calls.
-/

namespace Astraea.Execution

open Astraea.Base Astraea.Core Astraea.Memory

/-! ### The registry -/

/-- A token: a provider, its epoch and what it was issued for. -/
structure OwnedProviderGeneration where
  registryId : UInt64
  generation : UInt64
  mappingEpoch : UInt64
  moduleKey : List UInt8
  address : GuestAddress
  deriving DecidableEq

/-- Why the registry refuses a call. -/
inductive OwnedProviderRegistryErrorCode where
  | invalidModuleKey
  | invalidProviderAddress
  | duplicateActiveModule
  | duplicateActiveAddress
  | tooManyActiveProviders
  | generationExhausted
  | hostAllocationFailure
  deriving DecidableEq

/-- A call that the registry refuses. -/
structure OwnedProviderRegistryError where
  code : OwnedProviderRegistryErrorCode
  deriving DecidableEq

/-- The epoch of the registry, and the tokens that were issued. -/
structure OwnedProviderRegistry where
  registryId : UInt64
  nextGeneration : UInt64
  active : List OwnedProviderGeneration
  deriving DecidableEq

namespace OwnedProviderRegistry

/-- A new registry, with the number the counter of registries gave it. -/
def create (registryId : UInt64) : OwnedProviderRegistry := ⟨registryId, 1, []⟩

/-- One turn of the loop over the active providers. -/
def checkUnused (moduleKey : List UInt8) (address : GuestAddress)
    (existing : OwnedProviderGeneration) :
    Except OwnedProviderRegistryErrorCode Unit := do
  refuseIf (existing.moduleKey = moduleKey) .duplicateActiveModule
  refuseIf (existing.address = address) .duplicateActiveAddress

/-- Everything that can refuse a registration. -/
def checkProvider (host : Host) (registry : OwnedProviderRegistry) (moduleKey : List UInt8)
    (address : GuestAddress) (memory : MappedGuestMemory) :
    Except OwnedProviderRegistryErrorCode Unit := do
  refuseIf (moduleKey.length = 0 ∨ moduleKey.length > 128 ∨
    (0 : UInt8) ∈ moduleKey) .invalidModuleKey
  refuseIf (address.value = 0 ∨ memory.currentMappingEpoch = 0 ∨
    memory.isExactExecutableAddress address = false)
    .invalidProviderAddress
  registry.active.forM (checkUnused moduleKey address)
  refuseIf (registry.active.length ≥ 64) .tooManyActiveProviders
  refuseIf (registry.registryId = 0 ∨ registry.nextGeneration = u64Max) .generationExhausted
  allocate host .providerEntry .hostAllocationFailure .hostAllocationFailure

/-- The token for the next registration. -/
def nextToken (registry : OwnedProviderRegistry) (moduleKey : List UInt8) (address : GuestAddress)
    (memory : MappedGuestMemory) : OwnedProviderGeneration where
  registryId := registry.registryId
  generation := registry.nextGeneration
  mappingEpoch := memory.currentMappingEpoch
  moduleKey := moduleKey
  address := address

/-- `OwnedProviderRegistry::register_provider`. -/
def registerProvider (host : Host) (registry : OwnedProviderRegistry) (moduleKey : List UInt8)
    (address : GuestAddress) (memory : MappedGuestMemory) :
    Except OwnedProviderRegistryError OwnedProviderGeneration × OwnedProviderRegistry :=
  match registry.checkProvider host moduleKey address memory with
  | .error code => (.error ⟨code⟩, registry)
  | .ok () =>
    let token := registry.nextToken moduleKey address memory
    (.ok token, { registry with
      active := registry.active ++ [token], nextGeneration := registry.nextGeneration + 1 })

/-- `OwnedProviderRegistry::retire`. -/
def retire (registry : OwnedProviderRegistry) (generation : OwnedProviderGeneration) :
    Bool × OwnedProviderRegistry :=
  if generation ∈ registry.active then
    (true, { registry with active := registry.active.erase generation })
  else (false, registry)

/-- `OwnedProviderRegistry::is_current`. -/
def isCurrent (registry : OwnedProviderRegistry) (generation : OwnedProviderGeneration)
    (address : GuestAddress) (memory : MappedGuestMemory) : Bool :=
  if generation.registryId ≠ registry.registryId ∨ generation.registryId = 0 ∨
    generation.generation = 0 ∨
      generation.mappingEpoch = 0 ∨ generation.mappingEpoch ≠ memory.currentMappingEpoch ∨
        generation.address ≠ address then
    false
  else registry.active.any (· == generation)

end OwnedProviderRegistry

/-! ### What a call does -/

/-- A call that may change a registry. -/
inductive ProviderCall where
  | registerProvider (host : Host) (moduleKey : List UInt8) (address : GuestAddress)
      (memory : MappedGuestMemory)
  | retire (generation : OwnedProviderGeneration)

variable {token : OwnedProviderGeneration}

namespace ProviderCall

/-- The registry after a call. -/
def apply (registry : OwnedProviderRegistry) : ProviderCall → OwnedProviderRegistry
  | registerProvider host moduleKey address memory =>
    (registry.registerProvider host moduleKey address memory).2
  | retire generation => (registry.retire generation).2

/-- The token a call hands out. -/
def issues (registry : OwnedProviderRegistry) : ProviderCall → Option OwnedProviderGeneration
  | registerProvider host moduleKey address memory =>
    (registry.registerProvider host moduleKey address memory).1.toOption
  | retire _ => none

end ProviderCall

namespace OwnedProviderRegistry

/-- The registry after a sequence of calls. -/
def run (registry : OwnedProviderRegistry) (calls : List ProviderCall) : OwnedProviderRegistry :=
  calls.foldl ProviderCall.apply registry

/-- The tokens a sequence of calls hands out, in order. -/
def issued (registry : OwnedProviderRegistry) : List ProviderCall → List OwnedProviderGeneration
  | [] => []
  | call :: calls => (call.issues registry).toList ++ (call.apply registry).issued calls

section Step

variable {host : Host} {registry : OwnedProviderRegistry} {moduleKey : List UInt8}
  {address : GuestAddress} {memory : MappedGuestMemory}

/-- What a registration found when it went through. -/
structure Accepts (registry : OwnedProviderRegistry) (moduleKey : List UInt8)
    (address : GuestAddress) (memory : MappedGuestMemory) : Prop where
  epoch : memory.currentMappingEpoch ≠ 0
  fresh : ∀ existing ∈ registry.active, existing.moduleKey ≠ moduleKey ∧ existing.address ≠ address
  room : registry.active.length < 64
  id : registry.registryId ≠ 0
  generation : registry.nextGeneration ≠ u64Max

theorem accepts_of_checkProvider
    (h : registry.checkProvider host moduleKey address memory = .ok ()) :
    registry.Accepts moduleKey address memory := by
  simp only [checkProvider, bind_eq_ok, refuseIf_eq_ok, allocate_eq_ok, not_or] at h
  obtain ⟨-, -, -, ⟨-, hepoch, -⟩, ⟨⟩, hfresh, -, hroom, -, ⟨hid, hgeneration⟩, -⟩ := h
  refine ⟨hepoch, fun existing hexisting => ?_, by omega, hid, hgeneration⟩
  have hunused := forM_eq_ok.mp hfresh existing hexisting
  simp only [checkUnused, bind_eq_ok, refuseIf_eq_ok] at hunused
  obtain ⟨-, hkey, haddress⟩ := hunused
  exact ⟨hkey, haddress⟩

/-- A registration is refused and changes nothing, or enters the next token. -/
theorem registerProvider_cases (host : Host) (registry : OwnedProviderRegistry)
    (moduleKey : List UInt8) (address : GuestAddress) (memory : MappedGuestMemory) :
    (∃ e, registry.registerProvider host moduleKey address memory = (.error e, registry)) ∨
      registry.Accepts moduleKey address memory ∧
        registry.registerProvider host moduleKey address memory =
          (.ok (registry.nextToken moduleKey address memory),
            { registry with
              active := registry.active ++ [registry.nextToken moduleKey address memory]
              nextGeneration := registry.nextGeneration + 1 }) := by
  unfold registerProvider
  cases hcheck : registry.checkProvider host moduleKey address memory with
  | error code => exact .inl ⟨_, rfl⟩
  | ok u => exact .inr ⟨accepts_of_checkProvider hcheck, rfl⟩

theorem retire_cases (registry : OwnedProviderRegistry) (generation : OwnedProviderGeneration) :
    (generation ∉ registry.active ∧ registry.retire generation = (false, registry)) ∨
      generation ∈ registry.active ∧
        registry.retire generation =
          (true, { registry with active := registry.active.erase generation }) := by
  unfold retire
  by_cases h : generation ∈ registry.active
  · exact .inr ⟨h, if_pos h⟩
  · exact .inl ⟨h, if_neg h⟩

end Step

theorem run_concat (registry : OwnedProviderRegistry) (calls : List ProviderCall)
    (call : ProviderCall) :
    registry.run (calls ++ [call]) = call.apply (registry.run calls) := by
  rw [run, List.foldl_append]
  rfl

theorem issued_append (registry : OwnedProviderRegistry) (calls calls' : List ProviderCall) :
    registry.issued (calls ++ calls') = registry.issued calls ++
      (registry.run calls).issued calls' := by
  induction calls generalizing registry with
  | nil => rfl
  | cons call calls ih =>
    rw [List.cons_append, issued, ih, issued, List.append_assoc]
    rfl

theorem issued_concat (registry : OwnedProviderRegistry) (calls : List ProviderCall)
    (call : ProviderCall) :
    registry.issued (calls ++ [call]) = registry.issued calls ++
      (call.issues (registry.run calls)).toList := by
  rw [issued_append, issued, issued, List.append_nil]

/-! ### The active tokens -/

/-- The token was handed out by one of the calls, and no later call retires it. -/
def Live (registry : OwnedProviderRegistry) (calls : List ProviderCall)
    (token : OwnedProviderGeneration) : Prop :=
  ∃ before call after, calls = before ++ call :: after ∧
    call.issues (registry.run before) = some token ∧
    ProviderCall.retire token ∉ after

variable {call : ProviderCall}

theorem live_concat {registry : OwnedProviderRegistry} {calls : List ProviderCall} :
    registry.Live (calls ++ [call]) token ↔
      call.issues (registry.run calls) = some token ∨ registry.Live calls token ∧
      call ≠ .retire token := by
  constructor
  · rintro ⟨before, issuer, after, hcalls, hissues, hafter⟩
    rcases List.eq_nil_or_concat after with rfl | ⟨after', last, rfl⟩
    · obtain ⟨rfl, hcall⟩ := List.append_inj' hcalls rfl
      cases hcall
      exact .inl hissues
    · rw [List.concat_eq_append] at hcalls hafter
      rw [← List.cons_append, ← List.append_assoc] at hcalls
      obtain ⟨rfl, hcall⟩ := List.append_inj' hcalls rfl
      cases hcall
      simp only [List.mem_append, List.mem_singleton, not_or] at hafter
      exact .inr ⟨⟨before, issuer, after', rfl, hissues, hafter.1⟩, fun heq => hafter.2 heq.symm⟩
  · rintro (hissues | ⟨⟨before, issuer, after, rfl, hissues, hafter⟩, hcall⟩)
    · exact ⟨calls, call, [], rfl, hissues, by simp⟩
    · refine ⟨before, issuer, after ++ [call], by simp, hissues, ?_⟩
      simp only [List.mem_append, List.mem_singleton, not_or]
      exact ⟨hafter, fun heq => hcall heq.symm⟩

/-- The invariant of a registry over the calls that were made on it. -/
structure RegistryInv (registryId : UInt64) (calls : List ProviderCall)
    (registry : OwnedProviderRegistry) : Prop where
  id : registry.registryId = registryId
  positive : 0 < registry.nextGeneration.toNat
  increasing : ((create registryId).issued calls).Pairwise fun token token' =>
    token.generation < token'.generation
  below : ∀ token ∈ (create registryId).issued calls, token.generation < registry.nextGeneration
  active_iff : ∀ token, token ∈ registry.active ↔ (create registryId).Live calls token
  issued_of_active : ∀ token ∈ registry.active, token.registryId = registryId ∧ registryId ≠ 0 ∧
    token.generation ≠ 0 ∧
    token.generation < registry.nextGeneration
  keys : (registry.active.map OwnedProviderGeneration.moduleKey).Nodup
  addresses : (registry.active.map OwnedProviderGeneration.address).Nodup
  room : registry.active.length ≤ 64

theorem RegistryInv.nil (registryId : UInt64) : RegistryInv registryId [] (create registryId) where
  id := rfl
  positive := Nat.one_pos
  increasing := List.Pairwise.nil
  below := by simp [issued]
  active_iff token := by
    constructor
    · intro h
      cases h
    · rintro ⟨before, call, after, hcalls, -⟩
      cases before <;> cases hcalls
  issued_of_active := by simp [create]
  keys := List.Pairwise.nil
  addresses := List.Pairwise.nil
  room := by simp [create]

section Calls

variable {registryId : UInt64} {calls : List ProviderCall} {registry : OwnedProviderRegistry}

section

variable (hrun : registry = (create registryId).run calls)
  (hinv : RegistryInv registryId calls registry)

include hrun hinv

/-- A call that hands out nothing and takes nothing away. -/
theorem RegistryInv.unchanged (hissues : call.issues registry = none)
    (hretire : ∀ token ∈ registry.active, call ≠ .retire token) :
    RegistryInv registryId (calls ++ [call]) registry := by
  have hissued : (create registryId).issued (calls ++ [call]) =
      (create registryId).issued calls := by
    rw [issued_concat, ← hrun, hissues]
    simp
  refine { hinv with increasing := ?_, below := ?_, active_iff := ?_ }
  · rw [hissued]
    exact hinv.increasing
  · rw [hissued]
    exact hinv.below
  · intro token
    rw [live_concat, ← hrun, hissues, ← hinv.active_iff]
    constructor
    · intro htoken
      exact .inr ⟨htoken, hretire token htoken⟩
    · rintro (hnone | ⟨htoken, -⟩)
      · cases hnone
      · exact htoken

theorem RegistryInv.register (host : Host) (moduleKey : List UInt8) (address : GuestAddress)
    (memory : MappedGuestMemory) :
    RegistryInv registryId (calls ++ [.registerProvider host moduleKey address memory])
      (registry.registerProvider host moduleKey address memory).2 := by
  rcases registerProvider_cases host registry moduleKey address memory
    with ⟨e, hresult⟩ | ⟨haccepts, hresult⟩
  · have hissues : (ProviderCall.registerProvider host moduleKey address memory).issues registry =
        none := by
      rw [ProviderCall.issues, hresult]
      rfl
    rw [hresult]
    exact hinv.unchanged hrun hissues nofun
  · have hissues : (ProviderCall.registerProvider host moduleKey address memory).issues registry =
        some (registry.nextToken moduleKey address memory) := by
      rw [ProviderCall.issues, hresult]
      rfl
    have hissued : (create registryId).issued
      (calls ++ [.registerProvider host moduleKey address memory]) =
        (create registryId).issued calls ++ [registry.nextToken moduleKey address memory] := by
      rw [issued_concat, ← hrun, hissues]
      rfl
    have hnext : registry.nextGeneration < registry.nextGeneration + 1 := by
      rw [UInt64.lt_iff_toNat_lt, toNat_succ_of_ne_u64Max haccepts.generation]
      omega
    rw [hresult]
    constructor
    · exact hinv.id
    · show 0 < (registry.nextGeneration + 1).toNat
      rw [toNat_succ_of_ne_u64Max haccepts.generation]
      omega
    · rw [hissued, List.pairwise_append]
      refine ⟨hinv.increasing, List.pairwise_singleton _ _, ?_⟩
      intro token htoken last hlast
      rw [List.mem_singleton.mp hlast]
      exact hinv.below token htoken
    · rw [hissued]
      refine List.forall_mem_append.mpr ⟨?_, List.forall_mem_singleton.mpr hnext⟩
      exact fun token htoken => UInt64.lt_trans (hinv.below token htoken) hnext
    · intro token
      rw [live_concat, ← hrun, hissues, ← hinv.active_iff, List.mem_append, List.mem_singleton,
        Option.some.injEq]
      constructor
      · rintro (htoken | rfl)
        · exact .inr ⟨htoken, nofun⟩
        · exact .inl rfl
      · rintro (rfl | ⟨htoken, -⟩)
        · exact .inr rfl
        · exact .inl htoken
    · intro token htoken
      rcases List.mem_append.mp htoken with htoken | htoken
      · obtain ⟨hid, hzero, hgeneration, hlt⟩ := hinv.issued_of_active token htoken
        exact ⟨hid, hzero, hgeneration, UInt64.lt_trans hlt hnext⟩
      · rw [List.mem_singleton.mp htoken]
        refine ⟨hinv.id, by rw [← hinv.id]; exact haccepts.id, ?_, hnext⟩
        intro hzero
        have hpositive := hinv.positive
        rw [show registry.nextGeneration = 0 from hzero] at hpositive
        exact absurd hpositive (by decide)
    · rw [List.map_append, List.map_singleton, List.nodup_append]
      refine ⟨hinv.keys, List.nodup_singleton _, ?_⟩
      intro key hkey last hlast
      obtain ⟨existing, hexisting, rfl⟩ := List.mem_map.mp hkey
      rw [List.mem_singleton.mp hlast]
      exact (haccepts.fresh existing hexisting).1
    · rw [List.map_append, List.map_singleton, List.nodup_append]
      refine ⟨hinv.addresses, List.nodup_singleton _, ?_⟩
      intro key hkey last hlast
      obtain ⟨existing, hexisting, rfl⟩ := List.mem_map.mp hkey
      rw [List.mem_singleton.mp hlast]
      exact (haccepts.fresh existing hexisting).2
    · have hroom := haccepts.room
      rw [List.length_append, List.length_singleton]
      omega

theorem RegistryInv.retire (generation : OwnedProviderGeneration) :
    RegistryInv registryId (calls ++ [.retire generation]) (registry.retire generation).2 := by
  rcases retire_cases registry generation with ⟨hmem, hresult⟩ | ⟨hmem, hresult⟩
  · rw [hresult]
    refine hinv.unchanged hrun rfl ?_
    rintro token htoken heq
    cases heq
    exact hmem htoken
  · have hissued : (create registryId).issued (calls ++ [.retire generation]) =
        (create registryId).issued calls := by
      rw [issued_concat, ProviderCall.issues]
      simp
    have hnodup : registry.active.Nodup := List.Nodup.of_map _ hinv.keys
    rw [hresult]
    constructor
    · exact hinv.id
    · exact hinv.positive
    · rw [hissued]
      exact hinv.increasing
    · rw [hissued]
      exact hinv.below
    · intro token
      rw [live_concat, ProviderCall.issues, ← hinv.active_iff, hnodup.mem_erase_iff]
      simp only [reduceCtorEq, false_or, ne_eq, ProviderCall.retire.injEq]
      rw [and_comm, eq_comm (a := token)]
    · intro token htoken
      exact hinv.issued_of_active token (List.mem_of_mem_erase htoken)
    · exact hinv.keys.sublist (List.erase_sublist.map _)
    · exact hinv.addresses.sublist (List.erase_sublist.map _)
    · exact le_trans (List.length_erase_le) hinv.room

end

end Calls

/-- **The invariant holds after every sequence of calls.** -/
theorem registryInv_run (registryId : UInt64) (calls : List ProviderCall) :
    RegistryInv registryId calls ((create registryId).run calls) := by
  induction calls using List.reverseRecOn with
  | nil => exact RegistryInv.nil registryId
  | append_singleton calls call ih =>
    rw [run_concat]
    cases call with
    | registerProvider host moduleKey address memory =>
      exact ih.register rfl host moduleKey address memory
    | retire generation => exact ih.retire rfl generation

theorem isCurrent_iff {registry : OwnedProviderRegistry} {address : GuestAddress}
    {memory : MappedGuestMemory} :
    registry.isCurrent token address memory = true ↔
      token.registryId = registry.registryId ∧ token.registryId ≠ 0 ∧ token.generation ≠ 0 ∧
      token.mappingEpoch ≠ 0 ∧
        token.mappingEpoch = memory.currentMappingEpoch ∧ token.address = address ∧
        token ∈ registry.active := by
  unfold isCurrent
  by_cases hbad : token.registryId ≠ registry.registryId ∨ token.registryId = 0 ∨
    token.generation = 0 ∨
      token.mappingEpoch = 0 ∨ token.mappingEpoch ≠ memory.currentMappingEpoch ∨
        token.address ≠ address
  · rw [if_pos hbad]
    simp only [Bool.false_eq_true, false_iff]
    tauto
  · rw [if_neg hbad]
    simp only [not_or, not_not, List.any_eq_true, beq_iff_eq, exists_eq_right] at *
    tauto

/-- The call that handed a token out is a registration of its key and address. -/
theorem issues_eq_some {registry : OwnedProviderRegistry} (h : call.issues registry = some token) :
    ∃ host memory, call = .registerProvider host token.moduleKey token.address memory ∧
      (registry.registerProvider host token.moduleKey token.address memory).1 = .ok token := by
  cases call with
  | retire generation => cases h
  | registerProvider host moduleKey address memory =>
    rcases registerProvider_cases host registry moduleKey address memory
      with ⟨e, hresult⟩ | ⟨-, hresult⟩
    · rw [ProviderCall.issues, hresult] at h
      cases h
    · rw [ProviderCall.issues, hresult] at h
      cases h
      exact ⟨host, memory, rfl, by rw [nextToken, hresult]; rfl⟩

/-- A token is not handed out again once it was handed out. -/
theorem not_issues_again {registryId : UInt64} {calls : List ProviderCall}
    (h : token ∈ (create registryId).issued calls) :
    call.issues ((create registryId).run calls) ≠ some token := by
  intro hissues
  have hbelow := (registryInv_run registryId (calls ++ [call])).increasing
  rw [issued_concat, hissues, List.pairwise_append] at hbelow
  exact UInt64.lt_irrefl _ (hbelow.2.2 token h token (List.mem_singleton_self token))

theorem mem_issued_of_live {registry : OwnedProviderRegistry} {calls : List ProviderCall}
    (h : registry.Live calls token) :
    token ∈ registry.issued calls := by
  obtain ⟨before, call, after, rfl, hissues, -⟩ := h
  rw [issued_append, issued, hissues]
  simp

/-- **A token that was retired is not active again**, whatever calls follow. -/
theorem not_live_of_retired {registryId : UInt64} {before : List ProviderCall}
    (h : (create registryId).Live before token) (after : List ProviderCall) :
    ¬ (create registryId).Live (before ++ .retire token :: after) token := by
  induction after using List.reverseRecOn with
  | nil =>
    rw [live_concat]
    rintro (hissues | ⟨-, hne⟩)
    · cases hissues
    · exact hne rfl
  | append_singleton after call ih =>
    rw [← List.cons_append, ← List.append_assoc, live_concat]
    rintro (hissues | ⟨hlive, -⟩)
    · refine not_issues_again ?_ hissues
      rw [issued_append]
      exact List.mem_append_left _ (mem_issued_of_live h)
    · exact ih hlive

end OwnedProviderRegistry

open OwnedProviderRegistry

/-- **The lifetime of a provider.** Whatever calls are made on a new registry: the generations it
hands out increase, the keys and the addresses of the active providers are unique and there are at
most 64 of them; a call that fails changes nothing; a token is current exactly when a registration
of this registry issued it for its key and this address, no later call retired it, and its epoch is
that of the mapping, and not zero; and a token that was retired is never current again. -/
theorem providerRegistry_lifetime (registryId : UInt64) (calls : List ProviderCall) :
    ((create registryId).issued calls).Pairwise
      (fun token token' => token.generation < token'.generation) ∧
    (((create registryId).run calls).active.map OwnedProviderGeneration.moduleKey).Nodup ∧
    (((create registryId).run calls).active.map OwnedProviderGeneration.address).Nodup ∧
    ((create registryId).run calls).active.length ≤ 64 ∧
    (∀ host moduleKey address memory e,
      (((create registryId).run calls).registerProvider host moduleKey address memory).1 =
        .error e →
      (((create registryId).run calls).registerProvider host moduleKey address memory).2 =
        (create registryId).run calls) ∧
    (∀ token, (((create registryId).run calls).retire token).1 = false →
      (((create registryId).run calls).retire token).2 = (create registryId).run calls) ∧
    (∀ (token : OwnedProviderGeneration) address memory,
      ((create registryId).run calls).isCurrent token address memory = true ↔
        (∃ before host memory' after, calls =
          before ++ .registerProvider host token.moduleKey address memory' :: after ∧
        (((create registryId).run before).registerProvider host token.moduleKey address memory').1 =
          .ok token ∧ ProviderCall.retire token ∉ after) ∧
        token.mappingEpoch ≠ 0 ∧ token.mappingEpoch = memory.currentMappingEpoch) ∧
    ∀ token, (((create registryId).run calls).retire token).1 = true → ∀ after address memory,
      ((create registryId).run (calls ++ .retire token :: after)).isCurrent token address memory =
        false := by
  have hinv := registryInv_run registryId calls
  refine ⟨hinv.increasing, hinv.keys, hinv.addresses, hinv.room, ?_, ?_, ?_, ?_⟩
  · intro host moduleKey address memory e h
    rcases registerProvider_cases host ((create registryId).run calls) moduleKey address memory with
      ⟨e, hresult⟩ | ⟨-, hresult⟩
    · rw [hresult]
    · rw [hresult] at h
      cases h
  · intro token h
    rcases retire_cases ((create registryId).run calls) token with ⟨-, hresult⟩ | ⟨-, hresult⟩
    · rw [hresult]
    · rw [hresult] at h
      cases h
  · intro token address memory
    rw [isCurrent_iff]
    constructor
    · rintro ⟨-, -, -, hepoch, hcurrent, rfl, hactive⟩
      obtain ⟨before, call, after, rfl, hissues, hafter⟩ := (hinv.active_iff token).mp hactive
      obtain ⟨host, memory', rfl, hok⟩ := issues_eq_some hissues
      exact ⟨⟨before, host, memory', after, rfl, hok, hafter⟩, hepoch, hcurrent⟩
    · rintro ⟨⟨before, host, memory', after, hcalls, hok, hafter⟩, hepoch, hcurrent⟩
      have hissues : (ProviderCall.registerProvider host token.moduleKey address memory').issues
          ((create registryId).run before) = some token := by
        rw [ProviderCall.issues, hok]
        rfl
      have haddress : token.address = address := by
        obtain ⟨_, _, hcall, -⟩ := issues_eq_some hissues
        cases hcall
        rfl
      have hactive := (hinv.active_iff token).mpr ⟨before, _, after, hcalls, hissues, hafter⟩
      obtain ⟨hid, hzero, hgeneration, -⟩ := hinv.issued_of_active token hactive
      exact ⟨by rw [hid, hinv.id], by rwa [hid], hgeneration, hepoch, hcurrent, haddress, hactive⟩
  · intro token h after address memory
    rcases retire_cases ((create registryId).run calls) token with ⟨-, hresult⟩ | ⟨hactive, -⟩
    · rw [hresult] at h
      cases h
    · have hnot := not_live_of_retired ((hinv.active_iff token).mp hactive) after
      rw [← (registryInv_run registryId _).active_iff] at hnot
      rw [← Bool.not_eq_true, isCurrent_iff]
      rintro ⟨-, -, -, -, -, -, hmem⟩
      exact hnot hmem

/-- A page that may be executed, mapped in an epoch. -/
def executablePage (epoch : UInt64) : MappedGuestMemory where
  image := bareImage
    [⟨lowPage, GuestPermissions.only .execute, ⟨.zeroFill, 0, ⟨0x1000⟩⟩, 0⟩]
    noBytes
  preparedPlan := ⟨0x1000, [⟨lowPage, GuestPermissions.only .execute, []⟩]⟩
  preparedMemoryAvailable := true
  preparedEpoch := epoch

/-- A module comes, leaves and comes back at the same address: the first token is not current, the
second is. -/
theorem providerRegistry_lifetime_returning :
    ((create 1).run [.registerProvider Host.plentiful [65] ⟨0x1000⟩ (executablePage 7)]).isCurrent
      ⟨1, 1, 7, [65], ⟨0x1000⟩⟩ ⟨0x1000⟩ (executablePage 7) = true ∧
    ((create 1).run ([.registerProvider Host.plentiful [65] ⟨0x1000⟩ (executablePage 7)] ++
      .retire ⟨1, 1, 7, [65], ⟨0x1000⟩⟩ ::
        [.registerProvider Host.plentiful [65] ⟨0x1000⟩ (executablePage 7)])).isCurrent
      ⟨1, 1, 7, [65], ⟨0x1000⟩⟩ ⟨0x1000⟩ (executablePage 7) = false := by
  obtain ⟨-, -, -, -, -, -, hcurrent, hretired⟩ :=
    providerRegistry_lifetime 1 [.registerProvider Host.plentiful [65] ⟨0x1000⟩ (executablePage 7)]
  refine ⟨?_, hretired ⟨1, 1, 7, [65], ⟨0x1000⟩⟩ (by decide +kernel) _ _ _⟩
  refine (hcurrent ⟨1, 1, 7, [65], ⟨0x1000⟩⟩ ⟨0x1000⟩ (executablePage 7)).mpr
    ⟨?_, by decide, by decide⟩
  exact ⟨[], Host.plentiful, executablePage 7, [], rfl, by decide +kernel, by simp⟩

/-! ### Epochs that are not reused -/

/-- A token does not outlive its mapping: it is not current on a mapping that was prepared at
another time. -/
theorem isCurrent_of_other_mapping {registry : OwnedProviderRegistry} {address : GuestAddress}
    {memory : MappedGuestMemory} {count : ℕ} {counter : UInt64} {own other : ℕ} (hne : own ≠ other)
    (hown : (preparedMappingEpochs count counter)[own]? = some token.mappingEpoch)
    (hother : (preparedMappingEpochs count counter)[other]? = some memory.preparedEpoch) :
    registry.isCurrent token address memory = false := by
  rw [← Bool.not_eq_true, isCurrent_iff]
  rintro ⟨-, -, -, hepoch, hcurrent, -, -⟩
  rw [MappedGuestMemory.currentMappingEpoch] at hcurrent
  split_ifs at hcurrent
  · rw [← hcurrent] at hother
    obtain ⟨hownLt, hownGet⟩ := List.getElem?_eq_some_iff.mp hown
    obtain ⟨hotherLt, hotherGet⟩ := List.getElem?_eq_some_iff.mp hother
    have hpairs := List.pairwise_iff_getElem.mp (preparedMappingEpochs_increasing count counter)
    rcases Nat.lt_or_gt_of_ne hne with hlt | hgt
    · rcases hpairs own other hownLt hotherLt hlt with hzero | hlt
      · exact hepoch (by rw [← hotherGet, hzero])
      · rw [hownGet, hotherGet] at hlt
        exact Nat.lt_irrefl _ hlt
    · rcases hpairs other own hotherLt hownLt hgt with hzero | hlt
      · exact hepoch (by rw [← hownGet, hzero])
      · rw [hownGet, hotherGet] at hlt
        exact Nat.lt_irrefl _ hlt
  · exact hepoch hcurrent

end Astraea.Execution
