import Astraea.Base.Occurrences
import Astraea.Execution.ProgramAddress

/-!
# The shaders a guest has created

The registry of created shaders is filled by one call after another, and guest memory changes
between the calls: the guest writes to it as it likes, and every call that creates a shader
relocates its header. `createdBy` is what one call adds to the registry.

`createdShaders_lookUp` is about what is found in the registry after any run: a lookup finds a
shader where a single call of the run created one of that kind, tells that there is none where none
did, and counts them where there are more. `createdShader_stays_true` says how long the shader in
the registry is still the one in guest memory.
-/

namespace Astraea.Execution

open Astraea.Base Astraea.Core Astraea.Memory Astraea.Graphics

/-! ### Runs -/

/-- A guest runs until it calls the host: what guest memory then holds, and the call. -/
structure GuestEpisode where
  host : Host
  bytes : ℕ → UInt8
  registry : HleRegistry
  gateRegion : SyntheticGateRegion
  stop : ExecutionStop

/-- The call of an episode is served. -/
def dispatchEpisode (memory : GuestMemoryAccess) (state : HleDispatchState)
    (episode : GuestEpisode) :
    Except HleRuntimeError HleHandlerResult × HleDispatchState :=
  dispatchHle episode.host episode.registry episode.gateRegion episode.stop memory { state with
    guestBytes := episode.bytes }

/-- What a run leaves. -/
def dispatchAll (memory : GuestMemoryAccess) :
    HleDispatchState → List GuestEpisode → HleDispatchState
  | state, [] => state
  | state, episode :: episodes =>
    dispatchAll memory (dispatchEpisode memory state episode).2 episodes

/-- The shader that an episode adds to the registry. -/
def createdBy (memory : GuestMemoryAccess) (state : HleDispatchState) (episode : GuestEpisode) :
    Option CreatedAgcShader :=
  (dispatchEpisode memory state
    episode).2.createdAgcShaders.shaders[state.createdAgcShaders.shaders.length]?

/-- The shaders a run adds, episode by episode. -/
def creations (memory : GuestMemoryAccess) :
    HleDispatchState → List GuestEpisode → List (Option CreatedAgcShader)
  | _, [] => []
  | state, episode :: episodes =>
    createdBy memory state episode ::
      creations memory (dispatchEpisode memory state episode).2 episodes

/-- The guest asks for a shader to be created. -/
def GuestEpisode.AsksForShader (episode : GuestEpisode) : Prop :=
  ∃ binding descriptor, calledFunction episode.registry episode.gateRegion episode.stop =
    .ok (binding, descriptor) ∧
    descriptor.id = kSceAgcCreateShaderHleId

/-- An episode created a shader out of what guest memory held: the call came back well, the registry
has the shader at its end, and guest memory is as it was but for the relocations of the header and
the handle. -/
structure Creates (memory : GuestMemoryAccess) (state : HleDispatchState) (episode : GuestEpisode)
    (createdShader : CreatedAgcShader) : Prop where
  asks : episode.AsksForShader
  answer : (dispatchEpisode memory state episode).1 = .ok ⟨.resume, 0⟩
  shaders : (dispatchEpisode memory state episode).2.createdAgcShaders.shaders =
    state.createdAgcShaders.shaders ++ [createdShader]
  codeAddressable : ProgramAddressable createdShader.codeAddress
  stage : createdShader.stage = .pixel ∨ createdShader.stage = .geometry
  made : ∃ functionId create listOffset preparation,
    ShaderCreated (makeCall functionId episode.stop.gateSlot episode.stop.context) episode.bytes
      create listOffset preparation
        createdShader ∧
      (dispatchEpisode memory state episode).2.guestBytes = preparation.stored episode.bytes

/-- An episode created nothing: the registry and guest memory are as they were. -/
structure Passes (memory : GuestMemoryAccess) (state : HleDispatchState) (episode : GuestEpisode) :
    Prop where
  unserved : ¬ (episode.AsksForShader ∧
    ∃ result, (dispatchEpisode memory state episode).1 = .ok result)
  shaders : (dispatchEpisode memory state episode).2.createdAgcShaders = state.createdAgcShaders
  bytes : (dispatchEpisode memory state episode).2.guestBytes = episode.bytes

section Run

variable {memory : GuestMemoryAccess} {state : HleDispatchState} {episode : GuestEpisode}
  {episodes : List GuestEpisode} {createdShader : CreatedAgcShader} {k : ℕ}

theorem asksForShader_unique {binding : GateBinding} {descriptor : HleFunctionDescriptor}
    (hcalled : calledFunction episode.registry episode.gateRegion episode.stop =
      .ok (binding, descriptor)) (hasks : episode.AsksForShader) :
    descriptor.id = kSceAgcCreateShaderHleId := by
  obtain ⟨binding', descriptor', hcalled', hid⟩ := hasks
  rw [hcalled] at hcalled'
  obtain ⟨-, rfl⟩ := Prod.mk.inj (Except.ok.inj hcalled')
  exact hid

/-- **One episode** creates a shader, or leaves registry and guest memory alone. -/
theorem dispatchEpisode_cases (memory : GuestMemoryAccess) (state : HleDispatchState)
    (episode : GuestEpisode) :
    (∃ createdShader, Creates memory state episode createdShader) ∨
    Passes memory state episode := by
  rcases dispatchHle_cases episode.host memory { state with
    guestBytes := episode.bytes } episode.registry
    episode.gateRegion episode.stop with
    ⟨e, houtcome, -⟩ | ⟨binding, descriptor, hcalled,
      ⟨hid, hcreated⟩ | ⟨hid, result, copied, houtcome⟩⟩
  · refine .inr ⟨?_, ?_, ?_⟩ <;> simp only [dispatchEpisode, houtcome]
    rintro ⟨-, _, hok⟩
    cases hok
  · obtain ⟨preparation, createdShader, hprepare, -, houtcome⟩ := hcreated
    obtain ⟨create, listOffset, hshader⟩ := shaderCreated_of_prepareCreateShader hprepare
    obtain ⟨hcode, hstage⟩ := programAddressable_of_prepareCreateShader hprepare
    refine .inl ⟨createdShader, ⟨binding, descriptor, hcalled, hid⟩, ?_, ?_, hcode, hstage,
      binding.functionId, create, listOffset, preparation, hshader, ?_⟩ <;>
      simp only [dispatchEpisode, houtcome, HleDispatchState.withShader]
  · refine .inr ⟨?_, ?_, ?_⟩ <;> simp only [dispatchEpisode, houtcome]
    rintro ⟨hasks, -⟩
    exact hid (asksForShader_unique hcalled hasks)

theorem Creates.createdBy_eq (h : Creates memory state episode createdShader) :
    createdBy memory state episode = some createdShader := by
  rw [createdBy, h.shaders, List.getElem?_append_right le_rfl, Nat.sub_self,
    List.getElem?_cons_zero]

theorem Creates.addresses (h : Creates memory state episode createdShader) :
    createdShader.codeAddress = episode.stop.context.rdx ∧
    createdShader.shaderHandle = ⟨episode.stop.context.rsi⟩ := by
  obtain ⟨functionId, create, listOffset, preparation, hshader, -⟩ := h.made
  rw [hshader.codeAddress, hshader.handle, hshader.created.request]
  exact ⟨rfl, rfl⟩

theorem Passes.createdBy_eq (h : Passes memory state episode) :
    createdBy memory state episode = none := by
  rw [createdBy, h.shaders, List.getElem?_eq_none le_rfl]

theorem createdBy_eq_some_iff :
    createdBy memory state episode = some createdShader ↔
    Creates memory state episode createdShader := by
  constructor
  · intro h
    rcases dispatchEpisode_cases memory state episode with ⟨other, hcreates⟩ | hpasses
    · rw [hcreates.createdBy_eq] at h
      exact Option.some.inj h ▸ hcreates
    · rw [hpasses.createdBy_eq] at h
      cases h
  · exact Creates.createdBy_eq

section

variable (memory : GuestMemoryAccess) (state : HleDispatchState)

theorem shaders_dispatchEpisode (episode : GuestEpisode) :
    (dispatchEpisode memory state episode).2.createdAgcShaders.shaders =
      state.createdAgcShaders.shaders ++ [createdBy memory state episode].reduceOption := by
  rcases dispatchEpisode_cases memory state episode with ⟨createdShader, hcreates⟩ | hpasses
  · rw [hcreates.shaders, hcreates.createdBy_eq]
    rfl
  · rw [hpasses.shaders, hpasses.createdBy_eq, List.reduceOption_cons_of_none,
      List.reduceOption_nil, List.append_nil]

/-- **The registry after a run** is the one before and what the run adds, in order. -/
theorem shaders_dispatchAll (episodes : List GuestEpisode) :
    (dispatchAll memory state episodes).createdAgcShaders.shaders =
      state.createdAgcShaders.shaders ++ (creations memory state episodes).reduceOption := by
  induction episodes generalizing state with
  | nil => rw [dispatchAll, creations, List.reduceOption_nil, List.append_nil]
  | cons episode episodes ih =>
    rw [dispatchAll, ih, shaders_dispatchEpisode, creations, List.append_assoc,
      ← List.reduceOption_append]
    rfl

/-- The record of an episode, in the state the episodes before it leave. -/
theorem getElem?_creations (episodes : List GuestEpisode) (k : ℕ) :
    (creations memory state episodes)[k]? =
      episodes[k]?.map (createdBy memory (dispatchAll memory state (episodes.take k))) := by
  induction episodes generalizing state k with
  | nil => rfl
  | cons episode episodes ih =>
    cases k with
    | zero => rfl
    | succ k => exact ih _ k

end

end Run

/-! ### What is found -/

/-- The shader was created in the episode at a position of a run, in the state the episodes before
it leave. -/
def CreatedAt (memory : GuestMemoryAccess) (start : HleDispatchState) (episodes : List GuestEpisode)
    (k : ℕ) (createdShader : CreatedAgcShader) : Prop :=
  ∃ episode, episodes[k]? = some episode ∧
    Creates memory (dispatchAll memory start (episodes.take k)) episode createdShader

/-- The shader was created there and is one of those that are looked for. -/
def AcceptedAt (memory : GuestMemoryAccess) (start : HleDispatchState)
    (episodes : List GuestEpisode) (accepts : CreatedAgcShader → Bool) (k : ℕ)
    (createdShader : CreatedAgcShader) : Prop :=
  CreatedAt memory start episodes k createdShader ∧ accepts createdShader = true

/-- The answer of a lookup after a run: the shader that a single episode created, or how many
episodes created one. -/
structure LooksUp {ε : Type} (memory : GuestMemoryAccess) (start : HleDispatchState)
    (episodes : List GuestEpisode) (accepts : CreatedAgcShader → Bool)
    (error : CreatedAgcShaderLookupErrorCode → ℕ → ε) (result : Except ε CreatedAgcShader) :
    Prop where
  found : ∀ createdShader, result = .ok createdShader ↔
    ∃ k, AcceptedAt memory start episodes accepts k createdShader ∧
      ∀ k' other, AcceptedAt memory start episodes accepts k' other → k' = k
  notFound : (∀ k other, ¬ AcceptedAt memory start episodes accepts k other) →
    result = .error (error .notFound 0)
  ambiguous : (∃ k k' other other', k ≠ k' ∧ AcceptedAt memory start episodes accepts k other ∧
      AcceptedAt memory start episodes accepts k' other') →
    result = .error (error .ambiguous
      ((creations memory start episodes).countP fun record => record.any accepts))

/-- The shader was created in an episode of a run, in a way that is asked for, and no other episode
created one in that way. -/
def CreatedOnce (memory : GuestMemoryAccess) (start : HleDispatchState)
    (episodes : List GuestEpisode) (way : GuestEpisode → CreatedAgcShader → Prop)
    (createdShader : CreatedAgcShader) : Prop :=
  ∃ k episode, episodes[k]? = some episode ∧
    Creates memory (dispatchAll memory start (episodes.take k)) episode createdShader ∧
      way episode createdShader ∧
    ∀ k' episode' other, episodes[k']? = some episode' →
      Creates memory (dispatchAll memory start (episodes.take k')) episode' other →
        way episode' other → k' = k

section Lookup

variable {memory : GuestMemoryAccess} {start : HleDispatchState} {episodes : List GuestEpisode}
  {createdShader : CreatedAgcShader} {accepts : CreatedAgcShader → Bool} {k : ℕ}

theorem occursAt_creations_iff :
    OccursAt (creations memory start episodes) accepts k createdShader ↔
      AcceptedAt memory start episodes accepts k createdShader := by
  rw [OccursAt, getElem?_creations, Option.map_eq_some_iff, AcceptedAt, CreatedAt]
  simp only [createdBy_eq_some_iff]

theorem lookup_eq {ε : Type} (registry : CreatedAgcShaderRegistry)
    (accepts : CreatedAgcShader → Bool) (error : CreatedAgcShaderLookupErrorCode → ℕ → ε) :
    registry.lookup accepts error =
      match registry.shaders.filter accepts with
      | [] => .error (error .notFound 0)
      | [createdShader] => .ok createdShader
      | matching => .error (error .ambiguous matching.length) := by
  rw [CreatedAgcShaderRegistry.lookup, CreatedAgcShaderRegistry.findMatches_eq]
  rcases registry.shaders.filter accepts with _ | ⟨first, _ | ⟨second, rest⟩⟩ <;> simp

theorem looksUp_lookup {ε : Type} (hstart : start.createdAgcShaders.shaders = [])
    (error : CreatedAgcShaderLookupErrorCode → ℕ → ε) :
    LooksUp memory start episodes accepts error
      ((dispatchAll memory start episodes).createdAgcShaders.lookup accepts error) := by
  rw [lookup_eq, shaders_dispatchAll, hstart, List.nil_append]
  have hlength := length_filter_reduceOption (creations memory start episodes) accepts
  have hnil : (creations memory start episodes).reduceOption.filter accepts = [] ↔ _ :=
    filter_reduceOption_eq_nil_iff
  have hone (createdShader : CreatedAgcShader) :
      (creations memory start episodes).reduceOption.filter accepts = [createdShader] ↔ _ :=
    filter_reduceOption_eq_singleton_iff
  have htwo : 2 ≤ ((creations memory start episodes).reduceOption.filter accepts).length ↔ _ :=
    two_le_length_filter_reduceOption_iff
  simp only [occursAt_creations_iff] at hnil hone htwo
  -- what is found has no element, one, or more
  rcases hfound : (creations memory start episodes).reduceOption.filter accepts
    with _ | ⟨first, _ | ⟨second, rest⟩⟩ <;>
    rw [hfound] at hnil hone htwo hlength
  · refine ⟨fun createdShader => ?_, fun _ => rfl, fun hseveral => ?_⟩
    · exact iff_of_false (by simp) fun honly => by simpa using (hone createdShader).mpr honly
    · exact absurd (htwo.mpr hseveral) (by simp)
  · refine ⟨fun createdShader => ?_, fun hnone => ?_, fun hseveral => ?_⟩
    · rw [← hone createdShader, Except.ok.injEq, List.cons.injEq, eq_self_iff_true, and_true]
    · exact absurd (hnil.mpr hnone) (by simp)
    · exact absurd (htwo.mpr hseveral) (by simp)
  · refine ⟨fun createdShader => ?_, fun hnone => ?_, fun _ => ?_⟩
    · exact iff_of_false (by simp) fun honly => by simpa using (hone createdShader).mpr honly
    · exact absurd (hnil.mpr hnone) (by simp)
    · rw [← hlength]

/-- What is found was created once, where the way of its creation tells whether a shader is
accepted. -/
theorem LooksUp.createdOnce {ε : Type} {error : CreatedAgcShaderLookupErrorCode → ℕ → ε}
    {result : Except ε CreatedAgcShader} (h : LooksUp memory start episodes accepts error result)
    {way : GuestEpisode → CreatedAgcShader → Prop}
    (hway : ∀ state episode other, Creates memory state episode other →
      (accepts other = true ↔ way episode other)) (hresult : result = .ok createdShader) :
    CreatedOnce memory start episodes way createdShader := by
  obtain ⟨k, ⟨⟨episode, hepisode, hcreates⟩, haccepted⟩, honly⟩ :=
    (h.found createdShader).mp hresult
  refine ⟨k, episode, hepisode, hcreates, (hway _ _ _ hcreates).mp haccepted, ?_⟩
  intro k' episode' other hepisode' hcreates' hother
  exact honly k' other ⟨⟨episode', hepisode', hcreates'⟩, (hway _ _ _ hcreates').mpr hother⟩

end Lookup

/-- **What the registry answers after a run.** Whatever the guest does in a run, and whichever of
its calls fail: a shader is created exactly by the calls of `sceAgcCreateShader` that come back
well, out of what guest memory held at the call. A lookup by the address of a pixel shader, by stage
and address or by handle finds a shader exactly where a single call created one of that kind, and
then that one; otherwise it tells how many there are. -/
theorem createdShaders_lookUp (memory : GuestMemoryAccess) (start : HleDispatchState)
    (hstart : start.createdAgcShaders.shaders = []) (episodes : List GuestEpisode) :
    (∀ k episode, episodes[k]? = some episode →
      ((∃ createdShader, CreatedAt memory start episodes k createdShader) ↔
        episode.AsksForShader ∧
          ∃ result, (dispatchEpisode memory
            (dispatchAll memory start (episodes.take k)) episode).1 = .ok result)) ∧
    (∀ programAddress, LooksUp memory start episodes
      (fun shader => shader.stage == .pixel && shader.codeAddress == programAddress)
        (⟨·, programAddress, ·⟩)
      ((dispatchAll memory start episodes).createdAgcShaders.lookupUnique programAddress)) ∧
    (∀ programAddress stage, LooksUp memory start episodes
      (fun shader => shader.stage == stage && shader.codeAddress == programAddress)
        (⟨·, programAddress, stage, ·⟩)
      ((dispatchAll memory start episodes).createdAgcShaders.lookupUniqueByStageAndCode
        programAddress stage)) ∧
    ∀ shaderHandle, LooksUp memory start episodes
      (fun shader => shader.shaderHandle == shaderHandle) (⟨·, shaderHandle, ·⟩)
      ((dispatchAll memory start episodes).createdAgcShaders.lookupUniqueByHandle
        shaderHandle) := by
  refine ⟨fun k episode hepisode => ?_, fun _ => looksUp_lookup hstart _, fun _ _ =>
    looksUp_lookup hstart _, fun _ => looksUp_lookup hstart _⟩
  constructor
  · rintro ⟨createdShader, episode', hepisode', hcreates⟩
    rw [hepisode, Option.some.injEq] at hepisode'
    subst hepisode'
    exact ⟨hcreates.asks, _, hcreates.answer⟩
  · intro hserved
    rcases dispatchEpisode_cases memory (dispatchAll memory start (episodes.take k)) episode with
      ⟨createdShader, hcreates⟩ | hpasses
    · exact ⟨createdShader, episode, hepisode, hcreates⟩
    · exact absurd hserved hpasses.unserved

/-- The guest creates the pixel shader, with its text at `textAddress`. -/
def pixelEpisode (textAddress : UInt64) : GuestEpisode :=
  ⟨Host.plentiful, pixelBytes, pixelRegistry, pixelGate, pixelStop textAddress⟩

/-- A registry and an output with nothing in them. -/
def emptyStart : HleDispatchState := ⟨[], ⟨[]⟩, pixelBytes⟩

theorem asksForShader_pixelEpisode (textAddress : UInt64) :
    (pixelEpisode textAddress).AsksForShader :=
  ⟨⟨0, kSceAgcCreateShaderHleId⟩, _, rfl, rfl⟩

set_option maxRecDepth 10000 in

/-- Two shaders that were created from one header: each is found by its text, and neither by the
handle they have in common. -/
theorem createdShaders_lookUp_example :
    (∃ createdShader, (dispatchAll pixelMemory emptyStart
      [pixelEpisode 0x10100, pixelEpisode 0x10400]).createdAgcShaders.lookupUnique 0x10100 =
        .ok createdShader) ∧
    (dispatchAll pixelMemory emptyStart [pixelEpisode 0x10100,
      pixelEpisode 0x10400]).createdAgcShaders.lookupUniqueByHandle
      ⟨0x10000⟩ = .error ⟨.ambiguous, ⟨0x10000⟩, 2⟩ := by
  obtain ⟨hserved, hpixel, -, hhandle⟩ :=
    createdShaders_lookUp pixelMemory emptyStart rfl [pixelEpisode 0x10100, pixelEpisode 0x10400]
  have hfirst : (dispatchEpisode pixelMemory emptyStart (pixelEpisode 0x10100)).1 =
    .ok ⟨.resume, 0⟩ := by decide +kernel
  have hsecond :
    (dispatchEpisode pixelMemory (dispatchAll pixelMemory emptyStart [pixelEpisode 0x10100])
    (pixelEpisode 0x10400)).1 = .ok ⟨.resume, 0⟩ := by decide +kernel
  have hcount :
    (creations pixelMemory emptyStart [pixelEpisode 0x10100, pixelEpisode 0x10400]).countP
      (fun record => record.any fun shader => shader.shaderHandle == ⟨0x10000⟩) =
        2 := by decide +kernel
  have hstages : ∀ record ∈
    creations pixelMemory emptyStart [pixelEpisode 0x10100, pixelEpisode 0x10400],
      record.all (fun shader => shader.stage == .pixel) = true := by decide +kernel
  have hstage : ∀ k createdShader,
    CreatedAt pixelMemory emptyStart [pixelEpisode 0x10100, pixelEpisode 0x10400] k createdShader →
      createdShader.stage = .pixel := by
    rintro k createdShader ⟨episode, hepisode, hcreates⟩
    have hrecord :
      (creations pixelMemory emptyStart [pixelEpisode 0x10100, pixelEpisode 0x10400])[k]? =
        some (some createdShader) := by
      rw [getElem?_creations, hepisode, Option.map_some, hcreates.createdBy_eq]
    simpa using hstages _ (List.mem_of_getElem? hrecord)
  have haddresses : ∀ k textAddress createdShader,
      [pixelEpisode 0x10100, pixelEpisode 0x10400][k]? = some (pixelEpisode textAddress) →
      CreatedAt pixelMemory emptyStart [pixelEpisode 0x10100, pixelEpisode 0x10400] k
        createdShader →
      createdShader.codeAddress = textAddress ∧ createdShader.shaderHandle = ⟨0x10000⟩ := by
    rintro k textAddress createdShader hk ⟨episode, hepisode, hcreates⟩
    rw [hk, Option.some.injEq] at hepisode
    subst hepisode
    exact hcreates.addresses
  obtain ⟨first, hcreated⟩ :=
    (hserved 0 (pixelEpisode 0x10100) rfl).mpr ⟨asksForShader_pixelEpisode _, _, hfirst⟩
  obtain ⟨second, hcreated'⟩ :=
    (hserved 1 (pixelEpisode 0x10400) rfl).mpr ⟨asksForShader_pixelEpisode _, _, hsecond⟩
  obtain ⟨hcode, hheader⟩ := haddresses 0 0x10100 first rfl hcreated
  obtain ⟨-, hheader'⟩ := haddresses 1 0x10400 second rfl hcreated'
  refine ⟨⟨first, ((hpixel 0x10100).found first).mpr ⟨0, ⟨hcreated, ?_⟩, ?_⟩⟩, ?_⟩
  · rw [Bool.and_eq_true, beq_iff_eq, beq_iff_eq]
    exact ⟨hstage 0 first hcreated, hcode⟩
  · rintro (_ | _ | k) other ⟨hother, haccepted⟩
    · rfl
    · rw [Bool.and_eq_true, beq_iff_eq, beq_iff_eq, (haddresses 1 0x10400 other rfl hother).1]
        at haccepted
      exact absurd haccepted.2 (by decide)
    · obtain ⟨episode, hepisode, -⟩ := hother
      cases hepisode
  · rw [(hhandle ⟨0x10000⟩).ambiguous ⟨0, 1, first, second, by decide,
      ⟨hcreated, beq_iff_eq.mpr hheader⟩, ⟨hcreated', beq_iff_eq.mpr hheader'⟩⟩, hcount]

/-! ### How long a shader is true of guest memory -/

/-- The bytes of its header. -/
def CreatedAgcShader.InHeader (createdShader : CreatedAgcShader) (x : ℕ) : Prop :=
  createdShader.shaderHeaderAddress.toNat ≤ x ∧
    x < createdShader.shaderHeaderAddress.toNat + createdShader.shader.declaredHeaderSize.toNat

/-- The bytes of guest memory that a shader in the registry was read from. -/
def CreatedAgcShader.ReadFrom (createdShader : CreatedAgcShader) (x : ℕ) : Prop :=
  createdShader.InHeader x ∨
    (createdShader.shaderTextAddress.toNat ≤ x ∧
      x < createdShader.shaderTextAddress.toNat + createdShader.shader.declaredShaderTextSize.toNat)

/-- The bytes where a call wants the handle. -/
def GuestEpisode.InOutputSlot (episode : GuestEpisode) (x : ℕ) : Prop :=
  episode.stop.context.rdi.toNat ≤ x ∧ x < episode.stop.context.rdi.toNat + 8

/-- A run changes none of the bytes that are to be kept: what the guest leaves in them when it calls
is what it found, and a call that creates a shader hands them back as they were. -/
structure LeavesAlone (memory : GuestMemoryAccess) (start : HleDispatchState)
    (episodes : List GuestEpisode) (kept : ℕ → Prop) : Prop where
  guest : ∀ j episode, episodes[j]? = some episode → ∀ x, kept x →
    episode.bytes x = (dispatchAll memory start (episodes.take j)).guestBytes x
  calls : ∀ j episode other, episodes[j]? = some episode →
    Creates memory (dispatchAll memory start (episodes.take j)) episode other → ∀ x, kept x →
      (dispatchEpisode memory (dispatchAll memory start (episodes.take j)) episode).2.guestBytes x =
        episode.bytes x

section Kept

variable {memory : GuestMemoryAccess} {start : HleDispatchState} {episode : GuestEpisode}
  {episodes : List GuestEpisode} {createdShader : CreatedAgcShader} {kept : ℕ → Prop}

theorem CreatedAgcShader.TrueOf.congr {bytes bytes' : ℕ → UInt8}
    (hsame : ∀ x, createdShader.ReadFrom x → bytes' x = bytes x) :
    createdShader.TrueOf bytes' ↔ createdShader.TrueOf bytes := by
  have htext : load bytes' createdShader.shaderTextAddress.toNat
    createdShader.shader.declaredShaderTextSize.toNat =
      load bytes createdShader.shaderTextAddress.toNat
        createdShader.shader.declaredShaderTextSize.toNat :=
    load_eq_load_iff.mpr fun i hi => hsame _ (.inr ⟨Nat.le_add_right _ _, Nat.add_lt_add_left hi _⟩)
  have hheader : load bytes' createdShader.shaderHeaderAddress.toNat
    createdShader.shader.declaredHeaderSize.toNat =
      load bytes createdShader.shaderHeaderAddress.toNat
        createdShader.shader.declaredHeaderSize.toNat :=
    load_eq_load_iff.mpr fun i hi => hsame _ (.inl ⟨Nat.le_add_right _ _, Nat.add_lt_add_left hi _⟩)
  constructor <;> rintro ⟨h, h'⟩
  · exact ⟨htext ▸ h, hheader ▸ h'⟩
  · exact ⟨htext.symm ▸ h, hheader.symm ▸ h'⟩

/-- A creation writes to its header and to the slot for the handle only. -/
theorem Creates.guestBytes_of_apart {state : HleDispatchState}
    (h : Creates memory state episode createdShader) {x : ℕ} (hheader : ¬ createdShader.InHeader x)
    (hslot : ¬ episode.InOutputSlot x) :
    (dispatchEpisode memory state episode).2.guestBytes x = episode.bytes x := by
  obtain ⟨functionId, create, listOffset, preparation, hshader, hbytes⟩ := h.made
  rw [hbytes]
  refine storeAll_frame (fun p hp hhits => ?_) episode.bytes
  rw [hshader.prepared.patches_eq, List.mem_append] at hp
  rw [CreatedAgcShader.InHeader, hshader.headerAddress, hshader.shader] at hheader
  rcases hp with hp | hp
  · obtain ⟨hlow, hhigh⟩ := hshader.prepared.inside hshader.created hp
    exact hheader ⟨le_trans hlow hhits.1, lt_of_lt_of_le hhits.2 hhigh⟩
  · rw [List.mem_singleton] at hp
    rw [hp, outputPatch, SceAgcShaderPatch.toPatch, hshader.created.request] at hhits
    exact hslot hhits

theorem dispatchAll_append (memory : GuestMemoryAccess) (start : HleDispatchState)
    (episodes later : List GuestEpisode) :
    dispatchAll memory start (episodes ++ later) =
      dispatchAll memory (dispatchAll memory start episodes) later := by
  induction episodes generalizing start with
  | nil => rfl
  | cons episode episodes ih => exact ih _

theorem LeavesAlone.tail (h : LeavesAlone memory start (episode :: episodes) kept) :
    LeavesAlone memory (dispatchEpisode memory start episode).2 episodes kept where
  guest j := h.guest (j + 1)
  calls j := h.calls (j + 1)

/-- **What is left alone stays.** -/
theorem LeavesAlone.guestBytes (h : LeavesAlone memory start episodes kept) {x : ℕ} (hx : kept x) :
    (dispatchAll memory start episodes).guestBytes x = start.guestBytes x := by
  induction episodes generalizing start with
  | nil => rfl
  | cons episode episodes ih =>
    have hguest : episode.bytes x = start.guestBytes x := h.guest 0 episode rfl x hx
    rw [dispatchAll, ih h.tail, ← hguest]
    rcases dispatchEpisode_cases memory start episode with ⟨other, hcreates⟩ | hpasses
    · exact h.calls 0 episode other rfl hcreates x hx
    · rw [hpasses.bytes]

end Kept

/-- **How long a created shader is true of guest memory.** It stays in the registry, whatever
follows. In a run that changes neither its header nor its text after it was created, whatever else
the guest writes and creates, the registry has at the end what guest memory holds exactly when the
relocation of the header at its creation changed neither the text nor the registers. -/
theorem createdShader_stays_true (memory : GuestMemoryAccess) (start : HleDispatchState)
    (before later : List GuestEpisode) (episode : GuestEpisode) (createdShader : CreatedAgcShader)
    (hcreated : Creates memory (dispatchAll memory start before) episode createdShader) :
    createdShader ∈
      (dispatchAll memory start (before ++ episode :: later)).createdAgcShaders.shaders ∧
    (LeavesAlone memory (dispatchAll memory start (before ++ [episode])) later
      createdShader.ReadFrom →
    (createdShader.TrueOf (dispatchAll memory start (before ++ episode :: later)).guestBytes ↔
      RelocationApart episode.bytes episode.stop.context.rsi.toNat episode.stop.context.rdx)) := by
  have hrun : dispatchAll memory start (before ++ episode :: later) =
      dispatchAll memory (dispatchAll memory start (before ++ [episode])) later := by
    rw [← dispatchAll_append, List.append_assoc]
    rfl
  have hstep : dispatchAll memory start (before ++ [episode]) =
      (dispatchEpisode memory (dispatchAll memory start before) episode).2 :=
    dispatchAll_append memory start before [episode]
  obtain ⟨functionId, create, listOffset, preparation, hshader, hbytes⟩ := hcreated.made
  constructor
  · rw [hrun, shaders_dispatchAll, hstep, hcreated.shaders]
    exact List.mem_append_left _ (List.mem_append_right _ (List.mem_singleton_self _))
  · intro halone
    have htrue := hshader.trueOf_iff
    rw [hshader.created.request] at htrue
    rw [hrun, CreatedAgcShader.TrueOf.congr fun x hx => halone.guestBytes hx, hstep, hbytes]
    exact htrue

/-- What the creation of the pixel shader leaves. -/
def pixelCreated : HleDispatchState :=
  (dispatchEpisode pixelMemory emptyStart (pixelEpisode 0x10100)).2

/-- A guest that has put another copy of the header behind the first shader, and has a shader
created of it. -/
def elsewhereEpisode : GuestEpisode where
  host := Host.plentiful
  bytes x := if 0x10800 ≤ x then pixelHeader.getD (x - 0x10800) 0 else pixelCreated.guestBytes x
  registry := pixelRegistry
  gateRegion := pixelGate
  stop := ⟨.hostGate, { rdi := 0x10a00, rsi := 0x10800, rdx := 0x10900 }, true, 0⟩

set_option maxRecDepth 10000 in

/-- The guest writes a second header and the call relocates it: the first shader stays true, and the
registry has both. -/
theorem createdShader_stays_true_example :
    ∃ createdShader,
      createdShader ∈ (dispatchAll pixelMemory emptyStart
        [pixelEpisode 0x10100, elsewhereEpisode]).createdAgcShaders.shaders ∧
      createdShader.TrueOf
        (dispatchAll pixelMemory emptyStart [pixelEpisode 0x10100, elsewhereEpisode]).guestBytes ∧
      (dispatchAll pixelMemory emptyStart
        [pixelEpisode 0x10100, elsewhereEpisode]).createdAgcShaders.shaders.length = 2 := by
  have hserved : (dispatchEpisode pixelMemory emptyStart (pixelEpisode 0x10100)).1 =
      .ok ⟨.resume, 0⟩ := by
    decide +kernel
  have hbounds : ∀ shader ∈ pixelCreated.createdAgcShaders.shaders,
      shader.shaderHeaderAddress.toNat + shader.shader.declaredHeaderSize.toNat ≤ 0x10800 ∧
        shader.shaderTextAddress.toNat + shader.shader.declaredShaderTextSize.toNat ≤
          0x10800 := by decide +kernel
  have hother : ∀ shader ∈ createdBy pixelMemory pixelCreated elsewhereEpisode,
      0x10800 ≤ shader.shaderHeaderAddress.toNat := by decide +kernel
  rcases dispatchEpisode_cases pixelMemory emptyStart (pixelEpisode 0x10100)
    with ⟨createdShader, hcreates⟩ | hpasses
  · have hmem : createdShader ∈ pixelCreated.createdAgcShaders.shaders := by
      rw [pixelCreated, hcreates.shaders]
      exact List.mem_append_right _ (List.mem_singleton_self _)
    obtain ⟨hheader, htext⟩ := hbounds createdShader hmem
    have hlow : ∀ x, createdShader.ReadFrom x → x < 0x10800 := by
      rintro x (⟨-, hlt⟩ | ⟨-, hlt⟩) <;> omega
    have halone : LeavesAlone pixelMemory
      (dispatchAll pixelMemory emptyStart ([] ++ [pixelEpisode 0x10100]))
        [elsewhereEpisode] createdShader.ReadFrom := by
      constructor
      · rintro (_ | j) episode hepisode x hx
        · obtain rfl := Option.some.inj hepisode
          exact if_neg (Nat.not_le.mpr (hlow x hx))
        · cases hepisode
      · rintro (_ | j) episode other hepisode hcreates' x hx
        · obtain rfl := Option.some.inj hepisode
          have habove := hother other hcreates'.createdBy_eq
          refine hcreates'.guestBytes_of_apart (fun hin => ?_) (fun hslot => ?_)
          · exact absurd (habove.trans hin.1) (Nat.not_le.mpr (hlow x hx))
          · have hfar : 0x10a00 ≤ x := hslot.1
            exact absurd (hlow x hx) (by omega)
        · cases hepisode
    obtain ⟨hkept, htrue⟩ := createdShader_stays_true pixelMemory emptyStart [] [elsewhereEpisode]
      (pixelEpisode 0x10100) createdShader hcreates
    exact ⟨createdShader, hkept, (htrue halone).mpr ⟨by decide +kernel, by decide +kernel⟩, by
      decide +kernel⟩
  · exact absurd ⟨asksForShader_pixelEpisode _, _, hserved⟩ hpasses.unserved

end Astraea.Execution
