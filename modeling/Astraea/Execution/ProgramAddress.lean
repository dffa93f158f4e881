import Astraea.Execution.HleRuntime
import Astraea.Graphics.GraphicsIr

/-!
# From a created shader to its program address and back

`sceAgcCreateShader` splits the address of the code into the words of two program registers.
A command buffer loads them into the shader registers, and the submission puts the address
together again to find the shader in the registry. `programAddress_roundTrip` says that this
leads back to the shader it came from.
-/

namespace Astraea.Execution

open Astraea.Base Astraea.Core Astraea.Memory Astraea.Graphics

/-! ### Looking up a shader -/

/-- Why a shader is not found. -/
inductive CreatedAgcShaderLookupErrorCode where
  | notFound
  | ambiguous
  deriving DecidableEq

/-- A shader that is not found by its code. -/
structure CreatedAgcShaderLookupError where
  code : CreatedAgcShaderLookupErrorCode
  programAddress : UInt64
  matchCount : ℕ
  deriving DecidableEq

/-- A shader that is not found by its code and stage. -/
structure CreatedAgcShaderStageLookupError where
  code : CreatedAgcShaderLookupErrorCode
  programAddress : UInt64
  stage : AgcShaderStage
  matchCount : ℕ
  deriving DecidableEq

/-- A shader that is not found by its handle. -/
structure CreatedAgcShaderHandleLookupError where
  code : CreatedAgcShaderLookupErrorCode
  shaderHandle : GuestAddress
  matchCount : ℕ
  deriving DecidableEq

namespace CreatedAgcShaderRegistry

/-- One turn of the loop of a lookup: the first match is kept, and every match is counted. -/
def countMatch (accepts : CreatedAgcShader → Bool) (found : Option CreatedAgcShader × ℕ)
    (shader : CreatedAgcShader) :
    Option CreatedAgcShader × ℕ :=
  if accepts shader = true then (if found.2 + 1 = 1 then some shader else found.1, found.2 + 1)
    else found

/-- The loop of a lookup: the first match, and how many there are. -/
def findMatches (accepts : CreatedAgcShader → Bool) (shaders : List CreatedAgcShader) :
    Option CreatedAgcShader × ℕ :=
  shaders.foldl (countMatch accepts) (none, 0)

/-- The one match, or the error for the number of matches. -/
def lookup {ε : Type} (registry : CreatedAgcShaderRegistry) (accepts : CreatedAgcShader → Bool)
    (error : CreatedAgcShaderLookupErrorCode → ℕ → ε) : Except ε CreatedAgcShader :=
  match findMatches accepts registry.shaders with
  | (some shader, count) =>
    if count = 0 then .error (error .notFound 0) else if count ≠ 1 then
      .error (error .ambiguous count) else .ok shader
  | (none, _) => .error (error .notFound 0)

/-- `lookup_unique`. -/
def lookupUnique (registry : CreatedAgcShaderRegistry) (programAddress : UInt64) :
    Except CreatedAgcShaderLookupError CreatedAgcShader :=
  registry.lookup (fun shader => shader.stage == .pixel && shader.codeAddress == programAddress)
    (fun code count => ⟨code, programAddress, count⟩)

/-- `lookup_unique_by_stage_and_code`. -/
def lookupUniqueByStageAndCode (registry : CreatedAgcShaderRegistry) (programAddress : UInt64)
    (stage : AgcShaderStage) :
    Except CreatedAgcShaderStageLookupError CreatedAgcShader :=
  registry.lookup (fun shader => shader.stage == stage && shader.codeAddress == programAddress)
    (fun code count => ⟨code, programAddress, stage, count⟩)

/-- `lookup_unique_by_handle`. -/
def lookupUniqueByHandle (registry : CreatedAgcShaderRegistry) (shaderHandle : GuestAddress) :
    Except CreatedAgcShaderHandleLookupError CreatedAgcShader :=
  registry.lookup (fun shader => shader.shaderHandle == shaderHandle)
    (fun code count => ⟨code, shaderHandle, count⟩)

theorem findMatches_eq (accepts : CreatedAgcShader → Bool) (shaders : List CreatedAgcShader) :
    findMatches accepts shaders =
      ((shaders.filter accepts).head?, (shaders.filter accepts).length) := by
  induction shaders using List.reverseRecOn with
  | nil => rfl
  | append_singleton shaders shader ih =>
    rw [findMatches, List.foldl_append]
    show countMatch accepts (findMatches accepts shaders) shader = _
    rw [ih, List.filter_append, List.filter_singleton, countMatch]
    cases haccepts : accepts shader with
    | false => simp
    | true =>
      cases hmatches : shaders.filter accepts with
      | nil => simp
      | cons first rest => simp

/-- **A lookup finds the only match.** -/
theorem lookup_of_only {ε : Type} {registry : CreatedAgcShaderRegistry}
    {accepts : CreatedAgcShader → Bool} {error : CreatedAgcShaderLookupErrorCode → ℕ → ε}
    {shader : CreatedAgcShader} {index : ℕ} (hshader : registry.shaders[index]? = some shader)
    (haccepts : accepts shader = true)
    (honly : ∀ index' shader', registry.shaders[index']? = some shader' → accepts shader' = true →
      index' = index) :
    registry.lookup accepts error = .ok shader := by
  have hfilter : registry.shaders.filter accepts = [shader] := by
    obtain ⟨hlt, hget⟩ := List.getElem?_eq_some_iff.mp hshader
    have hsplit : registry.shaders =
        registry.shaders.take index ++ shader :: registry.shaders.drop (index + 1) := by
      rw [← hget, ← List.drop_eq_getElem_cons hlt, List.take_append_drop]
    have hbefore : (registry.shaders.take index).filter accepts = [] := by
      rw [List.filter_eq_nil_iff]
      intro other hother haccepts'
      obtain ⟨index', hindex', rfl⟩ := List.mem_take_iff_getElem.mp hother
      have := honly index' _ (List.getElem?_eq_getElem (by omega)) haccepts'
      omega
    have hafter : (registry.shaders.drop (index + 1)).filter accepts = [] := by
      rw [List.filter_eq_nil_iff]
      intro other hother haccepts'
      obtain ⟨index', hindex', rfl⟩ := List.mem_drop_iff_getElem.mp hother
      have := honly (index + 1 + index') _ (List.getElem?_eq_getElem (by omega)) haccepts'
      omega
    rw [hsplit, List.filter_append, List.filter_cons_of_pos haccepts, hbefore, hafter]
    rfl
  rw [lookup, findMatches_eq, hfilter]
  rfl

end CreatedAgcShaderRegistry

/-! ### Splitting and joining an address -/

/-- A code address that is aligned and has 48 bits. -/
structure ProgramAddressable (codeAddress : UInt64) : Prop where
  aligned : codeAddress &&& 0xff = 0
  representable : codeAddress >>> 48 = 0

section Address

variable {codeAddress : UInt64}

theorem ProgramAddressable.toNat_eq (h : ProgramAddressable codeAddress) :
    ∃ m < 2 ^ 40, codeAddress.toNat = 2 ^ 8 * m := by
  have haligned : codeAddress.toNat % 2 ^ 8 = 0 := by
    have := congrArg UInt64.toNat h.aligned
    rw [UInt64.toNat_and] at this
    exact (Nat.and_two_pow_sub_one_eq_mod codeAddress.toNat 8).symm.trans this
  have htop : codeAddress.toNat / 2 ^ 48 = 0 := by
    have := congrArg UInt64.toNat h.representable
    rw [UInt64.toNat_shiftRight, Nat.shiftRight_eq_div_pow] at this
    exact this
  refine ⟨codeAddress.toNat / 2 ^ 8, ?_, ?_⟩ <;> omega

theorem toNat_pgmLo (codeAddress : UInt64) :
    (pgmLo codeAddress).toNat = codeAddress.toNat / 2 ^ 8 % 2 ^ 32 := by
  rw [pgmLo, UInt64.toNat_toUInt32, UInt64.toNat_and, UInt64.toNat_shiftRight,
    Nat.shiftRight_eq_div_pow]
  have hmask := Nat.and_two_pow_sub_one_eq_mod (codeAddress.toNat / 2 ^ 8) 32
  exact (congrArg (· % 2 ^ 32) hmask).trans (Nat.mod_mod _ _)

theorem toNat_pgmHi (codeAddress : UInt64) :
    (pgmHi codeAddress).toNat = codeAddress.toNat / 2 ^ 40 % 2 ^ 8 := by
  rw [pgmHi, UInt64.toNat_toUInt32, UInt64.toNat_and, UInt64.toNat_shiftRight,
    Nat.shiftRight_eq_div_pow]
  have hmask := Nat.and_two_pow_sub_one_eq_mod (codeAddress.toNat / 2 ^ 40) 8
  refine (congrArg (· % 2 ^ 32) hmask).trans (Nat.mod_eq_of_lt ?_)
  exact lt_trans (Nat.mod_lt _ (by decide)) (by decide)

theorem pgmHi_and (codeAddress : UInt64) :
    pgmHi codeAddress &&& 0xffffff00 = 0 ∧ pgmHi codeAddress &&& 0xff = pgmHi codeAddress := by
  have hlt : (pgmHi codeAddress).toNat < 2 ^ 8 := by
    rw [toNat_pgmHi]
    exact Nat.mod_lt _ (by decide)
  constructor
  · rw [← UInt32.toNat_inj, UInt32.toNat_and]
    -- the low byte is below the mask, which is a multiple of 256
    show (pgmHi codeAddress).toNat &&& (2 ^ 24 - 1) <<< 8 = 0
    apply Nat.eq_of_testBit_eq
    intro i
    rw [Nat.testBit_and, Nat.zero_testBit, Nat.testBit_shiftLeft]
    by_cases hi : 8 ≤ i
    · rw [Nat.testBit_lt_two_pow (lt_of_lt_of_le hlt (Nat.pow_le_pow_right (by omega) hi)),
        Bool.false_and]
    · simp [hi]
  · rw [← UInt32.toNat_inj, UInt32.toNat_and]
    exact (Nat.and_two_pow_sub_one_eq_mod _ 8).trans (Nat.mod_eq_of_lt hlt)

/-- **The words of an address join to the address.** -/
theorem ProgramAddressable.join (h : ProgramAddressable codeAddress) :
    (pgmLo codeAddress).toUInt64 <<< 8 ||| (pgmHi codeAddress &&& 0xff).toUInt64 <<< 40 =
      codeAddress := by
  obtain ⟨m, hm, hcode⟩ := h.toNat_eq
  have hlo : (pgmLo codeAddress).toNat = m % 2 ^ 32 := by
    rw [toNat_pgmLo, hcode, Nat.mul_div_cancel_left _ (by decide)]
  have hhi : (pgmHi codeAddress).toNat = m / 2 ^ 32 := by
    rw [toNat_pgmHi, hcode]
    omega
  have hlow : (pgmLo codeAddress).toNat <<< 8 < 2 ^ 40 := by
    rw [hlo, Nat.shiftLeft_eq]
    omega
  rw [(pgmHi_and codeAddress).2, ← UInt64.toNat_inj, UInt64.toNat_or, UInt64.toNat_shiftLeft,
    UInt64.toNat_shiftLeft]
  show (pgmLo codeAddress).toNat <<< 8 % 2 ^ 64 ||| (pgmHi codeAddress).toNat <<< 40 % 2 ^ 64 = _
  have hhigh : (pgmHi codeAddress).toNat <<< 40 < 2 ^ 64 := by
    rw [hhi, Nat.shiftLeft_eq]
    omega
  rw [Nat.mod_eq_of_lt (lt_trans hlow (by decide)), Nat.mod_eq_of_lt hhigh, Nat.or_comm,
    ← Nat.shiftLeft_add_eq_or_of_lt hlow, hlo, hhi, hcode, Nat.shiftLeft_eq, Nat.shiftLeft_eq]
  omega

end Address

/-! ### The round trip -/

/-- The value of the shader register at an index, where the header of a created shader is in guest
memory. -/
def CreatedAgcShader.programWord (createdShader : CreatedAgcShader) (bytes : ℕ → UInt8)
    (index : ℕ) : UInt32 :=
  let listOffset := (createdShader.shader.shaderRegisterListHeaderOffset.getD 0).toNat
  UInt32.ofNat
    (leValue (load bytes (createdShader.shaderHeaderAddress.toNat + (listOffset + (index * 8 + 4)))
    4))

variable {host : Host} {call : HleCall} {preparation : SceAgcShaderPreparationPlan}
  {createdShader : CreatedAgcShader}

/-- A code address that was prepared can be split, and the stage is one of two. -/
theorem programAddressable_of_prepareCreateShader {memory : GuestMemoryAccess} {gateSlot : UInt32}
    {state : HleDispatchState}
    (h : prepareCreateShader host memory gateSlot call state = .ok (preparation, createdShader)) :
    ProgramAddressable createdShader.codeAddress ∧
    (createdShader.stage = .pixel ∨ createdShader.stage = .geometry) := by
  simp only [prepareCreateShader, bind_eq_ok, mapError_eq_ok, pure_eq_ok, Prod.mk.injEq] at h
  obtain ⟨create, -, plan, hplan, shader, hshader, rfl, rfl⟩ := h
  have hmaterialized := materializedFrom_of_materialize hshader
  obtain ⟨registers, _, _, _, _, _, hsteps⟩ := exists_preparationSteps hplan
  rw [hmaterialized.codeAddress, hmaterialized.stage, hsteps.createShader, hsteps.profile]
  refine ⟨⟨hsteps.aligned, hsteps.representable⟩, ?_⟩
  cases registers.profile with
  | v18PixelPublicShape => exact .inl rfl
  | v18GeometryEsPublicShape => exact .inr rfl

/-- The program registers in guest memory hold the words of the code address. -/
theorem ShaderCreated.programWord {bytes : ℕ → UInt8} {create : SceAgcCreateShaderPlan}
    {listOffset : UInt64}
    (h : ShaderCreated call bytes create listOffset preparation createdShader) :
    createdShader.programWord (preparation.stored bytes) 0 = pgmLo createdShader.codeAddress ∧
      createdShader.programWord (preparation.stored bytes) 1 = pgmHi createdShader.codeAddress := by
  have hword : ∀ offset (value : UInt32),
      (create.request.shaderHeaderAddress.toNat + (listOffset.toNat + offset),
        leBytes 4 value.toNat) ∈
        programRelocations create.request.shaderHeaderAddress.toNat listOffset.toNat
          create.request.shaderTextAddress.value →
      leValue (load (preparation.stored bytes)
        (create.request.shaderHeaderAddress.toNat + (listOffset.toNat + offset)) 4) =
        value.toNat := by
    intro offset value hmem
    have hpatch : _ ∈ preparation.patches.map SceAgcShaderPatch.toPatch :=
      h.prepared.patches_eq ▸ List.mem_append_left _ (List.mem_append_right _ hmem)
    have hload := load_storeAll h.prepared.disjoint hpatch bytes
    rw [length_leBytes] at hload
    rw [SceAgcShaderPreparationPlan.stored, hload]
    exact leValue_leBytes_of_lt value.toNat_lt
  have hlist : (createdShader.shader.shaderRegisterListHeaderOffset.getD 0).toNat =
      listOffset.toNat := by
    rw [h.shader, h.prepared.listOffset_eq, Option.getD_some]
  simp only [CreatedAgcShader.programWord, h.codeAddress, h.headerAddress, hlist]
  constructor
  · rw [hword (0 * 8 + 4) (pgmLo create.request.shaderTextAddress.value) List.mem_cons_self,
      UInt32.ofNat_toNat]
  · rw [hword (1 * 8 + 4) (pgmHi create.request.shaderTextAddress.value)
      (List.mem_cons_of_mem _ List.mem_cons_self), UInt32.ofNat_toNat]

/-- The shader at an index of a registry is the only one there for its stage and code address. -/
structure CreatedAgcShaderRegistry.OnlyAt (registry : CreatedAgcShaderRegistry) (index : ℕ)
    (createdShader : CreatedAgcShader) :
    Prop where
  shader : registry.shaders[index]? = some createdShader
  only : ∀ index' other, registry.shaders[index']? = some other →
    other.stage = createdShader.stage →
    other.codeAddress = createdShader.codeAddress → index' = index

theorem resolve_of_lastLoaded {codeAddress : UInt64} (hcode : ProgramAddressable codeAddress)
    {shaderState : ShaderRegisterState} {frames : List Pm4Type3Frame} {loOffset hiOffset : UInt16}
    (hlo : loOffset.toNat < 0x400) (hhi : hiOffset.toNat < 0x400)
    (hloLoaded : RegisterBank.shader.LastLoaded host frames loOffset.toNat (pgmLo codeAddress))
    (hhiLoaded : RegisterBank.shader.LastLoaded host frames hiOffset.toNat (pgmHi codeAddress)) :
    resolveProgramAddress loOffset hiOffset (RegisterBank.shader.loadAll host shaderState frames) =
      .ok codeAddress := by
  rw [resolveProgramAddress_of_read (RegisterBank.read_loadAll hlo hloLoaded)
    (RegisterBank.read_loadAll hhi hhiLoaded) (pgmHi_and codeAddress).1, hcode.join]

/-- **The round trip of a program address.** A call of `sceAgcCreateShader` that succeeds enters one
shader into the registry. If the words it leaves in the two program registers of the header are what
the frames of a command buffer load last into the registers of the shader's stage, the program
address in these registers is the code address of the shader; and a lookup by that address and the
stage finds the shader wherever it is the only one. -/
theorem programAddress_roundTrip (host : Host) (registry : HleRegistry)
    (gateRegion : SyntheticGateRegion) (stop : ExecutionStop) (memory : GuestMemoryAccess)
    (state : HleDispatchState) (binding : GateBinding) (descriptor : HleFunctionDescriptor)
    (result : HleHandlerResult)
    (hcalled : calledFunction registry gateRegion stop = .ok (binding, descriptor))
    (hid : descriptor.id = kSceAgcCreateShaderHleId)
    (hok : (dispatchHle host registry gateRegion stop memory state).1 = .ok result) :
    ∃ createdShader : CreatedAgcShader,
      (dispatchHle host registry gateRegion stop memory state).2.createdAgcShaders.shaders =
        state.createdAgcShaders.shaders ++ [createdShader] ∧
      (createdShader.stage = .pixel ∨ createdShader.stage = .geometry) ∧
      (∀ lo hi, lo = createdShader.programWord
        (dispatchHle host registry gateRegion stop memory state).2.guestBytes 0 →
        hi = createdShader.programWord
          (dispatchHle host registry gateRegion stop memory state).2.guestBytes 1 →
        ∀ (host' : Host) (shaderState : ShaderRegisterState) (frames : List Pm4Type3Frame),
          (createdShader.stage = .pixel →
            RegisterBank.shader.LastLoaded host' frames kPixelProgramLoRegisterOffset.toNat lo →
            RegisterBank.shader.LastLoaded host' frames kPixelProgramHiRegisterOffset.toNat hi →
            resolvePixelProgramAddress (RegisterBank.shader.loadAll host' shaderState frames) =
              .ok createdShader.codeAddress) ∧
          (createdShader.stage = .geometry →
            RegisterBank.shader.LastLoaded host' frames kGeometryEsProgramLoRegisterOffset.toNat
              lo →
            RegisterBank.shader.LastLoaded host' frames kGeometryEsProgramHiRegisterOffset.toNat
              hi →
            resolveGeometryEsProgramAddress (RegisterBank.shader.loadAll host' shaderState frames) =
              .ok createdShader.codeAddress)) ∧
      ∀ (registry' : CreatedAgcShaderRegistry) (index : ℕ), registry'.OnlyAt index createdShader →
        registry'.lookupUniqueByStageAndCode createdShader.codeAddress createdShader.stage =
          .ok createdShader := by
  rcases dispatchHle_cases host memory state registry gateRegion stop with
    ⟨e, houtcome, -⟩ | ⟨binding', descriptor', hcalled', ⟨-, hcreated⟩ | ⟨hid', -⟩⟩
  · rw [houtcome] at hok
    cases hok
  · obtain ⟨preparation, createdShader, hprepare, -, houtcome⟩ := hcreated
    obtain ⟨create, listOffset, hshader⟩ := shaderCreated_of_prepareCreateShader hprepare
    obtain ⟨hcode, hstage⟩ := programAddressable_of_prepareCreateShader hprepare
    rw [houtcome]
    refine ⟨createdShader, rfl, hstage, ?_, ?_⟩
    · rintro lo hi rfl rfl host' shaderState frames
      simp only [HleDispatchState.withShader, hshader.programWord.1, hshader.programWord.2]
      exact ⟨fun _ hlo hhi => resolve_of_lastLoaded hcode (by decide) (by decide) hlo hhi,
        fun _ hlo hhi => resolve_of_lastLoaded hcode (by decide) (by decide) hlo hhi⟩
    · intro registry' index honly
      refine CreatedAgcShaderRegistry.lookup_of_only honly.shader (by simp) ?_
      intro index' other hother haccepts
      simp only [Bool.and_eq_true, beq_iff_eq] at haccepts
      exact honly.only index' other hother haccepts.1 haccepts.2
  · rw [hcalled] at hcalled'
    cases hcalled'
    exact absurd hid hid'

/-- A packet that loads the two words of the pixel program at `0x10100`. -/
def pixelProgramBytes : List UInt8 := wordsBytes [(4, 0xc0027600), (4, 0x08), (4, 0x101), (4, 0)]

/-- The frame of that packet. -/
def pixelProgramFrame : Pm4Type3Frame :=
  ⟨0, type3Header 0xc0027600, ⟨⟨0, 4⟩, (List.range 4).map (readRawWord pixelProgramBytes)⟩⟩

set_option maxRecDepth 10000 in

/-- The pixel shader created at `0x10100` is found by the words that were loaded. -/
theorem programAddress_roundTrip_pixel :
    ∃ createdShader, (pixelDispatch 0x10100).2.createdAgcShaders.shaders = [createdShader] ∧
      framePm4Type3Stream Host.plentiful pixelProgramBytes = .ok [pixelProgramFrame] ∧
      resolvePixelProgramAddress
        (RegisterBank.shader.loadAll Host.plentiful RegisterState.initial [pixelProgramFrame]) =
          .ok createdShader.codeAddress ∧
      (pixelDispatch 0x10100).2.createdAgcShaders.lookupUniqueByStageAndCode
        createdShader.codeAddress .pixel =
        .ok createdShader := by
  have hok : (pixelDispatch 0x10100).1 = .ok ⟨.resume, 0⟩ := by decide +kernel
  obtain ⟨createdShader, hshaders, -, hresolve, hlookup⟩ :=
    programAddress_roundTrip Host.plentiful pixelRegistry pixelGate
    (pixelStop 0x10100) pixelMemory ⟨[], ⟨[]⟩, pixelBytes⟩ ⟨0, kSceAgcCreateShaderHleId⟩ _
      ⟨.resume, 0⟩ rfl rfl hok
  have hmem : createdShader ∈ (pixelDispatch 0x10100).2.createdAgcShaders.shaders := by
    rw [pixelDispatch, hshaders]
    exact List.mem_append_right _ (List.mem_singleton_self _)
  have hfacts : ∀ shader ∈ (pixelDispatch 0x10100).2.createdAgcShaders.shaders,
    shader.stage = .pixel ∧
      0x101 = shader.programWord (pixelDispatch 0x10100).2.guestBytes 0 ∧
      0 = shader.programWord (pixelDispatch 0x10100).2.guestBytes 1 := by decide +kernel
  obtain ⟨hstage, hlo, hhi⟩ := hfacts createdShader hmem
  have hwritten : RegisterBank.shader.written Host.plentiful pixelProgramFrame =
    some ⟨8, [0x101, 0]⟩ := by decide +kernel
  have hloaded : ∀ register word, (⟨8, [0x101, 0]⟩ : RegisterRange UInt32).valueAt register =
    some word →
      RegisterBank.shader.LastLoaded Host.plentiful [pixelProgramFrame] register word :=
    fun register word hword => ⟨[], pixelProgramFrame, [], rfl, ⟨_, hwritten, hword⟩, by simp⟩
  refine ⟨createdShader, hshaders, by decide +kernel, ?_, ?_⟩
  · exact (hresolve _ _ hlo hhi Host.plentiful RegisterState.initial [pixelProgramFrame]).1 hstage
      (hloaded _ _ (by decide)) (hloaded _ _ (by decide))
  · rw [← hstage]
    refine hlookup _ 0 ⟨?_, fun index other hother _ _ => ?_⟩
    · rw [pixelDispatch, hshaders]
      rfl
    · rw [pixelDispatch, hshaders] at hother
      have := (List.getElem?_eq_some_iff.mp hother).1
      simp at this
      omega

end Astraea.Execution
