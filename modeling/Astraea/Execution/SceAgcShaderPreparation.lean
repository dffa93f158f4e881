import Astraea.Execution.SceAgcCreateShader

/-!
# Preparing a shader header in guest memory

The header of a shader is relocatable: its pointers count from the field they stand in.
`plan_sce_agc_shader_preparation` turns them into guest addresses, enters the address of
the code into the code field and into the first two shader registers, and publishes the
address of the header in the output slot. It plans all of this as patches, none of which
may overlap another; `apply_sce_agc_shader_preparation` checks that every patch can be
written before it writes the first.

`pointerRelocations` and `programRelocations` are the same in the terms of a header and two
addresses, and `preparedFrom_of_plan` says that a plan is these and the output handle.
-/

namespace Astraea.Execution

open Astraea.Base Astraea.Core Astraea.Memory Astraea.Graphics

/-- The layout of a header that is known. -/
inductive SceAgcShaderPreparationProfile where
  | v18PixelPublicShape
  | v18GeometryEsPublicShape
  deriving DecidableEq

/-- What a patch of the header is for. -/
inductive SceAgcShaderPatchKind where
  | userDataPointer
  | codePointer
  | contextRegisterPointer
  | shaderRegisterPointer
  | specialsPointer
  | inputSemanticsPointer
  | outputSemanticsPointer
  | userDataDirectResourcePointer
  | userDataSharpResourcePointer0
  | userDataSharpResourcePointer1
  | userDataSharpResourcePointer2
  | userDataSharpResourcePointer3
  | pixelPgmLoValue
  | pixelPgmHiValue
  | geometryEsPgmLoValue
  | geometryEsPgmHiValue
  | outputHandle
  deriving DecidableEq

/-- A place of the header, and the value it gets. -/
structure SceAgcShaderPatch where
  kind : SceAgcShaderPatchKind
  address : GuestAddress
  bytes : List UInt8
  deriving DecidableEq

/-- The patches of a header, and the handle it is known by. -/
structure SceAgcShaderPreparationPlan where
  createShader : SceAgcCreateShaderPlan
  profile : SceAgcShaderPreparationProfile
  shaderHandle : GuestAddress
  patches : List SceAgcShaderPatch
  deriving DecidableEq

/-- Why a header cannot be prepared. -/
inductive SceAgcShaderPreparationErrorCode where
  | nullOutputPointer
  | unsupportedHeaderVersion
  | unsupportedShaderStage
  | missingRegisterListProvenance
  | canonicalRegisterListMismatch
  | unsupportedPixelProgramRegisterPair
  | unsupportedGeometryProgramRegisterPair
  | shaderCodeAddressMisaligned
  | shaderCodeAddressUnrepresentable
  | selfRelativePointerOverflow
  | selfRelativePointerOutOfBounds
  | userDataTooSmall
  | guestAddressOverflow
  | outputAliasesShaderInput
  | patchOverlap
  | hostAllocationFailure
  deriving DecidableEq

/-- A header that cannot be prepared, with the field it is about. -/
structure SceAgcShaderPreparationError where
  code : SceAgcShaderPreparationErrorCode
  headerByteOffset : Option UInt64 := none
  guestAddress : Option GuestAddress := none
  patchKind : Option SceAgcShaderPatchKind := none
  deriving DecidableEq

/-- The only version of a header that is known. -/
def kSupportedHeaderVersion : UInt32 := 0x18

/-- Where a header points to its user data. -/
def kUserDataField : UInt64 := 0x08

/-- Where a header points to its code. -/
def kCodeField : UInt64 := 0x10

/-- Where a header points to its context registers. -/
def kContextRegistersField : UInt64 := 0x18

/-- Where a header points to its shader registers. -/
def kShaderRegistersField : UInt64 := 0x20

/-- Where a header points to its special registers. -/
def kSpecialsField : UInt64 := 0x28

/-- Where a header points to the semantics of its inputs. -/
def kInputSemanticsField : UInt64 := 0x30

/-- Where a header points to the semantics of its outputs. -/
def kOutputSemanticsField : UInt64 := 0x38

/-- The number of pointers in the user data. -/
def kUserDataPointerFieldCount : ℕ := 5

/-- The bytes of a pointer. -/
def kPointerWidth : ℕ := 8

/-- The bytes of a record of a register. -/
def kRegisterRecordWidth : UInt64 := 8

/-- Where a record has its value. -/
def kRegisterValueOffset : UInt64 := 4

/-- The bytes of a handle. -/
def kOutputHandleWidth : UInt64 := 8

/-- What the stage of a shader decides. -/
structure ProgramRegisters where
  profile : SceAgcShaderPreparationProfile
  pgmLoRegister : UInt16
  pgmHiRegister : UInt16
  pgmLoPatchKind : SceAgcShaderPatchKind
  pgmHiPatchKind : SceAgcShaderPatchKind
  pgmPairError : SceAgcShaderPreparationErrorCode

/-- The two stages that can be prepared. -/
def programRegisters (programType : AgcShaderProgramType) : Option ProgramRegisters :=
  if programType.known = some .pixel ∧ programType.raw = 1 then
    some ⟨.v18PixelPublicShape, 0x0008, 0x0009, .pixelPgmLoValue, .pixelPgmHiValue,
      .unsupportedPixelProgramRegisterPair⟩
  else if programType.known = some .geometry ∧ programType.raw = 2 then
    some ⟨.v18GeometryEsPublicShape, 0x00c8, 0x00c9, .geometryEsPgmLoValue, .geometryEsPgmHiValue,
      .unsupportedGeometryProgramRegisterPair⟩
  else none

/-- The program registers come first, low then high. -/
def programRegisterPair (registers : ProgramRegisters) : List AgcRegisterWrite → Bool
  | low :: high :: _ =>
    low.registerOffset == registers.pgmLoRegister && high.registerOffset == registers.pgmHiRegister
  | _ => false

/-- `guest_address_at`. -/
def guestAddressAt (base : GuestAddress) (offset : UInt64) (headerByteOffset : Option UInt64) :
    Except SceAgcShaderPreparationError GuestAddress :=
  (GuestAddress.checkedAdd base ⟨offset⟩).mapError fun _ =>
    ⟨.guestAddressOverflow, headerByteOffset, base, none⟩

/-- A pointer that is relative to its place, and what it points to. -/
structure ResolvedSelfRelativePointer where
  fieldOffset : UInt64
  targetOffset : UInt64
  fieldAddress : GuestAddress
  targetAddress : GuestAddress
  deriving DecidableEq

/-- `resolve_self_relative_pointer`: nothing where the field is null. -/
def resolveSelfRelativePointer (header : List UInt8) (headerAddress : GuestAddress)
    (fieldOffset : UInt64) :
    Except SceAgcShaderPreparationError (Option ResolvedSelfRelativePointer) := do
  refuseIf (fieldOffset.toNat > header.length ∨ header.length - fieldOffset.toNat < kPointerWidth)
    ⟨.selfRelativePointerOutOfBounds, fieldOffset, none, none⟩
  let raw := u64At header fieldOffset.toNat
  if raw = 0 then
    return none
  else do
    let targetOffset ← orRefuse (checkedAdd fieldOffset raw)
      ⟨.selfRelativePointerOverflow, fieldOffset, none, none⟩
    refuseIf (targetOffset.toNat > header.length) ⟨.selfRelativePointerOutOfBounds, fieldOffset,
      none, none⟩
    let fieldAddress ← guestAddressAt headerAddress fieldOffset fieldOffset
    let targetAddress ← guestAddressAt headerAddress targetOffset fieldOffset
    return some ⟨fieldOffset, targetOffset, fieldAddress, targetAddress⟩

/-- `ranges_overlap`; a range that wraps counts as overlapping. -/
def rangesOverlap (leftAddress : GuestAddress) (leftSize : UInt64) (rightAddress : GuestAddress)
    (rightSize : UInt64) :
    Bool :=
  if leftSize = 0 ∨ rightSize = 0 then false
  else
    match checkedAdd leftAddress.value leftSize, checkedAdd rightAddress.value rightSize with
    | some leftEnd, some rightEnd =>
      decide (leftAddress.value < rightEnd) && decide (rightAddress.value < leftEnd)
    | _, _ => true

/-- `append_patch`. -/
def appendPatch (patches : List SceAgcShaderPatch) (patch : SceAgcShaderPatch) :
    Except SceAgcShaderPreparationError (List SceAgcShaderPatch) := do
  refuseIf (patches.any (fun existing => rangesOverlap existing.address
    (UInt64.ofNat existing.bytes.length) patch.address (UInt64.ofNat patch.bytes.length)) = true)
    ⟨.patchOverlap, none, patch.address, patch.kind⟩
  return patches ++ [patch]

/-- `append_pointer_patch` where the pointer is not null. -/
def appendPointerPatch (patches : List SceAgcShaderPatch) (kind : SceAgcShaderPatchKind)
    (pointer : Option ResolvedSelfRelativePointer) :
    Except SceAgcShaderPreparationError (List SceAgcShaderPatch) :=
  match pointer with
  | some pointer => appendPatch patches ⟨kind, pointer.fieldAddress,
      leBytes 8 pointer.targetAddress.toNat⟩
  | none => .ok patches

/-! ### The plan -/

/-- The pointers of a header. -/
structure HeaderPointers where
  userData : Option ResolvedSelfRelativePointer
  context : Option ResolvedSelfRelativePointer
  shaderRegisters : Option ResolvedSelfRelativePointer
  specials : Option ResolvedSelfRelativePointer
  inputSemantics : Option ResolvedSelfRelativePointer
  outputSemantics : Option ResolvedSelfRelativePointer

/-- The pointers resolved, those of the register lists being the ones the parser followed. -/
def resolveHeaderPointers (header : List UInt8) (headerAddress : GuestAddress)
    (contextList shaderList : UInt64) :
    Except SceAgcShaderPreparationError HeaderPointers := do
  let userData ← resolveSelfRelativePointer header headerAddress kUserDataField
  let context ← resolveSelfRelativePointer header headerAddress kContextRegistersField
  let shaderRegisters ← resolveSelfRelativePointer header headerAddress kShaderRegistersField
  refuseIf (context.map ResolvedSelfRelativePointer.targetOffset ≠ some contextList ∨
      shaderRegisters.map ResolvedSelfRelativePointer.targetOffset ≠ some shaderList)
    { code := .canonicalRegisterListMismatch }
  let specials ← resolveSelfRelativePointer header headerAddress kSpecialsField
  let inputSemantics ← resolveSelfRelativePointer header headerAddress kInputSemanticsField
  let outputSemantics ← resolveSelfRelativePointer header headerAddress kOutputSemanticsField
  return ⟨userData, context, shaderRegisters, specials, inputSemantics, outputSemantics⟩

/-- The user data has room for its pointers. -/
def checkUserData (header : List UInt8) :
    Option ResolvedSelfRelativePointer → Except SceAgcShaderPreparationError Unit
  | some userData => refuseIf (userData.targetOffset.toNat > header.length ∨
      header.length - userData.targetOffset.toNat < kUserDataPointerFieldCount * kPointerWidth)
      ⟨.userDataTooSmall, userData.targetOffset, none, none⟩
  | none => .ok ()

/-- The pointers of the user data, in order. -/
def kNestedKinds : List SceAgcShaderPatchKind :=
  [.userDataDirectResourcePointer, .userDataSharpResourcePointer0, .userDataSharpResourcePointer1,
    .userDataSharpResourcePointer2, .userDataSharpResourcePointer3]

/-- The loop over the pointers of the user data, from the field at `fieldOffset` on. -/
def appendNestedPatches (header : List UInt8) (headerAddress : GuestAddress) :
    List SceAgcShaderPatchKind → (fieldOffset : UInt64) → List SceAgcShaderPatch →
      Except SceAgcShaderPreparationError (List SceAgcShaderPatch)
  | [], _, patches => .ok patches
  | kind :: kinds, fieldOffset, patches => do
    let nested ← resolveSelfRelativePointer header headerAddress fieldOffset
    let patches ← appendPointerPatch patches kind nested
    appendNestedPatches header headerAddress kinds
      (fieldOffset + UInt64.ofNat kPointerWidth) patches

/-- The patches of the user data. -/
def appendUserDataPatches (header : List UInt8) (headerAddress : GuestAddress)
    (userData : Option ResolvedSelfRelativePointer) (patches : List SceAgcShaderPatch) :
    Except SceAgcShaderPreparationError (List SceAgcShaderPatch) :=
  match userData with
  | some userData =>
    appendNestedPatches header headerAddress kNestedKinds userData.targetOffset patches
  | none => .ok patches

/-- The patches of the pointers and of the code field. -/
def pointerPatches (header : List UInt8) (headerAddress : GuestAddress) (codeAddress : UInt64)
    (pointers : HeaderPointers) : Except SceAgcShaderPreparationError (List SceAgcShaderPatch) := do
  let patches ← appendPointerPatch [] .userDataPointer pointers.userData
  let codeFieldAddress ← guestAddressAt headerAddress kCodeField kCodeField
  let patches ← appendPatch patches ⟨.codePointer, codeFieldAddress, leBytes 8 codeAddress.toNat⟩
  let patches ← appendPointerPatch patches .contextRegisterPointer pointers.context
  let patches ← appendPointerPatch patches .shaderRegisterPointer pointers.shaderRegisters
  let patches ← appendPointerPatch patches .specialsPointer pointers.specials
  let patches ← appendPointerPatch patches .inputSemanticsPointer pointers.inputSemantics
  let patches ← appendPointerPatch patches .outputSemanticsPointer pointers.outputSemantics
  appendUserDataPatches header headerAddress pointers.userData patches

/-- The low word of the code address, without its last eight bits. -/
def pgmLo (codeAddress : UInt64) : UInt32 := (codeAddress >>> 8 &&& 0xffffffff).toUInt32

/-- The high byte of the code address. -/
def pgmHi (codeAddress : UInt64) : UInt32 := (codeAddress >>> 40 &&& 0xff).toUInt32

/-- The patches of the two program registers. -/
def programPatches (registers : ProgramRegisters) (headerAddress : GuestAddress)
    (codeAddress shaderList : UInt64) (patches : List SceAgcShaderPatch) :
    Except SceAgcShaderPreparationError (List SceAgcShaderPatch) := do
  let overflow : SceAgcShaderPreparationError := ⟨.guestAddressOverflow, shaderList, none, none⟩
  let pgmLoValueOffset ← orRefuse (checkedAdd shaderList kRegisterValueOffset) overflow
  let secondRecordOffset ← orRefuse (checkedAdd shaderList kRegisterRecordWidth) overflow
  let pgmHiValueOffset ← orRefuse (checkedAdd secondRecordOffset kRegisterValueOffset) overflow
  let pgmLoAddress ← guestAddressAt headerAddress pgmLoValueOffset pgmLoValueOffset
  let pgmHiAddress ← guestAddressAt headerAddress pgmHiValueOffset pgmHiValueOffset
  let patches ← appendPatch patches
    ⟨registers.pgmLoPatchKind, pgmLoAddress, leBytes 4 (pgmLo codeAddress).toNat⟩
  appendPatch patches ⟨registers.pgmHiPatchKind, pgmHiAddress, leBytes 4 (pgmHi codeAddress).toNat⟩

/-- `plan_sce_agc_shader_preparation`. -/
def planSceAgcShaderPreparation (host : Host) (createShader : SceAgcCreateShaderPlan) :
    Except SceAgcShaderPreparationError SceAgcShaderPreparationPlan := do
  let shader := createShader.shader
  let request := createShader.request
  refuseIf (request.outputPointerAddress.value = 0)
    ⟨.nullOutputPointer, none, request.outputPointerAddress, none⟩
  refuseIf (shader.headerVersion ≠ kSupportedHeaderVersion)
    ⟨.unsupportedHeaderVersion, some 4, none, none⟩
  let registers ← orRefuse (programRegisters shader.programType)
    ⟨.unsupportedShaderStage, some 0x5a, none, none⟩
  let codeAddress := request.shaderTextAddress.value
  refuseIf (codeAddress &&& 0xff ≠ 0) ⟨.shaderCodeAddressMisaligned, none,
    request.shaderTextAddress, none⟩
  refuseIf (codeAddress >>> 48 ≠ 0)
    ⟨.shaderCodeAddressUnrepresentable, none, request.shaderTextAddress, none⟩
  let contextList ← orRefuse shader.contextRegisterListHeaderOffset
    { code := .missingRegisterListProvenance }
  let shaderList ← orRefuse shader.shaderRegisterListHeaderOffset
    { code := .missingRegisterListProvenance }
  refuseIf (programRegisterPair registers shader.shaderRegisters = false)
    ⟨registers.pgmPairError, shaderList, none, none⟩
  refuseIf (rangesOverlap request.outputPointerAddress kOutputHandleWidth
    request.shaderHeaderAddress shader.declaredHeaderSize.toUInt64 = true ∨
    rangesOverlap request.outputPointerAddress kOutputHandleWidth request.shaderTextAddress
    shader.declaredShaderTextSize.toUInt64 = true)
    ⟨.outputAliasesShaderInput, none, request.outputPointerAddress, none⟩
  allocate host .shaderPatches { code := .hostAllocationFailure } { code := .hostAllocationFailure }
  let pointers ← resolveHeaderPointers shader.shaderHeaderBytes request.shaderHeaderAddress
    contextList shaderList
  checkUserData shader.shaderHeaderBytes pointers.userData
  let patches ← pointerPatches shader.shaderHeaderBytes request.shaderHeaderAddress codeAddress
    pointers
  let patches ← programPatches registers request.shaderHeaderAddress codeAddress shaderList patches
  let patches ← appendPatch patches
    ⟨.outputHandle, request.outputPointerAddress, leBytes 8 request.shaderHeaderAddress.toNat⟩
  return ⟨createShader, registers.profile, request.shaderHeaderAddress, patches⟩

/-! ### Applying the plan -/

/-- Why patches were not written. -/
inductive SceAgcShaderApplyErrorCode where
  | guestMemoryPreflightFailure
  | guestMemoryWriteFailure
  deriving DecidableEq

/-- Patches that were not written. -/
structure SceAgcShaderApplyError where
  code : SceAgcShaderApplyErrorCode
  patchIndex : ℕ
  patchCount : ℕ
  appliedCount : ℕ
  guestMemoryError : Option GuestMemoryError
  deriving DecidableEq

/-- The patches that were written. -/
structure SceAgcShaderApplyReport where
  shaderHandle : GuestAddress
  appliedPatchCount : ℕ
  deriving DecidableEq

section Apply

variable (memory : GuestMemoryAccess) (patchCount : ℕ)

/-- The first loop: every patch can be written. -/
def preflightPatches : (index : ℕ) → List SceAgcShaderPatch → Except SceAgcShaderApplyError Unit
  | _, [] => .ok ()
  | index, patch :: patches => do
    let _validated ← (memory.preflightWrite patch.address patch.bytes.length).mapError fun e =>
      (⟨.guestMemoryPreflightFailure, index, patchCount, 0, some e⟩ : SceAgcShaderApplyError)
    preflightPatches (index + 1) patches

/-- The second loop: the patches are written. A failure leaves what was written before it. -/
def writePatches : (index : ℕ) → List SceAgcShaderPatch → (bytes : ℕ → UInt8) →
    Except SceAgcShaderApplyError Unit × (ℕ → UInt8)
  | _, [], bytes => (.ok (), bytes)
  | index, patch :: patches, bytes =>
    match memory.write bytes patch.address patch.bytes with
    | .error e => (.error ⟨.guestMemoryWriteFailure, index, patchCount, index, some e⟩, bytes)
    | .ok bytes => writePatches (index + 1) patches bytes

end Apply

/-- `apply_sce_agc_shader_preparation`: the result, and what guest memory holds afterwards. -/
def applySceAgcShaderPreparation (plan : SceAgcShaderPreparationPlan) (memory : GuestMemoryAccess)
    (bytes : ℕ → UInt8) :
    Except SceAgcShaderApplyError SceAgcShaderApplyReport × (ℕ → UInt8) :=
  match preflightPatches memory plan.patches.length 0 plan.patches with
  | .error e => (.error e, bytes)
  | .ok () =>
    let written := writePatches memory plan.patches.length 0 plan.patches bytes
    (written.1.map fun _ => ⟨plan.shaderHandle, plan.patches.length⟩, written.2)

/-- A patch as a store of bytes. -/
def SceAgcShaderPatch.toPatch (patch : SceAgcShaderPatch) : Patch :=
  (patch.address.toNat, patch.bytes)

/-- The guest memory a plan leaves behind. -/
def SceAgcShaderPreparationPlan.stored (plan : SceAgcShaderPreparationPlan) (bytes : ℕ → UInt8) :
    ℕ → UInt8 :=
  storeAll bytes (plan.patches.map SceAgcShaderPatch.toPatch)

/-- Every patch can be written. -/
def Writable (memory : GuestMemoryAccess) (patches : List SceAgcShaderPatch) : Prop :=
  ∀ patch ∈ patches, ∃ n, memory.preflightWrite patch.address patch.bytes.length = .ok n

variable {patches : List SceAgcShaderPatch}

theorem preflightPatches_eq_ok {memory : GuestMemoryAccess} {count index : ℕ} {u : Unit} :
    preflightPatches memory count index patches = .ok u ↔ Writable memory patches := by
  induction patches generalizing index with
  | nil => simp [preflightPatches, Writable]
  | cons patch patches ih => simp [preflightPatches, Writable, ih]

theorem writePatches_of_writable {memory : GuestMemoryAccess} {count index : ℕ}
    (h : Writable memory patches) (bytes : ℕ → UInt8) :
    writePatches memory count index patches bytes =
      (.ok (), storeAll bytes (patches.map SceAgcShaderPatch.toPatch)) := by
  induction patches generalizing index bytes with
  | nil => rfl
  | cons patch patches ih =>
    obtain ⟨n, hn⟩ := h patch List.mem_cons_self
    have hwrite : memory.write bytes patch.address patch.bytes =
        .ok (store bytes patch.address.toNat patch.bytes) := by
      rw [GuestMemoryAccess.preflightWrite] at hn
      simp only [GuestMemoryAccess.write, bind_eq_ok, pure_eq_ok]
      exact ⟨n, hn, trivial⟩
    rw [writePatches, hwrite]
    exact ih (fun p hp => h p (List.mem_cons_of_mem _ hp)) _

theorem apply_of_writable {plan : SceAgcShaderPreparationPlan} {memory : GuestMemoryAccess}
    (h : Writable memory plan.patches) (bytes : ℕ → UInt8) :
    applySceAgcShaderPreparation plan memory bytes =
      (.ok ⟨plan.shaderHandle, plan.patches.length⟩, plan.stored bytes) := by
  rw [applySceAgcShaderPreparation, (preflightPatches_eq_ok (u := ())).mpr h]
  simp only [writePatches_of_writable h]
  rfl

/-- **All or nothing**: a plan is applied whole, or guest memory stays as it is. -/
theorem apply_cases (plan : SceAgcShaderPreparationPlan) (memory : GuestMemoryAccess)
    (bytes : ℕ → UInt8) :
    (Writable memory plan.patches ∧ applySceAgcShaderPreparation plan memory bytes =
      (.ok ⟨plan.shaderHandle, plan.patches.length⟩, plan.stored bytes)) ∨
    ∃ e, applySceAgcShaderPreparation plan memory bytes = (.error e, bytes) := by
  by_cases h : Writable memory plan.patches
  · exact .inl ⟨h, apply_of_writable h bytes⟩
  · refine .inr ?_
    cases hpre : preflightPatches memory plan.patches.length 0 plan.patches with
    | ok u => exact absurd (preflightPatches_eq_ok.mp hpre) h
    | error e => exact ⟨e, by rw [applySceAgcShaderPreparation, hpre]⟩

/-! ### Relocations -/

section Relocations

variable (header : List UInt8) (headerAddress : ℕ)

/-- A pointer field becomes the address it points to; a null field stays. -/
def pointerRelocation (field : ℕ) : List Patch :=
  if u64At header field = 0 then []
  else [(headerAddress + field, leBytes 8 (headerAddress + (field + (u64At header field).toNat)))]

/-- The pointers of the user data, if the header has any. -/
def nestedPointerFields : List ℕ :=
  if u64At header 0x08 = 0 then []
  else (List.range 5).map fun index => 0x08 + (u64At header 0x08).toNat + index * 8

/-- The self-relative pointers of a header. -/
def pointerFields : List ℕ := [0x08, 0x18, 0x20, 0x28, 0x30, 0x38] ++ nestedPointerFields header

/-- The pointers and the code field, relocated. -/
def pointerRelocations (textAddress : ℕ) : List Patch :=
  pointerRelocation header headerAddress 0x08 ++ [(headerAddress + 0x10, leBytes 8 textAddress)] ++
    ([0x18, 0x20, 0x28, 0x30, 0x38] ++ nestedPointerFields header).flatMap
      (pointerRelocation header headerAddress)

/-- The values of the two program registers at the front of the register list. -/
def programRelocations (listOffset : ℕ) (codeAddress : UInt64) : List Patch :=
  [(headerAddress + (listOffset + 4), leBytes 4 (pgmLo codeAddress).toNat),
    (headerAddress + (listOffset + 12), leBytes 4 (pgmHi codeAddress).toNat)]

end Relocations

/-! ### What the plan appends -/

/-- Ranges that do not overlap and are not empty are apart, and do not wrap. -/
theorem apart_of_rangesOverlap {left right : GuestAddress} {leftSize rightSize : UInt64}
    (h : rangesOverlap left leftSize right rightSize = false) (hleft : leftSize ≠ 0)
    (hright : rightSize ≠ 0) :
    left.toNat + leftSize.toNat ≤ right.toNat ∨ right.toNat + rightSize.toNat ≤ left.toNat := by
  unfold rangesOverlap at h
  rw [if_neg (not_or.mpr ⟨hleft, hright⟩)] at h
  cases hl : checkedAdd left.value leftSize with
  | none => simp [hl] at h
  | some leftEnd =>
    cases hr : checkedAdd right.value rightSize with
    | none => simp [hl, hr] at h
    | some rightEnd =>
      have hle := (checkedAdd_eq_some hl).2
      have hre := (checkedAdd_eq_some hr).2
      simp only [hl, hr, Bool.and_eq_false_iff, decide_eq_false_iff_not, UInt64.lt_iff_toNat_lt]
        at h
      simp only [GuestAddress.toNat]
      omega

/-- Patches that do not overlap, each of one word at most. -/
structure Clean (patches : List SceAgcShaderPatch) : Prop where
  disjoint : (patches.map SceAgcShaderPatch.toPatch).Pairwise Patch.Disjoint
  short : ∀ patch ∈ patches, patch.bytes.length ≤ 8

/-- The patches after something was appended to them. -/
structure Appended (patches : List SceAgcShaderPatch) (new : List Patch)
    (patches' : List SceAgcShaderPatch) : Prop where
  eq : patches'.map SceAgcShaderPatch.toPatch = patches.map SceAgcShaderPatch.toPatch ++ new
  clean : Clean patches → Clean patches'

theorem Appended.refl (patches : List SceAgcShaderPatch) : Appended patches [] patches :=
  ⟨by rw [List.append_nil], id⟩

theorem Appended.trans {a b c : List SceAgcShaderPatch} {new new' : List Patch}
    (h : Appended a new b) (h' : Appended b new' c) : Appended a (new ++ new') c :=
  ⟨by rw [h'.eq, h.eq, List.append_assoc], fun hclean => h'.clean (h.clean hclean)⟩

variable {patches' : List SceAgcShaderPatch} {registers : ProgramRegisters} {host : Host}

theorem appended_of_appendPatch {patch : SceAgcShaderPatch} (hshort : patch.bytes.length ≤ 8)
    (h : appendPatch patches patch = .ok patches') :
    Appended patches [patch.toPatch] patches' := by
  simp only [appendPatch, bind_eq_ok, refuseIf_eq_ok, pure_eq_ok, Bool.not_eq_true,
    List.any_eq_false] at h
  obtain ⟨-, hnone, rfl⟩ := h
  refine ⟨by simp, fun hclean => ⟨?_, ?_⟩⟩
  · rw [List.map_append, List.pairwise_append]
    refine ⟨hclean.disjoint, List.pairwise_singleton _ _, ?_⟩
    simp only [List.map_cons, List.map_nil, List.mem_singleton, forall_eq, List.mem_map,
      forall_exists_index, and_imp, forall_apply_eq_imp_iff₂]
    rintro existing hexisting x ⟨⟨h1, h2⟩, h3, h4⟩
    simp only [SceAgcShaderPatch.toPatch] at h1 h2 h3 h4
    have hlen := hclean.short existing hexisting
    have hnat : (UInt64.ofNat existing.bytes.length).toNat = existing.bytes.length :=
      toNat_ofNat_of_lt (by omega)
    have hnat' : (UInt64.ofNat patch.bytes.length).toNat = patch.bytes.length :=
      toNat_ofNat_of_lt (by omega)
    have hapart := apart_of_rangesOverlap (by simpa using hnone existing hexisting)
      (fun h0 => by rw [h0, UInt64.toNat_zero] at hnat; omega)
        (fun h0 => by rw [h0, UInt64.toNat_zero] at hnat'; omega)
    rw [hnat, hnat'] at hapart
    omega
  · intro p hp
    rcases List.mem_append.mp hp with hp | hp
    · exact hclean.short p hp
    · rw [List.mem_singleton] at hp
      rw [hp]
      exact hshort

/-- A pointer field lies in the header, and so does what it points to, which is a guest address. -/
structure FieldFits (header : List UInt8) (headerAddress field : ℕ) : Prop where
  field_le : field + 8 ≤ header.length
  target_le : u64At header field ≠ 0 → field + (u64At header field).toNat ≤ header.length
  target_lt : u64At header field ≠ 0 → headerAddress + (field + (u64At header field).toNat) < 2 ^ 64

section Pointer

variable {header : List UInt8} {headerAddress : GuestAddress} {fieldOffset : UInt64}
  {pointer : Option ResolvedSelfRelativePointer}

theorem toNat_of_guestAddressAt {base address : GuestAddress} {offset : UInt64}
    {headerByteOffset : Option UInt64}
    (h : guestAddressAt base offset headerByteOffset = .ok address) :
    address.toNat = base.toNat + offset.toNat := by
  rw [guestAddressAt, mapError_eq_ok] at h
  exact (GuestAddress.checkedAdd_eq_ok h).2

theorem resolveSelfRelativePointer_eq_ok
    (h : resolveSelfRelativePointer header headerAddress fieldOffset = .ok pointer) :
    FieldFits header headerAddress.toNat fieldOffset.toNat ∧
      ((u64At header fieldOffset.toNat = 0 ∧ pointer = none) ∨
        (u64At header fieldOffset.toNat ≠ 0 ∧ ∃ p, pointer = some p ∧
          p.targetOffset.toNat = fieldOffset.toNat + (u64At header fieldOffset.toNat).toNat ∧
          p.fieldAddress.toNat = headerAddress.toNat + fieldOffset.toNat ∧
          p.targetAddress.toNat = headerAddress.toNat + p.targetOffset.toNat)) := by
  simp only [resolveSelfRelativePointer, bind_eq_ok, refuseIf_eq_ok] at h
  obtain ⟨-, hin, h⟩ := h
  have hfield : fieldOffset.toNat + 8 ≤ header.length := by
    simp only [kPointerWidth] at hin
    omega
  split_ifs at h with hraw
  · rw [pure_eq_ok] at h
    exact ⟨⟨hfield, fun hne => absurd hraw hne, fun hne => absurd hraw hne⟩, .inl ⟨hraw, h.symm⟩⟩
  · simp only [bind_eq_ok, orRefuse_eq_ok, refuseIf_eq_ok, pure_eq_ok] at h
    obtain ⟨targetOffset, htarget, -, hbound, fieldAddress, hfa, targetAddress, hta, rfl⟩ := h
    have hsum := (checkedAdd_eq_some htarget).2
    have hlt := targetAddress.toNat_lt
    rw [toNat_of_guestAddressAt hta] at hlt
    refine ⟨⟨hfield, fun _ => by omega, fun _ => by omega⟩, .inr ⟨hraw, _, rfl, hsum, ?_, ?_⟩⟩
    · exact toNat_of_guestAddressAt hfa
    · exact toNat_of_guestAddressAt hta

theorem appended_of_appendPointerPatch {kind : SceAgcShaderPatchKind}
    (hresolve : resolveSelfRelativePointer header headerAddress fieldOffset = .ok pointer)
    (h : appendPointerPatch patches kind pointer = .ok patches') :
    Appended patches (pointerRelocation header headerAddress.toNat fieldOffset.toNat) patches' := by
  obtain ⟨-, ⟨hzero, rfl⟩ | ⟨hne, p, rfl, htarget, hfa, hta⟩⟩ :=
    resolveSelfRelativePointer_eq_ok hresolve
  · rw [appendPointerPatch] at h
    cases h
    rw [pointerRelocation, if_pos hzero]
    exact .refl _
  · rw [appendPointerPatch] at h
    have happ := appended_of_appendPatch (by simp) h
    rw [SceAgcShaderPatch.toPatch, hfa, hta, htarget] at happ
    rwa [pointerRelocation, if_neg hne]

/-- The loop over the pointers of the user data appends their relocations. -/
theorem appended_of_appendNestedPatches {kinds : List SceAgcShaderPatchKind}
    (hfits : fieldOffset.toNat + kinds.length * 8 < 2 ^ 64)
    (h : appendNestedPatches header headerAddress kinds fieldOffset patches = .ok patches') :
    Appended patches ((List.range kinds.length).flatMap fun index =>
      pointerRelocation header headerAddress.toNat (fieldOffset.toNat + index * 8)) patches' ∧
    ∀ index < kinds.length, FieldFits header headerAddress.toNat
      (fieldOffset.toNat + index * 8) := by
  induction kinds generalizing fieldOffset patches with
  | nil =>
    rw [appendNestedPatches] at h
    cases h
    exact ⟨.refl _, fun index hindex => absurd hindex (Nat.not_lt_zero _)⟩
  | cons kind kinds ih =>
    simp only [appendNestedPatches, bind_eq_ok] at h
    obtain ⟨nested, hresolve, patches1, happend, hrest⟩ := h
    have hnext : (fieldOffset + UInt64.ofNat kPointerWidth).toNat = fieldOffset.toNat + 8 := by
      rw [List.length_cons] at hfits
      rw [UInt64.toNat_add, kPointerWidth, toNat_ofNat_of_lt (by decide),
        Nat.mod_eq_of_lt (by omega)]
    have hlen : (fieldOffset + UInt64.ofNat kPointerWidth).toNat + kinds.length * 8 < 2 ^ 64 := by
      rw [List.length_cons] at hfits
      omega
    obtain ⟨happ, hall⟩ := ih hlen hrest
    rw [hnext] at happ hall
    constructor
    · rw [List.length_cons, List.range_succ_eq_map, List.flatMap_cons, List.flatMap_map,
        Nat.zero_mul, Nat.add_zero]
      refine (appended_of_appendPointerPatch hresolve happend).trans ?_
      convert happ using 4 with index
      omega
    · intro index hindex
      cases index with
      | zero => simpa using (resolveSelfRelativePointer_eq_ok hresolve).1
      | succ index =>
        have := hall index (by simpa using hindex)
        convert this using 1
        omega

end Pointer

section Plan

variable {header : List UInt8} {headerAddress : GuestAddress}

theorem appended_of_appendUserDataPatches {userData : Option ResolvedSelfRelativePointer}
    (hlen : header.length < 2 ^ 64)
    (hresolve : resolveSelfRelativePointer header headerAddress kUserDataField = .ok userData)
    (hcheck : checkUserData header userData = .ok ())
    (h : appendUserDataPatches header headerAddress userData patches = .ok patches') :
    Appended patches ((nestedPointerFields header).flatMap
      (pointerRelocation header headerAddress.toNat)) patches' ∧
      ∀ field ∈ nestedPointerFields header, FieldFits header headerAddress.toNat field := by
  have hfield : kUserDataField.toNat = 0x08 := rfl
  obtain ⟨-, ⟨hzero, rfl⟩ | ⟨hne, p, rfl, htarget, -, -⟩⟩ :=
    resolveSelfRelativePointer_eq_ok hresolve
  · rw [appendUserDataPatches] at h
    cases h
    rw [hfield] at hzero
    rw [nestedPointerFields, if_pos hzero]
    exact ⟨.refl _, nofun⟩
  · rw [checkUserData, refuseIf_eq_ok] at hcheck
    rw [appendUserDataPatches] at h
    rw [hfield] at hne htarget
    simp only [kUserDataPointerFieldCount, kPointerWidth] at hcheck
    obtain ⟨happ, hall⟩ :=
      appended_of_appendNestedPatches (by simp only [kNestedKinds, List.length]; omega) h
    rw [htarget] at happ hall
    rw [nestedPointerFields, if_neg hne, List.flatMap_map]
    refine ⟨happ, fun field hmem => ?_⟩
    obtain ⟨index, hindex, rfl⟩ := List.mem_map.mp hmem
    exact hall index (List.mem_range.mp hindex)

theorem appended_of_pointerPatches {contextList shaderList codeAddress : UInt64}
    {pointers : HeaderPointers} (hlen : header.length < 2 ^ 64)
    (hpointers : resolveHeaderPointers header headerAddress contextList shaderList = .ok pointers)
    (hcheck : checkUserData header pointers.userData = .ok ())
    (h : pointerPatches header headerAddress codeAddress pointers = .ok patches) :
    Appended [] (pointerRelocations header headerAddress.toNat codeAddress.toNat) patches ∧
      ∀ field ∈ pointerFields header, FieldFits header headerAddress.toNat field := by
  simp only [resolveHeaderPointers, bind_eq_ok, refuseIf_eq_ok, pure_eq_ok] at hpointers
  obtain ⟨userData, huser, context, hcontext, registers, hregisters, -, -, specials, hspecials,
    input, hinput, output, houtput, rfl⟩ := hpointers
  simp only [pointerPatches, bind_eq_ok] at h
  obtain ⟨p0, h0, codeField, hcode, p1, h1, p2, h2, p3, h3, p4, h4, p5, h5, p6, h6, h7⟩ := h
  obtain ⟨hnested, hnestedFits⟩ := appended_of_appendUserDataPatches hlen huser hcheck h7
  constructor
  · have hcodePatch := appended_of_appendPatch (by simp) h1
    rw [SceAgcShaderPatch.toPatch, toNat_of_guestAddressAt hcode] at hcodePatch
    have happ := (appended_of_appendPointerPatch huser h0).trans <| hcodePatch.trans <|
      (appended_of_appendPointerPatch hcontext h2).trans <|
        (appended_of_appendPointerPatch hregisters h3).trans <|
      (appended_of_appendPointerPatch hspecials h4).trans <|
        (appended_of_appendPointerPatch hinput h5).trans <|
      (appended_of_appendPointerPatch houtput h6).trans hnested
    simp only [pointerRelocations, List.flatMap_append, List.flatMap_cons, List.flatMap_nil,
      List.append_nil, List.append_assoc]
    exact happ
  · intro field hfield
    simp only [pointerFields, List.mem_append, List.mem_cons, List.not_mem_nil, or_false] at hfield
    rcases hfield with (rfl | rfl | rfl | rfl | rfl | rfl) | hfield
    · exact (resolveSelfRelativePointer_eq_ok huser).1
    · exact (resolveSelfRelativePointer_eq_ok hcontext).1
    · exact (resolveSelfRelativePointer_eq_ok hregisters).1
    · exact (resolveSelfRelativePointer_eq_ok hspecials).1
    · exact (resolveSelfRelativePointer_eq_ok hinput).1
    · exact (resolveSelfRelativePointer_eq_ok houtput).1
    · exact hnestedFits field hfield

/-- The patches of the program registers are their relocations. -/
theorem appended_of_programPatches {codeAddress shaderList : UInt64}
    (h : programPatches registers headerAddress codeAddress shaderList patches = .ok patches') :
    Appended patches (programRelocations headerAddress.toNat shaderList.toNat codeAddress)
      patches' := by
  simp only [programPatches, bind_eq_ok, orRefuse_eq_ok] at h
  obtain ⟨loOffset, hlo, second, hsecond, hiOffset, hhi, loAddress, hla, hiAddress, hha, p0, h0,
    h1⟩ := h
  have hlo' := (checkedAdd_eq_some hlo).2
  have hsecond' := (checkedAdd_eq_some hsecond).2
  have hhi' := (checkedAdd_eq_some hhi).2
  rw [show kRegisterValueOffset.toNat = 4 from rfl] at hlo' hhi'
  rw [show kRegisterRecordWidth.toNat = 8 from rfl] at hsecond'
  have hloPatch := appended_of_appendPatch (by simp) h0
  have hhiPatch := appended_of_appendPatch (by simp) h1
  rw [SceAgcShaderPatch.toPatch, toNat_of_guestAddressAt hla, hlo'] at hloPatch
  rw [SceAgcShaderPatch.toPatch, toNat_of_guestAddressAt hha, hhi', hsecond',
    Nat.add_assoc shaderList.toNat] at hhiPatch
  exact hloPatch.trans hhiPatch

end Plan

/-- The patch that publishes the handle. -/
def outputPatch (request : SceAgcCreateShaderRequest) : SceAgcShaderPatch :=
  ⟨.outputHandle, request.outputPointerAddress, leBytes 8 request.shaderHeaderAddress.toNat⟩

/-- What a preparation is: the relocations of the header, whose register list is at
`listOffset`, and the output handle. -/
structure PreparedFrom (create : SceAgcCreateShaderPlan) (listOffset : UInt64)
    (plan : SceAgcShaderPreparationPlan) :
    Prop where
  createShader : plan.createShader = create
  handle : plan.shaderHandle = create.request.shaderHeaderAddress
  listOffset_eq : create.shader.shaderRegisterListHeaderOffset = some listOffset
  pair : 2 ≤ create.shader.shaderRegisters.length
  patches : ∃ relocations, plan.patches = relocations ++ [outputPatch create.request] ∧
    relocations.map SceAgcShaderPatch.toPatch =
      pointerRelocations create.shader.shaderHeaderBytes create.request.shaderHeaderAddress.toNat
          create.request.shaderTextAddress.toNat ++
        programRelocations create.request.shaderHeaderAddress.toNat listOffset.toNat
          create.request.shaderTextAddress.value
  disjoint : (plan.patches.map SceAgcShaderPatch.toPatch).Pairwise Patch.Disjoint
  fits : ∀ field ∈ pointerFields create.shader.shaderHeaderBytes,
    FieldFits create.shader.shaderHeaderBytes create.request.shaderHeaderAddress.toNat field
  headerApart : rangesOverlap create.request.outputPointerAddress kOutputHandleWidth
    create.request.shaderHeaderAddress
    create.shader.declaredHeaderSize.toUInt64 = false
  textApart : rangesOverlap create.request.outputPointerAddress kOutputHandleWidth
    create.request.shaderTextAddress
    create.shader.declaredShaderTextSize.toUInt64 = false

theorem two_le_of_programRegisterPair {writes : List AgcRegisterWrite}
    (h : programRegisterPair registers writes = true) :
    2 ≤ writes.length := by
  match writes, h with
  | _ :: _ :: _, _ => simp

/-- The steps of a preparation that is planned: what was checked of the shader, and the patches as
they were appended, those of the pointers first, then those of the program registers, and the handle
at the end. -/
structure PreparationSteps (create : SceAgcCreateShaderPlan) (plan : SceAgcShaderPreparationPlan)
    (registers : ProgramRegisters) (contextList shaderList : UInt64) (pointers : HeaderPointers)
    (pointersPatched programPatched : List SceAgcShaderPatch) : Prop where
  aligned : create.request.shaderTextAddress.value &&& 0xff = 0
  representable : create.request.shaderTextAddress.value >>> 48 = 0
  shaderList_eq : create.shader.shaderRegisterListHeaderOffset = some shaderList
  pair : programRegisterPair registers create.shader.shaderRegisters = true
  headerApart : rangesOverlap create.request.outputPointerAddress kOutputHandleWidth
    create.request.shaderHeaderAddress
    create.shader.declaredHeaderSize.toUInt64 = false
  textApart : rangesOverlap create.request.outputPointerAddress kOutputHandleWidth
    create.request.shaderTextAddress
    create.shader.declaredShaderTextSize.toUInt64 = false
  resolved : resolveHeaderPointers create.shader.shaderHeaderBytes
    create.request.shaderHeaderAddress contextList
    shaderList = .ok pointers
  userData : checkUserData create.shader.shaderHeaderBytes pointers.userData = .ok ()
  pointerPatches : pointerPatches create.shader.shaderHeaderBytes create.request.shaderHeaderAddress
    create.request.shaderTextAddress.value pointers = .ok pointersPatched
  programPatches : programPatches registers create.request.shaderHeaderAddress
    create.request.shaderTextAddress.value
    shaderList pointersPatched = .ok programPatched
  outputPatch : appendPatch programPatched (outputPatch create.request) = .ok plan.patches
  createShader : plan.createShader = create
  profile : plan.profile = registers.profile
  handle : plan.shaderHandle = create.request.shaderHeaderAddress

theorem exists_preparationSteps {create : SceAgcCreateShaderPlan}
    {plan : SceAgcShaderPreparationPlan} (h : planSceAgcShaderPreparation host create = .ok plan) :
    ∃ registers contextList shaderList pointers pointersPatched programPatched,
      PreparationSteps create plan registers contextList shaderList pointers pointersPatched
        programPatched := by
  simp only [planSceAgcShaderPreparation, bind_eq_ok, refuseIf_eq_ok, orRefuse_eq_ok,
    allocate_eq_ok, pure_eq_ok, Bool.not_eq_false, not_or, not_not, Bool.not_eq_true] at h
  obtain ⟨-, -, -, -, registers, -, -, haligned, -, hrepresentable, contextList, -, shaderList,
    hlist, -, hpair, -, ⟨hheader, htext⟩, -, -, pointers, hpointers, ⟨⟩, hcheck, p0, h0, p1, h1, p2,
    h2, rfl⟩ := h
  exact ⟨registers, contextList, shaderList, pointers, p0, p1, haligned, hrepresentable, hlist,
    hpair, hheader, htext, hpointers, hcheck, h0, h1, h2, rfl, rfl, rfl⟩

theorem preparedFrom_of_plan {create : SceAgcCreateShaderPlan} {plan : SceAgcShaderPreparationPlan}
    (hlen : create.shader.shaderHeaderBytes.length < 2 ^ 64)
    (h : planSceAgcShaderPreparation host create = .ok plan) :
    ∃ listOffset, PreparedFrom create listOffset plan := by
  obtain ⟨registers, contextList, shaderList, pointers, p0, p1, hsteps⟩ := exists_preparationSteps h
  obtain ⟨happ0, hfits⟩ :=
    appended_of_pointerPatches hlen hsteps.resolved hsteps.userData hsteps.pointerPatches
  have happ1 := happ0.trans (appended_of_programPatches hsteps.programPatches)
  have happ2 := appended_of_appendPatch (by simp [outputPatch]) hsteps.outputPatch
  have heq : plan.patches = p1 ++ [outputPatch create.request] := by
    have happend := hsteps.outputPatch
    simp only [appendPatch, bind_eq_ok, pure_eq_ok] at happend
    obtain ⟨-, -, hpatches⟩ := happend
    exact hpatches.symm
  refine ⟨shaderList, hsteps.createShader, hsteps.handle, hsteps.shaderList_eq,
    two_le_of_programRegisterPair hsteps.pair, ⟨p1, heq, ?_⟩, ?_, hfits, hsteps.headerApart,
      hsteps.textApart⟩
  · rw [happ1.eq]
    rfl
  · exact ((happ1.trans happ2).clean ⟨List.Pairwise.nil, by simp⟩).disjoint

/-! ### The relocated header -/

section Relocated

variable {create : SceAgcCreateShaderPlan} {listOffset : UInt64}
  {plan : SceAgcShaderPreparationPlan} {call : HleCall} {bytes : ℕ → UInt8}

/-- The patches as stores: the relocations, then the handle. -/
theorem PreparedFrom.patches_eq (h : PreparedFrom create listOffset plan) :
    plan.patches.map SceAgcShaderPatch.toPatch =
      pointerRelocations create.shader.shaderHeaderBytes create.request.shaderHeaderAddress.toNat
          create.request.shaderTextAddress.toNat ++
        programRelocations create.request.shaderHeaderAddress.toNat listOffset.toNat
          create.request.shaderTextAddress.value ++
        [(outputPatch create.request).toPatch] := by
  obtain ⟨relocations, heq, hrel⟩ := h.patches
  rw [heq, List.map_append, hrel]
  rfl

theorem mem_pointerRelocations_of_field {header : List UInt8} {headerAddress textAddress field : ℕ}
    (hfield : field ∈ pointerFields header) (hne : u64At header field ≠ 0) :
    (headerAddress + field, leBytes 8 (headerAddress + (field + (u64At header field).toNat))) ∈
      pointerRelocations header headerAddress textAddress := by
  have hmem :
    (headerAddress + field, leBytes 8 (headerAddress + (field + (u64At header field).toNat))) ∈
      pointerRelocation header headerAddress field := by
    rw [pointerRelocation, if_neg hne]
    exact List.mem_singleton_self _
  rw [pointerFields, List.cons_append, List.mem_cons] at hfield
  rcases hfield with rfl | hfield
  · exact List.mem_append_left _ (List.mem_append_left _ hmem)
  · exact List.mem_append_right _ (List.mem_flatMap.mpr ⟨field, hfield, hmem⟩)

/-- A relocation of a pointer or of the code field is eight bytes of a field inside the header. -/
theorem exists_field_of_mem_pointerRelocations {header : List UInt8} {headerAddress textAddress : ℕ}
    {p : Patch} (hfits : ∀ field ∈ pointerFields header, FieldFits header headerAddress field)
    (hmin : kAgcHeaderMinimumSize ≤ header.length)
    (h : p ∈ pointerRelocations header headerAddress textAddress) :
    ∃ field, field + 8 ≤ header.length ∧ p.1 = headerAddress + field ∧ p.2.length = 8 := by
  have hpointer : ∀ field ∈ pointerFields header, p ∈ pointerRelocation header headerAddress field →
      ∃ field, field + 8 ≤ header.length ∧ p.1 = headerAddress + field ∧ p.2.length = 8 := by
    intro field hfield hp
    rw [pointerRelocation] at hp
    split_ifs at hp
    · cases hp
    · rw [List.mem_singleton] at hp
      rw [hp]
      exact ⟨field, (hfits field hfield).field_le, rfl, length_leBytes _ _⟩
  simp only [pointerRelocations, List.mem_append, List.mem_singleton, List.mem_flatMap] at h
  rcases h with (hp | rfl) | ⟨field, hfield, hp⟩
  · exact hpointer 0x08 (List.mem_cons_self) hp
  · refine ⟨0x10, ?_, rfl, length_leBytes _ _⟩
    rw [kAgcHeaderMinimumSize] at hmin
    omega
  · refine hpointer field ?_ hp
    rw [pointerFields, List.cons_append]
    exact List.mem_cons_of_mem _ (List.mem_append.mpr hfield)

/-- The shader registers are the records the header points to, inside the header. -/
theorem PreparedFrom.registerList (h : PreparedFrom create listOffset plan)
    (hcreate : CreatedFrom call bytes create) :
    listOffset.toNat = kAgcShaderRegistersOffset +
      (u64At create.shader.shaderHeaderBytes kAgcShaderRegistersOffset).toNat ∧
    create.shader.shaderRegisters =
      registerRecordsAt create.shader.shaderHeaderBytes listOffset.toNat
      (u8At create.shader.shaderHeaderBytes kAgcShaderRegisterCountOffset).toNat ∧
    listOffset.toNat + (u8At create.shader.shaderHeaderBytes kAgcShaderRegisterCountOffset).toNat *
      kAgcRegisterRecordSize ≤
      create.shader.declaredHeaderSize.toNat := by
  have hlist := hcreate.parsed.shaderRegisters
  rw [h.listOffset_eq, ← hcreate.parsed.headerBytes] at hlist
  rcases hlist with hnone | ⟨offset, hoffset, heq, hbound⟩
  · cases congrArg ParsedRegisterList.headerOffset hnone
  · cases congrArg ParsedRegisterList.headerOffset heq
    have hsize : create.shader.shaderHeaderBytes.length =
        create.shader.declaredHeaderSize.toNat := by
      rw [hcreate.parsed.headerBytes, length_load]
    exact ⟨hoffset, congrArg ParsedRegisterList.writes heq, hsize ▸ hbound⟩

theorem PreparedFrom.inside (h : PreparedFrom create listOffset plan)
    (hcreate : CreatedFrom call bytes create)
    {p : Patch}
      (hp : p ∈ pointerRelocations create.shader.shaderHeaderBytes
      create.request.shaderHeaderAddress.toNat create.request.shaderTextAddress.toNat ++
      programRelocations create.request.shaderHeaderAddress.toNat listOffset.toNat
      create.request.shaderTextAddress.value) :
    create.request.shaderHeaderAddress.toNat ≤ p.1 ∧
      p.1 + p.2.length ≤ create.request.shaderHeaderAddress.toNat +
        create.shader.declaredHeaderSize.toNat := by
  have hparsed := hcreate.parsed
  have hsize : create.shader.shaderHeaderBytes.length = create.shader.declaredHeaderSize.toNat := by
    rw [hparsed.headerBytes, length_load]
  rcases List.mem_append.mp hp with hp | hp
  · have hmin := hparsed.headerMinimum
    rw [← hparsed.headerBytes] at hmin
    obtain ⟨field, hfield, haddr, hlen⟩ := exists_field_of_mem_pointerRelocations h.fits hmin hp
    omega
  · obtain ⟨-, hregisters, hbound⟩ := h.registerList hcreate
    have hpair := h.pair
    rw [hregisters, length_registerRecordsAt] at hpair
    rw [kAgcRegisterRecordSize] at hbound
    simp only [programRelocations, List.mem_cons, List.not_mem_nil, or_false] at hp
    rcases hp with rfl | rfl <;> simp only [length_leBytes] <;> omega

/-- The output slot is apart from a range it does not overlap. -/
theorem outputApart {request : SceAgcCreateShaderRequest} {address : GuestAddress} {size : UInt32}
    (h : rangesOverlap request.outputPointerAddress kOutputHandleWidth address size.toUInt64 =
      false) (hsize : 0 < size.toNat) {x : ℕ} (hx : (outputPatch request).toPatch.Hits x) :
    ¬ (address.toNat ≤ x ∧ x < address.toNat + size.toNat) := by
  have hne : size.toUInt64 ≠ 0 := fun h0 => by
    have := congrArg UInt64.toNat h0
    rw [UInt32.toNat_toUInt64, UInt64.toNat_zero] at this
    omega
  have hapart := apart_of_rangesOverlap h (by decide) hne
  rw [UInt32.toNat_toUInt64, show kOutputHandleWidth.toNat = 8 from rfl] at hapart
  simp only [Patch.Hits, outputPatch, SceAgcShaderPatch.toPatch, length_leBytes] at hx
  omega

/-- **A preparation relocates the header, and does nothing else.** The patches of a plan do not
overlap; all but the last lie inside the header; the last publishes the address of the header
outside header and text. Applied where it can be written, every self-relative pointer becomes
the guest address it points to, and no other byte changes. -/
theorem sceAgcShaderPreparation_relocates (host : Host) (call : HleCall)
    (memory : GuestMemoryAccess) (bytes : ℕ → UInt8) (create : SceAgcCreateShaderPlan)
    (plan : SceAgcShaderPreparationPlan)
    (hcreate : planSceAgcCreateShader host call memory bytes = .ok create)
    (hplan : planSceAgcShaderPreparation host create = .ok plan) :
    (plan.patches.map SceAgcShaderPatch.toPatch).Pairwise Patch.Disjoint ∧
    (∃ relocations, plan.patches = relocations ++ [outputPatch create.request] ∧
      ∀ patch ∈ relocations, create.request.shaderHeaderAddress.toNat ≤ patch.address.toNat ∧
        patch.address.toNat + patch.bytes.length ≤
          create.request.shaderHeaderAddress.toNat + create.shader.declaredHeaderSize.toNat) ∧
    (∀ x, (outputPatch create.request).toPatch.Hits x →
      ¬ (create.request.shaderHeaderAddress.toNat ≤ x ∧
        x < create.request.shaderHeaderAddress.toNat + create.shader.declaredHeaderSize.toNat) ∧
      ¬ (create.request.shaderTextAddress.toNat ≤ x ∧
        x < create.request.shaderTextAddress.toNat + create.shader.declaredShaderTextSize.toNat)) ∧
    ∀ memory' bytes', Writable memory' plan.patches →
      ∃ after, applySceAgcShaderPreparation plan memory' bytes' =
          (.ok ⟨create.request.shaderHeaderAddress, plan.patches.length⟩, after) ∧
        (∀ field ∈ pointerFields create.shader.shaderHeaderBytes,
          u64At create.shader.shaderHeaderBytes field ≠ 0 →
        field + (u64At create.shader.shaderHeaderBytes field).toNat ≤
          create.shader.declaredHeaderSize.toNat ∧
        leValue (load after (create.request.shaderHeaderAddress.toNat + field) 8) =
          create.request.shaderHeaderAddress.toNat +
          (field + (u64At create.shader.shaderHeaderBytes field).toNat)) ∧
        ∀ x, (∀ patch ∈ plan.patches, ¬ patch.toPatch.Hits x) → after x = bytes' x := by
  have hfrom := createdFrom_of_plan hcreate
  have hparsed := hfrom.parsed
  have hsize : create.shader.shaderHeaderBytes.length = create.shader.declaredHeaderSize.toNat := by
    rw [hparsed.headerBytes, length_load]
  have hlen : create.shader.shaderHeaderBytes.length < 2 ^ 64 := by
    rw [hsize]
    exact lt_trans create.shader.declaredHeaderSize.toNat_lt (by decide)
  obtain ⟨listOffset, hprepared⟩ := preparedFrom_of_plan hlen hplan
  refine ⟨hprepared.disjoint, ?_, fun x hx => ⟨?_, ?_⟩, fun memory' bytes' hwritable => ?_⟩
  · obtain ⟨relocations, heq, hrel⟩ := hprepared.patches
    refine ⟨relocations, heq, fun patch hpatch => ?_⟩
    exact hprepared.inside hfrom (hrel ▸ List.mem_map_of_mem hpatch)
  · have hmin := hparsed.headerMinimum
    rw [length_load, kAgcHeaderMinimumSize] at hmin
    exact outputApart hprepared.headerApart (by omega) hx
  · have hmin := hparsed.textMinimum
    rw [length_load, kAgcShaderTextTrailerSize] at hmin
    exact outputApart hprepared.textApart (by omega) hx
  · refine ⟨plan.stored bytes', ?_, fun field hfield hne => ⟨?_, ?_⟩, fun x hx => ?_⟩
    · rw [apply_of_writable hwritable, hprepared.handle]
    · rw [← hsize]
      exact (hprepared.fits field hfield).target_le hne
    · have hmem : (create.request.shaderHeaderAddress.toNat + field, leBytes 8
          (create.request.shaderHeaderAddress.toNat +
            (field + (u64At create.shader.shaderHeaderBytes field).toNat))) ∈
            plan.patches.map SceAgcShaderPatch.toPatch := by
        rw [hprepared.patches_eq, List.append_assoc]
        exact List.mem_append_left _ (mem_pointerRelocations_of_field hfield hne)
      have hload := load_storeAll hprepared.disjoint hmem bytes'
      rw [length_leBytes] at hload
      rw [SceAgcShaderPreparationPlan.stored, hload]
      exact leValue_leBytes_of_lt ((hprepared.fits field hfield).target_lt hne)
    · refine storeAll_frame (fun p hp => ?_) bytes'
      obtain ⟨patch, hpatch, rfl⟩ := List.mem_map.mp hp
      exact hx patch hpatch

end Relocated

/-! ### A pixel shader -/

/-- A header of 120 bytes with one context register, the two program registers of a pixel
shader, and a text of 48 bytes. -/
def pixelHeader : List UInt8 :=
  wordsBytes [(4, 0x34333231), (4, 0x18), (8, 0), (8, 0), (8, 0x60 - 0x18), (8, 0x68 - 0x20),
    (8, 0), (8, 0), (8, 0), (4, 0x78), (4, 0x30), (8, 0), (8, 0), (2, 0), (1, 1), (1, 1), (4, 2),
    (4, 0x0001), (4, 0), (4, 0x0008), (4, 0), (4, 0x0009), (4, 0)]

/-- Guest memory with the header at `0x10000`, and zeros elsewhere. -/
def pixelBytes (x : ℕ) : UInt8 := if 0x10000 ≤ x then pixelHeader.getD (x - 0x10000) 0 else 0

/-- One page that can be read and written. -/
def pixelMemory : GuestMemoryAccess where
  image := bareImage
    [⟨⟨⟨0x10000⟩, ⟨0x1000⟩, by decide⟩, ⟨3, by decide⟩, ⟨.zeroFill, 0, ⟨0x1000⟩⟩, 0⟩] noBytes
  preparedPlan := ⟨0x1000, [⟨⟨⟨0x10000⟩, ⟨0x1000⟩, by decide⟩, ⟨3, by decide⟩, []⟩]⟩
  preparedMemoryAvailable := true

/-- The call that creates the shader, with its text at `textAddress`. -/
def pixelCall (textAddress : UInt64) : HleCall :=
  ⟨kSceAgcCreateShaderHleId, 0, 0, 0, #v[0x10200, 0x10000, textAddress, 0, 0, 0]⟩

set_option maxRecDepth 10000 in

/-- The pointer to the context registers becomes their guest address. -/
theorem sceAgcShaderPreparation_relocates_pixel :
    ∃ create plan after, planSceAgcCreateShader Host.plentiful
      (pixelCall 0x10100) pixelMemory pixelBytes = .ok create ∧
      planSceAgcShaderPreparation Host.plentiful create = .ok plan ∧
      applySceAgcShaderPreparation plan pixelMemory pixelBytes =
        (.ok ⟨⟨0x10000⟩, plan.patches.length⟩, after) ∧
      leValue (load after 0x10018 8) = 0x10060 := by
  have htested :
    (planSceAgcCreateShader Host.plentiful (pixelCall 0x10100) pixelMemory pixelBytes).toOption.any
      (fun create => create.shader.shaderHeaderBytes == pixelHeader &&
        create.request == ⟨⟨0x10200⟩, ⟨0x10000⟩, ⟨0x10100⟩⟩ &&
        (planSceAgcShaderPreparation Host.plentiful create).toOption.any fun plan =>
          (applySceAgcShaderPreparation plan pixelMemory pixelBytes).1.isOk) = true := by
            decide +kernel
  obtain ⟨create, hcreate, hcreated⟩ := exists_of_any htested
  simp only [Bool.and_eq_true, beq_iff_eq] at hcreated
  obtain ⟨⟨hheader, hrequest⟩, hprepared⟩ := hcreated
  obtain ⟨plan, hplan, happlied⟩ := exists_of_any hprepared
  have hwritable : Writable pixelMemory plan.patches := by
    rcases apply_cases plan pixelMemory pixelBytes with ⟨hwritable, -⟩ | ⟨e, he⟩
    · exact hwritable
    · rw [he] at happlied
      cases happlied
  obtain ⟨after, happly, hpointers, -⟩ :=
    (sceAgcShaderPreparation_relocates Host.plentiful (pixelCall 0x10100) pixelMemory pixelBytes
    create plan hcreate hplan).2.2.2 pixelMemory pixelBytes hwritable
  have hpointer := (hpointers 0x18 (by simp [pointerFields]) (by rw [hheader]; decide +kernel)).2
  rw [hheader, hrequest, show (u64At pixelHeader 0x18).toNat = 0x48 by decide +kernel] at hpointer
  rw [hrequest] at happly
  exact ⟨create, plan, after, hcreate, hplan, happly, hpointer⟩

end Astraea.Execution
