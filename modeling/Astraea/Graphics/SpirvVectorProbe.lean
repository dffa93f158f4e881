import Astraea.Graphics.ShaderVectorExecution
import Astraea.Spirv.Binary

/-!
# The vector probe

`lower_shader_ir_to_spirv_vector_probe` makes a SPIR-V module of a straight-line program. The
module has one invocation for each lane of a wave and one buffer of words, in which the lanes of
a vector register follow one another. At its start the function makes a pointer to the word of
its lane for each register that the program names; the operations load and store through them.

Ids are handed out by a counter of 32 bits, which nothing checks.
-/

namespace Astraea.Graphics

open Astraea.Base Astraea.Core

/-- Version 1.6. -/
def kSpirvVersion16 : UInt32 := 0x00010600

/-- The bytes of a word. -/
def kWordSizeBytes : UInt32 := 4

/-- The set of the buffer. -/
def kDescriptorSet : UInt32 := 0

/-- The binding of the buffer. -/
def kBinding : UInt32 := 0

/-- What a module is asked for. -/
structure SpirvVectorProbeOptions where
  waveSize : ShaderWaveSize := .unspecified
  deriving DecidableEq

/-- Where a module has the words of its buffer. -/
structure SpirvVectorProbeLayout where
  descriptorSet : UInt32 := 0
  binding : UInt32 := 0
  wordSizeBytes : UInt32 := 4
  waveSize : UInt32 := 0
  vgprStrideWords : UInt32 := 0
  requiredVgprCount : UInt32 := 0
  requiredStateWordCount : UInt32 := 0
  deriving DecidableEq

/-- A module and the layout of its buffer. -/
structure SpirvVectorProbeModule where
  words : List UInt32
  layout : SpirvVectorProbeLayout
  deriving DecidableEq

/-- Why a program has no module. -/
inductive SpirvVectorProbeErrorCode where
  | invalidWaveSize
  | missingEndProgram
  | duplicateEndProgram
  | operationAfterEndProgram
  | unsupportedOperation
  | hostAllocationFailure
  deriving DecidableEq

/-- A program that has no module, with the emission it is about. -/
structure SpirvVectorProbeError where
  code : SpirvVectorProbeErrorCode := .unsupportedOperation
  emissionIndex : ℕ := 0
  unsupportedReason : Option ShaderIrUnsupportedReason := none
  deriving DecidableEq

/-- `wave_size_words`. -/
def waveSizeWords : ShaderWaveSize → UInt32
  | .wave32 => 32
  | .wave64 => 64
  | .unspecified => 0

/-! ### The shape of a program -/

theorem ShaderIrVgpr.index_lt (register : ShaderIrVgpr) :
    register.index.toNat < kShaderVectorGprCount :=
  register.index.toNat_lt

/-- The number of a vector register. -/
def ShaderIrVgpr.number (register : ShaderIrVgpr) : Fin kShaderVectorGprCount :=
  ⟨register.index.toNat, register.index_lt⟩

/-- The registers that a program uses. -/
structure ProgramShape where
  usedVgprs : Vector Bool kShaderVectorGprCount := Vector.replicate _ false
  hasVgpr : Bool := false
  maxVgpr : UInt8 := 0
  deriving DecidableEq

/-- `mark_vgpr`. -/
def ProgramShape.markVgpr (shape : ProgramShape) (register : ShaderIrVgpr) : ProgramShape where
  usedVgprs := shape.usedVgprs.set register.number.val true register.number.isLt
  hasVgpr := true
  maxVgpr := if shape.hasVgpr = false ∨ register.index > shape.maxVgpr then register.index
    else shape.maxVgpr

/-- The loop of `validate_program_shape`, which leaves whether it met the end of the program. -/
def validateOperations : (index : ℕ) → (sawEnd : Bool) → ProgramShape → List ShaderIrEmission →
    Except SpirvVectorProbeError (Bool × ProgramShape)
  | _, sawEnd, shape, [] => .ok (sawEnd, shape)
  | index, true, _, emission :: _ =>
    match emission.operation with
    | .endProgram => .error ⟨.duplicateEndProgram, index, none⟩
    | _ => .error ⟨.operationAfterEndProgram, index, none⟩
  | index, false, shape, emission :: emissions =>
    match emission.operation with
    | .endProgram => validateOperations (index + 1) true shape emissions
    | .nop _ => validateOperations (index + 1) false shape emissions
    | .vectorMove32 destination source =>
      validateOperations (index + 1) false ((shape.markVgpr destination).markVgpr source) emissions
    | .vectorAddF32 destination source0 source1 =>
      validateOperations (index + 1) false
        (((shape.markVgpr destination).markVgpr source0).markVgpr source1) emissions
    | .unsupported reason => .error ⟨.unsupportedOperation, index, some reason⟩
    | _ => .error ⟨.unsupportedOperation, index, none⟩

/-- `validate_program_shape`. -/
def validateProgramShape (program : ShaderIrProgram) :
    Except SpirvVectorProbeError ProgramShape := do
  let (sawEnd, shape) ← validateOperations 0 false {} program.emissions
  refuseIf (sawEnd = false) ⟨.missingEndProgram, program.emissions.length, none⟩
  return shape

/-- `required_vgpr_count`. -/
def ProgramShape.requiredVgprCount (shape : ProgramShape) : UInt32 :=
  if shape.hasVgpr = false then 0 else shape.maxVgpr.toUInt32 + 1

/-! ### The builder -/

/-- The words so far, and the next free identifier. -/
structure SpirvBuilder where
  words : List UInt32
  nextId : UInt32
  deriving DecidableEq

/-- A builder that has the header of a module, with no bound yet. -/
def SpirvBuilder.initial : SpirvBuilder := ⟨[Spirv.magicNumber, kSpirvVersion16, 0, 0, 0], 1⟩

/-- `allocate_id`. -/
def SpirvBuilder.allocateId (builder : SpirvBuilder) : UInt32 × SpirvBuilder :=
  (builder.nextId, { builder with nextId := builder.nextId + 1 })

/-- `finish`: the bound is the next id. -/
def SpirvBuilder.finish (builder : SpirvBuilder) : List UInt32 := builder.words.set 3 builder.nextId

/-- `encode_string_words`. -/
def encodeStringWords (value : List UInt8) : List UInt32 :=
  (List.range value.length).foldl
    (fun words index => words.modify (index / 4) fun word =>
      word ||| (value.getD index 0).toUInt32 <<< UInt32.ofNat (index % 4 * 8))
    (List.replicate ((value.length + 1 + 3) / 4) 0)

/-- An id for each vector register. -/
abbrev VgprIds := Vector UInt32 kShaderVectorGprCount

/-- The ids that every module has. -/
structure ModuleIds where
  voidType : UInt32
  uintType : UInt32
  floatType : UInt32
  runtimeArrayType : UInt32
  bufferStructType : UInt32
  storageBufferStructPointerType : UInt32
  storageBufferUintPointerType : UInt32
  inputUintPointerType : UInt32
  functionType : UInt32
  zeroConstant : UInt32
  bufferVariable : UInt32
  localIndexVariable : UInt32
  mainFunction : UInt32
  entryLabel : UInt32
  laneValue : UInt32
  deriving DecidableEq

/-- The ids that are handed out first, in order. -/
def SpirvBuilder.allocateModuleIds (builder : SpirvBuilder) : ModuleIds × SpirvBuilder :=
  let (voidType, builder) := builder.allocateId
  let (uintType, builder) := builder.allocateId
  let (floatType, builder) := builder.allocateId
  let (runtimeArrayType, builder) := builder.allocateId
  let (bufferStructType, builder) := builder.allocateId
  let (storageBufferStructPointerType, builder) := builder.allocateId
  let (storageBufferUintPointerType, builder) := builder.allocateId
  let (inputUintPointerType, builder) := builder.allocateId
  let (functionType, builder) := builder.allocateId
  let (zeroConstant, builder) := builder.allocateId
  let (bufferVariable, builder) := builder.allocateId
  let (localIndexVariable, builder) := builder.allocateId
  let (mainFunction, builder) := builder.allocateId
  let (entryLabel, builder) := builder.allocateId
  let (laneValue, builder) := builder.allocateId
  (⟨voidType, uintType, floatType, runtimeArrayType, bufferStructType,
    storageBufferStructPointerType, storageBufferUintPointerType, inputUintPointerType,
    functionType, zeroConstant, bufferVariable, localIndexVariable, mainFunction, entryLabel,
    laneValue⟩, builder)

/-- The loop that hands out an id for the first word of each register that is used. -/
def SpirvBuilder.allocateBaseConstants (usedVgprs : Vector Bool kShaderVectorGprCount) :
    List (Fin kShaderVectorGprCount) → VgprIds → SpirvBuilder → VgprIds × SpirvBuilder
  | [], baseConstantIds, builder => (baseConstantIds, builder)
  | vgpr :: vgprs, baseConstantIds, builder =>
    if usedVgprs.get vgpr = true then
      let (id, builder) := builder.allocateId
      allocateBaseConstants usedVgprs vgprs (baseConstantIds.set vgpr.val id vgpr.isLt) builder
    else allocateBaseConstants usedVgprs vgprs baseConstantIds builder

section Emit

variable (e : Spirv.Enumerants) (ids : ModuleIds)

/-- `emit`. -/
def SpirvBuilder.emit (builder : SpirvBuilder) (opcode : Spirv.Op) (operands : List UInt32) :
    SpirvBuilder :=
  let wordCount := UInt32.ofNat (operands.length + 1)
  { builder with words := builder.words ++ (wordCount <<< 16 ||| e.op opcode) :: operands }

/-- `emit_entry_point`. -/
def SpirvBuilder.emitEntryPoint (functionId localIndexVariableId bufferVariableId : UInt32)
    (builder : SpirvBuilder) :
    SpirvBuilder :=
  let name := encodeStringWords ("main".toList.map fun c => UInt8.ofNat c.toNat)
  builder.emit e .opEntryPoint
    ([e.executionModelGLCompute, functionId] ++ name ++ [localIndexVariableId, bufferVariableId])

/-- The capability, the entry point and the decorations. -/
def SpirvBuilder.emitAnnotations (waveSize : UInt32) (builder : SpirvBuilder) : SpirvBuilder :=
  builder
    |>.emit e .opCapability [e.capabilityShader]
    |>.emit e .opMemoryModel [e.addressingModelLogical, e.memoryModelGLSL450]
    |>.emitEntryPoint e ids.mainFunction ids.localIndexVariable ids.bufferVariable
    |>.emit e .opExecutionMode [ids.mainFunction, e.executionModeLocalSize, waveSize, 1, 1]
    |>.emit e .opDecorate [ids.runtimeArrayType, e.decoration .arrayStride, kWordSizeBytes]
    |>.emit e .opMemberDecorate [ids.bufferStructType, 0, e.decoration .offset, 0]
    |>.emit e .opDecorate [ids.bufferStructType, e.decoration .block]
    |>.emit e .opDecorate [ids.bufferVariable, e.decoration .descriptorSet, kDescriptorSet]
    |>.emit e .opDecorate [ids.bufferVariable, e.decoration .binding, kBinding]
    |>.emit e .opDecorate [ids.localIndexVariable, e.decoration .builtIn,
      e.builtInLocalInvocationIndex]

/-- The types, and the constant zero. -/
def SpirvBuilder.emitTypes (builder : SpirvBuilder) : SpirvBuilder :=
  builder
    |>.emit e .opTypeVoid [ids.voidType]
    |>.emit e .opTypeInt [ids.uintType, 32, 0]
    |>.emit e .opTypeFloat [ids.floatType, 32]
    |>.emit e .opTypeRuntimeArray [ids.runtimeArrayType, ids.uintType]
    |>.emit e .opTypeStruct [ids.bufferStructType, ids.runtimeArrayType]
    |>.emit e .opTypePointer [ids.storageBufferStructPointerType, e.storageClass .storageBuffer,
      ids.bufferStructType]
    |>.emit e .opTypePointer [ids.storageBufferUintPointerType, e.storageClass .storageBuffer,
      ids.uintType]
    |>.emit e .opTypePointer [ids.inputUintPointerType, e.storageClass .input, ids.uintType]
    |>.emit e .opTypeFunction [ids.functionType, ids.voidType]
    |>.emit e .opConstant [ids.uintType, ids.zeroConstant, 0]

/-- The loop over the registers that are used: the constants of their first words. -/
def SpirvBuilder.emitBaseConstants (usedVgprs : Vector Bool kShaderVectorGprCount)
    (waveSize : UInt32) (baseConstantIds : VgprIds) :
    List (Fin kShaderVectorGprCount) → SpirvBuilder → SpirvBuilder
  | [], builder => builder
  | vgpr :: vgprs, builder =>
    if usedVgprs.get vgpr = true then
      let base := UInt32.ofNat vgpr.val * waveSize
      emitBaseConstants usedVgprs waveSize baseConstantIds vgprs
        (builder.emit e .opConstant [ids.uintType, baseConstantIds.get vgpr, base])
    else emitBaseConstants usedVgprs waveSize baseConstantIds vgprs builder

/-- The variables, and the start of the function. -/
def SpirvBuilder.emitFunctionStart (builder : SpirvBuilder) : SpirvBuilder :=
  builder
    |>.emit e .opVariable [ids.storageBufferStructPointerType, ids.bufferVariable,
      e.storageClass .storageBuffer]
    |>.emit e .opVariable [ids.inputUintPointerType, ids.localIndexVariable, e.storageClass .input]
    |>.emit e .opFunction [ids.voidType, ids.mainFunction, e.functionControlNone, ids.functionType]
    |>.emit e .opLabel [ids.entryLabel]
    |>.emit e .opLoad [ids.uintType, ids.laneValue, ids.localIndexVariable]

/-- The loop over the registers that are used: the pointers to the words of the lane. -/
def SpirvBuilder.emitRegisterPointers (usedVgprs : Vector Bool kShaderVectorGprCount)
    (baseConstantIds : VgprIds) :
    List (Fin kShaderVectorGprCount) → VgprIds → SpirvBuilder → VgprIds × SpirvBuilder
  | [], registerPointerIds, builder => (registerPointerIds, builder)
  | vgpr :: vgprs, registerPointerIds, builder =>
    if usedVgprs.get vgpr = true then
      let (flattenedIndex, builder) := builder.allocateId
      let builder := builder.emit e .opIAdd [ids.uintType, flattenedIndex, baseConstantIds.get vgpr,
        ids.laneValue]
      let (pointer, builder) := builder.allocateId
      let builder := builder.emit e .opAccessChain
        [ids.storageBufferUintPointerType, pointer, ids.bufferVariable, ids.zeroConstant,
          flattenedIndex]
      emitRegisterPointers usedVgprs baseConstantIds vgprs
        (registerPointerIds.set vgpr.val pointer vgpr.isLt) builder
    else emitRegisterPointers usedVgprs baseConstantIds vgprs registerPointerIds builder

/-- The pointer of a register. -/
def pointerOf (registerPointerIds : VgprIds) (register : ShaderIrVgpr) : UInt32 :=
  registerPointerIds.get register.number

/-- The loop of a no-operation. -/
def SpirvBuilder.emitNops : (repeatCount : ℕ) → SpirvBuilder → SpirvBuilder
  | 0, builder => builder
  | repeatCount + 1, builder => emitNops repeatCount (builder.emit e .opNop [])

-- The equations of a match with this many wildcards are proved by a deep recursion.
set_option maxRecDepth 2000 in

/-- One round of the loop over the emissions. -/
def SpirvBuilder.emitOperation (registerPointerIds : VgprIds) (builder : SpirvBuilder) :
    ShaderIrOperation → SpirvBuilder
  | .nop repeatCount => builder.emitNops e repeatCount.toNat
  | .vectorMove32 destination source =>
    let (value, builder) := builder.allocateId
    builder
      |>.emit e .opLoad [ids.uintType, value, pointerOf registerPointerIds source]
      |>.emit e .opStore [pointerOf registerPointerIds destination, value]
  | .vectorAddF32 destination source0 source1 =>
    let (source0Bits, builder) := builder.allocateId
    let (source1Bits, builder) := builder.allocateId
    let builder := builder
      |>.emit e .opLoad [ids.uintType, source0Bits, pointerOf registerPointerIds source0]
      |>.emit e .opLoad [ids.uintType, source1Bits, pointerOf registerPointerIds source1]
    let (source0Float, builder) := builder.allocateId
    let (source1Float, builder) := builder.allocateId
    let builder := builder
      |>.emit e .opBitcast [ids.floatType, source0Float, source0Bits]
      |>.emit e .opBitcast [ids.floatType, source1Float, source1Bits]
    let (sum, builder) := builder.allocateId
    let builder := builder.emit e .opFAdd [ids.floatType, sum, source0Float, source1Float]
    let (sumBits, builder) := builder.allocateId
    builder
      |>.emit e .opBitcast [ids.uintType, sumBits, sum]
      |>.emit e .opStore [pointerOf registerPointerIds destination, sumBits]
  | .endProgram => builder.emit e .opReturn []
  | _ => builder

end Emit

/-- The module of a program that has a shape. -/
def emitVectorProbe (e : Spirv.Enumerants) (program : ShaderIrProgram) (waveSize : UInt32)
    (shape : ProgramShape) :
    SpirvVectorProbeModule :=
  let vgprs := List.finRange kShaderVectorGprCount
  let (ids, builder) := SpirvBuilder.initial.allocateModuleIds
  let (baseConstantIds, builder) :=
    builder.allocateBaseConstants shape.usedVgprs vgprs (Vector.replicate _ 0)
  let builder := builder.emitAnnotations e ids waveSize
  let builder := builder.emitTypes e ids
  let builder := builder.emitBaseConstants e ids shape.usedVgprs waveSize baseConstantIds vgprs
  let builder := builder.emitFunctionStart e ids
  let (registerPointerIds, builder) :=
    builder.emitRegisterPointers e ids shape.usedVgprs baseConstantIds vgprs (Vector.replicate _ 0)
  let builder := program.emissions.foldl
    (fun builder emission => builder.emitOperation e ids registerPointerIds emission.operation)
      builder
  let builder := builder.emit e .opFunctionEnd []
  let vgprCount := shape.requiredVgprCount
  { words := builder.finish
    layout :=
      { descriptorSet := kDescriptorSet
        binding := kBinding
        wordSizeBytes := kWordSizeBytes
        waveSize := waveSize
        vgprStrideWords := waveSize
        requiredVgprCount := vgprCount
        requiredStateWordCount := vgprCount * waveSize } }

/-- `lower_shader_ir_to_spirv_vector_probe`. -/
def lowerShaderIrToSpirvVectorProbe (host : Host) (e : Spirv.Enumerants) (program : ShaderIrProgram)
    (options : SpirvVectorProbeOptions) : Except SpirvVectorProbeError SpirvVectorProbeModule := do
  let waveSize := waveSizeWords options.waveSize
  refuseIf (waveSize = 0) ⟨.invalidWaveSize, 0, none⟩
  let shape ← validateProgramShape program
  allocate host .spirvVectorProbe ⟨.hostAllocationFailure, 0, none⟩
    ⟨.hostAllocationFailure, 0, none⟩
  return emitVectorProbe e program waveSize shape

/-! ### Which programs have a shape -/

/-- The operations the probe knows, apart from the end of the program. -/
def ShaderIrOperation.IsProbed : ShaderIrOperation → Prop
  | .nop _ | .vectorMove32 _ _ | .vectorAddF32 _ _ _ => True
  | _ => False

/-- The vector registers an operation names. -/
def ShaderIrOperation.registers : ShaderIrOperation → List ShaderIrVgpr
  | .vectorMove32 destination source => [destination, source]
  | .vectorAddF32 destination source0 source1 => [destination, source0, source1]
  | _ => []

/-- The shape with the registers of operations marked. -/
def ProgramShape.markAll (shape : ProgramShape) (operations : List ShaderIrOperation) :
    ProgramShape :=
  (operations.flatMap ShaderIrOperation.registers).foldl ProgramShape.markVgpr shape

/-- The registers that are used are not greater than the greatest. -/
def ProgramShape.Bounded (shape : ProgramShape) : Prop :=
  ∀ vgpr, shape.usedVgprs.get vgpr = true → shape.hasVgpr = true ∧ vgpr.val ≤ shape.maxVgpr.toNat

section Shape

variable {shape shape' : ProgramShape} {operations : List ShaderIrOperation}
  {emissions : List ShaderIrEmission} {index : ℕ} {program : ShaderIrProgram}

theorem ProgramShape.get_markVgpr (register : ShaderIrVgpr) (vgpr : Fin kShaderVectorGprCount) :
    (shape.markVgpr register).usedVgprs.get vgpr = true ↔
    register.number = vgpr ∨ shape.usedVgprs.get vgpr = true := by
  by_cases hnumber : register.number = vgpr
  · refine iff_of_true ?_ (.inl hnumber)
    rw [← hnumber]
    exact Vector.getElem_set_self register.number.isLt
  · rw [or_iff_right hnumber]
    exact iff_of_eq (congrArg (· = true)
      (Vector.getElem_set_ne register.number.isLt vgpr.isLt fun heq => hnumber (Fin.ext heq)))

theorem ProgramShape.Bounded.markVgpr (h : shape.Bounded) (register : ShaderIrVgpr) :
    (shape.markVgpr register).Bounded := by
  intro vgpr hused
  refine ⟨rfl, ?_⟩
  rw [ProgramShape.get_markVgpr] at hused
  rw [ProgramShape.markVgpr]
  dsimp only
  rcases hused with rfl | hbefore
  · split_ifs with hgreater
    · exact le_rfl
    · have hle := not_or.mp hgreater
      exact UInt8.le_iff_toNat_le.mp (UInt8.not_lt.mp hle.2)
  · obtain ⟨hhas, hle⟩ := h vgpr hbefore
    split_ifs with hgreater
    · have hlt := UInt8.lt_iff_toNat_lt.mp
        (hgreater.resolve_left (by rw [hhas]; exact Bool.true_eq_false_eq_False))
      omega
    · exact hle

variable {registers : List ShaderIrVgpr} {vgpr : Fin kShaderVectorGprCount}

theorem ProgramShape.bounded_foldl (h : shape.Bounded) :
    (registers.foldl ProgramShape.markVgpr shape).Bounded := by
  induction registers generalizing shape with
  | nil => exact h
  | cons register registers ih => exact ih (h.markVgpr register)

theorem ProgramShape.get_foldl :
    (registers.foldl ProgramShape.markVgpr shape).usedVgprs.get vgpr = true ↔
      (∃ register ∈ registers, register.number = vgpr) ∨ shape.usedVgprs.get vgpr = true := by
  induction registers generalizing shape with
  | nil => simp
  | cons register registers ih =>
    rw [List.foldl_cons, ih, ProgramShape.get_markVgpr]
    simp only [List.mem_cons, exists_eq_or_imp]
    rw [or_assoc]
    exact or_left_comm

theorem validateOperations_behindEnd
    (h : validateOperations index true shape emissions = .ok (true, shape')) :
    emissions = [] ∧ shape' = shape := by
  cases emissions with
  | nil =>
    cases h
    exact ⟨rfl, rfl⟩
  | cons emission emissions =>
    rw [validateOperations] at h
    split at h <;> cases h

/-- **The operations that have a shape** are those the probe knows, with one end of the program
behind them. -/
theorem validateOperations_eq_ok_iff :
    validateOperations index false shape emissions = .ok (true, shape') ↔
      ∃ operations, emissions.map ShaderIrEmission.operation = operations ++ [.endProgram] ∧
        (∀ operation ∈ operations, operation.IsProbed) ∧ shape' = shape.markAll operations := by
  induction emissions generalizing index shape with
  | nil =>
    refine iff_of_false (fun h => by cases h) ?_
    rintro ⟨operations, heq, -⟩
    exact absurd heq.symm (by simp)
  | cons emission emissions ih =>
    -- an operation the probe knows marks its registers and goes on
    have hcons : ∀ marked, emission.operation.IsProbed →
        marked = emission.operation.registers.foldl ProgramShape.markVgpr shape →
        (validateOperations (index + 1) false marked emissions = .ok (true, shape') ↔
          ∃ operations, (emission :: emissions).map ShaderIrEmission.operation =
            operations ++ [.endProgram] ∧
            (∀ operation ∈ operations, operation.IsProbed) ∧
              shape' = shape.markAll operations) := by
      rintro marked hprobed rfl
      rw [ih]
      constructor
      · rintro ⟨operations, heq, hall, rfl⟩
        refine ⟨emission.operation :: operations, by rw [List.map_cons, heq, List.cons_append], ?_,
          ?_⟩
        · intro operation hoperation
          rcases List.mem_cons.mp hoperation with rfl | hoperation
          · exact hprobed
          · exact hall operation hoperation
        · rw [ProgramShape.markAll, ProgramShape.markAll, List.flatMap_cons, List.foldl_append]
      · rintro ⟨operations, heq, hall, rfl⟩
        cases operations with
        | nil =>
          rw [List.map_cons, List.nil_append, List.cons.injEq] at heq
          rw [heq.1] at hprobed
          cases hprobed
        | cons operation operations =>
          rw [List.map_cons, List.cons_append, List.cons.injEq] at heq
          obtain ⟨rfl, heq⟩ := heq
          refine ⟨operations, heq, fun other hother => hall other (List.mem_cons_of_mem _ hother),
            ?_⟩
          rw [ProgramShape.markAll, ProgramShape.markAll, List.flatMap_cons, List.foldl_append]
    have hrefused : ¬ emission.operation.IsProbed → emission.operation ≠ .endProgram →
        ¬ ∃ operations, (emission :: emissions).map ShaderIrEmission.operation =
          operations ++ [.endProgram] ∧
          (∀ operation ∈ operations, operation.IsProbed) ∧ shape' = shape.markAll operations := by
      rintro hprobed hend ⟨operations, heq, hall, -⟩
      cases operations with
      | nil =>
        rw [List.map_cons, List.nil_append, List.cons.injEq] at heq
        exact hend heq.1
      | cons operation operations =>
        rw [List.map_cons, List.cons_append, List.cons.injEq] at heq
        rw [heq.1] at hprobed
        exact hprobed (hall operation List.mem_cons_self)
    rw [validateOperations]
    cases hoperation : emission.operation with
    | endProgram =>
      constructor
      · intro h
        obtain ⟨rfl, rfl⟩ := validateOperations_behindEnd h
        exact ⟨[], by rw [List.map_singleton, hoperation]; rfl,
          fun _ hnothing => absurd hnothing List.not_mem_nil, rfl⟩
      · rintro ⟨operations, heq, hall, rfl⟩
        cases operations with
        | nil =>
          rw [List.map_cons, List.nil_append, List.cons.injEq, List.map_eq_nil_iff] at heq
          rw [heq.2]
          rfl
        | cons operation operations =>
          rw [List.map_cons, hoperation, List.cons_append, List.cons.injEq] at heq
          have hfirst := hall operation List.mem_cons_self
          rw [← heq.1] at hfirst
          cases hfirst
    | nop repeatCount => exact hcons _ (by rw [hoperation]; trivial) (by rw [hoperation]; rfl)
    | vectorMove32 destination source =>
      exact hcons _ (by rw [hoperation]; trivial) (by rw [hoperation]; rfl)
    | vectorAddF32 destination source0 source1 =>
      exact hcons _ (by rw [hoperation]; trivial) (by rw [hoperation]; rfl)
    | _ =>
      refine iff_of_false (fun h => by cases h) (hrefused ?_ ?_)
      · rw [hoperation]
        exact id
      · rw [hoperation]
        exact ShaderIrOperation.noConfusion

/-- **The programs that have a shape.** -/
theorem validateProgramShape_eq_ok_iff :
    validateProgramShape program = .ok shape ↔
      ∃ operations, program.emissions.map ShaderIrEmission.operation = operations ++ [.endProgram] ∧
        (∀ operation ∈ operations, operation.IsProbed) ∧
        shape = ProgramShape.markAll {} operations := by
  rw [← @validateOperations_eq_ok_iff _ _ _ 0]
  simp only [validateProgramShape, bind_eq_ok, refuseIf_eq_ok, pure_eq_ok, Bool.not_eq_false,
    Prod.exists]
  constructor
  · rintro ⟨sawEnd, shape', hrun, -, hend, rfl⟩
    rw [hrun, hend]
  · intro h
    exact ⟨true, shape, h, (), rfl, rfl⟩

/-- The registers a program uses are those its operations name. -/
theorem ProgramShape.get_markAll :
    (ProgramShape.markAll {} operations).usedVgprs.get vgpr = true ↔
      ∃ operation ∈ operations, ∃ register ∈ operation.registers, register.number = vgpr := by
  rw [ProgramShape.markAll, ProgramShape.get_foldl]
  have hnone : ({} : ProgramShape).usedVgprs.get vgpr = false := Vector.getElem_replicate vgpr.isLt
  simp only [hnone, Bool.false_eq_true, or_false, List.mem_flatMap]
  constructor
  · rintro ⟨register, ⟨operation, hoperation, hregister⟩, hnumber⟩
    exact ⟨operation, hoperation, register, hregister, hnumber⟩
  · rintro ⟨operation, hoperation, register, hregister, hnumber⟩
    exact ⟨register, ⟨operation, hoperation, hregister⟩, hnumber⟩

/-- Every register that is used lies below the count of the layout. -/
theorem ProgramShape.lt_requiredVgprCount
    (h : (ProgramShape.markAll {} operations).usedVgprs.get vgpr = true) :
    vgpr.val < (ProgramShape.markAll {} operations).requiredVgprCount.toNat := by
  have hbounded : (ProgramShape.markAll {} operations).Bounded := by
    refine ProgramShape.bounded_foldl fun other hother => ?_
    have hnone : ({} : ProgramShape).usedVgprs.get other = false :=
      Vector.getElem_replicate other.isLt
    rw [hnone] at hother
    cases hother
  obtain ⟨hhas, hle⟩ := hbounded vgpr h
  have hmax := (ProgramShape.markAll {} operations).maxVgpr.toNat_lt
  rw [ProgramShape.requiredVgprCount, if_neg (by rw [hhas]; exact Bool.true_eq_false_eq_False),
    UInt32.toNat_add, UInt8.toNat_toUInt32, UInt32.toNat_one, Nat.mod_eq_of_lt (by omega)]
  omega

end Shape

end Astraea.Graphics
