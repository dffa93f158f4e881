import Astraea.Graphics.SpirvVectorProbe
import Mathlib.Algebra.Order.Ring.Nat

/-!
# The instructions of the vector probe

The builder appends words and counts ids. Here is what it has built in terms of instructions:
`probeInstructions` lists those of a program, where the id that is handed out `n`-th is `idOf n`,
and `emitVectorProbe_words` says that the words of the module are the header and the words of
these instructions.
-/

namespace Astraea.Graphics

open Spirv (Instruction Op)

/-! ### Ids -/

/-- The id that is handed out `n`-th: the counter has 32 bits. -/
def idOf (n : ℕ) : UInt32 := UInt32.ofNat n

theorem toNat_idOf {n : ℕ} (h : n < 2 ^ 32) : (idOf n).toNat = n := by
  rw [idOf, UInt32.toNat_ofNat', Nat.mod_eq_of_lt h]

theorem idOf_inj {m n : ℕ} (hm : m < 2 ^ 32) (hn : n < 2 ^ 32) : idOf m = idOf n ↔ m = n := by
  rw [← UInt32.toNat_inj, toNat_idOf hm, toNat_idOf hn]

theorem idOf_succ (n : ℕ) : idOf n + 1 = idOf (n + 1) := by
  rw [idOf, idOf, UInt32.ofNat_add]
  rfl

/-- The ids that every module has are the first ones. -/
def moduleIds : ModuleIds := ⟨1, 2, 3, 4, 5, 6, 7, 8, 9, 10, 11, 12, 13, 14, 15⟩

/-- Ids for registers, one every `stride` from `first` on. -/
def fillIds (stride : ℕ) : (first : ℕ) → List (Fin kShaderVectorGprCount) → VgprIds → VgprIds
  | _, [], ids => ids
  | first, vgpr :: vgprs, ids =>
    fillIds stride (first + stride) vgprs (ids.set vgpr.val (idOf first) vgpr.isLt)

section Fill

variable {stride first : ℕ} {vgpr : Fin kShaderVectorGprCount}
  {vgprs : List (Fin kShaderVectorGprCount)} {ids : VgprIds}

theorem fillIds_get_of_notMem (h : vgpr ∉ vgprs) :
    (fillIds stride first vgprs ids).get vgpr = ids.get vgpr := by
  induction vgprs generalizing first ids with
  | nil => rfl
  | cons other vgprs ih =>
    rw [List.mem_cons, not_or] at h
    have hne : other.val ≠ vgpr.val := fun heq => h.1 (Fin.ext heq.symm)
    rw [fillIds, ih h.2]
    exact Vector.getElem_set_ne other.isLt vgpr.isLt hne

theorem fillIds_get (hnodup : vgprs.Nodup) {i : ℕ} (hi : i < vgprs.length) :
    (fillIds stride first vgprs ids).get vgprs[i] = idOf (first + stride * i) := by
  induction vgprs generalizing first ids i with
  | nil => exact absurd hi (Nat.not_lt_zero i)
  | cons other vgprs ih =>
    obtain ⟨hother, hrest⟩ := List.nodup_cons.mp hnodup
    rw [fillIds]
    cases i with
    | zero =>
      rw [List.getElem_cons_zero, fillIds_get_of_notMem hother]
      exact Vector.getElem_set_self other.isLt
    | succ i =>
      rw [List.getElem_cons_succ, ih hrest (Nat.lt_of_succ_lt_succ hi)]
      congr 1
      rw [Nat.mul_succ]
      omega

end Fill

/-! ### The instructions -/

section Instructions

variable (e : Spirv.Enumerants) (waveSize : UInt32) (baseConstantIds registerPointerIds : VgprIds)

/-- The capability, the entry point and the decorations. -/
def annotationInstructions : List Instruction :=
  [⟨.opCapability, [e.capabilityShader]⟩,
    ⟨.opMemoryModel, [e.addressingModelLogical, e.memoryModelGLSL450]⟩,
    ⟨.opEntryPoint, [e.executionModelGLCompute, 13, 0x6e69616d, 0, 12, 11]⟩,
    ⟨.opExecutionMode, [13, e.executionModeLocalSize, waveSize, 1, 1]⟩,
    ⟨.opDecorate, [4, e.decoration .arrayStride, 4]⟩,
    ⟨.opMemberDecorate, [5, 0, e.decoration .offset, 0]⟩,
    ⟨.opDecorate, [5, e.decoration .block]⟩,
    ⟨.opDecorate, [11, e.decoration .descriptorSet, 0]⟩,
    ⟨.opDecorate, [11, e.decoration .binding, 0]⟩,
    ⟨.opDecorate, [12, e.decoration .builtIn, e.builtInLocalInvocationIndex]⟩]

/-- The types, and the constant zero. -/
def typeInstructions : List Instruction :=
  [⟨.opTypeVoid, [1]⟩,
    ⟨.opTypeInt, [2, 32, 0]⟩,
    ⟨.opTypeFloat, [3, 32]⟩,
    ⟨.opTypeRuntimeArray, [4, 2]⟩,
    ⟨.opTypeStruct, [5, 4]⟩,
    ⟨.opTypePointer, [6, e.storageClass .storageBuffer, 5]⟩,
    ⟨.opTypePointer, [7, e.storageClass .storageBuffer, 2]⟩,
    ⟨.opTypePointer, [8, e.storageClass .input, 2]⟩,
    ⟨.opTypeFunction, [9, 1]⟩,
    ⟨.opConstant, [2, 10, 0]⟩]

/-- The constant of the first word of a register. -/
def baseConstantInstruction (vgpr : Fin kShaderVectorGprCount) : Instruction :=
  ⟨.opConstant, [2, baseConstantIds.get vgpr, UInt32.ofNat vgpr.val * waveSize]⟩

/-- The two variables. -/
def variableInstructions : List Instruction :=
  [⟨.opVariable, [6, 11, e.storageClass .storageBuffer]⟩,
    ⟨.opVariable, [8, 12, e.storageClass .input]⟩]

/-- The start of the function, behind its first instruction. -/
def entryInstructions : List Instruction := [⟨.opLabel, [14]⟩, ⟨.opLoad, [2, 15, 12]⟩]

/-- The pointers to the words of the lane, with ids from `n` on. -/
def pointerInstructions : (n : ℕ) → List (Fin kShaderVectorGprCount) → List Instruction
  | _, [] => []
  | n, vgpr :: vgprs =>
    ⟨.opIAdd, [2, idOf n, baseConstantIds.get vgpr, 15]⟩ ::
      ⟨.opAccessChain, [7, idOf (n + 1), 11, 10, idOf n]⟩ ::
      pointerInstructions (n + 2) vgprs

-- The equations of a match with this many wildcards are proved by a deep recursion.
set_option maxRecDepth 2000 in

/-- The instructions of an operation, with ids from `n` on. -/
def operationInstructions (n : ℕ) : ShaderIrOperation → List Instruction
  | .nop repeatCount => List.replicate repeatCount.toNat ⟨.opNop, []⟩
  | .vectorMove32 destination source =>
    [⟨.opLoad, [2, idOf n, pointerOf registerPointerIds source]⟩,
      ⟨.opStore, [pointerOf registerPointerIds destination, idOf n]⟩]
  | .vectorAddF32 destination source0 source1 =>
    [⟨.opLoad, [2, idOf n, pointerOf registerPointerIds source0]⟩,
      ⟨.opLoad, [2, idOf (n + 1), pointerOf registerPointerIds source1]⟩,
      ⟨.opBitcast, [3, idOf (n + 2), idOf n]⟩,
      ⟨.opBitcast, [3, idOf (n + 3), idOf (n + 1)]⟩,
      ⟨.opFAdd, [3, idOf (n + 4), idOf (n + 2), idOf (n + 3)]⟩,
      ⟨.opBitcast, [2, idOf (n + 5), idOf (n + 4)]⟩,
      ⟨.opStore, [pointerOf registerPointerIds destination, idOf (n + 5)]⟩]
  | .endProgram => [⟨.opReturn, []⟩]
  | _ => []

/-- How many ids an operation takes. -/
def operationIdCount : ShaderIrOperation → ℕ
  | .vectorMove32 _ _ => 1
  | .vectorAddF32 _ _ _ => 6
  | _ => 0

/-- The instructions of operations one behind the other, with ids from `n` on. -/
def operationsInstructions : (n : ℕ) → List ShaderIrOperation → List Instruction
  | _, [] => []
  | n, operation :: operations =>
    operationInstructions registerPointerIds n operation ++
      operationsInstructions (n + operationIdCount operation) operations

end Instructions

/-- How many ids operations take. -/
def operationsIdCount (operations : List ShaderIrOperation) : ℕ :=
  (operations.map operationIdCount).sum

/-- The registers that a program names, in order. -/
def ProgramShape.namedVgprs (shape : ProgramShape) : List (Fin kShaderVectorGprCount) :=
  (List.finRange kShaderVectorGprCount).filter shape.usedVgprs.get

theorem ProgramShape.nodup_namedVgprs (shape : ProgramShape) : shape.namedVgprs.Nodup :=
  (List.nodup_finRange _).filter _

/-- The ids of the constants, one for each register. -/
def ProgramShape.baseConstantIds (shape : ProgramShape) : VgprIds :=
  fillIds 1 16 shape.namedVgprs (Vector.replicate _ 0)

/-- The ids of the pointers: every second one behind those of the constants. -/
def ProgramShape.registerPointerIds (shape : ProgramShape) : VgprIds :=
  fillIds 2 (16 + shape.namedVgprs.length + 1) shape.namedVgprs (Vector.replicate _ 0)

/-- The first id that is free for the operations. -/
def ProgramShape.firstOperationId (shape : ProgramShape) : ℕ := 16 + 3 * shape.namedVgprs.length

/-- The instructions in front of the function. -/
def globalProbeInstructions (e : Spirv.Enumerants) (waveSize : UInt32) (shape : ProgramShape) :
    List Instruction :=
  annotationInstructions e waveSize ++ typeInstructions e ++
    shape.namedVgprs.map (baseConstantInstruction waveSize shape.baseConstantIds) ++
      variableInstructions e

/-- The instructions of the function behind its first one. -/
def functionProbeInstructions (shape : ProgramShape) (operations : List ShaderIrOperation) :
    List Instruction :=
  entryInstructions ++ pointerInstructions shape.baseConstantIds
    (16 + shape.namedVgprs.length) shape.namedVgprs ++
    operationsInstructions shape.registerPointerIds shape.firstOperationId operations ++
      [⟨.opFunctionEnd, []⟩]

/-- **The instructions of a program.** -/
def probeInstructions (e : Spirv.Enumerants) (waveSize : UInt32) (shape : ProgramShape)
    (operations : List ShaderIrOperation) : List Instruction :=
  globalProbeInstructions e waveSize shape ++ ⟨.opFunction, [1, 13, e.functionControlNone, 9]⟩ ::
    functionProbeInstructions shape operations

/-- How many ids a program takes. -/
def probeIdCount (shape : ProgramShape) (operations : List ShaderIrOperation) : ℕ :=
  15 + 3 * shape.namedVgprs.length + operationsIdCount operations

/-! ### What the builder builds -/

/-- The builder that has emitted these instructions, with `n` as the next id. -/
def builderAt (e : Spirv.Enumerants) (instructions : List Instruction) (n : ℕ) : SpirvBuilder :=
  ⟨[Spirv.magicNumber, kSpirvVersion16, 0, 0, 0] ++ instructions.flatMap (Instruction.words e),
    idOf n⟩

section Build

variable {e : Spirv.Enumerants} {instructions : List Instruction} {n : ℕ} {waveSize : UInt32}
  {usedVgprs : Vector Bool kShaderVectorGprCount} {vgprs : List (Fin kShaderVectorGprCount)}
  {baseConstantIds registerPointerIds : VgprIds}

@[simp] theorem emit_builderAt (opcode : Op) (operands : List UInt32) :
    (builderAt e instructions n).emit e opcode operands =
      builderAt e (instructions ++ [⟨opcode, operands⟩]) n := by
  simp only [builderAt, SpirvBuilder.emit, List.flatMap_append, List.flatMap_singleton,
    Instruction.words, List.append_assoc]

@[simp] theorem allocateId_builderAt :
    (builderAt e instructions n).allocateId = (idOf n, builderAt e instructions (n + 1)) := by
  simp only [builderAt, SpirvBuilder.allocateId, idOf_succ]

@[simp] theorem finish_builderAt :
    (builderAt e instructions n).finish = [Spirv.magicNumber, kSpirvVersion16, 0, idOf n, 0] ++
      instructions.flatMap (Instruction.words e) := rfl

theorem allocateModuleIds_initial :
    SpirvBuilder.initial.allocateModuleIds = (moduleIds, builderAt e [] 16) :=
  rfl

theorem allocateBaseConstants_builderAt :
    SpirvBuilder.allocateBaseConstants usedVgprs vgprs baseConstantIds
      (builderAt e instructions n) =
      (fillIds 1 n (vgprs.filter usedVgprs.get) baseConstantIds,
        builderAt e instructions (n + (vgprs.filter usedVgprs.get).length)) := by
  induction vgprs generalizing baseConstantIds n with
  | nil => rfl
  | cons vgpr vgprs ih =>
    rw [SpirvBuilder.allocateBaseConstants]
    by_cases hused : usedVgprs.get vgpr = true
    · rw [if_pos hused, allocateId_builderAt]
      dsimp only
      rw [ih, List.filter_cons_of_pos hused, fillIds, List.length_cons, Nat.add_right_comm,
        Nat.add_assoc]
    · rw [if_neg hused, ih, List.filter_cons_of_neg hused]

theorem emitAnnotations_builderAt :
    (builderAt e instructions n).emitAnnotations e moduleIds waveSize =
      builderAt e (instructions ++ annotationInstructions e waveSize) n := by
  have hname : encodeStringWords ("main".toList.map fun c => UInt8.ofNat c.toNat) =
    [0x6e69616d, 0] := by decide
  simp only [SpirvBuilder.emitAnnotations, SpirvBuilder.emitEntryPoint, hname, emit_builderAt,
    List.append_assoc]
  rfl

theorem emitTypes_builderAt :
    (builderAt e instructions n).emitTypes e moduleIds =
      builderAt e (instructions ++ typeInstructions e) n := by
  simp only [SpirvBuilder.emitTypes, emit_builderAt, List.append_assoc]
  rfl

theorem emitBaseConstants_builderAt :
    SpirvBuilder.emitBaseConstants e moduleIds usedVgprs waveSize baseConstantIds vgprs
      (builderAt e instructions n) =
      builderAt e (instructions ++ (vgprs.filter usedVgprs.get).map
        (baseConstantInstruction waveSize baseConstantIds)) n := by
  induction vgprs generalizing instructions with
  | nil => simp [SpirvBuilder.emitBaseConstants]
  | cons vgpr vgprs ih =>
    rw [SpirvBuilder.emitBaseConstants]
    by_cases hused : usedVgprs.get vgpr = true
    · rw [if_pos hused]
      dsimp only
      rw [emit_builderAt, ih, List.filter_cons_of_pos hused, List.map_cons, List.append_assoc]
      rfl
    · rw [if_neg hused, ih, List.filter_cons_of_neg hused]

theorem emitFunctionStart_builderAt :
    (builderAt e instructions n).emitFunctionStart e moduleIds =
      builderAt e (instructions ++ variableInstructions e ++
        ⟨.opFunction, [1, 13, e.functionControlNone, 9]⟩ :: entryInstructions) n := by
  simp only [SpirvBuilder.emitFunctionStart, emit_builderAt, List.append_assoc]
  rfl

theorem emitRegisterPointers_builderAt :
    SpirvBuilder.emitRegisterPointers e moduleIds usedVgprs baseConstantIds vgprs registerPointerIds
        (builderAt e instructions n) =
      (fillIds 2 (n + 1) (vgprs.filter usedVgprs.get) registerPointerIds,
        builderAt e (instructions ++ pointerInstructions baseConstantIds n
          (vgprs.filter usedVgprs.get))
          (n + 2 * (vgprs.filter usedVgprs.get).length)) := by
  induction vgprs generalizing instructions registerPointerIds n with
  | nil => simp [SpirvBuilder.emitRegisterPointers, fillIds, pointerInstructions]
  | cons vgpr vgprs ih =>
    rw [SpirvBuilder.emitRegisterPointers]
    by_cases hused : usedVgprs.get vgpr = true
    · simp only [if_pos hused, allocateId_builderAt, emit_builderAt, ih,
        List.filter_cons_of_pos hused, fillIds, pointerInstructions, List.append_assoc,
        List.length_cons]
      rw [show n + 1 + 1 + 1 = n + 1 + 2 from rfl,
        show n + 1 + 1 + 2 * (vgprs.filter usedVgprs.get).length =
        n + 2 * ((vgprs.filter usedVgprs.get).length + 1) by omega]
      rfl
    · rw [if_neg hused, ih, List.filter_cons_of_neg hused]

theorem emitNops_builderAt (repeatCount : ℕ) :
    (builderAt e instructions n).emitNops e repeatCount =
      builderAt e (instructions ++ List.replicate repeatCount ⟨.opNop, []⟩) n := by
  induction repeatCount generalizing instructions with
  | zero => simp [SpirvBuilder.emitNops]
  | succ repeatCount ih =>
    rw [SpirvBuilder.emitNops, emit_builderAt, ih, List.replicate_succ, List.append_assoc]
    rfl

theorem emitOperation_builderAt (operation : ShaderIrOperation) :
    (builderAt e instructions n).emitOperation e moduleIds registerPointerIds operation =
      builderAt e (instructions ++ operationInstructions registerPointerIds n operation)
        (n + operationIdCount operation) := by
  cases operation with
  | nop repeatCount => exact emitNops_builderAt repeatCount.toNat
  | vectorMove32 destination source =>
    simp only [SpirvBuilder.emitOperation, allocateId_builderAt, emit_builderAt, List.append_assoc]
    rfl
  | vectorAddF32 destination source0 source1 =>
    simp only [SpirvBuilder.emitOperation, allocateId_builderAt, emit_builderAt, List.append_assoc]
    rfl
  | endProgram => exact emit_builderAt .opReturn []
  | _ => simp [SpirvBuilder.emitOperation, operationInstructions, operationIdCount]

theorem foldl_emitOperation_builderAt (emissions : List ShaderIrEmission) :
    emissions.foldl (fun builder emission =>
      builder.emitOperation e moduleIds registerPointerIds emission.operation)
        (builderAt e instructions n) =
      builderAt e (instructions ++ operationsInstructions registerPointerIds n
        (emissions.map ShaderIrEmission.operation))
        (n + operationsIdCount (emissions.map ShaderIrEmission.operation)) := by
  induction emissions generalizing instructions n with
  | nil => simp [operationsInstructions, operationsIdCount]
  | cons emission emissions ih =>
    rw [List.foldl_cons, emitOperation_builderAt, ih, List.map_cons, operationsInstructions,
      operationsIdCount, operationsIdCount, List.map_cons, List.sum_cons, List.append_assoc,
      Nat.add_assoc]

end Build

/-- **The words of the module** are its header, with the bound, and its instructions. -/
theorem emitVectorProbe_words (e : Spirv.Enumerants) (program : ShaderIrProgram) (waveSize : UInt32)
    (shape : ProgramShape) :
    (emitVectorProbe e program waveSize shape).words =
      [Spirv.magicNumber, kSpirvVersion16, 0,
        idOf (probeIdCount shape (program.emissions.map ShaderIrEmission.operation) + 1), 0] ++
        (probeInstructions e waveSize shape
          (program.emissions.map ShaderIrEmission.operation)).flatMap
          (Instruction.words e) := by
  have hnamed : (List.finRange kShaderVectorGprCount).filter shape.usedVgprs.get =
    shape.namedVgprs := rfl
  have hcount : 16 + shape.namedVgprs.length + 2 * shape.namedVgprs.length =
      shape.firstOperationId := by
    rw [ProgramShape.firstOperationId]
    omega
  have hbound : shape.firstOperationId + operationsIdCount
    (program.emissions.map ShaderIrEmission.operation) =
      probeIdCount shape (program.emissions.map ShaderIrEmission.operation) + 1 := by
    rw [ProgramShape.firstOperationId, probeIdCount]
    omega
  simp only [emitVectorProbe, @allocateModuleIds_initial e, allocateBaseConstants_builderAt,
    emitAnnotations_builderAt, emitTypes_builderAt, emitBaseConstants_builderAt,
    emitFunctionStart_builderAt, emitRegisterPointers_builderAt, foldl_emitOperation_builderAt,
    emit_builderAt, finish_builderAt, hnamed, hcount, hbound]
  congr 2
  simp only [probeInstructions, globalProbeInstructions, functionProbeInstructions,
    List.append_assoc, List.cons_append, List.nil_append]
  rfl

end Astraea.Graphics
