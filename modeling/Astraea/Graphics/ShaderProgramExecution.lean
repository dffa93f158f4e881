import Astraea.Graphics.ShaderWaveExecution

/-!
# The scalar executor

`execute_shader_scalar_block` and `execute_shader_scalar_program` execute a program over the
scalar state alone. They are written apart from the executors of a wave, with checks, a loop
and errors of their own.

On programs without vector operations the two do the same, over every graph, whether it
belongs to the program or not: `executeShaderScalarProgram_agrees`.
-/

namespace Astraea.Graphics

open Astraea.Base Astraea.Core

/-- What running a block comes to. -/
structure ShaderScalarBlockExecution where
  blockIndex : ℕ
  executedEmissionCount : ℕ
  scalarWriteEffects : List ShaderScalarExecutionEffect
  branchDecision : Option ShaderBranchDecision
  successor : ShaderCfgSuccessorSelection
  deriving DecidableEq

/-- Why a block cannot be run on. -/
inductive ShaderScalarBlockExecutionErrorCode where
  | graphProgramMismatch
  | blockIndexOutOfBounds
  | invalidBlockExtent
  | invalidBlockControlFlow
  | hostAllocationFailure
  | unsupportedOperation
  | scalarExecutionFailure
  | cfgSuccessorFailure
  deriving DecidableEq

/-- A block that cannot be run on, with the emission it is about. -/
structure ShaderScalarBlockExecutionError where
  code : ShaderScalarBlockExecutionErrorCode
  blockIndex : ℕ
  emissionIndex : ℕ
  completedEmissionCount : ℕ
  scalarError : Option ShaderScalarExecutionError := none
  successorError : Option ShaderCfgSuccessorError := none
  deriving DecidableEq

/-! ### One block -/

/-- How far a block has come. -/
structure ScalarBlockProgress where
  state : ShaderScalarState
  scalarWriteEffects : List ShaderScalarExecutionEffect
  branchDecision : Option ShaderBranchDecision
  completedEmissionCount : ℕ

/-- The loop over the emissions of a block: `remaining` of them from `emissionIndex` on. -/
def executeScalarEmissions (program : ShaderIrProgram) (blockIndex : ℕ) :
    (remaining emissionIndex : ℕ) → ScalarBlockProgress →
    Except ShaderScalarBlockExecutionError Unit × ScalarBlockProgress
  | 0, _, progress => (.ok (), progress)
  | remaining + 1, emissionIndex, progress =>
    let failure (code : ShaderScalarBlockExecutionErrorCode) : ShaderScalarBlockExecutionError :=
      { code := code
        blockIndex := blockIndex
        emissionIndex := emissionIndex
        completedEmissionCount := progress.completedEmissionCount }
    match program.operationAt emissionIndex with
    | .nop _ | .relativeBranch _ | .endProgram =>
      executeScalarEmissions program blockIndex remaining (emissionIndex + 1)
        { progress with completedEmissionCount := progress.completedEmissionCount + 1 }
    | .conditionalRelativeBranch condition _ =>
      executeScalarEmissions program blockIndex remaining (emissionIndex + 1)
        { progress with
          branchDecision := some (evaluateShaderBranchCondition condition progress.state)
          completedEmissionCount := progress.completedEmissionCount + 1 }
    | .scalarMove32 _ _ | .scalarMove64 _ _ =>
      match executeShaderScalarOperation (program.operationAt emissionIndex) progress.state with
      | .error e => (.error { failure .scalarExecutionFailure with scalarError := some e },
          progress)
      | .ok (effect, state) =>
        executeScalarEmissions program blockIndex remaining (emissionIndex + 1)
          { progress with
            state := state
            scalarWriteEffects := progress.scalarWriteEffects ++ [effect]
            completedEmissionCount := progress.completedEmissionCount + 1 }
    | .workgroupBarrier | .waitCount _ _ _ | .vectorMove32 _ _ | .vectorAddF32 _ _ _ | .exporting
        _ | .unsupported _ =>
      (.error (failure .unsupportedOperation), progress)

section Block

variable (host : Host) (program : ShaderIrProgram) (graph : ShaderControlFlowGraph) (blockIndex : ℕ)

/-- What `execute_shader_scalar_block` checks before its loop. -/
def checkScalarBlock : Except ShaderScalarBlockExecutionError ShaderCfgBasicBlock := do
  refuseIf (graphMatches program graph = false) ⟨.graphProgramMismatch, blockIndex, 0, 0, none,
    none⟩
  let block ← orRefuse graph.blocks[blockIndex]? ⟨.blockIndexOutOfBounds, blockIndex, 0, 0, none,
    none⟩
  let first := block.firstEmissionIndex
  refuseIf (validBlockExtent program block = false)
    ⟨.invalidBlockExtent, blockIndex, first, 0, none, none⟩
  (List.range' first (block.emissionCount - 1)).forM fun emissionIndex =>
    refuseIf ((program.operationAt emissionIndex).endsBlock = true)
      ⟨.invalidBlockControlFlow, blockIndex, emissionIndex, 0, none, none⟩
  allocate host .scalarBlockEffects ⟨.hostAllocationFailure, blockIndex, first, 0, none, none⟩
    ⟨.hostAllocationFailure, blockIndex, first, 0, none, none⟩
  return block

/-- The block after its loop: the block that comes next is selected. -/
def finishScalarBlock (block : ShaderCfgBasicBlock) (progress : ScalarBlockProgress) :
    Except ShaderScalarBlockExecutionError ShaderScalarBlockExecution :=
  match selectShaderCfgSuccessor program graph blockIndex progress.branchDecision with
  | .error e => .error
      { code := .cfgSuccessorFailure
        blockIndex := blockIndex
        emissionIndex := block.lastEmissionIndex
        completedEmissionCount := progress.completedEmissionCount
        successorError := some e }
  | .ok successor => .ok
      ⟨blockIndex, progress.completedEmissionCount, progress.scalarWriteEffects,
        progress.branchDecision, successor⟩

/-- `execute_shader_scalar_block`. -/
def executeShaderScalarBlock (state : ShaderScalarState) :
    Except ShaderScalarBlockExecutionError ShaderScalarBlockExecution × ShaderScalarState :=
  match checkScalarBlock host program graph blockIndex with
  | .error e => (.error e, state)
  | .ok block =>
    match executeScalarEmissions program blockIndex block.emissionCount block.firstEmissionIndex
      ⟨state, [], none, 0⟩ with
    | (.error e, progress) => (.error e, progress.state)
    | (.ok (), progress) => (finishScalarBlock program graph blockIndex block progress,
        progress.state)

end Block

/-! ### The program -/

/-- What running a program comes to. -/
structure ShaderScalarProgramExecution where
  entryBlockIndex : ℕ
  blockExecutions : List ShaderScalarBlockExecution
  deriving DecidableEq

/-- Why a program cannot be run on. -/
inductive ShaderScalarProgramExecutionErrorCode where
  | graphProgramMismatch
  | entryBlockOutOfBounds
  | hostAllocationFailure
  | executionBudgetExhausted
  | blockExecutionFailure
  deriving DecidableEq

/-- A program that cannot be run on, with the block it is about. -/
structure ShaderScalarProgramExecutionError where
  code : ShaderScalarProgramExecutionErrorCode
  currentBlockIndex : ℕ
  completedBlocks : List ShaderScalarBlockExecution := []
  blockError : Option ShaderScalarBlockExecutionError := none
  deriving DecidableEq

section Program

variable (host : Host) (program : ShaderIrProgram) (graph : ShaderControlFlowGraph)
  (entryBlockIndex : ℕ)

/-- The loop of `execute_shader_scalar_program`, with `remaining` blocks left of the budget. -/
def executeScalarBlocks :
    (remaining currentBlockIndex : ℕ) → List ShaderScalarBlockExecution → ShaderScalarState →
    Except ShaderScalarProgramExecutionError ShaderScalarProgramExecution × ShaderScalarState
  | 0, currentBlockIndex, blockExecutions, state =>
    (.error ⟨.executionBudgetExhausted, currentBlockIndex, blockExecutions, none⟩, state)
  | remaining + 1, currentBlockIndex, blockExecutions, state =>
    match executeShaderScalarBlock host program graph currentBlockIndex state with
    | (.error e, state) =>
      (.error ⟨.blockExecutionFailure, currentBlockIndex, blockExecutions, some e⟩, state)
    | (.ok blockExecution, state) =>
      match blockExecution.successor.edge with
      | none => (.ok ⟨entryBlockIndex, blockExecutions ++ [blockExecution]⟩, state)
      | some edge => executeScalarBlocks remaining edge.targetBlockIndex (blockExecutions ++
          [blockExecution]) state

/-- `execute_shader_scalar_program`. -/
def executeShaderScalarProgram (maxBlockExecutions : ℕ) (state : ShaderScalarState) :
    Except ShaderScalarProgramExecutionError ShaderScalarProgramExecution × ShaderScalarState :=
  if graphMatches program graph = false then
    (.error { code := .graphProgramMismatch, currentBlockIndex := entryBlockIndex }, state)
  else if entryBlockIndex ≥ graph.blocks.length then
    (.error { code := .entryBlockOutOfBounds, currentBlockIndex := entryBlockIndex }, state)
  else if (host.allocation (.scalarBlockExecutions maxBlockExecutions)).isSome = true then
    (.error { code := .hostAllocationFailure, currentBlockIndex := entryBlockIndex }, state)
  else executeScalarBlocks host program graph entryBlockIndex maxBlockExecutions entryBlockIndex []
    state

end Program

/-! ### The same in a wave -/

/-- The operations both executors know. -/
def ShaderIrOperation.IsScalar : ShaderIrOperation → Prop
  | .nop _ | .endProgram | .relativeBranch _ | .conditionalRelativeBranch _ _ | .scalarMove32 _
      _ | .scalarMove64 _ _ => True
  | .workgroupBarrier | .waitCount _ _ _ | .vectorMove32 _ _ | .vectorAddF32 _ _ _ | .exporting
      _ | .unsupported _ => False

instance (operation : ShaderIrOperation) : Decidable operation.IsScalar := by
  cases operation <;> first | exact .isTrue trivial | exact .isFalse id

/-- The code of the wave executor that says the same. -/
def ShaderScalarBlockExecutionErrorCode.inWave :
    ShaderScalarBlockExecutionErrorCode → ShaderWaveBlockExecutionErrorCode
  | .graphProgramMismatch => .graphProgramMismatch
  | .blockIndexOutOfBounds => .blockIndexOutOfBounds
  | .invalidBlockExtent => .invalidBlockExtent
  | .invalidBlockControlFlow => .invalidBlockControlFlow
  | .hostAllocationFailure => .hostAllocationFailure
  | .unsupportedOperation => .unsupportedOperation
  | .scalarExecutionFailure => .scalarExecutionFailure
  | .cfgSuccessorFailure => .cfgSuccessorFailure

/-- The error of the wave executor that says the same. -/
def ShaderScalarBlockExecutionError.inWave (e : ShaderScalarBlockExecutionError) :
    ShaderWaveBlockExecutionError where
  code := e.code.inWave
  blockIndex := e.blockIndex
  emissionIndex := e.emissionIndex
  completedEmissionCount := e.completedEmissionCount
  scalarError := e.scalarError
  successorError := e.successorError

/-- The executed block as the wave executor records it. -/
def ShaderScalarBlockExecution.inWave (execution : ShaderScalarBlockExecution) :
    ShaderWaveBlockExecution where
  blockIndex := execution.blockIndex
  executedEmissionCount := execution.executedEmissionCount
  effects := execution.scalarWriteEffects.map .scalar
  branchDecision := execution.branchDecision
  successor := execution.successor

/-- The code the wave executor has for it. -/
def ShaderScalarProgramExecutionErrorCode.inWave :
    ShaderScalarProgramExecutionErrorCode → ShaderWaveProgramExecutionErrorCode
  | .graphProgramMismatch => .graphProgramMismatch
  | .entryBlockOutOfBounds => .entryBlockOutOfBounds
  | .hostAllocationFailure => .hostAllocationFailure
  | .executionBudgetExhausted => .executionBudgetExhausted
  | .blockExecutionFailure => .blockExecutionFailure

/-- The error the wave executor has for it. -/
def ShaderScalarProgramExecutionError.inWave (e : ShaderScalarProgramExecutionError) :
    ShaderWaveProgramExecutionError where
  code := e.code.inWave
  currentBlockIndex := e.currentBlockIndex
  completedBlocks := e.completedBlocks.map ShaderScalarBlockExecution.inWave
  blockError := e.blockError.map ShaderScalarBlockExecutionError.inWave

/-- What the wave executor comes to. -/
def ShaderScalarProgramExecution.inWave (execution : ShaderScalarProgramExecution) :
    ShaderWaveProgramExecution where
  entryBlockIndex := execution.entryBlockIndex
  blockExecutions := execution.blockExecutions.map ShaderScalarBlockExecution.inWave

/-- Where the wave executor got to. -/
def ScalarBlockProgress.inWave (progress : ScalarBlockProgress) (vector : ShaderVectorState) :
    BlockProgress where
  wave := ⟨progress.state, vector⟩
  effects := progress.scalarWriteEffects.map .scalar
  branchDecision := progress.branchDecision
  completedEmissionCount := progress.completedEmissionCount

/-- Where a loop over emissions got to, as the wave executor sees it. -/
def emissionsInWave (vector : ShaderVectorState)
    (outcome : Except ShaderScalarBlockExecutionError Unit × ScalarBlockProgress) :
    Except ShaderWaveBlockExecutionError Unit × BlockProgress :=
  (outcome.1.mapError ShaderScalarBlockExecutionError.inWave, outcome.2.inWave vector)

/-- The host answers the reservations of the two executors alike. -/
structure AnswersAlike (host : Host) : Prop where
  effects : (host.allocation .scalarBlockEffects).isSome =
    (host.allocation .waveBlockEffects).isSome
  blockExecutions : ∀ budget, (host.allocation (.scalarBlockExecutions budget)).isSome =
    (host.allocation (.waveBlockExecutions budget)).isSome

section Agreement

variable {host : Host} {program : ShaderIrProgram} {graph : ShaderControlFlowGraph}

theorem isScalar_operationAt (h : ∀ emission ∈ program.emissions, emission.operation.IsScalar)
    (emissionIndex : ℕ) :
    (program.operationAt emissionIndex).IsScalar := by
  unfold ShaderIrProgram.operationAt
  cases hemission : program.emissions[emissionIndex]? with
  | none => trivial
  | some emission => exact h emission (List.mem_of_getElem? hemission)

theorem checkWaveBlock_eq (hhost : AnswersAlike host) (blockIndex : ℕ) :
    checkWaveBlock host program graph blockIndex =
      (checkScalarBlock host program graph blockIndex).mapError
        ShaderScalarBlockExecutionError.inWave := by
  unfold checkWaveBlock checkScalarBlock
  simp only [mapError_bind, mapError_refuseIf, mapError_orRefuse, mapError_pure, mapError_allocate,
    mapError_forM]
  simp only [allocate_congr hhost.effects]
  rfl

theorem executeEmissions_eq (hscalar : ∀ emission ∈ program.emissions, emission.operation.IsScalar)
    (vector : ShaderVectorState) (blockIndex remaining emissionIndex : ℕ)
    (progress : ScalarBlockProgress) :
    executeEmissions program blockIndex remaining emissionIndex (progress.inWave vector) =
      emissionsInWave vector
        (executeScalarEmissions program blockIndex remaining emissionIndex progress) := by
  induction remaining generalizing emissionIndex progress with
  | zero => rfl
  | succ remaining ih =>
    have hoperation := isScalar_operationAt hscalar emissionIndex
    rw [executeEmissions, executeScalarEmissions]
    -- a move that went through appends its effect on both sides
    have hmoved : ∀ effect state, executeEmissions program blockIndex remaining (emissionIndex + 1)
        ⟨⟨state, vector⟩, progress.scalarWriteEffects.map .scalar ++ [.scalar effect],
          progress.branchDecision, progress.completedEmissionCount + 1⟩ =
        emissionsInWave vector
          (executeScalarEmissions program blockIndex remaining (emissionIndex + 1)
          ⟨state, progress.scalarWriteEffects ++ [effect], progress.branchDecision,
          progress.completedEmissionCount + 1⟩) := by
      intro effect state
      have hih := ih (emissionIndex + 1)
        ⟨state, progress.scalarWriteEffects ++ [effect], progress.branchDecision,
          progress.completedEmissionCount + 1⟩
      rwa [ScalarBlockProgress.inWave, List.map_append] at hih
    cases hop : program.operationAt emissionIndex with
    | nop repeatCount =>
      simp only [executeOperation, branchDecisionOf, Option.toList_none, List.append_nil]
      exact ih (emissionIndex + 1) { progress with
        completedEmissionCount := progress.completedEmissionCount + 1 }
    | endProgram =>
      simp only [executeOperation, branchDecisionOf, Option.toList_none, List.append_nil]
      exact ih (emissionIndex + 1) { progress with
        completedEmissionCount := progress.completedEmissionCount + 1 }
    | relativeBranch byteDelta =>
      simp only [executeOperation, branchDecisionOf, Option.toList_none, List.append_nil]
      exact ih (emissionIndex + 1) { progress with
        completedEmissionCount := progress.completedEmissionCount + 1 }
    | conditionalRelativeBranch condition byteDelta =>
      simp only [executeOperation, branchDecisionOf, Option.toList_none, List.append_nil]
      exact ih (emissionIndex + 1)
        { progress with
          branchDecision := some (evaluateShaderBranchCondition condition progress.state)
          completedEmissionCount := progress.completedEmissionCount + 1 }
    | scalarMove32 destination source =>
      simp only [executeOperation, ScalarBlockProgress.inWave]
      cases executeShaderScalarOperation (.scalarMove32 destination source) progress.state with
      | error e => rfl
      | ok moved => exact hmoved moved.1 moved.2
    | scalarMove64 destination source =>
      simp only [executeOperation, ScalarBlockProgress.inWave]
      cases executeShaderScalarOperation (.scalarMove64 destination source) progress.state with
      | error e => rfl
      | ok moved => exact hmoved moved.1 moved.2
    | _ =>
      rw [hop] at hoperation
      exact hoperation.elim

theorem finishWaveBlock_eq (vector : ShaderVectorState) (blockIndex : ℕ)
    (block : ShaderCfgBasicBlock) (progress : ScalarBlockProgress) :
    finishWaveBlock program graph blockIndex block (progress.inWave vector) =
      ((finishScalarBlock program graph blockIndex block progress).mapError
        ShaderScalarBlockExecutionError.inWave).map
        ShaderScalarBlockExecution.inWave := by
  unfold finishWaveBlock finishScalarBlock
  rw [show (progress.inWave vector).branchDecision = progress.branchDecision from rfl]
  cases selectShaderCfgSuccessor program graph blockIndex progress.branchDecision with
  | error e => rfl
  | ok successor => rfl

section

variable (hhost : AnswersAlike host)
  (hscalar : ∀ emission ∈ program.emissions, emission.operation.IsScalar)
  (vector : ShaderVectorState)

include hhost hscalar

/-- **The executors of a block agree.** -/
theorem executeShaderWaveBlock_eq (blockIndex : ℕ) (state : ShaderScalarState) :
    executeShaderWaveBlock host program graph blockIndex ⟨state, vector⟩ =
      (((executeShaderScalarBlock host program graph blockIndex state).1.mapError
        ShaderScalarBlockExecutionError.inWave).map ShaderScalarBlockExecution.inWave,
        ⟨(executeShaderScalarBlock host program graph blockIndex state).2, vector⟩) := by
  unfold executeShaderWaveBlock executeShaderScalarBlock
  rw [checkWaveBlock_eq hhost]
  cases checkScalarBlock host program graph blockIndex with
  | error e => rfl
  | ok block =>
    have hemissions :=
      executeEmissions_eq hscalar vector blockIndex block.emissionCount block.firstEmissionIndex
      ⟨state, [], none, 0⟩
    rw [show (⟨state, [], none, 0⟩ : ScalarBlockProgress).inWave vector =
      ⟨⟨state, vector⟩, [], none, 0⟩ from rfl] at hemissions
    simp only [Except.mapError, hemissions, emissionsInWave]
    rcases executeScalarEmissions program blockIndex block.emissionCount block.firstEmissionIndex
      ⟨state, [], none, 0⟩ with
      ⟨_ | _, progress⟩
    · rfl
    · exact Prod.ext (finishWaveBlock_eq vector blockIndex block progress) rfl

theorem executeWaveBlocks_eq (entryBlockIndex remaining currentBlockIndex : ℕ)
    (blockExecutions : List ShaderScalarBlockExecution) (state : ShaderScalarState) :
    executeWaveBlocks host program graph entryBlockIndex remaining currentBlockIndex
        (blockExecutions.map ShaderScalarBlockExecution.inWave) ⟨state, vector⟩ =
      (((executeScalarBlocks host program graph entryBlockIndex remaining currentBlockIndex
        blockExecutions state).1.mapError ShaderScalarProgramExecutionError.inWave).map
        ShaderScalarProgramExecution.inWave,
        ⟨(executeScalarBlocks host program graph entryBlockIndex remaining currentBlockIndex
        blockExecutions state).2, vector⟩) := by
  induction remaining generalizing currentBlockIndex blockExecutions state with
  | zero => rfl
  | succ remaining ih =>
    rw [executeWaveBlocks, executeScalarBlocks, executeShaderWaveBlock_eq hhost hscalar]
    rcases executeShaderScalarBlock host program graph currentBlockIndex state
      with ⟨e | execution, state'⟩
    · rfl
    · have happend : blockExecutions.map ShaderScalarBlockExecution.inWave ++ [execution.inWave] =
          (blockExecutions ++ [execution]).map ShaderScalarBlockExecution.inWave := by
        rw [List.map_append, List.map_singleton]
      simp only [Except.mapError, Except.map]
      rw [show execution.inWave.successor = execution.successor from rfl, happend]
      cases execution.successor.edge with
      | none => rfl
      | some edge => exact ih edge.targetBlockIndex (blockExecutions ++ [execution]) state'

end

/-- **Scalar and wave executors agree.** For every program of scalar operations, every graph, entry
block, budget, scalar and vector state: the executor of a wave gives the result of the scalar
executor in its own terms, block by block, decision by decision and effect by effect, or its error
with the same code, block, emission and completed blocks; it leaves the scalar state of the scalar
executor, and the vector state as it was. -/
theorem executeShaderScalarProgram_agrees (host : Host) (hhost : AnswersAlike host)
    (program : ShaderIrProgram)
    (hscalar : ∀ emission ∈ program.emissions, emission.operation.IsScalar)
    (graph : ShaderControlFlowGraph) (entryBlockIndex maxBlockExecutions : ℕ)
    (state : ShaderScalarState) (vector : ShaderVectorState) :
    executeShaderWaveProgram host program graph entryBlockIndex maxBlockExecutions ⟨state, vector⟩ =
      (((executeShaderScalarProgram host program graph entryBlockIndex maxBlockExecutions
        state).1.mapError ShaderScalarProgramExecutionError.inWave).map
        ShaderScalarProgramExecution.inWave,
        ⟨(executeShaderScalarProgram host program graph entryBlockIndex maxBlockExecutions state).2,
        vector⟩) := by
  unfold executeShaderWaveProgram executeShaderScalarProgram
  rw [hhost.blockExecutions]
  split_ifs
  · rfl
  · rfl
  · rfl
  · exact executeWaveBlocks_eq hhost hscalar vector entryBlockIndex maxBlockExecutions
      entryBlockIndex [] state

/-- Both run over a branch that is taken. -/
theorem executeShaderScalarProgram_agrees_skipping :
    ∃ graph, buildShaderControlFlowGraph Host.plentiful skippingProgram = .ok graph ∧
    ∃ execution, (executeShaderScalarProgram Host.plentiful skippingProgram graph 0 8
      emptyWave.scalar).1 = .ok execution ∧
      (executeShaderWaveProgram Host.plentiful skippingProgram graph 0 8 emptyWave).1 =
        .ok execution.inWave := by
  have htested : (buildShaderControlFlowGraph Host.plentiful skippingProgram).toOption.any
      (fun graph =>
      (executeShaderScalarProgram Host.plentiful skippingProgram graph 0 8
        emptyWave.scalar).1.toOption.isSome) = true := by
    decide +kernel
  obtain ⟨graph, hgraph, hrun⟩ := exists_of_any htested
  have hscalar : ∀ emission ∈ skippingProgram.emissions,
    emission.operation.IsScalar := by decide +kernel
  have hagrees := executeShaderScalarProgram_agrees Host.plentiful
    ⟨rfl, fun _ => rfl⟩ skippingProgram hscalar graph 0 8
    emptyWave.scalar emptyWave.vector
  refine ⟨graph, hgraph, ?_⟩
  cases hexecution :
    (executeShaderScalarProgram Host.plentiful skippingProgram graph 0 8 emptyWave.scalar).1 with
  | error e =>
    rw [hexecution] at hrun
    cases hrun
  | ok execution =>
    refine ⟨execution, rfl, ?_⟩
    rw [hexecution] at hagrees
    exact congrArg Prod.fst hagrees

end Agreement

end Astraea.Graphics
