import Astraea.Graphics.ShaderControlExecution
import Astraea.Graphics.ShaderVectorExecution
import Mathlib.Logic.Function.Iterate

/-!
# Executing a wave

`execute_shader_wave_block` executes the emissions of one basic block over the scalar and
vector state of a wave and selects the block that comes next; `execute_shader_wave_program`
does this block after block, for a bounded number of blocks. What was written stays
written when something fails later.

`interpret` is what a program means without its graph: one emission at a time, each
leading to the next. `executeShaderWaveProgram_refines` says that running over the graph
the builder builds is the same.
-/

namespace Astraea.Graphics

open Astraea.Base Astraea.Core

/-- The scalar and the vector registers of a wave. -/
structure ShaderWaveState where
  scalar : ShaderScalarState
  vector : ShaderVectorState
  deriving DecidableEq

/-- What an operation did. -/
inductive ShaderWaveExecutionEffect where
  | scalar (effect : ShaderScalarExecutionEffect)
  | vectorMove32 (effect : ShaderVectorMove32Effect)
  | vectorAddF32 (effect : ShaderVectorAddF32Effect)
  | exportCapture (effect : ShaderExportCaptureEffect)
  deriving DecidableEq

/-- What running a block comes to. -/
structure ShaderWaveBlockExecution where
  blockIndex : ℕ
  executedEmissionCount : ℕ
  effects : List ShaderWaveExecutionEffect
  branchDecision : Option ShaderBranchDecision
  successor : ShaderCfgSuccessorSelection
  deriving DecidableEq

/-- Why a block cannot be run on. -/
inductive ShaderWaveBlockExecutionErrorCode where
  | graphProgramMismatch
  | blockIndexOutOfBounds
  | invalidBlockExtent
  | invalidBlockControlFlow
  | hostAllocationFailure
  | unsupportedOperation
  | scalarExecutionFailure
  | vectorExecutionFailure
  | exportCaptureFailure
  | cfgSuccessorFailure
  deriving DecidableEq

/-- A block that cannot be run on, with the emission it is about. -/
structure ShaderWaveBlockExecutionError where
  code : ShaderWaveBlockExecutionErrorCode
  blockIndex : ℕ
  emissionIndex : ℕ
  completedEmissionCount : ℕ
  scalarError : Option ShaderScalarExecutionError := none
  vectorError : Option ShaderVectorExecutionError := none
  exportError : Option ShaderExportCaptureError := none
  successorError : Option ShaderCfgSuccessorError := none
  deriving DecidableEq

/-! ### One operation -/

/-- Why an operation failed. -/
structure OperationFailure where
  code : ShaderWaveBlockExecutionErrorCode
  scalarError : Option ShaderScalarExecutionError := none
  vectorError : Option ShaderVectorExecutionError := none
  exportError : Option ShaderExportCaptureError := none
  deriving DecidableEq

/-- The error of a block one of whose operations failed. -/
def OperationFailure.toError (failure : OperationFailure)
    (blockIndex emissionIndex completedEmissionCount : ℕ) :
    ShaderWaveBlockExecutionError where
  code := failure.code
  blockIndex := blockIndex
  emissionIndex := emissionIndex
  completedEmissionCount := completedEmissionCount
  scalarError := failure.scalarError
  vectorError := failure.vectorError
  exportError := failure.exportError

/-- What one round of the loop of `execute_shader_wave_block` does to the wave, and its effect
if it has one. -/
def executeOperation (operation : ShaderIrOperation) (wave : ShaderWaveState) :
    Except OperationFailure (Option ShaderWaveExecutionEffect) × ShaderWaveState :=
  match operation with
  | .nop _ | .relativeBranch _ | .endProgram | .conditionalRelativeBranch _ _ => (.ok none, wave)
  | .scalarMove32 _ _ | .scalarMove64 _ _ =>
    match executeShaderScalarOperation operation wave.scalar with
    | .error e => (.error { code := .scalarExecutionFailure, scalarError := some e }, wave)
    | .ok (effect, scalar) => (.ok (some (.scalar effect)), { wave with scalar := scalar })
  | .vectorMove32 _ _ =>
    match executeShaderVectorMove32Operation operation wave.scalar wave.vector with
    | (.error e, vector) =>
      (.error { code := .vectorExecutionFailure, vectorError := some e },
        { wave with vector := vector })
    | (.ok effect, vector) => (.ok (some (.vectorMove32 effect)), { wave with vector := vector })
  | .vectorAddF32 _ _ _ =>
    match executeShaderVectorAddF32ExactOperation operation wave.scalar wave.vector with
    | (.error e, vector) =>
      (.error { code := .vectorExecutionFailure, vectorError := some e },
        { wave with vector := vector })
    | (.ok effect, vector) => (.ok (some (.vectorAddF32 effect)), { wave with vector := vector })
  | .exporting _ =>
    match captureShaderExportOperation operation wave.scalar wave.vector with
    | .error e => (.error { code := .exportCaptureFailure, exportError := some e }, wave)
    | .ok effect => (.ok (some (.exportCapture effect)), wave)
  | .workgroupBarrier | .waitCount _ _ _ | .unsupported _ =>
    (.error { code := .unsupportedOperation }, wave)

/-! ### One block -/

/-- How far a block has come. -/
structure BlockProgress where
  wave : ShaderWaveState
  effects : List ShaderWaveExecutionEffect
  branchDecision : Option ShaderBranchDecision
  completedEmissionCount : ℕ

/-- The loop over the emissions of a block: `remaining` of them from `emissionIndex` on. -/
def executeEmissions (program : ShaderIrProgram) (blockIndex : ℕ) :
    (remaining emissionIndex : ℕ) → BlockProgress →
    Except ShaderWaveBlockExecutionError Unit × BlockProgress
  | 0, _, progress => (.ok (), progress)
  | remaining + 1, emissionIndex, progress =>
    let operation := program.operationAt emissionIndex
    match executeOperation operation progress.wave with
    | (.error failure, wave) =>
      (.error (failure.toError blockIndex emissionIndex progress.completedEmissionCount),
        { progress with wave := wave })
    | (.ok effect, wave) => executeEmissions program blockIndex remaining (emissionIndex + 1)
        { wave := wave
          effects := progress.effects ++ effect.toList
          branchDecision :=
            branchDecisionOf operation progress.wave.scalar <|> progress.branchDecision
          completedEmissionCount := progress.completedEmissionCount + 1 }

section Block

variable (host : Host) (program : ShaderIrProgram) (graph : ShaderControlFlowGraph) (blockIndex : ℕ)

/-- What `execute_shader_wave_block` checks before its loop. -/
def checkWaveBlock : Except ShaderWaveBlockExecutionError ShaderCfgBasicBlock := do
  refuseIf (graphMatches program graph = false) ⟨.graphProgramMismatch, blockIndex, 0, 0, none,
    none, none, none⟩
  let block ← orRefuse graph.blocks[blockIndex]? ⟨.blockIndexOutOfBounds, blockIndex, 0, 0, none,
    none, none, none⟩
  let first := block.firstEmissionIndex
  refuseIf (validBlockExtent program block = false)
    ⟨.invalidBlockExtent, blockIndex, first, 0, none, none, none, none⟩
  (List.range' first (block.emissionCount - 1)).forM fun emissionIndex =>
    refuseIf ((program.operationAt emissionIndex).endsBlock = true)
      ⟨.invalidBlockControlFlow, blockIndex, emissionIndex, 0, none, none, none, none⟩
  allocate host .waveBlockEffects ⟨.hostAllocationFailure, blockIndex, first, 0, none, none, none,
    none⟩
    ⟨.hostAllocationFailure, blockIndex, first, 0, none, none, none, none⟩
  return block

/-- The block after its loop: the block that comes next is selected. -/
def finishWaveBlock (block : ShaderCfgBasicBlock) (progress : BlockProgress) :
    Except ShaderWaveBlockExecutionError ShaderWaveBlockExecution :=
  match selectShaderCfgSuccessor program graph blockIndex progress.branchDecision with
  | .error e => .error
      { code := .cfgSuccessorFailure
        blockIndex := blockIndex
        emissionIndex := block.lastEmissionIndex
        completedEmissionCount := progress.completedEmissionCount
        successorError := some e }
  | .ok successor => .ok ⟨blockIndex, progress.completedEmissionCount, progress.effects,
      progress.branchDecision, successor⟩

/-- `execute_shader_wave_block`. -/
def executeShaderWaveBlock (wave : ShaderWaveState) :
    Except ShaderWaveBlockExecutionError ShaderWaveBlockExecution × ShaderWaveState :=
  match checkWaveBlock host program graph blockIndex with
  | .error e => (.error e, wave)
  | .ok block =>
    match executeEmissions program blockIndex block.emissionCount block.firstEmissionIndex
      ⟨wave, [], none, 0⟩ with
    | (.error e, progress) => (.error e, progress.wave)
    | (.ok (), progress) => (finishWaveBlock program graph blockIndex block progress, progress.wave)

end Block

/-! ### The program -/

/-- What running a program comes to. -/
structure ShaderWaveProgramExecution where
  entryBlockIndex : ℕ
  blockExecutions : List ShaderWaveBlockExecution
  deriving DecidableEq

/-- Why a program cannot be run on. -/
inductive ShaderWaveProgramExecutionErrorCode where
  | graphProgramMismatch
  | entryBlockOutOfBounds
  | hostAllocationFailure
  | executionBudgetExhausted
  | blockExecutionFailure
  deriving DecidableEq

/-- A program that cannot be run on, with the block it is about. -/
structure ShaderWaveProgramExecutionError where
  code : ShaderWaveProgramExecutionErrorCode
  currentBlockIndex : ℕ
  completedBlocks : List ShaderWaveBlockExecution := []
  blockError : Option ShaderWaveBlockExecutionError := none
  deriving DecidableEq

section Program

variable (host : Host) (program : ShaderIrProgram) (graph : ShaderControlFlowGraph)
  (entryBlockIndex : ℕ)

/-- The loop of `execute_shader_wave_program`, with `remaining` blocks left of the budget. -/
def executeWaveBlocks :
    (remaining currentBlockIndex : ℕ) → List ShaderWaveBlockExecution → ShaderWaveState →
    Except ShaderWaveProgramExecutionError ShaderWaveProgramExecution × ShaderWaveState
  | 0, currentBlockIndex, blockExecutions, wave =>
    (.error ⟨.executionBudgetExhausted, currentBlockIndex, blockExecutions, none⟩, wave)
  | remaining + 1, currentBlockIndex, blockExecutions, wave =>
    match executeShaderWaveBlock host program graph currentBlockIndex wave with
    | (.error e, wave) =>
      (.error ⟨.blockExecutionFailure, currentBlockIndex, blockExecutions, some e⟩, wave)
    | (.ok blockExecution, wave) =>
      match blockExecution.successor.edge with
      | none => (.ok ⟨entryBlockIndex, blockExecutions ++ [blockExecution]⟩, wave)
      | some edge => executeWaveBlocks remaining edge.targetBlockIndex (blockExecutions ++
          [blockExecution]) wave

/-- `execute_shader_wave_program`. -/
def executeShaderWaveProgram (maxBlockExecutions : ℕ) (wave : ShaderWaveState) :
    Except ShaderWaveProgramExecutionError ShaderWaveProgramExecution × ShaderWaveState :=
  if graphMatches program graph = false then
    (.error { code := .graphProgramMismatch, currentBlockIndex := entryBlockIndex }, wave)
  else if entryBlockIndex ≥ graph.blocks.length then
    (.error { code := .entryBlockOutOfBounds, currentBlockIndex := entryBlockIndex }, wave)
  else if (host.allocation (.waveBlockExecutions maxBlockExecutions)).isSome = true then
    (.error { code := .hostAllocationFailure, currentBlockIndex := entryBlockIndex }, wave)
  else executeWaveBlocks host program graph entryBlockIndex maxBlockExecutions entryBlockIndex []
    wave

end Program

/-! ### The interpreter -/

/-- What the interpreter keeps between two blocks. -/
structure InterpreterState where
  emissionIndex : ℕ
  wave : ShaderWaveState
  effects : List ShaderWaveExecutionEffect

/-- Where an interpretation is. -/
inductive Interpretation where
  | running (state : InterpreterState)
  | halted (wave : ShaderWaveState) (effects : List ShaderWaveExecutionEffect)
  | failed (emissionIndex : ℕ) (failure : OperationFailure) (wave : ShaderWaveState)
      (effects : List ShaderWaveExecutionEffect)

/-- On to the next emission, or to the end where there is none. -/
def Interpretation.goOn (next : Option ℕ) (wave : ShaderWaveState)
    (effects : List ShaderWaveExecutionEffect) : Interpretation :=
  match next with
  | some emissionIndex => .running ⟨emissionIndex, wave, effects⟩
  | none => .halted wave effects

/-- One emission. -/
def interpretStep (program : ShaderIrProgram) : Interpretation → Interpretation
  | .running state =>
    match program.emissions[state.emissionIndex]? with
    | none => .halted state.wave state.effects
    | some emission =>
      match executeOperation emission.operation state.wave with
      | (.error failure, wave) => .failed state.emissionIndex failure wave state.effects
      | (.ok effect, wave) =>
        .goOn (nextEmission program state.emissionIndex state.wave.scalar) wave
          (state.effects ++ effect.toList)
  | .halted wave effects => .halted wave effects
  | .failed emissionIndex failure wave effects => .failed emissionIndex failure wave effects

/-- `steps` emissions, or as many as there are. -/
def interpret (program : ShaderIrProgram) (steps : ℕ) (start : Interpretation) : Interpretation :=
  (interpretStep program)^[steps] start

theorem interpret_add (program : ShaderIrProgram) (m n : ℕ) (start : Interpretation) :
    interpret program (m + n) start = interpret program n (interpret program m start) := by
  rw [interpret, Nat.add_comm, Function.iterate_add_apply]
  rfl

theorem interpret_succ (program : ShaderIrProgram) (n : ℕ) (start : Interpretation) :
    interpret program (n + 1) start = interpret program n (interpretStep program start) := rfl

/-- An interpretation that is over. -/
def Interpretation.IsOver : Interpretation → Prop
  | .running _ => False
  | .halted _ _ => True
  | .failed _ _ _ _ => True

theorem interpret_of_isOver {program : ShaderIrProgram} {start : Interpretation} (h : start.IsOver)
    (steps : ℕ) :
    interpret program steps start = start := by
  induction steps with
  | zero => rfl
  | succ steps ih =>
    rw [interpret_succ]
    cases start with
    | running state => cases h
    | halted wave effects => exact ih
    | failed emissionIndex failure wave effects => exact ih

/-! ### A block, emission by emission -/

section Emissions

variable {program : ShaderIrProgram} {graph : ShaderControlFlowGraph} {blockIndex : ℕ}
  {block : ShaderCfgBasicBlock}

variable {emissionIndex : ℕ}

/-- An emission of the straight part of a block has no decision, and the next emission is the
one behind it. -/
theorem BlockOf.straight_step (h : BlockOf program graph blockIndex block)
    (hfirst : block.firstEmissionIndex ≤ emissionIndex)
    (hlast : emissionIndex < block.lastEmissionIndex) (state : ShaderScalarState) :
    branchDecisionOf (program.operationAt emissionIndex) state = none ∧
    nextEmission program emissionIndex state = some (emissionIndex + 1) := by
  have hends := h.straight emissionIndex hfirst hlast
  have hfollowing : followingEmission program emissionIndex = some (emissionIndex + 1) := by
    have hinside := h.inside
    rw [ShaderCfgBasicBlock.lastEmissionIndex] at hlast
    rw [followingEmission, if_pos (by omega)]
  unfold nextEmission
  cases hoperation : program.operationAt emissionIndex <;> rw [hoperation] at hends <;>
    first | exact ⟨rfl, hfollowing⟩ | cases hends

/-- An emission inside the program is interpreted as the operation it is. -/
theorem interpretStep_running (h : emissionIndex < program.emissions.length)
    (wave : ShaderWaveState) (effects : List ShaderWaveExecutionEffect) :
    interpretStep program (.running ⟨emissionIndex, wave, effects⟩) =
      match executeOperation (program.operationAt emissionIndex) wave with
      | (.error failure, wave) => .failed emissionIndex failure wave effects
      | (.ok effect, wave') =>
        .goOn (nextEmission program emissionIndex wave.scalar) wave'
          (effects ++ effect.toList) := by
  have hget := List.getElem?_eq_getElem h
  simp only [interpretStep, hget, operationAt_of_getElem? hget]

/-- **The loop over a block is the interpreter.** The emissions from `emissionIndex` to the last
one fail where the interpreter does, or take it to where the last one leads. `before` is what
the interpreter did before the block. -/
theorem executeEmissions_interprets (h : BlockOf program graph blockIndex block)
    (before : List ShaderWaveExecutionEffect) {remaining : ℕ}
    (hfirst : block.firstEmissionIndex ≤ emissionIndex)
    (hlast : emissionIndex + remaining = block.lastEmissionIndex) (progress : BlockProgress)
    (hdecision : progress.branchDecision = none) :
    (∃ failure index count progress',
      executeEmissions program blockIndex (remaining + 1) emissionIndex progress =
      (.error (failure.toError blockIndex index count), progress') ∧
    ∃ steps, interpret program steps
      (.running ⟨emissionIndex, progress.wave, before ++ progress.effects⟩) =
      .failed index failure progress'.wave (before ++ progress'.effects)) ∨
    ∃ progress' state, executeEmissions program blockIndex (remaining + 1) emissionIndex progress =
      (.ok (), progress') ∧
      progress'.branchDecision =
        branchDecisionOf (program.operationAt block.lastEmissionIndex) state ∧
      interpret program (remaining + 1)
        (.running ⟨emissionIndex, progress.wave, before ++ progress.effects⟩) =
        .goOn (nextEmission program block.lastEmissionIndex state) progress'.wave
          (before ++ progress'.effects) := by
  have hinside : emissionIndex < program.emissions.length := by
    have := h.inside
    have := h.positive
    rw [ShaderCfgBasicBlock.lastEmissionIndex] at hlast
    omega
  induction remaining generalizing emissionIndex progress with
  | zero =>
    obtain rfl : emissionIndex = block.lastEmissionIndex := hlast
    have hstep := interpretStep_running hinside progress.wave (before ++ progress.effects)
    simp only [executeEmissions]
    cases hexecute : executeOperation (program.operationAt block.lastEmissionIndex) progress.wave
      with
    | mk result wave =>
      rw [hexecute] at hstep
      cases result with
      | error failure => exact .inl ⟨failure, _, _, _, rfl, 1, hstep⟩
      | ok effect =>
        refine .inr ⟨_, progress.wave.scalar, rfl, ?_, ?_⟩
        · simp [hdecision]
        · dsimp only at hstep ⊢
          rw [interpret_succ, hstep, List.append_assoc]
          rfl
  | succ remaining ih =>
    have hstraight := h.straight_step hfirst (by omega) progress.wave.scalar
    have hstep := interpretStep_running hinside progress.wave (before ++ progress.effects)
    rw [executeEmissions]
    cases hexecute : executeOperation (program.operationAt emissionIndex) progress.wave with
    | mk result wave =>
      rw [hexecute] at hstep
      cases result with
      | error failure => exact .inl ⟨failure, _, _, _, rfl, 1, hstep⟩
      | ok effect =>
        dsimp only at hstep
        rw [hstraight.2, List.append_assoc] at hstep
        have hnext := ih (show block.firstEmissionIndex ≤ emissionIndex + 1 by omega) (by omega)
          ⟨wave, progress.effects ++ effect.toList,
            branchDecisionOf (program.operationAt emissionIndex) progress.wave.scalar <|>
              progress.branchDecision,
            progress.completedEmissionCount + 1⟩ (by rw [hstraight.1, hdecision]; rfl) (by
              have := h.inside
              rw [ShaderCfgBasicBlock.lastEmissionIndex] at hlast
              omega)
        rcases hnext with ⟨failure, index, count, progress', heq, steps, hsteps⟩ | ⟨progress',
          state, heq, hdecision', hsteps⟩
        · refine .inl ⟨failure, index, count, progress', heq, steps + 1, ?_⟩
          rw [interpret_succ, hstep]
          exact hsteps
        · refine .inr ⟨progress', state, heq, hdecision', ?_⟩
          rw [interpret_succ, hstep]
          exact hsteps

end Emissions

/-! ### A program, block by block -/

section Refinement

variable {host : Host} {program : ShaderIrProgram} {graph : ShaderControlFlowGraph} {blockIndex : ℕ}
  {block : ShaderCfgBasicBlock}

/-- A block that is checked is one of the graph, and there is room for its effects. -/
theorem checkWaveBlock_eq_ok (h : checkWaveBlock host program graph blockIndex = .ok block) :
    graph.blocks[blockIndex]? = some block ∧ host.allocation .waveBlockEffects = none := by
  simp only [checkWaveBlock, bind_eq_ok, orRefuse_eq_ok, allocate_eq_ok, pure_eq_ok] at h
  obtain ⟨-, -, _, hblock, -, -, -, -, -, hhost, rfl⟩ := h
  exact ⟨hblock, hhost⟩

section

variable (hhost : host.allocation .waveBlockEffects = none) (hgraph : GraphOf program graph)
  (hblock : graph.blocks[blockIndex]? = some block)

include hhost hgraph hblock

theorem checkWaveBlock_of_graphOf : checkWaveBlock host program graph blockIndex = .ok block := by
  have h := hgraph.blocks blockIndex block hblock
  simp only [checkWaveBlock, bind_eq_ok, refuseIf_eq_ok, orRefuse_eq_ok, allocate_eq_ok, pure_eq_ok,
    Bool.not_eq_false]
  refine ⟨(), hgraph.graphMatches, block, hblock, (), h.validBlockExtent, (),
    forM_eq_ok.mpr fun i hi => ?_, (), hhost, rfl⟩
  rw [List.mem_range'_1] at hi
  rw [refuseIf_eq_ok, h.straight i hi.1 (by rw [ShaderCfgBasicBlock.lastEmissionIndex]; omega)]
  exact Bool.false_ne_true

/-- **A block is the interpreter.** It fails where the interpreter does, or it takes the
interpreter to the start of the block it selects. -/
theorem executeShaderWaveBlock_interprets (wave : ShaderWaveState)
    (before : List ShaderWaveExecutionEffect) :
    (∃ failure index count wave', executeShaderWaveBlock host program graph blockIndex wave =
        (.error (failure.toError blockIndex index count), wave') ∧
      ∃ steps effects, interpret program steps (.running ⟨block.firstEmissionIndex, wave, before⟩) =
        .failed index failure wave' (before ++ effects)) ∨
    ∃ execution wave' next, executeShaderWaveBlock host program graph blockIndex wave =
      (.ok execution, wave') ∧
      graph.Leads execution.successor.edge next ∧
      interpret program block.emissionCount (.running ⟨block.firstEmissionIndex, wave, before⟩) =
        .goOn next wave' (before ++ execution.effects) := by
  have h := hgraph.blocks blockIndex block hblock
  obtain ⟨remaining, hremaining⟩ : ∃ remaining, block.emissionCount = remaining + 1 :=
    ⟨block.emissionCount - 1, by have := h.positive; omega⟩
  have hlast : block.firstEmissionIndex + remaining = block.lastEmissionIndex := by
    rw [ShaderCfgBasicBlock.lastEmissionIndex, hremaining]
    rfl
  have hloop := executeEmissions_interprets h before le_rfl hlast ⟨wave, [], none, 0⟩ rfl
  simp only [executeShaderWaveBlock, checkWaveBlock_of_graphOf hhost hgraph hblock, hremaining]
  rw [List.append_nil] at hloop
  rcases hloop with ⟨failure, index, count, progress, heq, steps, hsteps⟩ | ⟨progress, state, heq,
    hdecision, hsteps⟩
  · exact .inl ⟨failure, index, count, progress.wave, by rw [heq], steps, progress.effects, hsteps⟩
  · obtain ⟨selection, hselection, hleads⟩ := select_of_graphOf hgraph hblock state
    rw [← hdecision] at hselection
    refine .inr ⟨⟨blockIndex, progress.completedEmissionCount, progress.effects,
      progress.branchDecision, selection⟩, progress.wave, _, ?_, hleads, hsteps⟩
    rw [heq]
    simp only [finishWaveBlock, hselection]

end

/-- The effects of the blocks that were executed. -/
def allEffects (blockExecutions : List ShaderWaveBlockExecution) : List ShaderWaveExecutionEffect :=
  blockExecutions.flatMap ShaderWaveBlockExecution.effects

/-- What a run over the graph has in common with the interpreter. A run that ends took it to
its end, with the same effects. A run that fails took it to the same failure, with the effects
of the blocks before it. A run whose budget is used up left it at the start of a block. -/
def Refines (program : ShaderIrProgram) (graph : ShaderControlFlowGraph) (budget : ℕ)
    (start : Interpretation)
    (outcome : Except ShaderWaveProgramExecutionError ShaderWaveProgramExecution ×
    ShaderWaveState) : Prop :=
  match outcome with
  | (.ok execution, wave) =>
    ∃ steps, interpret program steps start = .halted wave (allEffects execution.blockExecutions)
  | (.error e, wave) =>
    (e.code = .blockExecutionFailure ∧ ∃ failure index count steps effects,
      e.blockError = some (failure.toError e.currentBlockIndex index count) ∧
      interpret program steps start =
        .failed index failure wave (allEffects e.completedBlocks ++ effects)) ∨
    (e.code = .executionBudgetExhausted ∧ ∃ steps first, budget ≤ steps ∧
      graph.StartsAt e.currentBlockIndex first ∧
      interpret program steps start = .running ⟨first, wave, allEffects e.completedBlocks⟩)

variable {start : Interpretation}

theorem Refines.mono {budget budget' : ℕ}
    {outcome : Except ShaderWaveProgramExecutionError ShaderWaveProgramExecution × ShaderWaveState}
    (hle : budget' ≤ budget) (h : Refines program graph budget start outcome) :
    Refines program graph budget' start outcome := by
  obtain ⟨result, wave⟩ := outcome
  cases result with
  | ok execution => exact h
  | error e =>
    rcases h with hfailed | ⟨hcode, steps, first, hsteps, hrest⟩
    · exact .inl hfailed
    · exact .inr ⟨hcode, steps, first, hle.trans hsteps, hrest⟩

theorem allEffects_append_singleton (blockExecutions : List ShaderWaveBlockExecution)
    (execution : ShaderWaveBlockExecution) :
    allEffects (blockExecutions ++ [execution]) =
      allEffects blockExecutions ++ execution.effects := by
  simp [allEffects]

/-- The loop over the blocks, where the blocks so far took the interpreter to the current one. -/
theorem executeWaveBlocks_refines (hhost : host.allocation .waveBlockEffects = none)
    (hgraph : GraphOf program graph) (entryBlockIndex : ℕ) (remaining : ℕ)
    {blockExecutions : List ShaderWaveBlockExecution} {wave : ShaderWaveState} {first steps : ℕ}
    (hstarts : graph.StartsAt blockIndex first)
    (hsteps : interpret program steps start = .running ⟨first, wave, allEffects blockExecutions⟩) :
    Refines program graph (steps + remaining) start
      (executeWaveBlocks host program graph entryBlockIndex remaining blockIndex blockExecutions
        wave) := by
  induction remaining generalizing blockIndex blockExecutions wave first steps with
  | zero => exact .inr ⟨rfl, steps, first, le_rfl, hstarts, hsteps⟩
  | succ remaining ih =>
    obtain ⟨block, hblock, rfl⟩ := hstarts
    rw [executeWaveBlocks]
    rcases executeShaderWaveBlock_interprets hhost hgraph hblock wave (allEffects blockExecutions)
      with
      ⟨failure, index, count, wave', heq, more, effects, hmore⟩ | ⟨execution, wave', next, heq,
        hleads, hmore⟩
    · rw [heq]
      refine .inl ⟨rfl, failure, index, count, steps + more, effects, rfl, ?_⟩
      rw [interpret_add, hsteps, hmore]
    · have hthere := interpret_add program steps block.emissionCount start
      rw [hsteps, hmore, ← allEffects_append_singleton] at hthere
      rw [heq]
      dsimp only
      cases hedge : execution.successor.edge with
      | none =>
        cases next with
        | some next =>
          rw [hedge] at hleads
          exact hleads.elim
        | none => exact ⟨_, hthere⟩
      | some edge =>
        cases next with
        | none =>
          rw [hedge] at hleads
          exact hleads.elim
        | some next =>
          rw [hedge] at hleads
          have hpositive := (hgraph.blocks blockIndex block hblock).positive
          exact (ih hleads hthere).mono (by omega)

/-- **Running over the graph is interpreting the program.** For a graph that the builder built,
every entry block, budget and wave: the run ends where the interpreter halts, with the same wave
and the same effects in the same order; it fails at the emission where the interpreter fails,
for the same reason and with the same wave; and it uses up its budget only where the interpreter
is still running, at the start of the current block. No other error comes back. Where the
interpreter is over within as many emissions as the budget has blocks, the budget is enough. -/
theorem executeShaderWaveProgram_refines (host : Host) (program : ShaderIrProgram)
    (graph : ShaderControlFlowGraph) (hhost : ∀ site, host.allocation site = none)
    (hgraph : buildShaderControlFlowGraph host program = .ok graph) (entryBlockIndex : ℕ)
    (block : ShaderCfgBasicBlock) (hblock : graph.blocks[entryBlockIndex]? = some block)
    (budget : ℕ) (wave : ShaderWaveState) :
    Refines program graph budget (.running ⟨block.firstEmissionIndex, wave, []⟩)
      (executeShaderWaveProgram host program graph entryBlockIndex budget wave) ∧
    ∀ steps ≤ budget,
      (interpret program steps (.running ⟨block.firstEmissionIndex, wave, []⟩)).IsOver →
      ∀ e, (executeShaderWaveProgram host program graph entryBlockIndex budget wave).1 = .error e →
        e.code ≠ .executionBudgetExhausted := by
  have hof := graphOf_of_build hgraph
  have hrun : executeShaderWaveProgram host program graph entryBlockIndex budget wave =
      executeWaveBlocks host program graph entryBlockIndex budget entryBlockIndex [] wave := by
    have hentry := (List.getElem?_eq_some_iff.mp hblock).1
    rw [executeShaderWaveProgram, if_neg (by simp [hof.graphMatches]), if_neg (by omega),
      if_neg (by simp [hhost])]
  have hhere : interpret program 0 (.running ⟨block.firstEmissionIndex, wave, []⟩) =
      .running ⟨block.firstEmissionIndex, wave, allEffects []⟩ := rfl
  have hrefines :=
    executeWaveBlocks_refines (hhost _) hof entryBlockIndex budget ⟨block, hblock, rfl⟩ hhere
  rw [← hrun, Nat.zero_add] at hrefines
  refine ⟨hrefines, fun steps hsteps hover e he hcode => ?_⟩
  cases houtcome : executeShaderWaveProgram host program graph entryBlockIndex budget wave with
  | mk result wave' =>
    rw [houtcome] at hrefines he
    dsimp only at he
    rw [he] at hrefines
    rcases hrefines with ⟨hfailed, -⟩ | ⟨-, steps', first, hle, -, hrunning⟩
    · rw [hcode] at hfailed
      cases hfailed
    · -- what was over after `steps` emissions is over after more of them
      have hlater :=
        interpret_add program steps (steps' - steps) (.running ⟨block.firstEmissionIndex, wave, []⟩)
      rw [Nat.add_sub_cancel' (hsteps.trans hle), hrunning, interpret_of_isOver hover] at hlater
      rw [← hlater] at hover
      exact hover

end Refinement

/-! ### A branch that is taken -/

/-- `s_mov_b32 s1, 5`, a branch over the next word where the condition bit is clear,
`s_mov_b32 s2, 6`, and the end of the program. -/
def skippingProgram : ShaderIrProgram :=
  (lowerRdna2StreamToShaderIr Host.plentiful [0xbe810385, 0xbf840001, 0xbe820386,
    0xbf810000]).toOption.getD ⟨0, []⟩

/-- A wave with nothing in it. -/
def emptyWave : ShaderWaveState where
  scalar := ⟨Vector.replicate _ 0, 0, 0, 0, false⟩
  vector := ⟨.wave64, Vector.replicate _ (Vector.replicate _ 0)⟩

/-- The run enters the first and the last of the three blocks, and the interpreter does the same. -/
theorem executeShaderWaveProgram_refines_skipping :
    ∃ graph execution wave steps, buildShaderControlFlowGraph Host.plentiful skippingProgram =
      .ok graph ∧
      executeShaderWaveProgram Host.plentiful skippingProgram graph 0 8 emptyWave =
        (.ok execution, wave) ∧
      execution.blockExecutions.map ShaderWaveBlockExecution.blockIndex = [0, 2] ∧
      interpret skippingProgram steps (.running ⟨0, emptyWave, []⟩) =
        .halted wave (allEffects execution.blockExecutions) := by
  have htested : (buildShaderControlFlowGraph Host.plentiful skippingProgram).toOption.any
      (fun graph =>
      (graph.blocks[0]?.any fun block => block.firstEmissionIndex == 0) &&
      (executeShaderWaveProgram Host.plentiful skippingProgram graph 0 8 emptyWave).1.toOption.any
        fun execution =>
        execution.blockExecutions.map ShaderWaveBlockExecution.blockIndex == [0, 2]) = true := by
          decide +kernel
  obtain ⟨graph, hgraph, hrun⟩ := exists_of_any htested
  rw [Bool.and_eq_true] at hrun
  obtain ⟨block, hblock, hfirst⟩ := (Option.any_eq_true _ _).mp hrun.1
  obtain ⟨execution, hexecution, hblocks⟩ := exists_of_any hrun.2
  rw [beq_iff_eq] at hfirst hblocks
  have hrefines :=
    (executeShaderWaveProgram_refines Host.plentiful skippingProgram graph
    (fun _ => rfl) hgraph 0 block hblock 8 emptyWave).1
  cases houtcome : executeShaderWaveProgram Host.plentiful skippingProgram graph 0 8 emptyWave with
  | mk result wave =>
    rw [houtcome] at hexecution hrefines
    dsimp only at hexecution
    rw [hexecution, hfirst] at hrefines
    obtain ⟨steps, hsteps⟩ := hrefines
    exact ⟨graph, execution, wave, steps, hgraph, by rw [houtcome, hexecution], hblocks, hsteps⟩

end Astraea.Graphics
