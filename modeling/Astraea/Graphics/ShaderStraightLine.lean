import Astraea.Graphics.ShaderBasicBlocks
import Astraea.Graphics.ShaderWaveExecution

/-!
# Straight-line programs

A program that does not branch, and ends with its only end of the program, is one basic block.
Running it over its graph is executing its operations one after another: `runOperations`.
-/

namespace Astraea.Graphics

open Astraea.Base Astraea.Core

/-- The wave behind operations that all succeed. -/
def runOperations : List ShaderIrOperation → ShaderWaveState → Option ShaderWaveState
  | [], wave => some wave
  | operation :: operations, wave =>
    match executeOperation operation wave with
    | (.ok _, wave) => runOperations operations wave
    | (.error _, _) => none

/-- The operations of a program are these, with the end of the program behind them. -/
structure StraightLine (program : ShaderIrProgram) (operations : List ShaderIrOperation) :
    Prop where
  operations_eq : program.emissions.map ShaderIrEmission.operation = operations ++ [.endProgram]
  straight : ∀ operation ∈ operations, operation.endsBlock = false

section StraightLine

variable {host : Host} {program : ShaderIrProgram} {graph : ShaderControlFlowGraph}
  {operations : List ShaderIrOperation}

theorem StraightLine.length (h : StraightLine program operations) :
    program.emissions.length = operations.length + 1 := by
  rw [← List.length_map ShaderIrEmission.operation, h.operations_eq, List.length_append,
    List.length_singleton]

theorem StraightLine.operationAt (h : StraightLine program operations)
    {before after : List ShaderIrOperation} {operation : ShaderIrOperation}
    (hsplit : operations ++ [.endProgram] = before ++ operation :: after) :
    program.operationAt before.length = operation := by
  have hget : (program.emissions.map ShaderIrEmission.operation)[before.length]? =
      some operation := by
    rw [h.operations_eq, hsplit, List.getElem?_append_right le_rfl, Nat.sub_self,
      List.getElem?_cons_zero]
  rw [List.getElem?_map, Option.map_eq_some_iff] at hget
  obtain ⟨emission, hemission, rfl⟩ := hget
  exact operationAt_of_getElem? hemission

/-! ### The graph -/

theorem markEmissions_straight {emissions : List ShaderIrEmission} {emissionIndex : ℕ}
    {marks : LeaderMarks}
    (hstraight : ∀ emission ∈ emissions, emission.operation.branchDelta = none)
    (hend : ∀ i emission, emissions[i]? = some emission → emission.operation = .endProgram →
      marks.leaders.length ≤ emissionIndex + i + 1) :
    markEmissions program emissionIndex emissions marks = .ok marks := by
  induction emissions generalizing emissionIndex with
  | nil => rfl
  | cons emission emissions ih =>
    have hfirst : markEmission program emissionIndex emission marks = .ok marks := by
      rw [markEmission, hstraight emission List.mem_cons_self]
      dsimp only
      split_ifs with hoperation
      · have hlength := hend 0 emission rfl hoperation
        rw [markNext, if_neg (by omega)]
      · rfl
    rw [markEmissions, hfirst, ok_bind]
    refine ih (fun other hother => hstraight other (List.mem_cons_of_mem _ hother))
      fun i other hother hoperation => ?_
    have := hend (i + 1) other hother hoperation
    omega

variable {operation : ShaderIrOperation} {execution : ShaderWaveProgramExecution}

theorem branchDelta_of_not_endsBlock (h : operation.endsBlock = false) :
    operation.branchDelta = none ∧ operation ≠ .endProgram := by
  cases operation with
  | endProgram => cases h
  | relativeBranch byteDelta => cases h
  | conditionalRelativeBranch condition byteDelta => cases h
  | _ => exact ⟨rfl, ShaderIrOperation.noConfusion⟩

theorem StraightLine.markEmissions_eq (h : StraightLine program operations) :
    markEmissions program 0 program.emissions (initialMarks program.emissions.length) =
      .ok (initialMarks program.emissions.length) := by
  have hmem : ∀ emission ∈ program.emissions, emission.operation ∈ operations ++ [.endProgram] := by
    intro emission hemission
    rw [← h.operations_eq]
    exact List.mem_map_of_mem hemission
  refine markEmissions_straight (fun emission hemission => ?_)
    fun i emission hemission hoperation => ?_
  · rcases List.mem_append.mp (hmem emission hemission) with hoperation | hoperation
    · exact (branchDelta_of_not_endsBlock (h.straight _ hoperation)).1
    · rw [List.mem_singleton.mp hoperation]
      rfl
  · have hget : (operations ++ [.endProgram])[i]? = some .endProgram := by
      rw [← h.operations_eq, List.getElem?_map, hemission, ← hoperation]
      rfl
    have hlast : operations.length ≤ i := by
      by_contra hlt
      rw [Nat.not_le] at hlt
      rw [List.getElem?_append_left hlt] at hget
      exact (branchDelta_of_not_endsBlock (h.straight _ (List.mem_of_getElem? hget))).2 rfl
    rw [initialMarks, List.length_set, List.length_replicate, h.length]
    omega

section

variable (h : StraightLine program operations)
  (hgraph : buildShaderControlFlowGraph host program = .ok graph)

include h hgraph

/-- **Every block starts at the first emission.** -/
theorem StraightLine.firstEmissionIndex {blockIndex : ℕ} {block : ShaderCfgBasicBlock}
    (hblock : graph.blocks[blockIndex]? = some block) :
    block.firstEmissionIndex = 0 := by
  simp only [buildShaderControlFlowGraph, h.markEmissions_eq, bind_eq_ok] at hgraph
  obtain ⟨-, -, hgraph⟩ := hgraph
  split_ifs at hgraph with hempty
  · rw [pure_eq_ok] at hgraph
    subst hgraph
    cases hblock
  · simp only [bind_eq_ok, pure_eq_ok] at hgraph
    obtain ⟨-, -, marks, hmarks, -, -, rfl⟩ := hgraph
    cases hmarks
    rw [getElem?_basicBlocks, Option.map_eq_some_iff] at hblock
    obtain ⟨first, hstart, rfl⟩ := hblock
    have hleader := (mem_segmentStarts.mp (List.mem_of_getElem? hstart)).2
    dsimp only at hleader ⊢
    by_contra hne
    rw [initialMarks, List.getD_eq_getElem?_getD, List.getElem?_set_ne (Ne.symm hne),
      List.getElem?_replicate] at hleader
    split_ifs at hleader <;> cases hleader

theorem StraightLine.exists_firstBlock : ∃ block, graph.blocks[0]? = some block := by
  have hlength := h.length
  simp only [buildShaderControlFlowGraph, h.markEmissions_eq, bind_eq_ok] at hgraph
  obtain ⟨-, -, hgraph⟩ := hgraph
  split_ifs at hgraph with hempty
  · rw [List.isEmpty_iff.mp hempty] at hlength
    cases hlength
  · simp only [bind_eq_ok, pure_eq_ok] at hgraph
    obtain ⟨-, -, marks, hmarks, -, -, rfl⟩ := hgraph
    cases hmarks
    have hstart : 0 ∈ blockStarts program.emissions.length
        (initialMarks program.emissions.length).leaders := by
      refine mem_segmentStarts.mpr ⟨by omega, ?_⟩
      rw [initialMarks, List.getD_eq_getElem?_getD,
        List.getElem?_set_self (by rw [List.length_replicate]; omega)]
      rfl
    have hpos := List.length_pos_of_mem hstart
    refine ⟨_, List.getElem?_eq_getElem ?_⟩
    rw [basicBlocks, List.length_map, List.length_range]
    exact hpos

end

/-! ### The run -/

section

variable {before after : List ShaderIrOperation} (h : StraightLine program operations)
  (hsplit : operations = before ++ operation :: after)

include h hsplit

/-- An emission before the last one is followed by the next. -/
theorem StraightLine.nextEmission_eq (state : ShaderScalarState) :
    nextEmission program before.length state = some (before.length + 1) := by
  have hoperation : program.operationAt before.length = operation :=
    @StraightLine.operationAt _ _ h before (after ++ [.endProgram]) operation
      (by rw [hsplit, List.append_assoc, List.cons_append])
  have hlength := h.length
  rw [hsplit, List.length_append, List.length_cons] at hlength
  have hfollowing : followingEmission program before.length = some (before.length + 1) := by
    rw [followingEmission, if_pos (by omega)]
  have hends :=
    h.straight operation (by rw [hsplit]; exact List.mem_append_right _ List.mem_cons_self)
  rw [nextEmission, hoperation]
  cases operation with
  | endProgram => cases hends
  | relativeBranch byteDelta => cases hends
  | conditionalRelativeBranch condition byteDelta => cases hends
  | _ => exact hfollowing

theorem StraightLine.interpretStep_eq (wave : ShaderWaveState)
    (effects : List ShaderWaveExecutionEffect) :
    interpretStep program (.running ⟨before.length, wave, effects⟩) =
      match executeOperation operation wave with
      | (.error failure, wave) => .failed before.length failure wave effects
      | (.ok effect, wave) => .running ⟨before.length + 1, wave, effects ++ effect.toList⟩ := by
  have hoperation : program.operationAt before.length = operation :=
    @StraightLine.operationAt _ _ h before (after ++ [.endProgram]) operation
      (by rw [hsplit, List.append_assoc, List.cons_append])
  have hlength := h.length
  rw [hsplit, List.length_append, List.length_cons] at hlength
  rw [interpretStep_running (by omega), hoperation, h.nextEmission_eq hsplit]
  rfl

end

theorem StraightLine.interpretStep_end (h : StraightLine program operations)
    (wave : ShaderWaveState) (effects : List ShaderWaveExecutionEffect) :
    interpretStep program (.running ⟨operations.length, wave, effects⟩) = .halted wave effects := by
  have hoperation : program.operationAt operations.length = .endProgram := h.operationAt rfl
  have hlength := h.length
  rw [interpretStep_running (by omega), nextEmission, hoperation]
  simp [executeOperation, Interpretation.goOn]

theorem interpret_halted (program : ShaderIrProgram) (steps : ℕ) (wave : ShaderWaveState)
    (effects : List ShaderWaveExecutionEffect) :
    interpret program steps (.halted wave effects) = .halted wave effects :=
  @interpret_of_isOver program (.halted wave effects) trivial steps

theorem interpret_failed (program : ShaderIrProgram) (steps emissionIndex : ℕ)
    (failure : OperationFailure) (wave : ShaderWaveState)
    (effects : List ShaderWaveExecutionEffect) :
    interpret program steps (.failed emissionIndex failure wave effects) =
      .failed emissionIndex failure wave effects :=
  @interpret_of_isOver program (.failed emissionIndex failure wave effects) trivial steps

/-- An interpretation that halts has executed the operations that were left. -/
theorem StraightLine.runOperations_of_halted (h : StraightLine program operations)
    {before rest : List ShaderIrOperation} (hsplit : operations = before ++ rest)
    {wave wave' : ShaderWaveState} {effects effects' : List ShaderWaveExecutionEffect} {steps : ℕ}
    (hhalted : interpret program steps (.running ⟨before.length, wave, effects⟩) =
      .halted wave' effects') :
    runOperations rest wave = some wave' := by
  induction rest generalizing before wave effects steps with
  | nil =>
    rw [List.append_nil] at hsplit
    subst hsplit
    cases steps with
    | zero => cases hhalted
    | succ steps =>
      rw [interpret_succ, h.interpretStep_end, interpret_halted] at hhalted
      cases hhalted
      rfl
  | cons operation rest ih =>
    cases steps with
    | zero => cases hhalted
    | succ steps =>
      rw [interpret_succ, h.interpretStep_eq hsplit] at hhalted
      rw [runOperations]
      cases hexecute : executeOperation operation wave with
      | mk result middle =>
        rw [hexecute] at hhalted
        cases result with
        | error failure =>
          dsimp only at hhalted
          rw [interpret_failed] at hhalted
          cases hhalted
        | ok effect =>
          have hlength : before.length + 1 = (before ++ [operation]).length := by
            rw [List.length_append, List.length_singleton]
          dsimp only at hhalted
          rw [hlength] at hhalted
          exact ih (by rw [hsplit, List.append_assoc, List.singleton_append]) hhalted

/-- Operations that all succeed are executed by the interpreter, which halts behind them. -/
theorem StraightLine.halted_of_runOperations (h : StraightLine program operations)
    {before rest : List ShaderIrOperation} (hsplit : operations = before ++ rest)
    {wave wave' : ShaderWaveState} (effects : List ShaderWaveExecutionEffect)
    (hrun : runOperations rest wave = some wave') :
    ∃ effects', interpret program (rest.length + 1) (.running ⟨before.length, wave, effects⟩) =
      .halted wave' effects' := by
  induction rest generalizing before wave effects with
  | nil =>
    rw [List.append_nil] at hsplit
    subst hsplit
    cases hrun
    exact ⟨effects, h.interpretStep_end _ effects⟩
  | cons operation rest ih =>
    rw [runOperations] at hrun
    cases hexecute : executeOperation operation wave with
    | mk result middle =>
      rw [hexecute] at hrun
      cases result with
      | error failure => cases hrun
      | ok effect =>
        have hlength : before.length + 1 = (before ++ [operation]).length := by
          rw [List.length_append, List.length_singleton]
        rw [List.length_cons, interpret_succ, h.interpretStep_eq hsplit, hexecute]
        dsimp only
        rw [hlength]
        exact ih (by rw [hsplit, List.append_assoc, List.singleton_append]) _ hrun

/-- Where a block was executed, there was room for its effects. -/
theorem waveBlockEffects_of_ok {entryBlockIndex blockIndex budget : ℕ}
    {blockExecutions : List ShaderWaveBlockExecution} {wave wave' : ShaderWaveState}
    (h : executeWaveBlocks host program graph entryBlockIndex budget blockIndex blockExecutions
      wave = (.ok execution, wave')) :
    host.allocation .waveBlockEffects = none := by
  cases budget with
  | zero => cases h
  | succ budget =>
    rw [executeWaveBlocks, executeShaderWaveBlock] at h
    cases hcheck : checkWaveBlock host program graph blockIndex with
    | error e =>
      rw [hcheck] at h
      cases h
    | ok block => exact (checkWaveBlock_eq_ok hcheck).2

/-- **A run over the graph executes the operations**, from every block. -/
theorem StraightLine.runOperations_of_ok (h : StraightLine program operations)
    (hgraph : buildShaderControlFlowGraph host program = .ok graph) {entryBlockIndex budget : ℕ}
    {wave wave' : ShaderWaveState}
    (hrun : executeShaderWaveProgram host program graph entryBlockIndex budget wave = (.ok
      execution, wave')) :
    runOperations operations wave = some wave' := by
  unfold executeShaderWaveProgram at hrun
  split_ifs at hrun with hmatches hentry hhost
  · cases hrun
  · cases hrun
  · cases hrun
  · rw [ge_iff_le, Nat.not_le] at hentry
    have hblock := List.getElem?_eq_getElem hentry
    have hfirst := h.firstEmissionIndex hgraph hblock
    have hhere : interpret program 0 (.running ⟨0, wave, []⟩) = .running ⟨0, wave, allEffects []⟩ :=
      rfl
    have hrefines := executeWaveBlocks_refines (waveBlockEffects_of_ok hrun)
      (graphOf_of_build hgraph) entryBlockIndex budget
      ⟨_, hblock, hfirst⟩ hhere
    rw [hrun] at hrefines
    obtain ⟨steps, hsteps⟩ := hrefines
    exact @StraightLine.runOperations_of_halted _ _ h [] operations rfl _ _ _ _ _ hsteps

/-- **Operations that all succeed make a run over the graph** that comes to its end. -/
theorem StraightLine.ok_of_runOperations (h : StraightLine program operations)
    (hhost : ∀ site, host.allocation site = none)
    (hgraph : buildShaderControlFlowGraph host program = .ok graph) {wave wave' : ShaderWaveState}
    (hrun : runOperations operations wave = some wave') :
    ∃ budget execution, executeShaderWaveProgram host program graph 0 budget wave =
      (.ok execution, wave') := by
  obtain ⟨block, hblock⟩ := h.exists_firstBlock hgraph
  have hfirst := h.firstEmissionIndex hgraph hblock
  obtain ⟨effects, hhalted⟩ :=
    @StraightLine.halted_of_runOperations _ _ h [] operations rfl wave wave' [] hrun
  rw [List.length_nil] at hhalted
  have hmatches := (graphOf_of_build hgraph).graphMatches
  have hhere : interpret program 0 (.running ⟨0, wave, []⟩) = .running ⟨0, wave, allEffects []⟩ :=
    rfl
  have hrefines := executeWaveBlocks_refines (hhost .waveBlockEffects) (graphOf_of_build hgraph) 0
    (operations.length + 2)
    ⟨block, hblock, hfirst⟩ hhere
  have hprogram : executeShaderWaveProgram host program graph 0 (operations.length + 2) wave =
      executeWaveBlocks host program graph 0 (operations.length + 2) 0 [] wave := by
    have hlt := (List.getElem?_eq_some_iff.mp hblock).1
    rw [executeShaderWaveProgram, if_neg (by simp [hmatches]), if_neg (by omega),
      if_neg (by simp [hhost])]
  refine ⟨operations.length + 2, ?_⟩
  rw [hprogram]
  rcases houtcome : executeWaveBlocks host program graph 0 (operations.length + 2) 0 [] wave
    with ⟨e | execution, after⟩
  · -- the interpreter halts, so it neither fails nor is it still running
    rw [houtcome] at hrefines
    rcases hrefines with ⟨-, failure, index, -, steps, effects', -, hfailed⟩ | ⟨-, steps, first,
      hle, -, hrunning⟩
    · have hlater := interpret_add program steps (operations.length + 1) (.running ⟨0, wave, []⟩)
      rw [hfailed, interpret_failed, Nat.add_comm, interpret_add, hhalted, interpret_halted]
        at hlater
      cases hlater
    · have hlater := interpret_add program (operations.length + 1) (steps - (operations.length + 1))
        (.running ⟨0, wave, []⟩)
      rw [hhalted, interpret_halted, Nat.add_sub_cancel' (by omega), hrunning] at hlater
      cases hlater
  · rw [houtcome] at hrefines
    obtain ⟨steps, hsteps⟩ := hrefines
    have hagain := @StraightLine.runOperations_of_halted _ _ h [] operations rfl _ _ _ _ _ hsteps
    rw [hrun, Option.some.injEq] at hagain
    exact ⟨execution, by rw [hagain]⟩

end StraightLine

/-! ### A program for operations -/

/-- Emissions of one word each, one behind the other. -/
def straightEmissions : (wordIndex : ℕ) → List ShaderIrOperation → List ShaderIrEmission
  | _, [] => []
  | wordIndex, operation :: operations =>
    ⟨operation, sampleInstruction wordIndex 1⟩ :: straightEmissions (wordIndex + 1) operations

/-- Operations, and the end of the program. -/
def straightProgram (operations : List ShaderIrOperation) : ShaderIrProgram :=
  ⟨operations.length + 1, straightEmissions 0 (operations ++ [.endProgram])⟩

section StraightProgram

variable {host : Host} {operations : List ShaderIrOperation}

theorem map_operation_straightEmissions (wordIndex : ℕ) (operations : List ShaderIrOperation) :
    (straightEmissions wordIndex operations).map ShaderIrEmission.operation = operations := by
  induction operations generalizing wordIndex with
  | nil => rfl
  | cons operation operations ih => rw [straightEmissions, List.map_cons, ih]

theorem straightLine_straightProgram
    (hstraight : ∀ operation ∈ operations, operation.endsBlock = false) :
    StraightLine (straightProgram operations) operations :=
  ⟨map_operation_straightEmissions 0 _, hstraight⟩

theorem validateEmissions_straightEmissions {sourceWordCount : ℕ}
    (hcount : sourceWordCount ≤ kMaxSize / 4) (emissionIndex wordIndex : ℕ)
    (hinside : wordIndex + operations.length ≤ sourceWordCount) :
    validateEmissions sourceWordCount emissionIndex wordIndex
      (straightEmissions wordIndex operations) =
      .ok (wordIndex + operations.length) := by
  induction operations generalizing emissionIndex wordIndex with
  | nil => rfl
  | cons operation operations ih =>
    rw [List.length_cons] at hinside
    have hrest := ih (emissionIndex + 1) (wordIndex + 1) (by omega)
    have hfirst : ¬ ((sampleInstruction wordIndex 1).wordCount = 0 ∨
        (sampleInstruction wordIndex 1).wordIndex ≠ wordIndex ∨ wordIndex > sourceWordCount ∨
        (sampleInstruction wordIndex 1).wordCount > sourceWordCount - wordIndex ∨
        wordIndex > kMaxSize / 4 ∨ (sampleInstruction wordIndex 1).byteOffset ≠ wordIndex * 4) := by
      simp only [sampleInstruction]
      omega
    rw [straightEmissions, validateEmissions, refuseIf, if_neg hfirst, ok_bind, List.length_cons]
    rw [show wordIndex + (operations.length + 1) = wordIndex + 1 + operations.length by omega]
    exact hrest

theorem exists_graph_straightProgram (hhost : ∀ site, host.allocation site = none)
    (hstraight : ∀ operation ∈ operations, operation.endsBlock = false)
    (hlength : operations.length + 1 ≤ kMaxSize / 4) :
    ∃ graph, buildShaderControlFlowGraph host (straightProgram operations) = .ok graph := by
  have hline := straightLine_straightProgram hstraight
  have hlayout : validateProgramLayout (straightProgram operations) = .ok () := by
    have hemissions :=
      @validateEmissions_straightEmissions (operations ++ [.endProgram]) _ hlength 0 0
      (by rw [List.length_append, List.length_singleton]; omega)
    have hmax : ¬ (straightProgram operations).sourceWordCount > kMaxSignedWordIndex := by
      rw [kMaxSize] at hlength
      rw [straightProgram, kMaxSignedWordIndex]
      dsimp only
      omega
    rw [validateProgramLayout, refuseIf, if_neg hmax, ok_bind]
    change (validateEmissions _ 0 0 (straightEmissions 0 (operations ++ [.endProgram])) >>= _) = _
    rw [straightProgram, hemissions, ok_bind, refuseIf, if_neg]
    simp
  have hallocate : ∀ site e e', allocate host site e e' =
      (.ok () : Except ShaderCfgError Unit) := by
    intro site e e'
    rw [allocate, hhost site]
  simp only [buildShaderControlFlowGraph, hlayout, hallocate, hline.markEmissions_eq, ok_bind]
  split_ifs
  · exact ⟨_, rfl⟩
  · exact ⟨_, rfl⟩

end StraightProgram

end Astraea.Graphics
