import Astraea.Base.Path
import Astraea.Graphics.ShaderWaveExecution

/-!
# The budget of a run

A run is bounded by the number of blocks it may execute. No operation writes what a branch
is decided by: the condition bit and the masks stay as they are, so the block behind a block
is the same whenever it is reached. A run that comes to its end is therefore a path that
passes no block twice, and a budget of as many blocks as the graph has is enough.

The room for the executed blocks is reserved for the whole budget before the first of them
runs, so a budget the host has no room for fails, however short the run would be.
-/

namespace Astraea.Graphics

open Astraea.Base Astraea.Core

/-! ### What no operation writes -/

/-- The registers a branch or a move reads and nothing writes. -/
structure SameConditions (before after : ShaderScalarState) : Prop where
  scc : after.scc = before.scc
  vcc : after.vcc = before.vcc
  exec : after.exec = before.exec
  m0 : after.m0 = before.m0

theorem SameConditions.refl (state : ShaderScalarState) : SameConditions state state :=
  ⟨rfl, rfl, rfl, rfl⟩

theorem SameConditions.trans {a b c : ShaderScalarState} (hab : SameConditions a b)
    (hbc : SameConditions b c) :
    SameConditions a c :=
  ⟨hbc.scc.trans hab.scc, hbc.vcc.trans hab.vcc, hbc.exec.trans hab.exec, hbc.m0.trans hab.m0⟩

theorem SameConditions.branchDecisionOf {before after : ShaderScalarState}
    (h : SameConditions before after) (operation : ShaderIrOperation) :
    branchDecisionOf operation after = branchDecisionOf operation before := by
  cases operation with
  | conditionalRelativeBranch condition byteDelta =>
    simp only [Astraea.Graphics.branchDecisionOf, evaluateShaderBranchCondition, h.scc, h.vcc,
      h.exec]
  | _ => rfl

theorem sameConditions_of_scalar {operation : ShaderIrOperation} {before after : ShaderScalarState}
    {effect : ShaderScalarExecutionEffect}
    (h : executeShaderScalarOperation operation before = .ok (effect, after)) :
    SameConditions before after := by
  cases operation with
  | scalarMove32 destination source =>
    simp only [executeShaderScalarOperation, executeScalarMove32, bind_eq_ok, pure_eq_ok,
      Prod.mk.injEq] at h
    obtain ⟨-, -, value, -, -, rfl⟩ := h
    exact ⟨rfl, rfl, rfl, rfl⟩
  | scalarMove64 destination source =>
    simp only [executeShaderScalarOperation, executeScalarMove64, bind_eq_ok, pure_eq_ok,
      Prod.mk.injEq] at h
    obtain ⟨-, -, -, -, -, rfl⟩ := h
    exact ⟨rfl, rfl, rfl, rfl⟩
  | _ => cases h

theorem sameConditions_of_executeOperation (operation : ShaderIrOperation)
    (wave : ShaderWaveState) :
    SameConditions wave.scalar (executeOperation operation wave).2.scalar := by
  cases operation with
  | scalarMove32 destination source =>
    simp only [executeOperation]
    cases h : executeShaderScalarOperation (.scalarMove32 destination source) wave.scalar with
    | error e => exact .refl _
    | ok moved => exact sameConditions_of_scalar h
  | scalarMove64 destination source =>
    simp only [executeOperation]
    cases h : executeShaderScalarOperation (.scalarMove64 destination source) wave.scalar with
    | error e => exact .refl _
    | ok moved => exact sameConditions_of_scalar h
  | vectorMove32 destination source =>
    simp only [executeOperation]
    split <;> exact .refl _
  | vectorAddF32 destination source0 source1 =>
    simp only [executeOperation]
    split <;> exact .refl _
  | exporting fields =>
    simp only [executeOperation]
    split <;> exact .refl _
  | _ => exact .refl _

/-! ### The block behind a block -/

/-- The decision `remaining` emissions from `emissionIndex` on leave, over a state nothing of which
they write. -/
def decisionOver (program : ShaderIrProgram) (state : ShaderScalarState) :
    (remaining emissionIndex : ℕ) → Option ShaderBranchDecision → Option ShaderBranchDecision
  | 0, _, decision => decision
  | remaining + 1, emissionIndex, decision =>
    decisionOver program state remaining (emissionIndex + 1)
      (branchDecisionOf (program.operationAt emissionIndex) state <|> decision)

theorem SameConditions.decisionOver {before after : ShaderScalarState}
    (h : SameConditions before after) (program : ShaderIrProgram) (remaining emissionIndex : ℕ)
    (decision : Option ShaderBranchDecision) :
    decisionOver program after remaining emissionIndex decision =
      decisionOver program before remaining emissionIndex decision := by
  induction remaining generalizing emissionIndex decision with
  | zero => rfl
  | succ remaining ih => rw [Astraea.Graphics.decisionOver, Astraea.Graphics.decisionOver,
      h.branchDecisionOf, ih]

/-- What a loop over emissions leaves of the conditions, and the decision it comes to. -/
theorem executeEmissions_decision (program : ShaderIrProgram)
    (blockIndex remaining emissionIndex : ℕ) (progress : BlockProgress) :
    SameConditions progress.wave.scalar
      (executeEmissions program blockIndex remaining emissionIndex progress).2.wave.scalar ∧
    ∀ u, (executeEmissions program blockIndex remaining emissionIndex progress).1 = .ok u →
      (executeEmissions program blockIndex remaining emissionIndex progress).2.branchDecision =
        decisionOver program progress.wave.scalar remaining emissionIndex
          progress.branchDecision := by
  induction remaining generalizing emissionIndex progress with
  | zero => exact ⟨.refl _, fun _ _ => rfl⟩
  | succ remaining ih =>
    have hsame :=
      sameConditions_of_executeOperation (program.operationAt emissionIndex) progress.wave
    rw [executeEmissions]
    rcases hoperation : executeOperation (program.operationAt emissionIndex) progress.wave
      with ⟨e | effect, wave⟩
    · rw [hoperation] at hsame
      exact ⟨hsame, fun u hu => by cases hu⟩
    · rw [hoperation] at hsame
      obtain ⟨hrest, hdecision⟩ := ih (emissionIndex + 1)
        { wave := wave
          effects := progress.effects ++ effect.toList
          branchDecision :=
            branchDecisionOf (program.operationAt emissionIndex) progress.wave.scalar <|>
            progress.branchDecision
          completedEmissionCount := progress.completedEmissionCount + 1 }
      refine ⟨hsame.trans hrest, ?_⟩
      intro u hu
      exact (hdecision u hu).trans (hsame.decisionOver program remaining (emissionIndex + 1) _)

/-- The block behind a block, over a state with the conditions of a run. -/
def nextBlock (program : ShaderIrProgram) (graph : ShaderControlFlowGraph)
    (state : ShaderScalarState) (blockIndex : ℕ) :
    Option ℕ := do
  let block ← graph.blocks[blockIndex]?
  let decision := decisionOver program state block.emissionCount block.firstEmissionIndex none
  let selection ← (selectShaderCfgSuccessor program graph blockIndex decision).toOption
  let edge ← selection.edge
  return edge.targetBlockIndex

section Run

variable {host : Host} {program : ShaderIrProgram} {graph : ShaderControlFlowGraph} {blockIndex : ℕ}

theorem SameConditions.nextBlock {before after : ShaderScalarState}
    (h : SameConditions before after) :
    nextBlock program graph after = nextBlock program graph before := by
  funext blockIndex
  simp only [Astraea.Graphics.nextBlock, h.decisionOver]

theorem sameConditions_of_block (host : Host) (program : ShaderIrProgram)
    (graph : ShaderControlFlowGraph) (blockIndex : ℕ) (wave : ShaderWaveState) :
    SameConditions wave.scalar
      (executeShaderWaveBlock host program graph blockIndex wave).2.scalar := by
  unfold executeShaderWaveBlock
  cases hcheck : checkWaveBlock host program graph blockIndex with
  | error e => exact .refl _
  | ok block =>
    have hsame :=
      (executeEmissions_decision program blockIndex block.emissionCount block.firstEmissionIndex
      ⟨wave, [], none, 0⟩).1
    dsimp only
    rcases hrun : executeEmissions program blockIndex block.emissionCount block.firstEmissionIndex
      ⟨wave, [], none, 0⟩ with
      ⟨e | u, progress⟩
    · rw [hrun] at hsame
      exact hsame
    · rw [hrun] at hsame
      exact hsame

variable {wave : ShaderWaveState} {entryBlockIndex : ℕ} {execution : ShaderWaveProgramExecution}

/-- **A block that was executed leads to the block behind it.** -/
theorem executeShaderWaveBlock_eq_ok {wave' : ShaderWaveState}
    {execution : ShaderWaveBlockExecution}
    (h : executeShaderWaveBlock host program graph blockIndex wave = (.ok execution, wave')) :
    execution.blockIndex = blockIndex ∧ blockIndex < graph.blocks.length ∧
      execution.successor.edge.map ShaderCfgEdge.targetBlockIndex =
        nextBlock program graph wave.scalar blockIndex := by
  unfold executeShaderWaveBlock at h
  cases hcheck : checkWaveBlock host program graph blockIndex with
  | error e => rw [hcheck] at h; cases h
  | ok block =>
    rw [hcheck] at h
    have hblock := (checkWaveBlock_eq_ok hcheck).1
    have hdecision :=
      (executeEmissions_decision program blockIndex block.emissionCount block.firstEmissionIndex
      ⟨wave, [], none, 0⟩).2
    dsimp only at h
    rcases hrun : executeEmissions program blockIndex block.emissionCount block.firstEmissionIndex
      ⟨wave, [], none, 0⟩ with
      ⟨e | u, progress⟩
    · rw [hrun] at h
      cases h
    · rw [hrun] at h hdecision
      have hdecision := hdecision u rfl
      dsimp only at hdecision
      simp only [finishWaveBlock, Prod.mk.injEq] at h
      cases hselect : selectShaderCfgSuccessor program graph blockIndex progress.branchDecision with
      | error e => rw [hselect] at h; cases h.1
      | ok selection =>
        rw [hselect] at h
        cases h.1
        refine ⟨rfl, (List.getElem?_eq_some_iff.mp hblock).1, ?_⟩
        rw [hdecision] at hselect
        simp only [nextBlock, hblock, Option.bind_eq_bind, Option.bind_some, hselect,
          Except.toOption]
        cases selection.edge <;> rfl

/-! ### Runs -/

theorem sameConditions_of_blocks (entryBlockIndex remaining : ℕ)
    (blockExecutions : List ShaderWaveBlockExecution) (wave : ShaderWaveState) :
    SameConditions wave.scalar
      (executeWaveBlocks host program graph entryBlockIndex remaining blockIndex blockExecutions
        wave).2.scalar := by
  induction remaining generalizing blockIndex blockExecutions wave with
  | zero => exact .refl _
  | succ remaining ih =>
    have hsame := sameConditions_of_block host program graph blockIndex wave
    rw [executeWaveBlocks]
    rcases hblock : executeShaderWaveBlock host program graph blockIndex wave
      with ⟨e | execution, wave'⟩
    · rw [hblock] at hsame
      exact hsame
    · rw [hblock] at hsame
      dsimp only
      cases execution.successor.edge with
      | none => exact hsame
      | some edge => exact hsame.trans (ih _ wave')

/-- **A run that comes to its end** executed the blocks of a path, and does the same with every
budget that is enough for them. -/
theorem executeWaveBlocks_eq_ok {remaining : ℕ} {blockExecutions : List ShaderWaveBlockExecution}
    {wave' : ShaderWaveState}
    (h : executeWaveBlocks host program graph entryBlockIndex remaining blockIndex blockExecutions
      wave = (.ok execution, wave')) :
    ∃ first more, execution.blockExecutions = blockExecutions ++ first :: more ∧
      first.blockIndex = blockIndex ∧
      (first :: more).length ≤ remaining ∧
      EndsIn (nextBlock program graph wave.scalar)
        ((first :: more).map ShaderWaveBlockExecution.blockIndex) ∧
      (∀ executed ∈ first :: more, executed.blockIndex < graph.blocks.length) ∧
      ∀ budget, (first :: more).length ≤ budget →
        executeWaveBlocks host program graph entryBlockIndex budget blockIndex blockExecutions
          wave = (.ok execution, wave') := by
  induction remaining generalizing blockIndex blockExecutions wave with
  | zero => cases h
  | succ remaining ih =>
    have hsame := sameConditions_of_block host program graph blockIndex wave
    rw [executeWaveBlocks] at h
    rcases hblock : executeShaderWaveBlock host program graph blockIndex wave
      with ⟨e | first, middle⟩
    · rw [hblock] at h
      cases h
    · rw [hblock] at h hsame
      obtain ⟨hindex, hlt, hnext⟩ := executeShaderWaveBlock_eq_ok hblock
      dsimp only at h
      cases hedge : first.successor.edge with
      | none =>
        rw [hedge] at h hnext
        cases h
        refine ⟨first, [], rfl, hindex, by simp, ?_, ?_, ?_⟩
        · rw [List.map_singleton, hindex]
          exact .last hnext.symm
        · intro executed hexecuted
          rwa [List.mem_singleton.mp hexecuted, hindex]
        · intro budget hbudget
          obtain ⟨budget, rfl⟩ := Nat.exists_eq_succ_of_ne_zero (Nat.pos_iff_ne_zero.mp hbudget)
          rw [Nat.succ_eq_add_one, executeWaveBlocks, hblock]
          dsimp only
          rw [hedge]
      | some edge =>
        rw [hedge] at h hnext
        obtain ⟨second, more, hexecutions, hsecond, hlength, hends, hinside, hbudgets⟩ := ih h
        refine ⟨first, second :: more, by rw [hexecutions, List.append_assoc]; rfl, hindex,
          Nat.succ_le_succ hlength, ?_, ?_, ?_⟩
        · rw [hsame.nextBlock] at hends
          rw [List.map_cons, List.map_cons, hindex, hsecond] at *
          exact .step hnext.symm hends
        · intro executed hexecuted
          rcases List.mem_cons.mp hexecuted with rfl | hexecuted
          · rwa [hindex]
          · exact hinside executed hexecuted
        · intro budget hbudget
          obtain ⟨budget, rfl⟩ :=
            Nat.exists_eq_succ_of_ne_zero (Nat.ne_of_gt (lt_of_lt_of_le (Nat.succ_pos _) hbudget))
          rw [Nat.succ_eq_add_one, executeWaveBlocks, hblock]
          dsimp only
          rw [hedge]
          exact hbudgets budget (Nat.succ_le_succ_iff.mp hbudget)

theorem executeShaderWaveProgram_eq_ok {budget : ℕ} {wave' : ShaderWaveState}
    (h : executeShaderWaveProgram host program graph entryBlockIndex budget wave = (.ok execution,
      wave')) :
    graphMatches program graph = true ∧ entryBlockIndex < graph.blocks.length ∧
      executeWaveBlocks host program graph entryBlockIndex budget entryBlockIndex [] wave =
        (.ok execution, wave') := by
  unfold executeShaderWaveProgram at h
  split_ifs at h with hmatches hentry hhost
  · cases h
  · cases h
  · cases h
  · exact ⟨Bool.not_eq_false _ ▸ hmatches, Nat.not_le.mp hentry, h⟩

theorem executeShaderWaveProgram_of_blocks {budget : ℕ}
    (hmatches : graphMatches program graph = true) (hentry : entryBlockIndex < graph.blocks.length)
    (hhost : host.allocation (.waveBlockExecutions budget) = none) :
    executeShaderWaveProgram host program graph entryBlockIndex budget wave =
      executeWaveBlocks host program graph entryBlockIndex budget entryBlockIndex [] wave := by
  rw [executeShaderWaveProgram, if_neg (by simp [hmatches]), if_neg (Nat.not_le.mpr hentry),
    if_neg (by simp [hhost])]

end Run

/-- What budgets do to the runs from an entry block and a wave. -/
structure BudgetLaw (host : Host) (program : ShaderIrProgram) (graph : ShaderControlFlowGraph)
    (entryBlockIndex : ℕ) (wave : ShaderWaveState) : Prop where
  /-- A larger budget the host has room for changes nothing about a run that comes to its end. -/
  monotone : ∀ n execution wave',
    executeShaderWaveProgram host program graph entryBlockIndex n wave = (.ok execution, wave') →
    ∀ m ≥ n, host.allocation (.waveBlockExecutions m) = none →
      executeShaderWaveProgram host program graph entryBlockIndex m wave = (.ok execution, wave')
  /-- No block is executed twice. -/
  nodup : ∀ n execution wave',
    executeShaderWaveProgram host program graph entryBlockIndex n wave = (.ok execution, wave') →
    (execution.blockExecutions.map ShaderWaveBlockExecution.blockIndex).Nodup
  /-- The blocks of the graph are budget enough. -/
  bounded : ∀ n execution wave',
    executeShaderWaveProgram host program graph entryBlockIndex n wave = (.ok execution, wave') →
    ∃ k ≤ n, k ≤ graph.blocks.length ∧ (host.allocation (.waveBlockExecutions k) = none →
      executeShaderWaveProgram host program graph entryBlockIndex k wave = (.ok execution, wave'))
  /-- A run that uses up as much never comes to its end. -/
  exhausted : ∀ n ≥ graph.blocks.length, ∀ e wave',
    executeShaderWaveProgram host program graph entryBlockIndex n wave = (.error e, wave') →
    e.code = .executionBudgetExhausted →
    ∀ m execution wave'', executeShaderWaveProgram host program graph entryBlockIndex m wave ≠
      (.ok execution, wave'')
  /-- Nothing writes the conditions. -/
  conditions : ∀ n, SameConditions wave.scalar
    (executeShaderWaveProgram host program graph entryBlockIndex n wave).2.scalar

/-- **Budgets are monotone and bounded by the graph**, as far as the host has room for them. -/
theorem executeShaderWaveProgram_budget (host : Host) (program : ShaderIrProgram)
    (graph : ShaderControlFlowGraph) (entryBlockIndex : ℕ) (wave : ShaderWaveState) :
    BudgetLaw host program graph entryBlockIndex wave := by
  -- a run that comes to its end does so with every budget that is enough for its blocks
  have hrun : ∀ {n execution wave'},
      executeShaderWaveProgram host program graph entryBlockIndex n wave = (.ok execution, wave') →
      (execution.blockExecutions.map ShaderWaveBlockExecution.blockIndex).Nodup ∧
      execution.blockExecutions.length ≤ n ∧
      execution.blockExecutions.length ≤ graph.blocks.length ∧
      ∀ m ≥ execution.blockExecutions.length, host.allocation (.waveBlockExecutions m) = none →
        executeShaderWaveProgram host program graph entryBlockIndex m wave =
          (.ok execution, wave') := by
    intro n execution wave' h
    obtain ⟨hmatches, hentry, hblocks⟩ := executeShaderWaveProgram_eq_ok h
    obtain ⟨first, more, hexecutions, -, hlength, hends, hinside, hbudgets⟩ :=
      executeWaveBlocks_eq_ok hblocks
    rw [List.nil_append] at hexecutions
    rw [hexecutions]
    refine ⟨hends.nodup, hlength, ?_, ?_⟩
    · rw [← List.length_map ShaderWaveBlockExecution.blockIndex]
      refine length_le_of_nodup_of_lt hends.nodup ?_
      intro index hindex
      obtain ⟨executed, hexecuted, rfl⟩ := List.mem_map.mp hindex
      exact hinside executed hexecuted
    · intro m hm hhost
      rw [executeShaderWaveProgram_of_blocks hmatches hentry hhost]
      exact hbudgets m hm
  constructor
  case monotone =>
    intro n execution wave' h m hm hhost
    obtain ⟨-, hlength, -, hbudgets⟩ := hrun h
    exact hbudgets m (hlength.trans hm) hhost
  case nodup =>
    intro n execution wave' h
    exact (hrun h).1
  case bounded =>
    intro n execution wave' h
    obtain ⟨-, hlength, hgraph, hbudgets⟩ := hrun h
    exact ⟨_, hlength, hgraph, hbudgets _ le_rfl⟩
  case exhausted =>
    intro n hn e wave' herror hcode m execution wave'' h
    obtain ⟨-, -, hgraph, hbudgets⟩ := hrun h
    have hhost : host.allocation (.waveBlockExecutions n) = none := by
      unfold executeShaderWaveProgram at herror
      split_ifs at herror with hmatches hentry hhost
      · cases herror
        cases hcode
      · cases herror
        cases hcode
      · cases herror
        cases hcode
      · rwa [Bool.not_eq_true, Option.isSome_eq_false_iff, Option.isNone_iff_eq_none] at hhost
    have hok := hbudgets n (hgraph.trans hn) hhost
    rw [herror] at hok
    cases hok
  case conditions =>
    intro n
    unfold executeShaderWaveProgram
    split_ifs
    · exact .refl _
    · exact .refl _
    · exact .refl _
    · exact sameConditions_of_blocks entryBlockIndex n [] wave

/-- A host without room for more elements than a vector of bytes can have. -/
def vectorHost : Host where
  allocation site :=
    match site with
    | .waveBlockExecutions maxBlockExecutions =>
      if 2 ^ 63 ≤ maxBlockExecutions then some .lengthError else none
    | _ => none
  createdShadersMaxSize := 2 ^ 48

/-- A budget that is larger than a vector can be makes a run of two blocks fail. -/
theorem executeShaderWaveProgram_hugeBudget :
    ¬ ∀ (host : Host) (program : ShaderIrProgram) (graph : ShaderControlFlowGraph),
    buildShaderControlFlowGraph host program = .ok graph → ∀ entryBlockIndex n execution wave wave',
      executeShaderWaveProgram host program graph entryBlockIndex n wave = (.ok execution, wave') →
      ∀ m, n ≤ m → m < 2 ^ 64 →
        executeShaderWaveProgram host program graph entryBlockIndex m wave =
          (.ok execution, wave') := by
  intro hclaim
  have htested : (buildShaderControlFlowGraph vectorHost skippingProgram).toOption.any (fun graph =>
      (executeShaderWaveProgram vectorHost skippingProgram graph 0 2 emptyWave).1.toOption.isSome &&
      !(executeShaderWaveProgram vectorHost skippingProgram graph 0
        (2 ^ 64 - 1) emptyWave).1.toOption.isSome) = true := by
    decide +kernel
  obtain ⟨graph, hgraph, hruns⟩ := exists_of_any htested
  rw [Bool.and_eq_true, Bool.not_eq_true'] at hruns
  rcases hrun : executeShaderWaveProgram vectorHost skippingProgram graph 0 2 emptyWave
    with ⟨e | execution, wave'⟩
  · rw [hrun] at hruns
    cases hruns.1
  · have hhuge := hclaim vectorHost skippingProgram graph hgraph 0 2 execution emptyWave wave' hrun
      (2 ^ 64 - 1) (by decide)
      (by decide)
    rw [hhuge] at hruns
    cases hruns.2

end Astraea.Graphics
