import Astraea.Graphics.ShaderCfg
import Astraea.Graphics.ShaderScalarExecution

/-!
# Choosing the next block

`select_shader_cfg_successor` takes the edge a block leaves by. It trusts nothing about the
graph it is given: it checks that the graph is of the program's size, that the block lies
inside the program, that every edge leads to a block, and that the edges are the ones the
last operation of the block calls for.

Over a graph of the program none of these checks fails, and the edge leads to the emission
that comes next: `select_of_blockOf`.
-/

namespace Astraea.Graphics

open Astraea.Base

/-- The block that is next. -/
structure ShaderCfgSuccessorSelection where
  edge : Option ShaderCfgEdge
  deriving DecidableEq

/-- Why no successor can be chosen. -/
inductive ShaderCfgSuccessorErrorCode where
  | graphProgramMismatch
  | blockIndexOutOfBounds
  | invalidBlockExtent
  | invalidEdgeTarget
  | invalidSuccessorTopology
  | branchDecisionRequired
  | unexpectedBranchDecision
  | branchConditionMismatch
  deriving DecidableEq

/-- A block that has no successor to be chosen. -/
structure ShaderCfgSuccessorError where
  code : ShaderCfgSuccessorErrorCode
  blockIndex : ℕ
  edgeIndex : Option ℕ := none
  deriving DecidableEq

/-- The graph has the size of the program. -/
def graphMatches (program : ShaderIrProgram) (graph : ShaderControlFlowGraph) : Bool :=
  graph.sourceWordCount == program.sourceWordCount &&
    graph.emissionCount == program.emissions.length

/-- A block is not empty and lies inside the program. -/
def validBlockExtent (program : ShaderIrProgram) (block : ShaderCfgBasicBlock) : Bool :=
  !(block.emissionCount == 0 || decide (block.firstEmissionIndex > program.emissions.length) ||
    decide (block.emissionCount > program.emissions.length - block.firstEmissionIndex))

section Select

variable (program : ShaderIrProgram) (graph : ShaderControlFlowGraph) (blockIndex : ℕ)

/-- The loop over the edges: every one leads to a block. -/
def checkEdgeTargets : (edgeIndex : ℕ) → List ShaderCfgEdge → Except ShaderCfgSuccessorError Unit
  | _, [] => .ok ()
  | edgeIndex, edge :: edges => do
    refuseIf (edge.targetBlockIndex ≥ graph.blocks.length)
      ⟨.invalidEdgeTarget, blockIndex, some edgeIndex⟩
    checkEdgeTargets (edgeIndex + 1) edges

/-- The edges of a conditional branch. -/
structure ConditionalEdges where
  taken : Option ShaderCfgEdge := none
  fallthrough : Option ShaderCfgEdge := none

/-- The loop over the edges of a conditional branch. -/
def findConditionalEdges :
    List ShaderCfgEdge → ConditionalEdges → Except ShaderCfgSuccessorError ConditionalEdges
  | [], found => .ok found
  | edge :: edges, found =>
    match edge.kind with
    | .conditionalBranchTaken => do
      refuseIf (found.taken.isSome = true) ⟨.invalidSuccessorTopology, blockIndex, none⟩
      findConditionalEdges edges { found with taken := some edge }
    | .conditionalBranchFallthrough => do
      refuseIf (found.fallthrough.isSome = true) ⟨.invalidSuccessorTopology, blockIndex, none⟩
      findConditionalEdges edges { found with fallthrough := some edge }
    | .linearFallthrough => .error ⟨.invalidSuccessorTopology, blockIndex, none⟩
    | .unconditionalBranch => .error ⟨.invalidSuccessorTopology, blockIndex, none⟩

/-- The edge of a conditional branch, by its decision. -/
def selectConditional (successors : List ShaderCfgEdge) (hasSourceFallthrough : Bool)
    (decision : ShaderBranchDecision) :
    Except ShaderCfgSuccessorError ShaderCfgSuccessorSelection := do
  let found ← findConditionalEdges blockIndex successors {}
  refuseIf (found.taken.isNone = true ∨
    (hasSourceFallthrough = true ∧ found.fallthrough.isNone = true) ∨
    (hasSourceFallthrough = false ∧ found.fallthrough.isSome = true) ∨
    successors.length ≠ if hasSourceFallthrough = true then 2 else 1)
    ⟨.invalidSuccessorTopology, blockIndex, none⟩
  refuseIf (hasSourceFallthrough = true ∧
      found.fallthrough.map ShaderCfgEdge.targetBlockIndex ≠ some (blockIndex + 1))
    ⟨.invalidSuccessorTopology, blockIndex, none⟩
  return ⟨if decision.taken = true then found.taken else found.fallthrough⟩

/-- The edge of a block, by its last operation. -/
def selectByOperation (operation : ShaderIrOperation) (successors : List ShaderCfgEdge)
    (hasSourceFallthrough : Bool) (branchDecision : Option ShaderBranchDecision) :
    Except ShaderCfgSuccessorError ShaderCfgSuccessorSelection :=
  let topology : ShaderCfgSuccessorError := ⟨.invalidSuccessorTopology, blockIndex, none⟩
  let unexpected : ShaderCfgSuccessorError := ⟨.unexpectedBranchDecision, blockIndex, none⟩
  match operation with
  | .endProgram => do
    refuseIf (branchDecision.isSome = true) unexpected
    refuseIf (successors ≠ []) topology
    return ⟨none⟩
  | .relativeBranch _ => do
    refuseIf (branchDecision.isSome = true) unexpected
    refuseIf (successors.map ShaderCfgEdge.kind ≠ [.unconditionalBranch]) topology
    return ⟨successors.head?⟩
  | .conditionalRelativeBranch condition _ => do
    let decision ← orRefuse branchDecision ⟨.branchDecisionRequired, blockIndex, none⟩
    refuseIf (decision.condition ≠ condition) ⟨.branchConditionMismatch, blockIndex, none⟩
    selectConditional blockIndex successors hasSourceFallthrough decision
  | _ => do
    refuseIf (branchDecision.isSome = true) unexpected
    refuseIf (hasSourceFallthrough = true ∧
      successors ≠ [⟨.linearFallthrough, blockIndex + 1⟩]) topology
    refuseIf (hasSourceFallthrough = false ∧ successors ≠ []) topology
    return ⟨successors.head?⟩

/-- `select_shader_cfg_successor`. -/
def selectShaderCfgSuccessor (branchDecision : Option ShaderBranchDecision) :
    Except ShaderCfgSuccessorError ShaderCfgSuccessorSelection := do
  refuseIf (graphMatches program graph = false) ⟨.graphProgramMismatch, blockIndex, none⟩
  let block ← orRefuse graph.blocks[blockIndex]? ⟨.blockIndexOutOfBounds, blockIndex, none⟩
  refuseIf (validBlockExtent program block = false) ⟨.invalidBlockExtent, blockIndex, none⟩
  checkEdgeTargets graph blockIndex 0 block.successors
  selectByOperation blockIndex (program.operationAt block.lastEmissionIndex) block.successors
    (decide (block.lastEmissionIndex + 1 < program.emissions.length)) branchDecision

end Select

/-! ### Where a program goes on -/

/-- The emission behind one. -/
def followingEmission (program : ShaderIrProgram) (emissionIndex : ℕ) : Option ℕ :=
  if emissionIndex + 1 < program.emissions.length then some (emissionIndex + 1) else none

/-- Where the program goes on after an emission, in its own terms: a branch leads to its
target, the end of the program leads nowhere, and everything else to the emission behind. -/
def nextEmission (program : ShaderIrProgram) (emissionIndex : ℕ) (state : ShaderScalarState) :
    Option ℕ :=
  match program.operationAt emissionIndex with
  | .endProgram => none
  | .relativeBranch byteDelta => branchTarget program emissionIndex byteDelta
  | .conditionalRelativeBranch condition byteDelta =>
    if (evaluateShaderBranchCondition condition state).taken = true then
      branchTarget program emissionIndex byteDelta
    else followingEmission program emissionIndex
  | _ => followingEmission program emissionIndex

/-- The decision of an operation: only a conditional branch has one. -/
def branchDecisionOf (operation : ShaderIrOperation) (state : ShaderScalarState) :
    Option ShaderBranchDecision :=
  match operation with
  | .conditionalRelativeBranch condition _ => some (evaluateShaderBranchCondition condition state)
  | _ => none

/-- An edge leads to the block that starts at an emission, and no edge means no emission. -/
def ShaderControlFlowGraph.Leads (graph : ShaderControlFlowGraph) :
    Option ShaderCfgEdge → Option ℕ → Prop
  | none, none => True
  | some edge, some emissionIndex => graph.StartsAt edge.targetBlockIndex emissionIndex
  | _, _ => False

theorem checkEdgeTargets_eq_ok {graph : ShaderControlFlowGraph} {blockIndex edgeIndex : ℕ}
    {edges : List ShaderCfgEdge} {u : Unit} :
    checkEdgeTargets graph blockIndex edgeIndex edges = .ok u ↔
      ∀ edge ∈ edges, edge.targetBlockIndex < graph.blocks.length := by
  induction edges generalizing edgeIndex with
  | nil => simp [checkEdgeTargets]
  | cons edge edges ih => simp [checkEdgeTargets, ih]

section Spec

variable {program : ShaderIrProgram} {graph : ShaderControlFlowGraph} {blockIndex : ℕ}
  {block : ShaderCfgBasicBlock}

/-- Every edge of a block of the program leads to a block. -/
theorem BlockOf.target_lt (h : BlockOf program graph blockIndex block) :
    ∀ edge ∈ block.successors, edge.targetBlockIndex < graph.blocks.length :=
  h.edges.target_lt fun hlt => (h.next hlt).lt

/-- The edge to the next block leads to the emission behind, if there is one. -/
theorem BlockOf.leads_nextEdge (h : BlockOf program graph blockIndex block)
    (kind : ShaderCfgEdgeKind) :
    graph.Leads (nextEdge (block.lastEmissionIndex + 1 < program.emissions.length) blockIndex
      kind).head?
      (followingEmission program block.lastEmissionIndex) := by
  unfold nextEdge followingEmission
  split_ifs with hlt
  · exact h.next hlt
  · trivial

/-- The edge of a conditional branch, where its edges are the ones it has to have. -/
theorem selectConditional_eq (program : ShaderIrProgram) (blockIndex targetBlock last : ℕ)
    (decision : ShaderBranchDecision) :
    selectConditional blockIndex
        (⟨.conditionalBranchTaken, targetBlock⟩ ::
          nextEdge (last + 1 < program.emissions.length) blockIndex .conditionalBranchFallthrough)
        (decide (last + 1 < program.emissions.length)) decision =
      .ok ⟨if decision.taken = true then some ⟨.conditionalBranchTaken, targetBlock⟩
        else (nextEdge (last + 1 < program.emissions.length) blockIndex
          .conditionalBranchFallthrough).head?⟩ := by
  unfold nextEdge
  by_cases hlt : last + 1 < program.emissions.length
  · simp [hlt, selectConditional, findConditionalEdges, refuseIf]
  · simp [hlt, selectConditional, findConditionalEdges, refuseIf]

theorem selectByOperation_linear (program : ShaderIrProgram) (blockIndex last : ℕ)
    {operation : ShaderIrOperation} (state : ShaderScalarState)
    (hends : operation.endsBlock = false) :
    selectByOperation blockIndex operation
      (nextEdge (last + 1 < program.emissions.length) blockIndex .linearFallthrough)
        (decide (last + 1 < program.emissions.length)) (branchDecisionOf operation state) =
      .ok
        ⟨(nextEdge (last + 1 < program.emissions.length) blockIndex .linearFallthrough).head?⟩ := by
  have hselect : ∀ successors hasSourceFallthrough,
    selectByOperation blockIndex operation successors hasSourceFallthrough none =
      (do
        refuseIf (hasSourceFallthrough = true ∧ successors ≠ [⟨.linearFallthrough, blockIndex + 1⟩])
          ⟨.invalidSuccessorTopology, blockIndex, none⟩
        refuseIf (hasSourceFallthrough = false ∧ successors ≠ [])
          ⟨.invalidSuccessorTopology, blockIndex, none⟩
        return ⟨successors.head?⟩) := by
    intro successors hasSourceFallthrough
    cases operation <;> first | rfl | cases hends
  have hdecision : branchDecisionOf operation state = none := by
    cases operation <;> first | rfl | cases hends
  rw [hdecision, hselect]
  unfold nextEdge
  by_cases hlt : last + 1 < program.emissions.length <;> simp [hlt, refuseIf]

theorem BlockOf.validBlockExtent (h : BlockOf program graph blockIndex block) :
    validBlockExtent program block = true := by
  have hpositive := h.positive
  have hinside := h.inside
  simp only [Astraea.Graphics.validBlockExtent, Bool.not_eq_true', Bool.or_eq_false_iff,
    beq_eq_false_iff_ne, decide_eq_false_iff_not]
  omega

theorem GraphOf.graphMatches (h : GraphOf program graph) : graphMatches program graph = true := by
  simp [Astraea.Graphics.graphMatches, h.sourceWordCount, h.emissionCount]

/-- **Over a graph of the program the selection never fails, and the edge leads to the emission
that comes next.** -/
theorem select_of_graphOf (hgraph : GraphOf program graph)
    (hblock : graph.blocks[blockIndex]? = some block) (state : ShaderScalarState) :
    ∃ selection, selectShaderCfgSuccessor program graph blockIndex
        (branchDecisionOf (program.operationAt block.lastEmissionIndex) state) = .ok selection ∧
      graph.Leads selection.edge (nextEmission program block.lastEmissionIndex state) := by
  have h := hgraph.blocks blockIndex block hblock
  suffices hselect : ∃ selection,
    selectByOperation blockIndex (program.operationAt block.lastEmissionIndex)
        block.successors (decide (block.lastEmissionIndex + 1 < program.emissions.length))
        (branchDecisionOf (program.operationAt block.lastEmissionIndex) state) = .ok selection ∧
      graph.Leads selection.edge (nextEmission program block.lastEmissionIndex state) by
    obtain ⟨selection, hselection, hleads⟩ := hselect
    refine ⟨selection, ?_, hleads⟩
    simp only [selectShaderCfgSuccessor, bind_eq_ok, refuseIf_eq_ok, orRefuse_eq_ok,
      Bool.not_eq_false]
    exact ⟨(), hgraph.graphMatches, block, hblock, (), h.validBlockExtent, (),
      checkEdgeTargets_eq_ok.mpr h.target_lt, hselection⟩
  have hedges := h.edges
  unfold EdgesOf at hedges
  unfold nextEmission
  cases hoperation : program.operationAt block.lastEmissionIndex with
  | endProgram =>
    simp only [hoperation] at hedges
    exact ⟨⟨none⟩, by simp [selectByOperation, branchDecisionOf, hedges, refuseIf], trivial⟩
  | relativeBranch byteDelta =>
    simp only [hoperation] at hedges
    obtain ⟨targetBlock, target, htarget, hstarts, heq⟩ := hedges
    refine ⟨⟨some ⟨.unconditionalBranch, targetBlock⟩⟩, by
      simp [selectByOperation, branchDecisionOf, heq, refuseIf], ?_⟩
    dsimp only
    rw [htarget]
    exact hstarts
  | conditionalRelativeBranch condition byteDelta =>
    simp only [hoperation] at hedges
    obtain ⟨targetBlock, target, htarget, hstarts, heq⟩ := hedges
    have hselection := selectConditional_eq program blockIndex targetBlock block.lastEmissionIndex
      (evaluateShaderBranchCondition condition state)
    rw [← heq] at hselection
    refine ⟨_, bind_eq_ok.mpr ⟨_, rfl,
      bind_eq_ok.mpr ⟨(), refuseIf_eq_ok.mpr (not_not.mpr rfl), hselection⟩⟩, ?_⟩
    dsimp only
    split_ifs with htaken
    · rw [htarget]
      exact hstarts
    · exact h.leads_nextEdge _
  | _ =>
    simp only [hoperation] at hedges
    rw [hedges]
    exact ⟨_, selectByOperation_linear program blockIndex _ state rfl, h.leads_nextEdge _⟩

end Spec

end Astraea.Graphics
