import Astraea.Base.Segments
import Astraea.Graphics.ShaderIr

/-!
# The control-flow graph of a shader

`build_shader_control_flow_graph` cuts the emissions of a program into basic blocks. A
block starts at a leader: at the first emission, at the target of a branch, or behind an
emission that may leave the straight line. It ends before the next leader, and its edges
are those of its last emission.

`branchTarget` says where a branch goes in the terms of the program alone, and
`graphOf_of_build` that the edges of the graph lead there.
-/

namespace Astraea.Graphics

open Astraea.Base Astraea.Core

/-- How control goes along an edge. -/
inductive ShaderCfgEdgeKind where
  | linearFallthrough
  | unconditionalBranch
  | conditionalBranchTaken
  | conditionalBranchFallthrough
  deriving DecidableEq

/-- An edge from the end of a block to a block. -/
structure ShaderCfgEdge where
  kind : ShaderCfgEdgeKind
  targetBlockIndex : ℕ
  deriving DecidableEq

/-- A block: a range of the emissions. -/
structure ShaderCfgBasicBlock where
  firstEmissionIndex : ℕ
  emissionCount : ℕ
  successors : List ShaderCfgEdge
  deriving DecidableEq

/-- The blocks of a program and the edges between them. -/
structure ShaderControlFlowGraph where
  sourceWordCount : ℕ
  emissionCount : ℕ
  blocks : List ShaderCfgBasicBlock
  deriving DecidableEq

/-- Why a program has no graph. -/
inductive ShaderCfgErrorCode where
  | invalidProgramLayout
  | invalidBranchDelta
  | invalidBranchTarget
  | hostAllocationFailure
  deriving DecidableEq

/-- A program that has no graph, with the emission it is about. -/
structure ShaderCfgError where
  code : ShaderCfgErrorCode
  emissionIndex : ℕ
  sourceWordIndex : ℕ
  targetWordIndex : Option ℤ := none
  deriving DecidableEq

/-- The largest `std::int64_t`. -/
def kMaxSignedWordIndex : ℕ := 2 ^ 63 - 1

/-- The largest `std::size_t`. -/
def kMaxSize : ℕ := 2 ^ 64 - 1

/-! ### The layout -/

/-- The loop of `validate_program_layout`: the emissions follow one another without a gap. -/
def validateEmissions (sourceWordCount : ℕ) :
    (emissionIndex expectedWordIndex : ℕ) → List ShaderIrEmission → Except ShaderCfgError ℕ
  | _, expectedWordIndex, [] => .ok expectedWordIndex
  | emissionIndex, expectedWordIndex, emission :: emissions => do
    let instruction := emission.sourceInstruction
    refuseIf (instruction.wordCount = 0 ∨ instruction.wordIndex ≠ expectedWordIndex ∨
        expectedWordIndex > sourceWordCount ∨ instruction.wordCount >
          sourceWordCount - expectedWordIndex ∨
        expectedWordIndex > kMaxSize / 4 ∨ instruction.byteOffset ≠ expectedWordIndex * 4)
      ⟨.invalidProgramLayout, emissionIndex, instruction.wordIndex, none⟩
    validateEmissions sourceWordCount
      (emissionIndex + 1) (expectedWordIndex + instruction.wordCount) emissions

/-- `validate_program_layout`. -/
def validateProgramLayout (program : ShaderIrProgram) : Except ShaderCfgError Unit := do
  refuseIf (program.sourceWordCount > kMaxSignedWordIndex) ⟨.invalidProgramLayout, 0, 0, none⟩
  let expectedWordIndex ← validateEmissions program.sourceWordCount 0 0 program.emissions
  refuseIf (expectedWordIndex ≠ program.sourceWordCount)
    ⟨.invalidProgramLayout, program.emissions.length, expectedWordIndex, none⟩

/-! ### Branches -/

/-- How far an operation branches, if it does. -/
def ShaderIrOperation.branchDelta : ShaderIrOperation → Option Int32
  | .relativeBranch byteDelta => some byteDelta
  | .conditionalRelativeBranch _ byteDelta => some byteDelta
  | _ => none

/-- The operations that end a block: after them the next emission need not come next. -/
def ShaderIrOperation.endsBlock : ShaderIrOperation → Bool
  | .endProgram => true
  | .relativeBranch _ => true
  | .conditionalRelativeBranch _ _ => true
  | _ => false

/-- `std::lower_bound` over the emissions: the first that does not lie before a word. -/
def lowerBound (emissions : List ShaderIrEmission) (wordIndex : ℕ) : ℕ :=
  emissions.findIdx fun emission => !decide (emission.sourceInstruction.wordIndex < wordIndex)

/-- `resolve_branch_target`: the emission a branch of `source` leads to. The layout keeps word
indices inside `std::int64_t`. -/
def resolveBranchTarget (program : ShaderIrProgram) (source : ShaderIrEmission)
    (byteDelta : Int32) :
    Except (ShaderCfgErrorCode × Option ℤ) ℕ := do
  refuseIf (byteDelta.toInt.tmod 4 ≠ 0) (.invalidBranchDelta, none)
  let sourceWordIndex : ℤ := source.sourceInstruction.wordIndex
  let deltaWords := byteDelta.toInt.tdiv 4
  refuseIf (deltaWords > 0 ∧ sourceWordIndex > kMaxSignedWordIndex - deltaWords)
    (.invalidBranchTarget, none)
  let targetWordIndex := sourceWordIndex + deltaWords
  refuseIf (targetWordIndex < 0 ∨ targetWordIndex ≥ program.sourceWordCount)
    (.invalidBranchTarget, some targetWordIndex)
  let found := lowerBound program.emissions targetWordIndex.toNat
  refuseIf (program.emissions[found]?.map (fun emission => emission.sourceInstruction.wordIndex) ≠
    some targetWordIndex.toNat)
    (.invalidBranchTarget, some targetWordIndex)
  return found

/-- What the first pass over the emissions collects. -/
structure LeaderMarks where
  leaders : List Bool
  branchTargets : List (Option ℕ)

/-- An emission that has one behind it makes that a leader. -/
def markNext (leaders : List Bool) (emissionIndex : ℕ) : List Bool :=
  if emissionIndex + 1 < leaders.length then leaders.set (emissionIndex + 1) true else leaders

/-- One round of the first pass. -/
def markEmission (program : ShaderIrProgram) (emissionIndex : ℕ) (emission : ShaderIrEmission)
    (marks : LeaderMarks) :
    Except ShaderCfgError LeaderMarks :=
  match emission.operation.branchDelta with
  | some byteDelta => do
    let target ← (resolveBranchTarget program emission byteDelta).mapError
        fun (code, targetWordIndex) =>
      (⟨code, emissionIndex, emission.sourceInstruction.wordIndex, targetWordIndex⟩ :
        ShaderCfgError)
    return ⟨markNext (marks.leaders.set target true) emissionIndex,
      marks.branchTargets.set emissionIndex (some target)⟩
  | none =>
    if emission.operation = .endProgram then
      .ok { marks with leaders := markNext marks.leaders emissionIndex }
    else .ok marks

/-- The first pass over the emissions. -/
def markEmissions (program : ShaderIrProgram) :
    (emissionIndex : ℕ) → List ShaderIrEmission → LeaderMarks → Except ShaderCfgError LeaderMarks
  | _, [], marks => .ok marks
  | emissionIndex, emission :: emissions, marks => do
    let marks ← markEmission program emissionIndex emission marks
    markEmissions program (emissionIndex + 1) emissions marks

/-- The marks before the first pass: the first emission is a leader. -/
def initialMarks (emissionCount : ℕ) : LeaderMarks :=
  ⟨(List.replicate emissionCount false).set 0 true, List.replicate emissionCount none⟩

/-! ### Blocks -/

/-- The operation at an index inside the program. -/
def ShaderIrProgram.operationAt (program : ShaderIrProgram) (emissionIndex : ℕ) :
    ShaderIrOperation :=
  match program.emissions[emissionIndex]? with
  | some emission => emission.operation
  | none => .endProgram

/-- The leaders, in order. -/
def blockStarts (emissionCount : ℕ) (leaders : List Bool) : List ℕ :=
  segmentStarts emissionCount fun emissionIndex => leaders.getD emissionIndex false

/-- The edges of a block: those of its last emission. -/
def blockSuccessors (program : ShaderIrProgram) (branchTargets : List (Option ℕ))
    (emissionToBlock : List ℕ) (lastEmissionIndex : ℕ) : List ShaderCfgEdge :=
  let branchBlock := emissionToBlock.getD ((branchTargets.getD lastEmissionIndex none).getD 0) 0
  let next (kind : ShaderCfgEdgeKind) : List ShaderCfgEdge :=
    if lastEmissionIndex + 1 < program.emissions.length then
      [⟨kind, emissionToBlock.getD (lastEmissionIndex + 1) 0⟩] else []
  match program.operationAt lastEmissionIndex with
  | .relativeBranch _ => [⟨.unconditionalBranch, branchBlock⟩]
  | .conditionalRelativeBranch _ _ =>
    ⟨.conditionalBranchTaken, branchBlock⟩ :: next .conditionalBranchFallthrough
  | .endProgram => []
  | _ => next .linearFallthrough

/-- The blocks of the marked emissions. -/
def basicBlocks (program : ShaderIrProgram) (marks : LeaderMarks) : List ShaderCfgBasicBlock :=
  let emissionCount := program.emissions.length
  let starts := blockStarts emissionCount marks.leaders
  let emissionToBlock := segmentTable emissionCount starts
  (List.range starts.length).map fun blockIndex =>
    let first := starts.getD blockIndex 0
    let count := segmentLimit emissionCount starts blockIndex - first
    ⟨first, count, blockSuccessors program marks.branchTargets emissionToBlock (first + count - 1)⟩

/-- `build_shader_control_flow_graph`. -/
def buildShaderControlFlowGraph (host : Host) (program : ShaderIrProgram) :
    Except ShaderCfgError ShaderControlFlowGraph := do
  validateProgramLayout program
  if program.emissions.isEmpty = true then
    return ⟨program.sourceWordCount, 0, []⟩
  else do
    let allocationFailure : ShaderCfgError := ⟨.hostAllocationFailure, 0, 0, none⟩
    allocate host .cfgLeaders allocationFailure allocationFailure
    let marks ← markEmissions program 0 program.emissions (initialMarks program.emissions.length)
    allocate host .cfgBlocks allocationFailure allocationFailure
    return ⟨program.sourceWordCount, program.emissions.length, basicBlocks program marks⟩

/-! ### Where branches lead -/

/-- Where a branch leads, in the terms of the program: to the emission whose word comes
`byteDelta / 4` words after its own. -/
def branchTarget (program : ShaderIrProgram) (emissionIndex : ℕ) (byteDelta : Int32) : Option ℕ :=
  match program.emissions[emissionIndex]? with
  | some source => program.emissions.findIdx? fun emission =>
      decide ((emission.sourceInstruction.wordIndex : ℤ) =
        source.sourceInstruction.wordIndex + byteDelta.toInt / 4)
  | none => none

/-- The first emission that does not lie before a word, if it is the one at the word, is the
first one at the word. -/
theorem findIdx?_eq_lowerBound {emissions : List ShaderIrEmission} {wordIndex : ℕ}
    (h : emissions[lowerBound emissions wordIndex]?.map
      (fun emission => emission.sourceInstruction.wordIndex) = some wordIndex) :
    emissions.findIdx? (fun emission => decide (emission.sourceInstruction.wordIndex = wordIndex)) =
      some (lowerBound emissions wordIndex) := by
  obtain ⟨emission, hfound, hword⟩ := Option.map_eq_some_iff.mp h
  obtain ⟨hlt, hget⟩ := List.getElem?_eq_some_iff.mp hfound
  rw [List.findIdx?_eq_some_iff_getElem]
  refine ⟨hlt, by simp [hget, hword], fun i hi => ?_⟩
  have hbefore := List.not_of_lt_findIdx hi
  rw [Bool.not_eq_false', decide_eq_true_eq] at hbefore
  simpa using hbefore.ne

variable {emissionIndex : ℕ} {leaders : List Bool}

theorem branchTarget_of_resolve {program : ShaderIrProgram} {target : ℕ} {source : ShaderIrEmission}
    {byteDelta : Int32} (hsource : program.emissions[emissionIndex]? = some source)
    (h : resolveBranchTarget program source byteDelta = .ok target) :
    branchTarget program emissionIndex byteDelta = some target ∧
    target < program.emissions.length := by
  simp only [resolveBranchTarget, bind_eq_ok, refuseIf_eq_ok, pure_eq_ok, not_not, not_or] at h
  obtain ⟨-, haligned, -, -, -, hrange, -, hfound, rfl⟩ := h
  have hdelta : byteDelta.toInt.tdiv 4 = byteDelta.toInt / 4 :=
    Int.tdiv_eq_ediv_of_dvd (Int.dvd_of_tmod_eq_zero haligned)
  rw [hdelta] at hfound hrange ⊢
  constructor
  · rw [branchTarget, hsource]
    dsimp only
    rw [← findIdx?_eq_lowerBound hfound]
    congr 1
    funext emission
    refine decide_eq_decide.mpr ?_
    omega
  · obtain ⟨emission, hget, -⟩ := Option.map_eq_some_iff.mp hfound
    exact (List.getElem?_eq_some_iff.mp hget).1

/-! ### Leaders -/

theorem getElem?_set_true {i j : ℕ} (h : leaders[i]? = some true) :
    (leaders.set j true)[i]? = some true := by
  have hlt := (List.getElem?_eq_some_iff.mp h).1
  by_cases heq : j = i
  · rw [heq, List.getElem?_set_self hlt]
  · rw [List.getElem?_set_ne heq, h]

@[simp] theorem length_markNext (leaders : List Bool) (emissionIndex : ℕ) :
    (markNext leaders emissionIndex).length = leaders.length := by
  unfold markNext
  split_ifs <;> simp

theorem markNext_keeps {i : ℕ} (h : leaders[i]? = some true) :
    (markNext leaders emissionIndex)[i]? = some true := by
  unfold markNext
  split_ifs
  · exact getElem?_set_true h
  · exact h

theorem markNext_next (h : emissionIndex + 1 < leaders.length) :
    (markNext leaders emissionIndex)[emissionIndex + 1]? = some true := by
  rw [markNext, if_pos h, List.getElem?_set_self h]

/-- What the first pass has done after `seen` emissions. -/
structure Marked (program : ShaderIrProgram) (seen : ℕ) (marks : LeaderMarks) : Prop where
  leaders : marks.leaders.length = program.emissions.length
  targets : marks.branchTargets.length = program.emissions.length
  branch : ∀ i < seen, ∀ byteDelta, (program.operationAt i).branchDelta = some byteDelta →
    ∃ target, branchTarget program i byteDelta = some target ∧
      marks.branchTargets[i]? = some (some target) ∧
      marks.leaders[target]? = some true
  next : ∀ i < seen, (program.operationAt i).endsBlock = true → i + 1 < program.emissions.length →
    marks.leaders[i + 1]? = some true

theorem marked_initial (program : ShaderIrProgram) :
    Marked program 0 (initialMarks program.emissions.length) :=
  ⟨by simp [initialMarks], by simp [initialMarks], fun _ h => absurd h (Nat.not_lt_zero _),
    fun _ h => absurd h (Nat.not_lt_zero _)⟩

theorem operationAt_of_getElem? {program : ShaderIrProgram} {emission : ShaderIrEmission}
    (h : program.emissions[emissionIndex]? = some emission) :
    program.operationAt emissionIndex = emission.operation := by
  rw [ShaderIrProgram.operationAt, h]

theorem endsBlock_iff {operation : ShaderIrOperation} :
    operation.endsBlock = true ↔ operation.branchDelta.isSome = true ∨ operation = .endProgram := by
  cases operation <;> simp [ShaderIrOperation.endsBlock, ShaderIrOperation.branchDelta]

/-- One round of the first pass marks one more emission. -/
theorem Marked.step {program : ShaderIrProgram} {seen : ℕ} {marks marks' : LeaderMarks}
    {emission : ShaderIrEmission} (h : Marked program seen marks)
    (hemission : program.emissions[seen]? = some emission)
    (hmark : markEmission program seen emission marks = .ok marks') :
    Marked program (seen + 1) marks' := by
  have hoperation := operationAt_of_getElem? hemission
  have hseen := (List.getElem?_eq_some_iff.mp hemission).1
  unfold markEmission at hmark
  cases hdelta : emission.operation.branchDelta with
  | some byteDelta =>
    simp only [hdelta, bind_eq_ok, mapError_eq_ok, pure_eq_ok] at hmark
    obtain ⟨target, hresolve, rfl⟩ := hmark
    obtain ⟨htarget, hlt⟩ := branchTarget_of_resolve hemission hresolve
    refine ⟨by simp [h.leaders], by simp [h.targets],
      fun i hi byteDelta' hi' => ?_, fun i hi hends hnext => ?_⟩
    · rcases Nat.lt_succ_iff_lt_or_eq.mp hi with hi | rfl
      · obtain ⟨target', hbranch, hentry, hleader⟩ := h.branch i hi byteDelta' hi'
        refine ⟨target', hbranch, ?_, markNext_keeps (getElem?_set_true hleader)⟩
        rw [List.getElem?_set_ne (by omega), hentry]
      · rw [hoperation, hdelta] at hi'
        cases hi'
        refine ⟨target, htarget, List.getElem?_set_self (by rw [h.targets]; exact hseen),
          markNext_keeps ?_⟩
        exact List.getElem?_set_self (by rw [h.leaders]; exact hlt)
    · rcases Nat.lt_succ_iff_lt_or_eq.mp hi with hi | rfl
      · exact markNext_keeps (getElem?_set_true (h.next i hi hends hnext))
      · exact markNext_next (by rw [List.length_set, h.leaders]; exact hnext)
  | none =>
    simp only [hdelta] at hmark
    split_ifs at hmark with hend
    · cases hmark
      refine ⟨by simp [h.leaders], h.targets,
        fun i hi byteDelta' hi' => ?_, fun i hi hends hnext => ?_⟩
      · rcases Nat.lt_succ_iff_lt_or_eq.mp hi with hi | rfl
        · obtain ⟨target', hbranch, hentry, hleader⟩ := h.branch i hi byteDelta' hi'
          exact ⟨target', hbranch, hentry, markNext_keeps hleader⟩
        · rw [hoperation, hdelta] at hi'
          cases hi'
      · rcases Nat.lt_succ_iff_lt_or_eq.mp hi with hi | rfl
        · exact markNext_keeps (h.next i hi hends hnext)
        · exact markNext_next (by rw [h.leaders]; exact hnext)
    · cases hmark
      refine ⟨h.leaders, h.targets, fun i hi byteDelta' hi' => ?_, fun i hi hends hnext => ?_⟩
      · rcases Nat.lt_succ_iff_lt_or_eq.mp hi with hi | rfl
        · exact h.branch i hi byteDelta' hi'
        · rw [hoperation, hdelta] at hi'
          cases hi'
      · rcases Nat.lt_succ_iff_lt_or_eq.mp hi with hi | rfl
        · exact h.next i hi hends hnext
        · rw [hoperation, endsBlock_iff, hdelta] at hends
          exact absurd (hends.resolve_left (by simp)) hend

theorem Marked.run {program : ShaderIrProgram} {emissions : List ShaderIrEmission} {seen : ℕ}
    {marks marks' : LeaderMarks} (h : Marked program seen marks)
    (hrest : program.emissions.drop seen = emissions)
    (hmark : markEmissions program seen emissions marks = .ok marks') :
    Marked program program.emissions.length marks' := by
  induction emissions generalizing seen marks with
  | nil =>
    cases hmark
    have := List.drop_eq_nil_iff.mp hrest
    exact ⟨h.leaders, h.targets, fun i hi => h.branch i (by omega), fun i hi => h.next i (by omega)⟩
  | cons emission emissions ih =>
    simp only [markEmissions, bind_eq_ok] at hmark
    obtain ⟨marks₁, hfirst, hlater⟩ := hmark
    have hemission : program.emissions[seen]? = some emission := by
      rw [← List.head?_drop, hrest]
      rfl
    refine ih (h.step hemission hfirst) ?_ hlater
    rw [← List.tail_drop, hrest]
    rfl

/-! ### The graph of a program -/

/-- A block starts at an emission. -/
def ShaderControlFlowGraph.StartsAt (graph : ShaderControlFlowGraph)
    (blockIndex emissionIndex : ℕ) : Prop :=
  ∃ block, graph.blocks[blockIndex]? = some block ∧ block.firstEmissionIndex = emissionIndex

theorem ShaderControlFlowGraph.StartsAt.lt {graph : ShaderControlFlowGraph} {blockIndex : ℕ}
    (h : graph.StartsAt blockIndex emissionIndex) :
    blockIndex < graph.blocks.length := by
  obtain ⟨block, hblock, -⟩ := h
  exact (List.getElem?_eq_some_iff.mp hblock).1

/-- The edge to the next block, if control can go on there. -/
def nextEdge (goesOn : Prop) [Decidable goesOn] (blockIndex : ℕ) (kind : ShaderCfgEdgeKind) :
    List ShaderCfgEdge :=
  if goesOn then [⟨kind, blockIndex + 1⟩] else []

/-- The edges of a block by its last operation: `leads` tells to which emission a branch leads, and
`goesOn` whether anything comes behind the block. -/
def EdgesOf (graph : ShaderControlFlowGraph) (operation : ShaderIrOperation)
    (leads : Int32 → ℕ → Prop) (goesOn : Prop) [Decidable goesOn] (blockIndex : ℕ)
    (successors : List ShaderCfgEdge) : Prop :=
  match operation with
  | .relativeBranch byteDelta =>
    ∃ targetBlock target, leads byteDelta target ∧ graph.StartsAt targetBlock target ∧
      successors = [⟨.unconditionalBranch, targetBlock⟩]
  | .conditionalRelativeBranch _ byteDelta => ∃ targetBlock target, leads byteDelta target ∧
      graph.StartsAt targetBlock target ∧
      successors = ⟨.conditionalBranchTaken, targetBlock⟩ ::
        nextEdge goesOn blockIndex .conditionalBranchFallthrough
  | .endProgram => successors = []
  | _ => successors = nextEdge goesOn blockIndex .linearFallthrough

section Edges

variable {graph : ShaderControlFlowGraph} {operation : ShaderIrOperation}
  {leads leads' : Int32 → ℕ → Prop} {goesOn goesOn' : Prop} [Decidable goesOn] [Decidable goesOn']
  {blockIndex : ℕ} {successors : List ShaderCfgEdge}

theorem mem_nextEdge {kind : ShaderCfgEdgeKind} {edge : ShaderCfgEdge}
    (h : edge ∈ nextEdge goesOn blockIndex kind) :
    goesOn ∧ edge = ⟨kind, blockIndex + 1⟩ := by
  unfold nextEdge at h
  split_ifs at h with hgoes
  · exact ⟨hgoes, List.mem_singleton.mp h⟩
  · cases h

theorem nextEdge_congr (hgoes : goesOn ↔ goesOn') (kind : ShaderCfgEdgeKind) :
    nextEdge goesOn blockIndex kind = nextEdge goesOn' blockIndex kind := by
  rw [nextEdge, nextEdge]
  exact if_congr hgoes rfl rfl

/-- The edges do not depend on how the emissions that a branch leads to are told. -/
theorem EdgesOf.mono (h : EdgesOf graph operation leads goesOn blockIndex successors)
    (hleads : ∀ byteDelta target, operation.branchDelta = some byteDelta → leads byteDelta target →
      leads' byteDelta target) (hgoes : goesOn ↔ goesOn') :
    EdgesOf graph operation leads' goesOn' blockIndex successors := by
  cases operation with
  | relativeBranch byteDelta =>
    obtain ⟨targetBlock, target, htarget, hstarts, hsuccessors⟩ := h
    exact ⟨targetBlock, target, hleads byteDelta target rfl htarget, hstarts, hsuccessors⟩
  | conditionalRelativeBranch condition byteDelta =>
    obtain ⟨targetBlock, target, htarget, hstarts, hsuccessors⟩ := h
    rw [nextEdge_congr hgoes] at hsuccessors
    exact ⟨targetBlock, target, hleads byteDelta target rfl htarget, hstarts, hsuccessors⟩
  | endProgram => exact h
  | _ => exact Eq.trans h (nextEdge_congr hgoes _)

theorem EdgesOf.target_lt (h : EdgesOf graph operation leads goesOn blockIndex successors)
    (hgoes : goesOn → blockIndex + 1 < graph.blocks.length) :
    ∀ edge ∈ successors, edge.targetBlockIndex < graph.blocks.length := by
  have hnext : ∀ kind, ∀ edge ∈ nextEdge goesOn blockIndex kind, edge.targetBlockIndex <
      graph.blocks.length := by
    intro kind edge hedge
    obtain ⟨hon, rfl⟩ := mem_nextEdge hedge
    exact hgoes hon
  intro edge hedge
  cases operation with
  | relativeBranch byteDelta =>
    obtain ⟨targetBlock, target, -, hstarts, rfl⟩ := h
    rw [List.mem_singleton.mp hedge]
    exact hstarts.lt
  | conditionalRelativeBranch condition byteDelta =>
    obtain ⟨targetBlock, target, -, hstarts, rfl⟩ := h
    rcases List.mem_cons.mp hedge with rfl | hedge
    · exact hstarts.lt
    · exact hnext _ edge hedge
  | endProgram =>
    cases h
    cases hedge
  | _ =>
    cases h
    exact hnext _ edge hedge

end Edges

/-- The last emission of a block. -/
def ShaderCfgBasicBlock.lastEmissionIndex (block : ShaderCfgBasicBlock) : ℕ :=
  block.firstEmissionIndex + block.emissionCount - 1

/-- A block of a program: straight up to its last emission, which decides its edges. -/
structure BlockOf (program : ShaderIrProgram) (graph : ShaderControlFlowGraph) (blockIndex : ℕ)
    (block : ShaderCfgBasicBlock) : Prop where
  positive : 0 < block.emissionCount
  inside : block.firstEmissionIndex + block.emissionCount ≤ program.emissions.length
  straight : ∀ i, block.firstEmissionIndex ≤ i → i < block.lastEmissionIndex →
    (program.operationAt i).endsBlock = false
  next : block.lastEmissionIndex + 1 < program.emissions.length →
    graph.StartsAt (blockIndex + 1) (block.lastEmissionIndex + 1)
  edges : EdgesOf graph (program.operationAt block.lastEmissionIndex)
    (fun byteDelta target => branchTarget program block.lastEmissionIndex byteDelta = some target)
    (block.lastEmissionIndex + 1 < program.emissions.length) blockIndex block.successors

/-- A graph of a program: every block is one. -/
structure GraphOf (program : ShaderIrProgram) (graph : ShaderControlFlowGraph) : Prop where
  sourceWordCount : graph.sourceWordCount = program.sourceWordCount
  emissionCount : graph.emissionCount = program.emissions.length
  blocks : ∀ blockIndex block, graph.blocks[blockIndex]? = some block →
    BlockOf program graph blockIndex block

section Build

variable {program : ShaderIrProgram} {marks : LeaderMarks} {blockIndex : ℕ}

theorem getElem?_basicBlocks (program : ShaderIrProgram) (marks : LeaderMarks) (blockIndex : ℕ) :
    (basicBlocks program marks)[blockIndex]? =
      (blockStarts program.emissions.length marks.leaders)[blockIndex]?.map fun first =>
        let starts := blockStarts program.emissions.length marks.leaders
        let count := segmentLimit program.emissions.length starts blockIndex - first
        ⟨first, count, blockSuccessors program marks.branchTargets
          (segmentTable program.emissions.length starts) (first + count - 1)⟩ := by
  rw [basicBlocks, List.getElem?_map]
  cases hstart : (blockStarts program.emissions.length marks.leaders)[blockIndex]? with
  | none =>
    rw [List.getElem?_eq_none_iff] at hstart
    rw [List.getElem?_eq_none (by rwa [List.length_range])]
    rfl
  | some first =>
    obtain ⟨hlt, hget⟩ := List.getElem?_eq_some_iff.mp hstart
    rw [List.getElem?_range hlt]
    simp only [Option.map_some, List.getD_eq_getElem _ _ hlt, hget]

/-- The table names the block that starts at an emission. -/
theorem segmentTable_getD_start
    (hstart : (blockStarts program.emissions.length marks.leaders)[blockIndex]? = some
      emissionIndex) :
    (segmentTable program.emissions.length
      (blockStarts program.emissions.length marks.leaders)).getD emissionIndex 0 =
      blockIndex := by
  rw [List.getD_eq_getElem?_getD, blockStarts,
    getElem?_segmentTable hstart le_rfl (start_lt_segmentLimit hstart).1]
  rfl

theorem exists_start_of_leader (hmarked : Marked program program.emissions.length marks)
    (hleader : marks.leaders[emissionIndex]? = some true) :
    ∃ blockIndex : ℕ, (blockStarts program.emissions.length marks.leaders)[blockIndex]? =
      some emissionIndex := by
  have hlt := (List.getElem?_eq_some_iff.mp hleader).1
  rw [hmarked.leaders] at hlt
  refine List.mem_iff_getElem?.mp (mem_segmentStarts.mpr ⟨hlt, ?_⟩)
  rw [List.getD_eq_getElem?_getD, hleader]
  rfl

theorem startsAt_basicBlocks (sourceWordCount emissionCount : ℕ)
    (hstart : (blockStarts program.emissions.length marks.leaders)[blockIndex]? = some
      emissionIndex) :
    ShaderControlFlowGraph.StartsAt
      ⟨sourceWordCount, emissionCount, basicBlocks program marks⟩ blockIndex emissionIndex :=
  ⟨_, by rw [getElem?_basicBlocks, hstart]; rfl, rfl⟩

/-- The edges of a block are those of its last operation. -/
theorem edgesOf_blockSuccessors (sourceWordCount emissionCount : ℕ) {last : ℕ}
    (hmarked : Marked program program.emissions.length marks)
    (hlast : last < program.emissions.length)
    (hnext : last + 1 < program.emissions.length →
      (blockStarts program.emissions.length marks.leaders)[blockIndex + 1]? = some (last + 1)) :
    EdgesOf ⟨sourceWordCount, emissionCount, basicBlocks program marks⟩ (program.operationAt last)
      (fun byteDelta target => branchTarget program last byteDelta = some target)
      (last + 1 < program.emissions.length) blockIndex
      (blockSuccessors program marks.branchTargets
        (segmentTable program.emissions.length (blockStarts program.emissions.length marks.leaders))
          last) := by
  have hedge : ∀ kind, (if last + 1 < program.emissions.length then
      [(⟨kind, (segmentTable program.emissions.length
        (blockStarts program.emissions.length marks.leaders)).getD (last + 1) 0⟩ : ShaderCfgEdge)]
          else []) =
      nextEdge (last + 1 < program.emissions.length) blockIndex kind := by
    intro kind
    unfold nextEdge
    split_ifs with hlt
    · rw [segmentTable_getD_start (hnext hlt)]
    · rfl
  have hbranch : ∀ byteDelta, (program.operationAt last).branchDelta = some byteDelta →
      ∃ targetBlock target, branchTarget program last byteDelta = some target ∧
        ShaderControlFlowGraph.StartsAt
          ⟨sourceWordCount, emissionCount, basicBlocks program marks⟩ targetBlock target ∧
        (segmentTable program.emissions.length
          (blockStarts program.emissions.length marks.leaders)).getD
          ((marks.branchTargets.getD last none).getD 0) 0 = targetBlock := by
    intro byteDelta hdelta
    obtain ⟨target, htarget, hentry, hleader⟩ := hmarked.branch last hlast byteDelta hdelta
    obtain ⟨targetBlock, hstart⟩ := exists_start_of_leader hmarked hleader
    refine ⟨targetBlock, target, htarget, startsAt_basicBlocks _ _ hstart, ?_⟩
    have hvalue : (marks.branchTargets.getD last none).getD 0 = target := by
      rw [List.getD_eq_getElem?_getD, hentry]
      rfl
    rw [hvalue]
    exact segmentTable_getD_start hstart
  unfold EdgesOf blockSuccessors
  cases hoperation : program.operationAt last with
  | relativeBranch byteDelta =>
    obtain ⟨targetBlock, target, htarget, hstarts, htable⟩ :=
      hbranch byteDelta (by rw [hoperation]; rfl)
    exact ⟨targetBlock, target, htarget, hstarts, by rw [htable]⟩
  | conditionalRelativeBranch condition byteDelta =>
    obtain ⟨targetBlock, target, htarget, hstarts, htable⟩ :=
      hbranch byteDelta (by rw [hoperation]; rfl)
    exact ⟨targetBlock, target, htarget, hstarts, by rw [htable, ← hedge]⟩
  | endProgram => rfl
  | _ => exact hedge _

/-- **Every block of the built graph is a block of the program.** -/
theorem blockOf_basicBlocks (sourceWordCount emissionCount : ℕ)
    (hmarked : Marked program program.emissions.length marks) {block : ShaderCfgBasicBlock}
    (hblock : (basicBlocks program marks)[blockIndex]? = some block) :
    BlockOf program ⟨sourceWordCount, emissionCount, basicBlocks program marks⟩ blockIndex
      block := by
  rw [getElem?_basicBlocks, Option.map_eq_some_iff] at hblock
  obtain ⟨first, hstart, rfl⟩ := hblock
  obtain ⟨limit, hlimit⟩ : ∃ limit, segmentLimit program.emissions.length
      (blockStarts program.emissions.length marks.leaders) blockIndex = limit := ⟨_, rfl⟩
  obtain ⟨hfirst, hend⟩ : first < limit ∧ limit ≤ program.emissions.length :=
    hlimit ▸ start_lt_segmentLimit hstart
  have hnext : limit < program.emissions.length →
      (blockStarts program.emissions.length marks.leaders)[blockIndex + 1]? = some limit := by
    intro hlt
    rw [← hlimit] at hlt ⊢
    exact getElem?_succ_of_segmentLimit_lt hlt
  simp only [hlimit]
  refine ⟨Nat.sub_pos_of_lt hfirst, ?_, fun i h1 h2 => ?_, fun hlt => ?_, ?_⟩
  · dsimp only
    omega
  · -- a control operation here would make the next emission a leader, inside the block
    dsimp only [ShaderCfgBasicBlock.lastEmissionIndex] at h1 h2
    by_contra hends
    rw [Bool.not_eq_false] at hends
    have hleader := hmarked.next i (by omega) hends (by omega)
    have hinside := not_marked_inside hstart (show first < i + 1 by omega) (show i + 1 < _ by
      change i + 1 < segmentLimit _ (blockStarts _ _) _
      omega)
    rw [List.getD_eq_getElem?_getD, hleader] at hinside
    cases hinside
  · dsimp only [ShaderCfgBasicBlock.lastEmissionIndex] at hlt ⊢
    rw [show first + (limit - first) - 1 + 1 = limit by omega] at hlt ⊢
    exact startsAt_basicBlocks _ _ (hnext hlt)
  · refine edgesOf_blockSuccessors _ _ hmarked
      (by dsimp only [ShaderCfgBasicBlock.lastEmissionIndex]; omega) fun hlt => ?_
    dsimp only [ShaderCfgBasicBlock.lastEmissionIndex] at hlt ⊢
    rw [show first + (limit - first) - 1 + 1 = limit by omega] at hlt ⊢
    exact hnext hlt

end Build

/-- **The builder builds the graph of the program.** -/
theorem graphOf_of_build {host : Host} {program : ShaderIrProgram} {graph : ShaderControlFlowGraph}
    (h : buildShaderControlFlowGraph host program = .ok graph) : GraphOf program graph := by
  simp only [buildShaderControlFlowGraph, bind_eq_ok] at h
  obtain ⟨-, -, h⟩ := h
  split_ifs at h with hempty
  · rw [pure_eq_ok] at h
    subst h
    refine ⟨rfl, ?_, fun _ _ hblock => absurd hblock (by simp)⟩
    rw [List.isEmpty_iff.mp hempty]
    rfl
  · simp only [bind_eq_ok, pure_eq_ok] at h
    obtain ⟨-, -, marks, hmarks, -, -, rfl⟩ := h
    have hmarked := (marked_initial program).run rfl hmarks
    exact ⟨rfl, rfl, fun blockIndex block hblock => blockOf_basicBlocks _ _ hmarked hblock⟩

end Astraea.Graphics
