import Astraea.Base.Tiling
import Astraea.Graphics.ShaderCfg

/-!
# The basic blocks of a program

A program has a control-flow graph when its emissions tile its words and every branch leads to
an emission. The graph is then the one the program determines: its blocks tile the emissions,
and start exactly where control may enter, which makes them the coarsest such blocks.
-/

namespace Astraea.Graphics

open Astraea.Base Astraea.Core

/-! ### What a program needs -/

/-- The emissions tile the words of the program, each with the offset of its first byte. -/
structure LaidOut (program : ShaderIrProgram) : Prop where
  tiles : Base.Tiles 0 program.sourceWordCount (program.emissions.map ShaderIrEmission.extent)
  byteOffset : ∀ emission ∈ program.emissions,
    emission.sourceInstruction.byteOffset = 4 * emission.sourceInstruction.wordIndex

/-- An emission branches to another: a multiple of four bytes away. -/
def BranchesTo (program : ShaderIrProgram) (i j : ℕ) : Prop :=
  ∃ source target byteDelta, program.emissions[i]? = some source ∧
    program.emissions[j]? = some target ∧
    source.operation.branchDelta = some byteDelta ∧ byteDelta.toInt % 4 = 0 ∧
    (target.sourceInstruction.wordIndex : ℤ) =
      source.sourceInstruction.wordIndex + byteDelta.toInt / 4

/-- Every branch leads to an emission. -/
def BranchesLand (program : ShaderIrProgram) : Prop :=
  ∀ i source byteDelta, program.emissions[i]? = some source →
    source.operation.branchDelta = some byteDelta →
    ∃ j, BranchesTo program i j

/-- The offsets of a program are machine words. -/
structure ProgramInMemory (program : ShaderIrProgram) : Prop where
  byteOffset : ∀ emission ∈ program.emissions, emission.sourceInstruction.byteOffset < 2 ^ 64

/-! ### The blocks of a program -/

/-- Where a block has to start: at the first emission, at the target of a branch, and behind an
operation that ends a block. -/
def IsBlockStart (program : ShaderIrProgram) (i : ℕ) : Prop :=
  i < program.emissions.length ∧
    (i = 0 ∨ (∃ j, BranchesTo program j i) ∨ ∃ j, i = j + 1 ∧
      (program.operationAt j).endsBlock = true)

/-- The emissions of a block. -/
def ShaderCfgBasicBlock.extent (block : ShaderCfgBasicBlock) : ℕ × ℕ :=
  (block.firstEmissionIndex, block.emissionCount)

/-- The graph of the basic blocks of a program. -/
structure BasicBlocksOf (program : ShaderIrProgram) (graph : ShaderControlFlowGraph) : Prop where
  sourceWordCount : graph.sourceWordCount = program.sourceWordCount
  emissionCount : graph.emissionCount = program.emissions.length
  tiles : Base.Tiles 0 program.emissions.length (graph.blocks.map ShaderCfgBasicBlock.extent)
  starts : ∀ i, (∃ block ∈ graph.blocks, block.firstEmissionIndex = i) ↔ IsBlockStart program i
  /-- Other extents that start where blocks have to start are inside the blocks. -/
  coarsest : ∀ extents, Base.Tiles 0 program.emissions.length extents →
    (∀ i, IsBlockStart program i → ∃ extent ∈ extents, extent.1 = i) →
    ∀ extent ∈ extents, ∃ block ∈ graph.blocks, block.firstEmissionIndex ≤ extent.1 ∧
      extent.1 + extent.2 ≤ block.firstEmissionIndex + block.emissionCount
  inRange : ∀ block ∈ graph.blocks, ∀ edge ∈ block.successors, edge.targetBlockIndex <
    graph.blocks.length
  edges : ∀ (blockIndex : ℕ) block, graph.blocks[blockIndex]? = some block →
    EdgesOf graph (program.operationAt block.lastEmissionIndex)
      (fun _ => BranchesTo program block.lastEmissionIndex)
      (blockIndex + 1 < graph.blocks.length) blockIndex block.successors

/-! ### The layout -/

section Layout

variable {program : ShaderIrProgram} {emissions : List ShaderIrEmission}
  {sourceWordCount emissionIndex expectedWordIndex wordIndex : ℕ}

/-- The loop of the layout check accepts exactly what tiles the words. -/
theorem validateEmissions_eq_ok (hexpected : expectedWordIndex ≤ sourceWordCount)
    (hbytes : ∀ emission ∈ emissions, emission.sourceInstruction.byteOffset < 2 ^ 64) :
    validateEmissions sourceWordCount emissionIndex expectedWordIndex emissions = .ok wordIndex ↔
      wordIndex ≤ sourceWordCount ∧
      Base.Tiles expectedWordIndex wordIndex (emissions.map ShaderIrEmission.extent) ∧
        ∀ emission ∈ emissions, emission.sourceInstruction.byteOffset =
          4 * emission.sourceInstruction.wordIndex := by
  induction emissions generalizing emissionIndex expectedWordIndex with
  | nil =>
    rw [validateEmissions, Except.ok.injEq, List.map_nil, tiles_nil]
    constructor
    · rintro rfl
      exact ⟨hexpected, rfl, fun emission hemission => absurd hemission List.not_mem_nil⟩
    · exact fun h => h.2.1
  | cons emission emissions ih =>
    rw [List.forall_mem_cons] at hbytes
    rw [validateEmissions, bind_eq_ok, List.map_cons, tiles_cons, List.forall_mem_cons]
    have hmax : kMaxSize / 4 = 2 ^ 62 - 1 := by decide
    rw [hmax]
    constructor
    · rintro ⟨⟨⟩, hcheck, hrest⟩
      simp only [refuseIf_eq_ok, not_or, not_not, ne_eq] at hcheck
      obtain ⟨hpos, hindex, -, hfits, -, hoffset⟩ := hcheck
      obtain ⟨hle, htiles, hoffsets⟩ := (ih (by omega) hbytes.2).mp hrest
      refine ⟨hle, ⟨hindex, Nat.pos_of_ne_zero hpos, htiles⟩, ?_, hoffsets⟩
      rw [hindex]
      omega
    · rintro ⟨hle, ⟨hindex, hpos, htiles⟩, hoffset, hoffsets⟩
      have hstop := htiles.le
      rw [ShaderIrEmission.extent] at hindex hpos htiles hstop
      dsimp only at hindex hpos htiles hstop
      refine ⟨(), ?_, (ih (by omega) hbytes.2).mpr ⟨hle, htiles, hoffsets⟩⟩
      rw [refuseIf_eq_ok]
      omega

/-- The layout check accepts exactly the programs that are laid out and not too long. -/
theorem validateProgramLayout_eq_ok (hmemory : ProgramInMemory program) :
    validateProgramLayout program = .ok () ↔ program.sourceWordCount ≤ kMaxSignedWordIndex ∧
    LaidOut program := by
  simp only [validateProgramLayout, bind_eq_ok, refuseIf_eq_ok,
    validateEmissions_eq_ok (Nat.zero_le _) hmemory.byteOffset]
  constructor
  · rintro ⟨_, hmax, wordIndex, ⟨hle, htiles, hoffsets⟩, hend⟩
    rw [not_not] at hend
    subst hend
    exact ⟨Nat.not_lt.mp hmax, htiles, hoffsets⟩
  · rintro ⟨hmax, htiles, hoffsets⟩
    exact ⟨(), Nat.not_lt.mpr hmax, _, ⟨le_rfl, htiles, hoffsets⟩, not_not.mpr rfl⟩

end Layout

/-! ### Branches -/

section Branches

variable {program : ShaderIrProgram} {source target : ShaderIrEmission} {byteDelta : Int32}
  {i j : ℕ}

theorem getElem?_extents {emission : ShaderIrEmission} (h : program.emissions[i]? = some emission) :
    (program.emissions.map ShaderIrEmission.extent)[i]? = some emission.extent := by
  rw [List.getElem?_map, h]
  rfl

theorem lowerBound_eq (hlaid : LaidOut program) (htarget : program.emissions[j]? = some target) :
    lowerBound program.emissions target.sourceInstruction.wordIndex = j := by
  obtain ⟨hj, hget⟩ := List.getElem?_eq_some_iff.mp htarget
  rw [lowerBound, List.findIdx_eq hj]
  constructor
  · rw [hget, Bool.not_eq_true', decide_eq_false_iff_not]
    exact lt_irrefl _
  · intro k hk
    have hbefore :=
      hlaid.tiles.first_lt_first (getElem?_extents (List.getElem?_eq_getElem (by omega)))
      (getElem?_extents htarget) hk
    rw [Bool.not_eq_false', decide_eq_true_eq]
    exact hbefore

/-- **A branch resolves to the emission it leads to.** -/
theorem resolveBranchTarget_eq_ok (hlaid : LaidOut program)
    (hmax : program.sourceWordCount ≤ kMaxSignedWordIndex)
    (hsource : program.emissions[i]? = some source)
    (hdelta : source.operation.branchDelta = some byteDelta) :
    resolveBranchTarget program source byteDelta = .ok j ↔ BranchesTo program i j := by
  constructor
  · intro h
    simp only [resolveBranchTarget, bind_eq_ok, refuseIf_eq_ok, pure_eq_ok, not_not, not_or] at h
    obtain ⟨-, haligned, -, -, -, hrange, -, hfound, rfl⟩ := h
    have hdvd : (4 : ℤ) ∣ byteDelta.toInt := Int.dvd_of_tmod_eq_zero haligned
    rw [Int.tdiv_eq_ediv_of_dvd hdvd] at hfound hrange ⊢
    obtain ⟨target, htarget, hword⟩ := Option.map_eq_some_iff.mp hfound
    refine ⟨source, target, byteDelta, hsource, htarget, hdelta, Int.emod_eq_zero_of_dvd hdvd, ?_⟩
    rw [hword]
    omega
  · rintro ⟨source', target, byteDelta', hsource', htarget, hdelta', haligned, hword⟩
    rw [hsource] at hsource'
    cases hsource'
    rw [hdelta] at hdelta'
    cases hdelta'
    have hdvd : (4 : ℤ) ∣ byteDelta.toInt := Int.dvd_of_emod_eq_zero haligned
    obtain ⟨-, hpos, hinside⟩ :=
      hlaid.tiles.bounds (List.mem_of_getElem? (getElem?_extents htarget))
    dsimp only [ShaderIrEmission.extent] at hpos hinside
    simp only [resolveBranchTarget, bind_eq_ok, refuseIf_eq_ok, pure_eq_ok, not_not, not_or]
    rw [Int.tdiv_eq_ediv_of_dvd hdvd, ← hword, Int.toNat_natCast, lowerBound_eq hlaid htarget]
    refine ⟨(), Int.tmod_eq_zero_of_dvd hdvd, (), by omega, (), by omega, (), ?_, rfl⟩
    rw [htarget]
    rfl

end Branches

/-! ### Leaders -/

section Leaders

variable {program : ShaderIrProgram} {emissions : List ShaderIrEmission}
  {emission : ShaderIrEmission} {marks marks' : LeaderMarks} {seen i j : ℕ}

variable {leaders : List Bool}

theorem getElem?_set_true_cases (h : (leaders.set j true)[i]? = some true) :
    i = j ∨ leaders[i]? = some true := by
  by_cases heq : i = j
  · exact .inl heq
  · right
    rwa [List.getElem?_set_ne (Ne.symm heq)] at h

theorem markNext_cases (h : (markNext leaders j)[i]? = some true) :
    i = j + 1 ∨ leaders[i]? = some true := by
  unfold markNext at h
  split_ifs at h
  · exact getElem?_set_true_cases h
  · exact .inr h

/-- Every leader is where a block has to start, and the first emission is one. -/
structure MarksStarts (program : ShaderIrProgram) (marks : LeaderMarks) : Prop where
  length : marks.leaders.length = program.emissions.length
  first : 0 < program.emissions.length → marks.leaders[0]? = some true
  starts : ∀ i : ℕ, marks.leaders[i]? = some true → IsBlockStart program i

theorem marksStarts_initial (program : ShaderIrProgram) :
    MarksStarts program (initialMarks program.emissions.length) := by
  refine ⟨by simp [initialMarks], ?_, ?_⟩
  · intro hpos
    exact List.getElem?_set_self (by rwa [List.length_replicate])
  · intro i hi
    have hlt := (List.getElem?_eq_some_iff.mp hi).1
    rw [initialMarks, List.length_set, List.length_replicate] at hlt
    rcases getElem?_set_true_cases hi with rfl | hi
    · exact ⟨hlt, .inl rfl⟩
    · rw [List.getElem?_replicate_of_lt hlt] at hi
      cases hi

/-- One round of the first pass marks where blocks have to start. -/
theorem MarksStarts.step (hlaid : LaidOut program)
    (hmax : program.sourceWordCount ≤ kMaxSignedWordIndex) (h : MarksStarts program marks)
    (hemission : program.emissions[seen]? = some emission)
    (hmark : markEmission program seen emission marks = .ok marks') :
    MarksStarts program marks' := by
  have hoperation := operationAt_of_getElem? hemission
  have hends : emission.operation.endsBlock = true → ∀ leaders : List Bool,
      (markNext leaders seen).length = program.emissions.length →
        (∀ i : ℕ, leaders[i]? = some true → IsBlockStart program i) →
      ∀ i : ℕ, (markNext leaders seen)[i]? = some true → IsBlockStart program i := by
    intro hend leaders hlength hstarts i hi
    have hlt := (List.getElem?_eq_some_iff.mp hi).1
    rcases markNext_cases hi with rfl | hi
    · rw [hlength] at hlt
      exact ⟨hlt, .inr (.inr ⟨seen, rfl, by rwa [hoperation]⟩)⟩
    · exact hstarts i hi
  unfold markEmission at hmark
  cases hdelta : emission.operation.branchDelta with
  | some byteDelta =>
    simp only [hdelta, bind_eq_ok, mapError_eq_ok, pure_eq_ok] at hmark
    obtain ⟨target, hresolve, rfl⟩ := hmark
    have hbranch := (resolveBranchTarget_eq_ok hlaid hmax hemission hdelta).mp hresolve
    have hlength : (markNext (marks.leaders.set target true) seen).length =
        program.emissions.length := by
      rw [length_markNext, List.length_set, h.length]
    refine ⟨hlength, ?_, hends ?_ _ hlength ?_⟩
    · intro hpos
      exact markNext_keeps (getElem?_set_true (h.first hpos))
    · rw [endsBlock_iff, hdelta]
      exact .inl rfl
    · intro i hi
      have hlt := (List.getElem?_eq_some_iff.mp hi).1
      rw [List.length_set, h.length] at hlt
      rcases getElem?_set_true_cases hi with rfl | hi
      · exact ⟨hlt, .inr (.inl ⟨seen, hbranch⟩)⟩
      · exact h.starts i hi
  | none =>
    simp only [hdelta] at hmark
    split_ifs at hmark with hend
    · cases hmark
      have hlength : (markNext marks.leaders seen).length =
        program.emissions.length := by rw [length_markNext, h.length]
      refine ⟨hlength, ?_, hends ?_ _ hlength h.starts⟩
      · intro hpos
        exact markNext_keeps (h.first hpos)
      · rw [hend]
        rfl
    · cases hmark
      exact h

theorem MarksStarts.run (hlaid : LaidOut program)
    (hmax : program.sourceWordCount ≤ kMaxSignedWordIndex) (h : MarksStarts program marks)
    (hrest : program.emissions.drop seen = emissions)
    (hmark : markEmissions program seen emissions marks = .ok marks') :
    MarksStarts program marks' := by
  induction emissions generalizing seen marks with
  | nil =>
    cases hmark
    exact h
  | cons emission emissions ih =>
    simp only [markEmissions, bind_eq_ok] at hmark
    obtain ⟨marks₁, hfirst, hlater⟩ := hmark
    have hemission : program.emissions[seen]? = some emission := by
      rw [← List.head?_drop, hrest]
      rfl
    refine ih (h.step hlaid hmax hemission hfirst) ?_ hlater
    rw [← List.tail_drop, hrest]
    rfl

/-- The first pass comes through exactly when the branches it meets lead to emissions. -/
theorem exists_markEmissions_iff (hlaid : LaidOut program)
    (hmax : program.sourceWordCount ≤ kMaxSignedWordIndex)
    (hrest : program.emissions.drop seen = emissions) :
    (∃ marks', markEmissions program seen emissions marks = .ok marks') ↔
      ∀ i source byteDelta, seen ≤ i → program.emissions[i]? = some source →
        source.operation.branchDelta = some byteDelta → ∃ j, BranchesTo program i j := by
  induction emissions generalizing seen marks with
  | nil =>
    have hend := List.drop_eq_nil_iff.mp hrest
    refine ⟨?_, fun _ => ⟨marks, rfl⟩⟩
    intro _ i source byteDelta hi hsource
    have := (List.getElem?_eq_some_iff.mp hsource).1
    omega
  | cons emission emissions ih =>
    have hemission : program.emissions[seen]? = some emission := by
      rw [← List.head?_drop, hrest]
      rfl
    have htail : program.emissions.drop (seen + 1) = emissions := by
      rw [← List.tail_drop, hrest]
      rfl
    simp only [markEmissions, bind_eq_ok]
    constructor
    · rintro ⟨marks', marks₁, hfirst, hlater⟩ i source byteDelta hi hsource hdelta
      rcases Nat.eq_or_lt_of_le hi with rfl | hi
      · rw [hemission] at hsource
        cases hsource
        unfold markEmission at hfirst
        simp only [hdelta, bind_eq_ok, mapError_eq_ok] at hfirst
        obtain ⟨target, hresolve, -⟩ := hfirst
        exact ⟨target, (resolveBranchTarget_eq_ok hlaid hmax hemission hdelta).mp hresolve⟩
      · exact (ih htail).mp ⟨marks', hlater⟩ i source byteDelta hi hsource hdelta
    · intro hland
      obtain ⟨marks₁, hfirst⟩ :
          ∃ marks₁, markEmission program seen emission marks = .ok marks₁ := by
        unfold markEmission
        cases hdelta : emission.operation.branchDelta with
        | some byteDelta =>
          obtain ⟨target, hbranch⟩ := hland seen emission byteDelta le_rfl hemission hdelta
          dsimp only
          rw [(resolveBranchTarget_eq_ok hlaid hmax hemission hdelta).mpr hbranch]
          exact ⟨_, rfl⟩
        | none =>
          dsimp only
          split_ifs
          · exact ⟨_, rfl⟩
          · exact ⟨_, rfl⟩
      obtain ⟨marks', hlater⟩ := (@ih marks₁ (seen + 1) htail).mpr fun i source byteDelta hi =>
        hland i source byteDelta (by omega)
      exact ⟨marks', marks₁, hfirst, hlater⟩

end Leaders

/-! ### Blocks -/

section Blocks

variable {program : ShaderIrProgram} {graph : ShaderControlFlowGraph} {marks : LeaderMarks}
  {byteDelta : Int32} {i j blockIndex : ℕ}

theorem getElem?_blockExtents (program : ShaderIrProgram) (marks : LeaderMarks) (blockIndex : ℕ) :
    ((basicBlocks program marks).map ShaderCfgBasicBlock.extent)[blockIndex]? =
      (blockStarts program.emissions.length marks.leaders)[blockIndex]?.map fun first =>
        (first, segmentLimit program.emissions.length
          (blockStarts program.emissions.length marks.leaders) blockIndex - first) := by
  rw [List.getElem?_map, getElem?_basicBlocks, Option.map_map]
  rfl

theorem MarksStarts.getElem?_blockStarts_zero (h : MarksStarts program marks)
    (hpos : 0 < program.emissions.length) :
    (blockStarts program.emissions.length marks.leaders)[0]? = some 0 := by
  have hmem : 0 ∈ blockStarts program.emissions.length marks.leaders := by
    rw [blockStarts, mem_segmentStarts, List.getD_eq_getElem?_getD, h.first hpos]
    exact ⟨hpos, rfl⟩
  obtain ⟨k, hk⟩ := List.mem_iff_getElem?.mp hmem
  cases k with
  | zero => exact hk
  | succ k =>
    have hlt := (List.getElem?_eq_some_iff.mp hk).1
    have hzero := List.getElem?_eq_getElem (l := blockStarts program.emissions.length marks.leaders)
      (i := 0) (by omega)
    exact absurd (start_lt_start hzero hk (Nat.succ_pos k)) (Nat.not_lt_zero _)

theorem MarksStarts.tiles (h : MarksStarts program marks) (hpos : 0 < program.emissions.length) :
    Base.Tiles 0 program.emissions.length
      ((basicBlocks program marks).map ShaderCfgBasicBlock.extent) := by
  have hzero := h.getElem?_blockStarts_zero hpos
  apply tiles_of_getElem?
  · intro extent hextent
    obtain ⟨k, hk⟩ := List.mem_iff_getElem?.mp hextent
    rw [getElem?_blockExtents, Option.map_eq_some_iff] at hk
    obtain ⟨first, hfirst, rfl⟩ := hk
    exact Nat.sub_pos_of_lt (start_lt_segmentLimit hfirst).1
  · intro extent hextent
    rw [getElem?_blockExtents, hzero] at hextent
    cases hextent
    rfl
  · intro hempty
    have hnone : ((basicBlocks program marks).map ShaderCfgBasicBlock.extent)[0]? = none := by
      rw [hempty]
      rfl
    rw [getElem?_blockExtents, hzero] at hnone
    cases hnone
  · intro k extent extent' hk hk'
    rw [getElem?_blockExtents, Option.map_eq_some_iff] at hk hk'
    obtain ⟨first, hfirst, rfl⟩ := hk
    obtain ⟨first', hfirst', rfl⟩ := hk'
    have hlt := (start_lt_segmentLimit hfirst).1
    rcases segmentLimit_cases program.emissions.length
      (blockStarts program.emissions.length marks.leaders) k with
      hlimit | ⟨hnone, -⟩
    · rw [hfirst'] at hlimit
      cases hlimit
      exact Nat.add_sub_cancel' hlt.le
    · rw [hfirst'] at hnone
      cases hnone
  · intro k extent hk hk'
    rw [getElem?_blockExtents, Option.map_eq_some_iff] at hk
    rw [getElem?_blockExtents, Option.map_eq_none_iff] at hk'
    obtain ⟨first, hfirst, rfl⟩ := hk
    have hlt : first < segmentLimit program.emissions.length
        (blockStarts program.emissions.length marks.leaders) k :=
      (start_lt_segmentLimit hfirst).1
    rcases segmentLimit_cases program.emissions.length
      (blockStarts program.emissions.length marks.leaders) k with
      hlimit | ⟨-, hend⟩
    · rw [hk'] at hlimit
      cases hlimit
    · dsimp only
      rw [Nat.add_sub_cancel' hlt.le, hend]

/-- A branch leads where the graph's edges of the program lead. -/
theorem branchTarget_eq_some (hlaid : LaidOut program)
    (hmax : program.sourceWordCount ≤ kMaxSignedWordIndex) (h : BranchesTo program i j)
    (hdelta : (program.operationAt i).branchDelta = some byteDelta) :
    branchTarget program i byteDelta = some j := by
  have hbranch := h
  obtain ⟨source, target, byteDelta', hsource, htarget, hdelta', haligned, hword⟩ := h
  rw [operationAt_of_getElem? hsource] at hdelta
  exact (branchTarget_of_resolve hsource
    ((resolveBranchTarget_eq_ok hlaid hmax hsource hdelta).mpr hbranch)).1

theorem exists_firstEmissionIndex_iff (hlaid : LaidOut program)
    (hmax : program.sourceWordCount ≤ kMaxSignedWordIndex) (h : MarksStarts program marks)
    (hmarked : Marked program program.emissions.length marks) :
    (∃ block ∈ basicBlocks program marks, block.firstEmissionIndex = i) ↔
    IsBlockStart program i := by
  have hblock : (∃ block ∈ basicBlocks program marks, block.firstEmissionIndex = i) ↔
      i ∈ blockStarts program.emissions.length marks.leaders := by
    constructor
    · rintro ⟨block, hmem, rfl⟩
      obtain ⟨k, hk⟩ := List.mem_iff_getElem?.mp hmem
      rw [getElem?_basicBlocks, Option.map_eq_some_iff] at hk
      obtain ⟨first, hfirst, rfl⟩ := hk
      exact List.mem_of_getElem? hfirst
    · intro hmem
      obtain ⟨k, hk⟩ := List.mem_iff_getElem?.mp hmem
      have hget := getElem?_basicBlocks program marks k
      rw [hk, Option.map_some] at hget
      exact ⟨_, List.mem_of_getElem? hget, rfl⟩
  rw [hblock, blockStarts, mem_segmentStarts, List.getD_eq_getElem?_getD]
  constructor
  · rintro ⟨hlt, hleader⟩
    apply h.starts
    rw [List.getElem?_eq_getElem (by rw [h.length]; exact hlt)] at hleader ⊢
    rw [← hleader]
    rfl
  · rintro ⟨hlt, hstart⟩
    refine ⟨hlt, ?_⟩
    suffices hleader : marks.leaders[i]? = some true by
      rw [hleader]
      rfl
    rcases hstart with rfl | ⟨j, hbranch⟩ | ⟨j, rfl, hends⟩
    · exact h.first hlt
    · obtain ⟨source, target, byteDelta, hsource, -, hdelta, -⟩ := id hbranch
      have hj := (List.getElem?_eq_some_iff.mp hsource).1
      rw [← operationAt_of_getElem? hsource] at hdelta
      obtain ⟨target', htarget', -, hleader⟩ := hmarked.branch j hj byteDelta hdelta
      rw [branchTarget_eq_some hlaid hmax hbranch hdelta] at htarget'
      cases htarget'
      exact hleader
    · exact hmarked.next j (by omega) hends hlt

/-- Blocks that start only where they have to are the coarsest. -/
theorem exists_block_of_extent
    (htiles : Base.Tiles 0 program.emissions.length (graph.blocks.map ShaderCfgBasicBlock.extent))
    (hstarts : ∀ i, (∃ block ∈ graph.blocks, block.firstEmissionIndex = i) ↔ IsBlockStart program i)
    {extents : List (ℕ × ℕ)} (hextents : Base.Tiles 0 program.emissions.length extents)
    (hcover : ∀ i, IsBlockStart program i → ∃ extent ∈ extents, extent.1 = i) {extent : ℕ × ℕ}
    (hmem : extent ∈ extents) :
    ∃ block ∈ graph.blocks, block.firstEmissionIndex ≤ extent.1 ∧
      extent.1 + extent.2 ≤ block.firstEmissionIndex + block.emissionCount := by
  obtain ⟨-, hpos, hstop⟩ := hextents.bounds hmem
  obtain ⟨blockExtent, hblockExtent, hlow, hhigh⟩ :=
    htiles.exists_extent (Nat.zero_le extent.1) (by omega)
  obtain ⟨block, hblock, rfl⟩ := List.mem_map.mp hblockExtent
  refine ⟨block, hblock, hlow, ?_⟩
  by_contra hover
  -- the next block starts inside the extent
  obtain ⟨k, hk⟩ := List.mem_iff_getElem?.mp hblockExtent
  dsimp only [ShaderCfgBasicBlock.extent] at hlow hhigh hk
  obtain ⟨next, hnext, hfirst⟩ := htiles.next hk (by dsimp only; omega)
  obtain ⟨nextBlock, hnextBlock, rfl⟩ := List.mem_map.mp (List.mem_of_getElem? hnext)
  obtain ⟨inner, hinner, hinnerFirst⟩ :=
    hcover nextBlock.firstEmissionIndex ((hstarts _).mp ⟨nextBlock, hnextBlock, rfl⟩)
  dsimp only [ShaderCfgBasicBlock.extent] at hfirst
  have := hextents.first_not_inside hmem hinner (by omega)
  omega

variable {block : ShaderCfgBasicBlock}

/-- There is a block behind one that does not end with the program. -/
theorem succ_lt_length_iff
    (htiles : Base.Tiles 0 program.emissions.length (graph.blocks.map ShaderCfgBasicBlock.extent))
    (hblock : graph.blocks[blockIndex]? = some block) :
    blockIndex + 1 < graph.blocks.length ↔
    block.firstEmissionIndex + block.emissionCount < program.emissions.length := by
  have hextent : (graph.blocks.map ShaderCfgBasicBlock.extent)[blockIndex]? =
      some block.extent := by
    rw [List.getElem?_map, hblock]
    rfl
  constructor
  · intro hlt
    have hnext : (graph.blocks.map ShaderCfgBasicBlock.extent)[blockIndex + 1]? =
        some graph.blocks[blockIndex + 1].extent := by
      rw [List.getElem?_map, List.getElem?_eq_getElem hlt]
      rfl
    have hbefore := htiles.first_lt_first hextent hnext (Nat.lt_succ_self _)
    have hle :=
      htiles.first_not_inside (List.mem_of_getElem? hextent) (List.mem_of_getElem? hnext) hbefore
    obtain ⟨-, hpos, hstop⟩ := htiles.bounds (List.mem_of_getElem? hnext)
    dsimp only [ShaderCfgBasicBlock.extent] at hle hpos hstop
    omega
  · intro hlt
    obtain ⟨next, hnext, -⟩ := htiles.next hextent hlt
    have := (List.getElem?_eq_some_iff.mp hnext).1
    rwa [List.length_map] at this

/-- The edges of a block, in the terms of the program's branches. -/
theorem edgesOf_branchesTo (hlaid : LaidOut program)
    (hmax : program.sourceWordCount ≤ kMaxSignedWordIndex) (hland : BranchesLand program)
    (htiles : Base.Tiles 0 program.emissions.length (graph.blocks.map ShaderCfgBasicBlock.extent))
    (hblock : graph.blocks[blockIndex]? = some block)
    (hedges : EdgesOf graph (program.operationAt block.lastEmissionIndex) (fun byteDelta target =>
      branchTarget program block.lastEmissionIndex byteDelta = some target)
      (block.lastEmissionIndex + 1 < program.emissions.length) blockIndex block.successors) :
    EdgesOf graph (program.operationAt block.lastEmissionIndex)
      (fun _ => BranchesTo program block.lastEmissionIndex)
      (blockIndex + 1 < graph.blocks.length) blockIndex block.successors := by
  have hpos : 0 < block.emissionCount :=
    (htiles.bounds (List.mem_map.mpr ⟨block, List.mem_of_getElem? hblock, rfl⟩)).2.1
  have hstop := (htiles.bounds (List.mem_map.mpr ⟨block, List.mem_of_getElem? hblock, rfl⟩)).2.2
  dsimp only [ShaderCfgBasicBlock.extent] at hstop
  have hlast : block.lastEmissionIndex + 1 = block.firstEmissionIndex + block.emissionCount := by
    rw [ShaderCfgBasicBlock.lastEmissionIndex]
    omega
  refine hedges.mono (fun byteDelta target hdelta htarget => ?_) ?_
  · have hlt : block.lastEmissionIndex < program.emissions.length := by omega
    have hsource := List.getElem?_eq_getElem hlt
    obtain ⟨j, hj⟩ :=
      hland _ _ byteDelta hsource (by rwa [operationAt_of_getElem? hsource] at hdelta)
    rw [branchTarget_eq_some hlaid hmax hj hdelta] at htarget
    cases htarget
    exact hj
  · rw [hlast]
    exact (succ_lt_length_iff htiles hblock).symm

end Blocks

/-! ### The builder -/

section Build

variable {host : Host} {program : ShaderIrProgram}

/-- The graph of the marked emissions is the graph of the basic blocks. -/
theorem basicBlocksOf_marks {marks : LeaderMarks} (hlaid : LaidOut program)
    (hmax : program.sourceWordCount ≤ kMaxSignedWordIndex) (hland : BranchesLand program)
    (hpos : 0 < program.emissions.length)
    (hmarks : markEmissions program 0 program.emissions (initialMarks program.emissions.length) =
      .ok marks) :
    BasicBlocksOf program ⟨program.sourceWordCount, program.emissions.length,
      basicBlocks program marks⟩ := by
  have hmarked := (marked_initial program).run rfl hmarks
  have hstarts := (marksStarts_initial program).run hlaid hmax rfl hmarks
  have htiles := hstarts.tiles hpos
  have hfirst : ∀ i, (∃ block ∈ basicBlocks program marks, block.firstEmissionIndex = i) ↔
      IsBlockStart program i :=
    fun i => exists_firstEmissionIndex_iff hlaid hmax hstarts hmarked
  have hedges : ∀ (blockIndex : ℕ) block, (basicBlocks program marks)[blockIndex]? = some block →
      EdgesOf ⟨program.sourceWordCount, program.emissions.length, basicBlocks program marks⟩
        (program.operationAt block.lastEmissionIndex)
          (fun _ => BranchesTo program block.lastEmissionIndex)
        (blockIndex + 1 < (basicBlocks program marks).length) blockIndex block.successors := by
    intro blockIndex block hblock
    exact edgesOf_branchesTo hlaid hmax hland htiles hblock
      (blockOf_basicBlocks _ _ hmarked hblock).edges
  refine ⟨rfl, rfl, htiles, hfirst, ?_, ?_, hedges⟩
  · intro extents hextents hcover extent hmem
    exact exists_block_of_extent htiles hfirst hextents hcover hmem
  · intro block hblock edge hedge
    obtain ⟨blockIndex, hindex⟩ := List.mem_iff_getElem?.mp hblock
    exact (hedges blockIndex block hindex).target_lt id edge hedge

theorem basicBlocksOf_nil (hempty : program.emissions = []) :
    BasicBlocksOf program ⟨program.sourceWordCount, 0, []⟩ := by
  have hlength : program.emissions.length = 0 := by rw [hempty, List.length_nil]
  refine ⟨rfl, hlength.symm, ?_, ?_, ?_, ?_, ?_⟩
  · rw [hlength]
    rfl
  · intro i
    constructor
    · rintro ⟨block, hblock, -⟩
      exact absurd hblock List.not_mem_nil
    · rintro ⟨hlt, -⟩
      omega
  · intro extents hextents _ extent hmem
    have := hextents.bounds hmem
    omega
  · intro block hblock
    exact absurd hblock List.not_mem_nil
  · intro blockIndex block hblock
    cases hblock

/-- **The builder computes the basic blocks.** It succeeds on the programs that are not too long,
are laid out and branch to emissions, and the graph is that of their basic blocks. -/
theorem buildShaderControlFlowGraph_spec (hhost : ∀ site, host.allocation site = none)
    (hmemory : ProgramInMemory program) :
    ((∃ graph, buildShaderControlFlowGraph host program = .ok graph) ↔
      program.sourceWordCount ≤ kMaxSignedWordIndex ∧ LaidOut program ∧ BranchesLand program) ∧
    ∀ graph, buildShaderControlFlowGraph host program = .ok graph →
      BasicBlocksOf program graph := by
  have hallocate : ∀ site e e', allocate host site e e' =
      (.ok () : Except ShaderCfgError Unit) := by
    intro site e e'
    rw [allocate, hhost site]
  have hland : LaidOut program → program.sourceWordCount ≤ kMaxSignedWordIndex →
      (BranchesLand program ↔ ∃ marks, markEmissions program 0 program.emissions
      (initialMarks program.emissions.length) = .ok marks) := by
    intro hlaid hmax
    refine Iff.trans ?_ (exists_markEmissions_iff hlaid hmax List.drop_zero).symm
    constructor
    · intro h i source byteDelta _ hsource hdelta
      exact h i source byteDelta hsource hdelta
    · intro h i source byteDelta hsource hdelta
      exact h i source byteDelta (Nat.zero_le i) hsource hdelta
  simp only [buildShaderControlFlowGraph, hallocate, ok_bind]
  by_cases hlayout : validateProgramLayout program = .ok ()
  · obtain ⟨hmax, hlaid⟩ := (validateProgramLayout_eq_ok hmemory).mp hlayout
    rw [hlayout, ok_bind]
    by_cases hempty : program.emissions.isEmpty = true
    · rw [if_pos hempty]
      rw [List.isEmpty_iff] at hempty
      refine ⟨⟨?_, ?_⟩, ?_⟩
      · intro _
        refine ⟨hmax, hlaid, ?_⟩
        intro i source byteDelta hsource
        rw [hempty] at hsource
        cases hsource
      · intro _
        exact ⟨_, rfl⟩
      · intro graph hgraph
        rw [pure_eq_ok] at hgraph
        subst hgraph
        exact basicBlocksOf_nil hempty
    · rw [if_neg hempty]
      rw [List.isEmpty_iff] at hempty
      have hpos := List.length_pos_iff.mpr hempty
      refine ⟨⟨?_, ?_⟩, ?_⟩
      · rintro ⟨graph, hgraph⟩
        rw [bind_eq_ok] at hgraph
        obtain ⟨marks, hmarks, -⟩ := hgraph
        exact ⟨hmax, hlaid, (hland hlaid hmax).mpr ⟨marks, hmarks⟩⟩
      · rintro ⟨-, -, hbranches⟩
        obtain ⟨marks, hmarks⟩ := (hland hlaid hmax).mp hbranches
        rw [hmarks]
        exact ⟨_, rfl⟩
      · intro graph hgraph
        rw [bind_eq_ok] at hgraph
        obtain ⟨marks, hmarks, hgraph⟩ := hgraph
        rw [pure_eq_ok] at hgraph
        subst hgraph
        exact basicBlocksOf_marks hlaid hmax ((hland hlaid hmax).mpr ⟨marks, hmarks⟩) hpos hmarks
  · refine ⟨⟨?_, ?_⟩, ?_⟩
    · rintro ⟨graph, hgraph⟩
      rw [bind_eq_ok] at hgraph
      obtain ⟨⟨⟩, hok, -⟩ := hgraph
      exact absurd hok hlayout
    · rintro ⟨hmax, hlaid, -⟩
      exact absurd ((validateProgramLayout_eq_ok hmemory).mpr ⟨hmax, hlaid⟩) hlayout
    · intro graph hgraph
      rw [bind_eq_ok] at hgraph
      obtain ⟨⟨⟩, hok, -⟩ := hgraph
      exact absurd hok hlayout

end Build

/-- An instruction of the sample programs, of `wordCount` words from `wordIndex` on. -/
def sampleInstruction (wordIndex wordCount : ℕ) : Rdna2Instruction where
  wordIndex := wordIndex
  wordCount := wordCount
  byteOffset := 4 * wordIndex
  rawWord := 0
  rawEncoding := bytesOfWord 0
  format := .unsupported
  kind := .unsupportedEncoding

/-- A loop: a branch back to the first emission, behind it the end of the program. -/
def sampleLoopProgram : ShaderIrProgram where
  sourceWordCount := 4
  emissions := [⟨.nop 1, sampleInstruction 0 2⟩,
    ⟨.conditionalRelativeBranch .sccOne (-8), sampleInstruction 2 1⟩,
    ⟨.endProgram, sampleInstruction 3 1⟩]

theorem buildShaderControlFlowGraph_spec_sample :
    ∃ graph, buildShaderControlFlowGraph Host.plentiful sampleLoopProgram = .ok graph ∧
      BasicBlocksOf sampleLoopProgram graph := by
  have hsome : (buildShaderControlFlowGraph Host.plentiful sampleLoopProgram).toOption.isSome =
    true := by decide +kernel
  cases hbuild : buildShaderControlFlowGraph Host.plentiful sampleLoopProgram with
  | error e =>
    rw [hbuild] at hsome
    cases hsome
  | ok graph =>
    exact ⟨graph, rfl, (buildShaderControlFlowGraph_spec (fun _ => rfl) ⟨by decide⟩).2 graph hbuild⟩

/-- A program of more words than a signed word index has is refused, although its emissions tile it.
-/
theorem buildShaderControlFlowGraph_tooLong :
    ¬ ∀ program : ShaderIrProgram, program.sourceWordCount < 2 ^ 64 → ProgramInMemory program →
      ((∃ graph, buildShaderControlFlowGraph Host.plentiful program = .ok graph) ↔ LaidOut program ∧
        BranchesLand program) := by
  intro hall
  have hiff := hall ⟨2 ^ 63, [⟨.endProgram, sampleInstruction 0 (2 ^ 63)⟩]⟩ (by decide) ⟨by decide⟩
  obtain ⟨graph, hgraph⟩ := hiff.mpr ⟨⟨⟨rfl, by decide, rfl⟩, by decide⟩, by
    intro i source byteDelta hsource hdelta
    cases i with
    | zero =>
      cases hsource
      cases hdelta
    | succ i => cases hsource⟩
  cases hgraph

end Astraea.Graphics
