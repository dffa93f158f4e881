import Astraea.Graphics.SpirvProbeInvocation
import Mathlib.Data.List.Dedup

/-!
# The vector probe does what the wave does

`lower_shader_ir_to_spirv_vector_probe` says of itself that its module is suitable for
validation, and that the words of the registers lie in the buffer one register behind the other.
So the module should be well formed, and its invocations, in every order, should leave in the
buffer what `execute_shader_wave_program` leaves in the registers: `PreservesMeaning`.

They do so exactly as long as the counter of the ids does not run over.
-/

namespace Astraea.Graphics

open Astraea.Base Astraea.Core
open Spirv (Instruction Op Globals Frame execute)

/-! ### The buffer -/

/-- The word of a lane of a register. -/
def laneWord (vector : ShaderVectorState) (vgpr lane : ℕ) : UInt32 :=
  (vector.vgprs[vgpr]?.bind fun lanes => lanes[lane]?).getD 0

/-- The words of a buffer that has the registers: those of a register lie one behind the other,
and so do the registers. -/
def flattenProbeState (layout : SpirvVectorProbeLayout) (vector : ShaderVectorState) :
    List UInt32 :=
  (List.range layout.requiredStateWordCount.toNat).map fun p =>
    laneWord vector (p / layout.vgprStrideWords.toNat) (p % layout.vgprStrideWords.toNat)

/-- The indices of the invocations. -/
def laneIndices (layout : SpirvVectorProbeLayout) : List UInt32 :=
  (List.range layout.waveSize.toNat).map UInt32.ofNat

/-- A module is well formed, and its invocations make one state of the registers out of another,
in whatever order they come and without ever leaving the buffer. -/
def PreservesMeaning (e : Spirv.Enumerants) (fAdd : UInt32 → UInt32 → UInt32)
    (module : SpirvVectorProbeModule) (before after : ShaderVectorState) : Prop :=
  ∃ spirv, Spirv.parseModule e module.words = some spirv ∧ spirv.WellFormed ∧
    ∀ order : List UInt32, order.Perm (laneIndices module.layout) →
      Spirv.dispatch e fAdd (module.layout.descriptorSet, module.layout.binding) spirv.instructions
        order
        (flattenProbeState module.layout before) = some (flattenProbeState module.layout after)

section Buffer

variable {vector : ShaderVectorState} {layout : SpirvVectorProbeLayout}

theorem laneWord_eq (vector : ShaderVectorState) (vgpr : Fin kShaderVectorGprCount)
    (lane : Fin kShaderMaxWaveLaneCount) :
    laneWord vector vgpr.val lane.val = (vector.vgprs.get vgpr).get lane := by
  have hvgpr : vector.vgprs[vgpr.val]? = some (vector.vgprs.get vgpr) :=
    Vector.getElem?_eq_getElem vgpr.isLt
  have hlane : (vector.vgprs.get vgpr)[lane.val]? = some ((vector.vgprs.get vgpr).get lane) :=
    Vector.getElem?_eq_getElem lane.isLt
  rw [laneWord, hvgpr, Option.bind_some, hlane, Option.getD_some]

theorem length_flattenProbeState (layout : SpirvVectorProbeLayout) (vector : ShaderVectorState) :
    (flattenProbeState layout vector).length = layout.requiredStateWordCount.toNat := by
  rw [flattenProbeState, List.length_map, List.length_range]

/-- **The word of a lane of a register** is at the number of the register times the lanes of a wave,
plus the lane. -/
theorem getElem?_flattenProbeState {vgpr : Fin kShaderVectorGprCount}
    {lane : Fin kShaderMaxWaveLaneCount} (hlane : lane.val < layout.vgprStrideWords.toNat)
    (hinside : laneAddress layout.vgprStrideWords lane.val vgpr <
      layout.requiredStateWordCount.toNat) :
    (flattenProbeState layout vector)[laneAddress layout.vgprStrideWords lane.val vgpr]? =
      some ((vector.vgprs.get vgpr).get lane) := by
  have hdiv : laneAddress layout.vgprStrideWords lane.val vgpr / layout.vgprStrideWords.toNat =
      vgpr.val := by
    rw [laneAddress, Nat.mul_comm, Nat.mul_add_div (by omega), Nat.div_eq_of_lt hlane, Nat.add_zero]
  rw [flattenProbeState, List.getElem?_map, List.getElem?_range hinside, Option.map_some, hdiv,
    laneAddress_mod hlane, laneWord_eq]

end Buffer

/-! ### The ids of a program -/

/-- How many ids the module of a program takes: those that every module has, three for each register
the program names, one for each move and six for each sum. -/
def spirvIdCount (program : ShaderIrProgram) : ℕ :=
  15 + 3 * (program.emissions.flatMap fun emission => emission.operation.registers).dedup.length +
    (program.emissions.map fun emission => operationIdCount emission.operation).sum

section Lowered

variable {host : Host} {e : Spirv.Enumerants} {fAdd : UInt32 → UInt32 → UInt32}
  {program : ShaderIrProgram} {operations : List ShaderIrOperation}
  {options : SpirvVectorProbeOptions} {module : SpirvVectorProbeModule}

theorem ShaderIrVgpr.number_injective : Function.Injective ShaderIrVgpr.number := by
  intro register other h
  apply ShaderIrVgpr.ext
  exact UInt8.toNat_inj.mp (Fin.val_eq_of_eq h)

/-- The registers of the shape are those that the program names. -/
theorem length_namedVgprs (operations : List ShaderIrOperation) :
    (ProgramShape.markAll {} operations).namedVgprs.length =
      (operations.flatMap ShaderIrOperation.registers).dedup.length := by
  rw [← List.length_map ShaderIrVgpr.number]
  refine List.Perm.length_eq ?_
  rw [List.perm_ext_iff_of_nodup (ProgramShape.nodup_namedVgprs _)
    ((List.nodup_dedup _).map ShaderIrVgpr.number_injective)]
  intro vgpr
  rw [mem_namedVgprs, ProgramShape.get_markAll, List.mem_map]
  simp only [List.mem_dedup, List.mem_flatMap]
  constructor
  · rintro ⟨operation, hoperation, register, hregister, rfl⟩
    exact ⟨register, ⟨operation, hoperation, hregister⟩, rfl⟩
  · rintro ⟨register, ⟨operation, hoperation, hregister⟩, rfl⟩
    exact ⟨operation, hoperation, register, hregister, rfl⟩

/-- What was lowered: a program whose operations are known, and the module of its shape. -/
structure Lowered (e : Spirv.Enumerants) (program : ShaderIrProgram)
    (options : SpirvVectorProbeOptions) (module : SpirvVectorProbeModule)
    (operations : List ShaderIrOperation) : Prop where
  size : options.waveSize = .wave32 ∨ options.waveSize = .wave64
  operations_eq : program.emissions.map ShaderIrEmission.operation = operations ++ [.endProgram]
  probed : ∀ operation ∈ operations, operation.IsProbed
  module_eq : module = emitVectorProbe e program (waveSizeWords options.waveSize)
    (ProgramShape.markAll {} operations)

theorem exists_lowered
    (hlower : lowerShaderIrToSpirvVectorProbe host e program options = .ok module) :
    ∃ operations, Lowered e program options module operations := by
  simp only [lowerShaderIrToSpirvVectorProbe, bind_eq_ok, refuseIf_eq_ok, allocate_eq_ok,
    pure_eq_ok] at hlower
  obtain ⟨-, hsize, shape, hshape, -, -, hmodule⟩ := hlower
  obtain ⟨operations, hoperations, hprobed, rfl⟩ := validateProgramShape_eq_ok_iff.mp hshape
  refine ⟨operations, ?_, hoperations, hprobed, hmodule.symm⟩
  cases hwave : options.waveSize with
  | wave32 => exact .inl rfl
  | wave64 => exact .inr rfl
  | unspecified =>
    rw [hwave] at hsize
    exact absurd rfl hsize

theorem Lowered.straightLine (h : Lowered e program options module operations) :
    StraightLine program operations := by
  refine ⟨h.operations_eq, fun operation hoperation => ?_⟩
  have hprobed := h.probed operation hoperation
  cases operation <;> first | rfl | cases hprobed

theorem covers_markAll (operations : List ShaderIrOperation) :
    (ProgramShape.markAll {} operations).Covers (operations ++ [.endProgram]) := by
  intro operation hoperation register hregister
  rw [mem_namedVgprs, ProgramShape.get_markAll]
  rcases List.mem_append.mp hoperation with hoperation | hend
  · exact ⟨operation, hoperation, register, hregister, rfl⟩
  · rw [List.mem_singleton.mp hend] at hregister
    cases hregister

theorem Lowered.idCount (h : Lowered e program options module operations) :
    probeIdCount (ProgramShape.markAll {} operations) (operations ++ [.endProgram]) =
      spirvIdCount program := by
  have hregisters : program.emissions.flatMap (fun emission => emission.operation.registers) =
      operations.flatMap ShaderIrOperation.registers := by
    rw [← List.flatMap_map ShaderIrEmission.operation ShaderIrOperation.registers, h.operations_eq,
      List.flatMap_append, List.flatMap_singleton]
    exact List.append_nil _
  have hids : program.emissions.map (fun emission => operationIdCount emission.operation) =
      (operations ++ [ShaderIrOperation.endProgram]).map operationIdCount := by
    rw [← h.operations_eq, List.map_map]
    rfl
  rw [probeIdCount, length_namedVgprs, spirvIdCount, hregisters, hids, operationsIdCount]

theorem Lowered.parseModule_eq (h : Lowered e program options module operations)
    (hlawful : e.Lawful) :
    Spirv.parseModule e module.words = some ⟨kSpirvVersion16, 0, idOf (spirvIdCount program + 1),
      probeInstructions e (waveSizeWords options.waveSize) (ProgramShape.markAll {} operations)
        (operations ++ [.endProgram])⟩ := by
  rw [h.module_eq, emitVectorProbe_words, h.operations_eq, h.idCount]
  exact Spirv.parseModule_words hlawful _ _ _ fun i hi => short_of_mem_probeInstructions hi

/-- **Where the module is well formed, the ids fit into the counter.** -/
theorem idCount_lt_of_preservesMeaning (hlawful : e.Lawful)
    (hlower : lowerShaderIrToSpirvVectorProbe host e program options = .ok module)
    {before after : ShaderVectorState} (h : PreservesMeaning e fAdd module before after) :
    spirvIdCount program + 1 < 2 ^ 32 := by
  obtain ⟨operations, hlowered⟩ := exists_lowered hlower
  obtain ⟨spirv, hparse, hwellFormed, -⟩ := h
  rw [hlowered.parseModule_eq hlawful, Option.some.injEq] at hparse
  subst hparse
  rw [← hlowered.idCount] at hwellFormed ⊢
  exact (wellFormed_iff (covers_markAll operations) _ _).mp hwellFormed

/-! ### The invocations together -/

theorem toNat_stateWordCount {vgprCount waveSize : UInt32} (hcount : vgprCount.toNat ≤ 256)
    (hwave : waveSize.toNat ≤ 64) :
    (vgprCount * waveSize).toNat = vgprCount.toNat * waveSize.toNat := by
  have hproduct : vgprCount.toNat * waveSize.toNat ≤ 256 * 64 := Nat.mul_le_mul hcount hwave
  rw [UInt32.toNat_mul, Nat.mod_eq_of_lt (by omega)]

theorem requiredVgprCount_le (shape : ProgramShape) : shape.requiredVgprCount.toNat ≤ 256 := by
  have hmax := shape.maxVgpr.toNat_lt
  rw [ProgramShape.requiredVgprCount]
  split_ifs
  · exact Nat.zero_le _
  · rw [UInt32.toNat_add, UInt8.toNat_toUInt32, UInt32.toNat_one, Nat.mod_eq_of_lt (by omega)]
    omega

theorem laneHolds_flattenProbeState {layout : SpirvVectorProbeLayout} {vgprCount : ℕ}
    {vector : ShaderVectorState} {lane : Fin kShaderMaxWaveLaneCount}
    (hcount : layout.requiredStateWordCount.toNat = vgprCount * layout.vgprStrideWords.toNat)
    (hlane : lane.val < layout.vgprStrideWords.toNat) :
    LaneHolds layout.vgprStrideWords vgprCount lane (flattenProbeState layout vector) vector := by
  refine ⟨by rw [length_flattenProbeState, hcount], fun vgpr hvgpr => ?_⟩
  refine getElem?_flattenProbeState hlane ?_
  rw [hcount]
  exact laneAddress_lt hlane hvgpr

/-- **Invocations that each rewrite the words of their lane make the whole of the next state**, in
every order. -/
theorem foldlM_lanes {layout : SpirvVectorProbeLayout} {vgprCount : ℕ}
    {before after : ShaderVectorState} {run : List UInt32 → UInt32 → Option (List UInt32)}
    (hvgprCount : vgprCount ≤ kShaderVectorGprCount)
    (hcount : layout.requiredStateWordCount.toNat = vgprCount * layout.vgprStrideWords.toNat)
    (hwave : layout.vgprStrideWords.toNat ≤ kShaderMaxWaveLaneCount)
    (hrun : ∀ (lane : Fin kShaderMaxWaveLaneCount) memory, lane.val < layout.vgprStrideWords.toNat →
      LaneHolds layout.vgprStrideWords vgprCount lane memory before →
      ∃ memory', run memory (UInt32.ofNat lane.val) = some memory' ∧
        LaneHolds layout.vgprStrideWords vgprCount lane memory' after ∧
        KeepsLanes layout.vgprStrideWords lane.val memory memory')
    {order : List UInt32}
      (horder : order.Perm ((List.range layout.vgprStrideWords.toNat).map UInt32.ofNat)) :
    order.foldlM run (flattenProbeState layout before) = some (flattenProbeState layout after) := by
  obtain ⟨stride, hstride⟩ : ∃ stride, layout.vgprStrideWords.toNat = stride := ⟨_, rfl⟩
  have hwave64 : stride ≤ 64 := hstride ▸ hwave
  have hindex : ∀ a b, a < 64 → b < 64 → (UInt32.ofNat a = UInt32.ofNat b ↔ a = b) := by
    intro a b ha hb
    rw [← UInt32.toNat_inj, UInt32.toNat_ofNat', UInt32.toNat_ofNat', Nat.mod_eq_of_lt (by omega),
      Nat.mod_eq_of_lt (by omega)]
  refine @Spirv.foldlM_of_owners UInt32 UInt32 _ run
    (fun p => UInt32.ofNat (p % stride)) _ _ order ?_ ?_ ?_ ?_
  · intro memory i hi hlength howned
    obtain ⟨lane, hlane, rfl⟩ := List.mem_map.mp (horder.mem_iff.mp hi)
    rw [List.mem_range, hstride] at hlane
    obtain ⟨laneIndex, rfl⟩ : ∃ laneIndex : Fin kShaderMaxWaveLaneCount, laneIndex.val = lane :=
      ⟨⟨lane, by rw [kShaderMaxWaveLaneCount]; omega⟩, rfl⟩
    have howner : ∀ p, UInt32.ofNat (p % stride) = UInt32.ofNat laneIndex.val ↔
        p % stride = laneIndex.val := by
      intro p
      have := Nat.mod_lt p (show 0 < stride by omega)
      exact hindex _ _ (by omega) (by omega)
    have hstart := @laneHolds_flattenProbeState layout vgprCount before laneIndex hcount (by omega)
    have hgoal := @laneHolds_flattenProbeState layout vgprCount after laneIndex hcount (by omega)
    have hholds : LaneHolds layout.vgprStrideWords vgprCount laneIndex memory before := by
      refine ⟨by rw [hlength, hstart.length], fun vgpr hvgpr => ?_⟩
      rw [howned _ ((howner _).mpr (hstride ▸ laneAddress_mod (by omega) vgpr))]
      exact hstart.words vgpr hvgpr
    obtain ⟨memory', hmemory, hafter, hkeeps⟩ := hrun laneIndex memory (by omega) hholds
    refine ⟨memory', hmemory, by rw [hafter.length, hstart.length], fun p => ?_⟩
    by_cases hp : p % stride = laneIndex.val
    · rw [if_pos ((howner p).mpr hp)]
      by_cases hinside : p < vgprCount * stride
      · have hvgpr : p / stride < vgprCount := Nat.div_lt_of_lt_mul (by rwa [Nat.mul_comm])
        have haddress : laneAddress layout.vgprStrideWords laneIndex.val ⟨p / stride, by omega⟩ =
            p := by
          rw [laneAddress, hstride, ← hp, Nat.mul_comm]
          exact Nat.div_add_mod p stride
        have hword := hafter.words ⟨p / stride, by omega⟩ hvgpr
        have hgoalWord := hgoal.words ⟨p / stride, by omega⟩ hvgpr
        rw [haddress] at hword hgoalWord
        rw [hword, hgoalWord]
      · rw [List.getElem?_eq_none (by rw [hafter.length, hstride]; omega),
          List.getElem?_eq_none (by rw [hgoal.length, hstride]; omega)]
    · rw [if_neg fun heq => hp ((howner p).mp heq)]
      exact hkeeps p (by rwa [hstride])
  · rw [length_flattenProbeState, length_flattenProbeState]
  · rw [horder.nodup_iff]
    refine List.Nodup.map_on (fun a ha b hb heq => ?_) List.nodup_range
    rw [List.mem_range, hstride] at ha hb
    exact (hindex a b (by omega) (by omega)).mp heq
  · intro p hp
    rw [length_flattenProbeState, hcount, hstride] at hp
    have hpos : 0 < stride := Nat.pos_of_ne_zero fun hzero => by
      rw [hzero, Nat.mul_zero] at hp
      exact Nat.not_lt_zero _ hp
    rw [horder.mem_iff]
    refine List.mem_map_of_mem ?_
    rw [List.mem_range, hstride]
    exact Nat.mod_lt p hpos

/-! ### The module does what the wave does -/

theorem toNat_waveSizeWords (waveSize : ShaderWaveSize) :
    (waveSizeWords waveSize).toNat = waveLaneCount waveSize := by
  cases waveSize <;> rfl

/-- **Where the ids fit into the counter, the module does what the wave does.** -/
theorem preservesMeaning_of_idCount_lt (hlawful : e.Lawful) (hadds : AddsExactly fAdd)
    (hlower : lowerShaderIrToSpirvVectorProbe host e program options = .ok module)
    {graph : ShaderControlFlowGraph} (hgraph : buildShaderControlFlowGraph host program = .ok graph)
    {wave wave' : ShaderWaveState} (hwave : wave.vector.waveSize = options.waveSize)
    (hexec : ∀ lane < waveLaneCount options.waveSize, wave.scalar.exec.toNat.testBit lane = true)
    {entryBlockIndex budget : ℕ} {execution : ShaderWaveProgramExecution}
    (hrun : executeShaderWaveProgram host program graph entryBlockIndex budget wave =
      (.ok execution, wave')) (hcount : spirvIdCount program + 1 < 2 ^ 32) :
    PreservesMeaning e fAdd module wave.vector wave'.vector := by
  obtain ⟨operations, hlowered⟩ := exists_lowered hlower
  have hoperations := hlowered.straightLine.runOperations_of_ok hgraph hrun
  have hparse := hlowered.parseModule_eq hlawful
  rw [← hlowered.idCount] at hparse hcount
  refine ⟨_, hparse, (wellFormed_iff (covers_markAll operations) _ _).mpr hcount,
    fun order horder => ?_⟩
  have hsize : waveLaneCount options.waveSize ≤ 64 := by cases options.waveSize <;> decide
  have hwords := toNat_waveSizeWords options.waveSize
  have hwave64 : (waveSizeWords options.waveSize).toNat ≤ 64 := hwords.trans_le hsize
  have hvgprCount := requiredVgprCount_le (ProgramShape.markAll {} operations)
  rw [hlowered.module_eq] at horder ⊢
  refine foldlM_lanes hvgprCount (toNat_stateWordCount hvgprCount hwave64) hwave64 ?_ horder
  intro lane memory hlane hholds
  have hlane' : lane.val < (waveSizeWords options.waveSize).toNat := hlane
  refine exists_invoke hlawful hadds hwave64 hlane' hcount ?_ hlowered.probed ?_
    (by rw [hwave]; exact hlowered.size) ?_ hholds
    hoperations
  · intro vgpr hvgpr
    exact ProgramShape.lt_requiredVgprCount (mem_namedVgprs.mp hvgpr)
  · intro operation hoperation
    exact covers_markAll operations operation (List.mem_append_left _ hoperation)
  · rw [hwave]
    exact ⟨by omega, hexec lane.val (by omega)⟩

end Lowered

/-! ### A real target -/

/-- The numbers of the standard. -/
def standardEnumerants : Spirv.Enumerants where
  op
    | .opNop => 0
    | .opMemoryModel => 14
    | .opEntryPoint => 15
    | .opExecutionMode => 16
    | .opCapability => 17
    | .opTypeVoid => 19
    | .opTypeInt => 21
    | .opTypeFloat => 22
    | .opTypeRuntimeArray => 29
    | .opTypeStruct => 30
    | .opTypePointer => 32
    | .opTypeFunction => 33
    | .opConstant => 43
    | .opFunction => 54
    | .opFunctionEnd => 56
    | .opVariable => 59
    | .opLoad => 61
    | .opStore => 62
    | .opAccessChain => 65
    | .opDecorate => 71
    | .opMemberDecorate => 72
    | .opBitcast => 124
    | .opIAdd => 128
    | .opFAdd => 129
    | .opLabel => 248
    | .opReturn => 253
  decoration
    | .block => 2
    | .arrayStride => 6
    | .builtIn => 11
    | .binding => 33
    | .descriptorSet => 34
    | .offset => 35
  storageClass
    | .input => 1
    | .storageBuffer => 12
  capabilityShader := 1
  addressingModelLogical := 0
  memoryModelGLSL450 := 1
  executionModelGLCompute := 5
  executionModeLocalSize := 17
  builtInLocalInvocationIndex := 29
  functionControlNone := 0

theorem standardEnumerants_lawful : standardEnumerants.Lawful where
  op_injective := by
    have hfound : ∀ op, standardEnumerants.opOf (standardEnumerants.op op) = some op := by
      intro op
      cases op <;> decide
    intro op other h
    have hop := hfound op
    rw [h, hfound other, Option.some.injEq] at hop
    exact hop.symm
  op_lt op := by cases op <;> decide
  decoration_injective decoration other h := by
    cases decoration <;> cases other <;> first | rfl | cases h
  storageClass_injective storageClass other h := by
    cases storageClass <;> cases other <;> first | rfl | cases h

/-- The exact sum, and zero where there is none. -/
def exactAdd (a b : UInt32) : UInt32 := (exactNormalF32Sum a b).getD 0

theorem exactAdd_addsExactly : AddsExactly exactAdd := by
  intro a b sum ha hb hsum hvalue
  rw [exactAdd, exactNormalF32Sum_eq_some_iff.mpr ⟨ha, hb, hsum, hvalue⟩, Option.getD_some]

/-- **The vector probe preserves meaning exactly as long as its ids fit into 32 bits.** For every
program that is lowered for a wave of 32 or 64 lanes, and every wave with all of them active over
which the program runs to its end: the module is well formed, and its invocations in every order
leave in the buffer what the wave has in its registers, without an access outside the buffer, if and
only if the counter of the ids does not run over. -/
theorem lowerShaderIrToSpirvVectorProbe_preservesMeaning_iff {host : Host} {e : Spirv.Enumerants}
    (hlawful : e.Lawful) {fAdd : UInt32 → UInt32 → UInt32} (hadds : AddsExactly fAdd)
    {program : ShaderIrProgram} {options : SpirvVectorProbeOptions}
    {module : SpirvVectorProbeModule}
    (hlower : lowerShaderIrToSpirvVectorProbe host e program options = .ok module)
    {graph : ShaderControlFlowGraph} (hgraph : buildShaderControlFlowGraph host program = .ok graph)
    {wave wave' : ShaderWaveState} (hwave : wave.vector.waveSize = options.waveSize)
    (hexec : ∀ lane < waveLaneCount options.waveSize, wave.scalar.exec.toNat.testBit lane = true)
    {entryBlockIndex budget : ℕ} {execution : ShaderWaveProgramExecution}
    (hrun : executeShaderWaveProgram host program graph entryBlockIndex budget wave =
      (.ok execution, wave')) :
    PreservesMeaning e fAdd module wave.vector wave'.vector ↔ spirvIdCount program + 1 < 2 ^ 32 :=
  ⟨idCount_lt_of_preservesMeaning hlawful hlower,
    preservesMeaning_of_idCount_lt hlawful hadds hlower hgraph hwave hexec hrun⟩

/-- `v_mov_b32 v2, v1`, `v_add_f32 v3, v2, v0` and the end of the program. -/
def oracleProgram : ShaderIrProgram :=
  (lowerRdna2StreamToShaderIr Host.plentiful [0x7e040301, 0x06060102, 0xbf810000]).toOption.getD
    ⟨0, []⟩

/-- A wave of 32 lanes, all of them active, with one in every lane of every register. -/
def fullWave : ShaderWaveState where
  scalar := ⟨Vector.replicate _ 0, 0, 0, 0xffffffff, false⟩
  vector := ⟨.wave32, Vector.replicate _ (Vector.replicate _ 0x3f800000)⟩

/-- The module is well formed, and its invocations do what the wave does. -/
theorem lowerShaderIrToSpirvVectorProbe_preservesMeaning_oracle :
    ∃ module graph execution wave,
      lowerShaderIrToSpirvVectorProbe Host.plentiful standardEnumerants oracleProgram ⟨.wave32⟩ =
        .ok module ∧
      buildShaderControlFlowGraph Host.plentiful oracleProgram = .ok graph ∧
      executeShaderWaveProgram Host.plentiful oracleProgram graph 0 1 fullWave =
        (.ok execution, wave) ∧
      PreservesMeaning standardEnumerants exactAdd module fullWave.vector wave.vector := by
  have hlowers :
    (lowerShaderIrToSpirvVectorProbe Host.plentiful standardEnumerants oracleProgram
    ⟨.wave32⟩).toOption.any
      (fun _ => true) = true := by decide +kernel
  have hruns : (buildShaderControlFlowGraph Host.plentiful oracleProgram).toOption.any (fun graph =>
      (executeShaderWaveProgram Host.plentiful oracleProgram graph 0 1 fullWave).1.toOption.any
        fun _ => true) = true := by
    decide +kernel
  have hcount : spirvIdCount oracleProgram + 1 < 2 ^ 32 := by decide +kernel
  have hexec : ∀ lane < waveLaneCount .wave32, fullWave.scalar.exec.toNat.testBit lane =
    true := by decide
  obtain ⟨module, hmodule, -⟩ := exists_of_any hlowers
  obtain ⟨graph, hgraph, hrun⟩ := exists_of_any hruns
  obtain ⟨execution, hexecution, -⟩ := exists_of_any hrun
  rcases houtcome : executeShaderWaveProgram Host.plentiful oracleProgram graph 0 1 fullWave
    with ⟨result, wave⟩
  rw [houtcome] at hexecution
  dsimp only at hexecution
  subst hexecution
  exact ⟨module, graph, execution, wave, hmodule, hgraph, houtcome,
    (lowerShaderIrToSpirvVectorProbe_preservesMeaning_iff standardEnumerants_lawful
      exactAdd_addsExactly hmodule hgraph rfl hexec
      houtcome).mpr hcount⟩

/-! ### Ids that run over -/

/-- So many sums of the second register with itself, into the first. -/
def sumsProgram (count : ℕ) : ShaderIrProgram :=
  straightProgram (List.replicate count (.vectorAddF32 ⟨0⟩ ⟨1⟩ ⟨1⟩))

section Sums

variable {count : ℕ} {wave : ShaderWaveState}

theorem straight_sums (count : ℕ) :
    ∀ operation ∈ List.replicate count (ShaderIrOperation.vectorAddF32 ⟨0⟩ ⟨1⟩ ⟨1⟩),
      operation.endsBlock = false := by
  intro operation hoperation
  rw [List.eq_of_mem_replicate hoperation]
  rfl

/-- Where the second register has one in every lane, every sum is there, and the register stays. -/
theorem exists_runOperations_sums
    (hsize : wave.vector.waveSize = .wave32 ∨ wave.vector.waveSize = .wave64)
    (hones : ∀ lane, (wave.vector.vgpr ⟨1⟩).get lane = 0x3f800000) :
    ∃ wave', runOperations (List.replicate count (.vectorAddF32 ⟨0⟩ ⟨1⟩ ⟨1⟩)) wave =
      some wave' := by
  induction count generalizing wave with
  | zero => exact ⟨wave, rfl⟩
  | succ count ih =>
    rw [List.replicate_succ, runOperations]
    rcases @executeShaderVectorAddF32ExactOperation_laneWise wave.scalar wave.vector hsize ⟨0⟩ ⟨1⟩
      ⟨1⟩ with
      ⟨effect, after, value, hadd, -, hwrites, -⟩ | ⟨lane, -, -, hnone, -⟩
    · simp only [executeOperation, hadd]
      refine ih (by rw [hwrites.1]; exact hsize) fun lane => ?_
      have hafter := hwrites.2 ⟨1⟩ lane
      rw [if_neg fun hboth => absurd hboth.1 (by decide)] at hafter
      exact hafter.trans (hones lane)
    · have hsum : exactNormalF32Sum 0x3f800000 0x3f800000 = some 0x40000000 := by decide +kernel
      rw [laneSum, hones lane, hsum] at hnone
      cases hnone

theorem exists_lower_sums (count : ℕ) (e : Spirv.Enumerants) :
    ∃ module, lowerShaderIrToSpirvVectorProbe Host.plentiful e (sumsProgram count) ⟨.wave32⟩ =
      .ok module := by
  have hshape := (@validateProgramShape_eq_ok_iff
    (ProgramShape.markAll {} (List.replicate count (.vectorAddF32 ⟨0⟩ ⟨1⟩ ⟨1⟩)))
      (sumsProgram count)).mpr
    ⟨_, map_operation_straightEmissions 0 _, fun operation hoperation => by
      rw [List.eq_of_mem_replicate hoperation]
      trivial, rfl⟩
  refine ⟨emitVectorProbe e (sumsProgram count) 32
    (ProgramShape.markAll {} (List.replicate count (.vectorAddF32 ⟨0⟩ ⟨1⟩ ⟨1⟩))), ?_⟩
  rw [lowerShaderIrToSpirvVectorProbe, hshape]
  rfl

theorem le_spirvIdCount_sums (count : ℕ) : 15 + 6 * count ≤ spirvIdCount (sumsProgram count) := by
  have hids : ((sumsProgram count).emissions.map fun emission =>
    operationIdCount emission.operation) =
      (List.replicate count (ShaderIrOperation.vectorAddF32 ⟨0⟩ ⟨1⟩ ⟨1⟩) ++
        [ShaderIrOperation.endProgram]).map operationIdCount := by
    rw [← (straightLine_straightProgram (straight_sums count)).operations_eq, List.map_map]
    rfl
  rw [spirvIdCount, hids, List.map_append, List.sum_append, List.map_replicate,
    List.sum_replicate_nat, operationIdCount]
  omega

end Sums

/-- With enough sums the counter runs over, and ids are defined twice. -/
theorem lowerShaderIrToSpirvVectorProbe_idOverflow :
    ¬ ∀ (host : Host) (e : Spirv.Enumerants), e.Lawful → ∀ fAdd, AddsExactly fAdd →
      ∀ program options module,
      lowerShaderIrToSpirvVectorProbe host e program options = .ok module →
      ∀ graph, buildShaderControlFlowGraph host program = .ok graph →
        ∀ wave wave', wave.vector.waveSize = options.waveSize →
      (∀ lane < waveLaneCount options.waveSize, wave.scalar.exec.toNat.testBit lane = true) →
      ∀ entryBlockIndex budget execution,
        executeShaderWaveProgram host program graph entryBlockIndex budget wave =
          (.ok execution, wave') →
        PreservesMeaning e fAdd module wave.vector wave'.vector := by
  intro hclaim
  obtain ⟨count, hcount⟩ : ∃ count : ℕ, count = 715827880 := ⟨_, rfl⟩
  have hexec : ∀ lane < waveLaneCount .wave32, fullWave.scalar.exec.toNat.testBit lane =
    true := by decide
  obtain ⟨module, hmodule⟩ := exists_lower_sums count standardEnumerants
  obtain ⟨graph, hgraph⟩ :=
    exists_graph_straightProgram (fun site => (rfl : Host.plentiful.allocation site = none))
    (straight_sums count) (by rw [List.length_replicate, kMaxSize]; omega)
  have hones : ∀ lane, (fullWave.vector.vgpr ⟨1⟩).get lane = 0x3f800000 := by decide +kernel
  obtain ⟨wave, hoperations⟩ := @exists_runOperations_sums count fullWave (.inl rfl) hones
  obtain ⟨budget, execution, hrun⟩ :=
    (straightLine_straightProgram (straight_sums count)).ok_of_runOperations
      (fun site => rfl) hgraph hoperations
  have hmeaning :=
    hclaim Host.plentiful standardEnumerants standardEnumerants_lawful exactAdd exactAdd_addsExactly
    (sumsProgram count) ⟨.wave32⟩ module hmodule graph hgraph fullWave wave rfl hexec 0 budget
      execution hrun
  have hlt := idCount_lt_of_preservesMeaning standardEnumerants_lawful hmodule hmeaning
  have hle := le_spirvIdCount_sums count
  omega

end Astraea.Graphics
