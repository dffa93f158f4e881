import Astraea.Graphics.SpirvProbeWellFormed
import Astraea.Spirv.Semantics

/-!
# The globals of the vector probe

What the instructions in front of the function declare: the buffer with its words, the index of
the invocation, and for each register that the program names the number of its first word.
-/

namespace Astraea.Graphics

open Spirv (Instruction Op Globals Annotation declare)

variable {e : Spirv.Enumerants} {waveSize : UInt32} {shape : ProgramShape}
  {operations : List ShaderIrOperation} {g g' : Globals}

/-- The buffer is bound where the layout says. -/
def probeBinding : UInt32 × UInt32 := (kDescriptorSet, kBinding)

/-- The globals of a module. -/
structure ProbeGlobals (e : Spirv.Enumerants) (waveSize : UInt32) (shape : ProgramShape)
    (g : Globals) : Prop where
  entryPoint : g.entryPoint = some 13
  localSize : g.localSize = some [waveSize, 1, 1]
  isWord : g.IsWord 2
  isReal : g.IsReal 3
  arrayType : g.types 4 = some (.runtimeArray 2)
  structType : g.types 5 = some (.struct [4])
  pointerType : g.types 7 = some (.pointer (e.storageClass .storageBuffer) 2)
  stride : g.annotated e 4 none .arrayStride = some 4
  offset : g.annotated e 5 (some 0) .offset = some 0
  zero : g.values 10 = some (.word 0)
  buffer : g.values 11 = some (.pointer 5 (.buffer 0))
  index : g.values 12 = some (.pointer 2 .invocationIndex)
  bases : ∀ vgpr ∈ shape.namedVgprs,
    g.values (shape.baseConstantIds.get vgpr) = some (.word (UInt32.ofNat vgpr.val * waveSize))

/-! ### Annotations and types -/

/-- The globals behind the annotations. -/
def annotatedGlobals (e : Spirv.Enumerants) (waveSize : UInt32) : Globals where
  entryPoint := some 13
  localSize := some [waveSize, 1, 1]
  annotations :=
    [⟨4, none, e.decoration .arrayStride, [4]⟩, ⟨5, some 0, e.decoration .offset, [0]⟩,
      ⟨5, none, e.decoration .block, []⟩, ⟨11, none, e.decoration .descriptorSet, [0]⟩,
      ⟨11, none, e.decoration .binding, [0]⟩,
      ⟨12, none, e.decoration .builtIn, [e.builtInLocalInvocationIndex]⟩]

/-- The globals behind the types. -/
def typedGlobals (e : Spirv.Enumerants) (waveSize : UInt32) : Globals :=
  annotatedGlobals e waveSize
    |>.declareType 1 .void
    |>.declareType 2 (.int 32 0)
    |>.declareType 3 (.float 32)
    |>.declareType 4 (.runtimeArray 2)
    |>.declareType 5 (.struct [4])
    |>.declareType 6 (.pointer (e.storageClass .storageBuffer) 5)
    |>.declareType 7 (.pointer (e.storageClass .storageBuffer) 2)
    |>.declareType 8 (.pointer (e.storageClass .input) 2)
    |>.declareType 9 (.function 1 [])
    |>.declareValue 10 (.word 0)

theorem foldlM_annotationInstructions :
    (annotationInstructions e waveSize).foldlM (declare e probeBinding) {} =
      some (annotatedGlobals e waveSize) := by
  simp [annotationInstructions, declare, Globals.annotate, annotatedGlobals]

theorem foldlM_typeInstructions :
    (typeInstructions e).foldlM (declare e probeBinding) (annotatedGlobals e waveSize) =
      some (typedGlobals e waveSize) := by
  simp [typeInstructions, declare, typedGlobals, Globals.declareType, Globals.valueOf,
    Globals.IsWord]

/-! ### The constants of the registers -/

/-- The same but for values. -/
structure SameDeclarations (g g' : Globals) : Prop where
  entryPoint : g'.entryPoint = g.entryPoint
  localSize : g'.localSize = g.localSize
  annotations : g'.annotations = g.annotations
  types : g'.types = g.types

theorem SameDeclarations.refl (g : Globals) : SameDeclarations g g := ⟨rfl, rfl, rfl, rfl⟩

theorem SameDeclarations.trans {g'' : Globals} (h : SameDeclarations g g')
    (h' : SameDeclarations g' g'') :
    SameDeclarations g g'' :=
  ⟨h'.entryPoint.trans h.entryPoint, h'.localSize.trans h.localSize,
    h'.annotations.trans h.annotations, h'.types.trans h.types⟩

theorem sameDeclarations_declareValue (id : UInt32) (value : Spirv.Value) :
    SameDeclarations g (g.declareValue id value) :=
  ⟨rfl, rfl, rfl, rfl⟩

theorem SameDeclarations.annotated (h : SameDeclarations g g') (target : UInt32)
    (member : Option UInt32) (decoration : Spirv.Decoration) :
    g'.annotated e target member decoration = g.annotated e target member decoration := by
  rw [Globals.annotated, Globals.annotated, h.annotations]

/-- Constants with different ids get their values, and nothing else changes. -/
theorem exists_foldlM_baseConstants {baseConstantIds : VgprIds}
    {vgprs : List (Fin kShaderVectorGprCount)} (hword : g.IsWord 2)
    (hnodup : (vgprs.map baseConstantIds.get).Nodup) :
    ∃ g', (vgprs.map (baseConstantInstruction waveSize baseConstantIds)).foldlM
      (declare e probeBinding) g = some g' ∧
      SameDeclarations g g' ∧
      (∀ vgpr ∈ vgprs, g'.values (baseConstantIds.get vgpr) =
        some (.word (UInt32.ofNat vgpr.val * waveSize))) ∧
      ∀ id, id ∉ vgprs.map baseConstantIds.get → g'.values id = g.values id := by
  induction vgprs generalizing g with
  | nil => exact ⟨g, rfl, .refl g,
      fun _ hnothing => absurd hnothing List.not_mem_nil, fun _ _ => rfl⟩
  | cons vgpr vgprs ih =>
    rw [List.map_cons, List.nodup_cons] at hnodup
    have hdeclare : declare e probeBinding g
      (baseConstantInstruction waveSize baseConstantIds vgpr) =
        some (g.declareValue (baseConstantIds.get vgpr)
          (.word (UInt32.ofNat vgpr.val * waveSize))) := by
      simp [declare, baseConstantInstruction, Globals.valueOf, hword]
    obtain ⟨g', hrun, hsame, hvalues, hothers⟩ :=
      @ih (g.declareValue (baseConstantIds.get vgpr) (.word (UInt32.ofNat vgpr.val * waveSize)))
        hword hnodup.2
    refine ⟨g', ?_, (sameDeclarations_declareValue _ _).trans hsame, ?_, ?_⟩
    · rw [List.map_cons, List.foldlM_cons, hdeclare]
      exact hrun
    · intro other hother
      rcases List.mem_cons.mp hother with rfl | hother
      · rw [hothers _ hnodup.1]
        exact Function.update_self ..
      · exact hvalues other hother
    · intro id hid
      rw [List.map_cons, List.mem_cons, not_or] at hid
      rw [hothers id hid.2]
      exact Function.update_of_ne hid.1 ..

/-- The ids of the constants are different from one another and from those every module has. -/
theorem nodup_map_baseConstantIds (hcount : probeIdCount shape operations + 1 < 2 ^ 32) :
    (shape.namedVgprs.map shape.baseConstantIds.get).Nodup ∧
      ∀ id ∈ idRange 1 15, id ∉ shape.namedVgprs.map shape.baseConstantIds.get := by
  rw [probeIdCount] at hcount
  have hmap : shape.namedVgprs.map shape.baseConstantIds.get =
      idRange 16 shape.namedVgprs.length := by
    rw [← @resultIds_baseConstants 0 shape, Spirv.resultIds, List.filterMap_map,
      ← List.filterMap_eq_map]
    rfl
  rw [hmap]
  constructor
  · refine List.Nodup.map_on (fun a ha b hb heq => ?_) List.nodup_range'
    rw [List.mem_range'_1] at ha hb
    exact (idOf_inj (by omega) (by omega)).mp heq
  · intro id hid hbase
    obtain ⟨k, hpos, hk, rfl⟩ := mem_idRange.mp hid
    obtain ⟨l, hlow, hl, heq⟩ := mem_idRange.mp hbase
    have := (idOf_inj (by omega) (by omega)).mp heq
    omega

/-! ### The variables -/

theorem foldlM_variableInstructions (hlawful : e.Lawful)
    (h : SameDeclarations (typedGlobals e waveSize) g) :
    (variableInstructions e).foldlM (declare e probeBinding) g =
      some ((g.declareValue 11 (.pointer 5 (.buffer 0))).declareValue 12
        (.pointer 2 .invocationIndex)) := by
  have hbufferType : g.types 6 = some (.pointer (e.storageClass .storageBuffer) 5) := by
    rw [h.types]
    simp [typedGlobals, Globals.declareType, Globals.declareValue]
  have hindexType : g.types 8 = some (.pointer (e.storageClass .input) 2) := by
    rw [h.types]
    simp [typedGlobals, Globals.declareType, Globals.declareValue]
  have hset : ∀ g', SameDeclarations g g' → g'.annotated e 11 none .descriptorSet = some 0 := by
    intro g' h'
    rw [h'.annotated, h.annotated]
    simp [Globals.annotated, typedGlobals, Globals.declareType, Globals.declareValue,
      annotatedGlobals]
  have hbinding : ∀ g', SameDeclarations g g' → g'.annotated e 11 none .binding = some 0 := by
    intro g' h'
    rw [h'.annotated, h.annotated]
    simp [Globals.annotated, typedGlobals, Globals.declareType, Globals.declareValue,
      annotatedGlobals, hlawful.decoration_injective.eq_iff]
  have hbuiltIn : ∀ g', SameDeclarations g g' →
      g'.annotated e 12 none .builtIn = some e.builtInLocalInvocationIndex := by
    intro g' h'
    rw [h'.annotated, h.annotated]
    simp [Globals.annotated, typedGlobals, Globals.declareType, Globals.declareValue,
      annotatedGlobals]
  have hstorage : e.storageClass .input ≠ e.storageClass .storageBuffer := by
    intro heq
    cases hlawful.storageClass_injective heq
  have hsecond :=
    hbuiltIn (g.declareValue 11 (.pointer 5 (.buffer 0))) (sameDeclarations_declareValue _ _)
  simp only [variableInstructions, List.foldlM_cons, List.foldlM_nil, declare, hbufferType, if_pos,
    Globals.variablePlace, probeBinding, kDescriptorSet, kBinding, hset g (.refl g),
    hbinding g (.refl g), and_self, Option.map_some, Option.bind_eq_bind, Option.bind_some,
    Globals.declareValue, hindexType, if_neg hstorage]
  rw [Globals.declareValue] at hsecond
  rw [if_pos hsecond]
  rfl

/-! ### All together -/

theorem op_ne_of_mem_globalProbeInstructions {i : Instruction}
    (h : i ∈ globalProbeInstructions e waveSize shape) :
    i.op ≠ .opFunction := by
  simp only [globalProbeInstructions, List.mem_append] at h
  rcases h with ((h | h) | h) | h
  · simp only [annotationInstructions, List.mem_cons, List.not_mem_nil, or_false] at h
    rcases h with rfl | rfl | rfl | rfl | rfl | rfl | rfl | rfl | rfl | rfl <;> exact Op.noConfusion
  · simp only [typeInstructions, List.mem_cons, List.not_mem_nil, or_false] at h
    rcases h with rfl | rfl | rfl | rfl | rfl | rfl | rfl | rfl | rfl | rfl <;> exact Op.noConfusion
  · obtain ⟨vgpr, -, rfl⟩ := List.mem_map.mp h
    exact Op.noConfusion
  · rcases List.mem_pair.mp h with rfl | rfl <;> exact Op.noConfusion

theorem globalInstructions_probeInstructions :
    Spirv.globalInstructions (probeInstructions e waveSize shape operations) =
      globalProbeInstructions e waveSize shape := by
  rw [Spirv.globalInstructions, probeInstructions, List.takeWhile_append_of_pos,
    List.takeWhile_cons_of_neg, List.append_nil]
  · exact Bool.false_ne_true
  · intro i hi
    exact bne_iff_ne.mpr (op_ne_of_mem_globalProbeInstructions hi)

theorem functionInstructions_probeInstructions :
    Spirv.functionInstructions (probeInstructions e waveSize shape operations) 13 =
      functionProbeInstructions shape operations := by
  rw [Spirv.functionInstructions, probeInstructions, List.dropWhile_append_of_pos,
    List.dropWhile_cons_of_neg, List.tail_cons]
  · exact Bool.false_ne_true
  · intro i hi
    have hop := beq_eq_false_iff_ne.mpr (op_ne_of_mem_globalProbeInstructions hi)
    rw [hop, Bool.false_and]
    rfl

/-- **The globals of a module.** -/
theorem exists_globalsOf (hlawful : e.Lawful)
    (hcount : probeIdCount shape operations + 1 < 2 ^ 32) :
    ∃ g, Spirv.globalsOf e probeBinding (probeInstructions e waveSize shape operations) = some g ∧
      ProbeGlobals e waveSize shape g := by
  obtain ⟨hnodup, hfresh⟩ := @nodup_map_baseConstantIds shape operations hcount
  obtain ⟨g, hconstants, hsame, hbases, hothers⟩ := @exists_foldlM_baseConstants e waveSize
    (typedGlobals e waveSize) _ _
      (by simp [Globals.IsWord, typedGlobals, Globals.declareType, Globals.declareValue]) hnodup
  refine ⟨(g.declareValue 11 (.pointer 5 (.buffer 0))).declareValue 12
    (.pointer 2 .invocationIndex), ?_, ?_⟩
  · rw [Spirv.globalsOf, globalInstructions_probeInstructions, globalProbeInstructions,
      List.foldlM_append, List.foldlM_append, List.foldlM_append, foldlM_annotationInstructions]
    rw [Option.bind_eq_bind, Option.bind_some, foldlM_typeInstructions, Option.bind_some,
      hconstants, Option.bind_some, foldlM_variableInstructions hlawful hsame]
  · have htypes :
      ∀ id, ((g.declareValue 11 (.pointer 5 (.buffer 0))).declareValue 12
      (.pointer 2 .invocationIndex)).types id =
        (typedGlobals e waveSize).types id := fun id => congrFun hsame.types id
    have hannotated : ∀ target member decoration,
        ((g.declareValue 11 (.pointer 5 (.buffer 0))).declareValue 12
          (.pointer 2 .invocationIndex)).annotated e target member
          decoration = (typedGlobals e waveSize).annotated e target member decoration :=
            fun target member decoration =>
      (hsame.trans ((sameDeclarations_declareValue _ _).trans
        (sameDeclarations_declareValue _ _))).annotated target member
        decoration
    constructor
    case entryPoint => exact hsame.entryPoint
    case localSize => exact hsame.localSize
    case isWord =>
      rw [Globals.IsWord, htypes]
      simp [typedGlobals, Globals.declareType, Globals.declareValue]
    case isReal =>
      rw [Globals.IsReal, htypes]
      simp [typedGlobals, Globals.declareType, Globals.declareValue]
    case arrayType =>
      rw [htypes]
      simp [typedGlobals, Globals.declareType, Globals.declareValue]
    case structType =>
      rw [htypes]
      simp [typedGlobals, Globals.declareType, Globals.declareValue]
    case pointerType =>
      rw [htypes]
      simp [typedGlobals, Globals.declareType, Globals.declareValue]
    case stride =>
      rw [hannotated]
      simp [Globals.annotated, typedGlobals, Globals.declareType, Globals.declareValue,
        annotatedGlobals]
    case offset =>
      rw [hannotated]
      simp [Globals.annotated, typedGlobals, Globals.declareType, Globals.declareValue,
        annotatedGlobals]
    case zero =>
      have hzero := hothers 10 (hfresh 10 (by decide))
      simp [Globals.declareValue, hzero, typedGlobals]
    case buffer => simp [Globals.declareValue]
    case index => simp [Globals.declareValue]
    case bases =>
      intro vgpr hvgpr
      have hmem := List.mem_map_of_mem (f := shape.baseConstantIds.get) hvgpr
      have hne11 : shape.baseConstantIds.get vgpr ≠ 11 :=
        fun heq => hfresh 11 (by decide) (heq ▸ hmem)
      have hne12 : shape.baseConstantIds.get vgpr ≠ 12 :=
        fun heq => hfresh 12 (by decide) (heq ▸ hmem)
      rw [Globals.declareValue, Globals.declareValue]
      dsimp only
      rw [Function.update_of_ne hne12, Function.update_of_ne hne11]
      exact hbases vgpr hvgpr

end Astraea.Graphics
