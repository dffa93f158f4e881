import Astraea.Trace.Diff
import Astraea.Trace.Graphics

/-!
# What an event of the graphics pipeline says

An event describes an operation by its type and its stable fields. Two operations of the
shader IR have the same description only if they are the same, and every description is
accepted in a trace: `traceShaderIrV0_faithful`.

Of the operations of the graphics IR three have no description of their own. Their events
are all alike and have no type, and no trace with such an event is accepted. For the others
the same holds as for the shader IR, and the diff of two traces of command streams compares
the streams: `traceGraphicsIrV0_faithful_iff`.
-/

namespace Astraea.Trace

open Astraea.Base Astraea.Core Astraea.Graphics

/-! ### Fields that pass -/

theorem validUtf8_of_ascii {bytes : ByteString} (h : ∀ byte ∈ bytes, byte ≤ 0x7f) :
    validUtf8 bytes = true := by
  induction bytes with
  | nil => rfl
  | cons byte bytes ih =>
    rw [List.forall_mem_cons] at h
    rw [validUtf8.eq_def]
    simp only [h.1, if_true]
    exact ih h.2

theorem validUtf8_signedDecimal (n : ℤ) : validUtf8 (signedDecimal n) = true := by
  refine validUtf8_of_ascii ?_
  have hdigit : ∀ byte ∈ decimal n.natAbs, byte ≤ 0x7f := by
    intro byte hbyte
    have h := (isDigitByte_of_mem_decimal hbyte).2
    rw [UInt8.le_iff_toNat_le]
    exact h.trans (by decide)
  unfold signedDecimal
  split_ifs
  · exact List.forall_mem_cons.mpr ⟨by decide, hdigit⟩
  · exact hdigit

/-- What is left to check of fields is what they are called and what their texts are. -/
theorem validFields_of_names {fields : List TraceFieldV0} {names : List ByteString}
    (hnames : fields.map TraceFieldV0.name = names)
    (hidentifiers : ∀ name ∈ names, validIdentifier name = true) (hnodup : names.Nodup)
    (hvalues : ∀ field ∈ fields, validValue field.value = true) : ValidFields fields := by
  subst hnames
  exact ⟨fun field hfield => hidentifiers _ (List.mem_map_of_mem hfield), hvalues, hnodup⟩

/-- A trace without its events passes. -/
structure ValidFrame (trace : TraceDocumentV0) : Prop where
  run : ValidRun trace.run
  provenance : ValidProvenance trace.provenance
  diagnostics : ValidFields trace.diagnostics

/-- A trace with this event alone is accepted, whatever it is the trace of. -/
def Accepted (event : TraceEventV0) : Prop :=
  ∀ trace, ValidFrame trace → trace.events = [event] → ∃ trace', normalizeTraceV0 trace = .ok trace'

variable {trace : TraceDocumentV0}

section

variable (hframe : ValidFrame trace) (hincreasing : Increasing trace.events)
  (hevents : ∀ event ∈ trace.events, ValidEvent event)

include hframe hincreasing hevents

theorem ValidFrame.validTrace : ValidTrace trace :=
  ⟨hframe.run, hframe.provenance, hframe.diagnostics, hincreasing, hevents⟩

theorem ValidFrame.accepted : ∃ trace', normalizeTraceV0 trace = .ok trace' :=
  ⟨_, normalizeTraceV0_eq_ok.mpr ⟨hframe.validTrace hincreasing hevents, rfl⟩⟩

end

/-- A trace of a run of nothing. -/
def emptyTrace : TraceDocumentV0 where
  run := ⟨bytesOf "emulator", bytesOf "desktop", bytesOf "x86_64", none, none, none⟩
  provenance := ⟨bytesOf "emulator", ⟨bytesOf "astraea", bytesOf "1", none⟩, []⟩
  events := []
  diagnostics := []

theorem validFrame_emptyTrace (events : List TraceEventV0) :
    ValidFrame { emptyTrace with events := events } := by
  have h : ValidTrace emptyTrace := (validTrace_iff _).mpr (by decide)
  exact ⟨h.run, h.provenance, h.diagnostics⟩

theorem accepted_iff {event : TraceEventV0} : Accepted event ↔ ValidEvent event := by
  constructor
  · intro h
    obtain ⟨trace', htrace⟩ := h { emptyTrace with events := [event] } (validFrame_emptyTrace _) rfl
    exact (normalizeTraceV0_eq_ok.mp htrace).1.events event List.mem_cons_self
  · intro h trace hframe hevents
    refine hframe.accepted ?_ ?_
    · rw [hevents]
      exact List.pairwise_singleton _ _
    · rw [hevents]
      simpa using h

/-! ### Texts tell what they stand for -/

theorem shaderIrExportTargetText_inj {a b : ShaderIrExportTargetKind}
    (h : bytesOf (shaderIrExportTargetText a) = bytesOf (shaderIrExportTargetText b)) : a = b := by
  cases a <;> cases b <;> first | rfl | exact absurd h (by decide)

theorem shaderIrBranchConditionText_inj {a b : ShaderIrBranchCondition}
    (h : bytesOf (shaderIrBranchConditionText a) = bytesOf (shaderIrBranchConditionText b)) :
    a = b := by
  cases a <;> cases b <;> first | rfl | exact absurd h (by decide)

theorem shaderIrSpecialScalarSourceText_inj {a b : ShaderIrSpecialScalarSourceKind32}
    (h : bytesOf (shaderIrSpecialScalarSourceText a) =
    bytesOf (shaderIrSpecialScalarSourceText b)) : a = b := by
  cases a <;> cases b <;> first | rfl | exact absurd h (by decide)

theorem shaderIrReasonText_inj {a b : ShaderIrUnsupportedReason}
    (h : bytesOf (shaderIrReasonText a) = bytesOf (shaderIrReasonText b)) : a = b := by
  cases a <;> cases b <;> first | rfl | exact absurd h (by decide)

/-! ### Operations of the shader IR -/

theorem exists_toList_four {α : Type} (v : Vector α 4) : ∃ a b c d, v.toList = [a, b, c, d] := by
  have hlength : v.toList.length = 4 := by simp
  match v.toList, hlength with
  | [a, b, c, d], _ => exact ⟨a, b, c, d, rfl⟩

/-- The names of the fields of an operation. -/
def shaderIrNames : ShaderIrOperation → List String
  | .nop _ => ["repeat_count"]
  | .endProgram => []
  | .relativeBranch _ => ["byte_delta"]
  | .conditionalRelativeBranch _ _ => ["condition", "byte_delta"]
  | .workgroupBarrier => []
  | .waitCount _ _ _ => ["vmcnt", "expcnt", "lgkmcnt"]
  | .scalarMove32 _ (.sgpr _) => ["destination_sgpr", "source_kind", "source_sgpr"]
  | .scalarMove32 _ (.special _) => ["destination_sgpr", "source_kind", "source_special_register"]
  | .scalarMove32 _ (.inlineInteger _) =>
    ["destination_sgpr", "source_kind", "source_inline_integer"]
  | .scalarMove32 _ (.literal _) => ["destination_sgpr", "source_kind", "source_literal_bits"]
  | .scalarMove64 _ _ => ["destination_sgpr_pair_start", "source_sgpr_pair_start"]
  | .vectorMove32 _ _ => ["destination_vgpr", "source_vgpr"]
  | .vectorAddF32 _ _ _ => ["destination_vgpr", "source0_vgpr", "source1_vgpr"]
  | .exporting _ =>
    ["target_kind", "target_index", "enable_mask", "compressed", "done", "valid_mask",
      "source0_vgpr", "source1_vgpr", "source2_vgpr", "source3_vgpr"]
  | .unsupported _ => ["reason"]

theorem sourceVgprFields_four (a b c d : UInt8) :
    sourceVgprFields [a, b, c, d] =
      [u64Field (bytesOf "source0_vgpr") a.toUInt64, u64Field (bytesOf "source1_vgpr") b.toUInt64,
        u64Field (bytesOf "source2_vgpr") c.toUInt64,
          u64Field (bytesOf "source3_vgpr") d.toUInt64] := by
  have h0 : bytesOf "source" ++ decimal 0 ++ bytesOf "_vgpr" = bytesOf "source0_vgpr" := by decide
  have h1 : bytesOf "source" ++ decimal 1 ++ bytesOf "_vgpr" = bytesOf "source1_vgpr" := by decide
  have h2 : bytesOf "source" ++ decimal 2 ++ bytesOf "_vgpr" = bytesOf "source2_vgpr" := by decide
  have h3 : bytesOf "source" ++ decimal 3 ++ bytesOf "_vgpr" = bytesOf "source3_vgpr" := by decide
  simp only [sourceVgprFields, List.mapIdx_cons, List.mapIdx_nil, Nat.zero_add, Nat.reduceAdd, h0,
    h1, h2, h3]

theorem sourceVgprFields_sources (vgprs : Vector ShaderIrVgpr 4) :
    ∃ a b c d : ShaderIrVgpr, vgprs.toList = [a, b, c, d] ∧
      sourceVgprFields (vgprs.toList.map ShaderIrVgpr.index) =
        [u64Field (bytesOf "source0_vgpr") a.index.toUInt64,
          u64Field (bytesOf "source1_vgpr") b.index.toUInt64,
          u64Field (bytesOf "source2_vgpr") c.index.toUInt64,
          u64Field (bytesOf "source3_vgpr") d.index.toUInt64] := by
  obtain ⟨a, b, c, d, h⟩ := exists_toList_four vgprs
  refine ⟨a, b, c, d, h, ?_⟩
  rw [h, List.map_cons, List.map_cons, List.map_cons, List.map_cons, List.map_nil,
    sourceVgprFields_four]

section

variable (operation : ShaderIrOperation)

theorem map_name_shaderIrStable :
    (shaderIrStable operation).map TraceFieldV0.name = (shaderIrNames operation).map bytesOf := by
  cases operation with
  | scalarMove32 destination source => cases source <;> rfl
  | exporting fields =>
    obtain ⟨a, b, c, d, -, hsources⟩ := sourceVgprFields_sources fields.sources
    rw [shaderIrStable, exportFields, hsources]
    rfl
  | _ => rfl

theorem validIdentifier_shaderIrNames :
    ∀ name ∈ (shaderIrNames operation).map bytesOf, validIdentifier name = true := by
  cases operation with
  | scalarMove32 destination source => cases source <;> simp only [shaderIrNames] <;> decide
  | _ =>
    simp only [shaderIrNames]
    decide

theorem nodup_shaderIrNames : ((shaderIrNames operation).map bytesOf).Nodup := by
  cases operation with
  | scalarMove32 destination source => cases source <;> simp only [shaderIrNames] <;> decide
  | _ =>
    simp only [shaderIrNames]
    decide

theorem validValue_shaderIrStable :
    ∀ field ∈ shaderIrStable operation, validValue field.value = true := by
  cases operation with
  | conditionalRelativeBranch condition byteDelta =>
    have hcondition : validUtf8 (bytesOf (shaderIrBranchConditionText condition)) =
      true := by cases condition <;> decide
    simp [shaderIrStable, textField, validValue, hcondition, validUtf8_signedDecimal]
  | scalarMove32 destination source =>
    have hkinds : ["sgpr", "special_register", "inline_integer", "literal"].all fun kind =>
      validUtf8 (bytesOf kind) := by decide
    simp only [List.all_cons, List.all_nil, Bool.and_true, Bool.and_eq_true] at hkinds
    cases source with
    | special kind =>
      have hkind : validUtf8 (bytesOf (shaderIrSpecialScalarSourceText kind)) =
        true := by cases kind <;> decide
      simp [shaderIrStable, scalarSourceFields, u64Field, textField, validValue, hkinds, hkind]
    | _ => simp [shaderIrStable, scalarSourceFields, u64Field, textField, validValue, hkinds,
        validUtf8_signedDecimal]
  | exporting fields =>
    obtain ⟨a, b, c, d, -, hsources⟩ := sourceVgprFields_sources fields.sources
    have hkind : validUtf8 (bytesOf (shaderIrExportTargetText fields.targetKind)) = true := by
      cases fields.targetKind <;> decide
    simp [shaderIrStable, exportFields, hsources, u64Field, textField, flagField, validValue, hkind]
  | unsupported reason =>
    have hreason : validUtf8 (bytesOf (shaderIrReasonText reason)) =
      true := by cases reason <;> decide
    simp [shaderIrStable, textField, validValue, hreason]
  | _ => simp [shaderIrStable, u64Field, textField, validValue, validUtf8_signedDecimal]

theorem validFields_shaderIrStable : ValidFields (shaderIrStable operation) :=
  validFields_of_names (map_name_shaderIrStable operation) (validIdentifier_shaderIrNames operation)
    (nodup_shaderIrNames operation) (validValue_shaderIrStable operation)

end

/-- Equal sets of fields with the same names are equal lists. -/
theorem shaderIrStable_eq_of_mem {a b : ShaderIrOperation}
    (hnames : shaderIrNames a = shaderIrNames b)
    (hmem : ∀ field, field ∈ shaderIrStable a ↔ field ∈ shaderIrStable b) :
    shaderIrStable a = shaderIrStable b := by
  refine eq_of_map_eq_of_mem ?_ (validFields_shaderIrStable b).nodup fun field => (hmem field).mp
  rw [map_name_shaderIrStable, map_name_shaderIrStable, hnames]

/-- The type and the names of the fields tell operations of different kinds apart. -/
theorem shaderIrNames_eq_of_type {a b : ShaderIrOperation}
    (htype : bytesOf (shaderIrEventType a) = bytesOf (shaderIrEventType b))
    (hmem : ∀ field, field ∈ shaderIrStable a ↔ field ∈ shaderIrStable b) :
    shaderIrNames a = shaderIrNames b := by
  have hnames : ∀ name ∈ (shaderIrNames a).map bytesOf, name ∈ (shaderIrNames b).map bytesOf := by
    rw [← map_name_shaderIrStable, ← map_name_shaderIrStable]
    intro name hname
    obtain ⟨field, hfield, rfl⟩ := List.mem_map.mp hname
    exact List.mem_map_of_mem ((hmem field).mp hfield)
  clear hmem
  cases a <;> cases b <;> first
    | rfl
    | (simp only [shaderIrEventType] at htype; exact absurd htype (by decide))
    | skip
  rename_i _ source _ source'
  cases source <;> cases source' <;> first
    | rfl
    | (simp only [shaderIrNames] at hnames; exact absurd hnames (by decide))

theorem u64Field_inj {name name' : ByteString} {value value' : UInt64} :
    u64Field name value = u64Field name' value' ↔ name = name' ∧ value = value' := by
  simp [u64Field]

theorem textField_inj {name name' value value' : ByteString} :
    textField name value = textField name' value' ↔ name = name' ∧ value = value' := by
  simp [textField]

theorem flagField_inj {name name' : ByteString} {flag flag' : Bool} :
    flagField name flag = flagField name' flag' ↔ name = name' ∧ flag = flag' := by
  cases flag <;> cases flag' <;> simp [flagField, u64Field]

theorem signedDecimal_toInt_inj {a b : Int32} (h : signedDecimal a.toInt = signedDecimal b.toInt) :
    a = b :=
  Int32.toInt_inj.mp (signedDecimal_inj h)

theorem scalarSourceFields_inj {a b : ShaderIrScalarSource32}
    (h : scalarSourceFields a = scalarSourceFields b) : a = b := by
  cases a <;> cases b <;>
    simp only [scalarSourceFields, List.cons.injEq, u64Field_inj, textField_inj, UInt8.toUInt64_inj,
      UInt32.toUInt64_inj, true_and, and_true] at h <;>
    try exact absurd h.1 (by decide)
  case sgpr.sgpr register register' =>
    cases register
    cases register'
    exact congrArg _ (congrArg _ h)
  case special.special kind kind' => rw [shaderIrSpecialScalarSourceText_inj h]
  case inlineInteger.inlineInteger value value' => rw [signedDecimal_toInt_inj h]
  case literal.literal bits bits' => rw [h]

theorem exportFields_inj {a b : ShaderIrExport} (h : exportFields a = exportFields b) : a = b := by
  obtain ⟨a0, a1, a2, a3, ha, hasources⟩ := sourceVgprFields_sources a.sources
  obtain ⟨b0, b1, b2, b3, hb, hbsources⟩ := sourceVgprFields_sources b.sources
  rw [exportFields, exportFields, hasources, hbsources] at h
  simp only [List.cons_append, List.nil_append, List.cons.injEq, u64Field_inj, textField_inj,
    flagField_inj, UInt8.toUInt64_inj, true_and, and_true] at h
  obtain ⟨hkind, hindex, hmask, hcompressed, hdone, hvalid, h0, h1, h2, h3⟩ := h
  have hsources : a.sources = b.sources := by
    rw [← Vector.toList_inj, ha, hb]
    simp only [List.cons.injEq, and_true]
    exact ⟨ShaderIrVgpr.ext h0, ShaderIrVgpr.ext h1, ShaderIrVgpr.ext h2, ShaderIrVgpr.ext h3⟩
  exact ShaderIrExport.ext (shaderIrExportTargetText_inj hkind) hindex hmask hcompressed hdone
    hvalid hsources

/-- **The type and the fields of an operation tell which it is.** -/
theorem shaderIrOperation_eq {a b : ShaderIrOperation}
    (htype : bytesOf (shaderIrEventType a) = bytesOf (shaderIrEventType b))
    (hstable : shaderIrStable a = shaderIrStable b) : a = b := by
  cases a <;> cases b
    <;> try (simp only [shaderIrEventType] at htype; exact absurd htype (by decide))
  all_goals simp only [shaderIrStable, List.cons.injEq, u64Field_inj, textField_inj,
    UInt8.toUInt64_inj, true_and, and_true] at hstable
  case nop.nop => rw [hstable]
  case endProgram.endProgram => rfl
  case relativeBranch.relativeBranch => rw [signedDecimal_toInt_inj hstable]
  case conditionalRelativeBranch.conditionalRelativeBranch =>
    rw [shaderIrBranchConditionText_inj hstable.1, signedDecimal_toInt_inj hstable.2]
  case workgroupBarrier.workgroupBarrier => rfl
  case waitCount.waitCount => rw [hstable.1, hstable.2.1, hstable.2.2]
  case scalarMove32.scalarMove32 =>
    rw [ShaderIrSgpr.ext hstable.1, scalarSourceFields_inj hstable.2]
  case scalarMove64.scalarMove64 =>
    rw [ShaderIrSgprPair.ext hstable.1, ShaderIrSgprPair.ext hstable.2]
  case vectorMove32.vectorMove32 => rw [ShaderIrVgpr.ext hstable.1, ShaderIrVgpr.ext hstable.2]
  case vectorAddF32.vectorAddF32 =>
    rw [ShaderIrVgpr.ext hstable.1, ShaderIrVgpr.ext hstable.2.1, ShaderIrVgpr.ext hstable.2.2]
  case exporting.exporting => rw [exportFields_inj hstable]
  case unsupported.unsupported => rw [shaderIrReasonText_inj hstable]

/-! ### Events of the shader IR -/

theorem validEvent_traceShaderIr {host : Host} {eventId : UInt64} {emission : ShaderIrEmission}
    {event : TraceEventV0} (h : traceShaderIrV0 host eventId emission = .ok event) :
    ValidEvent event := by
  obtain ⟨-, rfl⟩ := allocateEvent_eq_ok.mp h
  have hsubsystem : validIdentifier (bytesOf "shader.ir") = true := by decide
  have htype : validIdentifier (bytesOf (shaderIrEventType emission.operation)) = true := by
    cases emission.operation <;> simp only [shaderIrEventType] <;> decide
  refine ⟨hsubsystem, htype, by simp, validFields_shaderIrStable _, ?_⟩
  exact @validFields_of_names _ (["source_byte_offset", "source_raw_encoding"].map bytesOf) rfl
    (by decide) (by decide)
    (by simp [u64Field, bytesField, validValue])

/-- **Events of the shader IR are a faithful identity.** With the same id they have the same type
and the same set of fields exactly when the operations are the same; the names of their fields are
distinct; and every trace of such events, with valid metadata and increasing ids, is accepted. -/
theorem traceShaderIrV0_faithful {host : Host} {eventId : UInt64}
    (hhost : host.allocation (.graphicsTraceEvent eventId) = none) (a b : ShaderIrEmission) :
    ∃ eventA eventB, traceShaderIrV0 host eventId a = .ok eventA ∧
      traceShaderIrV0 host eventId b = .ok eventB ∧
      ((eventA.type = eventB.type ∧ ∀ field, field ∈ eventA.stable ↔ field ∈ eventB.stable) ↔
        shaderIrSemanticallyEqual a b = true) ∧
      (eventA.stable.map TraceFieldV0.name).Nodup ∧ Accepted eventA ∧
      ∀ trace, ValidFrame trace → Increasing trace.events →
        (∀ event ∈ trace.events, ∃ emission, traceShaderIrV0 host event.id emission = .ok event) →
        ∃ trace', normalizeTraceV0 trace = .ok trace' := by
  refine ⟨_, _, allocateEvent_eq_ok.mpr ⟨hhost, rfl⟩, allocateEvent_eq_ok.mpr ⟨hhost, rfl⟩, ?_, ?_,
    ?_, ?_⟩
  · rw [shaderIrSemanticallyEqual, decide_eq_true_eq]
    constructor
    · rintro ⟨htype, hfields⟩
      exact shaderIrOperation_eq htype
        (shaderIrStable_eq_of_mem (shaderIrNames_eq_of_type htype hfields) hfields)
    · intro h
      simp only [h, implies_true, and_self]
  · exact (validFields_shaderIrStable a.operation).nodup
  · exact accepted_iff.mpr
      (@validEvent_traceShaderIr host eventId a _ (allocateEvent_eq_ok.mpr ⟨hhost, rfl⟩))
  · intro trace hframe hincreasing htraced
    refine hframe.accepted hincreasing ?_
    intro event hevent
    obtain ⟨emission, hemission⟩ := htraced event hevent
    exact validEvent_traceShaderIr hemission

/-- Two branches that part in the sign of their distance are traced as two events. -/
theorem traceShaderIrV0_faithful_branches :
    ∃ eventA eventB,
      traceShaderIrV0 Host.plentiful 1 ⟨.relativeBranch 4, decodeSopp 0 0xbf820000⟩ = .ok eventA ∧
      traceShaderIrV0 Host.plentiful 1 ⟨.relativeBranch (-4), decodeSopp 0 0xbf82fffe⟩ =
        .ok eventB ∧
      Accepted eventA ∧ ¬ (eventA.type = eventB.type ∧
        ∀ field, field ∈ eventA.stable ↔ field ∈ eventB.stable) := by
  obtain ⟨eventA, eventB, hA, hB, hidentity, -, haccepted, -⟩ :=
    traceShaderIrV0_faithful (rfl : Host.plentiful.allocation (.graphicsTraceEvent 1) = none)
      ⟨.relativeBranch 4, decodeSopp 0 0xbf820000⟩ ⟨.relativeBranch (-4), decodeSopp 0 0xbf82fffe⟩
  refine ⟨eventA, eventB, hA, hB, haccepted, ?_⟩
  rw [hidentity]
  decide

/-! ### Operations of the graphics IR -/

/-- An operation `trace_graphics_ir_v0` asks for. -/
def isDescribed : GraphicsIrOperation → Bool
  | .unsupported _ | .shaderRegisterWriteRange _ _ | .contextRegisterWriteRange _
      _ | .gpuMemoryWrite _ _ => true
  | .userConfigRegisterWriteRange _ _ | .setInstanceCount _ | .drawIndexAuto _ _ => false

theorem bytesField_inj {name name' : ByteString} {value value' : List UInt8} :
    bytesField name value = bytesField name' value' ↔ name = name' ∧ value = value' := by
  simp [bytesField]

theorem graphicsIrDwordValueBytes_inj {values values' : List UInt32}
    (h : graphicsIrDwordValueBytes values = graphicsIrDwordValueBytes values') :
    values = values' := by
  have hword : ∀ word word' : UInt32, (bytesOfWord word).toList = (bytesOfWord word').toList →
      word = word' := by
    intro word word' hword
    rw [toList_bytesOfWord, toList_bytesOfWord] at hword
    have hlt : ∀ word : UInt32, word.toNat < 256 ^ 4 := UInt32.toNat_lt
    exact UInt32.toNat_inj.mp ((leBytes_inj (hlt word) (hlt word')).mp hword)
  have hlength : ∀ word : UInt32, (bytesOfWord word).toList.length = 4 := fun word => by simp
  unfold graphicsIrDwordValueBytes at h
  induction values generalizing values' with
  | nil =>
    cases values' with
    | nil => rfl
    | cons value' values' =>
      have := congrArg List.length h
      simp [hlength] at this
      omega
  | cons value values ih =>
    cases values' with
    | nil =>
      have := congrArg List.length h
      simp [hlength] at this
    | cons value' values' =>
      rw [List.flatMap_cons, List.flatMap_cons] at h
      obtain ⟨hhead, htail⟩ := List.append_inj h ((hlength value).trans (hlength value').symm)
      rw [hword _ _ hhead, ih htail]

/-- The names of the fields of an operation. -/
def graphicsIrNames : GraphicsIrOperation → List String
  | .unsupported _ => ["reason"]
  | .shaderRegisterWriteRange _ _ | .contextRegisterWriteRange _ _ =>
    ["start_offset", "value_count", "value_bits"]
  | .gpuMemoryWrite _ _ => ["destination_gpu_address", "value_count", "value_bits"]
  | .userConfigRegisterWriteRange _ _ | .setInstanceCount _ | .drawIndexAuto _ _ => []

theorem map_name_graphicsIrStable (operation : GraphicsIrOperation) :
    (graphicsIrStable operation).map TraceFieldV0.name =
      (graphicsIrNames operation).map bytesOf := by
  cases operation <;> rfl

theorem validFields_graphicsIrStable (operation : GraphicsIrOperation) :
    ValidFields (graphicsIrStable operation) := by
  refine validFields_of_names (map_name_graphicsIrStable operation) ?_ ?_ ?_
  · cases operation <;> simp only [graphicsIrNames] <;> decide
  · cases operation <;> simp only [graphicsIrNames] <;> decide
  · cases operation with
    | unsupported reason =>
      have hreason : validUtf8 (bytesOf (graphicsIrReasonText reason)) = true := by
        cases reason
        decide
      simp [graphicsIrStable, textField, validValue, hreason]
    | _ => simp [graphicsIrStable, registerWriteRangeFields, u64Field, bytesField, validValue]

/-- The type and the set of fields of an operation that is described tell which it is. -/
theorem graphicsIrOperation_eq {a b : GraphicsIrOperation} (ha : isDescribed a = true)
    (hb : isDescribed b = true)
    (htype : bytesOf (graphicsIrEventType a) = bytesOf (graphicsIrEventType b))
    (hmem : ∀ field, field ∈ graphicsIrStable a ↔ field ∈ graphicsIrStable b) : a = b := by
  have hstable : graphicsIrNames a = graphicsIrNames b →
      graphicsIrStable a = graphicsIrStable b := by
    intro hnames
    refine eq_of_map_eq_of_mem ?_ (validFields_graphicsIrStable b).nodup fun field =>
      (hmem field).mp
    rw [map_name_graphicsIrStable, map_name_graphicsIrStable, hnames]
  cases a <;> cases b <;>
    first
      | (cases ha; done)
      | (cases hb; done)
      | (simp only [graphicsIrEventType] at htype; exact absurd htype (by decide))
      | replace hstable := hstable rfl
  all_goals simp only [graphicsIrStable, registerWriteRangeFields, List.cons.injEq, u64Field_inj,
    bytesField_inj, UInt16.toUInt64_inj, true_and, and_true] at hstable
  case unsupported.unsupported reason reason' =>
    cases reason
    cases reason'
    rfl
  all_goals rw [hstable.1, graphicsIrDwordValueBytes_inj hstable.2.2]

theorem validIdentifier_graphicsIrEventType (operation : GraphicsIrOperation) :
    validIdentifier (bytesOf (graphicsIrEventType operation)) = isDescribed operation := by
  cases operation <;> simp only [graphicsIrEventType, isDescribed] <;> decide

/-! ### Events of the graphics IR -/

section Events

variable {host : Host} {eventId : UInt64} {emission a b : GraphicsIrEmission}
  {event eventA eventB : TraceEventV0}

theorem validEvent_traceGraphicsIr (h : traceGraphicsIrV0 host eventId emission = .ok event) :
    ValidEvent event ↔ isDescribed emission.operation = true := by
  obtain ⟨-, rfl⟩ := allocateEvent_eq_ok.mp h
  rw [← validIdentifier_graphicsIrEventType]
  constructor
  · intro hvalid
    exact hvalid.type
  · intro htype
    have hsubsystem : validIdentifier (bytesOf "graphics.ir") = true := by decide
    refine ⟨hsubsystem, htype, by simp, validFields_graphicsIrStable _, ?_⟩
    exact @validFields_of_names _
      (["source_raw_words", "source_word_count", "source_word_offset"].map bytesOf) rfl (by decide)
      (by decide) (by simp [u64Field, bytesField, validValue])

theorem exists_traceGraphicsIr (hhost : host.allocation (.graphicsTraceEvent eventId) = none)
    (emission : GraphicsIrEmission) :
    ∃ event, traceGraphicsIrV0 host eventId emission = .ok event :=
  ⟨_, allocateEvent_eq_ok.mpr ⟨hhost, rfl⟩⟩

/-- Two events say the same. -/
def SameDescription (left right : TraceEventV0) : Prop :=
  left.subsystem = right.subsystem ∧ left.type = right.type ∧
    ∀ field, field ∈ left.stable ↔ field ∈ right.stable

section

variable (hA : traceGraphicsIrV0 host eventId a = .ok eventA)
  (hB : traceGraphicsIrV0 host eventId b = .ok eventB)

include hA hB

theorem sameDescription_iff (ha : isDescribed a.operation = true)
    (hb : isDescribed b.operation = true) :
    SameDescription eventA eventB ↔ graphicsIrSemanticallyEqual a b = true := by
  obtain ⟨-, rfl⟩ := allocateEvent_eq_ok.mp hA
  obtain ⟨-, rfl⟩ := allocateEvent_eq_ok.mp hB
  rw [graphicsIrSemanticallyEqual, decide_eq_true_eq]
  constructor
  · rintro ⟨-, htype, hfields⟩
    exact graphicsIrOperation_eq ha hb htype hfields
  · intro h
    simp only [SameDescription, h, implies_true, and_self]

/-- **Which events of the graphics IR are a faithful identity**: those of operations that are
described. -/
theorem faithful_pair_iff :
    (SameDescription eventA eventB ↔ graphicsIrSemanticallyEqual a b = true) ∧ Accepted eventA ∧
    Accepted eventB ↔
      isDescribed a.operation = true ∧ isDescribed b.operation = true := by
  rw [accepted_iff, accepted_iff, validEvent_traceGraphicsIr hA, validEvent_traceGraphicsIr hB]
  constructor
  · rintro ⟨-, h⟩
    exact h
  · intro h
    exact ⟨sameDescription_iff hA hB h.1 h.2, h⟩

end

end Events

/-! ### Traces of command streams -/

/-- A trace of a stream of emissions, with one event for each, where the event at an index has the
id that `numbering` gives the index. -/
structure StreamTrace (host : Host) (numbering : ℕ → UInt64) (emissions : List GraphicsIrEmission)
    (trace : TraceDocumentV0) :
    Prop extends ValidFrame trace where
  increasing : Increasing trace.events
  events : List.Forall₂ (fun emission event => traceGraphicsIrV0 host event.id emission = .ok event)
    emissions trace.events
  ids : ∀ (index : ℕ) (event : TraceEventV0), trace.events[index]? = some event →
    event.id = numbering index

/-- A policy without rules. -/
def plainPolicy (compareEventIds : Bool) : TraceDiffPolicyV0 := ⟨compareEventIds, []⟩

theorem eventEquivalent_plainPolicy {compareEventIds : Bool} {left right : TraceEventV0}
    (hid : left.id = right.id) (hguest : left.guest = right.guest) :
    EventEquivalent (plainPolicy compareEventIds) left right ↔ SameDescription left right := by
  have hall : ∀ (event : TraceEventV0) (fields : List TraceFieldV0),
      comparedFields (plainPolicy compareEventIds) event fields = fields := by
    intro event fields
    simp [comparedFields, fieldIgnored, plainPolicy]
  constructor
  · rintro ⟨hsubsystem, htype, -, -, hfields⟩
    simp only [hall] at hfields
    exact ⟨hsubsystem, htype, hfields⟩
  · rintro ⟨hsubsystem, htype, hfields⟩
    refine ⟨hsubsystem, htype, hguest, fun _ => hid, ?_⟩
    simpa only [hall] using hfields

section Streams

variable {host : Host} {numbering : ℕ → UInt64} {as bs : List GraphicsIrEmission}
  {left right : TraceDocumentV0}

theorem StreamTrace.accepted_iff (h : StreamTrace host numbering as left) :
    (∀ event ∈ left.events, Accepted event) ↔ ∀ a ∈ as, isDescribed a.operation = true := by
  constructor
  · intro haccepted a ha
    obtain ⟨event, hevent, htraced⟩ := (exists_mem_of_forall₂ h.events).1 a ha
    exact (validEvent_traceGraphicsIr htraced).mp (Trace.accepted_iff.mp (haccepted event hevent))
  · intro hdescribed event hevent
    obtain ⟨emission, hemission, htraced⟩ := (exists_mem_of_forall₂ h.events).2 event hevent
    exact Trace.accepted_iff.mpr
      ((validEvent_traceGraphicsIr htraced).mpr (hdescribed emission hemission))

theorem StreamTrace.validTrace (h : StreamTrace host numbering as left)
    (hdescribed : ∀ a ∈ as, isDescribed a.operation = true) :
    ValidTrace left :=
  h.toValidFrame.validTrace h.increasing fun event hevent =>
    Trace.accepted_iff.mp (h.accepted_iff.mpr hdescribed event hevent)

/-- Streams of described operations: events at one index are the same exactly when the operations
are. -/
theorem forall₂_streams {compareEventIds : Bool} {leftEvents rightEvents : List TraceEventV0}
    (hleft : List.Forall₂ (fun emission event => traceGraphicsIrV0 host event.id emission =
      .ok event) as leftEvents)
    (hright : List.Forall₂ (fun emission event => traceGraphicsIrV0 host event.id emission =
      .ok event) bs rightEvents)
    (hids : ∀ (index : ℕ) (l r : TraceEventV0), leftEvents[index]? = some l →
      rightEvents[index]? = some r → l.id = r.id) (has : ∀ a ∈ as, isDescribed a.operation = true)
    (hbs : ∀ b ∈ bs, isDescribed b.operation = true) :
    List.Forall₂ (EventEquivalent (plainPolicy compareEventIds)) leftEvents rightEvents ↔
      List.Forall₂ (fun a b => graphicsIrSemanticallyEqual a b = true) as bs := by
  induction hleft generalizing bs rightEvents with
  | nil =>
    rw [List.forall₂_nil_left_iff, List.forall₂_nil_left_iff]
    cases hright <;> simp
  | cons hevent _ ih =>
    cases hright with
    | nil => simp
    | cons hevent' hright =>
      rw [List.forall_mem_cons] at has hbs
      have hid := hids 0 _ _ rfl rfl
      rw [List.forall₂_cons, List.forall₂_cons,
        ih hright (fun index => hids (index + 1)) has.2 hbs.2]
      have hguest : ∀ {eventId : UInt64} {emission : GraphicsIrEmission} {event : TraceEventV0},
          traceGraphicsIrV0 host eventId emission = .ok event → event.guest = none := by
        intro eventId emission event htraced
        obtain ⟨-, rfl⟩ := allocateEvent_eq_ok.mp htraced
        rfl
      rw [eventEquivalent_plainPolicy hid ((hguest hevent).trans (hguest hevent').symm)]
      rw [hid] at hevent
      rw [sameDescription_iff hevent hevent' has.1 hbs.1]

/-- **When the diff of two traces compares the streams they are of**: when every operation is
described. -/
theorem faithful_streams_iff (compareEventIds : Bool) (hleft : StreamTrace host numbering as left)
    (hright : StreamTrace host numbering bs right) (hrun : left.run = right.run) :
    (∀ event ∈ left.events, Accepted event) ∧ (∀ event ∈ right.events, Accepted event) ∧
        (ReportsEquivalent host left right (plainPolicy compareEventIds) ↔
          List.Forall₂ (fun a b => graphicsIrSemanticallyEqual a b = true) as bs) ↔
      (∀ a ∈ as, isDescribed a.operation = true) ∧ ∀ b ∈ bs, isDescribed b.operation = true := by
  rw [hleft.accepted_iff, hright.accepted_iff]
  constructor
  · rintro ⟨has, hbs, -⟩
    exact ⟨has, hbs⟩
  · rintro ⟨has, hbs⟩
    refine ⟨has, hbs, ?_⟩
    have hids : ∀ (index : ℕ) (l r : TraceEventV0),
        left.events[index]? = some l → right.events[index]? = some r → l.id = r.id := by
      intro index l r hl hr
      rw [hleft.ids index l hl, hright.ids index r hr]
    rw [reportsEquivalent_iff,
      ← @forall₂_streams host as bs compareEventIds _ _ hleft.events hright.events hids has hbs]
    constructor
    · rintro ⟨-, -, -, h⟩
      exact h.events
    · intro h
      exact ⟨⟨by simp [plainPolicy], List.nodup_nil⟩, hleft.validTrace has, hright.validTrace hbs,
        hrun, h⟩

end Streams

/-- **Events of the graphics IR are a faithful identity exactly for operations that are described**,
for each pair of emissions and for each pair of streams. -/
theorem traceGraphicsIrV0_faithful_iff (host : Host) :
    (∀ eventId a b, host.allocation (.graphicsTraceEvent eventId) = none →
      ∃ eventA eventB, traceGraphicsIrV0 host eventId a = .ok eventA ∧
        traceGraphicsIrV0 host eventId b = .ok eventB ∧
        ((SameDescription eventA eventB ↔ graphicsIrSemanticallyEqual a b = true) ∧
          Accepted eventA ∧ Accepted eventB ↔
          isDescribed a.operation = true ∧ isDescribed b.operation = true)) ∧
    (∀ compareEventIds numbering as bs left right, StreamTrace host numbering as left →
      StreamTrace host numbering bs right → left.run = right.run →
    ((∀ event ∈ left.events, Accepted event) ∧ (∀ event ∈ right.events, Accepted event) ∧
      (ReportsEquivalent host left right (plainPolicy compareEventIds) ↔
      List.Forall₂ (fun a b => graphicsIrSemanticallyEqual a b = true) as bs) ↔
    (∀ a ∈ as, isDescribed a.operation = true) ∧ ∀ b ∈ bs, isDescribed b.operation = true)) := by
  constructor
  · intro eventId a b hhost
    obtain ⟨eventA, hA⟩ := exists_traceGraphicsIr hhost a
    obtain ⟨eventB, hB⟩ := exists_traceGraphicsIr hhost b
    exact ⟨eventA, eventB, hA, hB, faithful_pair_iff hA hB⟩
  · intro compareEventIds numbering as bs left right hleft hright hrun
    exact faithful_streams_iff compareEventIds hleft hright hrun

theorem streamTrace_single {host : Host} {emission : GraphicsIrEmission} {event : TraceEventV0}
    (h : traceGraphicsIrV0 host 1 emission = .ok event) :
    StreamTrace host (fun _ => 1) [emission] { emptyTrace with events := [event] } := by
  have hid : event.id = 1 := by
    obtain ⟨-, rfl⟩ := allocateEvent_eq_ok.mp h
    rfl
  refine ⟨validFrame_emptyTrace _, List.pairwise_singleton _ _, .cons (hid ▸ h) .nil, ?_⟩
  intro index event' hevent
  rcases List.mem_singleton.mp (List.mem_of_getElem? hevent) with rfl
  exact hid

/-- Two writes of one register of the context, with two values, are told apart and both accepted. -/
theorem traceGraphicsIrV0_faithful_contextWrites :
    ∃ eventA eventB,
      traceGraphicsIrV0 Host.plentiful 1 ⟨.contextRegisterWriteRange 8 [1], ⟨⟨0, 0⟩, []⟩⟩ =
        .ok eventA ∧
      traceGraphicsIrV0 Host.plentiful 1 ⟨.contextRegisterWriteRange 8 [2], ⟨⟨0, 0⟩, []⟩⟩ =
        .ok eventB ∧
      ¬ SameDescription eventA eventB ∧ Accepted eventA ∧ Accepted eventB ∧
      ¬ ReportsEquivalent Host.plentiful { emptyTrace with events := [eventA] } { emptyTrace with
        events := [eventB] }
        (plainPolicy true) := by
  obtain ⟨hpair, hstreams⟩ := traceGraphicsIrV0_faithful_iff Host.plentiful
  obtain ⟨eventA, eventB, hA, hB, hfaithful⟩ := hpair 1
    ⟨.contextRegisterWriteRange 8 [1], ⟨⟨0, 0⟩, []⟩⟩
      ⟨.contextRegisterWriteRange 8 [2], ⟨⟨0, 0⟩, []⟩⟩ rfl
  obtain ⟨hidentity, hacceptedA, hacceptedB⟩ := hfaithful.mpr (by decide)
  have hdiff :=
    ((hstreams true _ _ _ _ _ (streamTrace_single hA) (streamTrace_single hB) rfl).mpr
    (by decide)).2.2
  refine ⟨eventA, eventB, hA, hB, ?_, hacceptedA, hacceptedB, ?_⟩
  · rw [hidentity]
    decide
  · rw [hdiff]
    simp [graphicsIrSemanticallyEqual]

/-- The frame of the packet that sets the number of instances. -/
def numInstancesFrame (count : UInt8) : Pm4Type3Frame :=
  ⟨0, type3Header 0xc0002f00, ⟨⟨0, 2⟩, [⟨#v[0x00, 0x2f, 0x00, 0xc0]⟩, ⟨#v[count, 0, 0, 0]⟩]⟩⟩

/-- Two packets that set two numbers of instances are traced as events that say the same, and are
not accepted. -/
theorem traceGraphicsIrV0_instanceCounts :
    ∃ one two eventOne eventTwo,
      lowerPm4DrawControlFrameToGraphicsIr (numInstancesFrame 1) = .ok one ∧
      lowerPm4DrawControlFrameToGraphicsIr (numInstancesFrame 2) = .ok two ∧
      traceGraphicsIrV0 Host.plentiful 1 one = .ok eventOne ∧
      traceGraphicsIrV0 Host.plentiful 1 two = .ok eventTwo ∧
      SameDescription eventOne eventTwo ∧ graphicsIrSemanticallyEqual one two = false ∧
      ¬ Accepted eventOne := by
  obtain ⟨eventOne, hone⟩ : ∃ event,
    traceGraphicsIrV0 Host.plentiful 1 ⟨.setInstanceCount 1, (numInstancesFrame 1).rawPacket⟩ =
      .ok event := exists_traceGraphicsIr rfl _
  obtain ⟨eventTwo, htwo⟩ : ∃ event,
    traceGraphicsIrV0 Host.plentiful 1 ⟨.setInstanceCount 2, (numInstancesFrame 2).rawPacket⟩ =
      .ok event := exists_traceGraphicsIr rfl _
  refine ⟨_, _, eventOne, eventTwo, rfl, rfl, hone, htwo, ?_, by decide, ?_⟩
  · obtain ⟨-, rfl⟩ := allocateEvent_eq_ok.mp hone
    obtain ⟨-, rfl⟩ := allocateEvent_eq_ok.mp htwo
    exact ⟨rfl, rfl, fun field => Iff.rfl⟩
  · rw [accepted_iff, validEvent_traceGraphicsIr hone]
    decide

end Astraea.Trace
