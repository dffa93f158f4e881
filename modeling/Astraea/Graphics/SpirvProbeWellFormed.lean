import Astraea.Graphics.SpirvProbeInstructions

/-!
# The ids of the vector probe

The instructions of a program take apart again, and their ids are all those the counter handed
out. They are different exactly if the counter did not run over: `wellFormed_iff`.
-/

namespace Astraea.Graphics

open Spirv (Instruction Op resultIds DefinedBeforeUse)

variable {e : Spirv.Enumerants} {waveSize : UInt32} {shape : ProgramShape}
  {operations : List ShaderIrOperation} {baseConstantIds registerPointerIds : VgprIds}
  {vgprs : List (Fin kShaderVectorGprCount)} {n : ℕ} {known : List UInt32}

/-- The ids that are handed out from `first` on. -/
def idRange (first count : ℕ) : List UInt32 := (List.range' first count).map idOf

variable {id : UInt32} {vgpr : Fin kShaderVectorGprCount} {i : Instruction}

theorem mem_idRange {first count : ℕ} :
    id ∈ idRange first count ↔ ∃ k, first ≤ k ∧ k < first + count ∧ idOf k = id := by
  simp only [idRange, List.mem_map, List.mem_range'_1, and_assoc]

theorem idRange_append (first count more : ℕ) :
    idRange first count ++ idRange (first + count) more = idRange first (count + more) := by
  rw [idRange, idRange, idRange, ← List.map_append, List.range'_append_1]

/-! ### What the instructions define -/

theorem resultIds_annotationInstructions : resultIds (annotationInstructions e waveSize) = [] := rfl

theorem resultIds_typeInstructions : resultIds (typeInstructions e) = idRange 1 10 := rfl

theorem resultIds_variableInstructions : resultIds (variableInstructions e) = idRange 11 2 := rfl

theorem map_get_fillIds {stride first : ℕ} {ids : VgprIds} (hnodup : vgprs.Nodup) :
    vgprs.map (fillIds stride first vgprs ids).get = (List.range vgprs.length).map fun i =>
      idOf (first + stride * i) := by
  apply List.ext_getElem
  · rw [List.length_map, List.length_map, List.length_range]
  · intro i hi hi'
    rw [List.length_map] at hi
    rw [List.getElem_map, List.getElem_map, List.getElem_range, fillIds_get hnodup hi]

theorem resultIds_baseConstants :
    resultIds (shape.namedVgprs.map (baseConstantInstruction waveSize shape.baseConstantIds)) =
      idRange 16 shape.namedVgprs.length := by
  have hresults :
    resultIds (shape.namedVgprs.map (baseConstantInstruction waveSize shape.baseConstantIds)) =
      shape.namedVgprs.map shape.baseConstantIds.get := by
    rw [resultIds, List.filterMap_map, ← List.filterMap_eq_map]
    rfl
  rw [hresults, ProgramShape.baseConstantIds, map_get_fillIds shape.nodup_namedVgprs, idRange,
    List.range'_eq_map_range, List.map_map]
  apply List.map_congr_left
  intro i _
  rw [Nat.one_mul]
  rfl

theorem resultIds_pointerInstructions :
    resultIds (pointerInstructions baseConstantIds n vgprs) = idRange n (2 * vgprs.length) := by
  induction vgprs generalizing n with
  | nil => rfl
  | cons vgpr vgprs ih =>
    have hrest := @ih (n + 2)
    rw [pointerInstructions, List.length_cons, Nat.mul_succ, Nat.add_comm (2 * vgprs.length) 2,
      ← idRange_append, ← hrest]
    rfl

theorem resultIds_operationInstructions (operation : ShaderIrOperation) :
    resultIds (operationInstructions registerPointerIds n operation) =
      idRange n (operationIdCount operation) := by
  cases operation with
  | nop repeatCount =>
    rw [operationInstructions, resultIds, List.filterMap_replicate]
    rfl
  | _ => rfl

theorem resultIds_operationsInstructions :
    resultIds (operationsInstructions registerPointerIds n operations) =
      idRange n (operationsIdCount operations) := by
  induction operations generalizing n with
  | nil => rfl
  | cons operation operations ih =>
    rw [operationsInstructions, Spirv.resultIds_append, resultIds_operationInstructions, ih,
      idRange_append, operationsIdCount, operationsIdCount, List.map_cons, List.sum_cons]

theorem resultIds_globalProbeInstructions :
    resultIds (globalProbeInstructions e waveSize shape) =
      idRange 1 10 ++ idRange 16 shape.namedVgprs.length ++ idRange 11 2 := by
  rw [globalProbeInstructions, Spirv.resultIds_append, Spirv.resultIds_append,
    Spirv.resultIds_append, resultIds_annotationInstructions, resultIds_typeInstructions,
    resultIds_baseConstants, resultIds_variableInstructions]
  rfl

theorem resultIds_functionProbeInstructions :
    resultIds (functionProbeInstructions shape operations) =
      idRange 14 2 ++ idRange (16 + shape.namedVgprs.length)
        (2 * shape.namedVgprs.length + operationsIdCount operations) := by
  rw [functionProbeInstructions, Spirv.resultIds_append, Spirv.resultIds_append,
    Spirv.resultIds_append,
    resultIds_pointerInstructions, resultIds_operationsInstructions, ← idRange_append,
      ProgramShape.firstOperationId,
    show 16 + shape.namedVgprs.length + 2 * shape.namedVgprs.length =
      16 + 3 * shape.namedVgprs.length by omega,
    List.append_assoc (resultIds entryInstructions)]
  exact List.append_nil _

/-- **The instructions define every id that was handed out.** -/
theorem resultIds_probeInstructions :
    (resultIds (probeInstructions e waveSize shape operations)).Perm
      (idRange 1 (probeIdCount shape operations)) := by
  have hsplit : idRange 1 (probeIdCount shape operations) =
      idRange 1 10 ++ (idRange 11 2 ++
      (idRange 13 1 ++
      (idRange 14 2 ++ (idRange 16 shape.namedVgprs.length ++ idRange (16 + shape.namedVgprs.length)
      (2 * shape.namedVgprs.length + operationsIdCount operations))))) := by
    rw [idRange_append, show (16 : ℕ) = 14 + 2 from rfl, idRange_append,
      show (14 : ℕ) = 13 + 1 from rfl, idRange_append, show (13 : ℕ) = 11 + 2 from rfl,
      idRange_append, show (11 : ℕ) = 1 + 10 from rfl, idRange_append, probeIdCount]
    congr 1
    omega
  have hresults : resultIds (probeInstructions e waveSize shape operations) =
      idRange 1 10 ++ (idRange 16 shape.namedVgprs.length ++
        (idRange 11 2 ++
        (idRange 13 1 ++ (idRange 14 2 ++ idRange (16 + shape.namedVgprs.length)
        (2 * shape.namedVgprs.length + operationsIdCount operations))))) := by
    have hfunction : resultIds [⟨.opFunction, [1, 13, e.functionControlNone, 9]⟩] = idRange 13 1 :=
      rfl
    rw [probeInstructions, ← List.singleton_append, Spirv.resultIds_append, Spirv.resultIds_append,
      resultIds_globalProbeInstructions, hfunction, resultIds_functionProbeInstructions]
    simp only [List.append_assoc]
  rw [hresults, hsplit]
  refine List.Perm.append_left _ ?_
  -- the constants of the registers stand in front of the ids from 11 to 15
  have hmove := (@List.perm_append_comm _ (idRange 16 shape.namedVgprs.length)
    (idRange 11 2 ++ (idRange 13 1 ++ idRange 14 2))).append_right
    (idRange (16 + shape.namedVgprs.length)
      (2 * shape.namedVgprs.length + operationsIdCount operations))
  simpa only [List.append_assoc] using hmove

/-! ### What the instructions use -/

/-- Every id that was handed out before the `n`-th is known. -/
def KnowsBelow (n : ℕ) (known : List UInt32) : Prop := ∀ k, 1 ≤ k → k < n → idOf k ∈ known

theorem KnowsBelow.append (h : KnowsBelow n known) (count : ℕ) :
    KnowsBelow (n + count) (known ++ idRange n count) := by
  intro k hpos hk
  by_cases hbelow : k < n
  · exact List.mem_append_left _ (h k hpos hbelow)
  · exact List.mem_append_right _ (mem_idRange.mpr ⟨k, Nat.not_lt.mp hbelow, hk, rfl⟩)

theorem KnowsBelow.mono {m : ℕ} (h : KnowsBelow n known) (hle : m ≤ n) : KnowsBelow m known :=
  fun k hpos hk => h k hpos (Nat.lt_of_lt_of_le hk hle)

/-- An id that was handed out before the `n`-th. -/
def IsBelow (n : ℕ) (id : UInt32) : Prop := ∃ k, 1 ≤ k ∧ k < n ∧ idOf k = id

theorem KnowsBelow.mem (h : KnowsBelow n known) (hid : IsBelow n id) : id ∈ known := by
  obtain ⟨k, hpos, hk, rfl⟩ := hid
  exact h k hpos hk

theorem IsBelow.mono {m : ℕ} (h : IsBelow n id) (hle : n ≤ m) : IsBelow m id := by
  obtain ⟨k, hpos, hk, rfl⟩ := h
  exact ⟨k, hpos, Nat.lt_of_lt_of_le hk hle, rfl⟩

theorem isBelow_idOf {k : ℕ} (hpos : 1 ≤ k) (hk : k < n) : IsBelow n (idOf k) := ⟨k, hpos, hk, rfl⟩

theorem KnowsBelow.literal (h : KnowsBelow n known) (hn : 16 ≤ n) (hid : id ∈ idRange 1 15) :
    id ∈ known := by
  obtain ⟨k, hpos, hk, rfl⟩ := mem_idRange.mp hid
  exact h k hpos (by omega)

theorem definedBeforeUse_globalProbeInstructions :
    DefinedBeforeUse [] (globalProbeInstructions e waveSize shape) := by
  have hannotations : DefinedBeforeUse [] (annotationInstructions e waveSize) := by
    refine Spirv.definedBeforeUse_of_known fun i hi hahead => ?_
    simp only [annotationInstructions, List.mem_cons, List.not_mem_nil, or_false] at hi
    rcases hi with rfl | rfl | rfl | rfl | rfl | rfl | rfl | rfl | rfl | rfl <;>
      first | exact fun _ hid => absurd hid List.not_mem_nil | cases hahead
  have htypes : DefinedBeforeUse [] (typeInstructions e) := by
    repeat' refine Spirv.definedBeforeUse_cons (fun _ => ?_) ?_
    all_goals first
      | exact Spirv.definedBeforeUse_nil _
      | simp [Instruction.usedIds, resultIds, Instruction.resultId?, Op.resultPosition]
  have hknown : ∀ id ∈ idRange 1 10,
      id ∈ [] ++ resultIds (annotationInstructions e waveSize ++ typeInstructions e) := by
    intro id hid
    rwa [Spirv.resultIds_append, resultIds_annotationInstructions, resultIds_typeInstructions]
  have hconstants : DefinedBeforeUse (idRange 1 10)
      (shape.namedVgprs.map (baseConstantInstruction waveSize shape.baseConstantIds)) := by
    refine Spirv.definedBeforeUse_of_known fun i hi _ id hid => ?_
    obtain ⟨vgpr, -, rfl⟩ := List.mem_map.mp hi
    rw [List.mem_singleton.mp hid]
    decide
  have hvariables : DefinedBeforeUse (idRange 1 10) (variableInstructions e) := by
    refine Spirv.definedBeforeUse_of_known fun i hi _ id hid => ?_
    rcases List.mem_pair.mp hi with rfl | rfl
    · rw [List.mem_singleton.mp hid]
      decide
    · rw [List.mem_singleton.mp hid]
      decide
  refine ((hannotations.append (htypes.mono (List.nil_subset _))).append
    (hconstants.mono hknown)).append
    (hvariables.mono fun id hid => ?_)
  rw [Spirv.resultIds_append, ← List.append_assoc]
  exact List.mem_append_left _ (hknown id hid)

theorem definedBeforeUse_pointerInstructions (hn : 16 ≤ n) (hknown : KnowsBelow n known)
    (hbase : ∀ vgpr ∈ vgprs, IsBelow n (baseConstantIds.get vgpr)) :
    DefinedBeforeUse known (pointerInstructions baseConstantIds n vgprs) := by
  induction vgprs generalizing n known with
  | nil => exact Spirv.definedBeforeUse_nil known
  | cons vgpr vgprs ih =>
    have hfirst := hknown.append 1
    refine Spirv.definedBeforeUse_cons (fun _ id hid => ?_)
      (Spirv.definedBeforeUse_cons (fun _ id hid => ?_) ?_)
    · rcases List.mem_cons.mp hid with rfl | hid
      · exact hknown.literal hn (by decide)
      · rcases List.mem_pair.mp hid with rfl | rfl
        · exact hknown.mem (hbase vgpr List.mem_cons_self)
        · exact hknown.literal hn (by decide)
    · rcases List.mem_cons.mp hid with rfl | hid
      · exact hfirst.literal (by omega) (by decide)
      · rcases List.mem_cons.mp hid with rfl | hid
        · exact hfirst.literal (by omega) (by decide)
        · rcases List.mem_pair.mp hid with rfl | rfl
          · exact hfirst.literal (by omega) (by decide)
          · exact hfirst n (by omega) (by omega)
    · exact ih (by omega) (hfirst.append 1) fun other hother =>
        (hbase other (List.mem_cons_of_mem _ hother)).mono (by omega)

theorem definedBeforeUse_operationInstructions {operation : ShaderIrOperation} (hn : 16 ≤ n)
    (hknown : KnowsBelow n known)
    (hpointers : ∀ register ∈ operation.registers,
      IsBelow n (pointerOf registerPointerIds register)) :
    DefinedBeforeUse known (operationInstructions registerPointerIds n operation) := by
  have huint : (2 : UInt32) ∈ known := hknown.literal hn (by decide)
  have hfloat : (3 : UInt32) ∈ known := hknown.literal hn (by decide)
  have hregister : ∀ register ∈ operation.registers, pointerOf registerPointerIds register ∈
      known :=
    fun register hregister => hknown.mem (hpointers register hregister)
  cases operation with
  | nop repeatCount =>
    refine Spirv.definedBeforeUse_of_known fun i hi _ id hid => ?_
    rw [List.eq_of_mem_replicate hi] at hid
    cases hid
  | vectorMove32 destination source =>
    have hdestination := hregister destination (by simp [ShaderIrOperation.registers])
    have hsource := hregister source (by simp [ShaderIrOperation.registers])
    repeat' refine Spirv.definedBeforeUse_cons (fun _ => ?_) ?_
    all_goals first
      | exact Spirv.definedBeforeUse_nil _
      | simp
          [Instruction.usedIds, resultIds, Instruction.resultId?, Op.resultPosition, huint,
            hdestination, hsource]
  | vectorAddF32 destination source0 source1 =>
    have hdestination := hregister destination (by simp [ShaderIrOperation.registers])
    have hsource0 := hregister source0 (by simp [ShaderIrOperation.registers])
    have hsource1 := hregister source1 (by simp [ShaderIrOperation.registers])
    repeat' refine Spirv.definedBeforeUse_cons (fun _ => ?_) ?_
    all_goals first
      | exact Spirv.definedBeforeUse_nil _
      | simp
          [Instruction.usedIds, resultIds, Instruction.resultId?, Op.resultPosition, huint, hfloat,
            hdestination, hsource0, hsource1]
  | endProgram =>
    refine Spirv.definedBeforeUse_singleton fun _ id hid => ?_
    cases hid
  | _ => exact Spirv.definedBeforeUse_nil known

theorem definedBeforeUse_operationsInstructions (hn : 16 ≤ n) (hknown : KnowsBelow n known)
    (hpointers : ∀ operation ∈ operations, ∀ register ∈ operation.registers,
      IsBelow n (pointerOf registerPointerIds register)) :
    DefinedBeforeUse known (operationsInstructions registerPointerIds n operations) := by
  induction operations generalizing n known with
  | nil => exact Spirv.definedBeforeUse_nil known
  | cons operation operations ih =>
    refine (definedBeforeUse_operationInstructions hn hknown
      (hpointers operation List.mem_cons_self)).append ?_
    rw [resultIds_operationInstructions]
    refine ih (by omega) (hknown.append _) fun other hother register hregister => ?_
    exact (hpointers other (List.mem_cons_of_mem _ hother) register hregister).mono (by omega)

/-! ### The ids of the tables -/

theorem mem_namedVgprs : vgpr ∈ shape.namedVgprs ↔ shape.usedVgprs.get vgpr = true := by
  rw [ProgramShape.namedVgprs, List.mem_filter, and_iff_right (List.mem_finRange vgpr)]

theorem isBelow_baseConstantIds (h : vgpr ∈ shape.namedVgprs) :
    IsBelow (16 + shape.namedVgprs.length) (shape.baseConstantIds.get vgpr) := by
  obtain ⟨i, hi, rfl⟩ := List.mem_iff_getElem.mp h
  rw [ProgramShape.baseConstantIds, fillIds_get shape.nodup_namedVgprs hi]
  exact isBelow_idOf (by omega) (by omega)

theorem isBelow_registerPointerIds (h : vgpr ∈ shape.namedVgprs) :
    IsBelow shape.firstOperationId (shape.registerPointerIds.get vgpr) := by
  obtain ⟨i, hi, rfl⟩ := List.mem_iff_getElem.mp h
  rw [ProgramShape.registerPointerIds, fillIds_get shape.nodup_namedVgprs hi,
    ProgramShape.firstOperationId]
  exact isBelow_idOf (by omega) (by omega)

/-! ### The module -/

/-- Every register that operations name is one the shape has. -/
def ProgramShape.Covers (shape : ProgramShape) (operations : List ShaderIrOperation) : Prop :=
  ∀ operation ∈ operations, ∀ register ∈ operation.registers, register.number ∈ shape.namedVgprs

theorem definedBeforeUse_probeInstructions (hcovers : shape.Covers operations) :
    DefinedBeforeUse [] (probeInstructions e waveSize shape operations) := by
  rw [probeInstructions, functionProbeInstructions]
  refine definedBeforeUse_globalProbeInstructions.append ?_
  rw [List.nil_append, resultIds_globalProbeInstructions]
  generalize hglobals : idRange 1 10 ++ idRange 16 shape.namedVgprs.length ++ idRange 11 2 = globals
  have hfirst : ∀ id ∈ idRange 1 12, id ∈ globals := by
    intro id hid
    rw [show (12 : ℕ) = 10 + 2 from rfl, ← idRange_append, List.mem_append] at hid
    rw [← hglobals, List.mem_append, List.mem_append]
    exact hid.elim (fun h => .inl (.inl h)) .inr
  have hbases : ∀ id ∈ idRange 16 shape.namedVgprs.length, id ∈ globals := by
    intro id hid
    rw [← hglobals]
    exact List.mem_append_left _ (List.mem_append_right _ hid)
  have hentry : DefinedBeforeUse (globals ++ idRange 13 1) entryInstructions := by
    refine Spirv.definedBeforeUse_of_known fun i hi _ id hid => ?_
    rcases List.mem_pair.mp hi with rfl | rfl
    · cases hid
    · rcases List.mem_pair.mp hid with rfl | rfl
      · exact List.mem_append_left _ (hfirst 2 (by decide))
      · exact List.mem_append_left _ (hfirst 12 (by decide))
  have hknown : KnowsBelow (16 + shape.namedVgprs.length)
      (globals ++ idRange 13 1 ++ idRange 14 2) := by
    intro k hpos hk
    rw [List.append_assoc, show (14 : ℕ) = 13 + 1 from rfl, idRange_append, List.mem_append]
    by_cases hlow : k < 13
    · exact .inl (hfirst _ (mem_idRange.mpr ⟨k, hpos, by omega, rfl⟩))
    · by_cases hmiddle : k < 16
      · exact .inr (mem_idRange.mpr ⟨k, by omega, by omega, rfl⟩)
      · exact .inl (hbases _ (mem_idRange.mpr ⟨k, by omega, by omega, rfl⟩))
  refine Spirv.definedBeforeUse_cons
    (fun _ id hid => ?_) ((((hentry.append ?_).append ?_).append ?_))
  · rcases List.mem_pair.mp hid with rfl | rfl
    · exact hfirst 1 (by decide)
    · exact hfirst 9 (by decide)
  · exact definedBeforeUse_pointerInstructions (by omega) hknown fun vgpr hvgpr =>
      isBelow_baseConstantIds hvgpr
  · rw [Spirv.resultIds_append, resultIds_pointerInstructions, ← List.append_assoc]
    refine definedBeforeUse_operationsInstructions (n := shape.firstOperationId) ?_ ?_
      fun operation hoperation register
      hregister => isBelow_registerPointerIds (hcovers operation hoperation register hregister)
    · rw [ProgramShape.firstOperationId]
      omega
    · refine (hknown.append (2 * shape.namedVgprs.length)).mono ?_
      rw [ProgramShape.firstOperationId]
      omega
  · refine Spirv.definedBeforeUse_singleton fun _ id hid => ?_
    cases hid

/-- An instruction that is short and does not speak about ids behind it. -/
def IsPlain (i : Instruction) : Prop := i.operands.length ≤ 5 ∧ i.op.refersAhead = false

theorem isPlain_of_mem_pointerInstructions (h : i ∈ pointerInstructions baseConstantIds n vgprs) :
    IsPlain i := by
  induction vgprs generalizing n with
  | nil => cases h
  | cons vgpr vgprs ih =>
    rcases List.mem_cons.mp h with rfl | h
    · exact ⟨by simp, rfl⟩
    · rcases List.mem_cons.mp h with rfl | h
      · exact ⟨by simp, rfl⟩
      · exact ih h

theorem isPlain_of_mem_operationInstructions {operation : ShaderIrOperation}
    (h : i ∈ operationInstructions registerPointerIds n operation) : IsPlain i := by
  cases operation with
  | nop repeatCount =>
    rw [List.eq_of_mem_replicate h]
    exact ⟨by simp, rfl⟩
  | vectorMove32 destination source =>
    rcases List.mem_pair.mp h with rfl | rfl <;> exact ⟨by simp, rfl⟩
  | vectorAddF32 destination source0 source1 =>
    simp only [operationInstructions, List.mem_cons, List.not_mem_nil, or_false] at h
    rcases h with rfl | rfl | rfl | rfl | rfl | rfl | rfl <;> exact ⟨by simp, rfl⟩
  | endProgram =>
    rw [List.mem_singleton.mp h]
    exact ⟨by simp, rfl⟩
  | _ => cases h

theorem isPlain_of_mem_operationsInstructions
    (h : i ∈ operationsInstructions registerPointerIds n operations) : IsPlain i := by
  induction operations generalizing n with
  | nil => cases h
  | cons operation operations ih =>
    rcases List.mem_append.mp h with h | h
    · exact isPlain_of_mem_operationInstructions h
    · exact ih h

/-- Only the instructions at the start speak about ids behind them. -/
theorem isPlain_of_mem_probeInstructions (h : i ∈ probeInstructions e waveSize shape operations) :
    i ∈ annotationInstructions e waveSize ∨ IsPlain i := by
  simp only [probeInstructions, globalProbeInstructions, functionProbeInstructions, List.mem_append,
    List.mem_cons] at h
  rcases h with ((((h | h) | h) | h) | rfl | (((h | h) | h) | (rfl | h)))
  · exact .inl h
  · simp only [typeInstructions, List.mem_cons, List.not_mem_nil, or_false] at h
    rcases h with rfl | rfl | rfl | rfl | rfl | rfl | rfl | rfl | rfl | rfl
      <;> exact .inr ⟨by simp, rfl⟩
  · obtain ⟨vgpr, -, rfl⟩ := List.mem_map.mp h
    exact .inr ⟨by simp [baseConstantInstruction], rfl⟩
  · rcases List.mem_pair.mp h with rfl | rfl <;> exact .inr ⟨by simp, rfl⟩
  · exact .inr ⟨by simp, rfl⟩
  · rcases List.mem_pair.mp h with rfl | rfl <;> exact .inr ⟨by simp, rfl⟩
  · exact .inr (isPlain_of_mem_pointerInstructions h)
  · exact .inr (isPlain_of_mem_operationsInstructions h)
  · exact .inr ⟨by simp, rfl⟩
  · cases h

theorem short_of_mem_probeInstructions (h : i ∈ probeInstructions e waveSize shape operations) :
    i.Short := by
  rcases isPlain_of_mem_probeInstructions h with h | h
  · simp only [annotationInstructions, List.mem_cons, List.not_mem_nil, or_false] at h
    rcases h with rfl | rfl | rfl | rfl | rfl | rfl | rfl | rfl | rfl | rfl
      <;> simp [Instruction.Short]
  · have := h.1
    rw [Instruction.Short]
    omega

/-- The annotations speak about ids that every module has. -/
theorem used_mem_annotationInstructions (hi : i ∈ annotationInstructions e waveSize)
    (hid : id ∈ i.usedIds) :
    id ∈ idRange 1 15 := by
  simp only [annotationInstructions, List.mem_cons, List.not_mem_nil, or_false] at hi
  rcases hi with rfl | rfl | rfl | rfl | rfl | rfl | rfl | rfl | rfl | rfl
  · cases hid
  · cases hid
  · have hused : Instruction.usedIds
      ⟨.opEntryPoint, [e.executionModelGLCompute, 13, 0x6e69616d, 0, 12, 11]⟩ =
        [13, 12, 11] := rfl
    rw [hused] at hid
    have hliterals : [13, 12, 11] ⊆ idRange 1 15 := by decide
    exact hliterals hid
  all_goals
    rw [List.mem_singleton.mp hid]
    decide

/-- **What the ids have to be, they are exactly if the counter did not run over.** -/
theorem wellFormed_iff (hcovers : shape.Covers operations) (version generator : UInt32) :
    (⟨version, generator, idOf (probeIdCount shape operations + 1),
      probeInstructions e waveSize shape operations⟩ : Spirv.Module).WellFormed ↔
    probeIdCount shape operations + 1 < 2 ^ 32 := by
  have hperm := @resultIds_probeInstructions e waveSize shape operations
  constructor
  · intro h
    have hlength := hperm.length_eq
    rw [idRange, List.length_map, List.length_range'] at hlength
    have hlt := h.length_lt
    rw [← List.length_eq_zero_iff, hlength] at hlt
    have hbound := (idOf (probeIdCount shape operations + 1)).toNat_lt
    have hpos : 15 ≤ probeIdCount shape operations := by
      rw [probeIdCount]
      omega
    have := hlt.resolve_left (by omega)
    dsimp only at this
    omega
  · intro hcount
    have hinj : ∀ a ∈ List.range' 1 (probeIdCount shape operations),
      ∀ b ∈ List.range' 1 (probeIdCount shape operations),
        idOf a = idOf b → a = b := by
      intro a ha b hb heq
      rw [List.mem_range'_1] at ha hb
      exact (idOf_inj (by omega) (by omega)).mp heq
    refine ⟨?_, ?_, definedBeforeUse_probeInstructions hcovers, ?_⟩
    · rw [hperm.nodup_iff]
      exact List.Nodup.map_on hinj List.nodup_range'
    · intro i hi id hid
      rcases isPlain_of_mem_probeInstructions hi with hannotation | hplain
      · obtain ⟨k, hpos, hk, rfl⟩ :=
          mem_idRange.mp (used_mem_annotationInstructions hannotation hid)
        rw [hperm.mem_iff]
        refine mem_idRange.mpr ⟨k, hpos, ?_, rfl⟩
        rw [probeIdCount]
        omega
      · exact (definedBeforeUse_probeInstructions hcovers).used_mem hi hplain.2 id hid
    · intro id hid
      obtain ⟨k, hpos, hk, rfl⟩ := mem_idRange.mp (hperm.mem_iff.mp hid)
      rw [UInt32.lt_iff_toNat_lt, UInt32.lt_iff_toNat_lt, toNat_idOf (by omega), toNat_idOf hcount]
      exact ⟨hpos, by omega⟩

end Astraea.Graphics
