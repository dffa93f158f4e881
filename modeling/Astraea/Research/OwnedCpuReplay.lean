import Astraea.Base.TracedRun
import Astraea.Research.OwnedCpuStep

/-!
# Replaying a run

The trace of a run says all that the run did. `ownedRound` is one round of `run_owned_x86_64`: it
leaves a record, or stops without an effect. `runOwnedX8664_eq` says that a run is `tracedRun` of
it, with the records written into the span of the caller and counted in the report.

From there, `runOwnedX8664_replayable` reads off that the stores in the trace, one after the other,
take what the guest saw at the beginning to what it sees at the end, and that a run whose budget
is used up goes on as a second run.
-/

namespace Astraea.Research

open Astraea.Base Astraea.Execution

/-! ### One round -/

/-- Why a run stops before its budget is used up. -/
structure OwnedRunStop where
  code : OwnedCpuRunStopCode
  memoryFault : Option OwnedGuestMemoryFault
  stepStop : Option OwnedCpuStepStop
  deriving DecidableEq

/-- One round of a run: fetch, decode and step. -/
def ownedRound (decoder : ZydisDecoder) (space : OwnedGuestAddressSpace)
    (state : GuestCpuContext × (ℕ → UInt8)) :
    Except OwnedRunStop ((GuestCpuContext × (ℕ → UInt8)) × OwnedCpuTraceStep) :=
  if decoder.init = false then .error ⟨.invalidEncoding, none, none⟩
  else
    match fetchInstruction decoder space state.1 state.2 with
    | .error (code, fault) => .error ⟨code, fault, none⟩
    | .ok record =>
      match stepOwnedX8664 decoder space record state.1 state.2 with
      | (.error stop, _, _) => .error ⟨.stepRefused, none, some stop⟩
      | (.ok committed, cpu, memory) => .ok ((cpu, memory), traceStep record.rip cpu committed)

variable {committed : OwnedCpuStepCommit}

/-- What a step that retired did to memory, as its commit tells: nothing, or one store of eight
bytes. -/
structure StoreCommitted (space : OwnedGuestAddressSpace) (memory memory' : ℕ → UInt8)
    (address : Option UInt64) (size : ℕ) (bytes : List UInt8) : Prop where
  unchanged : address = none → size = 0 ∧ memory' = memory
  stored : ∀ target, address = some target → size = 8 ∧ bytes.length = 8 ∧
    space.write memory target bytes = .ok memory'

section Round

variable {decoder : ZydisDecoder} {space : OwnedGuestAddressSpace}
  {record : DecodedSourceInstruction} {cpu cpu' : GuestCpuContext} {memory memory' : ℕ → UInt8}
  {step : OwnedCpuTraceStep}

/-- A step is refused without an effect, or commits at most one store. -/
theorem stepOwnedX8664_cases (decoder : ZydisDecoder) (space : OwnedGuestAddressSpace)
    (record : DecodedSourceInstruction) (cpu : GuestCpuContext) (memory : ℕ → UInt8) :
    (∃ stop, stepOwnedX8664 decoder space record cpu memory = (.error stop, cpu, memory)) ∨
      ∃ committed cpu' memory', stepOwnedX8664 decoder space record cpu memory =
        (.ok committed, cpu', memory') ∧
        committed.guestWrites = (if committed.guestWriteAddress.isSome = true then 1 else 0) ∧
        StoreCommitted space memory memory' committed.guestWriteAddress committed.guestWriteSize
          committed.guestWriteBytes := by
  rw [stepOwnedX8664]
  cases decodeStep decoder space record cpu memory with
  | error stop => exact .inl ⟨stop, rfl⟩
  | ok decoded =>
    obtain ⟨next, pending⟩ := decoded
    dsimp only
    cases pending.guestWrite with
    | none =>
      refine .inr ⟨_, _, _, rfl, rfl, fun _ => ⟨rfl, rfl⟩, ?_⟩
      intro target htarget
      cases htarget
    | some store =>
      obtain ⟨address, value⟩ := store
      dsimp only
      cases hwrite : space.write memory address (wordBytes value) with
      | error fault => exact .inl ⟨_, rfl⟩
      | ok written =>
        refine .inr ⟨_, _, _, rfl, rfl, ?_, ?_⟩
        · intro hnone
          cases hnone
        · intro target htarget
          cases htarget
          exact ⟨rfl, length_leBytes 8 value.toNat, hwrite⟩

theorem fetchInstruction_rip (h : fetchInstruction decoder space cpu memory = .ok record) :
    record.rip = cpu.rip := by
  simp only [fetchInstruction, bind_eq_ok, pure_eq_ok] at h
  obtain ⟨_, -, _, -, _, -, rfl⟩ := h
  rfl

/-- What a record says of its round. -/
structure RoundRecorded (space : OwnedGuestAddressSpace) (cpu cpu' : GuestCpuContext)
    (memory memory' : ℕ → UInt8) (step : OwnedCpuTraceStep) : Prop where
  beforeRip : step.beforeRip = cpu.rip
  afterRip : step.afterRip = cpu'.rip
  afterContext : step.afterContext = cpu'
  store : StoreCommitted space memory memory' step.guestWriteAddress step.guestWriteSize
    step.guestWriteBytes

theorem ownedRound_eq_ok
    (h : ownedRound decoder space (cpu, memory) = .ok ((cpu', memory'), step)) :
    RoundRecorded space cpu cpu' memory memory' step := by
  rw [ownedRound] at h
  by_cases hinit : decoder.init = false
  · rw [if_pos hinit] at h
    cases h
  · rw [if_neg hinit] at h
    dsimp only at h
    cases hfetch : fetchInstruction decoder space cpu memory with
    | error stop =>
      rw [hfetch] at h
      cases h
    | ok record =>
      rw [hfetch] at h
      dsimp only at h
      rcases stepOwnedX8664_cases decoder space record cpu memory
        with ⟨stop, hstep⟩ | ⟨committed, _, _, hstep, -, hstore⟩
      · rw [hstep] at h
        cases h
      · rw [hstep] at h
        cases h
        exact ⟨fetchInstruction_rip hfetch, rfl, rfl, hstore⟩

theorem ownedRound_of_step (hinit : decoder.init = true)
    (hfetch : fetchInstruction decoder space cpu memory = .ok record)
    (hstep : stepOwnedX8664 decoder space record cpu memory = (.ok committed, cpu', memory')) :
    ownedRound decoder space (cpu, memory) =
      .ok ((cpu', memory'), traceStep record.rip cpu' committed) := by
  have hready : ¬ decoder.init = false := by
    rw [hinit]
    decide
  rw [ownedRound, if_neg hready, hfetch]
  dsimp only
  rw [hstep]

theorem ownedRound_of_refused {stop : OwnedCpuStepStop} (hinit : decoder.init = true)
    (hfetch : fetchInstruction decoder space cpu memory = .ok record)
    (hstep : stepOwnedX8664 decoder space record cpu memory = (.error stop, cpu', memory')) :
    ownedRound decoder space (cpu, memory) = .error ⟨.stepRefused, none, some stop⟩ := by
  have hready : ¬ decoder.init = false := by
    rw [hinit]
    decide
  rw [ownedRound, if_neg hready, hfetch]
  dsimp only
  rw [hstep]

end Round

/-! ### Runs -/

section Run

variable {decoder : ZydisDecoder} {space : OwnedGuestAddressSpace} {cpu : GuestCpuContext}
  {memory : ℕ → UInt8} {run : OwnedRun} {remaining n : ℕ} {span : List OwnedCpuTraceStep}

/-- The step of a trace made a store. -/
def OwnedCpuTraceStep.stores (step : OwnedCpuTraceStep) : Bool := step.guestWriteAddress.isSome

/-- The run after the rounds of a traced run: its records are in the span, from the next free entry
on. -/
def OwnedRun.after (run : OwnedRun)
    (traced : TracedRun (GuestCpuContext × (ℕ → UInt8)) OwnedCpuTraceStep OwnedRunStop) :
    OwnedRun where
  cpu := traced.state.1
  memory := traced.state.2
  trace := if run.trace.isEmpty = true then run.trace
    else run.trace.take run.report.traceSteps ++ traced.records ++
      run.trace.drop (run.report.traceSteps + traced.records.length)
  report := {
    retiredInstructions := run.report.retiredInstructions + traced.records.length
    guestWrites := run.report.guestWrites + traced.records.countP OwnedCpuTraceStep.stores
    traceSteps := if run.trace.isEmpty = true then run.report.traceSteps
      else run.report.traceSteps + traced.records.length
    stop := (traced.stop.map OwnedRunStop.code).getD .budgetExhausted
    stopRip := traced.state.1.rip
    memoryFault := traced.stop.bind OwnedRunStop.memoryFault
    stepStop := traced.stop.bind OwnedRunStop.stepStop }

/-- There is room in the span for the steps that are left. -/
def OwnedRun.HasRoom (run : OwnedRun) (remaining : ℕ) : Prop :=
  run.trace.isEmpty = true ∨ run.report.traceSteps + remaining ≤ run.trace.length

theorem OwnedRun.after_nil (run : OwnedRun) (state : GuestCpuContext × (ℕ → UInt8))
    (stop : Option OwnedRunStop) :
    run.after ⟨state, [], stop⟩ =
      ⟨state.1, state.2, run.trace, { run.report with
        stop := (stop.map OwnedRunStop.code).getD .budgetExhausted
        stopRip := state.1.rip
        memoryFault := stop.bind OwnedRunStop.memoryFault
        stepStop := stop.bind OwnedRunStop.stepStop }⟩ := by
  simp only [OwnedRun.after, List.append_nil, List.length_nil, List.countP_nil, Nat.add_zero,
    List.take_append_drop, ite_self]

theorem set_take_drop {trace : List OwnedCpuTraceStep} {k : ℕ} (hk : k < trace.length)
    (step : OwnedCpuTraceStep) (records : List OwnedCpuTraceStep) :
    (trace.set k step).take (k + 1) ++ records ++ (trace.set k step).drop
      (k + (step :: records).length) =
      trace.take k ++ (step :: records) ++ trace.drop (k + (step :: records).length) := by
  have htake : (trace.set k step).take (k + 1) = trace.take k ++ [step] := by
    rw [List.take_add_one, List.take_set_of_le le_rfl, List.getElem?_set_self hk,
      Option.toList_some]
  rw [htake, List.drop_set_of_lt (by rw [List.length_cons]; omega),
    List.append_assoc (trace.take k) [step] records]
  rfl

theorem OwnedRun.retire_after {record : DecodedSourceInstruction} {cpu' : GuestCpuContext}
    {memory' : ℕ → UInt8} (hroom : run.HasRoom (remaining + 1))
    (hwrites : committed.guestWrites = if committed.guestWriteAddress.isSome = true then 1 else 0)
    (traced : TracedRun (GuestCpuContext × (ℕ → UInt8)) OwnedCpuTraceStep OwnedRunStop) :
    (run.retire record committed cpu' memory').after traced =
      run.after ⟨traced.state, traceStep record.rip cpu' committed :: traced.records,
        traced.stop⟩ := by
  have hcount : run.report.guestWrites + committed.guestWrites +
    traced.records.countP OwnedCpuTraceStep.stores =
      run.report.guestWrites +
        (traceStep record.rip cpu' committed :: traced.records).countP
          OwnedCpuTraceStep.stores := by
    have hstores : (traceStep record.rip cpu' committed).stores =
      committed.guestWriteAddress.isSome := rfl
    rw [List.countP_cons, hstores, hwrites]
    omega
  have hretired : run.report.retiredInstructions + 1 + traced.records.length =
      run.report.retiredInstructions +
        (traceStep record.rip cpu' committed :: traced.records).length := by
    rw [List.length_cons]
    omega
  by_cases hempty : run.trace.isEmpty = true
  · simp only [OwnedRun.after, OwnedRun.retire, if_pos hempty, hcount, hretired]
  · have hset :
        ¬ (run.trace.set run.report.traceSteps (traceStep record.rip cpu' committed)).isEmpty =
        true := by
      rw [List.isEmpty_iff, List.set_eq_nil_iff, ← List.isEmpty_iff]
      exact hempty
    have hindex : run.report.traceSteps < run.trace.length := by
      rcases hroom with hroom | hroom
      · exact absurd hroom hempty
      · omega
    have hsteps : run.report.traceSteps + 1 + traced.records.length =
        run.report.traceSteps + (traceStep record.rip cpu' committed :: traced.records).length := by
      rw [List.length_cons]
      omega
    simp only [OwnedRun.after, OwnedRun.retire, if_neg hempty, if_neg hset, hcount, hretired,
      hsteps, set_take_drop hindex]

theorem OwnedRun.HasRoom.retire {record : DecodedSourceInstruction} {cpu' : GuestCpuContext}
    {memory' : ℕ → UInt8} (h : run.HasRoom (remaining + 1)) :
    (run.retire record committed cpu' memory').HasRoom remaining := by
  by_cases hempty : run.trace.isEmpty = true
  · left
    rw [OwnedRun.retire, if_pos hempty]
    exact hempty
  · right
    have hroom := h.resolve_left hempty
    simp only [OwnedRun.retire, if_neg hempty, List.length_set]
    omega

/-- **The loop is a traced run.** -/
theorem runOwnedRounds_eq (hinit : decoder.init = true) (hroom : run.HasRoom remaining)
    (hfault : run.report.memoryFault = none) (hstop : run.report.stepStop = none) :
    runOwnedRounds decoder space remaining run =
      run.after (tracedRun (ownedRound decoder space) remaining (run.cpu, run.memory)) := by
  induction remaining generalizing run with
  | zero =>
    rw [runOwnedRounds, tracedRun_zero, OwnedRun.after_nil]
    simp only [Option.map_none, Option.getD_none, Option.bind_none, hfault, hstop]
  | succ remaining ih =>
    have hready : ¬ decoder.init = false := by
      rw [hinit]
      decide
    rw [runOwnedRounds]
    cases hfetch : fetchInstruction decoder space run.cpu run.memory with
    | error stop =>
      have hround : ownedRound decoder space (run.cpu, run.memory) =
          .error ⟨stop.1, stop.2, none⟩ := by
        rw [ownedRound, if_neg hready, hfetch]
      rw [tracedRun_of_error hround, OwnedRun.after_nil]
      simp only [Option.map_some, Option.getD_some, Option.bind_some, hstop]
    | ok record =>
      dsimp only
      rcases stepOwnedX8664_cases decoder space record run.cpu run.memory with
        ⟨stop, hstep⟩ | ⟨committed, cpu', memory', hstep, hwrites, hstore⟩
      · rw [hstep, tracedRun_of_error (ownedRound_of_refused hinit hfetch hstep),
          OwnedRun.after_nil]
        simp only [Option.map_some, Option.getD_some, Option.bind_some, hfault]
      · rw [hstep, tracedRun_of_ok (ownedRound_of_step hinit hfetch hstep)]
        dsimp only
        rw [ih hroom.retire hfault hstop]
        exact OwnedRun.retire_after hroom hwrites _

/-- A run of a budget that is accepted, with room in the span for all of it. -/
structure Accepted (budget : ℕ) (span : List OwnedCpuTraceStep) : Prop where
  pos : 0 < budget
  atMost : budget ≤ kC1MaxOwnedRunInstructions
  room : budget ≤ span.length

/-- **A run is a traced run**: its records are at the front of the span, unless the span is empty,
and the report counts them. -/
theorem runOwnedX8664_eq_after (hpos : 0 < n) (hmax : n ≤ kC1MaxOwnedRunInstructions)
    (hroom : span.isEmpty = true ∨ n ≤ span.length) :
    runOwnedX8664 decoder space cpu memory n span =
      (⟨cpu, memory, span, {}⟩ : OwnedRun).after
        (tracedRun (ownedRound decoder space) n (cpu, memory)) := by
  have hbudget : ¬ (n = 0 ∨ n > kC1MaxOwnedRunInstructions ∨
      (¬ span.isEmpty = true ∧ span.length < n)) := by
    rw [not_or, not_or, not_and]
    exact ⟨by omega, by omega, fun hspan => not_lt.mpr (hroom.resolve_left hspan)⟩
  rw [runOwnedX8664]
  dsimp only
  rw [if_neg hbudget]
  by_cases hinit : decoder.init = false
  · obtain ⟨k, rfl⟩ := Nat.exists_eq_succ_of_ne_zero hpos.ne'
    have hround : ownedRound decoder space (cpu, memory) = .error ⟨.invalidEncoding, none, none⟩ :=
      if_pos hinit
    rw [if_pos hinit, Nat.succ_eq_add_one, tracedRun_of_error hround, OwnedRun.after_nil]
    rfl
  · rw [if_neg hinit, runOwnedRounds_eq (Bool.eq_true_of_not_eq_false hinit) ?_ rfl rfl]
    · rfl
    · rw [OwnedRun.HasRoom, Nat.zero_add]
      exact hroom

theorem runOwnedX8664_eq (h : Accepted n span) :
    runOwnedX8664 decoder space cpu memory n span =
      (⟨cpu, memory, span, {}⟩ : OwnedRun).after
        (tracedRun (ownedRound decoder space) n (cpu, memory)) :=
  runOwnedX8664_eq_after h.pos h.atMost (.inr h.room)

end Run

/-! ### Replay -/

/-- The steps that a run recorded in its span. -/
def OwnedRun.recorded (run : OwnedRun) : List OwnedCpuTraceStep :=
  run.trace.take run.report.traceSteps

/-- The store of a step, in what the guest sees. -/
def replayStep (view : MappedStore) (step : OwnedCpuTraceStep) : Option MappedStore :=
  match step.guestWriteAddress with
  | none => some view
  | some address => view.write (address.toNat, step.guestWriteBytes)

/-- The store of a step, made again through the address space. -/
def rewriteStep (space : OwnedGuestAddressSpace) (memory : ℕ → UInt8) (step : OwnedCpuTraceStep) :
    Except OwnedGuestMemoryFault (ℕ → UInt8) :=
  match step.guestWriteAddress with
  | none => .ok memory
  | some address => space.write memory address step.guestWriteBytes

/-- A step says nothing of memory, or names a store of eight bytes. -/
structure OwnedCpuTraceStep.WellFormed (step : OwnedCpuTraceStep) : Prop where
  afterRip : step.afterRip = step.afterContext.rip
  size : step.guestWriteSize = if step.stores = true then 8 else 0
  bytes : step.stores = true → step.guestWriteBytes.length = 8

/-- What the trace of a run says of the run. -/
structure Replayable (decoder : ZydisDecoder) (space : OwnedGuestAddressSpace)
    (cpu : GuestCpuContext) (memory : ℕ → UInt8) (budget : ℕ) (span : List OwnedCpuTraceStep)
    (run : OwnedRun) : Prop where
  /-- A step is recorded for each instruction that retired, and no other entry of the span is
  touched. -/
  recorded : run.recorded.length = run.report.retiredInstructions ∧
    run.report.traceSteps = run.report.retiredInstructions ∧
    run.trace = run.recorded ++ span.drop run.report.retiredInstructions
  budget : run.report.retiredInstructions ≤ budget ∧
    (run.report.stop = .budgetExhausted ↔ run.report.retiredInstructions = budget)
  steps : ∀ step ∈ run.recorded, step.WellFormed
  /-- The stores in the trace make the memory at the end of the memory at the beginning. -/
  replay : run.recorded.foldlM replayStep (space.guestView memory) =
    some (space.guestView run.memory)
  rewrite : run.recorded.foldlM (rewriteStep space) memory = .ok run.memory
  unbacked : ∀ x, space.Unbacked x → run.memory x = memory x
  guestWrites : run.report.guestWrites = run.recorded.countP OwnedCpuTraceStep.stores
  first : ∀ step ∈ run.recorded.head?, step.beforeRip = cpu.rip
  chain : run.recorded.IsChain fun step next => step.afterRip = next.beforeRip
  last : run.cpu = (run.recorded.getLast?.map OwnedCpuTraceStep.afterContext).getD cpu
  stopRip : run.report.stopRip = run.cpu.rip
  /-- Nothing of the instruction that the run stopped at is left: the run ends where it would with a
  budget of the instructions that retired. -/
  retired : 0 < run.report.retiredInstructions →
    runOwnedX8664 decoder space cpu memory run.report.retiredInstructions span =
      { run with report := { run.report with
        stop := .budgetExhausted, memoryFault := none, stepStop := none } }
  unchanged : run.report.retiredInstructions = 0 → run.cpu = cpu ∧ run.memory = memory

/-- A whole run is a first one and a second one that goes on from where the first ends. -/
structure Continues (first second whole : OwnedRun) : Prop where
  cpu : whole.cpu = second.cpu
  memory : whole.memory = second.memory
  recorded : whole.recorded = first.recorded ++ second.recorded
  report : whole.report = { second.report with
    retiredInstructions := first.report.retiredInstructions + second.report.retiredInstructions
    guestWrites := first.report.guestWrites + second.report.guestWrites
    traceSteps := first.report.traceSteps + second.report.traceSteps }

section Replay

variable {decoder : ZydisDecoder} {space : OwnedGuestAddressSpace} {cpu : GuestCpuContext}
  {memory : ℕ → UInt8} {n : ℕ} {span : List OwnedCpuTraceStep}

/-- The run of a traced run over a span with room for it. -/
theorem runOwnedX8664_eq_mk (h : Accepted n span) :
    runOwnedX8664 decoder space cpu memory n span =
      let traced := tracedRun (ownedRound decoder space) n (cpu, memory)
      ⟨traced.state.1, traced.state.2, traced.records ++ span.drop traced.records.length,
        { retiredInstructions := traced.records.length
          guestWrites := traced.records.countP OwnedCpuTraceStep.stores
          traceSteps := traced.records.length
          stop := (traced.stop.map OwnedRunStop.code).getD .budgetExhausted
          stopRip := traced.state.1.rip
          memoryFault := traced.stop.bind OwnedRunStop.memoryFault
          stepStop := traced.stop.bind OwnedRunStop.stepStop }⟩ := by
  have hspan : ¬ span.isEmpty = true := by
    have hpos := h.pos
    have hroom := h.room
    rw [List.isEmpty_iff_length_eq_zero]
    omega
  rw [runOwnedX8664_eq h]
  simp only [OwnedRun.after, if_neg hspan, Nat.zero_add, List.take_zero, List.nil_append]

theorem recorded_eq (h : Accepted n span) :
    (runOwnedX8664 decoder space cpu memory n span).recorded =
      (tracedRun (ownedRound decoder space) n (cpu, memory)).records := by
  rw [runOwnedX8664_eq_mk h]
  exact List.take_left

theorem ownedRound_error_code {state : GuestCpuContext × (ℕ → UInt8)} {stop : OwnedRunStop}
    (h : ownedRound decoder space state = .error stop) : stop.code ≠ .budgetExhausted := by
  rw [ownedRound] at h
  by_cases hinit : decoder.init = false
  · rw [if_pos hinit] at h
    cases h
    decide
  · rw [if_neg hinit] at h
    cases hfetch : fetchInstruction decoder space state.1 state.2 with
    | error refused =>
      rw [hfetch] at h
      cases h
      simp only [fetchInstruction, bind_eq_error, refuseIf_eq_error, orRefuse_eq_error,
        pure_ne_error, and_false, exists_false, or_false] at hfetch
      rcases hfetch with ⟨-, rfl⟩ | ⟨_, -, ⟨-, rfl⟩ | ⟨_, -, -, rfl⟩⟩
      · exact OwnedCpuRunStopCode.noConfusion
      · dsimp only
        split_ifs <;> decide
      · dsimp only
        split_ifs <;> decide
    | ok record =>
      rw [hfetch] at h
      dsimp only at h
      rcases stepOwnedX8664_cases decoder space record state.1 state.2
        with ⟨stop, hstep⟩ | ⟨_, _, _, hstep, -⟩
      · rw [hstep] at h
        cases h
        exact OwnedCpuRunStopCode.noConfusion
      · rw [hstep] at h
        cases h

/-- The budget is used up when the traced run has not stopped. -/
theorem stop_eq_budgetExhausted (h : Accepted n span) :
    (runOwnedX8664 decoder space cpu memory n span).report.stop = .budgetExhausted ↔
      (tracedRun (ownedRound decoder space) n (cpu, memory)).stop = none := by
  rw [runOwnedX8664_eq_mk h]
  dsimp only
  cases hstop : (tracedRun (ownedRound decoder space) n (cpu, memory)).stop with
  | none => exact iff_of_true rfl rfl
  | some stop =>
    exact iff_of_false (ownedRound_error_code (tracedRun_stop hstop)) (Option.some_ne_none stop)

variable {state next : GuestCpuContext × (ℕ → UInt8)} {step : OwnedCpuTraceStep}

section

variable (h : ownedRound decoder space state = .ok (next, step))

include h

theorem wellFormed_of_ownedRound : step.WellFormed := by
  have hrecorded := ownedRound_eq_ok h
  refine ⟨?_, ?_, ?_⟩
  · rw [hrecorded.afterRip, hrecorded.afterContext]
  · rw [OwnedCpuTraceStep.stores]
    cases haddress : step.guestWriteAddress with
    | none => exact (hrecorded.store.unchanged haddress).1
    | some address => exact (hrecorded.store.stored address haddress).1
  · intro hstores
    obtain ⟨address, haddress⟩ := Option.isSome_iff_exists.mp hstores
    exact (hrecorded.store.stored address haddress).2.1

/-- A record changes what the guest sees as its round does. -/
theorem replayStep_of_ownedRound :
    replayStep (space.guestView state.2) step = pure (space.guestView next.2) := by
  have hrecorded := ownedRound_eq_ok h
  rw [replayStep]
  cases haddress : step.guestWriteAddress with
  | none =>
    rw [(hrecorded.store.unchanged haddress).2]
    rfl
  | some address =>
    exact OwnedGuestAddressSpace.guestView_write (hrecorded.store.stored address haddress).2.2

theorem rewriteStep_of_ownedRound : rewriteStep space state.2 step = pure next.2 := by
  have hrecorded := ownedRound_eq_ok h
  rw [rewriteStep]
  cases haddress : step.guestWriteAddress with
  | none =>
    rw [(hrecorded.store.unchanged haddress).2]
    rfl
  | some address => exact (hrecorded.store.stored address haddress).2.2

theorem unbacked_of_ownedRound {x : ℕ} (hx : space.Unbacked x) : next.2 x = state.2 x := by
  have hrecorded := ownedRound_eq_ok h
  cases haddress : step.guestWriteAddress with
  | none => rw [(hrecorded.store.unchanged haddress).2]
  | some address =>
    exact OwnedGuestAddressSpace.write_frame (hrecorded.store.stored address haddress).2.2 hx

end

/-- **The trace of a run says what the run did.** -/
theorem replayable (h : Accepted n span) :
    Replayable decoder space cpu memory n span (runOwnedX8664 decoder space cpu memory n span) := by
  have hfollows := tracedRun_follows (ownedRound decoder space) n (cpu, memory)
  obtain ⟨hlength, hfull⟩ := tracedRun_length (ownedRound decoder space) n (cpu, memory)
  have hretired := tracedRun_retired (ownedRound decoder space) n (cpu, memory)
  have hrecorded := @recorded_eq decoder space cpu memory n span h
  have hstop := @stop_eq_budgetExhausted decoder space cpu memory n span h
  have hrun := @runOwnedX8664_eq_mk decoder space cpu memory n span h
  obtain ⟨hfirst, hchain⟩ := hfollows.isChain
    (fun hround => (ownedRound_eq_ok hround).beforeRip)
      (fun hround => (ownedRound_eq_ok hround).afterRip)
  constructor
  case recorded =>
    rw [hrecorded, hrun]
    exact ⟨rfl, rfl, rfl⟩
  case budget =>
    rw [hstop, hrun]
    exact ⟨hlength, hfull⟩
  case steps =>
    rw [hrecorded]
    exact hfollows.forall_mem fun hround => wellFormed_of_ownedRound hround
  case replay =>
    rw [hrecorded, hrun]
    exact hfollows.replay fun hround => replayStep_of_ownedRound hround
  case rewrite =>
    rw [hrecorded, hrun]
    exact hfollows.replay fun hround => rewriteStep_of_ownedRound hround
  case unbacked =>
    intro x hx
    rw [hrun]
    exact hfollows.frame fun hround => unbacked_of_ownedRound hround hx
  case guestWrites =>
    rw [hrecorded, hrun]
  case first =>
    rw [hrecorded]
    exact hfirst
  case chain =>
    rw [hrecorded]
    exact hchain
  case last =>
    rw [hrecorded, hrun]
    exact hfollows.last_eq fun hround => (ownedRound_eq_ok hround).afterContext
  case stopRip =>
    rw [hrun]
  case retired =>
    intro hpos
    rw [hrun] at hpos ⊢
    dsimp only at hpos ⊢
    have hprefix : Accepted (tracedRun (ownedRound decoder space) n (cpu, memory)).records.length
        span :=
      ⟨hpos, hlength.trans h.atMost, hlength.trans h.room⟩
    rw [runOwnedX8664_eq_mk hprefix, hretired]
    rfl
  case unchanged =>
    intro hzero
    rw [hrun] at hzero ⊢
    dsimp only at hzero ⊢
    rw [hzero, tracedRun_zero] at hretired
    have hstate := congrArg TracedRun.state hretired
    exact ⟨(congrArg Prod.fst hstate).symm, (congrArg Prod.snd hstate).symm⟩

/-- A run whose budget is used up goes on as a second run. -/
theorem continues {m : ℕ} {span₂ span' : List OwnedCpuTraceStep} (h : Accepted n span)
    (hexhausted : (runOwnedX8664 decoder space cpu memory n span).report.stop = .budgetExhausted)
    (h₂ : Accepted m span₂) (h' : Accepted (n + m) span') :
    let first := runOwnedX8664 decoder space cpu memory n span
    Continues first (runOwnedX8664 decoder space first.cpu first.memory m span₂)
      (runOwnedX8664 decoder space cpu memory (n + m) span') := by
  rw [stop_eq_budgetExhausted h] at hexhausted
  have hadd := tracedRun_add m hexhausted
  dsimp only
  have hcpu : (runOwnedX8664 decoder space cpu memory n span).cpu =
      (tracedRun (ownedRound decoder space) n (cpu, memory)).state.1 := by
        rw [runOwnedX8664_eq_mk h]
  have hmemory : (runOwnedX8664 decoder space cpu memory n span).memory =
      (tracedRun (ownedRound decoder space) n (cpu, memory)).state.2 := by
        rw [runOwnedX8664_eq_mk h]
  rw [hcpu, hmemory]
  constructor
  case cpu => rw [runOwnedX8664_eq_mk h', runOwnedX8664_eq_mk h₂, hadd]
  case memory => rw [runOwnedX8664_eq_mk h', runOwnedX8664_eq_mk h₂, hadd]
  case recorded => rw [recorded_eq h, recorded_eq h₂, recorded_eq h', hadd]
  case report =>
    rw [runOwnedX8664_eq_mk h, runOwnedX8664_eq_mk h₂, runOwnedX8664_eq_mk h', hadd]
    dsimp only
    rw [List.length_append, List.countP_append]

end Replay

/-- **Owned runs are replayable from their trace**, and split where their budget does. -/
theorem runOwnedX8664_replayable (decoder : ZydisDecoder) (space : OwnedGuestAddressSpace)
    (cpu : GuestCpuContext) (memory : ℕ → UInt8) (n : ℕ) (span : List OwnedCpuTraceStep)
    (h : Accepted n span) :
    Replayable decoder space cpu memory n span (runOwnedX8664 decoder space cpu memory n span) ∧
      ((runOwnedX8664 decoder space cpu memory n span).report.stop = .budgetExhausted →
        ∀ (m : ℕ) (span₂ span' : List OwnedCpuTraceStep),
          Accepted m span₂ → Accepted (n + m) span' →
          Continues (runOwnedX8664 decoder space cpu memory n span)
            (runOwnedX8664 decoder space (runOwnedX8664 decoder space cpu memory n span).cpu
              (runOwnedX8664 decoder space cpu memory n span).memory m span₂)
            (runOwnedX8664 decoder space cpu memory (n + m) span')) := by
  refine ⟨replayable h, ?_⟩
  intro hexhausted m span₂ span' h₂ h'
  exact continues h hexhausted h₂ h'

/-- A decoder of `PUSH RBP`. -/
def pushDecoder : ZydisDecoder where
  init := true
  decodeFull
    | 0x55 :: _ => some ⟨.push, 1, 1, [{ type := .register, size := 64, reg := .rbp }]⟩
    | _ => none

/-- One region that may be read, written and executed. -/
def pushSpace : OwnedGuestAddressSpace :=
  (OwnedGuestAddressSpace.empty.map 0x1000 ⟨0x20000, 0x40⟩ ⟨7, by decide⟩).2

/-- A context that is about to push. -/
def pushContext : GuestCpuContext := { rip := 0x1000, rsp := 0x1040, rbp := 0x1122334455667788 }

/-- A host memory with `PUSH RBP` everywhere. -/
def pushMemory : ℕ → UInt8 := fun _ => 0x55

/-- So many steps that are alike. -/
def pushSpan (size : ℕ) : List OwnedCpuTraceStep := List.replicate size ⟨0, 0, {}, none, 0, []⟩

/-- The second instruction pushes once more, and a run of three is a run of two and a run of one. -/
theorem pushRun_replayable :
    Replayable pushDecoder pushSpace pushContext pushMemory 2 (pushSpan 2)
        (runOwnedX8664 pushDecoder pushSpace pushContext pushMemory 2 (pushSpan 2)) ∧
      (runOwnedX8664 pushDecoder pushSpace pushContext pushMemory 2
        (pushSpan 2)).report.guestWrites = 2 ∧
      Continues (runOwnedX8664 pushDecoder pushSpace pushContext pushMemory 2 (pushSpan 2))
        (runOwnedX8664 pushDecoder pushSpace
          (runOwnedX8664 pushDecoder pushSpace pushContext pushMemory 2 (pushSpan 2)).cpu
          (runOwnedX8664 pushDecoder pushSpace pushContext pushMemory 2 (pushSpan 2)).memory 1
            (pushSpan 1))
        (runOwnedX8664 pushDecoder pushSpace pushContext pushMemory (2 + 1) (pushSpan 3)) := by
  have hfirst : Accepted 2 (pushSpan 2) := ⟨by decide, by decide, by decide⟩
  have hsecond : Accepted 1 (pushSpan 1) := ⟨by decide, by decide, by decide⟩
  have hwhole : Accepted (2 + 1) (pushSpan 3) := ⟨by decide, by decide, by decide⟩
  have hstop :
    (runOwnedX8664 pushDecoder pushSpace pushContext pushMemory 2 (pushSpan 2)).report.stop =
      .budgetExhausted := by decide +kernel
  obtain ⟨hreplay, hsplit⟩ :=
    runOwnedX8664_replayable pushDecoder pushSpace pushContext pushMemory 2 (pushSpan 2) hfirst
  exact ⟨hreplay, by decide +kernel, hsplit hstop 1 (pushSpan 1) (pushSpan 3) hsecond hwhole⟩

end Astraea.Research
