import Astraea.Research.OwnedCpuStep

/-!
# Effect ledgers

A ledger takes down the guest writes of one instruction. It is begun with the context before the
instruction, each write that is appended is read back from guest memory, and when it is finished it
gives out a report. Whatever it refuses while it records poisons it.

`OwnedCpuEffectLedger` is used once. `ownedCpuEffectLedger_publishes_once` says so for calls in any
order: at most one report is given out, and it lists the writes whose append was granted.
-/

namespace Astraea.Research

open Astraea.Base Astraea.Execution

/-- `OwnedEffectOutcome`. A value of the enumeration's type need not be one of its names. -/
inductive OwnedEffectOutcome where
  | retired
  | refusedBeforeEffects
  | faultAfterEffects
  | unnamed (value : Int32)
  deriving DecidableEq

/-- A fault that a ledger tells of. -/
inductive OwnedEffectFault where
  | none
  | unsupportedInstruction
  | invalidInstruction
  | memoryUnmapped
  | memoryPermission
  | other
  | unnamed (value : Int32)
  deriving DecidableEq

/-- The most writes that are recorded. -/
def kMaxEvents : ℕ := 64

/-- The most bytes of a write. -/
def kMaxEffectBytes : ℕ := 64

/-- A write, with its bytes at the front of an array of `kMaxEffectBytes`. -/
structure OwnedVerifiedGuestWrite where
  guestAddress : UInt64
  size : ℕ
  bytes : List UInt8
  deriving DecidableEq

/-- `OwnedCpuEffectReport`, with the first `write_count` of its writes. -/
structure OwnedCpuEffectReport where
  instructionRip : UInt64 := 0
  beforeContext : GuestCpuContext := {}
  afterContext : GuestCpuContext := {}
  outcome : OwnedEffectOutcome := .refusedBeforeEffects
  fault : OwnedEffectFault := .none
  faultAddress : Option UInt64 := none
  writes : List OwnedVerifiedGuestWrite := []
  deriving DecidableEq

/-- How far a ledger is. -/
inductive OwnedLedgerPhase where
  | unused
  | recording
  | poisoned
  | finished
  deriving DecidableEq

/-- A ledger: its phase and what it has recorded. -/
structure OwnedCpuEffectLedger where
  phase : OwnedLedgerPhase := .unused
  report : OwnedCpuEffectReport := {}
  deriving DecidableEq

namespace OwnedCpuEffectLedger

/-- `poison`. -/
def poison (ledger : OwnedCpuEffectLedger) : OwnedCpuEffectLedger :=
  { ledger with phase := .poisoned }

/-- `begin`: whether it is granted, and the ledger after it. -/
def begin (ledger : OwnedCpuEffectLedger) (before : GuestCpuContext) :
    Bool × OwnedCpuEffectLedger :=
  if ledger.phase ≠ .unused then (false, ledger)
  else
    let report := { ledger.report with instructionRip := before.rip, beforeContext := before }
    (true, { phase := .recording, report := report })

/-- `append_completed_write`. -/
def appendCompletedWrite (ledger : OwnedCpuEffectLedger) (guestAddress : UInt64)
    (committed : List UInt8) (space : OwnedGuestAddressSpace) (memory : ℕ → UInt8) :
    Bool × OwnedCpuEffectLedger :=
  if ledger.phase ≠ .recording then (false, ledger)
  else if committed.length = 0 ∨ committed.length > kMaxEffectBytes ∨
    ledger.report.writes.length ≥ kMaxEvents ∨
      committed.length > 2 ^ 64 - 1 - guestAddress.toNat then (false, ledger.poison)
  else
    match space.read memory guestAddress committed.length with
    | .error _ => (false, ledger.poison)
    | .ok readback =>
      if readback ≠ committed then (false, ledger.poison)
      else
        let effect : OwnedVerifiedGuestWrite :=
          ⟨guestAddress, committed.length,
            committed ++ List.replicate (kMaxEffectBytes - committed.length) 0⟩
        (true, { ledger with
          report := { ledger.report with writes := ledger.report.writes ++ [effect] } })

/-- What the outcome asks of the fault, the writes and the context after the instruction. -/
def outcomeRefused (report : OwnedCpuEffectReport) (outcome : OwnedEffectOutcome)
    (after : GuestCpuContext) (fault : OwnedEffectFault) (faultAddress : Option UInt64) : Bool :=
  match outcome with
  | .retired => decide (fault ≠ .none ∨ faultAddress.isSome = true)
  | .refusedBeforeEffects =>
    decide (fault = .none ∨ report.writes.length ≠ 0 ∨ after ≠ report.beforeContext)
  | .faultAfterEffects =>
    decide (fault = .none ∨ report.writes.length = 0 ∨ after.rip ≠ report.instructionRip)
  | .unnamed _ => true

/-- `finish`: the report that is given out when it is granted, and the ledger after it. -/
def finish (ledger : OwnedCpuEffectLedger) (outcome : OwnedEffectOutcome) (after : GuestCpuContext)
    (fault : OwnedEffectFault) (faultAddress : Option UInt64) :
    Option OwnedCpuEffectReport × OwnedCpuEffectLedger :=
  if ledger.phase ≠ .recording then (none, ledger)
  else if outcomeRefused ledger.report outcome after fault faultAddress = true then
    (none, ledger.poison)
  else
    let report := { ledger.report with
      outcome := outcome, afterContext := after, fault := fault, faultAddress := faultAddress }
    (some report, ⟨.finished, report⟩)

end OwnedCpuEffectLedger

/-! ### Calls -/

/-- A call of a ledger. Each append comes with the guest memory at its time. -/
inductive OwnedLedgerCall where
  | begin (before : GuestCpuContext)
  | append (guestAddress : UInt64) (committed : List UInt8) (space : OwnedGuestAddressSpace)
      (memory : ℕ → UInt8)
  | finish (outcome : OwnedEffectOutcome) (after : GuestCpuContext) (fault : OwnedEffectFault)
      (faultAddress : Option UInt64)

/-- What a call returns: whether it was granted, and the report of a `finish` that was. -/
structure OwnedLedgerAnswer where
  granted : Bool
  report : Option OwnedCpuEffectReport

/-- Calls of a ledger with their answers. -/
abbrev OwnedLedgerLog := List (OwnedLedgerCall × OwnedLedgerAnswer)

/-- One call. -/
def OwnedCpuEffectLedger.call (ledger : OwnedCpuEffectLedger) :
    OwnedLedgerCall → OwnedLedgerAnswer × OwnedCpuEffectLedger
  | .begin before =>
    let (granted, after) := ledger.begin before
    (⟨granted, none⟩, after)
  | .append guestAddress committed space memory =>
    let (granted, after) := ledger.appendCompletedWrite guestAddress committed space memory
    (⟨granted, none⟩, after)
  | .finish outcome context fault faultAddress =>
    let (report, after) := ledger.finish outcome context fault faultAddress
    (⟨report.isSome, report⟩, after)

/-- Calls one after the other, with their answers. -/
def runLedger (ledger : OwnedCpuEffectLedger) :
    List OwnedLedgerCall → OwnedLedgerLog × OwnedCpuEffectLedger
  | [] => ([], ledger)
  | next :: rest =>
    let (answer, after) := ledger.call next
    let (log, last) := runLedger after rest
    ((next, answer) :: log, last)

/-- The address and the bytes of an append that was granted. -/
def appended : OwnedLedgerCall × OwnedLedgerAnswer → Option (UInt64 × List UInt8)
  | (.append guestAddress committed _ _, ⟨true, _⟩) => some (guestAddress, committed)
  | _ => none

/-- The address and the bytes of a write in a report. -/
def OwnedVerifiedGuestWrite.effect (write : OwnedVerifiedGuestWrite) : UInt64 × List UInt8 :=
  (write.guestAddress, write.bytes.take write.size)

/-! ### One call -/

section Calls

variable {ledger : OwnedCpuEffectLedger} {next : OwnedLedgerCall}

/-- Nothing is granted to a ledger that is poisoned or finished, and it stays as it is. -/
theorem call_of_dead (h : ledger.phase = .poisoned ∨ ledger.phase = .finished)
    (next : OwnedLedgerCall) :
    ledger.call next = (⟨false, none⟩, ledger) := by
  have hunused : ledger.phase ≠ .unused := by
    rcases h with h | h <;> rw [h] <;> decide
  have hrecording : ledger.phase ≠ .recording := by
    rcases h with h | h <;> rw [h] <;> decide
  cases next with
  | begin before => simp only [OwnedCpuEffectLedger.call, OwnedCpuEffectLedger.begin,
      if_pos hunused]
  | append guestAddress committed space memory =>
    simp only [OwnedCpuEffectLedger.call, OwnedCpuEffectLedger.appendCompletedWrite,
      if_pos hrecording]
  | finish outcome after fault faultAddress =>
    simp only [OwnedCpuEffectLedger.call, OwnedCpuEffectLedger.finish, if_pos hrecording,
      Option.isSome_none]

/-- An append to a ledger that records is granted, with the bytes that are in guest memory, or
poisons. -/
theorem append_cases (h : ledger.phase = .recording) (guestAddress : UInt64)
    (committed : List UInt8) (space : OwnedGuestAddressSpace) (memory : ℕ → UInt8) :
    ledger.call (.append guestAddress committed space memory) = (⟨false, none⟩, ledger.poison) ∨
      ∃ effect : OwnedVerifiedGuestWrite, effect.effect = (guestAddress, committed) ∧
        effect.size = committed.length ∧
        0 < committed.length ∧ committed.length ≤ kMaxEffectBytes ∧
        ledger.report.writes.length < kMaxEvents ∧
        space.read memory guestAddress committed.length = .ok committed ∧
        ledger.call (.append guestAddress committed space memory) =
          (⟨true, none⟩, { ledger with
            report := { ledger.report with writes := ledger.report.writes ++ [effect] } }) := by
  simp only [OwnedCpuEffectLedger.call, OwnedCpuEffectLedger.appendCompletedWrite, h, ne_eq,
    not_true_eq_false, if_false]
  split_ifs with hrefused
  · exact .inl rfl
  · simp only [not_or] at hrefused
    obtain ⟨hpos, hsize, hcount, -⟩ := hrefused
    cases hread : space.read memory guestAddress committed.length with
    | error fault => exact .inl rfl
    | ok readback =>
      dsimp only
      by_cases hsame : readback = committed
      · subst hsame
        rw [if_neg (not_not.mpr rfl)]
        refine .inr ⟨_, ?_, rfl, Nat.pos_of_ne_zero hpos, Nat.le_of_not_lt hsize,
          Nat.lt_of_not_le hcount, rfl, rfl⟩
        rw [OwnedVerifiedGuestWrite.effect, List.take_left]
      · rw [if_pos hsame]
        exact .inl rfl

/-- A finish of a ledger that records gives out a report that its outcome allows, or poisons. -/
theorem finish_cases (h : ledger.phase = .recording) (outcome : OwnedEffectOutcome)
    (after : GuestCpuContext) (fault : OwnedEffectFault) (faultAddress : Option UInt64) :
    ledger.call (.finish outcome after fault faultAddress) = (⟨false, none⟩, ledger.poison) ∨
      ∃ report, report = { ledger.report with
          outcome := outcome, afterContext := after, fault := fault,
          faultAddress := faultAddress } ∧
        OwnedCpuEffectLedger.outcomeRefused ledger.report outcome after fault faultAddress = false ∧
        ledger.call (.finish outcome after fault faultAddress) =
          (⟨true, some report⟩, ⟨.finished, report⟩) := by
  simp only [OwnedCpuEffectLedger.call, OwnedCpuEffectLedger.finish, h, ne_eq, not_true_eq_false,
    if_false]
  cases hrefused :
    OwnedCpuEffectLedger.outcomeRefused ledger.report outcome after fault faultAddress with
  | true => exact .inl rfl
  | false => exact .inr ⟨_, rfl, rfl, rfl⟩

end Calls

/-! ### The record of a run -/

/-- The call begins a recording. -/
def isBegin : OwnedLedgerCall → Bool
  | .begin _ => true
  | _ => false

/-- The call ends a recording. -/
def isFinish : OwnedLedgerCall → Bool
  | .finish .. => true
  | _ => false

/-- The ledger was begun once, and lists what was appended since. -/
structure BegunIn (log : OwnedLedgerLog) (report : OwnedCpuEffectReport) : Prop where
  since : ∃ earlier before later, log = earlier ++ (.begin before, ⟨true, none⟩) :: later ∧
    (∀ entry ∈ earlier, isBegin entry.1 = false ∧ entry.2.granted = false) ∧
    report.writes.map OwnedVerifiedGuestWrite.effect = later.filterMap appended ∧
    report.beforeContext = before ∧ report.instructionRip = before.rip
  count : report.writes.length ≤ kMaxEvents
  sizes : ∀ write ∈ report.writes, 1 ≤ write.size ∧ write.size ≤ kMaxEffectBytes

/-- An append that was granted found its bytes in guest memory. -/
def AppendMatched : OwnedLedgerCall × OwnedLedgerAnswer → Prop
  | (.append guestAddress committed space memory, ⟨true, _⟩) =>
    1 ≤ committed.length ∧ committed.length ≤ kMaxEffectBytes ∧
      space.read memory guestAddress committed.length = .ok committed
  | _ => True

/-- A report that was given out is the one finish of the log that was granted. -/
def publications (log : OwnedLedgerLog) : OwnedLedgerLog :=
  log.filter fun entry => isFinish entry.1 && entry.2.granted

/-- What the log of a run and its ledger have to do with each other, phase by phase. -/
structure LedgerInv (log : OwnedLedgerLog) (ledger : OwnedCpuEffectLedger) : Prop where
  unused : ledger.phase = .unused → ledger.report = {} ∧
    ∀ entry ∈ log, isBegin entry.1 = false ∧ entry.2.granted = false
  recording : ledger.phase = .recording → BegunIn log ledger.report
  published : (publications log).length ≤ 1
  unpublished : ledger.phase ≠ .finished → publications log = []
  matched : ∀ entry ∈ log, AppendMatched entry
  count : ledger.report.writes.length ≤ kMaxEvents
  sizes : ∀ write ∈ ledger.report.writes, 1 ≤ write.size ∧ write.size ≤ kMaxEffectBytes

section Record

variable {log : OwnedLedgerLog} {ledger : OwnedCpuEffectLedger} {next : OwnedLedgerCall}

theorem ledgerInv_unused : LedgerInv [] {} where
  unused _ := ⟨rfl, fun _ hentry => absurd hentry List.not_mem_nil⟩
  recording h := by cases h
  published := Nat.zero_le _
  unpublished _ := rfl
  matched _ hentry := absurd hentry List.not_mem_nil
  count := Nat.zero_le _
  sizes _ hwrite := absurd hwrite List.not_mem_nil

theorem publications_concat (log : OwnedLedgerLog) (entry : OwnedLedgerCall × OwnedLedgerAnswer) :
    publications (log ++ [entry]) = publications log ++ if (isFinish entry.1 && entry.2.granted) =
      true then [entry] else [] := by
  rw [publications, List.filter_append, List.filter_singleton, publications, Bool.cond_eq_ite]

section

variable (h : LedgerInv log ledger)

include h

/-- A call that is not granted and leaves or poisons the ledger keeps the record. -/
theorem LedgerInv.refused {ledger' : OwnedCpuEffectLedger}
    (hreport : ledger'.report = ledger.report)
    (hphase : ledger'.phase = ledger.phase ∨ ledger'.phase = .poisoned ∧ ledger.phase = .recording)
    (hbegin : ledger'.phase = .unused → isBegin next = false) :
    LedgerInv (log ++ [(next, ⟨false, none⟩)]) ledger' := by
  have hpublications : publications (log ++ [(next, ⟨false, none⟩)]) = publications log := by
    rw [publications_concat, if_neg (by simp), List.append_nil]
  refine ⟨?_, ?_, ?_, ?_, ?_, hreport ▸ h.count, hreport ▸ h.sizes⟩
  · intro hunused
    have hbefore : ledger.phase = .unused := by
      rcases hphase with hsame | ⟨hpoisoned, -⟩
      · rw [← hsame, hunused]
      · rw [hpoisoned] at hunused
        cases hunused
    obtain ⟨hempty, hsilent⟩ := h.unused hbefore
    refine ⟨hreport.trans hempty, List.forall_mem_append.mpr ⟨hsilent, ?_⟩⟩
    exact List.forall_mem_singleton.mpr ⟨hbegin hunused, rfl⟩
  · intro hrecording
    have hbefore : ledger.phase = .recording := by
      rcases hphase with hsame | ⟨hpoisoned, -⟩
      · rw [← hsame, hrecording]
      · rw [hpoisoned] at hrecording
        cases hrecording
    obtain ⟨⟨earlier, before, later, rfl, hearlier, hwrites, hcontext, hrip⟩, hcount, hsizes⟩ :=
      h.recording hbefore
    rw [hreport]
    refine ⟨⟨earlier, before, later ++ [(next, ⟨false, none⟩)], ?_, hearlier, ?_, hcontext, hrip⟩,
      hcount, hsizes⟩
    · rw [List.append_assoc, List.cons_append]
    · have hnone : appended (next, ⟨false, none⟩) = none := by
        cases next <;> rfl
      rw [List.filterMap_append, List.filterMap_cons, hnone, List.filterMap_nil, List.append_nil]
      exact hwrites
  · rw [hpublications]
    exact h.published
  · intro hphase'
    rw [hpublications]
    refine h.unpublished ?_
    rcases hphase with hsame | ⟨-, hrecording⟩
    · rwa [← hsame]
    · rw [hrecording]
      decide
  · refine List.forall_mem_append.mpr ⟨h.matched, List.forall_mem_singleton.mpr ?_⟩
    cases next <;> exact trivial

theorem LedgerInv.begun (hunused : ledger.phase = .unused) (before : GuestCpuContext) :
    LedgerInv (log ++ [(.begin before, ⟨true, none⟩)])
      ⟨.recording, { ledger.report with
        instructionRip := before.rip, beforeContext := before }⟩ := by
  obtain ⟨hempty, hsilent⟩ := h.unused hunused
  have hwrites : ledger.report.writes = [] := by rw [hempty]
  have hpublications : publications (log ++ [(.begin before, ⟨true, none⟩)]) =
      publications log := by
    rw [publications_concat, if_neg (by simp [isFinish]), List.append_nil]
  refine ⟨?_, ?_, ?_, ?_, ?_, h.count, h.sizes⟩
  · intro hphase
    cases hphase
  · intro _
    refine ⟨⟨log, before, [], rfl, hsilent, ?_, rfl, rfl⟩, h.count, h.sizes⟩
    dsimp only
    rw [hwrites]
    rfl
  · rw [hpublications]
    exact h.published
  · intro _
    rw [hpublications]
    refine h.unpublished ?_
    rw [hunused]
    decide
  · refine List.forall_mem_append.mpr ⟨h.matched, List.forall_mem_singleton.mpr ?_⟩
    exact trivial

theorem LedgerInv.appended (hrecording : ledger.phase = .recording) {guestAddress : UInt64}
    {committed : List UInt8} {space : OwnedGuestAddressSpace} {memory : ℕ → UInt8}
    {effect : OwnedVerifiedGuestWrite} (heffect : effect.effect = (guestAddress, committed))
    (hsize : effect.size = committed.length) (hpos : 0 < committed.length)
    (hle : committed.length ≤ kMaxEffectBytes) (hroom : ledger.report.writes.length < kMaxEvents)
    (hread : space.read memory guestAddress committed.length = .ok committed) :
    LedgerInv (log ++ [(.append guestAddress committed space memory, ⟨true, none⟩)])
      { ledger with report := { ledger.report with
        writes := ledger.report.writes ++ [effect] } } := by
  obtain ⟨⟨earlier, before, later, rfl, hearlier, hwrites, hcontext, hrip⟩, hcount, hsizes⟩ :=
    h.recording hrecording
  have hpublications : publications (earlier ++ (.begin before, ⟨true, none⟩) :: later ++
      [(.append guestAddress committed space memory, ⟨true, none⟩)]) =
        publications (earlier ++ (.begin before, ⟨true, none⟩) :: later) := by
    rw [publications_concat, if_neg (by simp [isFinish]), List.append_nil]
  have hcount' : (ledger.report.writes ++ [effect]).length ≤ kMaxEvents := by
    rw [List.length_append, List.length_singleton]
    exact hroom
  have hsizes' : ∀ write ∈ ledger.report.writes ++ [effect], 1 ≤ write.size ∧
      write.size ≤ kMaxEffectBytes := by
    refine List.forall_mem_append.mpr ⟨hsizes, List.forall_mem_singleton.mpr ?_⟩
    rw [hsize]
    exact ⟨hpos, hle⟩
  refine ⟨?_, ?_, ?_, ?_, ?_, hcount', hsizes'⟩
  · intro hphase
    dsimp only at hphase
    rw [hrecording] at hphase
    cases hphase
  · intro _
    refine ⟨⟨earlier, before,
      later ++ [(.append guestAddress committed space memory, ⟨true, none⟩)], ?_, hearlier, ?_,
      hcontext, hrip⟩, hcount', hsizes'⟩
    · rw [List.append_assoc, List.cons_append]
    · rw [List.map_append, hwrites, List.filterMap_append, List.map_singleton, heffect]
      rfl
  · rw [hpublications]
    exact h.published
  · intro hphase
    rw [hpublications]
    exact h.unpublished hphase
  · refine List.forall_mem_append.mpr ⟨h.matched, List.forall_mem_singleton.mpr ?_⟩
    exact ⟨hpos, hle, hread⟩

theorem LedgerInv.finished (hrecording : ledger.phase = .recording) (hfinish : isFinish next = true)
    {report : OwnedCpuEffectReport} (hwrites : report.writes = ledger.report.writes) :
    LedgerInv (log ++ [(next, ⟨true, some report⟩)]) ⟨.finished, report⟩ := by
  have hnone := h.unpublished (by rw [hrecording]; decide)
  refine ⟨?_, ?_, ?_, ?_, ?_, ?_, ?_⟩
  · intro hphase
    cases hphase
  · intro hphase
    cases hphase
  · rw [publications_concat, hnone, List.nil_append]
    split_ifs
    · exact le_rfl
    · exact Nat.zero_le _
  · intro hphase
    exact absurd rfl hphase
  · refine List.forall_mem_append.mpr ⟨h.matched, List.forall_mem_singleton.mpr ?_⟩
    cases next with
    | begin before => cases hfinish
    | append guestAddress committed space memory => cases hfinish
    | finish outcome after fault faultAddress => exact trivial
  · dsimp only
    rw [hwrites]
    exact h.count
  · dsimp only
    rw [hwrites]
    exact h.sizes

/-- **One call keeps the record**, whatever the phase. -/
theorem LedgerInv.call (next : OwnedLedgerCall) :
    LedgerInv (log ++ [(next, (ledger.call next).1)]) (ledger.call next).2 := by
  cases hphase : ledger.phase with
  | unused =>
    cases next with
    | begin before =>
      have hcall : ledger.call (.begin before) = (⟨true, none⟩,
          ⟨.recording, { ledger.report with
            instructionRip := before.rip, beforeContext := before }⟩) := by
        simp only [OwnedCpuEffectLedger.call, OwnedCpuEffectLedger.begin, hphase, ne_eq,
          not_true_eq_false, if_false]
      rw [hcall]
      exact h.begun hphase before
    | append guestAddress committed space memory =>
      have hcall : ledger.call (.append guestAddress committed space memory) =
          (⟨false, none⟩, ledger) := by
        simp only [OwnedCpuEffectLedger.call, OwnedCpuEffectLedger.appendCompletedWrite, hphase]
        rfl
      rw [hcall]
      exact h.refused rfl (.inl rfl) fun _ => rfl
    | finish outcome after fault faultAddress =>
      have hcall : ledger.call (.finish outcome after fault faultAddress) =
          (⟨false, none⟩, ledger) := by
        simp only [OwnedCpuEffectLedger.call, OwnedCpuEffectLedger.finish, hphase]
        rfl
      rw [hcall]
      exact h.refused rfl (.inl rfl) fun _ => rfl
  | recording =>
    cases next with
    | begin before =>
      have hcall : ledger.call (.begin before) = (⟨false, none⟩, ledger) := by
        simp only [OwnedCpuEffectLedger.call, OwnedCpuEffectLedger.begin, hphase]
        rfl
      rw [hcall]
      refine h.refused rfl (.inl rfl) fun hunused => ?_
      rw [hphase] at hunused
      cases hunused
    | append guestAddress committed space memory =>
      rcases append_cases hphase guestAddress committed space memory with
        hcall | ⟨effect, heffect, hsize, hpos, hle, hroom, hread, hcall⟩
      · rw [hcall]
        exact h.refused rfl (.inr ⟨rfl, hphase⟩) fun _ => rfl
      · rw [hcall]
        exact h.appended hphase heffect hsize hpos hle hroom hread
    | finish outcome after fault faultAddress =>
      rcases finish_cases hphase outcome after fault faultAddress
        with hcall | ⟨report, hreport, -, hcall⟩
      · rw [hcall]
        exact h.refused rfl (.inr ⟨rfl, hphase⟩) fun _ => rfl
      · rw [hcall]
        exact h.finished hphase rfl (by rw [hreport])
  | poisoned =>
    rw [call_of_dead (.inl hphase)]
    refine h.refused rfl (.inl rfl) fun hunused => ?_
    rw [hphase] at hunused
    cases hunused
  | finished =>
    rw [call_of_dead (.inr hphase)]
    refine h.refused rfl (.inl rfl) fun hunused => ?_
    rw [hphase] at hunused
    cases hunused

/-- **A run keeps the record**, by induction on its calls. -/
theorem LedgerInv.run (calls : List OwnedLedgerCall) :
    LedgerInv (log ++ (runLedger ledger calls).1) (runLedger ledger calls).2 := by
  induction calls generalizing log ledger with
  | nil =>
    rw [runLedger, List.append_nil]
    exact h
  | cons next rest ih =>
    have hrest := ih (h.call next)
    rw [List.append_assoc] at hrest
    exact hrest

end

/-- Nothing is granted in a run from a ledger that is poisoned or finished. -/
theorem runLedger_of_dead (h : ledger.phase = .poisoned ∨ ledger.phase = .finished)
    (calls : List OwnedLedgerCall) :
    ∀ entry ∈ (runLedger ledger calls).1, entry.2.granted = false := by
  induction calls with
  | nil => exact fun _ hentry => absurd hentry List.not_mem_nil
  | cons next rest ih =>
    rw [runLedger, call_of_dead h]
    exact List.forall_mem_cons.mpr ⟨rfl, ih⟩

/-- What is refused while the ledger records poisons it. -/
theorem poisoned_of_refused (h : ledger.phase = .recording) (hnext : isBegin next = false)
    (hrefused : (ledger.call next).1.granted = false) : (ledger.call next).2.phase = .poisoned := by
  cases next with
  | begin before => cases hnext
  | append guestAddress committed space memory =>
    rcases append_cases h guestAddress committed space memory
      with hcall | ⟨_, -, -, -, -, -, -, hcall⟩
    · rw [hcall]
      rfl
    · rw [hcall] at hrefused
      cases hrefused
  | finish outcome after fault faultAddress =>
    rcases finish_cases h outcome after fault faultAddress with hcall | ⟨_, -, -, hcall⟩
    · rw [hcall]
      rfl
    · rw [hcall] at hrefused
      cases hrefused

end Record

/-! ### Reports -/

/-- What a report says of the calls before it. -/
structure ReportOf (log : OwnedLedgerLog) (report : OwnedCpuEffectReport) : Prop where
  begun : BegunIn log report
  retired : report.outcome = .retired → report.fault = .none ∧ report.faultAddress = none
  refusedBeforeEffects : report.outcome = .refusedBeforeEffects →
    report.writes = [] ∧ report.afterContext = report.beforeContext
  faultAfterEffects : report.outcome = .faultAfterEffects →
    report.writes ≠ [] ∧ report.afterContext.rip = report.instructionRip
  named : ∀ value, report.outcome ≠ .unnamed value

theorem LedgerInv.reportOf {log : OwnedLedgerLog} {ledger : OwnedCpuEffectLedger}
    (h : LedgerInv log ledger) {next : OwnedLedgerCall} {report : OwnedCpuEffectReport}
    (hreport : (ledger.call next).1.report = some report) :
    isFinish next = true ∧ ReportOf log report := by
  cases next with
  | begin before => cases hreport
  | append guestAddress committed space memory => cases hreport
  | finish outcome after fault faultAddress =>
    refine ⟨rfl, ?_⟩
    have hphase : ledger.phase = .recording := by
      by_contra hphase
      simp only [OwnedCpuEffectLedger.call, OwnedCpuEffectLedger.finish, if_pos hphase] at hreport
      cases hreport
    rcases finish_cases hphase outcome after fault faultAddress
      with hcall | ⟨found, rfl, hallowed, hcall⟩
    · rw [hcall] at hreport
      cases hreport
    · rw [hcall] at hreport
      cases hreport
      obtain ⟨hsince, hcount, hsizes⟩ := h.recording hphase
      refine ⟨⟨hsince, hcount, hsizes⟩, ?_, ?_, ?_, ?_⟩
      · intro houtcome
        dsimp only at houtcome ⊢
        subst houtcome
        simpa [OwnedCpuEffectLedger.outcomeRefused] using hallowed
      · intro houtcome
        dsimp only at houtcome ⊢
        subst houtcome
        simp only [OwnedCpuEffectLedger.outcomeRefused, decide_eq_false_iff_not, not_or, not_not]
          at hallowed
        exact ⟨List.eq_nil_of_length_eq_zero hallowed.2.1, hallowed.2.2⟩
      · intro houtcome
        dsimp only at houtcome ⊢
        subst houtcome
        simp only [OwnedCpuEffectLedger.outcomeRefused, decide_eq_false_iff_not, not_or, not_not]
          at hallowed
        exact ⟨fun hnil => hallowed.2.1 (by rw [hnil]; rfl), hallowed.2.2⟩
      · intro value houtcome
        dsimp only at houtcome
        subst houtcome
        cases hallowed

/-- **An effect ledger publishes at most one complete report.** After any calls, with memories that
change in between, at most one finish was granted. The next report lists the appends that were
granted since the first `begin`, and says what its outcome promises. Each of these appends found its
bytes in guest memory, and once an append or a finish is refused while the ledger records nothing is
granted again. -/
theorem ownedCpuEffectLedger_publishes_once (calls : List OwnedLedgerCall) :
    (publications (runLedger {} calls).1).length ≤ 1 ∧
    (∀ next report, ((runLedger {} calls).2.call next).1.report = some report →
      isFinish next = true ∧ ReportOf (runLedger {} calls).1 report) ∧
    (∀ entry ∈ (runLedger {} calls).1, AppendMatched entry) ∧
    (∀ next, (runLedger {} calls).2.phase = .recording → isBegin next = false →
      ((runLedger {} calls).2.call next).1.granted = false →
      ∀ rest, ∀ entry ∈ (runLedger ((runLedger {} calls).2.call next).2 rest).1,
        entry.2.granted = false) ∧
    (runLedger {} calls).2.report.writes.length ≤ kMaxEvents ∧
    ∀ write ∈ (runLedger {} calls).2.report.writes, 1 ≤ write.size ∧
      write.size ≤ kMaxEffectBytes := by
  have h := ledgerInv_unused.run calls
  rw [List.nil_append] at h
  refine ⟨h.published, fun _ _ => h.reportOf, h.matched, ?_, h.count, h.sizes⟩
  intro next hrecording hnext hrefused rest
  exact runLedger_of_dead (.inl (poisoned_of_refused hrecording hnext hrefused)) rest

/-- A page of data with a seven and an eight at its front. -/
def ledgerSpace : OwnedGuestAddressSpace :=
  (OwnedGuestAddressSpace.empty.map 0x1000 ⟨0x20000, 0x40⟩ (.fromElfFlags 6)).2

/-- A memory with one byte that differs. -/
def ledgerMemory (x : ℕ) : UInt8 := if x = 0x20000 then 7 else 8

/-- A ledger takes down two writes of an instruction. -/
def twoWrites : List OwnedLedgerCall :=
  [.begin { rip := 0x400 }, .append 0x1000 [7] ledgerSpace ledgerMemory,
    .append 0x1001 [8, 8] ledgerSpace ledgerMemory]

/-- The instruction retires. -/
def retire : OwnedLedgerCall := .finish .retired { rip := 0x403 } .none none

/-- The report lists the two writes; it is the only one, as a second finish is refused. -/
theorem ownedCpuEffectLedger_publishes_once_two :
    (∃ report, ((runLedger {} twoWrites).2.call retire).1.report = some report ∧
      ReportOf (runLedger {} twoWrites).1 report ∧ report.outcome = .retired ∧
      report.writes.map OwnedVerifiedGuestWrite.effect = [(0x1000, [7]), (0x1001, [8, 8])]) ∧
    (publications (runLedger {} (twoWrites ++ [retire, retire])).1).length = 1 := by
  obtain ⟨-, hreport, -⟩ := ownedCpuEffectLedger_publishes_once twoWrites
  obtain ⟨hatMost, -⟩ := ownedCpuEffectLedger_publishes_once (twoWrites ++ [retire, retire])
  have hfinished : ((runLedger {} twoWrites).2.call retire).1.report.any (fun report =>
      report.outcome == .retired &&
        report.writes.map OwnedVerifiedGuestWrite.effect == [(0x1000, [7]), (0x1001, [8, 8])]) =
          true := by decide +kernel
  have hone : 1 ≤ (publications (runLedger {} (twoWrites ++ [retire, retire])).1).length := by
    decide +kernel
  obtain ⟨report, hfound, hsays⟩ := (Option.any_eq_true _ _).mp hfinished
  rw [Bool.and_eq_true, beq_iff_eq, beq_iff_eq] at hsays
  exact ⟨⟨report, hfound, (hreport retire report hfound).2, hsays⟩, le_antisymm hatMost hone⟩

end Astraea.Research
