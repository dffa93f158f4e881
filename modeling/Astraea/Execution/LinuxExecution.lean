import Astraea.Base.Settings
import Astraea.Execution.LinuxSignals
import Astraea.Execution.PreparedMemory

/-!
# Entering a guest

`enter_linux_guest` checks the image, the registers and the registered syscalls, maps the gates,
starts a thread, sets the handler for the guest's signals, and enters the guest. The guest leaves by
the first signal that is its own; what is not its own is handed on to whatever was set for that
signal before. Then the signals are set back.

The host is a record of which of its calls it refuses, and the guest is what it does: the signals
that happen while it runs, and the memory it leaves. `enterLinuxGuest_outcome` says which of the
signals an entry ends with, and as what; `enterLinuxGuest_environment` that whatever the host
refuses, what was set for the signals before is set afterwards.
-/

namespace Astraea.Execution

open Astraea.Base Astraea.Loader Astraea.Memory

/-! ### The host -/

/-- An error number. None of them is zero. -/
structure Errno where
  value : UInt32
  nonzero : value ≠ 0
  deriving DecidableEq

/-- `recovery_error`. -/
def recoveryError (errno : Errno) : GuestEntryError :=
  { code := .recoverySetupFailure, hostCode := errno.value.toUInt64 }

/-- What is set for a signal. -/
inductive SignalAction where
  | ignored
  | standard
  /-- A handler of someone else's, which returns from a signal or does not. -/
  | handler (returns : SignalDelivery → Bool)
  /-- `guest_signal_handler`. -/
  | guest

/-- `chain_previous_signal`: whether the thread goes on from it. Two guests are never run at once,
so the handler of a guest is never set before another. -/
def chainPreviousSignal (previous : SignalAction) (delivery : SignalDelivery) : Bool :=
  match previous with
  | .ignored => true
  | .standard => false
  | .handler returns => returns delivery
  | .guest => false

/-- What is set for the signals, with the stack they are handled on. -/
structure SignalEnvironment (σ : Type) where
  alternateStack : σ
  actions : GuestSignal → SignalAction

/-- The calls about signals. An entry makes each of them once at most. -/
inductive SignalCall where
  | installStack
  | query (signal : GuestSignal)
  | install (signal : GuestSignal)
  | restore (signal : GuestSignal)
  | restoreStack
  deriving DecidableEq

/-- What the host says to an entry. -/
structure EntryHost (σ : Type) where
  memory : LinuxHost
  /-- Another guest is running. -/
  locked : Bool
  threadStart : Option Errno
  signalCall : SignalCall → Option Errno
  requestedStack : σ
  seccomp : SeccompKernel

/-- What the guest does: the signals that happen, and the memory there is when it leaves. -/
structure GuestActivity where
  signals : List SignalDelivery
  bytes : ℕ → UInt8

/-! ### Checks -/

/-- `validate_context`. -/
def validateContext (image : GuestImage) (preparedMemory : LinuxPreparedMemory)
    (context : GuestCpuContext) :
    Except GuestEntryError Unit := do
  refuseIf (preparedMemory.mappedRegions.isEmpty = true ∨ preparedMemory.plan.hostPageSize = 0)
    { code := .invalidGuestContext }
  refuseIf (image.tls.isSome = true) { code := .tlsRuntimeLayoutUnsupported }
  refuseIf (context.fsBase ≠ 0 ∨ context.gsBase ≠ 0 ∨ context.rflags &&& 0x2 = 0 ∨
    context.rflags &&& 0x400 ≠ 0 ∨ context.rflags &&& 0x100 ≠ 0) { code := .invalidGuestContext }
  refuseIf (exactExecutableContains image context.rip = false)
    { code := .invalidGuestContext, guestAddress := context.rip }
  refuseIf (image.initialStack.storage.contains ⟨context.rsp⟩ = false)
    { code := .invalidGuestContext, guestAddress := context.rsp }

/-- What is checked of one registered syscall, over the bytes guest memory holds. -/
def registeredTrapIsValid (image : GuestImage) (bytes : ℕ → UInt8)
    (site : RegisteredSyscallTrapSite) : Bool :=
  let rip := site.guestRip.value
  site.originalBytes == kX86SyscallBytes && site.trapBytes == kX86Ud2Bytes && rip != u64Max &&
    exactExecutableContains image rip && exactExecutableContains image (rip + 1) &&
    load bytes rip.toNat 2 == kX86Ud2Bytes.toList

/-- `registered_traps_are_valid`. -/
def registeredTrapsAreValid (image : GuestImage) (bytes : ℕ → UInt8) :
    List RegisteredSyscallTrapSite → Bool
  | [] => true
  | site :: later =>
    registeredTrapIsValid image bytes site &&
      later.all (fun other => other.guestRip != site.guestRip) &&
      registeredTrapsAreValid image bytes later

/-- `GateMapping::prepare`. -/
def prepareGateMapping (host : LinuxHost) (preparedMemory : LinuxPreparedMemory)
    (gateRegion : SyntheticGateRegion) :
    Except GuestEntryError Unit := do
  let pageSize := preparedMemory.plan.hostPageSize
  let exactRange := gateRegion.range
  let base := exactRange.base.value
  refuseIf (pageSize = 0 ∨ exactRange.empty = true ∨ base % pageSize ≠ 0)
    { code := .invalidGuestContext, guestAddress := base }
  let exactSize := exactRange.size.value
  let remainder := exactSize % pageSize
  let padding := if remainder = 0 then 0 else pageSize - remainder
  refuseIf (exactSize > u64Max - padding)
    { code := .hostPageArithmeticOverflow, guestAddress := base }
  let mappedSize := exactSize + padding
  let mappedRange ← (GuestRange.create exactRange.base ⟨mappedSize⟩).mapError fun _ =>
    ({ code := .hostPageArithmeticOverflow, guestAddress := base } : GuestEntryError)
  preparedMemory.plan.regions.forM fun region =>
    refuseIf (mappedRange.overlaps region.range = true)
      { code := .guestAddressUnavailable, guestAddress := base }
  let mapped ← (host.mmap base mappedSize).mapError fun errno =>
    (⟨if errno = kEexist then .guestAddressUnavailable else .hostMappingFailure, some base,
      some errno⟩ : GuestEntryError)
  refuseIf (mapped ≠ base) { code := .guestAddressUnavailable, guestAddress := base }
  match host.mprotect base mappedSize 5 with
  | some errno => .error ⟨.hostProtectionFailure, some base, some errno⟩
  | none => .ok ()

/-! ### Signals of a run -/

/-- How a guest leaves. -/
inductive GuestRun where
  | left (outcome : HandlerOutcome)
  | processEnded
  | running

/-- The signals that happen while a guest runs, one after the other. -/
def runSignals (frame : SignalFrame) (previous : GuestSignal → SignalAction) :
    List SignalDelivery → GuestRun
  | [] => .running
  | delivery :: later =>
    match guestSignalHandler (some frame) delivery with
    | .chained =>
      if chainPreviousSignal (previous delivery.signal) delivery then
        runSignals frame previous later
      else .processEnded
    | outcome => .left outcome

/-! ### A thread -/

/-- What a thread comes back with. -/
structure LinuxThreadExecutionOutcome where
  stop : FaultStop
  seccompSyscallTrap : Option LinuxSeccompSyscallTrap
  deriving DecidableEq

/-- The stop of a frame that was not written. -/
def noStop : FaultStop := ⟨⟨⟨.backendError, {}, false, 0⟩, false⟩, {}⟩

/-- How an entry ends, with what is set for the signals then. -/
inductive EntryRun (σ α : Type) where
  | returned (result : Except GuestEntryError α) (environment : SignalEnvironment σ)
  | processEnded
  | running

/-- What is made of how the guest left. -/
def threadResult (image : GuestImage) (bytes : ℕ → UInt8) :
    HandlerOutcome → Except GuestEntryError LinuxThreadExecutionOutcome
  | .chained => .ok ⟨noStop, none⟩
  | .stopped stop => .ok ⟨stop, none⟩
  | .seccompTrap raw => (normalizeSeccompSyscallTrap image bytes raw).map fun trap => ⟨noStop,
      some trap⟩

section Thread

variable {σ : Type} (host : EntryHost σ) (previous : SignalEnvironment σ)

/-- Set the stack back. -/
def restoreStack (environment : SignalEnvironment σ) : Option Errno × SignalEnvironment σ :=
  match host.signalCall .restoreStack with
  | some errno => (some errno, environment)
  | none => (none, { environment with alternateStack := previous.alternateStack })

/-- `restore_signal_environment`. -/
def restoreSignalEnvironment (installed : List GuestSignal) (environment : SignalEnvironment σ) :
    Option GuestEntryError × SignalEnvironment σ :=
  let actions := setBack (fun signal => host.signalCall (.restore signal)) previous.actions
    environment.actions installed
  let stack := restoreStack host previous { environment with actions := actions.2 }
  ((actions.1.or stack.1).map recoveryError, stack.2)

variable (image : GuestImage) (gateRegion : Option SyntheticGateRegion)
  (registeredSyscallTraps : List RegisteredSyscallTrapSite) (enableSeccompSyscallTrap : Bool)
  (activity : GuestActivity)

/-- The ranges of the filter, if there is one. -/
def seccompRanges : Except GuestEntryError (List SignalRange) :=
  if enableSeccompSyscallTrap = true then
    buildSeccompInstructionPointerRanges (buildExecutableRanges image) else .ok []

/-- Install the filter, if there is one, and run the guest. -/
def enterGuestContext (ranges : List SignalRange) : Except GuestEntryError GuestRun := do
  if enableSeccompSyscallTrap = true then
    let _program ← installGuestExecutableSyscallFilter host.seccomp ranges
  return runSignals (threadFrame image ranges gateRegion registeredSyscallTraps) previous.actions
    activity.signals

/-- What comes behind the guest: the signals are set back, and the first error counts. -/
def leaveGuestContext (installed : List GuestSignal) (environment : SignalEnvironment σ)
    (result : Except GuestEntryError LinuxThreadExecutionOutcome) :
    EntryRun σ LinuxThreadExecutionOutcome :=
  let restored := restoreSignalEnvironment host previous installed environment
  .returned (restored.1.elim result .error) restored.2

/-- `run_linux_guest_thread`. -/
def runLinuxGuestThread : EntryRun σ LinuxThreadExecutionOutcome :=
  match seccompRanges image enableSeccompSyscallTrap with
  | .error e => .returned (.error e) previous
  | .ok ranges =>
    match host.signalCall .installStack with
    | some errno => .returned (.error (recoveryError errno)) previous
    | none =>
      let environment := { previous with alternateStack := host.requestedStack }
      match kGuestSignals.findSome? fun signal => host.signalCall (.query signal) with
      | some errno =>
        .returned (.error (recoveryError errno)) (restoreStack host previous environment).2
      | none =>
        let set := setEach (fun signal => host.signalCall (.install signal)) .guest
          environment.actions kGuestSignals
        let environment := { environment with actions := set.2.2 }
        match set.1 with
        | some errno =>
          .returned (.error (recoveryError errno))
            (restoreSignalEnvironment host previous set.2.1 environment).2
        | none =>
          match enterGuestContext host previous image gateRegion registeredSyscallTraps
            enableSeccompSyscallTrap activity
            ranges with
          | .error e => leaveGuestContext host previous set.2.1 environment (.error e)
          | .ok .processEnded => .processEnded
          | .ok .running => .running
          | .ok (.left outcome) =>
            leaveGuestContext host previous set.2.1 environment
              (threadResult image activity.bytes outcome)

end Thread

/-! ### An entry -/

section Entry

variable {σ : Type} (host : EntryHost σ) (environment : SignalEnvironment σ) (image : GuestImage)
  (preparedMemory : LinuxPreparedMemory) (bytes : ℕ → UInt8)
  (gateRegion : Option SyntheticGateRegion) (context : GuestCpuContext)
  (registeredSyscallTraps : List RegisteredSyscallTrapSite) (enableSeccompSyscallTrap : Bool)
  (activity : GuestActivity)

/-- What is checked before the thread is started. -/
def checkEntry : Except GuestEntryError Unit := do
  validateContext image preparedMemory context
  refuseIf (registeredTrapsAreValid image bytes registeredSyscallTraps = false)
    { code := .invalidRegisteredSyscallTrap }
  refuseIf (host.locked = true) { code := .nestedExecutionUnsupported }
  match gateRegion with
  | none => .ok ()
  | some gateRegion => prepareGateMapping host.memory preparedMemory gateRegion

/-- `enter_linux_guest_internal`. -/
def enterLinuxGuestInternal : EntryRun σ LinuxThreadExecutionOutcome :=
  match checkEntry host image preparedMemory bytes gateRegion context registeredSyscallTraps with
  | .error e => .returned (.error e) environment
  | .ok () =>
    match host.threadStart with
    | some errno => .returned (.error (recoveryError errno)) environment
    | none =>
      runLinuxGuestThread host environment image gateRegion registeredSyscallTraps
        enableSeccompSyscallTrap activity

/-- Make something of what an entry returns. -/
def EntryRun.andThen {α β : Type} (run : EntryRun σ α) (f : α → Except GuestEntryError β) :
    EntryRun σ β :=
  match run with
  | .returned result environment => .returned (result >>= f) environment
  | .processEnded => .processEnded
  | .running => .running

/-- `enter_linux_guest`. -/
def enterLinuxGuest (gateRegion : SyntheticGateRegion) : EntryRun σ FaultStop :=
  (enterLinuxGuestInternal host environment image preparedMemory bytes
    (some gateRegion) context registeredSyscallTraps false activity).andThen fun outcome =>
      if outcome.seccompSyscallTrap.isSome = true then .error { code := .internalTransitionFailure }
        else .ok outcome.stop

/-- `enter_linux_guest_with_seccomp_syscall_trap`, with gates and without. -/
def enterLinuxGuestWithSeccompSyscallTrap : EntryRun σ (LinuxSeccompSyscallTrap ⊕ FaultStop) :=
  (enterLinuxGuestInternal host environment image preparedMemory bytes gateRegion context [] true
    activity).andThen
    fun outcome => .ok (outcome.seccompSyscallTrap.elim (.inr outcome.stop) .inl)

end Entry

/-! ### What is checked -/

section Checked

variable {image : GuestImage} {preparedMemory : LinuxPreparedMemory} {bytes : ℕ → UInt8}
  {gateRegion : Option SyntheticGateRegion} {context : GuestCpuContext}
  {traps : List RegisteredSyscallTrapSite}

/-- What an entry has checked. -/
structure EntryChecked (image : GuestImage) (preparedMemory : LinuxPreparedMemory)
    (bytes : ℕ → UInt8) (gateRegion : Option SyntheticGateRegion) (context : GuestCpuContext)
    (traps : List RegisteredSyscallTrapSite) : Prop where
  prepared : preparedMemory.mappedRegions ≠ [] ∧ preparedMemory.plan.hostPageSize ≠ 0
  tls : image.tls = none
  /-- The registers are the guest's own, and it does not stop after each instruction. -/
  registers : context.fsBase = 0 ∧ context.gsBase = 0 ∧ context.rflags &&& 0x2 ≠ 0 ∧
    context.rflags &&& 0x400 = 0 ∧
    context.rflags &&& 0x100 = 0
  rip : exactExecutableContains image context.rip = true
  rsp : context.rsp.toNat ∈ image.initialStack.storage
  /-- At every registered syscall there is what replaced it, in code of the guest. -/
  sites : ∀ site ∈ traps, exactExecutableContains image site.guestRip.value = true ∧
    exactExecutableContains image (site.guestRip.value + 1) = true ∧
      load bytes site.guestRip.toNat 2 = kX86Ud2Bytes.toList
  distinct : (traps.map RegisteredSyscallTrapSite.guestRip).Nodup
  /-- The gates begin at a page and are apart from prepared memory. -/
  gates : ∀ region ∈ gateRegion, preparedMemory.plan.hostPageSize.toNat ∣ region.range.base.toNat ∧
    ∀ x ∈ region.range, ∀ planned ∈ preparedMemory.plan.regions, x ∉ planned.range

theorem registeredTrapsAreValid_iff (h : registeredTrapsAreValid image bytes traps = true) :
    (∀ site ∈ traps, exactExecutableContains image site.guestRip.value = true ∧
      exactExecutableContains image (site.guestRip.value + 1) = true ∧
        load bytes site.guestRip.toNat 2 = kX86Ud2Bytes.toList) ∧
      (traps.map RegisteredSyscallTrapSite.guestRip).Nodup := by
  induction traps with
  | nil => exact ⟨fun site hsite => absurd hsite List.not_mem_nil, List.nodup_nil⟩
  | cons site later ih =>
    simp only [registeredTrapsAreValid, registeredTrapIsValid, Bool.and_eq_true, beq_iff_eq,
      List.all_eq_true, bne_iff_ne] at h
    obtain ⟨⟨⟨⟨⟨⟨⟨-, -⟩, -⟩, hfirst⟩, hsecond⟩, hbytes⟩, hother⟩, hlater⟩ := h
    obtain ⟨hall, hnodup⟩ := ih hlater
    refine ⟨List.forall_mem_cons.mpr ⟨⟨hfirst, hsecond, hbytes⟩, hall⟩, ?_⟩
    rw [List.map_cons, List.nodup_cons, List.mem_map]
    refine ⟨?_, hnodup⟩
    rintro ⟨other, hmem, hsame⟩
    exact hother other hmem hsame

theorem prepareGateMapping_eq_ok {host : LinuxHost} {region : SyntheticGateRegion}
    (h : prepareGateMapping host preparedMemory region = .ok ()) :
    preparedMemory.plan.hostPageSize.toNat ∣ region.range.base.toNat ∧
      ∀ x ∈ region.range, ∀ planned ∈ preparedMemory.plan.regions, x ∉ planned.range := by
  simp only [prepareGateMapping, refuseIf_eq_ok, not_or, not_not, bind_eq_ok, mapError_eq_ok] at h
  generalize (if region.range.size.value % preparedMemory.plan.hostPageSize = 0 then 0
    else preparedMemory.plan.hostPageSize - region.range.size.value %
      preparedMemory.plan.hostPageSize) = padding at h
  obtain ⟨-, ⟨-, -, halign⟩, -, hfits, mapped, hmapped, _, hregions, -⟩ := h
  constructor
  · have hmod := congrArg UInt64.toNat halign
    rw [UInt64.toNat_mod, UInt64.toNat_zero] at hmod
    exact Nat.dvd_of_mod_eq_zero hmod
  · intro x hx planned hplanned hin
    obtain ⟨hbase, hsize⟩ := GuestRange.create_eq_ok hmapped
    rw [gt_u64Max_sub_iff] at hfits
    have hlonger : mapped.size.toNat = region.range.size.toNat + padding.toNat := by
      rw [hsize, GuestSize.toNat_mk, UInt64.toNat_add, Nat.mod_eq_of_lt (by omega)]
      rfl
    have hmem : x ∈ mapped := by
      rw [GuestRange.mem_def, GuestRange.last] at hx ⊢
      rw [hbase, hlonger]
      omega
    have hoverlap := refuseIf_eq_ok.mp (forM_eq_ok.mp hregions planned hplanned)
    exact hoverlap (GuestRange.overlaps_iff.mpr ⟨x, hmem, hin⟩)

theorem checkEntry_eq_ok {σ : Type} {host : EntryHost σ}
    (h : checkEntry host image preparedMemory bytes gateRegion context traps = .ok ()) :
    EntryChecked image preparedMemory bytes gateRegion context traps := by
  simp only [checkEntry, validateContext, check_bind_eq_ok, refuseIf_eq_ok, not_or, not_not,
    Bool.not_eq_false, List.isEmpty_iff, Option.not_isSome_iff_eq_none] at h
  obtain ⟨⟨hprepared, htls, hregisters, hrip, hrsp⟩, htraps, -, hgates⟩ := h
  obtain ⟨hsites, hdistinct⟩ := registeredTrapsAreValid_iff htraps
  refine ⟨hprepared, htls, hregisters, hrip, GuestRange.contains_iff.mp hrsp, hsites, hdistinct, ?_⟩
  intro region hregion
  rw [Option.mem_def.mp hregion] at hgates
  exact prepareGateMapping_eq_ok hgates

end Checked

/-! ### The signals before and after -/

section Environment

variable {σ : Type} {host : EntryHost σ} {previous environment environment' : SignalEnvironment σ}
  {image : GuestImage} {gateRegion : Option SyntheticGateRegion}
  {traps : List RegisteredSyscallTrapSite} {seccomp : Bool} {activity : GuestActivity}
  {result : Except GuestEntryError LinuxThreadExecutionOutcome}

/-- What was set before is set, but for what the host refuses to set back. -/
structure Restored (host : EntryHost σ) (previous environment : SignalEnvironment σ) : Prop where
  actions : ∀ signal, environment.actions signal = previous.actions signal ∨
    (host.signalCall (.restore signal)).isSome = true ∧ environment.actions signal = .guest
  stack : environment.alternateStack = previous.alternateStack ∨
    (host.signalCall .restoreStack).isSome = true ∧ environment.alternateStack = host.requestedStack

theorem Restored.refl : Restored host previous previous := ⟨fun _ => .inl rfl, .inl rfl⟩

theorem restoreStack_spec (hstack : environment.alternateStack = host.requestedStack) :
    (restoreStack host previous environment).2.actions = environment.actions ∧
      ((restoreStack host previous environment).2.alternateStack = previous.alternateStack ∨
        (host.signalCall .restoreStack).isSome = true ∧
          (restoreStack host previous environment).2.alternateStack = host.requestedStack) ∧
      ((restoreStack host previous environment).1 = none →
        (restoreStack host previous environment).2.alternateStack = previous.alternateStack) := by
  rw [restoreStack]
  cases hcall : host.signalCall .restoreStack with
  | some errno => exact ⟨rfl, .inr ⟨rfl, hstack⟩, fun hnone => by cases hnone⟩
  | none => exact ⟨rfl, .inl rfl, fun _ => rfl⟩

theorem restoreSignalEnvironment_spec (signals : List GuestSignal) :
    let set :=
      setEach (fun signal => host.signalCall (.install signal)) .guest previous.actions signals
    let restored := restoreSignalEnvironment host previous set.2.1 ⟨host.requestedStack, set.2.2⟩
    Restored host previous restored.2 ∧ (restored.1 = none → restored.2 = previous) := by
  intro set restored
  obtain ⟨hactions, hnone⟩ := setBack_setEach (fun signal => host.signalCall (.install signal))
    (fun signal => host.signalCall (.restore signal)) SignalAction.guest previous.actions signals
  obtain ⟨hsame, hstack, hstackNone⟩ := @restoreStack_spec _ host previous ⟨host.requestedStack,
    (setBack (fun signal => host.signalCall (.restore signal)) previous.actions set.2.2 set.2.1).2⟩
      rfl
  refine ⟨⟨fun signal => ?_, hstack⟩, fun herror => ?_⟩
  · have hsignal : restored.2.actions signal =
        (setBack (fun signal => host.signalCall (.restore signal)) previous.actions set.2.2
          set.2.1).2 signal :=
      congrFun hsame signal
    rw [hsignal]
    exact (hactions signal).imp_right fun h => ⟨h.1, h.2.2⟩
  · have hboth := Option.or_eq_none_iff.mp (Option.map_eq_none_iff.mp herror)
    have hsameActions : restored.2.actions = previous.actions := hsame.trans (hnone hboth.1)
    have hsameStack : restored.2.alternateStack = previous.alternateStack := hstackNone hboth.2
    calc restored.2 = ⟨restored.2.alternateStack, restored.2.actions⟩ := rfl
      _ = previous := by rw [hsameActions, hsameStack]

/-- Behind the guest, a refusal to set back is the error, where there is one. -/
theorem leaveGuestContext_cases {installed : List GuestSignal}
    {result' : Except GuestEntryError LinuxThreadExecutionOutcome}
    (hspec : Restored host previous
      (restoreSignalEnvironment host previous installed environment).2 ∧
    ((restoreSignalEnvironment host previous installed environment).1 = none →
      (restoreSignalEnvironment host previous installed environment).2 = previous))
    (h : leaveGuestContext host previous installed environment result' =
      .returned result environment') :
    Restored host previous environment' ∧
      ((∃ errno, result = .error (recoveryError errno)) ∨ environment' = previous ∧
        result = result') := by
  rw [leaveGuestContext, EntryRun.returned.injEq] at h
  obtain ⟨hresult, rfl⟩ := h
  refine ⟨hspec.1, ?_⟩
  cases herror : (restoreSignalEnvironment host previous installed environment).1 with
  | some e =>
    rw [herror] at hresult
    obtain ⟨errno, -, rfl⟩ := Option.map_eq_some_iff.mp herror
    exact .inl ⟨errno, hresult.symm⟩
  | none =>
    rw [herror] at hresult
    exact .inr ⟨hspec.2 herror, hresult.symm⟩

/-- What a thread can come back with: the host refused a call, or what the filter or the guest ended
with. -/
theorem runLinuxGuestThread_cases
    (h : runLinuxGuestThread host previous image gateRegion traps seccomp activity =
      .returned result environment') :
    Restored host previous environment' ∧
      ((∃ errno, result = .error (recoveryError errno)) ∨ environment' = previous ∧
        ((∃ e, seccompRanges image seccomp = .error e ∧ result = .error e) ∨
          ∃ ranges, seccompRanges image seccomp = .ok ranges ∧
            ((∃ e, enterGuestContext host previous image gateRegion traps seccomp activity ranges =
              .error e ∧
                result = .error e) ∨
              ∃ outcome, enterGuestContext host previous image gateRegion traps seccomp activity
                ranges = .ok (.left outcome) ∧
                result = threadResult image activity.bytes outcome))) := by
  have hspec := @restoreSignalEnvironment_spec _ host previous kGuestSignals
  dsimp only at hspec
  generalize hset :
    setEach (fun signal => host.signalCall (.install signal)) SignalAction.guest previous.actions
    kGuestSignals = set at hspec
  rw [runLinuxGuestThread] at h
  cases hranges : seccompRanges image seccomp with
  | error e =>
    simp only [hranges, EntryRun.returned.injEq] at h
    obtain ⟨rfl, rfl⟩ := h
    exact ⟨.refl, .inr ⟨rfl, .inl ⟨e, rfl, rfl⟩⟩⟩
  | ok ranges =>
    cases hstack : host.signalCall .installStack with
    | some errno =>
      simp only [hranges, hstack, EntryRun.returned.injEq] at h
      obtain ⟨rfl, rfl⟩ := h
      exact ⟨.refl, .inl ⟨errno, rfl⟩⟩
    | none =>
      cases hquery : kGuestSignals.findSome? fun signal => host.signalCall (.query signal) with
      | some errno =>
        simp only [hranges, hstack, hquery, EntryRun.returned.injEq] at h
        obtain ⟨rfl, rfl⟩ := h
        obtain ⟨hactions, hback, -⟩ :=
          @restoreStack_spec _ host previous { previous with
            alternateStack := host.requestedStack } rfl
        exact ⟨⟨fun signal => .inl (congrFun hactions signal), hback⟩, .inl ⟨errno, rfl⟩⟩
      | none =>
        simp only [hranges, hstack, hquery, hset] at h
        cases hinstall : set.1 with
        | some errno =>
          simp only [hinstall, EntryRun.returned.injEq] at h
          obtain ⟨rfl, rfl⟩ := h
          exact ⟨hspec.1, .inl ⟨errno, rfl⟩⟩
        | none =>
          simp only [hinstall] at h
          cases henter :
            enterGuestContext host previous image gateRegion traps seccomp activity ranges with
          | error e =>
            simp only [henter] at h
            obtain ⟨hrestored, hrefused | ⟨hsame, hresult⟩⟩ := leaveGuestContext_cases hspec h
            · exact ⟨hrestored, .inl hrefused⟩
            · exact ⟨hrestored, .inr ⟨hsame, .inr ⟨ranges, rfl, .inl ⟨e, henter, hresult⟩⟩⟩⟩
          | ok run =>
            cases run with
            | processEnded =>
              simp only [henter] at h
              cases h
            | running =>
              simp only [henter] at h
              cases h
            | left outcome =>
              simp only [henter] at h
              obtain ⟨hrestored, hrefused | ⟨hsame, hresult⟩⟩ := leaveGuestContext_cases hspec h
              · exact ⟨hrestored, .inl hrefused⟩
              · exact ⟨hrestored, .inr ⟨hsame, .inr ⟨ranges, rfl, .inr ⟨outcome, henter, hresult⟩⟩⟩⟩

end Environment

/-! ### The signal a guest leaves by -/

section Signals

variable {frame : SignalFrame} {previous : GuestSignal → SignalAction}
  {signals : List SignalDelivery} {outcome : HandlerOutcome}

theorem runSignals_cons {first : SignalDelivery} {rest : List SignalDelivery} :
    runSignals frame previous (first :: rest) = .left outcome ↔
      (guestSignalHandler (some frame) first = outcome ∧ outcome ≠ .chained) ∨
        (guestSignalHandler (some frame) first = .chained ∧
          chainPreviousSignal (previous first.signal) first = true ∧
        runSignals frame previous rest = .left outcome) := by
  rw [runSignals]
  cases hfirst : guestSignalHandler (some frame) first with
  | chained =>
    dsimp only
    split_ifs with hgoes
    · simp only [true_and, hgoes]
      refine ⟨.inr, fun h => h.resolve_left fun ⟨hsame, hne⟩ => hne hsame.symm⟩
    · simp only [hgoes, false_and, and_false, or_false, reduceCtorEq, false_iff, not_and, not_not]
      exact Eq.symm
  | seccompTrap raw =>
    simp only [GuestRun.left.injEq, reduceCtorEq, false_and, or_false]
    exact ⟨fun hsame => ⟨hsame, hsame ▸ HandlerOutcome.noConfusion⟩, And.left⟩
  | stopped stop =>
    simp only [GuestRun.left.injEq, reduceCtorEq, false_and, or_false]
    exact ⟨fun hsame => ⟨hsame, hsame ▸ HandlerOutcome.noConfusion⟩, And.left⟩

/-- A guest leaves by the first signal that is not handed on. -/
theorem runSignals_eq_left :
    runSignals frame previous signals = .left outcome ↔ outcome ≠ .chained ∧
    ∃ before delivery later,
      signals = before ++ delivery :: later ∧
      (∀ signal ∈ before, guestSignalHandler (some frame) signal = .chained ∧
        chainPreviousSignal (previous signal.signal) signal = true) ∧
      guestSignalHandler (some frame) delivery = outcome := by
  induction signals with
  | nil => simp [runSignals]
  | cons first rest ih =>
    rw [runSignals_cons]
    constructor
    · rintro (⟨hfirst, hne⟩ | ⟨hchained, hgoes, hrest⟩)
      · exact ⟨hne, [], first, rest,
          rfl, fun signal hsignal => absurd hsignal List.not_mem_nil, hfirst⟩
      · obtain ⟨hne, before, delivery, later, rfl, hbefore, hdelivery⟩ := ih.mp hrest
        exact ⟨hne, first :: before, delivery, later, rfl,
          List.forall_mem_cons.mpr ⟨⟨hchained, hgoes⟩, hbefore⟩, hdelivery⟩
    · rintro ⟨hne, before, delivery, later, hsplit, hbefore, hdelivery⟩
      cases before with
      | nil =>
        obtain ⟨rfl, rfl⟩ := List.cons_eq_cons.mp hsplit
        exact .inl ⟨hdelivery, hne⟩
      | cons signal before =>
        obtain ⟨rfl, rfl⟩ := List.cons_eq_cons.mp hsplit
        obtain ⟨⟨hchained, hgoes⟩, hbefore⟩ := List.forall_mem_cons.mp hbefore
        exact .inr ⟨hchained, hgoes, ih.mpr ⟨hne, before, delivery, later, rfl, hbefore, hdelivery⟩⟩

end Signals

/-! ### What an entry ends with -/

section Outcome

variable {σ : Type} {host : EntryHost σ} {environment environment' : SignalEnvironment σ}
  {image : GuestImage} {preparedMemory : LinuxPreparedMemory} {bytes : ℕ → UInt8}
  {gateRegion : Option SyntheticGateRegion} {context : GuestCpuContext}
  {traps : List RegisteredSyscallTrapSite} {seccomp : Bool} {activity : GuestActivity}
  {registry : HleRegistry} {reserved : List GuestRange} {ranges : List SignalRange}
  {outcome : LinuxThreadExecutionOutcome}

/-- The first of the signals that is the guest's, and what it is claimed as. The ones before it went
to whatever was set for them, and the thread went on. -/
def LeavesBy (image : GuestImage) (ranges : List SignalRange)
    (gateRegion : Option SyntheticGateRegion) (traps : List RegisteredSyscallTrapSite)
    (previous : GuestSignal → SignalAction) (signals : List SignalDelivery)
    (handled : HandlerOutcome) : Prop :=
  ∃ before delivery later, signals = before ++ delivery :: later ∧
    (∀ signal ∈ before, ¬ Owned image ranges gateRegion signal ∧
      chainPreviousSignal (previous signal.signal) signal = true) ∧
    Claims image ranges gateRegion traps delivery handled

variable {handled : HandlerOutcome}

theorem runSignals_eq_left_iff (hbuilt : GatesBuilt registry reserved image gateRegion)
    {previous : GuestSignal → SignalAction} {signals : List SignalDelivery} :
    runSignals (threadFrame image ranges gateRegion traps) previous signals = .left handled ↔
      LeavesBy image ranges gateRegion traps previous signals handled := by
  rw [runSignals_eq_left]
  simp only [guestSignalHandler_chained hbuilt]
  constructor
  · rintro ⟨hne, before, delivery, later, hsplit, hbefore, hdelivery⟩
    exact ⟨before, delivery, later, hsplit, hbefore,
      (guestSignalHandler_claims hbuilt hne).mp hdelivery⟩
  · rintro ⟨before, delivery, later, hsplit, hbefore, hclaims⟩
    exact ⟨hclaims.ne_chained, before, delivery, later, hsplit, hbefore,
      (guestSignalHandler_claims hbuilt hclaims.ne_chained).mpr hclaims⟩

theorem threadResult_eq_ok (hne : handled ≠ .chained)
    (h : threadResult image bytes handled = .ok outcome) :
    (handled = .stopped outcome.stop ∧ outcome.seccompSyscallTrap = none) ∨
      ∃ raw trap, handled = .seccompTrap raw ∧
        normalizeSeccompSyscallTrap image bytes raw = .ok trap ∧
        outcome = ⟨noStop, some trap⟩ := by
  cases handled with
  | chained => exact absurd rfl hne
  | stopped stop =>
    cases h
    exact .inl ⟨rfl, rfl⟩
  | seccompTrap raw =>
    obtain ⟨trap, hnormalized, rfl⟩ := map_eq_ok.mp h
    exact .inr ⟨raw, trap, rfl, hnormalized, rfl⟩

theorem enterGuestContext_eq_left {previous : SignalEnvironment σ}
    (h : enterGuestContext host previous image gateRegion traps seccomp activity ranges = .ok
      (.left handled)) :
    runSignals (threadFrame image ranges gateRegion traps) previous.actions activity.signals =
      .left handled := by
  cases seccomp with
  | false => exact pure_eq_ok.mp h
  | true =>
    obtain ⟨-, -, hrun⟩ := bind_eq_ok.mp h
    exact pure_eq_ok.mp hrun

theorem enterLinuxGuestInternal_eq_ok
    (h : enterLinuxGuestInternal host environment image preparedMemory bytes gateRegion context
      traps seccomp activity = .returned (.ok outcome) environment') :
    checkEntry host image preparedMemory bytes gateRegion context traps = .ok () ∧
    environment' = environment ∧
      ∃ ranges handled, seccompRanges image seccomp = .ok ranges ∧
        runSignals (threadFrame image ranges gateRegion traps) environment.actions
          activity.signals = .left handled ∧
        threadResult image activity.bytes handled = .ok outcome := by
  rw [enterLinuxGuestInternal] at h
  cases hchecked : checkEntry host image preparedMemory bytes gateRegion context traps with
  | error e =>
    simp only [hchecked] at h
    cases h
  | ok =>
    cases hthread : host.threadStart with
    | some errno =>
      simp only [hchecked, hthread] at h
      cases h
    | none =>
      simp only [hchecked, hthread] at h
      obtain ⟨-, ⟨errno, herror⟩ | ⟨hsame,
          ⟨e, -, herror⟩ | ⟨ranges, hranges, ⟨e, -, herror⟩ | ⟨handled, henter, hresult⟩⟩⟩⟩ :=
        runLinuxGuestThread_cases h
      · cases herror
      · cases herror
      · cases herror
      · exact ⟨rfl, hsame, ranges, handled, hranges, enterGuestContext_eq_left henter, hresult.symm⟩

/-- **What an entry ends with.** If it ends well, everything was checked, the signals are set back,
and the guest has left by the first signal that is its own, as what it is: a call through a gate, a
registered syscall, a fault, or a syscall that the filter trapped and that is one of the guest's. -/
theorem enterLinuxGuest_outcome (hbuilt : GatesBuilt registry reserved image gateRegion)
    (h : enterLinuxGuestInternal host environment image preparedMemory bytes gateRegion context
      traps seccomp activity = .returned (.ok outcome) environment') :
    EntryChecked image preparedMemory bytes gateRegion context traps ∧ environment' = environment ∧
      ∃ ranges handled, seccompRanges image seccomp = .ok ranges ∧
        LeavesBy image ranges gateRegion traps environment.actions activity.signals handled ∧
        ((handled = .stopped outcome.stop ∧ outcome.seccompSyscallTrap = none) ∨
          ∃ raw trap, handled = .seccompTrap raw ∧ outcome = ⟨noStop, some trap⟩ ∧
            trap.context = raw.context ∧ trap.guestRip.toNat + 2 = raw.context.rip.toNat ∧
            GuestSyscallAt image activity.bytes trap.auditArch trap.guestRip.value) := by
  obtain ⟨hchecked, hsame, ranges, handled, hranges, hleft, hresult⟩ :=
    enterLinuxGuestInternal_eq_ok h
  refine ⟨checkEntry_eq_ok hchecked, hsame, ranges, handled, hranges,
    (runSignals_eq_left_iff hbuilt).mp hleft, ?_⟩
  rcases threadResult_eq_ok (runSignals_eq_left.mp hleft).1 hresult
    with hstopped | ⟨raw, trap, hhandled, hnormalized, houtcome⟩
  · exact .inl hstopped
  · obtain ⟨rfl, htwo, hsyscall, -⟩ := normalizeSeccompSyscallTrap_eq_ok.mp hnormalized
    refine .inr ⟨raw, _, hhandled, houtcome, rfl, ?_, hsyscall⟩
    have hbefore : (raw.context.rip - 2).toNat = raw.context.rip.toNat - 2 :=
      UInt64.toNat_sub_of_le _ _ (UInt64.le_iff_toNat_le.mpr htwo)
    exact (congrArg (· + 2) hbefore).trans (Nat.sub_add_cancel htwo)

/-- **The signals are set back**, however an entry ends, and whatever the host refuses it: what was
set for them before is set afterwards, but for what the host refuses to set back, which is reported.
-/
theorem enterLinuxGuest_environment {result : Except GuestEntryError LinuxThreadExecutionOutcome}
    (h : enterLinuxGuestInternal host environment image preparedMemory bytes gateRegion context
      traps seccomp activity = .returned result environment') :
    Restored host environment environment' ∧
      ((∀ e, result = .error e → e.code ≠ .recoverySetupFailure) → environment' = environment) := by
  rw [enterLinuxGuestInternal] at h
  cases hchecked : checkEntry host image preparedMemory bytes gateRegion context traps with
  | error e =>
    simp only [hchecked, EntryRun.returned.injEq] at h
    obtain ⟨-, rfl⟩ := h
    exact ⟨.refl, fun _ => rfl⟩
  | ok =>
    cases hthread : host.threadStart with
    | some errno =>
      simp only [hchecked, hthread, EntryRun.returned.injEq] at h
      obtain ⟨-, rfl⟩ := h
      exact ⟨.refl, fun _ => rfl⟩
    | none =>
      simp only [hchecked, hthread] at h
      obtain ⟨hrestored, ⟨errno, rfl⟩ | ⟨hsame, -⟩⟩ := runLinuxGuestThread_cases h
      · exact ⟨hrestored, fun hcode => absurd rfl (hcode _ rfl)⟩
      · exact ⟨hrestored, fun _ => hsame⟩

/-- A host that starts threads and refuses no call about signals. -/
structure EntryHost.Grants (host : EntryHost σ) : Prop where
  threadStart : host.threadStart = none
  signalCall : ∀ call, host.signalCall call = none

theorem runLinuxGuestThread_returns (hgrants : host.Grants)
    (hranges : seccompRanges image seccomp = .ok ranges)
    (henter : enterGuestContext host environment image gateRegion traps seccomp activity ranges =
      .ok (.left handled)) :
    runLinuxGuestThread host environment image gateRegion traps seccomp activity =
      .returned (threadResult image activity.bytes handled) environment := by
  have hquery : (kGuestSignals.findSome? fun signal => host.signalCall (.query signal)) = none :=
    List.findSome?_eq_none_iff.mpr fun signal _ => hgrants.signalCall _
  have hspec := @restoreSignalEnvironment_spec _ host environment kGuestSignals
  dsimp only at hspec
  have hnone :
      (setEach (fun signal => host.signalCall (.install signal)) SignalAction.guest
      environment.actions kGuestSignals).1 = none := by
    simp only [setEach, kGuestSignals, hgrants.signalCall]
  generalize hset :
    setEach (fun signal => host.signalCall (.install signal)) SignalAction.guest environment.actions
    kGuestSignals = set at hspec hnone
  have herror :
      (restoreSignalEnvironment host environment set.2.1 ⟨host.requestedStack, set.2.2⟩).1 =
      none := by
    have hback :=
      (setBack_spec (fun signal => host.signalCall (.restore signal)) environment.actions set.2.2
      set.2.1).1.mpr
      fun signal _ => hgrants.signalCall _
    have hstack : host.signalCall .restoreStack = none := hgrants.signalCall _
    simp only [restoreSignalEnvironment, restoreStack, hback, hstack]
    rfl
  rw [runLinuxGuestThread]
  simp only [hranges, hgrants.signalCall .installStack, hquery, hset, hnone, henter,
    leaveGuestContext, herror, hspec.2 herror, Option.elim_none]

theorem EntryRun.andThen_eq_ok {α β : Type} {run : EntryRun σ α} {f : α → Except GuestEntryError β}
    {b : β} :
    run.andThen f = .returned (.ok b) environment ↔
    ∃ a, run = .returned (.ok a) environment ∧ f a = .ok b := by
  cases run with
  | returned result environment' =>
    simp only [EntryRun.andThen, EntryRun.returned.injEq, bind_eq_ok]
    constructor
    · rintro ⟨⟨a, hresult, hb⟩, hsame⟩
      exact ⟨a, ⟨hresult, hsame⟩, hb⟩
    · rintro ⟨a, ⟨hresult, hsame⟩, hb⟩
      exact ⟨⟨a, hresult, hb⟩, hsame⟩
  | processEnded =>
    constructor
    · intro h
      cases h
    · rintro ⟨_, h, -⟩
      cases h
  | running =>
    constructor
    · intro h
      cases h
    · rintro ⟨_, h, -⟩
      cases h

/-! ### An entry on a small scale -/

/-- A host that refuses nothing. -/
def grantingHost : EntryHost Unit where
  memory := ⟨4096, 0, fun address _ => .ok address, fun _ _ _ => none⟩
  locked := false
  threadStart := none
  signalCall := fun _ => none
  requestedStack := ()
  seccomp := ⟨.ok (), fun _ => .ok ()⟩

/-- Nothing is set but what a process begins with. -/
def plainEnvironment : SignalEnvironment Unit := ⟨(), fun _ => .standard⟩

/-- A page of code and a stack. -/
def entryImage : GuestImage := bareImage codeAndStack.mappings codeAndStack.stackStorage

/-- The memory of a guest whose code and stack share a page. -/
def entryMemory : LinuxPreparedMemory := ⟨⟨0x1000, []⟩, [codeAndStack.stackStorage], 1⟩

/-- A guest that makes a syscall at once. -/
def callingGuest : GuestActivity :=
  ⟨[kernelSignal entryContext 0x1002], fun x => if x = 0x1000 then 0x0f else 0x05⟩

/-- A fault of the host, outside guest code. -/
def hostFault : SignalDelivery := ⟨.sigsegv, none, some { rip := 0x9000 }⟩

/-- A thread with a handler of its own for that signal, which returns. -/
def handlingEnvironment : SignalEnvironment Unit :=
  ⟨(), fun signal => if signal = .sigsegv then .handler fun _ => true else .standard⟩

/-- The guest, with the fault of the host before its syscall. -/
def interruptedGuest : GuestActivity := ⟨hostFault :: callingGuest.signals, callingGuest.bytes⟩

/-- The fault of the host is handed on, and the guest is trapped at its syscall. -/
theorem enterLinuxGuest_outcome_example :
    ∃ outcome, enterLinuxGuestInternal grantingHost handlingEnvironment entryImage entryMemory
        interruptedGuest.bytes none { entryContext with rsp := 0x3800 } [] true interruptedGuest =
          .returned (.ok outcome) handlingEnvironment ∧
      (∃ ranges handled, LeavesBy entryImage ranges none [] handlingEnvironment.actions
        interruptedGuest.signals handled) ∧
      ∃ trap, outcome.seccompSyscallTrap = some trap ∧
        GuestSyscallAt entryImage interruptedGuest.bytes trap.auditArch trap.guestRip.value := by
  have hchecked : checkEntry grantingHost entryImage entryMemory interruptedGuest.bytes none
      { entryContext with rsp := 0x3800 } [] = .ok () := by rfl
  have hranges : seccompRanges entryImage true = .ok [⟨0x1000, 0x801⟩] := by rfl
  have henter : enterGuestContext grantingHost handlingEnvironment entryImage none [] true
      interruptedGuest [⟨0x1000, 0x801⟩] =
        .ok (.left (.seccompTrap ⟨captureGuestContext (behindSyscall entryContext), 0x1002,
          (kernelData entryContext 0x1002).nr, kAuditArchX8664⟩)) := rfl
  obtain ⟨trap, htrap⟩ : ∃ trap, threadResult entryImage interruptedGuest.bytes (.seccompTrap
      ⟨captureGuestContext (behindSyscall entryContext), 0x1002,
        (kernelData entryContext 0x1002).nr, kAuditArchX8664⟩) = .ok ⟨noStop, some trap⟩ := ⟨_, rfl⟩
  have hentered : enterLinuxGuestInternal grantingHost handlingEnvironment entryImage entryMemory
      interruptedGuest.bytes none { entryContext with rsp := 0x3800 } [] true interruptedGuest =
        .returned (.ok ⟨noStop, some trap⟩) handlingEnvironment := by
    rw [enterLinuxGuestInternal, hchecked, ← htrap]
    exact runLinuxGuestThread_returns ⟨rfl, fun _ => rfl⟩ hranges henter
  have hbuilt : GatesBuilt ⟨[]⟩ [] entryImage none := fun region hregion => by cases hregion
  obtain ⟨-, -, ranges, handled, -, hleaves, ⟨-, hnone⟩ | ⟨-, found, -, hfound, -, -, hsyscall⟩⟩ :=
    enterLinuxGuest_outcome hbuilt hentered
  · cases hnone
  · cases hfound
    exact ⟨_, hentered, ⟨ranges, handled, hleaves⟩, trap, rfl, hsyscall⟩

/-- A guest for which the host does not set the handler of the fourth signal. -/
theorem enterLinuxGuest_environment_example :
    ∃ environment, enterLinuxGuestInternal
        { grantingHost with
          signalCall := fun call => if call = .install .sigfpe then some ⟨12, by decide⟩ else none }
        plainEnvironment entryImage entryMemory callingGuest.bytes none { entryContext with
          rsp := 0x3800 } [] true
        callingGuest = .returned (.error (recoveryError ⟨12, by decide⟩)) environment ∧
      ∀ signal, environment.actions signal = .standard := by
  have hentered : ∃ environment, enterLinuxGuestInternal
      { grantingHost with
        signalCall := fun call => if call = .install .sigfpe then some ⟨12, by decide⟩ else none }
      plainEnvironment entryImage entryMemory callingGuest.bytes none { entryContext with
        rsp := 0x3800 } [] true
      callingGuest = .returned (.error (recoveryError ⟨12, by decide⟩)) environment := ⟨_, rfl⟩
  obtain ⟨environment, hentered⟩ := hentered
  refine ⟨environment, hentered, fun signal => ?_⟩
  rcases (enterLinuxGuest_environment hentered).1.actions signal with hsame | ⟨hrefused, -⟩
  · exact hsame
  · cases hrefused

section WithoutFilter

variable {region : SyntheticGateRegion} {stop : FaultStop}

theorem enterLinuxGuest_eq_ok (hbuilt : GatesBuilt registry reserved image (some region))
    (h : enterLinuxGuest host environment image preparedMemory bytes context traps activity region =
      .returned (.ok stop) environment') :
    checkEntry host image preparedMemory bytes (some region) context traps = .ok () ∧
    environment' = environment ∧
      LeavesBy image [] (some region) traps environment.actions activity.signals
        (.stopped stop) := by
  obtain ⟨outcome, hinternal, hstop⟩ := EntryRun.andThen_eq_ok.mp h
  obtain ⟨hchecked, hsame, ranges, handled, hranges, hleft, hresult⟩ :=
    enterLinuxGuestInternal_eq_ok hinternal
  cases hranges
  refine ⟨hchecked, hsame, ?_⟩
  rcases threadResult_eq_ok (runSignals_eq_left.mp hleft).1 hresult
    with ⟨rfl, hnone⟩ | ⟨raw, trap, -, -, rfl⟩
  · rw [hnone] at hstop
    cases hstop
    exact (runSignals_eq_left_iff hbuilt).mp hleft
  · cases hstop

/-- **When a guest that is entered without the filter leaves.** If the host refuses nothing, the
entry ends well just when everything checks and a signal of the guest's comes, and it ends with that
one. -/
theorem enterLinuxGuest_iff (hbuilt : GatesBuilt registry reserved image (some region))
    (hgrants : host.Grants) :
    enterLinuxGuest host environment image preparedMemory bytes context traps activity region =
        .returned (.ok stop) environment ↔
      checkEntry host image preparedMemory bytes (some region) context traps = .ok () ∧
        LeavesBy image [] (some region) traps environment.actions activity.signals
          (.stopped stop) := by
  constructor
  · intro h
    obtain ⟨hchecked, -, hleaves⟩ := enterLinuxGuest_eq_ok hbuilt h
    exact ⟨hchecked, hleaves⟩
  · rintro ⟨hchecked, hleaves⟩
    have hleft := (runSignals_eq_left_iff hbuilt).mpr hleaves
    have henter : enterGuestContext host environment image (some region) traps false activity [] =
        .ok (.left (.stopped stop)) :=
      pure_eq_ok.mpr hleft
    refine EntryRun.andThen_eq_ok.mpr ⟨⟨stop, none⟩, ?_, rfl⟩
    rw [enterLinuxGuestInternal, hchecked, hgrants.threadStart]
    exact runLinuxGuestThread_returns hgrants rfl henter

end WithoutFilter

end Outcome

end Astraea.Execution
