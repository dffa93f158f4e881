import Astraea.Execution.HleSetup
import Astraea.Execution.SeccompFilter
import Astraea.Execution.SyscallContexts

/-!
# The signals of a guest

A guest runs on a thread of the host, and leaves it by a signal. `guest_signal_handler` says whether
the signal is the guest's, by the address it happened at, and which stop of the guest it is: a call
through a gate, a syscall that was replaced, a fault, or a syscall that the filter trapped. What the
filter trapped is checked again outside the handler, by `normalize_seccomp_syscall_trap`.

`Claims` says what the handler claims, in terms of the image, the gates and the registered syscalls,
and `guestSignalHandler_claims` that it claims just that. `guestSyscall_reaches_controller` follows
one syscall from the filter to the request that is made of it, on both of the ways there are.
-/

namespace Astraea.Execution

open Astraea.Base Astraea.Base.Bpf Astraea.Loader Astraea.Memory

/-! ### Signals -/

/-- The signals the handler is for. -/
inductive GuestSignal where
  | sigsegv
  | sigbus
  | sigill
  | sigfpe
  | sigsys
  deriving DecidableEq

/-- `kGuestSignals`. -/
def kGuestSignals : List GuestSignal := [.sigsegv, .sigbus, .sigill, .sigfpe, .sigsys]

/-- The number of a signal. -/
def GuestSignal.number : GuestSignal → UInt32
  | .sigsegv => 11
  | .sigbus => 7
  | .sigill => 4
  | .sigfpe => 8
  | .sigsys => 31

/-- `SYS_SECCOMP`. -/
def kLinuxSysSeccompSignalCode : Int32 := 1

/-- `siginfo_t`, as far as it is read. -/
structure SignalInfo where
  code : Int32
  addr : UInt64 := 0
  callAddr : UInt64 := 0
  syscall : Int32 := 0
  arch : UInt32 := 0
  deriving DecidableEq

/-- A signal as the handler gets it, with the registers at the time. -/
structure SignalDelivery where
  signal : GuestSignal
  info : Option SignalInfo
  hostContext : Option GuestCpuContext
  deriving DecidableEq

/-! ### Stops -/

/-- How a guest faulted. -/
inductive GuestFaultKind where
  | accessViolation
  | illegalInstruction
  | arithmetic
  | breakpointOrTrap
  | unknown
  deriving DecidableEq

/-- A fault of the guest, with its registers. -/
structure GuestFault where
  kind : GuestFaultKind := .unknown
  instructionPointer : UInt64 := 0
  stackPointer : UInt64 := 0
  hasFaultAddress : Bool := false
  faultAddress : UInt64 := 0
  hostCode : UInt64 := 0
  deriving DecidableEq

/-- A stop of the native backend, with its fault. -/
structure FaultStop extends BackendStop where
  fault : GuestFault
  deriving DecidableEq

/-- A syscall that the filter has trapped, as the handler saw it. -/
structure RawLinuxSeccompSyscallTrap where
  context : GuestCpuContext
  kernelInstructionPointer : UInt64
  syscallNumber : Int32
  auditArch : UInt32
  deriving DecidableEq

/-! ### The handler -/

/-- What a handler needs to know of the thread it interrupts. -/
structure SignalFrame where
  executableRanges : List SignalRange
  seccompInstructionRanges : List SignalRange
  gateBase : UInt64
  gateSlotCount : UInt32
  registeredSyscallTraps : List RegisteredSyscallTrapSite

/-- `frame_owns_guest_seccomp_ip`. -/
def frameOwnsGuestSeccompIp (frame : SignalFrame) (instructionPointer : UInt64) : Bool :=
  frame.seccompInstructionRanges.any fun range => rangeContains range instructionPointer

/-- `frame_owns_guest_rip`. -/
def frameOwnsGuestRip (frame : SignalFrame) (rip : UInt64) : Bool :=
  frame.executableRanges.any (fun range => rangeContains range rip) ||
    rangeContains ⟨frame.gateBase, frame.gateSlotCount.toUInt64 * kSyntheticGateStride⟩ rip

/-- `recognize_gate_slot`. -/
def recognizeGateSlot (frame : SignalFrame) (rip : UInt64) : Option UInt32 :=
  if rip < frame.gateBase then none
  else
    let offset := rip - frame.gateBase
    if offset % kSyntheticGateStride ≠ 0 then none
    else
      let candidate := offset / kSyntheticGateStride
      if candidate ≥ frame.gateSlotCount.toUInt64 then none else some candidate.toUInt32

/-- `recognize_registered_syscall_trap`. -/
def recognizeRegisteredSyscallTrap (frame : SignalFrame) (rip : UInt64) : Bool :=
  frame.registeredSyscallTraps.any fun site => registeredSyscallTrapMatchesRip site ⟨rip⟩

/-- `fault_kind_for_signal`. -/
def faultKindForSignal : GuestSignal → GuestFaultKind
  | .sigsegv => .accessViolation
  | .sigbus => .accessViolation
  | .sigill => .illegalInstruction
  | .sigfpe => .arithmetic
  | .sigsys => .unknown

/-- `host_signal_code`. -/
def hostSignalCode (signal : GuestSignal) (info : Option SignalInfo) : UInt64 :=
  signal.number.toUInt64 <<< 32 ||| (info.elim 0 SignalInfo.code).toUInt32.toUInt64

/-- `capture_guest_context`: the bases of segments are not the guest's. -/
def captureGuestContext (hostContext : GuestCpuContext) : GuestCpuContext :=
  { hostContext with fsBase := 0, gsBase := 0 }

/-- The fault of a signal. -/
def signalFault (signal : GuestSignal) (info : Option SignalInfo) (hostContext : GuestCpuContext) :
    GuestFault :=
  let hasFaultAddress := info.isSome && (signal == .sigsegv || signal == .sigbus)
  { kind := faultKindForSignal signal
    instructionPointer := hostContext.rip
    stackPointer := hostContext.rsp
    hasFaultAddress := hasFaultAddress
    faultAddress := if hasFaultAddress then info.elim 0 SignalInfo.addr else 0
    hostCode := hostSignalCode signal info }

/-- How the handler ends: it hands the signal on, or it leaves the guest with what it has put into
the frame. -/
inductive HandlerOutcome where
  | chained
  | seccompTrap (raw : RawLinuxSeccompSyscallTrap)
  | stopped (stop : FaultStop)
  deriving DecidableEq

/-- The info of a signal that the filter sent. -/
def SignalDelivery.seccompInfo? (delivery : SignalDelivery) : Option SignalInfo :=
  if delivery.signal = .sigsys then
    delivery.info.filter fun info => info.code = kLinuxSysSeccompSignalCode else none

/-- The handler, for a signal that the filter did not send. -/
def handleGuestStop (frame : SignalFrame) (signal : GuestSignal) (info : Option SignalInfo)
    (hostContext : GuestCpuContext) :
    HandlerOutcome :=
  let rip := hostContext.rip
  if frameOwnsGuestRip frame rip = false then .chained
  else
    let context := captureGuestContext hostContext
    match if signal = .sigill then recognizeGateSlot frame rip else none with
    | some gateSlot => .stopped ⟨⟨⟨.hostGate, context, true, gateSlot⟩, false⟩, {}⟩
    | none =>
      if signal = .sigill ∧ recognizeRegisteredSyscallTrap frame rip = true then
        .stopped ⟨⟨⟨.registeredSyscallTrap, context, false, 0⟩, false⟩, {}⟩
      else .stopped ⟨⟨⟨.guestFault, context, false, 0⟩, true⟩, signalFault signal info hostContext⟩

/-- `guest_signal_handler`, on a thread that has a frame or not. -/
def guestSignalHandler (frame : Option SignalFrame) (delivery : SignalDelivery) : HandlerOutcome :=
  match frame, delivery.hostContext with
  | some frame, some hostContext =>
    match delivery.seccompInfo? with
    | some info =>
      if frameOwnsGuestSeccompIp frame info.callAddr = false then .chained
      else .seccompTrap ⟨captureGuestContext hostContext, info.callAddr, info.syscall, info.arch⟩
    | none => handleGuestStop frame delivery.signal delivery.info hostContext
  | _, _ => .chained

/-- The frame that a thread gets. -/
def threadFrame (image : GuestImage) (seccompInstructionRanges : List SignalRange)
    (gateRegion : Option SyntheticGateRegion)
    (registeredSyscallTraps : List RegisteredSyscallTrapSite) : SignalFrame where
  executableRanges := buildExecutableRanges image
  seccompInstructionRanges := seccompInstructionRanges
  gateBase := gateRegion.elim 0 fun region => region.range.base.value
  gateSlotCount := gateRegion.elim 0 SyntheticGateRegion.slotCount
  registeredSyscallTraps := registeredSyscallTraps

/-! ### Traps of the filter -/

/-- `AUDIT_ARCH_I386`. -/
def kLinuxAuditArchI386 : UInt32 := 0x40000003

/-- `kX86Int80Bytes`. -/
def kX86Int80Bytes : Vector UInt8 2 := #v[0xcd, 0x80]

/-- The bytes of a syscall in an architecture. -/
def syscallBytes? (auditArch : UInt32) : Option (Vector UInt8 2) :=
  if auditArch = kLinuxAuditArchX8664 then some kX86SyscallBytes
  else if auditArch = kLinuxAuditArchI386 then some kX86Int80Bytes
  else none

/-- `normalize_seccomp_syscall_trap`, over the bytes guest memory holds. -/
def normalizeSeccompSyscallTrap (image : GuestImage) (bytes : ℕ → UInt8)
    (raw : RawLinuxSeccompSyscallTrap) :
    Except GuestEntryError LinuxSeccompSyscallTrap := do
  refuseIf (raw.context.rip < 2)
    { code := .syscallInterceptionMetadataFailure, guestAddress := raw.context.rip }
  let guestRip := raw.context.rip - 2
  refuseIf (exactExecutableContains image guestRip = false ∨
    exactExecutableContains image (guestRip + 1) = false ∨ raw.kernelInstructionPointer ≠ guestRip ∧
    raw.kernelInstructionPointer ≠ raw.context.rip)
    { code := .syscallInterceptionMetadataFailure, guestAddress := guestRip }
  refuseIf ((syscallBytes? raw.auditArch).map Vector.toList ≠ some (load bytes guestRip.toNat 2))
    { code := .syscallInterceptionMetadataFailure, guestAddress := guestRip }
  return ⟨raw.context, ⟨guestRip⟩, raw.syscallNumber, raw.auditArch⟩

/-! ### What the handler claims -/

section Claims

variable {registry : HleRegistry} {reserved : List GuestRange} {image : GuestImage}
  {ranges : List SignalRange} {gateRegion : Option SyntheticGateRegion}
  {traps : List RegisteredSyscallTrapSite} {delivery : SignalDelivery} {outcome : HandlerOutcome}
  {rip : UInt64}

/-- The address is one of the guest's: of its code, or of a gate. -/
def OwnsRip (image : GuestImage) (gateRegion : Option SyntheticGateRegion) (rip : UInt64) : Prop :=
  exactExecutableContains image rip = true ∨ ∃ region ∈ gateRegion, rip.toNat ∈ region.range

/-- The address is that of a gate. -/
def GateAt (gateRegion : Option SyntheticGateRegion) (rip : UInt64) (slot : UInt32) : Prop :=
  ∃ region ∈ gateRegion, region.slotAddress slot = some ⟨rip⟩

/-- What is claimed of a signal, and as what. -/
inductive Claims (image : GuestImage) (ranges : List SignalRange)
    (gateRegion : Option SyntheticGateRegion) (traps : List RegisteredSyscallTrapSite)
    (delivery : SignalDelivery) : HandlerOutcome → Prop
  /-- The filter trapped a syscall at an address of its ranges. -/
  | syscall (info : SignalInfo) (context : GuestCpuContext)
      (hinfo : delivery.seccompInfo? = some info)
      (hcontext : delivery.hostContext = some context)
        (howned : ∃ range ∈ ranges, rangeContains range info.callAddr = true) :
      Claims image ranges gateRegion traps delivery
        (.seccompTrap ⟨captureGuestContext context, info.callAddr, info.syscall, info.arch⟩)
  /-- An illegal instruction at a gate is a call through it. -/
  | gate (context : GuestCpuContext) (slot : UInt32)
      (hcontext : delivery.hostContext = some context)
      (hsignal : delivery.signal = .sigill) (hgate : GateAt gateRegion context.rip slot) :
      Claims image ranges gateRegion traps delivery
        (.stopped ⟨⟨⟨.hostGate, captureGuestContext context, true, slot⟩, false⟩, {}⟩)
  /-- An illegal instruction at a registered syscall is that syscall. -/
  | registered (context : GuestCpuContext) (hcontext : delivery.hostContext = some context)
      (hsignal : delivery.signal = .sigill) (howned : OwnsRip image gateRegion context.rip)
      (hgate : ∀ slot, ¬ GateAt gateRegion context.rip slot)
        (hsite : ∃ site ∈ traps, site.guestRip = ⟨context.rip⟩) :
      Claims image ranges gateRegion traps delivery
        (.stopped ⟨⟨⟨.registeredSyscallTrap, captureGuestContext context, false, 0⟩, false⟩, {}⟩)
  /-- Everything else at an address of the guest is a fault of it. -/
  | fault (context : GuestCpuContext) (hcontext : delivery.hostContext = some context)
      (hinfo : delivery.seccompInfo? = none) (howned : OwnsRip image gateRegion context.rip)
      (hgate : delivery.signal = .sigill → ∀ slot, ¬ GateAt gateRegion context.rip slot)
      (hsite : delivery.signal = .sigill → ¬ ∃ site ∈ traps, site.guestRip = ⟨context.rip⟩) :
      Claims image ranges gateRegion traps delivery
        (.stopped ⟨⟨⟨.guestFault, captureGuestContext context, false, 0⟩, true⟩,
          signalFault delivery.signal delivery.info context⟩)

/-- The gates, where there are any, were built for the image. -/
def GatesBuilt (registry : HleRegistry) (reserved : List GuestRange) (image : GuestImage)
    (gateRegion : Option SyntheticGateRegion) : Prop :=
  ∀ region ∈ gateRegion, GateRegionBuilt registry image reserved region

theorem exists_executableRange_iff :
    (buildExecutableRanges image).any (fun range => rangeContains range rip) = true ↔
    exactExecutableContains image rip = true := by
  rw [List.any_eq_true, exactExecutableContains_iff]
  constructor
  · rintro ⟨range, hrange, hcontains⟩
    obtain ⟨mapping, hmapping, hexecute, -, rfl⟩ := mem_buildExecutableRanges.mp hrange
    exact ⟨mapping, hmapping, hexecute, rangeContains_iff.mp hcontains⟩
  · rintro ⟨mapping, hmapping, hexecute, hmem⟩
    refine ⟨_, mem_buildExecutableRanges.mpr ⟨mapping, hmapping, hexecute, ?_, rfl⟩,
      rangeContains_iff.mpr hmem⟩
    rw [GuestRange.mem_def, GuestRange.last] at hmem
    omega

theorem frameOwnsGuestRip_iff (hbuilt : GatesBuilt registry reserved image gateRegion) :
    frameOwnsGuestRip (threadFrame image ranges gateRegion traps) rip = true ↔
    OwnsRip image gateRegion rip := by
  have hgates : rangeContains ⟨(threadFrame image ranges gateRegion traps).gateBase,
      (threadFrame image ranges gateRegion traps).gateSlotCount.toUInt64 * kSyntheticGateStride⟩
        rip = true ↔
      ∃ region ∈ gateRegion, rip.toNat ∈ region.range := by
    rw [rangeContains_iff]
    dsimp only
    rw [toNat_gateOffset]
    cases gateRegion with
    | none => simp [threadFrame]
    | some region =>
      have hsize := (hbuilt region rfl).size
      simp only [threadFrame, Option.elim_some, Option.mem_def, Option.some.injEq, exists_eq_left',
        GuestRange.mem_def, GuestRange.last, hsize]
      exact Iff.rfl
  rw [frameOwnsGuestRip, Bool.or_eq_true, hgates]
  exact or_congr_left exists_executableRange_iff

/-- The handler and the region recognize the same gates. -/
theorem recognizeGateSlot_eq {region : SyntheticGateRegion}
    (hsize : region.range.size.toNat = region.slotCount.toNat * 16) :
    recognizeGateSlot (threadFrame image ranges (some region) traps) rip =
      region.recognizeSlot ⟨rip⟩ := by
  unfold recognizeGateSlot SyntheticGateRegion.recognizeSlot
  have hbase : (threadFrame image ranges (some region) traps).gateBase = region.range.base.value :=
    rfl
  have hcount : (threadFrame image ranges (some region) traps).gateSlotCount = region.slotCount :=
    rfl
  rw [hbase, hcount]
  dsimp only
  by_cases hbefore : rip < region.range.base.value
  · have hout : region.range.contains ⟨rip⟩ = false :=
      GuestRange.contains_eq_false.mpr fun hmem =>
        absurd hmem.1 (Nat.not_le.mpr (UInt64.lt_iff_toNat_lt.mp hbefore))
    rw [if_pos hbefore, if_pos hout]
  · rw [if_neg hbefore]
    have hle : region.range.base.toNat ≤ rip.toNat :=
      UInt64.le_iff_toNat_le.mp (UInt64.not_lt.mp hbefore)
    by_cases hout : region.range.contains ⟨rip⟩ = false
    · have hbehind := GuestRange.contains_eq_false.mp hout
      have haddress : (GuestAddress.mk rip).toNat = rip.toNat := rfl
      rw [GuestRange.mem_def, GuestRange.last, hsize, haddress] at hbehind
      have hslot : (rip - region.range.base.value) / kSyntheticGateStride ≥
          region.slotCount.toUInt64 := by
        have hstride : kSyntheticGateStride.toNat = 16 := rfl
        rw [ge_iff_le, UInt64.le_iff_toNat_le, UInt64.toNat_div, hstride, UInt32.toNat_toUInt64,
          UInt64.toNat_sub_of_le _ _ (UInt64.not_lt.mp hbefore), Nat.le_div_iff_mul_le (by decide)]
        change region.slotCount.toNat * 16 ≤ rip.toNat - region.range.base.toNat
        omega
      rw [if_pos hout, if_pos hslot, ite_self]
    · rw [if_neg hout]

variable {slot : UInt32}

theorem recognizeGateSlot_eq_some (hbuilt : GatesBuilt registry reserved image gateRegion) :
    recognizeGateSlot (threadFrame image ranges gateRegion traps) rip = some slot ↔
    GateAt gateRegion rip slot := by
  cases gateRegion with
  | none =>
    have hnone : recognizeGateSlot (threadFrame image ranges none traps) rip = none := by
      unfold recognizeGateSlot
      dsimp only
      split_ifs with hbefore hoffset hslot
      · rfl
      · rfl
      · rfl
      · exact absurd (UInt64.le_iff_toNat_le.mpr (Nat.zero_le _)) hslot
    rw [hnone]
    exact ⟨fun hsome => (by cases hsome), fun ⟨region, hregion, _⟩ => (by cases hregion)⟩
  | some region =>
    have hregion := hbuilt region rfl
    rw [recognizeGateSlot_eq hregion.size, hregion.recognizeSlot_eq_some]
    exact ⟨fun haddress => ⟨region, rfl, haddress⟩,
      fun ⟨_, hsome, haddress⟩ => (by cases hsome; exact haddress)⟩

theorem recognizeRegisteredSyscallTrap_iff :
    recognizeRegisteredSyscallTrap (threadFrame image ranges gateRegion traps) rip = true ↔
      ∃ site ∈ traps, site.guestRip = ⟨rip⟩ := by
  simp only [recognizeRegisteredSyscallTrap, threadFrame, List.any_eq_true,
    registeredSyscallTrapMatchesRip, beq_iff_eq]

section

variable (hbuilt : GatesBuilt registry reserved image gateRegion)

include hbuilt

theorem owned_of_gateAt (hgate : GateAt gateRegion rip slot) : OwnsRip image gateRegion rip := by
  obtain ⟨region, hregion, haddress⟩ := hgate
  have hsize := (hbuilt region hregion).size
  obtain ⟨hslot, hrip⟩ := (hbuilt region hregion).slotAddress_eq_some.mp haddress
  rw [UInt32.lt_iff_toNat_lt] at hslot
  have hnat : (GuestAddress.mk rip).toNat = rip.toNat := rfl
  refine .inr ⟨region, hregion, ?_⟩
  rw [GuestRange.mem_def, GuestRange.last, hsize]
  omega

theorem not_code_of_gateAt (hgate : GateAt gateRegion rip slot) :
    exactExecutableContains image rip = false := by
  obtain ⟨region, hregion, haddress⟩ := hgate
  have hsize := (hbuilt region hregion).size
  obtain ⟨hslot, hrip⟩ := (hbuilt region hregion).slotAddress_eq_some.mp haddress
  rw [UInt32.lt_iff_toNat_lt] at hslot
  have hnat : (GuestAddress.mk rip).toNat = rip.toNat := rfl
  have hmem : rip.toNat ∈ region.range := by
    rw [GuestRange.mem_def, GuestRange.last, hsize]
    omega
  rw [← Bool.not_eq_true, exactExecutableContains_iff]
  rintro ⟨mapping, hmapping, -, hcode⟩
  exact ((hbuilt region hregion).apart _ hmem).1 mapping hmapping hcode

/-- What the handler does with a signal that the filter did not send. -/
theorem handleGuestStop_cases (context : GuestCpuContext)
    (hcontext : delivery.hostContext = some context) (hinfo : delivery.seccompInfo? = none) :
    let outcome := handleGuestStop
      (threadFrame image ranges gateRegion traps) delivery.signal delivery.info context
    (outcome = .chained ∧ ¬ OwnsRip image gateRegion context.rip) ∨
    Claims image ranges gateRegion traps delivery outcome := by
  intro outcome
  by_cases howned : OwnsRip image gateRegion context.rip
  · refine .inr ?_
    have hframe : frameOwnsGuestRip (threadFrame image ranges gateRegion traps) context.rip =
        true :=
      (frameOwnsGuestRip_iff hbuilt).mpr howned
    have hunfold : outcome = match if delivery.signal = .sigill then
        recognizeGateSlot (threadFrame image ranges gateRegion traps) context.rip else none with
        | some gateSlot =>
          .stopped ⟨⟨⟨.hostGate, captureGuestContext context, true, gateSlot⟩, false⟩, {}⟩
        | none =>
          if delivery.signal = .sigill ∧
              recognizeRegisteredSyscallTrap
                (threadFrame image ranges gateRegion traps) context.rip = true then
            .stopped ⟨⟨⟨.registeredSyscallTrap, captureGuestContext context, false, 0⟩, false⟩, {}⟩
          else .stopped ⟨⟨⟨.guestFault, captureGuestContext context, false, 0⟩, true⟩,
            signalFault delivery.signal delivery.info context⟩ :=
      if_neg (by rw [hframe]; exact Bool.noConfusion)
    rw [hunfold]
    by_cases hsignal : delivery.signal = .sigill
    · rw [if_pos hsignal]
      cases hslot : recognizeGateSlot (threadFrame image ranges gateRegion traps) context.rip with
      | some slot =>
        exact .gate context slot hcontext hsignal ((recognizeGateSlot_eq_some hbuilt).mp hslot)
      | none =>
        have hgate : ∀ slot, ¬ GateAt gateRegion context.rip slot := fun slot hat => by
          rw [(recognizeGateSlot_eq_some hbuilt).mpr hat] at hslot
          cases hslot
        dsimp only
        split_ifs with hsite
        · exact .registered context hcontext hsignal howned hgate
            (recognizeRegisteredSyscallTrap_iff.mp hsite.2)
        · refine .fault context hcontext hinfo howned (fun _ => hgate) fun _ hexists =>
            hsite ⟨hsignal, ?_⟩
          exact recognizeRegisteredSyscallTrap_iff.mpr hexists
    · rw [if_neg hsignal]
      dsimp only
      rw [if_neg fun h => hsignal h.1]
      exact .fault context hcontext hinfo howned (fun h => absurd h hsignal) fun h =>
        absurd h hsignal
  · have hframe : frameOwnsGuestRip (threadFrame image ranges gateRegion traps) context.rip =
        false := by
      rw [← Bool.not_eq_true, frameOwnsGuestRip_iff hbuilt]
      exact howned
    exact .inl ⟨if_pos hframe, howned⟩

end

/-- The signal is the guest's. -/
def Owned (image : GuestImage) (ranges : List SignalRange) (gateRegion : Option SyntheticGateRegion)
    (delivery : SignalDelivery) : Prop :=
  ∃ context, delivery.hostContext = some context ∧
    match delivery.seccompInfo? with
    | some info => ∃ range ∈ ranges, rangeContains range info.callAddr = true
    | none => OwnsRip image gateRegion context.rip

theorem seccompInfo?_of_sigill (hsignal : delivery.signal = .sigill) :
    delivery.seccompInfo? = none := by
  rw [SignalDelivery.seccompInfo?, hsignal, if_neg (by decide)]

theorem Claims.owned (hbuilt : GatesBuilt registry reserved image gateRegion)
    (h : Claims image ranges gateRegion traps delivery outcome) :
    Owned image ranges gateRegion delivery := by
  cases h with
  | syscall info context hinfo hcontext howned =>
    refine ⟨context, hcontext, ?_⟩
    rw [hinfo]
    exact howned
  | gate context slot hcontext hsignal hgate =>
    refine ⟨context, hcontext, ?_⟩
    rw [seccompInfo?_of_sigill hsignal]
    exact owned_of_gateAt hbuilt hgate
  | registered context hcontext hsignal howned hgate hsite =>
    refine ⟨context, hcontext, ?_⟩
    rw [seccompInfo?_of_sigill hsignal]
    exact howned
  | fault context hcontext hinfo howned hgate hsite =>
    refine ⟨context, hcontext, ?_⟩
    rw [hinfo]
    exact howned

theorem guestSignalHandler_cases (ranges : List SignalRange)
    (traps : List RegisteredSyscallTrapSite)
    (hbuilt : GatesBuilt registry reserved image gateRegion) (delivery : SignalDelivery) :
    let outcome := guestSignalHandler (some (threadFrame image ranges gateRegion traps)) delivery
    (outcome = .chained ∧ ¬ Owned image ranges gateRegion delivery) ∨
    Claims image ranges gateRegion traps delivery outcome := by
  intro outcome
  cases hcontext : delivery.hostContext with
  | none =>
    refine .inl ⟨?_, fun ⟨context, hsome, _⟩ => by rw [hcontext] at hsome; cases hsome⟩
    simp only [outcome, guestSignalHandler, hcontext]
  | some context =>
    cases hinfo : delivery.seccompInfo? with
    | some info =>
      by_cases howned : frameOwnsGuestSeccompIp
        (threadFrame image ranges gateRegion traps) info.callAddr = false
      · refine .inl ⟨?_, ?_⟩
        · simp only [outcome, guestSignalHandler, hcontext, hinfo, howned, if_true]
        · rintro ⟨_, -, hrange⟩
          rw [hinfo] at hrange
          exact Bool.false_ne_true (howned.symm.trans (List.any_eq_true.mpr hrange))
      · have houtcome : outcome =
            .seccompTrap ⟨captureGuestContext context, info.callAddr, info.syscall, info.arch⟩ := by
          simp only [outcome, guestSignalHandler, hcontext, hinfo]
          exact if_neg howned
        rw [houtcome]
        rw [Bool.not_eq_false] at howned
        exact .inr (.syscall info context hinfo hcontext (List.any_eq_true.mp howned))
    | none =>
      have houtcome : outcome =
          handleGuestStop (threadFrame image ranges gateRegion traps) delivery.signal delivery.info
            context := by
        simp only [outcome, guestSignalHandler, hcontext, hinfo]
      rw [houtcome]
      refine (handleGuestStop_cases hbuilt context hcontext hinfo).imp_left fun ⟨hchained, hnot⟩ =>
        ⟨hchained, ?_⟩
      rintro ⟨context', hcontext', howned⟩
      rw [hinfo] at howned
      rw [hcontext] at hcontext'
      cases hcontext'
      exact hnot howned

theorem Claims.ne_chained (h : Claims image ranges gateRegion traps delivery outcome) :
    outcome ≠ .chained := by
  cases h <;> exact HandlerOutcome.noConfusion

section

variable (hbuilt : GatesBuilt registry reserved image gateRegion)

include hbuilt

theorem gateAt_unique {slot' : UInt32} (h : GateAt gateRegion rip slot)
    (h' : GateAt gateRegion rip slot') : slot = slot' := by
  obtain ⟨region, hregion, haddress⟩ := h
  obtain ⟨region', hregion', haddress'⟩ := h'
  cases hregion.symm.trans hregion'
  have hslot := ((hbuilt region hregion).slotAddress_eq_some.mp haddress).2
  have hslot' := ((hbuilt region hregion).slotAddress_eq_some.mp haddress').2
  exact UInt32.toNat_inj.mp (by omega)

theorem Claims.unique {outcome' : HandlerOutcome}
    (h : Claims image ranges gateRegion traps delivery outcome)
    (h' : Claims image ranges gateRegion traps delivery outcome') :
    outcome = outcome' := by
  have hsame : ∀ {context context'}, delivery.hostContext = some context →
    delivery.hostContext = some context' →
      context = context' :=
        fun hcontext hcontext' => Option.some.inj (hcontext.symm.trans hcontext')
  cases h with
  | syscall info context hinfo hcontext howned =>
    cases h' with
    | syscall info' context' hinfo' hcontext' howned' =>
      rw [hsame hcontext hcontext', Option.some.inj (hinfo.symm.trans hinfo')]
    | gate context' slot' hcontext' hsignal' hgate' =>
      cases hinfo.symm.trans (seccompInfo?_of_sigill hsignal')
    | registered context' hcontext' hsignal' howned' hgate' hsite' =>
      cases hinfo.symm.trans (seccompInfo?_of_sigill hsignal')
    | fault context' hcontext' hinfo' howned' hgate' hsite' => cases hinfo.symm.trans hinfo'
  | gate context slot hcontext hsignal hgate =>
    cases h' with
    | syscall info' context' hinfo' hcontext' howned' =>
      cases hinfo'.symm.trans (seccompInfo?_of_sigill hsignal)
    | gate context' slot' hcontext' hsignal' hgate' =>
      cases hsame hcontext hcontext'
      rw [gateAt_unique hbuilt hgate hgate']
    | registered context' hcontext' hsignal' howned' hgate' hsite' =>
      cases hsame hcontext hcontext'
      exact absurd hgate (hgate' slot)
    | fault context' hcontext' hinfo' howned' hgate' hsite' =>
      cases hsame hcontext hcontext'
      exact absurd hgate (hgate' hsignal slot)
  | registered context hcontext hsignal howned hgate hsite =>
    cases h' with
    | syscall info' context' hinfo' hcontext' howned' =>
      cases hinfo'.symm.trans (seccompInfo?_of_sigill hsignal)
    | gate context' slot' hcontext' hsignal' hgate' =>
      cases hsame hcontext hcontext'
      exact absurd hgate' (hgate slot')
    | registered context' hcontext' hsignal' howned' hgate' hsite' => rw [hsame hcontext hcontext']
    | fault context' hcontext' hinfo' howned' hgate' hsite' =>
      cases hsame hcontext hcontext'
      exact absurd hsite (hsite' hsignal)
  | fault context hcontext hinfo howned hgate hsite =>
    cases h' with
    | syscall info' context' hinfo' hcontext' howned' => cases hinfo.symm.trans hinfo'
    | gate context' slot' hcontext' hsignal' hgate' =>
      cases hsame hcontext hcontext'
      exact absurd hgate' (hgate hsignal' slot')
    | registered context' hcontext' hsignal' howned' hgate' hsite' =>
      cases hsame hcontext hcontext'
      exact absurd hsite' (hsite hsignal')
    | fault context' hcontext' hinfo' howned' hgate' hsite' => rw [hsame hcontext hcontext']

/-- What the handler claims: the signals that are the guest's, each as what it is and nothing else.
-/
theorem guestSignalHandler_claims (hne : outcome ≠ .chained) :
    guestSignalHandler (some (threadFrame image ranges gateRegion traps)) delivery = outcome ↔
      Claims image ranges gateRegion traps delivery outcome := by
  have hcases := guestSignalHandler_cases ranges traps hbuilt delivery
  dsimp only at hcases
  constructor
  · rintro rfl
    exact hcases.resolve_left fun h => hne h.1
  · intro h
    rcases hcases with ⟨-, hnot⟩ | hclaims
    · exact absurd (h.owned hbuilt) hnot
    · exact hclaims.unique hbuilt h

theorem guestSignalHandler_chained :
    guestSignalHandler (some (threadFrame image ranges gateRegion traps)) delivery = .chained ↔
      ¬ Owned image ranges gateRegion delivery := by
  rcases guestSignalHandler_cases ranges traps hbuilt delivery with ⟨hchained, hnot⟩ | hclaims
  · exact ⟨fun _ => hnot, fun _ => hchained⟩
  · exact ⟨fun hchained => absurd hchained hclaims.ne_chained, fun hnot =>
      absurd (hclaims.owned hbuilt) hnot⟩

end

end Claims

/-! ### One syscall, on both ways -/

section Syscall

variable {registry : HleRegistry} {reserved : List GuestRange} {image : GuestImage}
  {ranges : List SignalRange} {gateRegion : Option SyntheticGateRegion}
  {traps : List RegisteredSyscallTrapSite} {bytes : ℕ → UInt8}

/-- There is a syscall of an architecture at an address of the guest. -/
structure GuestSyscallAt (image : GuestImage) (bytes : ℕ → UInt8) (auditArch : UInt32)
    (rip : UInt64) : Prop where
  first : exactExecutableContains image rip = true
  second : exactExecutableContains image (rip + 1) = true
  bytes : (syscallBytes? auditArch).map Vector.toList = some (load bytes rip.toNat 2)

/-- What passes the check: a trap behind a syscall of the guest, which is where the kernel says. -/
theorem normalizeSeccompSyscallTrap_eq_ok {raw : RawLinuxSeccompSyscallTrap}
    {trap : LinuxSeccompSyscallTrap} :
    normalizeSeccompSyscallTrap image bytes raw = .ok trap ↔
      trap = ⟨raw.context, ⟨raw.context.rip - 2⟩, raw.syscallNumber, raw.auditArch⟩ ∧
      2 ≤ raw.context.rip.toNat ∧
        GuestSyscallAt image bytes raw.auditArch (raw.context.rip - 2) ∧
        (raw.kernelInstructionPointer = raw.context.rip - 2 ∨
          raw.kernelInstructionPointer = raw.context.rip) := by
  have htwo : ¬ raw.context.rip < 2 ↔ 2 ≤ raw.context.rip.toNat := by
    rw [UInt64.not_lt, UInt64.le_iff_toNat_le]
    exact Iff.rfl
  simp only [normalizeSeccompSyscallTrap, check_bind_eq_ok, refuseIf_eq_ok, pure_eq_ok, not_or,
    Bool.not_eq_false, not_and_or, not_not, htwo]
  constructor
  · rintro ⟨hrip, ⟨hfirst, hsecond, hkernel⟩, hbytes, rfl⟩
    exact ⟨rfl, hrip, ⟨hfirst, hsecond, hbytes⟩, hkernel⟩
  · rintro ⟨rfl, hrip, ⟨hfirst, hsecond, hbytes⟩, hkernel⟩
    exact ⟨hrip, ⟨hfirst, hsecond, hkernel⟩, hbytes, rfl⟩

/-- The registers behind the instruction, which keeps the next address and the flags in two of them.
-/
def behindSyscall (context : GuestCpuContext) : GuestCpuContext :=
  { context with rcx := context.rip + 2, r11 := context.rflags, rip := context.rip + 2 }

/-- What a kernel asks the filter about a syscall, if it takes it to be at `address`. -/
def kernelData (context : GuestCpuContext) (address : UInt64) : SeccompData where
  nr := context.rax.toUInt32.toInt32
  arch := kAuditArchX8664
  instructionPointer := address
  args := projectArguments context

/-- The signal it sends if the filter says so. -/
def kernelSignal (context : GuestCpuContext) (address : UInt64) : SignalDelivery where
  signal := .sigsys
  info := some
    { code := kLinuxSysSeccompSignalCode, callAddr := address, syscall := (kernelData context
      address).nr, arch := (kernelData context address).arch }
  hostContext := some (behindSyscall context)

variable {context : GuestCpuContext} {address : UInt64} {requestId : GuestRequestId}
  {workerId : GuestWorkerId} {threadId : GuestThreadId}

variable {auditArch : UInt32}

section

variable {rip : UInt64}
  (hranges : buildSeccompInstructionPointerRanges (buildExecutableRanges image) = .ok ranges)
  (hsyscall : GuestSyscallAt image bytes auditArch rip)

include hranges hsyscall

theorem lt_of_guestSyscall : rip.toNat + 2 < 2 ^ 64 := by
  have hone : (1 : UInt64).toNat = 1 := rfl
  have hnext := lt_of_code hranges hsyscall.first
  have hsecond := lt_of_code hranges hsyscall.second
  rw [UInt64.toNat_add, hone, Nat.mod_eq_of_lt hnext] at hsecond
  omega

/-- Where a kernel can take a syscall to be is at an address of code or right behind one. -/
theorem code_of_kernel (haddress : address = rip ∨ address = rip + 2) :
    exactExecutableContains image address = true ∨
      address ≠ 0 ∧ exactExecutableContains image (address - 1) = true := by
  have hrip := lt_of_guestSyscall hranges hsyscall
  rcases haddress with rfl | rfl
  · exact .inl hsyscall.first
  · have hone : (1 : UInt64).toNat = 1 := rfl
    have hbehind : (rip + 2).toNat = rip.toNat + 2 := by
      rw [UInt64.toNat_add]
      exact Nat.mod_eq_of_lt hrip
    have hbefore : rip + 2 - 1 = rip + 1 := by
      rw [← UInt64.toNat_inj, UInt64.toNat_sub_of_le _ _ (UInt64.le_iff_toNat_le.mpr (by omega)),
        hbehind, UInt64.toNat_add, hone, Nat.mod_eq_of_lt (by omega)]
      omega
    refine .inr ⟨fun hzero => ?_, by rw [hbefore]; exact hsyscall.second⟩
    rw [hzero, UInt64.toNat_zero] at hbehind
    omega

end

theorem guestSignalHandler_of_trapped (hbuilt : GatesBuilt registry reserved image gateRegion)
    (howned : ∃ range ∈ ranges, rangeContains range address = true) :
    guestSignalHandler (some (threadFrame image ranges gateRegion traps))
      (kernelSignal context address) =
      .seccompTrap
        ⟨captureGuestContext (behindSyscall context), address, (kernelData context address).nr,
          kAuditArchX8664⟩ := by
  refine (guestSignalHandler_claims hbuilt HandlerOutcome.noConfusion).mpr ?_
  have hinfo : (kernelSignal context address).seccompInfo? =
      some { code := kLinuxSysSeccompSignalCode, callAddr := address, syscall := (kernelData context
        address).nr, arch := kAuditArchX8664 } := rfl
  exact .syscall _ (behindSyscall context) hinfo rfl howned

theorem normalizeSeccompSyscallTrap_of_guestSyscall
    (hranges : buildSeccompInstructionPointerRanges (buildExecutableRanges image) = .ok ranges)
    (hsyscall : GuestSyscallAt image bytes kAuditArchX8664 context.rip)
    (haddress : address = context.rip ∨ address = context.rip + 2) :
    normalizeSeccompSyscallTrap image bytes
        ⟨captureGuestContext (behindSyscall context), address, (kernelData context address).nr,
          kAuditArchX8664⟩ =
      .ok (seccompTrap (captureGuestContext { context with
        rcx := context.rip + 2, r11 := context.rflags })) := by
  have hrip := lt_of_guestSyscall hranges hsyscall
  have hback : context.rip + 2 - 2 = context.rip := UInt64.add_sub_cancel _ _
  have hbehind : (context.rip + 2).toNat = context.rip.toNat + 2 := by
    rw [UInt64.toNat_add]
    exact Nat.mod_eq_of_lt hrip
  refine normalizeSeccompSyscallTrap_eq_ok.mpr ⟨?_, ?_, ?_, ?_⟩
  · rw [seccompTrap]
    simp only [captureGuestContext, behindSyscall, hback]
    rfl
  · have hle : 2 ≤ (context.rip + 2).toNat := by omega
    exact hle
  · have hsame : (captureGuestContext (behindSyscall context)).rip - 2 = context.rip := hback
    rw [hsame]
    exact hsyscall
  · have hsame : (captureGuestContext (behindSyscall context)).rip - 2 = context.rip := hback
    rw [hsame]
    exact haddress

theorem guestSignalHandler_of_registered (hbuilt : GatesBuilt registry reserved image gateRegion)
    (hcode : exactExecutableContains image context.rip = true) {site : RegisteredSyscallTrapSite}
    (hsite : site ∈ traps) (hat : site.guestRip = ⟨context.rip⟩) (info : Option SignalInfo) :
    guestSignalHandler (some (threadFrame image ranges gateRegion traps))
      ⟨.sigill, info, some context⟩ =
      .stopped ⟨registeredStop (captureGuestContext context) 0, {}⟩ := by
  refine (guestSignalHandler_claims hbuilt HandlerOutcome.noConfusion).mpr ?_
  refine .registered context rfl rfl (.inl hcode) (fun slot hgate => ?_) ⟨site, hsite, hat⟩
  exact Bool.false_ne_true ((not_code_of_gateAt hbuilt hgate).symm.trans hcode)

/-- **One syscall, on both ways.** Wherever the kernel takes a syscall of the guest to be, at its
address or behind it, the filter traps it, the handler claims the signal, its check passes, and the
request that is made is the one for the syscall in the registers. It is the same request where the
syscall is registered and the guest stops before it. -/
theorem guestSyscall_reaches_controller {kernel : SeccompKernel} {program : List SockFilter}
    (hbuilt : GatesBuilt registry reserved image gateRegion)
    (hranges : buildSeccompInstructionPointerRanges (buildExecutableRanges image) = .ok ranges)
    (hinstalled : installGuestExecutableSyscallFilter kernel ranges = .ok program)
    (hsyscall : GuestSyscallAt image bytes kAuditArchX8664 context.rip)
    (hrax : context.rax.toNat < 2 ^ 31)
    (haddress : address = context.rip ∨ address = context.rip + 2) (hrequest : requestId.value ≠ 0)
    (hworker : workerId.value ≠ 0) (hthread : threadId.value ≠ 0) :
    run (kernelData context address).word program 0 0 = some kSeccompRetTrap ∧
      (∃ raw trap, guestSignalHandler (some (threadFrame image ranges gateRegion []))
        (kernelSignal context address) = .seccompTrap raw ∧
      normalizeSeccompSyscallTrap image bytes raw = .ok trap ∧
      projectLinuxSeccompSyscallRequest trap requestId workerId threadId =
        .ok (syscallRequest context requestId workerId threadId)) ∧
      ∀ site ∈ traps, site.guestRip = ⟨context.rip⟩ → ∀ info, ∃ stop,
        guestSignalHandler (some (threadFrame image [] gateRegion traps))
          ⟨.sigill, info, some context⟩ = .stopped stop ∧
        projectRegisteredSyscallRequest stop.toBackendStop requestId workerId threadId =
          .ok (syscallRequest context requestId workerId threadId) := by
  have hrip := lt_of_guestSyscall hranges hsyscall
  have hcode := code_of_kernel hranges hsyscall haddress
  refine ⟨?_, ⟨_, _, ?_, normalizeSeccompSyscallTrap_of_guestSyscall hranges hsyscall haddress, ?_⟩,
    fun site hsite hat info =>
      ⟨_, guestSignalHandler_of_registered hbuilt hsyscall.first hsite hat info, ?_⟩⟩
  · have hverdict : SyscallPolicy image (kernelData context address) = kSeccompRetTrap :=
      if_pos hcode
    rw [run_installed hranges hinstalled, hverdict]
  · exact guestSignalHandler_of_trapped hbuilt ((exists_range_iff hranges address).mpr hcode)
  · exact projectLinuxSeccompSyscallRequest_seccompTrap hrip hrax hrequest hworker hthread
  · exact projectRegisteredSyscallRequest_registeredStop hrequest hworker hthread

/-- Registers at the entry of a page of code, with a number in `rax`. -/
def entryContext : GuestCpuContext := { rax := 1, rdi := 7, rip := 0x1000, rflags := 2 }

/-- The syscall at the entry, as it is registered. -/
def entrySite : RegisteredSyscallTrapSite := { guestRip := ⟨0x1000⟩, codeByteOffset := 0 }

/-- The image of a page of code. -/
def entryCode : GuestImage := bareImage codeAndStack.mappings codeAndStack.stackStorage

/-- Guest memory with a syscall at the entry. -/
def syscallBytes : ℕ → UInt8 := fun x => if x = 0x1000 then 0x0f else 0x05

/-- A syscall at the entry of a page of code, which the kernel takes to be right behind: it is
trapped and projected, and the stop before it, where it is registered, is projected to the same. -/
theorem guestSyscall_reaches_controller_example :
    ∃ program, installGuestExecutableSyscallFilter ⟨.ok (), fun _ => .ok ()⟩ [⟨0x1000, 0x801⟩] =
        .ok program ∧
      run (kernelData entryContext 0x1002).word program 0 0 = some kSeccompRetTrap ∧
      (∃ raw trap, guestSignalHandler (some (threadFrame entryCode [⟨0x1000, 0x801⟩] none []))
          (kernelSignal entryContext 0x1002) = .seccompTrap raw ∧
        normalizeSeccompSyscallTrap entryCode syscallBytes raw = .ok trap ∧
        projectLinuxSeccompSyscallRequest trap ⟨1⟩ ⟨2⟩ ⟨3⟩ =
          .ok (syscallRequest entryContext ⟨1⟩ ⟨2⟩ ⟨3⟩)) ∧
      ∃ stop, guestSignalHandler (some (threadFrame entryCode [] none [entrySite]))
          ⟨.sigill, none, some entryContext⟩ = .stopped stop ∧
        projectRegisteredSyscallRequest stop.toBackendStop ⟨1⟩ ⟨2⟩ ⟨3⟩ =
          .ok (syscallRequest entryContext ⟨1⟩ ⟨2⟩ ⟨3⟩) := by
  have hranges : buildSeccompInstructionPointerRanges (buildExecutableRanges entryCode) =
      .ok [⟨0x1000, 0x801⟩] := by rfl
  obtain ⟨program, hprogram⟩ : ∃ program, installGuestExecutableSyscallFilter
      ⟨.ok (), fun _ => .ok ()⟩ [⟨0x1000, 0x801⟩] = .ok program := ⟨_, rfl⟩
  have hbuilt : GatesBuilt ⟨[]⟩ [] entryCode none := fun region hregion => by cases hregion
  have hsyscall : GuestSyscallAt entryCode syscallBytes kAuditArchX8664 entryContext.rip :=
    ⟨by decide, by decide, by rfl⟩
  obtain ⟨htrapped, hprojected, hregistered⟩ := @guestSyscall_reaches_controller _ _ _ _ _
    [entrySite] _ entryContext 0x1002 ⟨1⟩ ⟨2⟩ ⟨3⟩ _ program hbuilt hranges hprogram hsyscall
    (by decide) (.inr rfl) (by decide) (by decide) (by decide)
  exact ⟨program, hprogram, htrapped, hprojected,
    hregistered entrySite (List.mem_singleton_self _) rfl none⟩

end Syscall

end Astraea.Execution
