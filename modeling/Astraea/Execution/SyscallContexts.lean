import Astraea.Execution.GuestWorkerWire
import Astraea.Execution.Hle
import Astraea.Execution.RegisteredSyscallTrap

/-!
# Two ways to intercept a syscall

A syscall of the guest is intercepted in one of two ways. Where the `SYSCALL` was replaced, the
guest stops before it, and the syscall is found in the registers of a stop. Where the kernel
traps it, the guest has passed it, and the kernel says which one it was. Either way a request is
made for the controller, and its result put back into the registers.

The two were written apart and check different things. `syscallPaths_agree` says that it makes no
difference to the guest which of them is taken.
-/

namespace Astraea.Execution

open Astraea.Base Astraea.Memory

/-! ### Results of requests -/

/-- `validate_guest_worker_syscall_result`. -/
def validateGuestWorkerSyscallResult (request : GuestWorkerSyscallRequest)
    (result : GuestWorkerSyscallResult) :
    Except GuestWorkerProtocolValidationError Bool := do
  refuseIf (request.requestId ≠ result.requestId) ⟨.syscallRequestIdMismatch⟩
  refuseIf (request.workerId ≠ result.workerId) ⟨.syscallWorkerIdMismatch⟩
  refuseIf (request.threadId ≠ result.threadId) ⟨.syscallThreadIdMismatch⟩
  return true

/-! ### Registered traps -/

/-- A stop of the native backend, with what it says about faults. -/
structure BackendStop extends ExecutionStop where
  hasFault : Bool
  deriving DecidableEq

/-- Why a stop or a result is refused. -/
inductive GuestWorkerSyscallContextErrorCode where
  | invalidStopReason
  | stopHasGate
  | stopHasFault
  | zeroRequestId
  | zeroWorkerId
  | zeroThreadId
  | requestRipMismatch
  | invalidRegisteredTrap
  | protocolValidationFailure
  | unsupportedGuestErrno
  | resumeRipOverflow
  deriving DecidableEq

/-- A stop that no request can be made of, or a result that cannot be applied. -/
structure GuestWorkerSyscallContextError where
  code : GuestWorkerSyscallContextErrorCode
  protocolError : Option GuestWorkerProtocolValidationError := none
  deriving DecidableEq

/-- `valid_registered_stop`. -/
def validRegisteredStop (stop : BackendStop) : Except GuestWorkerSyscallContextError Unit := do
  refuseIf (stop.reason ≠ .registeredSyscallTrap) { code := .invalidStopReason }
  refuseIf (stop.hasGateSlot = true) { code := .stopHasGate }
  refuseIf (stop.hasFault = true) { code := .stopHasFault }

/-- `project_registered_syscall_request`. -/
def projectRegisteredSyscallRequest (stop : BackendStop) (requestId : GuestRequestId)
    (workerId : GuestWorkerId) (threadId : GuestThreadId) :
    Except GuestWorkerSyscallContextError GuestWorkerSyscallRequest := do
  validRegisteredStop stop
  refuseIf (requestId.value = 0) { code := .zeroRequestId }
  refuseIf (workerId.value = 0) { code := .zeroWorkerId }
  refuseIf (threadId.value = 0) { code := .zeroThreadId }
  let context := stop.context
  return {
    requestId := requestId
    workerId := workerId
    threadId := threadId
    guestSyscallNumber := context.rax
    arguments := #v[context.rdi, context.rsi, context.rdx, context.r10, context.r8, context.r9]
    guestRip := ⟨context.rip⟩ }

/-- `apply_registered_syscall_result_to_context`. -/
def applyRegisteredSyscallResultToContext (stop : BackendStop)
    (trapSite : RegisteredSyscallTrapSite) (request : GuestWorkerSyscallRequest)
    (result : GuestWorkerSyscallResult) :
    Except GuestWorkerSyscallContextError GuestCpuContext := do
  validRegisteredStop stop
  refuseIf (request.guestRip.value ≠ stop.context.rip) { code := .requestRipMismatch }
  refuseIf (trapSite.originalBytes ≠ kX86SyscallBytes ∨ trapSite.trapBytes ≠ kX86Ud2Bytes ∨
    registeredSyscallTrapMatchesRip trapSite request.guestRip = false)
      { code := .invalidRegisteredTrap }
  let _validated ← (validateGuestWorkerSyscallResult request result).mapError fun e =>
    ({ code := .protocolValidationFailure, protocolError := some e } :
      GuestWorkerSyscallContextError)
  refuseIf (result.guestErrno ≠ 0) { code := .unsupportedGuestErrno }
  refuseIf (stop.context.rip > u64Max - 2) { code := .resumeRipOverflow }
  return { stop.context with rax := result.returnValue.toUInt64, rip := stop.context.rip + 2 }

/-! ### Traps of the kernel -/

/-- `AUDIT_ARCH_X86_64`. -/
def kLinuxAuditArchX8664 : UInt32 := 0xc000003e

/-- A syscall that the filter has trapped. -/
structure LinuxSeccompSyscallTrap where
  context : GuestCpuContext
  guestRip : GuestAddress
  syscallNumber : Int32
  auditArch : UInt32
  deriving DecidableEq

/-- Why a trap or a result is refused. -/
inductive LinuxSeccompSyscallContextErrorCode where
  | zeroRequestId
  | zeroWorkerId
  | zeroThreadId
  | unsupportedAuditArch
  | unsupportedSyscallNumber
  | callRipOverflow
  | postSyscallRipMismatch
  | requestRipMismatch
  | requestSyscallMismatch
  | requestArgumentMismatch
  | protocolValidationFailure
  | unsupportedGuestErrno
  deriving DecidableEq

/-- A trap that no request can be made of, or a result that cannot be applied. -/
structure LinuxSeccompSyscallContextError where
  code : LinuxSeccompSyscallContextErrorCode
  protocolError : Option GuestWorkerProtocolValidationError := none
  deriving DecidableEq

/-- `validate_x86_64_seccomp_trap`. -/
def validateX8664SeccompTrap (trap : LinuxSeccompSyscallTrap) :
    Except LinuxSeccompSyscallContextError Unit := do
  refuseIf (trap.auditArch ≠ kLinuxAuditArchX8664) { code := .unsupportedAuditArch }
  refuseIf (trap.syscallNumber < 0) { code := .unsupportedSyscallNumber }
  refuseIf (trap.guestRip.value > u64Max - 2) { code := .callRipOverflow }
  refuseIf (trap.context.rip ≠ trap.guestRip.value + 2) { code := .postSyscallRipMismatch }

/-- `project_arguments`. -/
def projectArguments (context : GuestCpuContext) : Vector UInt64 6 :=
  #v[context.rdi, context.rsi, context.rdx, context.r10, context.r8, context.r9]

/-- The number of the syscall, as the kernel gives it, among the words. -/
def LinuxSeccompSyscallTrap.number (trap : LinuxSeccompSyscallTrap) : UInt64 :=
  trap.syscallNumber.toUInt32.toUInt64

/-- `project_linux_seccomp_syscall_request`. -/
def projectLinuxSeccompSyscallRequest (trap : LinuxSeccompSyscallTrap) (requestId : GuestRequestId)
    (workerId : GuestWorkerId) (threadId : GuestThreadId) :
    Except LinuxSeccompSyscallContextError GuestWorkerSyscallRequest := do
  validateX8664SeccompTrap trap
  refuseIf (requestId.value = 0) { code := .zeroRequestId }
  refuseIf (workerId.value = 0) { code := .zeroWorkerId }
  refuseIf (threadId.value = 0) { code := .zeroThreadId }
  return {
    requestId := requestId
    workerId := workerId
    threadId := threadId
    guestSyscallNumber := trap.number
    arguments := projectArguments trap.context
    guestRip := trap.guestRip }

/-- `apply_linux_seccomp_syscall_result_to_context`. -/
def applyLinuxSeccompSyscallResultToContext (trap : LinuxSeccompSyscallTrap)
    (request : GuestWorkerSyscallRequest) (result : GuestWorkerSyscallResult) :
    Except LinuxSeccompSyscallContextError GuestCpuContext := do
  validateX8664SeccompTrap trap
  refuseIf (request.guestRip ≠ trap.guestRip) { code := .requestRipMismatch }
  refuseIf (request.guestSyscallNumber ≠ trap.number) { code := .requestSyscallMismatch }
  refuseIf (request.arguments ≠ projectArguments trap.context) { code := .requestArgumentMismatch }
  let _validated ← (validateGuestWorkerSyscallResult request result).mapError fun e =>
    ({ code := .protocolValidationFailure, protocolError := some e } :
      LinuxSeccompSyscallContextError)
  refuseIf (result.guestErrno ≠ 0) { code := .unsupportedGuestErrno }
  return { trap.context with rax := result.returnValue.toUInt64 }

/-! ### One syscall, intercepted either way -/

section Paths

variable {context : GuestCpuContext} {requestId : GuestRequestId} {workerId : GuestWorkerId}
  {threadId : GuestThreadId} {gateSlot : UInt32} {site : RegisteredSyscallTrapSite}
  {result : GuestWorkerSyscallResult}

/-- The stop in front of a `SYSCALL` that was replaced. -/
def registeredStop (context : GuestCpuContext) (gateSlot : UInt32) : BackendStop :=
  ⟨⟨.registeredSyscallTrap, context, false, gateSlot⟩, false⟩

/-- The trap behind the same `SYSCALL`, with the number in `rax`. -/
def seccompTrap (context : GuestCpuContext) : LinuxSeccompSyscallTrap where
  context := { context with rip := context.rip + 2 }
  guestRip := ⟨context.rip⟩
  syscallNumber := context.rax.toUInt32.toInt32
  auditArch := kLinuxAuditArchX8664

/-- The request for the syscall in the registers. -/
def syscallRequest (context : GuestCpuContext) (requestId : GuestRequestId)
    (workerId : GuestWorkerId) (threadId : GuestThreadId) : GuestWorkerSyscallRequest :=
  ⟨requestId, workerId, threadId, context.rax, projectArguments context, ⟨context.rip⟩⟩

/-- The registers behind a syscall with a result. -/
def resumedContext (context : GuestCpuContext) (result : GuestWorkerSyscallResult) :
    GuestCpuContext := { context with rax := result.returnValue.toUInt64, rip := context.rip + 2 }

/-- The result is for the request, and not an error of the guest. -/
def Answers (request : GuestWorkerSyscallRequest) (result : GuestWorkerSyscallResult) : Prop :=
  request.requestId = result.requestId ∧ request.workerId = result.workerId ∧
    request.threadId = result.threadId ∧
    result.guestErrno = 0

theorem validateGuestWorkerSyscallResult_eq_ok {request : GuestWorkerSyscallRequest}
    {valid : Bool} :
    validateGuestWorkerSyscallResult request result = .ok valid ↔
      (request.requestId = result.requestId ∧ request.workerId = result.workerId ∧
        request.threadId = result.threadId) ∧
        valid = true := by
  simp only [validateGuestWorkerSyscallResult, check_bind_eq_ok, refuseIf_eq_ok, not_not,
    pure_eq_ok, eq_comm (a := true), and_assoc]

theorem validRegisteredStop_registeredStop (context : GuestCpuContext) (gateSlot : UInt32) :
    validRegisteredStop (registeredStop context gateSlot) = .ok () := rfl

/-- Where the address behind the `SYSCALL` does not wrap, no check for that refuses. -/
theorem not_gt_of_rip (hrip : context.rip.toNat + 2 < 2 ^ 64) : ¬ context.rip > u64Max - 2 := by
  rw [gt_iff_lt, UInt64.lt_iff_toNat_lt]
  have hmax : (u64Max - 2).toNat = 2 ^ 64 - 3 := rfl
  omega

theorem not_neg_of_rax (hrax : context.rax.toNat < 2 ^ 31) :
    ¬ context.rax.toUInt32.toInt32 < 0 := by
  rw [Int32.lt_iff_toInt_lt]
  have hsmall : context.rax.toUInt32.toNat = context.rax.toNat := by
    rw [UInt64.toNat_toUInt32, Nat.mod_eq_of_lt (by omega)]
  have hint : context.rax.toUInt32.toInt32.toInt = context.rax.toNat := by
    rw [Int32.toInt, UInt32.toBitVec_toInt32, BitVec.toInt_eq_toNat_of_lt]
    · exact congrArg Nat.cast hsmall
    · have hbits : context.rax.toUInt32.toBitVec.toNat = context.rax.toNat := hsmall
      omega
  rw [hint, Int32.toInt_zero]
  omega

/-- A small number comes back from the kernel as it was. -/
theorem number_seccompTrap (hrax : context.rax.toNat < 2 ^ 31) :
    (seccompTrap context).number = context.rax := by
  rw [LinuxSeccompSyscallTrap.number, seccompTrap, UInt32.toUInt32_toInt32, ← UInt64.toNat_inj,
    UInt32.toNat_toUInt64, UInt64.toNat_toUInt32, Nat.mod_eq_of_lt (by omega)]

theorem validateX8664SeccompTrap_seccompTrap (hrip : context.rip.toNat + 2 < 2 ^ 64)
    (hrax : context.rax.toNat < 2 ^ 31) :
    validateX8664SeccompTrap (seccompTrap context) = .ok () := by
  simp only [validateX8664SeccompTrap, check_bind_eq_ok, refuseIf_eq_ok]
  exact ⟨not_not.mpr rfl, not_neg_of_rax hrax, not_gt_of_rip hrip, not_not.mpr rfl⟩

theorem projectRegisteredSyscallRequest_registeredStop (hrequest : requestId.value ≠ 0)
    (hworker : workerId.value ≠ 0) (hthread : threadId.value ≠ 0) :
    projectRegisteredSyscallRequest (registeredStop context gateSlot) requestId workerId threadId =
      .ok (syscallRequest context requestId workerId threadId) := by
  simp only [projectRegisteredSyscallRequest, check_bind_eq_ok, refuseIf_eq_ok, pure_eq_ok]
  exact ⟨rfl, hrequest, hworker, hthread, rfl⟩

theorem projectLinuxSeccompSyscallRequest_seccompTrap (hrip : context.rip.toNat + 2 < 2 ^ 64)
    (hrax : context.rax.toNat < 2 ^ 31) (hrequest : requestId.value ≠ 0)
    (hworker : workerId.value ≠ 0) (hthread : threadId.value ≠ 0) :
    projectLinuxSeccompSyscallRequest (seccompTrap context) requestId workerId threadId =
      .ok (syscallRequest context requestId workerId threadId) := by
  simp only [projectLinuxSeccompSyscallRequest, check_bind_eq_ok, refuseIf_eq_ok, pure_eq_ok,
    number_seccompTrap hrax]
  exact ⟨validateX8664SeccompTrap_seccompTrap hrip hrax, hrequest, hworker, hthread, rfl⟩

/-- The guest goes on from the stop behind the `SYSCALL`, with the result. -/
theorem applyRegisteredSyscallResultToContext_eq_ok (hrip : context.rip.toNat + 2 < 2 ^ 64)
    (horiginal : site.originalBytes = kX86SyscallBytes) (htrap : site.trapBytes = kX86Ud2Bytes)
    (hsite : site.guestRip = ⟨context.rip⟩) {resumed : GuestCpuContext} :
    applyRegisteredSyscallResultToContext (registeredStop context gateSlot) site
        (syscallRequest context requestId workerId threadId) result = .ok resumed ↔
      Answers (syscallRequest context requestId workerId threadId) result ∧
      resumed = resumedContext context result := by
  have hmatch : registeredSyscallTrapMatchesRip site ⟨context.rip⟩ = true := by
    rw [registeredSyscallTrapMatchesRip, hsite, beq_self_eq_true]
  rw [applyRegisteredSyscallResultToContext]
  simp only [↓check_bind_eq_ok, bind_eq_ok, refuseIf_eq_ok, mapError_eq_ok,
    validateGuestWorkerSyscallResult_eq_ok, not_not, pure_eq_ok]
  constructor
  · rintro ⟨-, -, -, -, ⟨⟨hrequest, hworker, hthread⟩, -⟩, herrno, -, rfl⟩
    exact ⟨⟨hrequest, hworker, hthread, herrno⟩, rfl⟩
  · rintro ⟨⟨hrequest, hworker, hthread, herrno⟩, rfl⟩
    refine ⟨validRegisteredStop_registeredStop context gateSlot, rfl, ?_, true,
      ⟨⟨hrequest, hworker, hthread⟩, rfl⟩, herrno, not_gt_of_rip hrip, rfl⟩
    rintro (hne | hne | hne)
    · exact hne horiginal
    · exact hne htrap
    · rw [syscallRequest, hmatch] at hne
      cases hne

theorem applyLinuxSeccompSyscallResultToContext_eq_ok (hrip : context.rip.toNat + 2 < 2 ^ 64)
    (hrax : context.rax.toNat < 2 ^ 31) {resumed : GuestCpuContext} :
    applyLinuxSeccompSyscallResultToContext (seccompTrap context)
      (syscallRequest context requestId workerId threadId) result =
        .ok resumed ↔
      Answers (syscallRequest context requestId workerId threadId) result ∧
      resumed = resumedContext context result := by
  rw [applyLinuxSeccompSyscallResultToContext]
  simp only [↓check_bind_eq_ok, bind_eq_ok, refuseIf_eq_ok, mapError_eq_ok,
    validateGuestWorkerSyscallResult_eq_ok, not_not, pure_eq_ok, number_seccompTrap hrax]
  constructor
  · rintro ⟨-, -, -, -, -, ⟨⟨hrequest, hworker, hthread⟩, -⟩, herrno, rfl⟩
    exact ⟨⟨hrequest, hworker, hthread, herrno⟩, rfl⟩
  · rintro ⟨⟨hrequest, hworker, hthread, herrno⟩, rfl⟩
    exact ⟨validateX8664SeccompTrap_seccompTrap hrip hrax, rfl, rfl, rfl, true,
      ⟨⟨hrequest, hworker, hthread⟩, rfl⟩, herrno, rfl⟩

/-- **Both ways to intercept a syscall do the same.** They make one request of it. A result that
does not answer the request is refused on both; with one that does, the guest goes on behind the
`SYSCALL` with the return value in `rax` and every other register as it was. -/
theorem syscallPaths_agree (hrip : context.rip.toNat + 2 < 2 ^ 64)
    (hrax : context.rax.toNat < 2 ^ 31) (hrequest : requestId.value ≠ 0)
    (hworker : workerId.value ≠ 0) (hthread : threadId.value ≠ 0) {codeBase : GuestAddress}
    {code : List UInt8} (hsite : planRegisteredSyscallTrap codeBase code ⟨context.rip⟩ = .ok site)
    (gateSlot : UInt32) :
    ∃ request, projectRegisteredSyscallRequest
      (registeredStop context gateSlot) requestId workerId threadId = .ok request ∧
      projectLinuxSeccompSyscallRequest (seccompTrap context) requestId workerId threadId =
        .ok request ∧
      ∀ result,
        ((∃ e, applyRegisteredSyscallResultToContext
          (registeredStop context gateSlot) site request result = .error e) ∧
        ∃ e, applyLinuxSeccompSyscallResultToContext (seccompTrap context) request result =
          .error e) ∨
        applyRegisteredSyscallResultToContext
          (registeredStop context gateSlot) site request result =
            .ok { context with rax := result.returnValue.toUInt64, rip := context.rip + 2 } ∧
          applyLinuxSeccompSyscallResultToContext (seccompTrap context) request result =
            .ok { context with rax := result.returnValue.toUInt64, rip := context.rip + 2 } := by
  obtain ⟨hplanned, hsiteRip⟩ := plannedSite_of_plan hsite
  have hprojected := @projectRegisteredSyscallRequest_registeredStop context requestId workerId
    threadId gateSlot hrequest hworker hthread
  have htrapped := projectLinuxSeccompSyscallRequest_seccompTrap hrip hrax hrequest hworker hthread
  refine ⟨_, hprojected, htrapped, fun result => ?_⟩
  have hregistered := fun resumed =>
    @applyRegisteredSyscallResultToContext_eq_ok context requestId workerId threadId gateSlot
    site result hrip hplanned.originalBytes hplanned.trapBytes hsiteRip resumed
  have hseccomp := fun resumed =>
    @applyLinuxSeccompSyscallResultToContext_eq_ok context requestId workerId threadId result
    hrip hrax resumed
  by_cases hanswers : Answers (syscallRequest context requestId workerId threadId) result
  · exact .inr ⟨(hregistered _).mpr ⟨hanswers, rfl⟩, (hseccomp _).mpr ⟨hanswers, rfl⟩⟩
  · refine .inl ⟨?_, ?_⟩
    · cases happly : applyRegisteredSyscallResultToContext (registeredStop context gateSlot) site
        (syscallRequest context requestId workerId threadId) result with
      | error e => exact ⟨e, rfl⟩
      | ok resumed => exact absurd ((hregistered resumed).mp happly).1 hanswers
    · cases happly : applyLinuxSeccompSyscallResultToContext (seccompTrap context)
        (syscallRequest context requestId workerId threadId) result with
      | error e => exact ⟨e, rfl⟩
      | ok resumed => exact absurd ((hseccomp resumed).mp happly).1 hanswers

end Paths

/-- Syscall 20 at `0x1000`: both ways resume at `0x1002` with the process identifier they are given,
and refuse the answer to another request. -/
theorem syscallPaths_agree_getpid :
    let context : GuestCpuContext := { rax := 20, rdi := 3, rip := 0x1000 }
    let site : RegisteredSyscallTrapSite := ⟨⟨0x1000⟩, 0, kX86SyscallBytes, kX86Ud2Bytes⟩
    ∃ request, projectRegisteredSyscallRequest (registeredStop context 0) ⟨1⟩ ⟨1⟩ ⟨1⟩ =
      .ok request ∧
      projectLinuxSeccompSyscallRequest (seccompTrap context) ⟨1⟩ ⟨1⟩ ⟨1⟩ = .ok request ∧
      applyRegisteredSyscallResultToContext (registeredStop context 0) site request
          ⟨⟨1⟩, ⟨1⟩, ⟨1⟩, 4242, 0⟩ = .ok { context with rax := 4242, rip := 0x1002 } ∧
      applyLinuxSeccompSyscallResultToContext (seccompTrap context) request
          ⟨⟨1⟩, ⟨1⟩, ⟨1⟩, 4242, 0⟩ = .ok { context with rax := 4242, rip := 0x1002 } ∧
      (∃ e, applyRegisteredSyscallResultToContext (registeredStop context 0) site request
          ⟨⟨2⟩, ⟨1⟩, ⟨1⟩, 4242, 0⟩ = .error e) ∧
      ∃ e, applyLinuxSeccompSyscallResultToContext (seccompTrap context) request
          ⟨⟨2⟩, ⟨1⟩, ⟨1⟩, 4242, 0⟩ = .error e := by
  intro context site
  have hsite : planRegisteredSyscallTrap ⟨0x1000⟩ [0x0f, 0x05] ⟨0x1000⟩ = .ok site := rfl
  obtain ⟨request, hregistered, hseccomp, hresults⟩ := @syscallPaths_agree context ⟨1⟩ ⟨1⟩ ⟨1⟩ site
    (by decide) (by decide) (by decide) (by decide) (by decide) _ _ hsite 0
  refine ⟨request, hregistered, hseccomp, ?_⟩
  have hrequest : request = syscallRequest context ⟨1⟩ ⟨1⟩ ⟨1⟩ := by
    rw [projectRegisteredSyscallRequest_registeredStop (by decide) (by decide) (by decide)]
      at hregistered
    exact (Except.ok.inj hregistered).symm
  subst hrequest
  obtain ⟨⟨e, he⟩, -⟩ | ⟨hanswer, hanswer'⟩ := hresults ⟨⟨1⟩, ⟨1⟩, ⟨1⟩, 4242, 0⟩
  · cases he
  obtain hrefused | ⟨hgranted, -⟩ := hresults ⟨⟨2⟩, ⟨1⟩, ⟨1⟩, 4242, 0⟩
  · exact ⟨hanswer, hanswer', hrefused⟩
  · cases hgranted

end Astraea.Execution
