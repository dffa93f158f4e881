import Astraea.Base.Check
import Astraea.Base.LittleEndian
import Astraea.Memory.GuestAddress
import Mathlib.Tactic.IntervalCases

/-!
# The wire format of the guest worker

The controller and the guest worker speak in typed messages. On the wire a message is
one frame: a header of twelve bytes (magic, version, kind, payload size) and a payload of
little-endian words whose layout the kind decides. `decode_guest_worker_wire_message` is
written apart from the encoder; `guestWorkerWire_roundTrip` says the two are inverse, so
that a message has one frame and a frame one message.

A peer reads a stream of frames by asking the header how long the frame is.
`receiveMessages` is that loop over the bytes of a stream, where running out of bytes is
the end of file; deadlines and failures of the operating system are outside the model, as
is host allocation.
-/

namespace Astraea.Execution

open Astraea.Base Astraea.Memory

/-- The identifier of a worker. -/
structure GuestWorkerId where
  value : UInt64
  deriving DecidableEq

/-- The identifier of a thread. -/
structure GuestThreadId where
  value : UInt64
  deriving DecidableEq

/-- The identifier of a request. -/
structure GuestRequestId where
  value : UInt64
  deriving DecidableEq

/-- What stopped the guest. The enumerations of the protocol can hold any 32-bit value; the
names are for some of them. -/
structure GuestWorkerFaultKind where
  raw : UInt32
  deriving DecidableEq

/-- Memory was accessed that may not be. -/
def GuestWorkerFaultKind.accessViolation : GuestWorkerFaultKind := ⟨0⟩

/-- An instruction could not be executed. -/
def GuestWorkerFaultKind.illegalInstruction : GuestWorkerFaultKind := ⟨1⟩

/-- A trap was hit that nobody has registered. -/
def GuestWorkerFaultKind.unregisteredTrapSite : GuestWorkerFaultKind := ⟨2⟩

/-- The protocol was broken. -/
def GuestWorkerFaultKind.protocolFailure : GuestWorkerFaultKind := ⟨3⟩

/-- `valid_fault_kind`. -/
def validFaultKind (kind : GuestWorkerFaultKind) : Bool :=
  [.accessViolation, .illegalInstruction, .unregisteredTrapSite, .protocolFailure].contains kind

/-- What kept the worker from running the guest. -/
structure GuestWorkerDiagnosticKind where
  raw : UInt32
  deriving DecidableEq

/-- The loader refuses the artifact. -/
def GuestWorkerDiagnosticKind.loaderRejected : GuestWorkerDiagnosticKind := ⟨1⟩

/-- The entry point cannot be executed. -/
def GuestWorkerDiagnosticKind.entryNotExecutable : GuestWorkerDiagnosticKind := ⟨2⟩

/-- The tags of the namespace are refused. -/
def GuestWorkerDiagnosticKind.sceDynamicMetadataRejected : GuestWorkerDiagnosticKind := ⟨3⟩

/-- The artifact needs other modules. -/
def GuestWorkerDiagnosticKind.unsupportedDynamicDependencies : GuestWorkerDiagnosticKind := ⟨4⟩

/-- The artifact has relocations. -/
def GuestWorkerDiagnosticKind.unsupportedRelocations : GuestWorkerDiagnosticKind := ⟨5⟩

/-- The artifact has a thread-local template. -/
def GuestWorkerDiagnosticKind.unsupportedTls : GuestWorkerDiagnosticKind := ⟨6⟩

/-- The backend failed. -/
def GuestWorkerDiagnosticKind.nativeBackendError : GuestWorkerDiagnosticKind := ⟨7⟩

/-- Nothing is known against the artifact, but it cannot be entered. -/
def GuestWorkerDiagnosticKind.unsupportedInitialProcessAbi : GuestWorkerDiagnosticKind := ⟨8⟩

/-- A syscall is not supported. -/
def GuestWorkerDiagnosticKind.unsupportedSyscall : GuestWorkerDiagnosticKind := ⟨9⟩

/-- `valid_diagnostic_kind`. -/
def validDiagnosticKind (kind : GuestWorkerDiagnosticKind) : Bool :=
  [.loaderRejected, .entryNotExecutable, .sceDynamicMetadataRejected,
    .unsupportedDynamicDependencies, .unsupportedRelocations, .unsupportedTls, .nativeBackendError,
    .unsupportedInitialProcessAbi, .unsupportedSyscall].contains kind

/-- Why the worker stopped. -/
structure GuestWorkerStopReason where
  raw : UInt32
  deriving DecidableEq

/-- The guest has returned. -/
def GuestWorkerStopReason.normalGuestReturn : GuestWorkerStopReason := ⟨0⟩

/-- A syscall was intercepted. -/
def GuestWorkerStopReason.interceptedSyscall : GuestWorkerStopReason := ⟨1⟩

/-- A syscall is not supported. -/
def GuestWorkerStopReason.unsupportedSyscall : GuestWorkerStopReason := ⟨2⟩

/-- The guest has faulted. -/
def GuestWorkerStopReason.guestFault : GuestWorkerStopReason := ⟨3⟩

/-- The budget is used up. -/
def GuestWorkerStopReason.executionBudgetExhausted : GuestWorkerStopReason := ⟨4⟩

/-- The controller has ended the run. -/
def GuestWorkerStopReason.controllerTermination : GuestWorkerStopReason := ⟨5⟩

/-- The protocol was broken. -/
def GuestWorkerStopReason.protocolFailure : GuestWorkerStopReason := ⟨6⟩

/-- A diagnostic was given. -/
def GuestWorkerStopReason.diagnosticBoundary : GuestWorkerStopReason := ⟨7⟩

/-- `valid_stop_reason`. -/
def validStopReason (reason : GuestWorkerStopReason) : Bool :=
  [.normalGuestReturn, .interceptedSyscall, .unsupportedSyscall, .guestFault,
    .executionBudgetExhausted, .controllerTermination, .protocolFailure,
    .diagnosticBoundary].contains reason

/-- Why the controller ends the worker. -/
structure GuestWorkerTerminationReason where
  raw : UInt32
  deriving DecidableEq

/-- The user has asked for it. -/
def GuestWorkerTerminationReason.userRequest : GuestWorkerTerminationReason := ⟨0⟩

/-- The budget is used up. -/
def GuestWorkerTerminationReason.executionBudget : GuestWorkerTerminationReason := ⟨1⟩

/-- The guest has faulted. -/
def GuestWorkerTerminationReason.fatalGuestFault : GuestWorkerTerminationReason := ⟨2⟩

/-- The guest does what is not supported. -/
def GuestWorkerTerminationReason.unsupportedGuestBehavior : GuestWorkerTerminationReason := ⟨3⟩

/-- The protocol was broken. -/
def GuestWorkerTerminationReason.protocolFailure : GuestWorkerTerminationReason := ⟨4⟩

/-- `valid_termination_reason`. -/
def validTerminationReason (reason : GuestWorkerTerminationReason) : Bool :=
  [.userRequest, .executionBudget, .fatalGuestFault, .unsupportedGuestBehavior,
    .protocolFailure].contains reason

/-- A syscall that the worker hands to its controller. -/
structure GuestWorkerSyscallRequest where
  requestId : GuestRequestId
  workerId : GuestWorkerId
  threadId : GuestThreadId
  guestSyscallNumber : UInt64
  arguments : Vector UInt64 6
  guestRip : GuestAddress
  deriving DecidableEq

/-- The answer to a syscall. -/
structure GuestWorkerSyscallResult where
  requestId : GuestRequestId
  workerId : GuestWorkerId
  threadId : GuestThreadId
  returnValue : Int64
  guestErrno : Int32
  deriving DecidableEq

/-- The worker has stopped the guest. -/
structure GuestWorkerStop where
  workerId : GuestWorkerId
  threadId : GuestThreadId
  reason : GuestWorkerStopReason
  guestRip : GuestAddress
  deriving DecidableEq

/-- The guest has faulted. -/
structure GuestWorkerFault where
  workerId : GuestWorkerId
  threadId : GuestThreadId
  kind : GuestWorkerFaultKind
  guestRip : GuestAddress
  faultAddress : GuestAddress
  deriving DecidableEq

/-- The boundary that the worker has found. -/
structure GuestWorkerDiagnostic where
  workerId : GuestWorkerId
  threadId : GuestThreadId
  kind : GuestWorkerDiagnosticKind
  guestRip : GuestAddress
  detail0 : UInt64
  detail1 : UInt64
  deriving DecidableEq

/-- What is sent between the controller and its worker. -/
inductive GuestWorkerWireMessage where
  | hello (protocolVersion : UInt32)
  | ready (protocolVersion : UInt32) (workerId : GuestWorkerId)
  | runRequest (budgetMicroseconds : UInt64)
  | syscallRequest (request : GuestWorkerSyscallRequest)
  | syscallResult (result : GuestWorkerSyscallResult)
  | stop (stop : GuestWorkerStop)
  | fault (fault : GuestWorkerFault)
  | terminate (reason : GuestWorkerTerminationReason)
  | diagnostic (diagnostic : GuestWorkerDiagnostic)
  deriving DecidableEq

/-- The kinds of messages. -/
inductive GuestWorkerWireMessageKind where
  | hello
  | ready
  | runRequest
  | syscallRequest
  | syscallResult
  | stop
  | fault
  | terminate
  | diagnostic
  deriving DecidableEq

/-- Why a frame is refused, or a message not encoded. -/
inductive GuestWorkerWireErrorCode where
  | frameTooShort
  | invalidMagic
  | unsupportedWireVersion
  | unknownMessageKind
  | payloadTooLarge
  | payloadSizeMismatch
  | invalidMessageValue
  | hostAllocationFailure
  deriving DecidableEq

/-- A refused frame: the code, the byte it is about, and the value there. -/
structure GuestWorkerWireError where
  code : GuestWorkerWireErrorCode
  byteOffset : ℕ := 0
  actualValue : ℕ := 0
  deriving DecidableEq

/-- What the header of a frame says. -/
structure GuestWorkerWireHeader where
  kind : GuestWorkerWireMessageKind
  payloadSize : ℕ
  frameSize : ℕ
  deriving DecidableEq

/-- The first word of a frame: `ASTR`. -/
def kGuestWorkerWireMagic : UInt32 := 0x52545341

/-- The version of the frames. -/
def kGuestWorkerWireVersion : UInt16 := 1

/-- The bytes of a header. -/
def kGuestWorkerWireHeaderSize : ℕ := 12

/-- The most bytes a payload may have. -/
def kGuestWorkerWireMaxPayloadSize : ℕ := 128

/-- The value of the enumerator. -/
def GuestWorkerWireMessageKind.code : GuestWorkerWireMessageKind → UInt16
  | .hello => 1
  | .ready => 2
  | .runRequest => 3
  | .syscallRequest => 4
  | .syscallResult => 5
  | .stop => 6
  | .fault => 7
  | .terminate => 8
  | .diagnostic => 9

/-- `decode_kind`. -/
def decodeKind (raw : UInt16) : Option GuestWorkerWireMessageKind :=
  match raw with
  | 1 => some .hello
  | 2 => some .ready
  | 3 => some .runRequest
  | 4 => some .syscallRequest
  | 5 => some .syscallResult
  | 6 => some .stop
  | 7 => some .fault
  | 8 => some .terminate
  | 9 => some .diagnostic
  | _ => none

/-- `payload_size`. -/
def payloadSize : GuestWorkerWireMessageKind → ℕ
  | .hello => 4
  | .ready => 12
  | .runRequest => 8
  | .syscallRequest => 88
  | .syscallResult => 36
  | .stop => 28
  | .fault => 36
  | .terminate => 4
  | .diagnostic => 44

/-- `kind_of`. -/
def kindOf : GuestWorkerWireMessage → GuestWorkerWireMessageKind
  | .hello _ => .hello
  | .ready _ _ => .ready
  | .runRequest _ => .runRequest
  | .syscallRequest _ => .syscallRequest
  | .syscallResult _ => .syscallResult
  | .stop _ => .stop
  | .fault _ => .fault
  | .terminate _ => .terminate
  | .diagnostic _ => .diagnostic

/-- `valid_message`. -/
def validMessage : GuestWorkerWireMessage → Bool
  | .runRequest budgetMicroseconds => budgetMicroseconds != 0
  | .fault fault => validFaultKind fault.kind
  | .diagnostic diagnostic => validDiagnosticKind diagnostic.kind
  | .stop stop => validStopReason stop.reason
  | .terminate reason => validTerminationReason reason
  | .hello _ | .ready _ _ | .syscallRequest _ | .syscallResult _ => true

/-! ### Encoding -/

/-- A word of two bytes, as `append_u16` appends it. -/
def word16 (value : UInt16) : ℕ × ℕ := (2, value.toNat)

/-- A word of four bytes, as `append_u32` appends it. -/
def word32 (value : UInt32) : ℕ × ℕ := (4, value.toNat)

/-- A word of eight bytes, as `append_u64` appends it. -/
def word64 (value : UInt64) : ℕ × ℕ := (8, value.toNat)

/-- The words `append_payload` appends. -/
def payloadWords : GuestWorkerWireMessage → List (ℕ × ℕ)
  | .hello protocolVersion => [word32 protocolVersion]
  | .ready protocolVersion workerId => [word32 protocolVersion, word64 workerId.value]
  | .runRequest budgetMicroseconds => [word64 budgetMicroseconds]
  | .syscallRequest request =>
    [word64 request.requestId.value, word64 request.workerId.value, word64 request.threadId.value,
      word64 request.guestSyscallNumber] ++ request.arguments.toList.map word64 ++
        [word64 request.guestRip.value]
  | .syscallResult result =>
    [word64 result.requestId.value, word64 result.workerId.value, word64 result.threadId.value,
      word64 result.returnValue.toUInt64, word32 result.guestErrno.toUInt32]
  | .stop stop =>
    [word64 stop.workerId.value, word64 stop.threadId.value, word32 stop.reason.raw,
      word64 stop.guestRip.value]
  | .fault fault =>
    [word64 fault.workerId.value, word64 fault.threadId.value, word32 fault.kind.raw,
      word64 fault.guestRip.value, word64 fault.faultAddress.value]
  | .diagnostic diagnostic =>
    [word64 diagnostic.workerId.value, word64 diagnostic.threadId.value, word32 diagnostic.kind.raw,
      word64 diagnostic.guestRip.value, word64 diagnostic.detail0, word64 diagnostic.detail1]
  | .terminate reason => [word32 reason.raw]

/-- The words of a header. -/
def headerWords (kind : GuestWorkerWireMessageKind) : List (ℕ × ℕ) :=
  [word32 kGuestWorkerWireMagic, word16 kGuestWorkerWireVersion, word16 kind.code,
    word32 (UInt32.ofNat (payloadSize kind))]

/-- `encode_guest_worker_wire_message`. -/
def encodeGuestWorkerWireMessage (message : GuestWorkerWireMessage) :
    Except GuestWorkerWireError (List UInt8) := do
  refuseIf (validMessage message = false) { code := .invalidMessageValue }
  let kind := kindOf message
  let size := payloadSize kind
  refuseIf (size > kGuestWorkerWireMaxPayloadSize) ⟨.payloadTooLarge, 8, size⟩
  return wordsBytes (headerWords kind) ++ wordsBytes (payloadWords message)

/-! ### Decoding -/

/-- `decode_guest_worker_wire_header`. -/
def decodeGuestWorkerWireHeader (header : List UInt8) :
    Except GuestWorkerWireError GuestWorkerWireHeader := do
  refuseIf (header.length ≠ kGuestWorkerWireHeaderSize) ⟨.frameTooShort, header.length, 0⟩
  let magic := u32At header 0
  refuseIf (magic ≠ kGuestWorkerWireMagic) ⟨.invalidMagic, 0, magic.toNat⟩
  let version := u16At header 4
  refuseIf (version ≠ kGuestWorkerWireVersion) ⟨.unsupportedWireVersion, 4, version.toNat⟩
  let rawKind := u16At header 6
  let kind ← orRefuse (decodeKind rawKind) ⟨.unknownMessageKind, 6, rawKind.toNat⟩
  let declaredSize := (u32At header 8).toNat
  refuseIf (declaredSize > kGuestWorkerWireMaxPayloadSize) ⟨.payloadTooLarge, 8, declaredSize⟩
  refuseIf (declaredSize ≠ payloadSize kind) ⟨.payloadSizeMismatch, 8, declaredSize⟩
  return ⟨kind, declaredSize, kGuestWorkerWireHeaderSize + declaredSize⟩

/-- An enumerator read from the wire, refused with its offset and value when it is not one. -/
def checkEnumerator (valid : Bool) (offset : ℕ) (raw : UInt32) : Except GuestWorkerWireError Unit :=
  refuseIf (valid = false) ⟨.invalidMessageValue, offset, raw.toNat⟩

/-- The switch of `decode_guest_worker_wire_message` over the kind. -/
def decodePayload (kind : GuestWorkerWireMessageKind) (frame : List UInt8) :
    Except GuestWorkerWireError GuestWorkerWireMessage :=
  let p := kGuestWorkerWireHeaderSize
  match kind with
  | .hello => .ok (.hello (u32At frame p))
  | .ready => .ok (.ready (u32At frame p) ⟨u64At frame (p + 4)⟩)
  | .runRequest => .ok (.runRequest (u64At frame p))
  | .syscallRequest =>
    .ok (.syscallRequest
      { requestId := ⟨u64At frame p⟩
        workerId := ⟨u64At frame (p + 8)⟩
        threadId := ⟨u64At frame (p + 16)⟩
        guestSyscallNumber := u64At frame (p + 24)
        arguments := Vector.ofFn fun index => u64At frame (p + 32 + index * 8)
        guestRip := ⟨u64At frame (p + 80)⟩ })
  | .syscallResult =>
    .ok (.syscallResult
      { requestId := ⟨u64At frame p⟩
        workerId := ⟨u64At frame (p + 8)⟩
        threadId := ⟨u64At frame (p + 16)⟩
        returnValue := (u64At frame (p + 24)).toInt64
        guestErrno := (u32At frame (p + 32)).toInt32 })
  | .stop => do
    let reason : GuestWorkerStopReason := ⟨u32At frame (p + 16)⟩
    checkEnumerator (validStopReason reason) (p + 16) reason.raw
    return .stop ⟨⟨u64At frame p⟩, ⟨u64At frame (p + 8)⟩, reason, ⟨u64At frame (p + 20)⟩⟩
  | .fault => do
    let faultKind : GuestWorkerFaultKind := ⟨u32At frame (p + 16)⟩
    checkEnumerator (validFaultKind faultKind) (p + 16) faultKind.raw
    return .fault ⟨⟨u64At frame p⟩, ⟨u64At frame (p + 8)⟩, faultKind, ⟨u64At frame (p + 20)⟩,
      ⟨u64At frame (p + 28)⟩⟩
  | .terminate => do
    let reason : GuestWorkerTerminationReason := ⟨u32At frame p⟩
    checkEnumerator (validTerminationReason reason) p reason.raw
    return .terminate reason
  | .diagnostic => do
    let diagnosticKind : GuestWorkerDiagnosticKind := ⟨u32At frame (p + 16)⟩
    checkEnumerator (validDiagnosticKind diagnosticKind) (p + 16) diagnosticKind.raw
    return .diagnostic ⟨⟨u64At frame p⟩, ⟨u64At frame (p + 8)⟩, diagnosticKind,
      ⟨u64At frame (p + 20)⟩, u64At frame (p + 28), u64At frame (p + 36)⟩

/-- `decode_guest_worker_wire_message`. -/
def decodeGuestWorkerWireMessage (frame : List UInt8) :
    Except GuestWorkerWireError GuestWorkerWireMessage := do
  refuseIf (frame.length < kGuestWorkerWireHeaderSize) ⟨.frameTooShort, frame.length, 0⟩
  let header ← decodeGuestWorkerWireHeader (frame.take kGuestWorkerWireHeaderSize)
  refuseIf (frame.length ≠ header.frameSize) ⟨.payloadSizeMismatch, frame.length, frame.length⟩
  let message ← decodePayload header.kind frame
  refuseIf (validMessage message = false) ⟨.invalidMessageValue, kGuestWorkerWireHeaderSize, 0⟩
  return message
/-! ### One frame for a message, one message for a frame -/

theorem word16_fits (value : UInt16) : (word16 value).2 < 256 ^ (word16 value).1 := value.toNat_lt

theorem word32_fits (value : UInt32) : (word32 value).2 < 256 ^ (word32 value).1 := value.toNat_lt

theorem word64_fits (value : UInt64) : (word64 value).2 < 256 ^ (word64 value).1 := value.toNat_lt

theorem wordsFit_headerWords (kind : GuestWorkerWireMessageKind) : WordsFit (headerWords kind) := by
  simp [WordsFit, headerWords, word16_fits, word32_fits]

theorem wordsFit_payloadWords (message : GuestWorkerWireMessage) :
    WordsFit (payloadWords message) := by
  cases message <;> simp [WordsFit, payloadWords, word32_fits, word64_fits, or_imp, forall_and]

theorem sum_payloadWords (message : GuestWorkerWireMessage) :
    ((payloadWords message).map Prod.fst).sum = payloadSize (kindOf message) := by
  cases message <;> simp [payloadWords, payloadSize, kindOf, word32, word64, Function.comp_def]

theorem decodeKind_code (kind : GuestWorkerWireMessageKind) : decodeKind kind.code = some kind := by
  cases kind <;> rfl

theorem decodeKind_eq_some {raw : UInt16} {kind : GuestWorkerWireMessageKind}
    (h : decodeKind raw = some kind) :
    raw = kind.code := by
  unfold decodeKind at h
  split at h <;> cases h <;> rfl

theorem payloadSize_le (kind : GuestWorkerWireMessageKind) :
    payloadSize kind ≤ kGuestWorkerWireMaxPayloadSize := by
  cases kind <;> decide

theorem length_headerBytes (kind : GuestWorkerWireMessageKind) :
    (wordsBytes (headerWords kind)).length = kGuestWorkerWireHeaderSize := by
  rw [length_wordsBytes]
  rfl

/-- What the header of a kind decodes to. -/
def headerOf (kind : GuestWorkerWireMessageKind) : GuestWorkerWireHeader :=
  ⟨kind, payloadSize kind, kGuestWorkerWireHeaderSize + payloadSize kind⟩

/-- A header is accepted exactly when it is the header of some kind. -/
theorem decodeGuestWorkerWireHeader_eq_ok {bytes : List UInt8} {header : GuestWorkerWireHeader} :
    decodeGuestWorkerWireHeader bytes = .ok header ↔
      ∃ kind, bytes = wordsBytes (headerWords kind) ∧ headerOf kind = header := by
  have hread : ∀ kind, bytes.length = kGuestWorkerWireHeaderSize →
      (bytes = wordsBytes (headerWords kind) ↔ u32At bytes 0 = kGuestWorkerWireMagic ∧
      u16At bytes 4 = kGuestWorkerWireVersion ∧ u16At bytes 6 = kind.code ∧
      (u32At bytes 8).toNat = payloadSize kind) := by
    intro kind hlen
    have hsize : (UInt32.ofNat (payloadSize kind)).toNat = payloadSize kind := by cases kind <;> rfl
    have hiff : bytes.drop 0 = wordsBytes (headerWords kind) ↔ _ :=
      drop_eq_wordsBytes_iff (wordsFit_headerWords kind) (hlen.trans rfl)
    rw [List.drop_zero] at hiff
    rw [hiff, u32At_eq_iff, u16At_eq_iff, u16At_eq_iff, toNat_u32At, ← hsize]
    simp [headerWords, wordsAt, word16, word32]
  simp only [decodeGuestWorkerWireHeader, bind_eq_ok, refuseIf_eq_ok, orRefuse_eq_ok, pure_eq_ok,
    not_not]
  constructor
  · rintro ⟨-, hlen, -, hmagic, -, hversion, kind, hkind, -, -, -, hsize, rfl⟩
    refine ⟨kind, (hread kind hlen).mpr ⟨hmagic, hversion, decodeKind_eq_some hkind, hsize⟩, ?_⟩
    rw [hsize, headerOf]
  · rintro ⟨kind, hbytes, rfl⟩
    have hlen : bytes.length = kGuestWorkerWireHeaderSize := by rw [hbytes, length_headerBytes]
    obtain ⟨hmagic, hversion, hkind, hsize⟩ := (hread kind hlen).mp hbytes
    refine ⟨(), hlen, (), hmagic, (), hversion, kind, ?_, (), ?_, (), hsize, ?_⟩
    · rw [hkind, decodeKind_code]
    · rw [hsize]
      exact not_lt.mpr (payloadSize_le _)
    · rw [hsize, headerOf]

variable {frame : List UInt8} {message : GuestWorkerWireMessage}

/-- What a payload reads as has the words of the payload. -/
theorem wordsAt_of_decodePayload {kind : GuestWorkerWireMessageKind}
    (h : decodePayload kind frame = .ok message) :
    kindOf message = kind ∧
      wordsAt frame ((payloadWords message).map Prod.fst) kGuestWorkerWireHeaderSize =
        (payloadWords message).map Prod.snd := by
  cases kind <;>
    simp only [decodePayload, checkEnumerator, bind_eq_ok, refuseIf_eq_ok, pure_eq_ok,
      Except.ok.injEq] at h
  case hello | ready | runRequest | syscallResult =>
    subst h
    simp [kindOf, payloadWords, wordsAt, word32, word64, toNat_u32At, toNat_u64At,
      kGuestWorkerWireHeaderSize]
  case syscallRequest =>
    subst h
    simp [kindOf, payloadWords, wordsAt, word64, toNat_u64At, kGuestWorkerWireHeaderSize,
      Vector.toList_ofFn, List.ofFn_succ]
  case stop | fault | terminate | diagnostic =>
    obtain ⟨-, -, rfl⟩ := h
    simp [kindOf, payloadWords, wordsAt, word32, word64, toNat_u32At, toNat_u64At,
      kGuestWorkerWireHeaderSize]

theorem exists_eq_vector_six (arguments : Vector UInt64 6) :
    ∃ a0 a1 a2 a3 a4 a5, arguments = #v[a0, a1, a2, a3, a4, a5] := by
  refine ⟨arguments[0], arguments[1], arguments[2], arguments[3], arguments[4], arguments[5], ?_⟩
  apply Vector.ext
  intro i hi
  interval_cases i <;> rfl

/-- A payload with the words of a valid message reads as that message. -/
theorem decodePayload_of_wordsAt (hvalid : validMessage message = true)
    (h : wordsAt frame ((payloadWords message).map Prod.fst) kGuestWorkerWireHeaderSize =
      (payloadWords message).map Prod.snd) :
    decodePayload (kindOf message) frame = .ok message := by
  cases message with
  | hello protocolVersion =>
    simp [decodePayload, kindOf, payloadWords, wordsAt, word32, ← u32At_eq_iff] at h ⊢
    exact h
  | ready protocolVersion workerId =>
    obtain ⟨workerId⟩ := workerId
    simp [decodePayload, kindOf, payloadWords, wordsAt, word32, word64, ← u32At_eq_iff,
      ← u64At_eq_iff] at h ⊢
    exact h
  | runRequest budgetMicroseconds =>
    simp [decodePayload, kindOf, payloadWords, wordsAt, word64, ← u64At_eq_iff] at h ⊢
    exact h
  | syscallRequest request =>
    obtain ⟨⟨requestId⟩, ⟨workerId⟩, ⟨threadId⟩, number, arguments, ⟨guestRip⟩⟩ := request
    obtain ⟨a0, a1, a2, a3, a4, a5, rfl⟩ := exists_eq_vector_six arguments
    simp [payloadWords, wordsAt, word64, kGuestWorkerWireHeaderSize, ← u64At_eq_iff] at h
    have hargs : (Vector.ofFn fun index : Fin 6 => u64At frame (12 + 32 + index * 8)) =
        #v[a0, a1, a2, a3, a4, a5] := by
      apply Vector.ext
      intro i hi
      interval_cases i <;> simp [h]
    simp [decodePayload, kindOf, kGuestWorkerWireHeaderSize, hargs, h]
  | syscallResult result =>
    obtain ⟨⟨requestId⟩, ⟨workerId⟩, ⟨threadId⟩, returnValue, guestErrno⟩ := result
    simp [payloadWords, wordsAt, word32, word64, kGuestWorkerWireHeaderSize, ← u32At_eq_iff,
      ← u64At_eq_iff] at h
    simp [decodePayload, kindOf, kGuestWorkerWireHeaderSize, h]
  | stop stop =>
    obtain ⟨⟨workerId⟩, ⟨threadId⟩, ⟨reason⟩, ⟨guestRip⟩⟩ := stop
    simp [payloadWords, wordsAt, word32, word64, kGuestWorkerWireHeaderSize, ← u32At_eq_iff,
      ← u64At_eq_iff] at h
    simp only [decodePayload, checkEnumerator, kindOf, kGuestWorkerWireHeaderSize, bind_eq_ok,
      pure_eq_ok]
    exact ⟨(), by simpa [validMessage, h] using hvalid, by simp [h]⟩
  | fault fault =>
    obtain ⟨⟨workerId⟩, ⟨threadId⟩, ⟨kind⟩, ⟨guestRip⟩, ⟨faultAddress⟩⟩ := fault
    simp [payloadWords, wordsAt, word32, word64, kGuestWorkerWireHeaderSize, ← u32At_eq_iff,
      ← u64At_eq_iff] at h
    simp only [decodePayload, checkEnumerator, kindOf, kGuestWorkerWireHeaderSize, bind_eq_ok,
      pure_eq_ok]
    exact ⟨(), by simpa [validMessage, h] using hvalid, by simp [h]⟩
  | terminate reason =>
    obtain ⟨reason⟩ := reason
    simp [payloadWords, wordsAt, word32, kGuestWorkerWireHeaderSize, ← u32At_eq_iff] at h
    simp only [decodePayload, checkEnumerator, kindOf, kGuestWorkerWireHeaderSize, bind_eq_ok,
      pure_eq_ok]
    exact ⟨(), by simpa [validMessage, h] using hvalid, by simp [h]⟩
  | diagnostic diagnostic =>
    obtain ⟨⟨workerId⟩, ⟨threadId⟩, ⟨kind⟩, ⟨guestRip⟩, detail0, detail1⟩ := diagnostic
    simp [payloadWords, wordsAt, word32, word64, kGuestWorkerWireHeaderSize, ← u32At_eq_iff,
      ← u64At_eq_iff] at h
    simp only [decodePayload, checkEnumerator, kindOf, kGuestWorkerWireHeaderSize, bind_eq_ok,
      pure_eq_ok]
    exact ⟨(), by simpa [validMessage, h] using hvalid, by simp [h]⟩

/-- The frame of a message: its header and its payload. -/
def frameOf (message : GuestWorkerWireMessage) : List UInt8 :=
  wordsBytes (headerWords (kindOf message)) ++ wordsBytes (payloadWords message)

theorem length_frameOf (message : GuestWorkerWireMessage) :
    (frameOf message).length = kGuestWorkerWireHeaderSize + payloadSize (kindOf message) := by
  rw [frameOf, List.length_append, length_headerBytes, length_wordsBytes, sum_payloadWords]

theorem encodeGuestWorkerWireMessage_eq_ok :
    encodeGuestWorkerWireMessage message = .ok frame ↔ validMessage message = true ∧
    frameOf message = frame := by
  simp only [encodeGuestWorkerWireMessage, bind_eq_ok, refuseIf_eq_ok, pure_eq_ok,
    Bool.not_eq_false, frameOf]
  constructor
  · rintro ⟨-, hvalid, -, -, hframe⟩
    exact ⟨hvalid, hframe⟩
  · rintro ⟨hvalid, hframe⟩
    exact ⟨(), hvalid, (), not_lt.mpr (payloadSize_le _), hframe⟩

/-- What is decoded is what was encoded: decoding reads back exactly the frames of valid messages.
-/
theorem decodeGuestWorkerWireMessage_eq_ok :
    decodeGuestWorkerWireMessage frame = .ok message ↔ validMessage message = true ∧
    frameOf message = frame := by
  simp only [decodeGuestWorkerWireMessage, bind_eq_ok, refuseIf_eq_ok, pure_eq_ok,
    Bool.not_eq_false, not_not]
  constructor
  · rintro ⟨-, -, header, hheader, -, hlen, decoded, hdecoded, -, hvalid, rfl⟩
    obtain ⟨kind, hbytes, rfl⟩ := decodeGuestWorkerWireHeader_eq_ok.mp hheader
    obtain ⟨hkind, hwords⟩ := wordsAt_of_decodePayload hdecoded
    have hsize : frame.length = kGuestWorkerWireHeaderSize +
        ((payloadWords decoded).map Prod.fst).sum := by
      rw [sum_payloadWords, hkind, hlen, headerOf]
    rw [← drop_eq_wordsBytes_iff (wordsFit_payloadWords decoded) hsize] at hwords
    refine ⟨hvalid, ?_⟩
    rw [frameOf, hkind, headerOf, ← hbytes, ← hwords, List.take_append_drop]
  · rintro ⟨hvalid, rfl⟩
    have hlen := length_frameOf message
    have htake : (frameOf message).take kGuestWorkerWireHeaderSize =
        wordsBytes (headerWords (kindOf message)) :=
      List.take_left' (length_headerBytes _)
    have hdrop : (frameOf message).drop kGuestWorkerWireHeaderSize =
        wordsBytes (payloadWords message) :=
      List.drop_left' (length_headerBytes _)
    rw [drop_eq_wordsBytes_iff (wordsFit_payloadWords message) (by rw [sum_payloadWords, hlen])]
      at hdrop
    have hheader := decodeGuestWorkerWireHeader_eq_ok.mpr ⟨kindOf message, htake, rfl⟩
    exact ⟨(), by omega, _, hheader, (), hlen, message, decodePayload_of_wordsAt hvalid hdrop, (),
      hvalid, rfl⟩

/-! ### Streams of frames -/

/-- Why the protocol does not allow a message. -/
inductive GuestWorkerProtocolValidationErrorCode where
  | unsupportedProtocolVersion
  | zeroRunBudget
  | syscallRequestIdMismatch
  | syscallWorkerIdMismatch
  | syscallThreadIdMismatch
  deriving DecidableEq

/-- A message that the protocol does not allow. -/
structure GuestWorkerProtocolValidationError where
  code : GuestWorkerProtocolValidationErrorCode
  deriving DecidableEq

/-- Why a session failed. -/
inductive GuestWorkerProcessSessionErrorCode where
  | unsupportedPlatform
  | invalidConfig
  | channelCreationFailed
  | spawnFailed
  | ioFailure
  | timeout
  | unexpectedEof
  | wireFailure
  | unexpectedMessage
  | protocolFailure
  | workerIdentityMismatch
  | syscallServiceUnavailable
  | syscallServiceRejected
  | syscallRequestLimitExceeded
  | resourcePolicyFailure
  | artifactPreparationFailure
  | processIdentityFailure
  | childExitFailure
  | hostAllocationFailure
  deriving DecidableEq

/-- A session that failed, with the error of the system or of the wire. -/
structure GuestWorkerProcessSessionError where
  code : GuestWorkerProcessSessionErrorCode
  platformError : Int64 := 0
  wireError : Option GuestWorkerWireError := none
  protocolError : Option GuestWorkerProtocolValidationError := none
  deriving DecidableEq

/-- `read_exact` from the bytes of a stream: those read and those left. -/
def readExact (stream : List UInt8) (count : ℕ) :
    Except GuestWorkerProcessSessionError (List UInt8 × List UInt8) := do
  refuseIf (stream.length < count) { code := .unexpectedEof }
  return (stream.take count, stream.drop count)

/-- The payload after a header; nothing is read when it declares none. -/
def readPayload (stream : List UInt8) (payloadSize : ℕ) :
    Except GuestWorkerProcessSessionError (List UInt8 × List UInt8) :=
  if payloadSize ≠ 0 then readExact stream payloadSize else .ok ([], stream)

/-- `receive_message`: the message at the head of a stream, and the stream after it. -/
def receiveMessage (stream : List UInt8) :
    Except GuestWorkerProcessSessionError (GuestWorkerWireMessage × List UInt8) := do
  let headerRead ← readExact stream kGuestWorkerWireHeaderSize
  let header ← (decodeGuestWorkerWireHeader headerRead.1).mapError fun e =>
    { code := .wireFailure, wireError := some e }
  let payloadRead ← readPayload headerRead.2 header.payloadSize
  let message ← (decodeGuestWorkerWireMessage (headerRead.1 ++ payloadRead.1)).mapError fun e =>
    { code := .wireFailure, wireError := some e }
  return (message, payloadRead.2)

theorem readExact_append {front rest : List UInt8} {count : ℕ} (h : front.length = count) :
    readExact (front ++ rest) count = .ok (front, rest) := by
  simp only [readExact, bind_eq_ok, refuseIf_eq_ok, pure_eq_ok]
  refine ⟨(), ?_, ?_⟩
  · rw [List.length_append]
    omega
  · rw [List.take_left' h, List.drop_left' h]

/-- The frame of a valid message at the head of a stream is read whole, and nothing after it. -/
theorem receiveMessage_frameOf_append (hvalid : validMessage message = true) (rest : List UInt8) :
    receiveMessage (frameOf message ++ rest) = .ok (message, rest) := by
  have hheader : decodeGuestWorkerWireHeader (wordsBytes (headerWords (kindOf message))) =
      .ok (headerOf (kindOf message)) := decodeGuestWorkerWireHeader_eq_ok.mpr ⟨_, rfl, rfl⟩
  have hpayload : (wordsBytes (payloadWords message)).length = payloadSize (kindOf message) := by
    rw [length_wordsBytes, sum_payloadWords]
  have hsize : payloadSize (kindOf message) ≠ 0 := by cases message <;> exact nofun
  simp only [receiveMessage, bind_eq_ok, mapError_eq_ok, pure_eq_ok]
  refine ⟨(wordsBytes (headerWords (kindOf message)), wordsBytes (payloadWords message) ++ rest),
    ?_, _, hheader, (wordsBytes (payloadWords message), rest), ?_, message, ?_, rfl⟩
  · rw [frameOf, List.append_assoc]
    exact readExact_append (length_headerBytes _)
  · rw [headerOf, readPayload, if_pos hsize]
    exact readExact_append hpayload
  · exact decodeGuestWorkerWireMessage_eq_ok.mpr ⟨hvalid, rfl⟩

theorem length_of_receiveMessage {stream rest : List UInt8}
    (h : receiveMessage stream = .ok (message, rest)) : rest.length < stream.length := by
  simp only [receiveMessage, readExact, readPayload, bind_eq_ok, refuseIf_eq_ok, pure_eq_ok,
    Prod.mk.injEq] at h
  obtain ⟨headerRead, ⟨-, hlong, rfl⟩, header, -, payloadRead, hpayload, -, -, -, rfl⟩ := h
  have hle : payloadRead.2.length ≤ (stream.drop kGuestWorkerWireHeaderSize).length := by
    split_ifs at hpayload
    · simp only [bind_eq_ok, pure_eq_ok] at hpayload
      obtain ⟨-, -, rfl⟩ := hpayload
      rw [List.length_drop]
      omega
    · cases hpayload
      exact le_rfl
  rw [List.length_drop] at hle
  simp only [kGuestWorkerWireHeaderSize] at *
  omega

/-- Receive until the stream ends. -/
def receiveMessages (stream : List UInt8) :
    Except GuestWorkerProcessSessionError (List GuestWorkerWireMessage) :=
  if stream.isEmpty = true then .ok []
  else
    match _h : receiveMessage stream with
    | .error e => .error e
    | .ok (message, rest) => (receiveMessages rest).map (message :: ·)
termination_by stream.length
decreasing_by exact length_of_receiveMessage _h

theorem receiveMessages_append {stream rest : List UInt8}
    (h : receiveMessage stream = .ok (message, rest)) :
    receiveMessages stream = (receiveMessages rest).map (message :: ·) := by
  have hne : stream.isEmpty ≠ true := by
    intro hempty
    have := length_of_receiveMessage h
    rw [List.isEmpty_iff.mp hempty] at this
    exact Nat.not_lt_zero _ this
  rw [receiveMessages, if_neg hne]
  split
  · next e he =>
    rw [h] at he
    cases he
  · next message' rest' he =>
    rw [h] at he
    cases he
    rfl

/-- A stream of frames is received as the messages it was sent as. -/
theorem receiveMessages_flatten {messages : List GuestWorkerWireMessage}
    {frames : List (List UInt8)}
    (h : List.Forall₂ (fun message frame => encodeGuestWorkerWireMessage message = .ok frame)
      messages frames) :
    receiveMessages frames.flatten = .ok messages := by
  induction h with
  | nil => rw [List.flatten_nil, receiveMessages, if_pos List.isEmpty_nil]
  | @cons message frame messages frames hencode _ ih =>
    obtain ⟨hvalid, rfl⟩ := encodeGuestWorkerWireMessage_eq_ok.mp hencode
    rw [List.flatten_cons, receiveMessages_append (receiveMessage_frameOf_append hvalid _), ih]
    rfl

/-- **The wire format is a bijection.** A message decodes from the frame it encodes to, a frame
that decodes is the one its message encodes to, no two frames decode to one message, and
frames sent one after another are received one after another. -/
theorem guestWorkerWire_roundTrip :
    (∀ message frame, encodeGuestWorkerWireMessage message = .ok frame →
      decodeGuestWorkerWireMessage frame = .ok message) ∧
    (∀ frame message, decodeGuestWorkerWireMessage frame = .ok message →
      encodeGuestWorkerWireMessage message = .ok frame) ∧
    (∀ frame frame' message, decodeGuestWorkerWireMessage frame = .ok message →
      decodeGuestWorkerWireMessage frame' = .ok message → frame = frame') ∧
    ∀ messages frames,
      List.Forall₂ (fun message frame => encodeGuestWorkerWireMessage message = .ok frame) messages
        frames →
      receiveMessages frames.flatten = .ok messages := by
  refine ⟨fun message frame h => ?_, fun frame message h => ?_, fun frame frame' message h h' => ?_,
    fun messages frames h => receiveMessages_flatten h⟩
  · exact decodeGuestWorkerWireMessage_eq_ok.mpr (encodeGuestWorkerWireMessage_eq_ok.mp h)
  · exact encodeGuestWorkerWireMessage_eq_ok.mpr (decodeGuestWorkerWireMessage_eq_ok.mp h)
  · rw [← (decodeGuestWorkerWireMessage_eq_ok.mp h).2,
      ← (decodeGuestWorkerWireMessage_eq_ok.mp h').2]

/-- One session in one stream: the greeting and its answer, the budget, a syscall with its result,
the stop and the farewell. -/
theorem guestWorkerWire_roundTrip_session :
    let session : List GuestWorkerWireMessage :=
      [.hello 1, .ready 1 ⟨7⟩, .runRequest 1000000,
        .syscallRequest ⟨⟨1⟩, ⟨7⟩, ⟨2⟩, 20, #v[1, 2, 3, 4, 5, 6], ⟨0x1002⟩⟩,
        .syscallResult ⟨⟨1⟩, ⟨7⟩, ⟨2⟩, -1, 0⟩, .stop ⟨⟨7⟩, ⟨2⟩, .normalGuestReturn, ⟨0x1004⟩⟩,
        .terminate .userRequest]
    receiveMessages (session.map frameOf).flatten = .ok session := by
  intro session
  refine guestWorkerWire_roundTrip.2.2.2 session (session.map frameOf) ?_
  rw [List.forall₂_map_right_iff, List.forall₂_same]
  intro message hmessage
  have hvalid : ∀ message ∈ session, validMessage message = true := by decide
  exact encodeGuestWorkerWireMessage_eq_ok.mpr ⟨hvalid message hmessage, rfl⟩

end Astraea.Execution
