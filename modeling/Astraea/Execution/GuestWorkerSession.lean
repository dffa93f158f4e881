import Astraea.Base.Logged
import Astraea.Execution.GuestWorkerWire

/-!
# The session of the controller with a guest worker

`run_guest_worker_process_session` launches a worker and speaks with it: it says hello, takes one
`Ready`, asks for a run and then serves the system calls of the worker until there is a `Stop`. A
`Fault` or a `Diagnostic` is kept, and the `Stop` has to tell the same.

The messages cross a border of trust: nothing is known of what the worker sends. `SessionWord` is
the language of the messages a session takes, and `runGuestWorkerProcessSession_language` says that
the session succeeds on it and on nothing else. The second half is about every run, also one that
fails: the service is asked only for the requests that come first, one after the other, each of them
checked.

The platform is Linux. What the operating system does (the launch of the worker, the socket with
its deadline, the end of the child) is a parameter.
-/

namespace Astraea.Execution

open Astraea.Base Astraea.Memory

/-! ### The configuration -/

/-- The version both sides speak. -/
def kGuestWorkerProtocolVersion : UInt32 := 1

/-- What a worker says when it is ready. -/
structure GuestWorkerReady where
  protocolVersion : UInt32
  workerId : GuestWorkerId
  deriving DecidableEq

/-- The limits `config_is_valid` looks at. -/
structure GuestWorkerResourcePolicy where
  processMemoryLimitBytes : Option UInt64
  processCpuTimeSeconds : Option UInt64
  linuxMaxOpenFiles : Option UInt64
  deriving DecidableEq

/-- What the service answers to a request; it may have kept the requests it answered before. -/
abbrev GuestWorkerSyscallService :=
  List GuestWorkerSyscallRequest → GuestWorkerSyscallRequest → Option GuestWorkerSyscallResult

/-- What a session is started with. -/
structure GuestWorkerProcessSessionConfig where
  workerExecutable : List UInt8
  workerArguments : List (List UInt8)
  runBudgetMicroseconds : UInt64
  timeoutMilliseconds : UInt64
  syscallService : Option GuestWorkerSyscallService
  maxSyscallRequests : ℕ
  resourcePolicy : Option GuestWorkerResourcePolicy
  linuxArtifactBytes : Option (List UInt8)

/-- `contains_nul`. -/
def containsNul (value : List UInt8) : Bool := value.contains 0

/-- `std::filesystem::path::is_absolute`: the path begins with a slash. -/
def isAbsolutePath (path : List UInt8) : Bool := path.head? == some 0x2f

/-- `config_is_valid`. -/
def configIsValid (config : GuestWorkerProcessSessionConfig) : Bool :=
  if config.workerExecutable.isEmpty || containsNul config.workerExecutable ||
    config.runBudgetMicroseconds == 0 ||
      config.timeoutMilliseconds == 0 || decide (config.timeoutMilliseconds.toNat > 2 ^ 63 - 1) then
        false
  else if !isAbsolutePath config.workerExecutable then false
  else if config.syscallService.isSome != (config.maxSyscallRequests != 0) then false
  else if config.linuxArtifactBytes.any List.isEmpty then false
  else if config.resourcePolicy.any fun policy => policy.processMemoryLimitBytes.any (· == 0) ||
      policy.processCpuTimeSeconds.any (· == 0) || policy.linuxMaxOpenFiles.any (· < 3) then false
  else !config.workerArguments.any containsNul

/-- `validate_guest_worker_handshake`. -/
def validateGuestWorkerHandshake (hello : UInt32) (ready : GuestWorkerReady) :
    Except GuestWorkerProtocolValidationError Bool := do
  refuseIf (hello ≠ kGuestWorkerProtocolVersion ∨ ready.protocolVersion ≠
    kGuestWorkerProtocolVersion ∨ hello ≠ ready.protocolVersion) ⟨.unsupportedProtocolVersion⟩
  return true

/-- `validate_guest_worker_run_request`. -/
def validateGuestWorkerRunRequest (budgetMicroseconds : UInt64) :
    Except GuestWorkerProtocolValidationError Bool := do
  refuseIf (budgetMicroseconds = 0) ⟨.zeroRunBudget⟩
  return true

/-! ### The session -/

/-- What is outside the controller: the messages it can receive and the error of receiving behind
them, the launch of the worker (with a process file descriptor or not), the sending of the message
with an index, and the exit code. -/
structure SessionWorld where
  incoming : List GuestWorkerWireMessage
  receiveError : GuestWorkerProcessSessionError
  spawnWorker : Except GuestWorkerProcessSessionError Bool
  sendMessage : ℕ → GuestWorkerWireMessage → Except GuestWorkerProcessSessionError Unit
  waitForChild : Except GuestWorkerProcessSessionError Int32

/-- What can be seen of a session. -/
inductive SessionEvent where
  | received (message : GuestWorkerWireMessage)
  | sent (message : GuestWorkerWireMessage)
  | invoked (request : GuestWorkerSyscallRequest)

/-- What a session comes to that ends well. -/
structure GuestWorkerProcessSessionResult where
  ready : GuestWorkerReady
  stop : GuestWorkerStop
  childExitCode : Int32
  syscallRequestCount : ℕ
  terminalFault : Option GuestWorkerFault
  terminalDiagnostic : Option GuestWorkerDiagnostic
  linuxPidfdUsed : Bool
  deriving DecidableEq

/-- The variables of the loop, and the requests the service has answered. -/
structure SessionLoop where
  terminalFault : Option GuestWorkerFault := none
  terminalDiagnostic : Option GuestWorkerDiagnostic := none
  syscallRequestCount : ℕ := 0
  answered : List GuestWorkerSyscallRequest := []

namespace SessionLoop

/-- A fault or a diagnostic has been received. -/
def isTerminal (state : SessionLoop) : Bool :=
  state.terminalFault.isSome || state.terminalDiagnostic.isSome

end SessionLoop

/-- A check of the session, which nobody sees. -/
abbrev Session (α : Type) := Logged SessionEvent GuestWorkerProcessSessionError α

section Session

variable (config : GuestWorkerProcessSessionConfig) (world : SessionWorld)
  (workerId : GuestWorkerId)

/-- `send_message`, for the message with an index. -/
def sendMessage (index : ℕ) (message : GuestWorkerWireMessage) : Session Unit :=
  .look (.sent message) (world.sendMessage index message)

/-- The checks of a `Stop`. -/
def checkStop (state : SessionLoop) (stop : GuestWorkerStop) :
    Except GuestWorkerProcessSessionError Unit := do
  refuseIf (stop.workerId ≠ workerId) { code := .workerIdentityMismatch }
  match state.terminalFault, state.terminalDiagnostic with
  | some fault, _ =>
    refuseIf (stop.reason ≠ .guestFault ∨ stop.threadId ≠ fault.threadId ∨
      stop.guestRip ≠ fault.guestRip)
      { code := .protocolFailure }
  | none, some diagnostic =>
    refuseIf (stop.reason ≠ .diagnosticBoundary ∨ stop.threadId ≠ diagnostic.threadId ∨
      stop.guestRip ≠ diagnostic.guestRip) { code := .protocolFailure }
  | none, none =>
    refuseIf (stop.reason = .guestFault ∨ stop.reason = .diagnosticBoundary)
      { code := .protocolFailure }

/-- The checks of a `Fault` or a `Diagnostic`, of which the worker and the thread are looked at. -/
def checkTerminal (state : SessionLoop) (sender : GuestWorkerId) (threadId : GuestThreadId) :
    Except GuestWorkerProcessSessionError Unit := do
  refuseIf (state.isTerminal = true ∨ sender ≠ workerId)
    { code := if state.isTerminal = true then .protocolFailure else .workerIdentityMismatch }
  refuseIf (threadId.value = 0) { code := .protocolFailure }

/-- The checks of a request, and the service it is for. -/
def checkRequest (state : SessionLoop) (request : GuestWorkerSyscallRequest) :
    Except GuestWorkerProcessSessionError GuestWorkerSyscallService := do
  refuseIf (request.workerId ≠ workerId) { code := .workerIdentityMismatch }
  refuseIf (request.requestId.value = 0 ∨ request.threadId.value = 0 ∨ request.guestRip.value = 0)
    { code := .protocolFailure }
  let service ← orRefuse config.syscallService { code := .syscallServiceUnavailable }
  refuseIf (state.syscallRequestCount ≥ config.maxSyscallRequests)
    { code := .syscallRequestLimitExceeded }
  return service

/-- A system call: the service is asked and its answer sent. -/
def serveRequest (state : SessionLoop) (request : GuestWorkerSyscallRequest) :
    Session SessionLoop := do
  let service ← .quiet (checkRequest config workerId state request)
  let result ← .look (.invoked request)
    (orRefuse (service state.answered request) { code := .syscallServiceRejected })
  sendMessage world (2 + state.syscallRequestCount) (.syscallResult result)
  return { state with
    syscallRequestCount := state.syscallRequestCount + 1
    answered := state.answered ++ [request] }

/-- One turn of the loop: it goes on, or there is a `Stop`. -/
def sessionStep (state : SessionLoop) :
    GuestWorkerWireMessage → Session (SessionLoop ⊕ GuestWorkerStop)
  | .stop stop => do
    .quiet (checkStop workerId state stop)
    return .inr stop
  | .fault fault => do
    .quiet (checkTerminal workerId state fault.workerId fault.threadId)
    return .inl { state with terminalFault := some fault }
  | .diagnostic diagnostic => do
    .quiet (checkTerminal workerId state diagnostic.workerId diagnostic.threadId)
    return .inl { state with terminalDiagnostic := some diagnostic }
  | .syscallRequest request => do
    .quiet (refuseIf (state.isTerminal = true) { code := .protocolFailure })
    let state ← serveRequest config world workerId state request
    return .inl state
  | _ =>
    .quiet
      (.error { code := if state.isTerminal = true then .protocolFailure else .unexpectedMessage })

/-- The loop, over the messages that are left. -/
def sessionLoop :
    List GuestWorkerWireMessage → SessionLoop → Session (SessionLoop × GuestWorkerStop)
  | [], _ => .quiet (.error world.receiveError)
  | message :: incoming, state => do
    .look (.received message) (.ok ())
    match ← sessionStep config world workerId state message with
    | .inl state => sessionLoop incoming state
    | .inr stop => return (state, stop)

/-- Why the worker is terminated. -/
def terminationReason (state : SessionLoop) : GuestWorkerTerminationReason :=
  if state.terminalFault.isSome then .fatalGuestFault
  else if state.terminalDiagnostic.isSome then .unsupportedGuestBehavior
  else .userRequest

end Session

section Run

variable (config : GuestWorkerProcessSessionConfig) (world : SessionWorld)

/-- The first message, which has to be a `Ready`. -/
def receiveReady : Session (GuestWorkerReady × List GuestWorkerWireMessage) :=
  match world.incoming with
  | [] => .quiet (.error world.receiveError)
  | message :: incoming =>
    .look (.received message) <|
      match message with
      | .ready protocolVersion workerId => .ok (⟨protocolVersion, workerId⟩, incoming)
      | _ => .error { code := .unexpectedMessage }

/-- The end of a session: the worker is terminated, and its exit waited for. -/
def finishSession (ready : GuestWorkerReady) (linuxPidfdUsed : Bool) (state : SessionLoop)
    (stop : GuestWorkerStop) :
    Session GuestWorkerProcessSessionResult := do
  sendMessage world (2 + state.syscallRequestCount) (.terminate (terminationReason state))
  let childExitCode ← .quiet world.waitForChild
  .quiet (refuseIf (childExitCode ≠ 0)
    { code := .childExitFailure, platformError := childExitCode.toInt64 })
  return {
    ready := ready
    stop := stop
    childExitCode := childExitCode
    syscallRequestCount := state.syscallRequestCount
    terminalFault := state.terminalFault
    terminalDiagnostic := state.terminalDiagnostic
    linuxPidfdUsed := linuxPidfdUsed }

/-- `run_guest_worker_process_session`. -/
def runGuestWorkerProcessSession : Session GuestWorkerProcessSessionResult := do
  .quiet (refuseIf (configIsValid config = false) { code := .invalidConfig })
  let _ ← .quiet ((validateGuestWorkerRunRequest config.runBudgetMicroseconds).mapError fun e =>
    { code := .protocolFailure, protocolError := some e })
  let linuxPidfdUsed ← .quiet world.spawnWorker
  sendMessage world 0 (.hello kGuestWorkerProtocolVersion)
  let (ready, incoming) ← receiveReady world
  let _ ← .quiet ((validateGuestWorkerHandshake kGuestWorkerProtocolVersion ready).mapError fun e =>
    { code := .protocolFailure, protocolError := some e })
  sendMessage world 1 (.runRequest config.runBudgetMicroseconds)
  let (state, stop) ← sessionLoop config world ready.workerId incoming {}
  finishSession world ready linuxPidfdUsed state stop

end Run

/-! ### The language of the messages -/

/-- A request the service may be asked for. -/
structure SoundRequest (workerId : GuestWorkerId) (request : GuestWorkerSyscallRequest) : Prop where
  sender : request.workerId = workerId
  requestId : request.requestId.value ≠ 0
  threadId : request.threadId.value ≠ 0
  guestRip : request.guestRip.value ≠ 0

/-- The service has an answer to each of the requests, those before it given. -/
def ServiceAnswers (service : Option GuestWorkerSyscallService) :
    (earlier requests : List GuestWorkerSyscallRequest) → Prop
  | _, [] => True
  | earlier, request :: requests =>
    (∃ answer, service = some answer ∧ (answer earlier request).isSome = true) ∧
      ServiceAnswers service (earlier ++ [request]) requests

/-- How a session ends: with a `Stop` for another reason than a fault or a diagnostic, or with one
of these and the `Stop` that tells the same. -/
inductive Ending (workerId : GuestWorkerId) : List GuestWorkerWireMessage → Prop
  | stop {stop : GuestWorkerStop} (hsender : stop.workerId = workerId)
      (hfault : stop.reason ≠ .guestFault)
      (hdiagnostic : stop.reason ≠ .diagnosticBoundary) : Ending workerId [.stop stop]
  | fault {fault : GuestWorkerFault} {stop : GuestWorkerStop} (hfault : fault.workerId = workerId)
      (hthread : fault.threadId.value ≠ 0) (hsender : stop.workerId = workerId)
        (hreason : stop.reason = .guestFault)
      (hthreadId : stop.threadId = fault.threadId) (hguestRip : stop.guestRip = fault.guestRip) :
      Ending workerId [.fault fault, .stop stop]
  | diagnostic {diagnostic : GuestWorkerDiagnostic} {stop : GuestWorkerStop}
      (hdiagnostic : diagnostic.workerId = workerId)
      (hthread : diagnostic.threadId.value ≠ 0) (hsender : stop.workerId = workerId)
      (hreason : stop.reason = .diagnosticBoundary)
        (hthreadId : stop.threadId = diagnostic.threadId)
      (hguestRip : stop.guestRip = diagnostic.guestRip) :
        Ending workerId [.diagnostic diagnostic, .stop stop]

/-- **The messages of a session**: a `Ready`, requests that are answered, and an ending. -/
def SessionWord (config : GuestWorkerProcessSessionConfig) (word : List GuestWorkerWireMessage) :
    Prop :=
  ∃ workerId requests ending,
    word = .ready kGuestWorkerProtocolVersion workerId :: (requests.map .syscallRequest ++ ending) ∧
    requests.length ≤ config.maxSyscallRequests ∧
    (∀ request ∈ requests, SoundRequest workerId request) ∧
    ServiceAnswers config.syscallService [] requests ∧ Ending workerId ending

/-! ### What can be seen -/

/-- The messages that were received, in order. -/
def received (log : List SessionEvent) : List GuestWorkerWireMessage :=
  log.filterMap fun
    | .received message => some message
    | _ => none

/-- The requests the service was asked for, in order. -/
def invoked (log : List SessionEvent) : List GuestWorkerSyscallRequest :=
  log.filterMap fun
    | .invoked request => some request
    | _ => none

theorem received_append (log log' : List SessionEvent) :
    received (log ++ log') = received log ++ received log' :=
  List.filterMap_append

theorem invoked_append (log log' : List SessionEvent) :
    invoked (log ++ log') = invoked log ++ invoked log' :=
  List.filterMap_append

/-- What has gone before when the service is asked for a request: a `Ready`, and the requests it was
asked for, this one being the last message so far. -/
structure MayInvoke (config : GuestWorkerProcessSessionConfig) (past : List SessionEvent)
    (request : GuestWorkerSyscallRequest) : Prop where
  messages : ∃ workerId,
    received past = .ready kGuestWorkerProtocolVersion workerId ::
      (invoked past ++ [request]).map .syscallRequest ∧
      ∀ other ∈ invoked past ++ [request], SoundRequest workerId other
  count : (invoked past).length < config.maxSyscallRequests
  answered : ServiceAnswers config.syscallService [] (invoked past)

/-- What each event of a session is, given the events before it. -/
def Orderly (config : GuestWorkerProcessSessionConfig) (past : List SessionEvent) :
    SessionEvent → Prop
  | .invoked request => MayInvoke config past request
  | _ => True

/-! ### One turn of the loop -/

variable {service : GuestWorkerSyscallService} {α : Type}

/-- A message after which the loop goes on. -/
inductive Continues (config : GuestWorkerProcessSessionConfig) (workerId : GuestWorkerId)
    (state : SessionLoop) :
    GuestWorkerWireMessage → SessionLoop → Prop
  | fault {fault : GuestWorkerFault} (hopen : state.isTerminal = false)
      (hsender : fault.workerId = workerId)
      (hthread : fault.threadId.value ≠ 0) :
      Continues config workerId state (.fault fault) { state with terminalFault := some fault }
  | diagnostic {diagnostic : GuestWorkerDiagnostic} (hopen : state.isTerminal = false)
      (hsender : diagnostic.workerId = workerId) (hthread : diagnostic.threadId.value ≠ 0) :
      Continues config workerId state (.diagnostic diagnostic) { state with
        terminalDiagnostic := some diagnostic }
  | request {request : GuestWorkerSyscallRequest} (hopen : state.isTerminal = false)
      (hsound : SoundRequest workerId request)
      (hcount : state.syscallRequestCount < config.maxSyscallRequests)
      (hanswer : ∃ answer, config.syscallService = some answer ∧
        (answer state.answered request).isSome = true) :
      Continues config workerId state (.syscallRequest request)
        { state with
          syscallRequestCount := state.syscallRequestCount + 1
          answered := state.answered ++ [request] }

section Turn

variable {config : GuestWorkerProcessSessionConfig} {world : SessionWorld}
  {workerId : GuestWorkerId} {state next : SessionLoop} {message : GuestWorkerWireMessage}
  {request : GuestWorkerSyscallRequest} {stop : GuestWorkerStop}

theorem checkTerminal_eq_ok {sender : GuestWorkerId} {threadId : GuestThreadId} :
    checkTerminal workerId state sender threadId = .ok () ↔
      state.isTerminal = false ∧ sender = workerId ∧ threadId.value ≠ 0 := by
  rw [checkTerminal, check_bind_eq_ok]
  simp only [refuseIf_eq_ok, not_or, not_not, ne_eq, Bool.not_eq_true, and_assoc]

theorem checkRequest_eq_ok :
    checkRequest config workerId state request = .ok service ↔
      SoundRequest workerId request ∧ config.syscallService = some service ∧
        state.syscallRequestCount < config.maxSyscallRequests := by
  simp only [checkRequest, bind_eq_ok, refuseIf_eq_ok, orRefuse_eq_ok, pure_eq_ok, not_or, not_not,
    ne_eq, not_le, ge_iff_le]
  constructor
  · rintro ⟨-, hsender, -, ⟨hrequest, hthread, hrip⟩, answer, hanswer, -, hcount, rfl⟩
    exact ⟨⟨hsender, hrequest, hthread, hrip⟩, hanswer, hcount⟩
  · rintro ⟨⟨hsender, hrequest, hthread, hrip⟩, hanswer, hcount⟩
    exact ⟨(), hsender, (), ⟨hrequest, hthread, hrip⟩, service, hanswer, (), hcount, rfl⟩

theorem continues_of_sessionStep
    (h : (sessionStep config world workerId state message).result = .ok (.inl next)) :
    Continues config workerId state message next := by
  cases message with
  | fault fault =>
    rw [sessionStep, Logged.result_bind, bind_eq_ok] at h
    obtain ⟨_, hcheck, h⟩ := h
    cases h
    obtain ⟨hopen, hsender, hthread⟩ := checkTerminal_eq_ok.mp hcheck
    exact .fault hopen hsender hthread
  | diagnostic diagnostic =>
    rw [sessionStep, Logged.result_bind, bind_eq_ok] at h
    obtain ⟨_, hcheck, h⟩ := h
    cases h
    obtain ⟨hopen, hsender, hthread⟩ := checkTerminal_eq_ok.mp hcheck
    exact .diagnostic hopen hsender hthread
  | syscallRequest request =>
    simp only [sessionStep, serveRequest, Logged.result_bind, Logged.result_quiet,
      Logged.result_look, Logged.result_pure, bind_eq_ok, refuseIf_eq_ok, orRefuse_eq_ok,
      Bool.not_eq_true, Except.ok.injEq, Sum.inl.injEq] at h
    obtain ⟨-, hopen, _, ⟨service, hcheck, result, hresult, -, -, rfl⟩, rfl⟩ := h
    obtain ⟨hsound, hservice, hcount⟩ := checkRequest_eq_ok.mp hcheck
    exact .request hopen hsound hcount ⟨service, hservice, Option.isSome_of_eq_some hresult⟩
  | stop stop =>
    rw [sessionStep, Logged.result_bind, bind_eq_ok] at h
    obtain ⟨-, -, h⟩ := h
    cases h
  | hello => cases h
  | ready => cases h
  | runRequest => cases h
  | syscallResult => cases h
  | terminate => cases h

theorem stop_of_sessionStep
    (h : (sessionStep config world workerId state message).result = .ok (.inr stop)) :
    message = .stop stop ∧ checkStop workerId state stop = .ok () := by
  cases message with
  | stop other =>
    rw [sessionStep, Logged.result_bind, bind_eq_ok] at h
    obtain ⟨_, hcheck, h⟩ := h
    cases h
    exact ⟨rfl, hcheck⟩
  | fault fault =>
    rw [sessionStep, Logged.result_bind, bind_eq_ok] at h
    obtain ⟨-, -, h⟩ := h
    cases h
  | diagnostic diagnostic =>
    rw [sessionStep, Logged.result_bind, bind_eq_ok] at h
    obtain ⟨-, -, h⟩ := h
    cases h
  | syscallRequest request =>
    simp only [sessionStep, Logged.result_bind, bind_eq_ok] at h
    obtain ⟨-, -, _, -, h⟩ := h
    cases h
  | hello => cases h
  | ready => cases h
  | runRequest => cases h
  | syscallResult => cases h
  | terminate => cases h

/-- A message after which the loop goes on does so, if its answer can be sent. -/
theorem sessionStep_of_continues (hsend : ∀ index message, world.sendMessage index message = .ok ())
    (h : Continues config workerId state message next) :
    (sessionStep config world workerId state message).result = .ok (.inl next) := by
  cases h with
  | fault hopen hsender hthread =>
    rw [sessionStep, Logged.result_bind, Logged.result_quiet,
      checkTerminal_eq_ok.mpr ⟨hopen, hsender, hthread⟩]
    rfl
  | diagnostic hopen hsender hthread =>
    rw [sessionStep, Logged.result_bind, Logged.result_quiet,
      checkTerminal_eq_ok.mpr ⟨hopen, hsender, hthread⟩]
    rfl
  | request hopen hsound hcount hanswer =>
    obtain ⟨service, hservice, hresult⟩ := hanswer
    obtain ⟨result, hresult⟩ := Option.isSome_iff_exists.mp hresult
    simp only [sessionStep, serveRequest, sendMessage, Logged.result_bind, Logged.result_quiet,
      Logged.result_look, Logged.result_pure, bind_eq_ok, refuseIf_eq_ok, orRefuse_eq_ok,
      Bool.not_eq_true, Except.ok.injEq, Sum.inl.injEq]
    exact ⟨(), hopen, _, ⟨service, checkRequest_eq_ok.mpr ⟨hsound, hservice, hcount⟩, result,
      hresult, (), hsend _ _, rfl⟩, rfl⟩

theorem received_of_looksIn {x : Session α}
    (h : x.LooksIn fun event => ∀ message, event ≠ SessionEvent.received message) :
    received x.log = [] := by
  rw [received, List.filterMap_eq_nil_iff]
  intro event hevent
  cases event with
  | received message => exact absurd rfl (h _ hevent message)
  | sent message => rfl
  | invoked request => rfl

theorem received_sessionStep :
    received (sessionStep config world workerId state message).log = [] := by
  apply received_of_looksIn
  cases message with
  | syscallRequest request =>
    refine (Logged.looksIn_quiet _).bind fun _ _ => Logged.LooksIn.bind ?_ fun _ _ =>
      Logged.looksIn_pure _
    refine (Logged.looksIn_quiet _).bind fun _ _ => ?_
    refine (Logged.looksIn_look (fun message h => by cases h) _).bind fun _ _ => ?_
    exact (Logged.looksIn_look (fun message h => by cases h) _).bind fun _ _ =>
      Logged.looksIn_pure _
  | stop stop => exact (Logged.looksIn_quiet _).bind fun _ _ => Logged.looksIn_pure _
  | fault fault => exact (Logged.looksIn_quiet _).bind fun _ _ => Logged.looksIn_pure _
  | diagnostic diagnostic => exact (Logged.looksIn_quiet _).bind fun _ _ => Logged.looksIn_pure _
  | hello => exact Logged.looksIn_quiet _
  | ready => exact Logged.looksIn_quiet _
  | runRequest => exact Logged.looksIn_quiet _
  | syscallResult => exact Logged.looksIn_quiet _
  | terminate => exact Logged.looksIn_quiet _

/-! ### The loop -/

theorem checkStop_of_open (hfault : state.terminalFault = none)
    (hdiagnostic : state.terminalDiagnostic = none) :
    checkStop workerId state stop = .ok () ↔
      stop.workerId = workerId ∧ stop.reason ≠ .guestFault ∧ stop.reason ≠ .diagnosticBoundary := by
  rw [checkStop, check_bind_eq_ok, hfault, hdiagnostic]
  simp only [refuseIf_eq_ok, not_or, not_not, ne_eq]

theorem checkStop_of_fault {fault : GuestWorkerFault} (hfault : state.terminalFault = some fault) :
    checkStop workerId state stop = .ok () ↔
      stop.workerId = workerId ∧ stop.reason = .guestFault ∧ stop.threadId = fault.threadId ∧
        stop.guestRip = fault.guestRip := by
  rw [checkStop, check_bind_eq_ok, hfault]
  simp only [refuseIf_eq_ok, not_or, not_not, ne_eq]

theorem checkStop_of_diagnostic {diagnostic : GuestWorkerDiagnostic}
    (hfault : state.terminalFault = none)
    (hdiagnostic : state.terminalDiagnostic = some diagnostic) :
    checkStop workerId state stop = .ok () ↔
      stop.workerId = workerId ∧ stop.reason = .diagnosticBoundary ∧
      stop.threadId = diagnostic.threadId ∧
        stop.guestRip = diagnostic.guestRip := by
  rw [checkStop, check_bind_eq_ok, hfault, hdiagnostic]
  simp only [refuseIf_eq_ok, not_or, not_not, ne_eq]

end Turn

/-- The messages of the loop, from a state on. -/
inductive LoopWord (config : GuestWorkerProcessSessionConfig) (workerId : GuestWorkerId) :
    SessionLoop → List GuestWorkerWireMessage → Prop
  | stop {state : SessionLoop} {stop : GuestWorkerStop}
      (hcheck : checkStop workerId state stop = .ok ()) :
      LoopWord config workerId state [.stop stop]
  | next {state next : SessionLoop} {message : GuestWorkerWireMessage}
      {word : List GuestWorkerWireMessage}
      (hmessage : Continues config workerId state message next)
        (hrest : LoopWord config workerId next word) :
      LoopWord config workerId state (message :: word)

section Loop

variable {config : GuestWorkerProcessSessionConfig} {world : SessionWorld}
  {workerId : GuestWorkerId} {state : SessionLoop} {incoming word : List GuestWorkerWireMessage}

/-- A loop that ends has received a word, and nothing behind it. -/
theorem loopWord_of_sessionLoop {outcome : SessionLoop × GuestWorkerStop}
    (h : (sessionLoop config world workerId incoming state).result = .ok outcome) :
    LoopWord config workerId state
      (received (sessionLoop config world workerId incoming state).log) ∧
      received (sessionLoop config world workerId incoming state).log <+: incoming := by
  induction incoming generalizing state with
  | nil => cases h
  | cons message incoming ih =>
    rw [sessionLoop] at h ⊢
    rw [Logged.result_bind, Logged.result_look] at h
    replace h : (sessionStep config world workerId state message >>= _).result = .ok outcome := h
    rw [Logged.result_bind, bind_eq_ok] at h
    obtain ⟨after, hstep, h⟩ := h
    rw [Logged.log_bind_of_ok (Logged.result_look _ _), Logged.log_bind_of_ok hstep,
      received_append, received_append, received_sessionStep, List.nil_append]
    show LoopWord config workerId state (message :: received _) ∧
      message :: received _ <+: message :: incoming
    cases after with
    | inl next =>
      obtain ⟨hword, hstart⟩ := ih h
      exact ⟨.next (continues_of_sessionStep hstep) hword,
        (List.prefix_cons_inj message).mpr hstart⟩
    | inr stop =>
      obtain ⟨rfl, hcheck⟩ := stop_of_sessionStep hstep
      exact ⟨.stop hcheck, (List.prefix_cons_inj _).mpr (List.nil_prefix)⟩

theorem sessionLoop_of_loopWord (hsend : ∀ index message, world.sendMessage index message = .ok ())
    (h : LoopWord config workerId state word) (rest : List GuestWorkerWireMessage) :
    ∃ outcome, (sessionLoop config world workerId (word ++ rest) state).result = .ok outcome := by
  induction h with
  | @stop state stop hcheck =>
    refine ⟨(state, stop), ?_⟩
    rw [List.singleton_append, sessionLoop, Logged.result_bind, Logged.result_look]
    show (sessionStep config world workerId state (.stop stop) >>= _).result = _
    rw [Logged.result_bind, sessionStep, Logged.result_bind, Logged.result_quiet, hcheck]
    rfl
  | @next state next message word hmessage hrest ih =>
    obtain ⟨outcome, houtcome⟩ := ih
    refine ⟨outcome, ?_⟩
    rw [List.cons_append, sessionLoop, Logged.result_bind, Logged.result_look]
    show (sessionStep config world workerId state message >>= _).result = _
    rw [Logged.result_bind, sessionStep_of_continues hsend hmessage]
    exact houtcome

/-- Behind a fault or a diagnostic there is only the `Stop`. -/
theorem LoopWord.of_terminal (h : LoopWord config workerId state word)
    (hterminal : state.isTerminal = true) :
    ∃ stop, word = [.stop stop] ∧ checkStop workerId state stop = .ok () := by
  cases h with
  | @stop _ stop hcheck => exact ⟨stop, rfl, hcheck⟩
  | next hmessage hrest =>
    have hopen : state.isTerminal = false := by
      cases hmessage with
      | fault hopen => exact hopen
      | diagnostic hopen => exact hopen
      | request hopen => exact hopen
    rw [hopen] at hterminal
    cases hterminal

/-- **The words of the loop**: requests that are answered, and an ending. -/
theorem loopWord_iff (hfault : state.terminalFault = none)
    (hdiagnostic : state.terminalDiagnostic = none)
    (hcount : state.syscallRequestCount ≤ config.maxSyscallRequests) :
    LoopWord config workerId state word ↔
      ∃ requests ending, word = requests.map .syscallRequest ++ ending ∧
        state.syscallRequestCount + requests.length ≤ config.maxSyscallRequests ∧
        (∀ request ∈ requests, SoundRequest workerId request) ∧
        ServiceAnswers config.syscallService state.answered requests ∧ Ending workerId ending := by
  constructor
  · intro h
    induction h with
    | @stop state stop hcheck =>
      obtain ⟨hsender, hreason, hreason'⟩ := (checkStop_of_open hfault hdiagnostic).mp hcheck
      exact ⟨[], _, rfl, hcount, by simp, trivial, .stop hsender hreason hreason'⟩
    | @next state next message word hmessage hrest ih =>
      cases hmessage with
      | @fault fault hopen hsender hthread =>
        obtain ⟨stop, rfl, hcheck⟩ := hrest.of_terminal rfl
        obtain ⟨hstop, hreason, hthreadId, hguestRip⟩ := (checkStop_of_fault rfl).mp hcheck
        exact ⟨[], _, rfl, hcount, by simp, trivial,
          .fault hsender hthread hstop hreason hthreadId hguestRip⟩
      | @diagnostic diagnostic hopen hsender hthread =>
        obtain ⟨stop, rfl, hcheck⟩ := hrest.of_terminal (by simp [SessionLoop.isTerminal])
        obtain ⟨hstop, hreason, hthreadId, hguestRip⟩ := (@checkStop_of_diagnostic workerId
          { state with terminalDiagnostic := some diagnostic } stop diagnostic hfault rfl).mp hcheck
        exact ⟨[], _, rfl, hcount, by simp, trivial,
          .diagnostic hsender hthread hstop hreason hthreadId hguestRip⟩
      | @request request hopen hsound hlimit hanswer =>
        obtain ⟨requests, ending, rfl, hlength, hall, hanswers, hending⟩ :=
          ih hfault hdiagnostic hlimit
        refine ⟨request :: requests, ending, rfl, ?_, List.forall_mem_cons.mpr ⟨hsound, hall⟩,
          ⟨hanswer, hanswers⟩, hending⟩
        rw [List.length_cons]
        dsimp only at hlength
        omega
  · rintro ⟨requests, ending, rfl, hlength, hall, hanswers, hending⟩
    have hopen {state : SessionLoop} (hfault : state.terminalFault = none)
      (hdiagnostic : state.terminalDiagnostic = none) :
        state.isTerminal = false := by
      rw [SessionLoop.isTerminal, hfault, hdiagnostic]
      rfl
    induction requests generalizing state with
    | nil =>
      cases hending with
      | stop hsender hreason hreason' =>
        exact .stop ((checkStop_of_open hfault hdiagnostic).mpr ⟨hsender, hreason, hreason'⟩)
      | fault hsender hthread hstop hreason hthreadId hguestRip =>
        refine .next (.fault (hopen hfault hdiagnostic) hsender hthread) (.stop ?_)
        exact (checkStop_of_fault rfl).mpr ⟨hstop, hreason, hthreadId, hguestRip⟩
      | @diagnostic diagnostic stop hsender hthread hstop hreason hthreadId hguestRip =>
        refine .next (.diagnostic (hopen hfault hdiagnostic) hsender hthread) (.stop ?_)
        exact (@checkStop_of_diagnostic workerId { state with
          terminalDiagnostic := some diagnostic } stop diagnostic hfault rfl).mpr
          ⟨hstop, hreason, hthreadId, hguestRip⟩
    | cons request requests ih =>
      rw [List.length_cons] at hlength
      rw [List.forall_mem_cons] at hall
      refine .next (.request (hopen hfault hdiagnostic) hall.1 (by omega) hanswers.1) ?_
      exact ih hfault hdiagnostic (by dsimp only; omega) (by dsimp only; omega) hall.2 hanswers.2

/-! ### What the service is asked for -/

/-- The loop and what can be seen so far: what was received since the `Ready` are the requests that
were answered, unless there was a fault or a diagnostic. -/
def InStep (config : GuestWorkerProcessSessionConfig) (workerId : GuestWorkerId)
    (state : SessionLoop) (past : List SessionEvent) : Prop :=
  state.isTerminal = true ∨
    (received past = .ready kGuestWorkerProtocolVersion workerId ::
      state.answered.map .syscallRequest ∧ invoked past = state.answered ∧
      state.syscallRequestCount = state.answered.length ∧
      (∀ request ∈ state.answered, SoundRequest workerId request) ∧
      ServiceAnswers config.syscallService [] state.answered)

theorem serviceAnswers_append {service : Option GuestWorkerSyscallService}
    {earlier requests more : List GuestWorkerSyscallRequest} :
    ServiceAnswers service earlier (requests ++ more) ↔
      ServiceAnswers service earlier requests ∧
      ServiceAnswers service (earlier ++ requests) more := by
  induction requests generalizing earlier with
  | nil => simp [ServiceAnswers]
  | cons request requests ih => simp only [List.cons_append, ServiceAnswers, ih, and_assoc,
      List.append_assoc, List.nil_append]

theorem eachAfter_quiet (past : List SessionEvent)
    (result : Except GuestWorkerProcessSessionError α) :
    Logged.EachAfter (Orderly config) past (Logged.quiet result).log := trivial

/-- What is seen that is no call of the service needs nothing before it. -/
theorem eachAfter_look {event : SessionEvent} (hevent : ∀ request, event ≠ .invoked request)
    (past : List SessionEvent) (result : Except GuestWorkerProcessSessionError α) :
    Logged.EachAfter (Orderly config) past (Logged.look event result).log := by
  refine ⟨?_, trivial⟩
  cases event with
  | invoked request => exact absurd rfl (hevent request)
  | received message => trivial
  | sent message => trivial

variable {past : List SessionEvent}

theorem mayInvoke_of_inStep {request : GuestWorkerSyscallRequest}
    (h : InStep config workerId state past) (hopen : state.isTerminal = false)
    (hcheck : checkRequest config workerId state request = .ok service) :
    MayInvoke config (past ++ [.received (.syscallRequest request)]) request := by
  obtain ⟨hsound, hservice, hcount⟩ := checkRequest_eq_ok.mp hcheck
  obtain ⟨hreceived, hinvoked, hlength, hall, hanswers⟩ := h.resolve_left (by rw [hopen]; decide)
  have hinvoked' : invoked (past ++ [.received (.syscallRequest request)]) = state.answered := by
    rw [invoked_append, hinvoked]
    simp [invoked]
  refine ⟨⟨workerId, ?_, ?_⟩, ?_, ?_⟩
  · rw [hinvoked', received_append, hreceived, List.map_append]
    rfl
  · rw [hinvoked']
    exact List.forall_mem_append.mpr ⟨hall, List.forall_mem_singleton.mpr hsound⟩
  · rw [hinvoked', ← hlength]
    exact hcount
  · rw [hinvoked']
    exact hanswers

theorem log_sessionStep_of_request {request : GuestWorkerSyscallRequest} {next : SessionLoop}
    (h : (sessionStep config world workerId state (.syscallRequest request)).result =
      .ok (.inl next)) :
    ∃ result, (sessionStep config world workerId state (.syscallRequest request)).log =
      [.invoked request, .sent (.syscallResult result)] := by
  simp only [sessionStep, serveRequest, Logged.result_bind, Logged.result_quiet, Logged.result_look,
    Logged.result_pure, bind_eq_ok, refuseIf_eq_ok, orRefuse_eq_ok, Bool.not_eq_true,
    Except.ok.injEq] at h
  obtain ⟨_, hopen, served, ⟨service, hcheck, result, hresult, _, hsend, -⟩, -⟩ := h
  refine ⟨result, ?_⟩
  have hrefuse : refuseIf (state.isTerminal = true)
      ({ code := .protocolFailure } : GuestWorkerProcessSessionError) = .ok () := by
    rw [refuseIf_eq_ok, hopen]
    decide
  have hanswer : orRefuse (service state.answered request)
      ({ code := .syscallServiceRejected } : GuestWorkerProcessSessionError) = .ok result := by
    rw [hresult]
    rfl
  have hsent : world.sendMessage (2 + state.syscallRequestCount) (.syscallResult result) = .ok () :=
    hsend
  simp only [sessionStep, serveRequest, sendMessage, bind, Logged.andThen, Logged.quiet,
    Logged.look, hrefuse, hcheck, hanswer, hsent, List.nil_append, List.singleton_append, pure,
    List.append_nil]

/-- One turn: the service is asked where it may be, and what can be seen stays in step. -/
theorem eachAfter_sessionStep {message : GuestWorkerWireMessage} {past : List SessionEvent}
    (h : InStep config workerId state past) :
    Logged.EachAfter (Orderly config) (past ++ [.received message])
      (sessionStep config world workerId state message).log ∧
      ∀ next, (sessionStep config world workerId state message).result = .ok (.inl next) →
        InStep config workerId next (past ++ [.received message] ++
          (sessionStep config world workerId state message).log) := by
  constructor
  · cases message with
    | syscallRequest request =>
      refine Logged.eachAfter_bind (eachAfter_quiet _ _) fun _ hopen =>
        Logged.eachAfter_bind ?_ fun _ _ => trivial
      refine Logged.eachAfter_bind (eachAfter_quiet _ _) fun service hcheck => ?_
      refine Logged.eachAfter_bind ⟨?_, trivial⟩ fun result _ => ?_
      · rw [Logged.result_quiet] at hopen hcheck
        show MayInvoke config (past ++ [.received (.syscallRequest request)] ++ [] ++ []) request
        rw [List.append_nil, List.append_nil]
        exact mayInvoke_of_inStep h (by simpa using refuseIf_eq_ok.mp hopen) hcheck
      · exact Logged.eachAfter_bind (eachAfter_look (fun request h => by cases h) _ _) fun _ _ =>
          trivial
    | stop stop => exact Logged.eachAfter_bind (eachAfter_quiet _ _) fun _ _ => trivial
    | fault fault => exact Logged.eachAfter_bind (eachAfter_quiet _ _) fun _ _ => trivial
    | diagnostic diagnostic => exact Logged.eachAfter_bind (eachAfter_quiet _ _) fun _ _ => trivial
    | hello => exact eachAfter_quiet _ _
    | ready => exact eachAfter_quiet _ _
    | runRequest => exact eachAfter_quiet _ _
    | syscallResult => exact eachAfter_quiet _ _
    | terminate => exact eachAfter_quiet _ _
  · intro next hnext
    cases continues_of_sessionStep hnext with
    | fault hopen hsender hthread => exact .inl rfl
    | diagnostic hopen hsender hthread => exact .inl (by simp [SessionLoop.isTerminal])
    | @request request hopen hsound hcount hanswer =>
      obtain ⟨result, hlog⟩ := log_sessionStep_of_request hnext
      obtain ⟨hreceived, hinvoked, hlength, hall, hanswers⟩ :=
        h.resolve_left (by rw [hopen]; decide)
      refine .inr ⟨?_, ?_, ?_, ?_, ?_⟩
      · rw [hlog, received_append, received_append, hreceived, List.map_append]
        simp [received]
      · rw [hlog, invoked_append, invoked_append, hinvoked]
        simp [invoked]
      · rw [List.length_append, hlength]
        rfl
      · exact List.forall_mem_append.mpr ⟨hall, List.forall_mem_singleton.mpr hsound⟩
      · exact serviceAnswers_append.mpr ⟨hanswers, hanswer, trivial⟩

theorem eachAfter_sessionLoop (h : InStep config workerId state past) :
    Logged.EachAfter (Orderly config) past
      (sessionLoop config world workerId incoming state).log := by
  induction incoming generalizing state past with
  | nil => exact eachAfter_quiet _ _
  | cons message incoming ih =>
    rw [sessionLoop]
    refine Logged.eachAfter_bind (eachAfter_look (fun request h => by cases h) _ _) fun _ _ => ?_
    obtain ⟨hturn, hnext⟩ := @eachAfter_sessionStep config world workerId state message past h
    refine Logged.eachAfter_bind hturn fun after hafter => ?_
    cases after with
    | inl next => exact ih (hnext next hafter)
    | inr stop => trivial

end Loop

/-! ### The whole session -/

/-- A world in which the worker is launched, what is sent arrives, and the child exits well. -/
structure SessionWorld.Cooperates (world : SessionWorld) : Prop where
  spawn : ∃ linuxPidfdUsed, world.spawnWorker = .ok linuxPidfdUsed
  send : ∀ index message, world.sendMessage index message = .ok ()
  exit : world.waitForChild = .ok 0

section Session

variable {config : GuestWorkerProcessSessionConfig} {world : SessionWorld}

theorem receiveReady_eq_ok {ready : GuestWorkerReady} {incoming : List GuestWorkerWireMessage} :
    (receiveReady world).result = .ok (ready, incoming) ↔
      world.incoming = .ready ready.protocolVersion ready.workerId :: incoming := by
  unfold receiveReady
  cases hincoming : world.incoming with
  | nil => exact iff_of_false (fun h => by cases h) (fun h => by cases h)
  | cons message rest =>
    cases message with
    | ready protocolVersion workerId =>
      simp only [Logged.result_look, Except.ok.injEq, Prod.mk.injEq, List.cons.injEq,
        GuestWorkerWireMessage.ready.injEq]
      constructor
      · rintro ⟨rfl, rfl⟩
        exact ⟨⟨rfl, rfl⟩, rfl⟩
      · rintro ⟨⟨rfl, rfl⟩, rfl⟩
        exact ⟨rfl, rfl⟩
    | _ => exact iff_of_false (fun h => by cases h) (fun h => by cases h)

variable {ready : GuestWorkerReady}

theorem log_receiveReady {incoming : List GuestWorkerWireMessage}
    (h : (receiveReady world).result = .ok (ready, incoming)) :
    (receiveReady world).log = [.received (.ready ready.protocolVersion ready.workerId)] := by
  rw [receiveReady_eq_ok] at h
  unfold receiveReady
  rw [h]
  rfl

theorem validateGuestWorkerHandshake_eq_ok {valid : Bool}
    (h : validateGuestWorkerHandshake kGuestWorkerProtocolVersion ready = .ok valid) :
    ready.protocolVersion = kGuestWorkerProtocolVersion := by
  simp only [validateGuestWorkerHandshake, bind_eq_ok, refuseIf_eq_ok, not_or, not_not, ne_eq] at h
  obtain ⟨-, ⟨-, hversion, -⟩, -⟩ := h
  exact hversion

theorem received_finishSession {linuxPidfdUsed : Bool} {state : SessionLoop}
    {stop : GuestWorkerStop} :
    received (finishSession world ready linuxPidfdUsed state stop).log = [] := by
  apply received_of_looksIn
  refine (Logged.looksIn_look (fun message h => by cases h) _).bind fun _ _ => ?_
  refine (Logged.looksIn_quiet _).bind fun _ _ => ?_
  exact (Logged.looksIn_quiet _).bind fun _ _ => Logged.looksIn_pure _

/-- A session that succeeds has received a word, and nothing behind it. -/
theorem sessionWord_of_run {result : GuestWorkerProcessSessionResult}
    (h : (runGuestWorkerProcessSession config world).result = .ok result) :
    SessionWord config (received (runGuestWorkerProcessSession config world).log) ∧
      received (runGuestWorkerProcessSession config world).log <+: world.incoming := by
  have hsteps := h
  simp only [runGuestWorkerProcessSession, Logged.result_bind, bind_eq_ok] at hsteps
  obtain ⟨_, hconfig, _, hbudget, linuxPidfdUsed, hspawn, _, hhello, ⟨ready, incoming⟩, hready, _,
    hhandshake, _, hrun, ⟨state, stop⟩, hloop, hfinish⟩ := hsteps
  have hlog : received (runGuestWorkerProcessSession config world).log =
      .ready ready.protocolVersion ready.workerId ::
        received (sessionLoop config world ready.workerId incoming {}).log := by
    rw [runGuestWorkerProcessSession, Logged.log_bind_of_ok hconfig, Logged.log_bind_of_ok hbudget,
      Logged.log_bind_of_ok hspawn, Logged.log_bind_of_ok hhello, Logged.log_bind_of_ok hready]
    dsimp only
    rw [Logged.log_bind_of_ok hhandshake, Logged.log_bind_of_ok hrun, Logged.log_bind_of_ok hloop,
      log_receiveReady hready]
    simp only [received_append, received_finishSession, List.append_nil]
    rfl
  rw [Logged.result_quiet, mapError_eq_ok] at hhandshake
  have hversion := validateGuestWorkerHandshake_eq_ok hhandshake
  obtain ⟨hword, hstart⟩ := loopWord_of_sessionLoop hloop
  obtain ⟨requests, ending, hrequests, hcount, hall, hanswers, hending⟩ :=
    (loopWord_iff rfl rfl (Nat.zero_le _)).mp hword
  rw [hlog]
  constructor
  · refine ⟨ready.workerId, requests, ending, ?_, by dsimp only at hcount; omega, hall, hanswers,
      hending⟩
    rw [hrequests, hversion]
  · rw [receiveReady_eq_ok.mp hready]
    exact (List.prefix_cons_inj _).mpr hstart

/-- A session succeeds on a word, whatever is behind it. -/
theorem run_of_sessionWord (hvalid : configIsValid config = true) (hworld : world.Cooperates)
    {word : List GuestWorkerWireMessage} (hword : SessionWord config word)
    (hstart : word <+: world.incoming) :
    ∃ result, (runGuestWorkerProcessSession config world).result = .ok result := by
  obtain ⟨workerId, requests, ending, rfl, hcount, hall, hanswers, hending⟩ := hword
  obtain ⟨rest, hincoming⟩ := hstart
  obtain ⟨linuxPidfdUsed, hspawn⟩ := hworld.spawn
  have hloopWord : LoopWord config workerId {} (requests.map .syscallRequest ++ ending) :=
    (loopWord_iff rfl rfl (Nat.zero_le _)).mpr ⟨requests, ending, rfl, by dsimp only; omega, hall,
      hanswers, hending⟩
  obtain ⟨⟨state, stop⟩, hloop⟩ := sessionLoop_of_loopWord hworld.send hloopWord rest
  have hready := (@receiveReady_eq_ok world ⟨kGuestWorkerProtocolVersion, workerId⟩
    (requests.map GuestWorkerWireMessage.syscallRequest ++ ending ++ rest)).mpr hincoming.symm
  have hbudget : config.runBudgetMicroseconds ≠ 0 := by
    intro hzero
    rw [configIsValid, hzero] at hvalid
    simp at hvalid
  simp only [runGuestWorkerProcessSession, finishSession, sendMessage, Logged.result_bind,
    Logged.result_quiet, Logged.result_look, Logged.result_pure, bind_eq_ok, refuseIf_eq_ok,
    mapError_eq_ok, hworld.send, hworld.exit]
  refine ⟨_, (), by rw [hvalid]; decide, true, ?_, linuxPidfdUsed, hspawn, (), trivial, _, hready,
    true, ?_, (), trivial, _, hloop, (), trivial, 0, rfl, (), by decide, rfl⟩
  · rw [validateGuestWorkerRunRequest, refuseIf_of_not hbudget]
    rfl
  · rfl

/-- Whatever the world does, the service is asked only where it may be. -/
theorem eachAfter_run (config : GuestWorkerProcessSessionConfig) (world : SessionWorld) :
    Logged.EachAfter (Orderly config) [] (runGuestWorkerProcessSession config world).log := by
  refine Logged.eachAfter_bind (eachAfter_quiet _ _) fun _ _ => ?_
  refine Logged.eachAfter_bind (eachAfter_quiet _ _) fun _ _ => ?_
  refine Logged.eachAfter_bind (eachAfter_quiet _ _) fun linuxPidfdUsed _ => ?_
  refine Logged.eachAfter_bind (eachAfter_look (fun request h => by cases h) _ _) fun _ _ => ?_
  refine Logged.eachAfter_bind ?_ fun received hreceived => ?_
  · unfold receiveReady
    cases world.incoming with
    | nil => exact eachAfter_quiet _ _
    | cons message incoming => exact eachAfter_look (fun request h => by cases h) _ _
  obtain ⟨ready, incoming⟩ := received
  refine Logged.eachAfter_bind (eachAfter_quiet _ _) fun valid hhandshake => ?_
  refine Logged.eachAfter_bind (eachAfter_look (fun request h => by cases h) _ _) fun _ _ => ?_
  refine Logged.eachAfter_bind (eachAfter_sessionLoop (.inr ?_)) fun outcome _ => ?_
  · rw [Logged.result_quiet, mapError_eq_ok] at hhandshake
    rw [log_receiveReady hreceived, validateGuestWorkerHandshake_eq_ok hhandshake]
    exact ⟨rfl, rfl, rfl, by simp, trivial⟩
  · refine Logged.eachAfter_bind (eachAfter_look (fun request h => by cases h) _ _) fun _ _ => ?_
    refine Logged.eachAfter_bind (eachAfter_quiet _ _) fun _ _ => ?_
    exact Logged.eachAfter_bind (eachAfter_quiet _ _) fun _ _ => trivial

/-- **A session takes exactly one language.** With a valid configuration and a world that cooperates
it succeeds if the messages begin with a word, and only then; that word is what it receives, and it
leaves what is behind. In every run, the service is asked only for a request that was just received
behind the `Ready` and the requests it was asked for before, all of them sound, no more than the
limit, and all but the last answered. -/
theorem runGuestWorkerProcessSession_language (config : GuestWorkerProcessSessionConfig)
    (world : SessionWorld) :
    (configIsValid config = true → world.Cooperates →
      ((∃ result, (runGuestWorkerProcessSession config world).result = .ok result) ↔
        ∃ word, word <+: world.incoming ∧ SessionWord config word)) ∧
    (∀ result, (runGuestWorkerProcessSession config world).result = .ok result →
      SessionWord config (received (runGuestWorkerProcessSession config world).log) ∧
        received (runGuestWorkerProcessSession config world).log <+: world.incoming) ∧
    ∀ before request after, (runGuestWorkerProcessSession config world).log =
      before ++ .invoked request :: after →
      MayInvoke config before request := by
  refine ⟨?_, ?_, ?_⟩
  · intro hvalid hworld
    constructor
    · rintro ⟨result, hresult⟩
      obtain ⟨hword, hstart⟩ := sessionWord_of_run hresult
      exact ⟨_, hstart, hword⟩
    · rintro ⟨word, hstart, hword⟩
      exact run_of_sessionWord hvalid hworld hword hstart
  · intro result hresult
    exact sessionWord_of_run hresult
  · intro before request after hlog
    exact (eachAfter_run config world).split hlog

/-! ### An example -/

/-- A session of a worker in `/w`, whose service answers at most one request. -/
def exampleSession : GuestWorkerProcessSessionConfig where
  workerExecutable := [0x2f, 0x77]
  workerArguments := []
  runBudgetMicroseconds := 1
  timeoutMilliseconds := 1
  syscallService :=
    some fun _ request => some ⟨request.requestId, request.workerId, request.threadId, 0, 0⟩
  maxSyscallRequests := 1
  resourcePolicy := none
  linuxArtifactBytes := none

/-- A world that cooperates. -/
def exampleWorld (incoming : List GuestWorkerWireMessage) : SessionWorld where
  incoming := incoming
  receiveError := { code := .unexpectedEof }
  spawnWorker := .ok true
  sendMessage _ _ := .ok ()
  waitForChild := .ok 0

theorem cooperates_exampleWorld (incoming : List GuestWorkerWireMessage) :
    (exampleWorld incoming).Cooperates :=
  ⟨⟨true, rfl⟩, fun _ _ => rfl, rfl⟩

/-- The first request of an example. -/
def exampleRequest : GuestWorkerSyscallRequest :=
  ⟨⟨1⟩, ⟨7⟩, ⟨2⟩, 20, Vector.replicate 6 0, ⟨0x1000⟩⟩

/-- The worker of an example returns. -/
def exampleStop : GuestWorkerStop := ⟨⟨7⟩, ⟨2⟩, .normalGuestReturn, ⟨0x1002⟩⟩

/-- A session with one request; a second one behind the `Stop` is never received. -/
theorem runGuestWorkerProcessSession_language_example :
    (∃ result, (runGuestWorkerProcessSession exampleSession (exampleWorld
        [.ready 1 ⟨7⟩, .syscallRequest exampleRequest, .stop exampleStop,
          .syscallRequest exampleRequest])).result =
      .ok result) ∧
    ∀ before request after, (runGuestWorkerProcessSession exampleSession (exampleWorld
        [.ready 1 ⟨7⟩, .syscallRequest exampleRequest, .stop exampleStop,
          .syscallRequest exampleRequest])).log =
      before ++ .invoked request :: after → MayInvoke exampleSession before request := by
  obtain ⟨hlanguage, -, hinvoked⟩ :=
    runGuestWorkerProcessSession_language exampleSession
    (exampleWorld [.ready 1 ⟨7⟩, .syscallRequest exampleRequest, .stop exampleStop,
    .syscallRequest exampleRequest])
  refine ⟨(hlanguage (by decide) (cooperates_exampleWorld _)).mpr
    ⟨[.ready 1 ⟨7⟩, .syscallRequest exampleRequest, .stop exampleStop],
      ⟨[.syscallRequest exampleRequest], rfl⟩, ?_⟩, hinvoked⟩
  refine ⟨⟨7⟩, [exampleRequest], [.stop exampleStop], rfl, le_rfl, ?_, ⟨⟨_, rfl, rfl⟩, trivial⟩,
    .stop rfl (by decide) (by decide)⟩
  intro request hrequest
  rw [List.mem_singleton.mp hrequest]
  exact ⟨rfl, by decide, by decide, by decide⟩

/-- A `Stop` behind the `Stop`: the session succeeds, but these are not the messages of a session.
-/
theorem runGuestWorkerProcessSession_succeeds_beyond :
    ∃ config world, configIsValid config = true ∧ world.Cooperates ∧
      (∃ result, (runGuestWorkerProcessSession config world).result = .ok result) ∧
      ¬ SessionWord config world.incoming := by
  have hworld := cooperates_exampleWorld [.ready 1 ⟨7⟩, .stop exampleStop, .stop exampleStop]
  refine ⟨exampleSession, exampleWorld [.ready 1 ⟨7⟩, .stop exampleStop, .stop exampleStop], by
    decide, hworld, ?_, ?_⟩
  · have hword : SessionWord exampleSession [.ready 1 ⟨7⟩, .stop exampleStop] :=
      ⟨⟨7⟩, [], [.stop exampleStop], rfl, by decide, by simp, trivial,
        .stop rfl (by decide) (by decide)⟩
    exact run_of_sessionWord (by decide) hworld hword ⟨[.stop exampleStop], rfl⟩
  · rintro ⟨workerId, requests, ending, hword, -, -, -, hending⟩
    cases requests with
    | nil =>
      cases hending with
      | stop => cases hword
      | fault => cases hword
      | diagnostic => cases hword
    | cons request requests => cases hword

end Session

end Astraea.Execution
