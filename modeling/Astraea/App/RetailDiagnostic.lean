import Astraea.Base.Decimal
import Astraea.Execution.GuestWorkerTransport
import Astraea.Execution.RetailDiagnosticPreflight
import Astraea.Execution.SealedArtifact

/-!
# The retail diagnostic

`run_linux_retail_diagnostic` starts the emulator a second time as a worker, which gets the artifact
as a sealed file and looks at it; what it finds comes back over the socket.
`run_linux_retail_diagnostic_worker` is the program of the worker. It is a process here, as the
controller is in `GuestWorkerTransport`, and the two of them are put together.

`retailDiagnostic_all_runs` is about runs in which nothing fails: whatever the order of the calls
and however small the buffers of the socket, both come to their end, and the controller prints what
the preflight says of the artifact. `retailDiagnostic_disturbed` is about runs in which either side
may be killed, run out of time or have any of its calls fail: the controller then prints that, or
nothing.
-/

namespace Astraea.App

open Astraea.Base Astraea.Core Astraea.Execution Astraea.Loader Astraea.Memory

/-- The largest artifact that is read. -/
def kMaxRetailArtifactBytes : ℕ := 1024 * 1024 * 1024

/-- The identifier of the worker. -/
def kWorkerId : GuestWorkerId := ⟨1⟩

/-- The identifier of its thread. -/
def kThreadId : GuestThreadId := ⟨1⟩

/-! ### The lifetime of the worker -/

/-- `std::from_chars` into a `pid_t`, of a whole text: a sign and decimal digits, and a value in
range. -/
def parsePid (text : List UInt8) : Option ℤ :=
  let negative := text.head? == some 45
  let digits := if negative = true then text.tail else text
  if digits.isEmpty || !digits.all (fun byte => decide (48 ≤ byte.toNat ∧ byte.toNat ≤ 57)) then
    none
  else
    let magnitude : ℤ := decimalValue 0 digits
    let value := if negative = true then -magnitude else magnitude
    if -2147483648 ≤ value ∧ value ≤ 2147483647 then some value else none

/-- `bind_worker_lifetime_to_controller`: the text in the environment is the identifier of the
parent, and the worker is to end with it. -/
def bindWorkerLifetimeToController (expectedText : Option (List UInt8)) (bound : Bool)
    (parent : ℤ) : Bool :=
  match expectedText.bind parsePid with
  | none => false
  | some expected =>
    if expected ≤ 1 then false else if bound = false then false else parent == expected

/-- What `spawn_worker` puts into the environment of the worker. -/
def controllerEnvironment (pid : ℕ) : List UInt8 := decimal pid

/-! ### The diagnostic -/

/-- The switch of `diagnostic_from_preflight`: the kind and the details. -/
def diagnosticDetails (preflight : LinuxRetailDiagnosticPreflight) :
    GuestWorkerDiagnosticKind × UInt64 × UInt64 :=
  match preflight.boundary with
  | .loaderRejected =>
    match preflight.loaderError with
    | none => (.loaderRejected, 0, 0)
    | some e => (.loaderRejected, UInt64.ofNat e.code.ctorIdx,
        (e.sourceProgramHeaderIndex.map fun index => UInt64.ofNat index + 1).getD 0)
  | .entryNotExecutable => (.entryNotExecutable, 0, 0)
  | .sceDynamicMetadataRejected =>
    match preflight.sceDynamicMetadataError with
    | none => (.sceDynamicMetadataRejected, 0, 0)
    | some e => (.sceDynamicMetadataRejected, UInt64.ofNat e.code.ctorIdx, e.tag.toUInt64)
  | .unsupportedDynamicDependencies =>
    (.unsupportedDynamicDependencies, preflight.dynamicDependencyCount, 0)
  | .unsupportedRelocations => (.unsupportedRelocations, preflight.relocationCount, 0)
  | .unsupportedTls =>
    match preflight.image.bind GuestImage.tls with
    | none => (.unsupportedTls, 0, 0)
    | some tls => (.unsupportedTls, tls.totalSize.value, tls.alignment)
  | .readyForNativeEntry => (.unsupportedInitialProcessAbi, 0, 0)

/-- `diagnostic_from_preflight`. -/
def diagnosticFromPreflight (preflight : LinuxRetailDiagnosticPreflight) :
    GuestWorkerDiagnostic where
  workerId := kWorkerId
  threadId := kThreadId
  kind := (diagnosticDetails preflight).1
  guestRip := ⟨(preflight.image.map fun image => image.elf.header.entry).getD 0⟩
  detail0 := (diagnosticDetails preflight).2.1
  detail1 := (diagnosticDetails preflight).2.2

/-- `diagnostic_stage`. -/
def diagnosticStage (kind : GuestWorkerDiagnosticKind) : String :=
  if [.loaderRejected, .entryNotExecutable, .sceDynamicMetadataRejected,
    .unsupportedDynamicDependencies, .unsupportedRelocations, .unsupportedTls,
    .unsupportedInitialProcessAbi].contains kind then "pre_entry"
  else if kind = .nativeBackendError then "native_entry"
  else if kind = .unsupportedSyscall then "syscall"
  else "unknown"

/-- `diagnostic_name`. -/
def diagnosticName (kind : GuestWorkerDiagnosticKind) : String :=
  if kind = .loaderRejected then "loader_rejected"
  else if kind = .entryNotExecutable then "entry_not_executable"
  else if kind = .sceDynamicMetadataRejected then "sce_dynamic_metadata_rejected"
  else if kind = .unsupportedDynamicDependencies then "unsupported_dynamic_dependencies"
  else if kind = .unsupportedRelocations then "unsupported_relocations"
  else if kind = .unsupportedTls then "unsupported_tls"
  else if kind = .nativeBackendError then "native_backend_error"
  else if kind = .unsupportedInitialProcessAbi then "unsupported_initial_process_abi"
  else if kind = .unsupportedSyscall then "unsupported_syscall"
  else "unknown"

/-! ### The worker -/

/-- A worker, as a process that exchanges messages. -/
abbrev WorkerProcess := Process GuestWorkerWireMessage WireFailure ControllerResult ChildStatus

/-- The worker ends with this code where an operation fails. -/
def exitWith (code : Int32) : WireFailure → ChildStatus := fun _ => .exited code

/-- The diagnostic is reported, and the worker waits to be terminated. -/
def reportPreflight (diagnostic : GuestWorkerDiagnostic) : WorkerProcess :=
  .send (.diagnostic diagnostic) (exitWith 79) <|
  .send (.stop ⟨kWorkerId, kThreadId, .diagnosticBoundary, diagnostic.guestRip⟩) (exitWith 79) <|
  .receive (exitWith 80) fun
    | .terminate reason =>
      if reason ≠ .unsupportedGuestBehavior then .done (.exited 81) else .done (.exited 0)
    | _ => .done (.exited 81)

/-- The run: a stack is chosen for the artifact, which then is looked at. -/
def runPreflight (host : Host) (artifact : List UInt8) : WorkerProcess :=
  match chooseRetailAnalysisStack artifact .ps5Sce with
  | none => .done (.exited 78)
  | some stack =>
    reportPreflight (diagnosticFromPreflight
      (preflightLinuxRetailDiagnostic host (retailDiagnosticRequest artifact stack)))

/-- `run_linux_retail_diagnostic_worker`, once it is known if the lifetime is bound and what the
artifact is. -/
def runLinuxRetailDiagnosticWorker (host : Host) (lifetimeBound : Bool)
    (artifact : Except LinuxWorkerArtifactError (List UInt8)) : WorkerProcess :=
  if lifetimeBound = false then .done (.exited 71)
  else match artifact with
  | .error _ => .done (.exited 72)
  | .ok artifact =>
    .receive (exitWith 73) fun
      | .hello protocolVersion =>
        if protocolVersion ≠ kGuestWorkerProtocolVersion then .done (.exited 74)
        else
          .send (.ready kGuestWorkerProtocolVersion kWorkerId) (exitWith 75) <|
          .receive (exitWith 76) fun
            | .runRequest budgetMicroseconds =>
              match validateGuestWorkerRunRequest budgetMicroseconds with
              | .error _ => .done (.exited 77)
              | .ok _ => runPreflight host artifact
            | _ => .done (.exited 77)
      | _ => .done (.exited 74)

/-! ### The controller -/

/-- The session of `run_linux_retail_diagnostic`. -/
def retailDiagnosticConfig (executable artifact : List UInt8) :
    GuestWorkerProcessSessionConfig where
  workerExecutable := executable
  workerArguments := ["--linux-retail-diagnostic-worker".toList.map fun c => UInt8.ofNat c.toNat]
  runBudgetMicroseconds := 1000000
  timeoutMilliseconds := 15000
  syscallService := none
  maxSyscallRequests := 0
  resourcePolicy := some ⟨some 8589934592, some 10, some 32⟩
  linuxArtifactBytes := some artifact

/-- What is printed; numbers are not formatted. -/
inductive RetailDiagnosticReport where
  | diagnostic (boundary stage : String) (guestRip detail0 detail1 : UInt64)
  | fault (guestRip : UInt64) (kind : UInt32) (faultAddress : UInt64)
  deriving DecidableEq

/-- The end of `run_linux_retail_diagnostic`: its exit code and what it prints. -/
def reportRetailDiagnostic : ControllerResult → Int32 × Option RetailDiagnosticReport
  | .error _ => (5, none)
  | .ok session =>
    match session.terminalDiagnostic, session.terminalFault with
    | some diagnostic, _ =>
      (0, some (.diagnostic (diagnosticName diagnostic.kind)
        (diagnosticStage diagnostic.kind) diagnostic.guestRip.value diagnostic.detail0
        diagnostic.detail1))
    | none, some fault =>
      (0, some (.fault fault.guestRip.value fault.kind.raw fault.faultAddress.value))
    | none, none => (6, none)

/-- What the retail diagnostic says of an artifact: the boundary the preflight finds, if there is a
stack for it. -/
def retailDiagnosticOutcome (host : Host) (artifact : List UInt8) :
    Int32 × Option RetailDiagnosticReport :=
  match chooseRetailAnalysisStack artifact .ps5Sce with
  | none => (5, none)
  | some stack =>
    let diagnostic :=
      diagnosticFromPreflight
        (preflightLinuxRetailDiagnostic host (retailDiagnosticRequest artifact stack))
    (0, some (.diagnostic (diagnosticName diagnostic.kind)
      (diagnosticStage diagnostic.kind) diagnostic.guestRip.value diagnostic.detail0
      diagnostic.detail1))

/-! ### The start -/

theorem parsePid_decimal {pid : ℕ} (h : pid < 2 ^ 31) :
    parsePid (decimal pid) = some (pid : ℤ) := by
  have hdigits : ∀ byte ∈ decimal pid, 48 ≤ byte.toNat ∧ byte.toNat ≤ 57 := fun byte hbyte =>
    isDigitByte_of_mem_decimal hbyte
  have hsign : ((decimal pid).head? == some 45) = false := by
    rw [beq_eq_false_iff_ne]
    intro hhead
    have hminus := hdigits 45 (List.mem_of_head? hhead)
    exact absurd hminus.1 (by decide)
  have hall : (decimal pid).all (fun byte => decide (48 ≤ byte.toNat ∧ byte.toNat ≤ 57)) =
      true := by
    rw [List.all_eq_true]
    exact fun byte hbyte => decide_eq_true (hdigits byte hbyte)
  have hsome : (decimal pid).isEmpty = false := by
    rw [List.isEmpty_eq_false_iff]
    exact decimal_ne_nil pid
  unfold parsePid
  simp only [hsign, hall, hsome, decimalValue_decimal, Bool.false_eq_true, if_false, Bool.not_true,
    Bool.or_false]
  rw [if_pos ⟨by omega, by omega⟩]

theorem bindWorkerLifetimeToController_controllerEnvironment {pid : ℕ} (hinit : 1 < pid)
    (h : pid < 2 ^ 31) :
    bindWorkerLifetimeToController (some (controllerEnvironment pid)) true pid = true := by
  rw [bindWorkerLifetimeToController, controllerEnvironment, Option.bind_some, parsePid_decimal h]
  dsimp only
  rw [if_neg (by omega), if_neg (by decide), beq_self_eq_true]

theorem configIsValid_retailDiagnosticConfig {executable artifact : List UInt8}
    (habsolute : isAbsolutePath executable = true) (hnul : Execution.containsNul executable = false)
    (hne : artifact ≠ []) :
    configIsValid (retailDiagnosticConfig executable artifact) = true := by
  have hexecutable : executable.isEmpty = false := by
    cases executable with
    | nil => exact absurd habsolute (by decide)
    | cons => rfl
  have hartifact : artifact.isEmpty = false := List.isEmpty_eq_false_iff.mpr hne
  simp only [configIsValid, retailDiagnosticConfig, hexecutable, hnul, habsolute, hartifact,
    Option.any_some]
  rfl

/-! ### The hand-shakes -/

/-- The kind of a diagnostic is one of those that stop before the entry. -/
theorem kind_diagnosticFromPreflight (preflight : LinuxRetailDiagnosticPreflight) :
    validDiagnosticKind (diagnosticFromPreflight preflight).kind = true := by
  rw [diagnosticFromPreflight, diagnosticDetails]
  cases preflight.boundary with
  | loaderRejected => cases preflight.loaderError <;> rfl
  | sceDynamicMetadataRejected => cases preflight.sceDynamicMetadataError <;> rfl
  | unsupportedTls => cases preflight.image.bind GuestImage.tls <;> rfl
  | _ => rfl

section Run

variable {host : Host} {executable artifact : List UInt8} {linuxPidfdUsed : Bool}

/-- What the session of a retail diagnostic comes to. -/
def retailDiagnosticSession (diagnostic : GuestWorkerDiagnostic) (linuxPidfdUsed : Bool) :
    GuestWorkerProcessSessionResult where
  ready := ⟨kGuestWorkerProtocolVersion, kWorkerId⟩
  stop := ⟨kWorkerId, kThreadId, .diagnosticBoundary, diagnostic.guestRip⟩
  childExitCode := 0
  syscallRequestCount := 0
  terminalFault := none
  terminalDiagnostic := some diagnostic
  linuxPidfdUsed := linuxPidfdUsed

/-- The results of the controller and of the worker where nothing fails. -/
def retailDiagnosticResults (host : Host) (artifact : List UInt8) (linuxPidfdUsed : Bool) :
    ControllerResult × ChildStatus :=
  match chooseRetailAnalysisStack artifact .ps5Sce with
  | none => (.error { code := .unexpectedEof }, .exited 78)
  | some stack =>
    (.ok (retailDiagnosticSession
      (diagnosticFromPreflight
        (preflightLinuxRetailDiagnostic host (retailDiagnosticRequest artifact stack)))
      linuxPidfdUsed), .exited 0)

theorem report_retailDiagnosticResults (host : Host) (artifact : List UInt8)
    (linuxPidfdUsed : Bool) :
    reportRetailDiagnostic (retailDiagnosticResults host artifact linuxPidfdUsed).1 =
      retailDiagnosticOutcome host artifact := by
  rw [retailDiagnosticResults, retailDiagnosticOutcome]
  cases chooseRetailAnalysisStack artifact .ps5Sce <;> rfl

/-- A diagnostic is reported to the loop, which ends the session. -/
theorem rendezvous_reportPreflight {config : GuestWorkerProcessSessionConfig}
    {diagnostic : GuestWorkerDiagnostic} (hkind : validDiagnosticKind diagnostic.kind = true)
    (hworker : diagnostic.workerId = kWorkerId) (hthread : diagnostic.threadId = kThreadId)
    (turns : ℕ) :
    Rendezvous (fun message => validMessage message = true)
      (loopProcess config ⟨kGuestWorkerProtocolVersion, kWorkerId⟩ linuxPidfdUsed (turns + 2) {})
        (reportPreflight diagnostic)
      (.ok (retailDiagnosticSession diagnostic linuxPidfdUsed)) (.exited 0) := by
  have hterminal : checkTerminal kWorkerId {} diagnostic.workerId diagnostic.threadId = .ok () :=
    checkTerminal_eq_ok.mpr ⟨rfl, hworker, by rw [hthread]; decide⟩
  have hstop : checkStop kWorkerId { terminalDiagnostic := some diagnostic }
      ⟨kWorkerId, kThreadId, .diagnosticBoundary, diagnostic.guestRip⟩ = .ok () :=
    (checkStop_of_diagnostic rfl rfl).mpr ⟨rfl, rfl, hthread.symm, rfl⟩
  rw [loopProcess, reportPreflight]
  refine .toLeft hkind ?_
  dsimp only
  rw [hterminal, check, loopProcess]
  refine .toLeft rfl ?_
  dsimp only
  rw [hstop, check, finishProcess]
  exact .toRight rfl (.leftWaits .done)

/-- The worker and its controller shake hands over each message. -/
theorem rendezvous_retailDiagnostic (host : Host) (executable artifact : List UInt8)
    (linuxPidfdUsed : Bool) :
    Rendezvous (fun message => validMessage message = true)
      (controllerProcess (retailDiagnosticConfig executable artifact) linuxPidfdUsed)
      (runLinuxRetailDiagnosticWorker host true (.ok artifact))
        (retailDiagnosticResults host artifact linuxPidfdUsed).1
      (retailDiagnosticResults host artifact linuxPidfdUsed).2 := by
  refine .toRight rfl (.toLeft rfl (.toRight rfl ?_))
  show Rendezvous _ (loopProcess _ _ linuxPidfdUsed 2 {}) (runPreflight host artifact) _ _
  rw [runPreflight, retailDiagnosticResults]
  cases chooseRetailAnalysisStack artifact .ps5Sce with
  | none => exact .rightEnds
  | some stack => exact rendezvous_reportPreflight (kind_diagnosticFromPreflight _) rfl rfl 0

/-! ### Failures -/

/-- A controller that fails has an error to tell of. -/
def ControllerFailed (result : ControllerResult) : Prop := ∃ e, result = .error e

/-- A worker that fails is killed, or exits with a code that is not zero. -/
def WorkerFailed (status : ChildStatus) : Prop := status ≠ .exited 0

theorem failsIn_check {α : Type} {x : Except GuestWorkerProcessSessionError α}
    {next : α → ControllerProcess} (h : ∀ a, (next a).FailsIn ControllerFailed WorkerFailed) :
    (check x next).FailsIn ControllerFailed WorkerFailed := by
  cases x with
  | error e => trivial
  | ok a => exact h a

theorem failsIn_finishProcess (ready : GuestWorkerReady) (linuxPidfdUsed : Bool)
    (state : SessionLoop) (stop : GuestWorkerStop) :
    (finishProcess ready linuxPidfdUsed state stop).FailsIn ControllerFailed WorkerFailed := by
  refine ⟨fun failure => ⟨_, rfl⟩, fun failure => ⟨_, rfl⟩, fun status => ⟨?_, fun hfailed => ?_⟩⟩
  · exact failsIn_check fun childExitCode => failsIn_check fun _ => trivial
  · cases status with
    | signaled signal => exact ⟨_, rfl, _, rfl⟩
    | exited code =>
      have hcode : code ≠ 0 := fun hzero => hfailed (by rw [hzero])
      refine ⟨_, ?_, { code := .childExitFailure, platformError := code.toInt64 }, rfl⟩
      show check (refuseIf (code ≠ 0) _) _ = _
      rw [refuseIf, if_pos hcode, check]

theorem failsIn_loopProcess (config : GuestWorkerProcessSessionConfig) (ready : GuestWorkerReady)
    (linuxPidfdUsed : Bool) (turns : ℕ) (state : SessionLoop) :
    (loopProcess config ready linuxPidfdUsed turns state).FailsIn ControllerFailed
      WorkerFailed := by
  induction turns generalizing state with
  | zero => trivial
  | succ turns ih =>
    refine ⟨fun failure => ⟨_, rfl⟩, fun message => ?_⟩
    cases message with
    | stop stop =>
      exact failsIn_check fun _ => failsIn_finishProcess ready linuxPidfdUsed state stop
    | fault fault => exact failsIn_check fun _ => ih _
    | diagnostic diagnostic => exact failsIn_check fun _ => ih _
    | syscallRequest request =>
      exact failsIn_check fun _ => failsIn_check fun service => failsIn_check fun result =>
        ⟨fun failure => ⟨_, rfl⟩, ih _⟩
    | _ => trivial

theorem failsIn_controllerProcess (config : GuestWorkerProcessSessionConfig)
    (linuxPidfdUsed : Bool) :
    (controllerProcess config linuxPidfdUsed).FailsIn ControllerFailed WorkerFailed := by
  refine ⟨fun failure => ⟨_, rfl⟩, fun failure => ⟨_, rfl⟩, fun message => ?_⟩
  cases message with
  | ready protocolVersion workerId =>
    exact failsIn_check fun _ =>
      ⟨fun failure => ⟨_, rfl⟩, failsIn_loopProcess config _ linuxPidfdUsed _ _⟩
  | _ => trivial

theorem workerFailed_exitWith {code : Int32} (h : code ≠ 0) (failure : WireFailure) :
    WorkerFailed (exitWith code failure) := by
  intro hzero
  rw [exitWith, ChildStatus.exited.injEq] at hzero
  exact h hzero

theorem failsIn_runPreflight (host : Host) (artifact : List UInt8) :
    (runPreflight host artifact).FailsIn WorkerFailed ControllerFailed := by
  rw [runPreflight]
  cases chooseRetailAnalysisStack artifact .ps5Sce with
  | none => trivial
  | some stack =>
    refine ⟨workerFailed_exitWith (by decide), workerFailed_exitWith (by decide),
      workerFailed_exitWith (by decide), ?_⟩
    intro message
    cases message with
    | terminate reason =>
      dsimp only
      split_ifs <;> trivial
    | _ => trivial

theorem failsIn_runLinuxRetailDiagnosticWorker (host : Host) (lifetimeBound : Bool)
    (artifact : Except LinuxWorkerArtifactError (List UInt8)) :
    (runLinuxRetailDiagnosticWorker host lifetimeBound artifact).FailsIn WorkerFailed
      ControllerFailed := by
  unfold runLinuxRetailDiagnosticWorker
  split_ifs
  · trivial
  · cases artifact with
    | error e => trivial
    | ok artifact =>
      refine ⟨workerFailed_exitWith (by decide), fun message => ?_⟩
      cases message with
      | hello protocolVersion =>
        dsimp only
        split_ifs
        · trivial
        · refine ⟨workerFailed_exitWith (by decide), workerFailed_exitWith (by decide),
            fun message => ?_⟩
          cases message with
          | runRequest budgetMicroseconds =>
            dsimp only
            cases validateGuestWorkerRunRequest budgetMicroseconds with
            | error e => trivial
            | ok valid => exact failsIn_runPreflight host artifact
          | _ => trivial
      | _ => trivial

/-! ### Over the socket -/

/-- The worker on its socket. -/
def retailDiagnosticWorkerProgram (host : Host) (lifetimeBound : Bool)
    (artifact : Except LinuxWorkerArtifactError (List UInt8)) : WorkerProgram :=
  (runLinuxRetailDiagnosticWorker host lifetimeBound artifact).framed guestWorkerFraming

variable {kernel : PrepareKernel} {reader : ReadKernel} {file : MemFile}

/-- **Where nothing fails, the controller prints what the preflight says of the artifact.** The
artifact was written and sealed in however many calls, and read by the worker in however many,
whatever anybody did to the file meanwhile; the calls of both on the socket come in any order and
move some of the bytes each. Then there is a bound on the number of calls, there is a next one until
both are done, and nothing is left in the socket. -/
theorem retailDiagnostic_all_runs (host : Host) (habsolute : isAbsolutePath executable = true)
    (hnul : Execution.containsNul executable = false)
    (hprepared : prepareLinuxArtifact kernel artifact = some (.ok file))
    (others : ℕ → List MemFileOperation) (hlimit : artifact.length ≤ kMaxRetailArtifactBytes)
    (hserves : reader.Serves artifact.length) {pid : ℕ} (hinit : 1 < pid) (hpid : pid < 2 ^ 31)
    (linuxPidfdUsed : Bool) :
    configIsValid (retailDiagnosticConfig executable artifact) = true ∧
    ∃ read, readLinuxSealedWorkerArtifact reader kMaxRetailArtifactBytes (file.atCall others) =
      some read ∧
    ∃ bound, ∀ capacity, HasRoom capacity ([] : List UInt8) → ∀ n connection,
      RunsIn (Connection.Call capacity) n
          (Connection.start
            (controllerProgram (retailDiagnosticConfig executable artifact) linuxPidfdUsed)
            (retailDiagnosticWorkerProgram host
            (bindWorkerLifetimeToController (some (controllerEnvironment pid)) true pid) read))
            connection →
        n ≤ bound ∧ ((∃ next, Connection.Call capacity connection next) ∨
          ∃ result status, connection.left.result? = some result ∧
            connection.right.result? = some status ∧
            connection.toLeft = [] ∧ connection.toRight = [] ∧
            reportRetailDiagnostic result = retailDiagnosticOutcome host artifact) := by
  obtain ⟨hbytes, himmutable, hne⟩ := of_prepareLinuxArtifact hprepared
  subst hbytes
  refine ⟨configIsValid_retailDiagnosticConfig habsolute hnul hne, .ok file.bytes, ?_, ?_⟩
  · rw [himmutable.atCall]
    exact readLinuxSealedWorkerArtifact_of_serves himmutable hne hlimit hserves
  have hshakes := (rendezvous_retailDiagnostic host executable file.bytes linuxPidfdUsed).framed
    lawful_guestWorkerFraming
    fun _ => exists_frame
  obtain ⟨bound, hbound⟩ := Connection.all_calls hshakes
  refine ⟨bound, fun capacity hroom n connection hrun => ?_⟩
  rw [bindWorkerLifetimeToController_controllerEnvironment hinit hpid] at hrun
  obtain ⟨hle, hnext | ⟨hleft, hright, htoLeft, htoRight⟩⟩ :=
    hbound capacity hroom n connection hrun
  · exact ⟨hle, .inl hnext⟩
  · exact ⟨hle, .inr ⟨_, _, hleft, hright, htoLeft, htoRight,
      report_retailDiagnosticResults host file.bytes linuxPidfdUsed⟩⟩

/-- The system writes a file with a dependency in two calls, with an interruption between them. -/
theorem prepareLinuxArtifact_closureElf :
    prepareLinuxArtifact ⟨.ok (), .ok (), [.moved 100, .failed 4, .moved 1000], .ok (), .ok ()⟩
        (closureElf neededTag) = some (.ok ⟨closureElf neededTag, kRequiredSeals⟩) := by
  decide +kernel

theorem serves_closureElf :
    ReadKernel.Serves ⟨.ok (), .ok (), .ok true, [.moved 400, .failed 4, .moved 400], .ok ()⟩
      (closureElf neededTag).length := by
  have hlength : (closureElf neededTag).length = 408 := by decide +kernel
  rw [hlength]
  exact ⟨rfl, rfl, rfl, by simp [Suffice, kEintr], rfl⟩

theorem retailDiagnosticOutcome_closureElf :
    retailDiagnosticOutcome .plentiful (closureElf neededTag) =
      (0, some (.diagnostic "unsupported_dynamic_dependencies" "pre_entry" 0x1000 1 0)) := by
  have hstack : chooseRetailAnalysisStack (closureElf neededTag) .ps5Sce =
      some (candidateStack 0) := by
    rw [chooseRetailAnalysisStack_eq]
    decide +kernel
  rw [retailDiagnosticOutcome, hstack]
  decide +kernel

/-- A file with a dependency, which somebody tries to cut while it is read. Over a socket for one
byte there is a run to the end, and it has the controller report the dependency. -/
theorem retailDiagnostic_all_runs_example :
    ∃ read n connection result,
      readLinuxSealedWorkerArtifact
        ⟨.ok (), .ok (), .ok true, [.moved 400, .failed 4, .moved 400], .ok ()⟩
          kMaxRetailArtifactBytes
        (MemFile.atCall ⟨closureElf neededTag, kRequiredSeals⟩ fun _ => [.truncate 1]) = some read ∧
      RunsIn (Connection.Call (some 1)) n
        (Connection.start
          (controllerProgram (retailDiagnosticConfig [0x2f] (closureElf neededTag)) true)
          (retailDiagnosticWorkerProgram .plentiful
          (bindWorkerLifetimeToController (some (controllerEnvironment 77)) true 77) read))
          connection ∧
      connection.left.result? = some result ∧ connection.toLeft = [] ∧ connection.toRight = [] ∧
      reportRetailDiagnostic result =
        (0, some (.diagnostic "unsupported_dynamic_dependencies" "pre_entry" 0x1000 1 0)) := by
  have habsolute : isAbsolutePath [0x2f] = true := by decide
  have hlimit : (closureElf neededTag).length ≤ kMaxRetailArtifactBytes := by decide +kernel
  obtain ⟨-, read, hread, bound, hbound⟩ :=
    retailDiagnostic_all_runs .plentiful habsolute (by decide) prepareLinuxArtifact_closureElf
      (fun _ => [.truncate 1]) hlimit serves_closureElf (show 1 < 77 by decide) (by decide) true
  have hroom : HasRoom (some 1) ([] : List UInt8) := HasRoom.empty Nat.one_pos
  obtain ⟨n, connection, hrun, hfinal⟩ :=
    RunsIn.exists_final fun n connection hrun => (hbound (some 1) hroom n connection hrun).1
  obtain ⟨-, ⟨next, hcall⟩ | ⟨result, status, hleft, -, htoLeft, htoRight, hreport⟩⟩ :=
    hbound (some 1) hroom n connection hrun
  · exact absurd hcall (hfinal next)
  · rw [retailDiagnosticOutcome_closureElf] at hreport
    exact ⟨read, n, connection, result, hread, hrun, hleft, htoLeft, htoRight, hreport⟩

/-- A worker that is not bound, or has no artifact, is done at once, as one that is killed. -/
theorem retailDiagnosticWorkerProgram_eq (host : Host) (lifetimeBound : Bool)
    (read : Except LinuxWorkerArtifactError (List UInt8)) :
    (∃ artifact, lifetimeBound = true ∧ read = .ok artifact) ∨
      ∃ status, WorkerFailed status ∧
        retailDiagnosticWorkerProgram host lifetimeBound read = .done status := by
  cases lifetimeBound with
  | false => exact .inr ⟨.exited 71, by simp [WorkerFailed], rfl⟩
  | true =>
    cases read with
    | error e => exact .inr ⟨.exited 72, by simp [WorkerFailed], rfl⟩
    | ok artifact => exact .inl ⟨artifact, rfl, rfl⟩

/-- A worker with an artifact first reads the header of a frame. -/
theorem skip_retailDiagnosticWorkerProgram (host : Host) (artifact : List UInt8) :
    ∃ readFailed next, (retailDiagnosticWorkerProgram host true (.ok artifact)).skip =
      .read kGuestWorkerWireHeaderSize readFailed next := by
  rw [retailDiagnosticWorkerProgram, runLinuxRetailDiagnosticWorker, if_neg (by decide),
    Process.framed]
  exact ⟨_, _, rfl⟩

theorem result?_retailDiagnosticWorkerProgram (host : Host) (artifact : List UInt8) :
    (retailDiagnosticWorkerProgram host true (.ok artifact)).result? = none := by
  rw [retailDiagnosticWorkerProgram, runLinuxRetailDiagnosticWorker, if_neg (by decide),
    Process.framed, Program.result?, Program.bytes]
  rfl

/-- **Whatever fails, the controller prints nothing else.** The worker may be killed at any time,
may find another controller, may fail to read its artifact; any call of either side may fail or run
out of time. A controller that comes to its end then prints what the preflight says of the artifact,
or exits with the code for a failed session. -/
theorem retailDiagnostic_disturbed (host : Host)
    (hprepared : prepareLinuxArtifact kernel artifact = some (.ok file))
    (others : ℕ → List MemFileOperation) {read : Except LinuxWorkerArtifactError (List UInt8)}
    (hread : readLinuxSealedWorkerArtifact reader kMaxRetailArtifactBytes (file.atCall others) =
      some read) (lifetimeBound linuxPidfdUsed : Bool) {capacity : Option ℕ} {n : ℕ}
    {connection : Connection UInt8 IoFailure ControllerResult ChildStatus}
    (hrun : RunsIn (Connection.Disturbed (fun _ => ControllerFailed)
      (fun _ => WorkerFailed) capacity) n
      (Connection.start (controllerProgram (retailDiagnosticConfig executable artifact)
      linuxPidfdUsed) (retailDiagnosticWorkerProgram host lifetimeBound read)) connection)
    {result : ControllerResult} (hdone : connection.left.result? = some result) :
    reportRetailDiagnostic result = (5, none) ∨ reportRetailDiagnostic result =
      retailDiagnosticOutcome host artifact := by
  -- a worker that is done at once has met its fate
  obtain ⟨m, hm⟩ : ∃ m, RunsIn
    (Connection.Disturbed (fun _ => ControllerFailed) (fun _ => WorkerFailed) capacity) m
      (Connection.start (controllerProgram (retailDiagnosticConfig executable artifact)
        linuxPidfdUsed) (retailDiagnosticWorkerProgram host true (.ok artifact))) connection := by
    rcases retailDiagnosticWorkerProgram_eq host lifetimeBound read
      with ⟨_, rfl, rfl⟩ | ⟨status, hfailed, hprogram⟩
    · obtain ⟨rfl, himmutable, -⟩ := of_prepareLinuxArtifact hprepared
      rw [himmutable.atCall] at hread
      rw [readLinuxSealedWorkerArtifact_eq_ok hread] at hrun
      exact ⟨n, hrun⟩
    · rw [hprogram] at hrun
      exact ⟨n + 1, .head (.right (result?_retailDiagnosticWorkerProgram host artifact) hfailed)
        hrun⟩
  have hshakes := (rendezvous_retailDiagnostic host executable artifact linuxPidfdUsed).framed
    lawful_guestWorkerFraming
    fun _ => exists_frame
  obtain ⟨hresult, -⟩ :=
    Connection.disturbed_calls hshakes (failsIn_controllerProcess _ linuxPidfdUsed).framed
    (failsIn_runLinuxRetailDiagnosticWorker host true (.ok artifact)).framed (fun _ _ => id)
      (fun _ _ => id) hm
  rcases hresult result hdone with ⟨e, rfl⟩ | rfl
  · exact .inl rfl
  · exact .inr (report_retailDiagnosticResults host artifact linuxPidfdUsed)

/-- The first bytes of the greeting are written and read; the worker is killed, more bytes are
written, and then the controller's call fails, as there is nobody to read. -/
theorem retailDiagnostic_disturbed_example :
    let calls :=
      RunsIn (Connection.Disturbed (fun _ => ControllerFailed) (fun _ => WorkerFailed) (some 8)) 5
      (Connection.start (controllerProgram (retailDiagnosticConfig [0x2f] (closureElf neededTag))
        true) (retailDiagnosticWorkerProgram .plentiful true (.ok (closureElf neededTag))))
    let failed : ControllerResult := .error { code := .ioFailure, platformError := 32 }
    ∃ connection, calls connection ∧ connection.left.result? = some failed ∧
      connection.right.result? = some (.signaled 9) ∧ connection.toRight.length = 3 ∧
      (reportRetailDiagnostic failed = (5, none) ∨
        reportRetailDiagnostic failed =
          retailDiagnosticOutcome .plentiful (closureElf neededTag)) := by
  intro calls failed
  have hread : readLinuxSealedWorkerArtifact
      ⟨.ok (), .ok (), .ok true, [.moved 400, .failed 4, .moved 400], .ok ()⟩
        kMaxRetailArtifactBytes
      (MemFile.atCall ⟨closureElf neededTag, kRequiredSeals⟩ fun _ => []) =
        some (.ok (closureElf neededTag)) :=
    (sealedArtifact_handOff prepareLinuxArtifact_closureElf _).2
      (by decide +kernel) serves_closureElf
  have hroom : ∀ {used : ℕ}, used ≤ 8 → ∀ n ∈ some 8, used ≤ n := by
    rintro used hused n ⟨⟩
    exact hused
  -- the frame of the greeting is the first block of the controller, and its header that of the
  -- worker
  obtain ⟨writeFailed, next, hwrite⟩ : ∃ writeFailed next,
      (controllerProgram (retailDiagnosticConfig [0x2f] (closureElf neededTag)) true).skip =
        .write ([0x41, 0x53, 0x54, 0x52] ++ [1, 0, 1, 0, 4, 0, 0, 0, 1, 0, 0, 0]) writeFailed
          next :=
    ⟨_, _, rfl⟩
  obtain ⟨readFailed, next', hheader⟩ :=
    skip_retailDiagnosticWorkerProgram .plentiful (closureElf neededTag)
  have hfirst : Program.Act (some 8)
      (retailDiagnosticWorkerProgram .plentiful true (.ok (closureElf neededTag))).result?
      (controllerProgram (retailDiagnosticConfig [0x2f] (closureElf neededTag)) true) [] []
      (.write [1, 0, 1, 0, 4, 0, 0, 0, 1, 0, 0, 0] writeFailed next) [] [0x41, 0x53, 0x54, 0x52] :=
    .write hwrite (by simp) (hroom (by decide))
  have hreads : Program.Act (some 8) none
      (retailDiagnosticWorkerProgram .plentiful true (.ok (closureElf neededTag)))
      ([0x41, 0x53, 0x54] ++ [0x52]) []
      (.read 9 readFailed fun block => next' ([0x41, 0x53, 0x54] ++ block)) [0x52] [] :=
    .read hheader (by simp)
  have hsecond : Program.Act (some 8) (some (.signaled 9))
      (.write ([1, 0] ++ [1, 0, 4, 0, 0, 0, 1, 0, 0, 0]) writeFailed next) [] [0x52]
      (.write [1, 0, 4, 0, 0, 0, 1, 0, 0, 0] writeFailed next) [] ([0x52] ++ [1, 0]) :=
    .write rfl (by simp) (hroom (by decide))
  have hkilled : WorkerFailed (.signaled 9) := by simp [WorkerFailed]
  have hrun : calls ⟨.done failed, .done (.signaled 9), [], [0x52, 1, 0]⟩ :=
    .head (.call (.left hfirst)) <| .head (.call (.right hreads)) <| .head (.right rfl hkilled) <|
      .head (.call (.left hsecond)) <| .single (.left rfl ⟨_, rfl⟩)
  exact ⟨_, hrun, rfl, rfl, rfl,
    retailDiagnostic_disturbed .plentiful prepareLinuxArtifact_closureElf _ hread true true hrun
      rfl⟩

end Run

end Astraea.App
