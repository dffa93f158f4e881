import Astraea.Base.Transport
import Astraea.Execution.GuestWorkerSession

/-!
# The session over the socket

`GuestWorkerSession` takes the messages as given. Here is how they come: `send_message` and
`receive_message` write and read frames on a stream socket, in `write_all` and `read_exact`, loops
over `send` and `recv` that move some of the bytes at a time and end with the deadline, the end of
file or a failure; `wait_for_child` waits for the end of the worker.

`controllerProcess` is the controller as a process, from the launch of the worker on, and
`resultIn_controllerProcess` says that it is the session. `runGuestWorkerProcessSession_over_bytes`
is about the program for the socket: whatever the worker writes, however the bytes are cut, and
whatever fails when, its result is that of a session with the messages the bytes begin with.
-/

namespace Astraea.Execution

open Astraea.Base Astraea.Memory

/-! ### Failures -/

/-- The `IoStatus` of an operation that is not `ok`, with its `platform_error`. -/
inductive IoFailure where
  | timeout
  | endOfFile
  | failure (platformError : Int64)
  deriving DecidableEq

instance : ChannelFailure IoFailure := ⟨.endOfFile⟩

/-- How a child ends, as `waitpid` tells it. -/
inductive ChildStatus where
  | exited (code : Int32)
  | signaled (signal : Int64)
  deriving DecidableEq

/-- What can fail in the transport of a message. -/
abbrev WireFailure := TransportFailure IoFailure GuestWorkerWireError

/-- The error of `send_message`. -/
def sendError : WireFailure → GuestWorkerProcessSessionError
  | .io .timeout => { code := .timeout }
  | .io .endOfFile => { code := .ioFailure }
  | .io (.failure platformError) => { code := .ioFailure, platformError := platformError }
  | .wire e => { code := .wireFailure, wireError := some e }

/-- The error of `receive_message`. -/
def receiveError : WireFailure → GuestWorkerProcessSessionError
  | .io .timeout => { code := .timeout }
  | .io .endOfFile => { code := .unexpectedEof }
  | .io (.failure platformError) => { code := .ioFailure, platformError := platformError }
  | .wire e => { code := .wireFailure, wireError := some e }

/-- The error of `wait_for_child` where it does not see the child exit. -/
def waitError : WireFailure → GuestWorkerProcessSessionError
  | .io .timeout => { code := .timeout }
  | .io (.failure platformError) => { code := .childExitFailure, platformError := platformError }
  | .io .endOfFile | .wire _ => { code := .childExitFailure }

/-- The exit code, of a child that exited. -/
def exitCode : ChildStatus → Except GuestWorkerProcessSessionError Int32
  | .exited code => .ok code
  | .signaled signal => .error { code := .childExitFailure, platformError := -signal }

/-- The frames of the worker messages. -/
def guestWorkerFraming : Framing GuestWorkerWireMessage GuestWorkerWireError UInt8 where
  encode := encodeGuestWorkerWireMessage
  headerSize := kGuestWorkerWireHeaderSize
  bodySize header := (decodeGuestWorkerWireHeader header).map GuestWorkerWireHeader.payloadSize
  decode := decodeGuestWorkerWireMessage

theorem lawful_guestWorkerFraming : guestWorkerFraming.Lawful where
  headerSize_ne_zero := by decide
  decode_eq_ok frame message :=
    decodeGuestWorkerWireMessage_eq_ok.trans encodeGuestWorkerWireMessage_eq_ok.symm
  header frame message h := by
    obtain ⟨-, rfl⟩ := encodeGuestWorkerWireMessage_eq_ok.mp h
    have hheader : decodeGuestWorkerWireHeader (wordsBytes (headerWords (kindOf message))) =
        .ok (headerOf (kindOf message)) :=
      decodeGuestWorkerWireHeader_eq_ok.mpr ⟨_, rfl, rfl⟩
    refine ⟨_, _, rfl, length_headerBytes _, ?_⟩
    rw [length_wordsBytes, sum_payloadWords]
    simp only [guestWorkerFraming, hheader]
    rfl

/-! ### The controller -/

/-- The result of a controller. -/
abbrev ControllerResult := Except GuestWorkerProcessSessionError GuestWorkerProcessSessionResult

/-- A controller, as a process that exchanges messages. -/
abbrev ControllerProcess := Process GuestWorkerWireMessage WireFailure ChildStatus ControllerResult

/-- A check between two operations; a refusal ends the session. -/
def check {α : Type} (x : Except GuestWorkerProcessSessionError α) (next : α → ControllerProcess) :
    ControllerProcess :=
  match x with
  | .ok a => next a
  | .error e => .done (.error e)

section Controller

variable (config : GuestWorkerProcessSessionConfig) (ready : GuestWorkerReady)
  (linuxPidfdUsed : Bool)

/-- The end of a session. -/
def finishProcess (state : SessionLoop) (stop : GuestWorkerStop) : ControllerProcess :=
  .send (.terminate (terminationReason state)) (fun failure => .error (sendError failure)) <|
  .wait (fun failure => .error (waitError failure)) fun status =>
  check (exitCode status) fun childExitCode =>
  check (refuseIf (childExitCode ≠ 0)
    { code := .childExitFailure, platformError := childExitCode.toInt64 }) fun _ =>
  .done (.ok {
    ready := ready
    stop := stop
    childExitCode := childExitCode
    syscallRequestCount := state.syscallRequestCount
    terminalFault := state.terminalFault
    terminalDiagnostic := state.terminalDiagnostic
    linuxPidfdUsed := linuxPidfdUsed })

/-- The loop, with the turns it can take. -/
def loopProcess : (turns : ℕ) → SessionLoop → ControllerProcess
  | 0, _ => .done (.error { code := .protocolFailure })
  | turns + 1, state =>
    .receive (fun failure => .error (receiveError failure)) fun
      | .stop stop =>
        check (checkStop ready.workerId state stop) fun _ =>
          finishProcess ready linuxPidfdUsed state stop
      | .fault fault =>
        check (checkTerminal ready.workerId state fault.workerId fault.threadId) fun _ =>
        loopProcess turns { state with terminalFault := some fault }
      | .diagnostic diagnostic =>
        check (checkTerminal ready.workerId state diagnostic.workerId diagnostic.threadId) fun _ =>
        loopProcess turns { state with terminalDiagnostic := some diagnostic }
      | .syscallRequest request =>
        check (refuseIf (state.isTerminal = true) { code := .protocolFailure }) fun _ =>
        check (checkRequest config ready.workerId state request) fun service =>
        check (orRefuse (service state.answered request) { code := .syscallServiceRejected })
          fun result =>
        .send (.syscallResult result) (fun failure => .error (sendError failure)) <|
        loopProcess turns { state with
          syscallRequestCount := state.syscallRequestCount + 1
          answered := state.answered ++ [request] }
      | _ =>
        .done
          (.error
          { code := if state.isTerminal = true then .protocolFailure else .unexpectedMessage })

/-- How many messages the loop can take from a state on: the requests that are left, a fault or a
diagnostic, and the `Stop`. -/
def turnsLeft (state : SessionLoop) : ℕ :=
  config.maxSyscallRequests - state.syscallRequestCount + if state.isTerminal = true then 1 else 2

/-- The controller, once the worker is launched. -/
def controllerProcess : ControllerProcess :=
  .send (.hello kGuestWorkerProtocolVersion) (fun failure => .error (sendError failure)) <|
  .receive (fun failure => .error (receiveError failure)) fun
    | .ready protocolVersion workerId =>
      check ((validateGuestWorkerHandshake kGuestWorkerProtocolVersion
        ⟨protocolVersion, workerId⟩).mapError fun e =>
        { code := .protocolFailure, protocolError := some e }) fun _ =>
      .send (.runRequest config.runBudgetMicroseconds)
        (fun failure => .error (sendError failure)) <|
      loopProcess config ⟨protocolVersion, workerId⟩ linuxPidfdUsed (config.maxSyscallRequests + 2)
        {}
    | _ => .done (.error { code := .unexpectedMessage })

end Controller

/-! ### The process is the session -/

/-- What is around a controller. -/
abbrev ControllerWorld := Process.World GuestWorkerWireMessage WireFailure ChildStatus

/-- What the session sees of a world. -/
def sessionWorld (world : ControllerWorld) (linuxPidfdUsed : Bool) : SessionWorld where
  incoming := world.incoming
  receiveError := receiveError world.receiveFailure
  spawnWorker := .ok linuxPidfdUsed
  sendMessage index _ :=
    match world.sends.get index with
    | some failure => .error (sendError failure)
    | none => .ok ()
  waitForChild :=
    match world.exits.head with
    | .error failure => .error (waitError failure)
    | .ok status => exitCode status

section Agreement

variable {config : GuestWorkerProcessSessionConfig} {ready : GuestWorkerReady}
  {linuxPidfdUsed : Bool} {world : ControllerWorld} {state : SessionLoop}

@[simp] theorem resultIn_check {α : Type} (x : Except GuestWorkerProcessSessionError α)
    (next : α → ControllerProcess) (world : ControllerWorld) :
    (check x next).resultIn world = x >>= fun a => (next a).resultIn world := by
  cases x <;> rfl

theorem resultIn_send (linuxPidfdUsed : Bool) (message : GuestWorkerWireMessage)
    (next : ControllerProcess) (world start : ControllerWorld) (index : ℕ)
    (hsends : world.sends = start.sends.drop index) :
    (Process.send message (fun failure => .error (sendError failure)) next).resultIn world =
      (sendMessage (sessionWorld start linuxPidfdUsed) index message).result >>= fun _ =>
        next.resultIn { world with sends := start.sends.drop (index + 1) } := by
  have hhead : world.sends.head = start.sends.get index := by
    rw [hsends, Stream'.head_drop]
  have htail : world.sends.tail = start.sends.drop (index + 1) := by
    rw [hsends, Stream'.tail_drop']
  rw [Process.resultIn, hhead, htail, sendMessage, Logged.result_look, sessionWorld]
  dsimp only
  cases start.sends.get index <;> rfl

theorem resultIn_finishProcess (stop : GuestWorkerStop) {now : ControllerWorld}
    (hexits : now.exits = world.exits)
    (hsends : now.sends = world.sends.drop (2 + state.syscallRequestCount)) :
    (finishProcess ready linuxPidfdUsed state stop).resultIn now =
      (finishSession (sessionWorld world linuxPidfdUsed) ready linuxPidfdUsed state
        stop).result := by
  rw [finishProcess, resultIn_send linuxPidfdUsed _ _ now world _ hsends]
  simp only [finishSession, Logged.result_bind, Logged.result_quiet, Logged.result_pure]
  congr 1
  funext _
  rw [Process.resultIn, sessionWorld]
  dsimp only
  rw [hexits]
  cases world.exits.head with
  | error failure => rfl
  | ok status =>
    simp only [resultIn_check, Process.resultIn]

theorem turnsLeft_of_terminal {next : SessionLoop} (hopen : state.isTerminal = false)
    (hterminal : next.isTerminal = true)
    (hcount : next.syscallRequestCount = state.syscallRequestCount) {turns : ℕ}
    (h : turnsLeft config state ≤ turns + 1) :
    turnsLeft config next ≤ turns := by
  rw [turnsLeft, hopen, if_neg (by decide)] at h
  rw [turnsLeft, hterminal, if_pos rfl, hcount]
  omega

theorem turnsLeft_of_request {next : SessionLoop}
    (hlimit : state.syscallRequestCount < config.maxSyscallRequests)
    (hterminal : next.isTerminal = state.isTerminal)
    (hcount : next.syscallRequestCount = state.syscallRequestCount + 1) {turns : ℕ}
    (h : turnsLeft config state ≤ turns + 1) : turnsLeft config next ≤ turns := by
  rw [turnsLeft] at h ⊢
  rw [hterminal, hcount]
  omega

/-- The loop of the process is the loop of the session, as long as it has turns enough. -/
theorem resultIn_loopProcess {turns : ℕ} (hturns : turnsLeft config state ≤ turns)
    {now : ControllerWorld} (hexits : now.exits = world.exits)
    (hreceive : now.receiveFailure = world.receiveFailure)
    (hsends : now.sends = world.sends.drop (2 + state.syscallRequestCount)) :
    (loopProcess config ready linuxPidfdUsed turns state).resultIn now =
      (sessionLoop config (sessionWorld world linuxPidfdUsed) ready.workerId now.incoming
        state).result >>= fun outcome =>
        (finishSession (sessionWorld world linuxPidfdUsed) ready linuxPidfdUsed outcome.1
          outcome.2).result := by
  induction turns generalizing state now with
  | zero =>
    rw [turnsLeft] at hturns
    split_ifs at hturns <;> omega
  | succ turns ih =>
    obtain ⟨incoming, receiveFailure, sends, exits⟩ := now
    dsimp only at hexits hreceive hsends ⊢
    subst hexits hreceive hsends
    cases incoming with
    | nil => rfl
    | cons message incoming =>
      rw [loopProcess, Process.resultIn, sessionLoop]
      simp only [Logged.result_bind, Logged.result_look]
      cases message with
      | stop stop =>
        simp only [resultIn_check, sessionStep, Logged.result_bind, Logged.result_quiet,
          Logged.result_pure]
        cases checkStop ready.workerId state stop with
        | error e => rfl
        | ok => exact resultIn_finishProcess stop rfl rfl
      | fault fault =>
        simp only [resultIn_check, sessionStep, Logged.result_bind, Logged.result_quiet,
          Logged.result_pure]
        cases hcheck : checkTerminal ready.workerId state fault.workerId fault.threadId with
        | error e => rfl
        | ok =>
          obtain ⟨hopen, -, -⟩ := checkTerminal_eq_ok.mp hcheck
          have hterminal : ({ state with terminalFault := some fault } : SessionLoop).isTerminal =
            true := rfl
          have hleft := turnsLeft_of_terminal hopen hterminal rfl hturns
          exact @ih { state with terminalFault := some fault } hleft
            ⟨incoming, world.receiveFailure, world.sends.drop (2 + state.syscallRequestCount),
              world.exits⟩ rfl rfl rfl
      | diagnostic diagnostic =>
        simp only [resultIn_check, sessionStep, Logged.result_bind, Logged.result_quiet,
          Logged.result_pure]
        cases hcheck : checkTerminal ready.workerId state diagnostic.workerId diagnostic.threadId
          with
        | error e => rfl
        | ok =>
          obtain ⟨hopen, -, -⟩ := checkTerminal_eq_ok.mp hcheck
          have hterminal :
              ({ state with terminalDiagnostic := some diagnostic } : SessionLoop).isTerminal =
              true :=
            Bool.or_true _
          have hleft := turnsLeft_of_terminal hopen hterminal rfl hturns
          exact @ih { state with terminalDiagnostic := some diagnostic } hleft
            ⟨incoming, world.receiveFailure, world.sends.drop (2 + state.syscallRequestCount),
              world.exits⟩ rfl rfl rfl
      | syscallRequest request =>
        simp only [resultIn_check, sessionStep, serveRequest, Logged.result_bind,
          Logged.result_quiet, Logged.result_pure, Logged.result_look, bind_assoc]
        cases refuseIf (state.isTerminal = true)
          ({ code := .protocolFailure } : GuestWorkerProcessSessionError) with
        | error e => rfl
        | ok =>
          cases hcheck : checkRequest config ready.workerId state request with
          | error e => rfl
          | ok service =>
            simp only [ok_bind]
            cases orRefuse (service state.answered request)
              ({ code := .syscallServiceRejected } : GuestWorkerProcessSessionError) with
            | error e => rfl
            | ok result =>
              have hlimit : state.syscallRequestCount < config.maxSyscallRequests :=
                (checkRequest_eq_ok.mp hcheck).2.2
              simp only [ok_bind]
              rw [resultIn_send linuxPidfdUsed _ _ _ world (2 + state.syscallRequestCount) rfl]
              cases (sendMessage (sessionWorld world linuxPidfdUsed) (2 + state.syscallRequestCount)
                (.syscallResult result)).result with
              | error e => rfl
              | ok =>
                have hterminal : ({ state with
                    syscallRequestCount := state.syscallRequestCount + 1
                    answered := state.answered ++ [request] } : SessionLoop).isTerminal =
                      state.isTerminal := rfl
                have hleft := turnsLeft_of_request hlimit hterminal rfl hturns
                exact @ih { state with
                    syscallRequestCount := state.syscallRequestCount + 1
                    answered := state.answered ++ [request] } hleft
                  ⟨incoming, world.receiveFailure,
                    world.sends.drop (2 + state.syscallRequestCount + 1), world.exits⟩
                  rfl rfl rfl
      | hello => rfl
      | ready => rfl
      | runRequest => rfl
      | syscallResult => rfl
      | terminate => rfl

/-- **The process is the session**, from the launch of the worker on. -/
theorem resultIn_controllerProcess (hvalid : configIsValid config = true)
    (world : ControllerWorld) :
    (controllerProcess config linuxPidfdUsed).resultIn world =
      (runGuestWorkerProcessSession config (sessionWorld world linuxPidfdUsed)).result := by
  have hbudget : config.runBudgetMicroseconds ≠ 0 := by
    intro hzero
    rw [configIsValid, hzero] at hvalid
    simp at hvalid
  have hrun : validateGuestWorkerRunRequest config.runBudgetMicroseconds = .ok true := by
    rw [validateGuestWorkerRunRequest, refuseIf_of_not hbudget]
    rfl
  simp only [runGuestWorkerProcessSession, Logged.result_bind, Logged.result_quiet, hvalid, hrun]
  rw [controllerProcess, resultIn_send linuxPidfdUsed _ _ world world 0 rfl]
  rw [refuseIf_of_not (by decide), ok_bind]
  refine congrArg (Bind.bind _) (funext fun _ => ?_)
  obtain ⟨incoming, receiveFailure, sends, exits⟩ := world
  cases incoming with
  | nil => rfl
  | cons message incoming =>
    cases message with
    | ready protocolVersion workerId =>
      rw [Process.resultIn]
      simp only [resultIn_check]
      show _ = (Except.mapError _
        (validateGuestWorkerHandshake kGuestWorkerProtocolVersion ⟨protocolVersion, workerId⟩)) >>=
        _
      refine congrArg (Bind.bind _) (funext fun _ => ?_)
      rw [resultIn_send linuxPidfdUsed _ _ _ ⟨_, receiveFailure, sends, exits⟩ 1 rfl]
      refine congrArg (Bind.bind _) (funext fun _ => ?_)
      exact @resultIn_loopProcess config ⟨protocolVersion, workerId⟩ linuxPidfdUsed _ {} _ le_rfl
        ⟨incoming, receiveFailure, sends.drop 2, exits⟩ rfl rfl rfl
    | hello => rfl
    | runRequest => rfl
    | syscallRequest => rfl
    | syscallResult => rfl
    | stop => rfl
    | fault => rfl
    | terminate => rfl
    | diagnostic => rfl

end Agreement

/-! ### Over the socket -/

/-- `run_guest_worker_process_session` on the socket, once the worker is launched. -/
def controllerProgram (config : GuestWorkerProcessSessionConfig) (linuxPidfdUsed : Bool) :
    Program UInt8 IoFailure ChildStatus ControllerResult :=
  (controllerProcess config linuxPidfdUsed).framed guestWorkerFraming

/-- A program for the other end of the socket. -/
abbrev WorkerProgram := Program UInt8 IoFailure ControllerResult ChildStatus

/-- **A session over the socket is a session.** Whatever program the worker is and whatever becomes
of it, however the bytes are cut into calls, and whichever operation of the controller fails: its
result is that of the session with messages whose frames the worker wrote first. Where it succeeds,
the worker wrote the frames of the messages of a session. -/
theorem runGuestWorkerProcessSession_over_bytes {config : GuestWorkerProcessSessionConfig}
    (hvalid : configIsValid config = true) {linuxPidfdUsed : Bool} {worker : WorkerProgram}
    {meets : Process UInt8 IoFailure ControllerResult ChildStatus → ChildStatus → Prop}
    {capacity : Option ℕ} {n : ℕ}
    {connection : Connection UInt8 IoFailure ControllerResult ChildStatus}
    {result : ControllerResult}
    (hrun : RunsIn (Connection.Disturbed Process.Fails meets capacity) n
      (Connection.start (controllerProgram config linuxPidfdUsed) worker) connection)
    (hdone : connection.left.result? = some result) :
    ∃ world read wrote worker', worker.bytes.Behaves read wrote worker' ∧
      guestWorkerFraming.frames world.incoming <+: wrote ∧
      result = (runGuestWorkerProcessSession config (sessionWorld world linuxPidfdUsed)).result ∧
      ∀ success, result = .ok success → ∃ word, SessionWord config word ∧
        guestWorkerFraming.frames word <+: wrote := by
  obtain ⟨m, hm⟩ := Connection.runs_of_disturbed hrun
  obtain ⟨received, sent, hleft, read, worker', -, hright, -⟩ := Duplex.Disturbed.history hm
  have hbytes : connection.bytes.left = .done result := Process.result?_eq_some.mp hdone
  rw [hbytes] at hleft
  obtain ⟨messages, messages', hbehaves, hframes, -⟩ :=
    Process.behaves_framed lawful_guestWorkerFraming hleft
  obtain ⟨world, rfl, hresult⟩ := hbehaves.exists_world
  rw [resultIn_controllerProcess hvalid] at hresult
  have hwrote : received <+: received ++ connection.bytes.toLeft := List.prefix_append _ _
  refine ⟨world, read, _, worker', hright, hframes.trans hwrote, hresult.symm,
    fun success hsuccess => ?_⟩
  rw [hsuccess] at hresult
  obtain ⟨hword, hstart⟩ := sessionWord_of_run hresult
  exact ⟨_, hword, (Framing.frames_prefix hstart).trans (hframes.trans hwrote)⟩

/-- A worker that is ready, reads the request to run, and returns. -/
def exampleWorker : Process GuestWorkerWireMessage WireFailure ControllerResult ChildStatus :=
  .receive (fun _ => .exited 1) fun _ =>
  .send (.ready 1 ⟨7⟩) (fun _ => .exited 1) <|
  .receive (fun _ => .exited 1) fun _ =>
  .send (.stop exampleStop) (fun _ => .exited 1) <|
  .receive (fun _ => .exited 1) fun _ =>
  .done (.exited 0)

theorem exists_frame {message : GuestWorkerWireMessage} (h : validMessage message = true) :
    ∃ frame, guestWorkerFraming.encode message = .ok frame :=
  ⟨_, encodeGuestWorkerWireMessage_eq_ok.mpr ⟨h, rfl⟩⟩

theorem rendezvous_exampleWorker :
    Rendezvous (fun message => validMessage message = true)
      (controllerProcess exampleSession true) exampleWorker
      (.ok ⟨⟨1, ⟨7⟩⟩, exampleStop, 0, 0, none, none, true⟩) (.exited 0) := by
  refine .toRight rfl (.toLeft rfl (.toRight rfl (.toLeft rfl (.toRight rfl ?_))))
  exact .leftWaits .done

/-- A session over a socket that holds one byte, with a worker that runs to its end. -/
theorem runGuestWorkerProcessSession_over_bytes_example :
    ∃ world wrote, guestWorkerFraming.frames world.incoming <+: wrote ∧
      (.ok ⟨⟨1, ⟨7⟩⟩, exampleStop, 0, 0, none, none, true⟩ : ControllerResult) =
        (runGuestWorkerProcessSession exampleSession (sessionWorld world true)).result ∧
      ∃ word, SessionWord exampleSession word ∧ guestWorkerFraming.frames word <+: wrote := by
  have hshakes := rendezvous_exampleWorker.framed lawful_guestWorkerFraming fun _ => exists_frame
  obtain ⟨n, connection, hrun, hleft, -⟩ :=
    Connection.exists_end hshakes (HasRoom.empty Nat.one_pos)
  have hcalls : RunsIn (Connection.Disturbed Process.Fails (fun _ _ => False) (some 1)) n
      (Connection.start (controllerProgram exampleSession true)
        (exampleWorker.framed guestWorkerFraming)) connection :=
    hrun.mono fun _ _ => .call
  obtain ⟨world, read, wrote, worker', -, hframes, hresult, hword⟩ :=
    runGuestWorkerProcessSession_over_bytes (by decide) hcalls hleft
  exact ⟨world, wrote, hframes, hresult, hword _ rfl⟩

end Astraea.Execution
