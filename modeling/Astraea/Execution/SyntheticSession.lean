import Astraea.Execution.HleRuntime
import Astraea.Execution.LinuxExecution
import Astraea.Execution.PreparedAccess

/-!
# A session with a guest

`run_linux_synthetic_session` enters a guest, serves the call that it leaves with, and enters it
again behind the call, until it calls the service that ends it. `apply_hle_resume` makes the
registers to go on with: the result of the call, and the return address, which is taken off the
guest's own stack.

A session is followed over a list of episodes, one for each entry: what the guest does in it, and
what the host refuses. `Conversation` says what a session is, exchange by exchange, and
`syntheticSession_conversation` that whatever the guest does, a session that ends well was one, and
that its output, its events and its count are those of the exchanges.
-/

namespace Astraea.Execution

open Astraea.Base Astraea.Core Astraea.Loader Astraea.Memory

/-! ### Going on behind a call -/

/-- `apply_hle_resume`. -/
def applyHleResume (context : GuestCpuContext) (handlerResult : HleHandlerResult)
    (memory : GuestMemoryAccess) (bytes : ℕ → UInt8) : Except HleRuntimeError GuestCpuContext := do
  refuseIf (handlerResult.action ≠ .resume) { code := .invalidExecutionStop }
  let returnBytes ← (memory.read bytes ⟨context.rsp⟩ 8).mapError fun e : GuestMemoryError =>
    ({ code := .guestMemoryFailure, guestAddress := e.address, guestMemoryError := some e } :
      HleRuntimeError)
  let returnRip := UInt64.ofNat (leValue returnBytes)
  let nextRsp ← ((GuestAddress.mk context.rsp).checkedAdd ⟨8⟩).mapError fun _ =>
    ({ code := .guestStackPointerOverflow, guestAddress := context.rsp } : HleRuntimeError)
  refuseIf (memory.isExactExecutableAddress ⟨returnRip⟩ = false)
    { code := .guestReturnAddressNotExecutable, guestAddress := returnRip }
  return { context with rax := handlerResult.value, rip := returnRip, rsp := nextRsp.value }

/-! ### The session -/

/-- Why a session failed. -/
inductive LinuxSyntheticSessionError where
  | backend (e : GuestEntryError)
  | hle (e : HleRuntimeError)
  | guestFault (fault : GuestFault)
  | unexpectedStop
  deriving DecidableEq

/-- What happened in a session. -/
inductive SyntheticSessionEventKind where
  | guestEntry
  | gateStop
  | hleResume
  | hleExit
  deriving DecidableEq

/-- Something that happened in a session, with the registers there. -/
structure SyntheticSessionEvent where
  kind : SyntheticSessionEventKind
  rip : UInt64
  rsp : UInt64
  gateSlot : Option UInt32 := none
  functionId : Option HleFunctionId := none
  value : UInt64 := 0
  deriving DecidableEq

/-- What a session comes to that ends well. -/
structure LinuxSyntheticSessionResult where
  exitCode : UInt64
  gateStopCount : UInt64
  finalContext : GuestCpuContext
  output : List UInt8
  events : List SyntheticSessionEvent
  deriving DecidableEq

/-- One entry into the guest: what the host refuses, and what the guest does. -/
structure SessionEpisode (σ : Type) where
  entryHost : EntryHost σ
  host : Host
  activity : GuestActivity

/-- What the loop keeps. The transcript has the bytes of guest memory. -/
structure SessionState where
  context : GuestCpuContext
  transcript : HleDispatchState
  gateStopCount : UInt64 := 0
  events : List SyntheticSessionEvent := []

/-- How a session ends, with what is set for the signals then. -/
inductive SessionRun (σ : Type) where
  | returned (result : Except LinuxSyntheticSessionError LinuxSyntheticSessionResult)
      (environment : SignalEnvironment σ)
  | processEnded
  | running

section Session

variable {σ : Type} (image : GuestImage) (preparedMemory : LinuxPreparedMemory)
  (registry : HleRegistry) (gateRegion : SyntheticGateRegion)

/-- The access to guest memory that a session has. -/
def sessionMemory : GuestMemoryAccess := .ofLinux image preparedMemory

/-- An event of a stop. -/
def stopEvent (kind : SyntheticSessionEventKind) (context : GuestCpuContext) (gateSlot : UInt32)
    (value : UInt64) :
    SyntheticSessionEvent where
  kind := kind
  rip := context.rip
  rsp := context.rsp
  gateSlot := gateSlot
  functionId := (gateRegion.bindingForSlot gateSlot).map GateBinding.functionId
  value := value

/-- What the loop does with a stop: go on with another state, or end. -/
def serveStop (host : Host) (state : SessionState) (stop : FaultStop) :
    Except LinuxSyntheticSessionError (SessionState ⊕ LinuxSyntheticSessionResult) := do
  refuseIf (stop.reason = .guestFault) (.guestFault stop.fault)
  refuseIf (stop.reason ≠ .hostGate ∨ stop.hasGateSlot = false) .unexpectedStop
  let gateStopCount := state.gateStopCount + 1
  let events := state.events ++ [stopEvent gateRegion .gateStop stop.context stop.gateSlot 0]
  let memory := sessionMemory image preparedMemory
  let dispatched :=
    dispatchHle host registry gateRegion stop.toExecutionStop memory state.transcript
  let handler ← dispatched.1.mapError .hle
  if handler.action = .exit then
    return .inr {
      exitCode := handler.value
      gateStopCount := gateStopCount
      finalContext := stop.context
      output := dispatched.2.output
      events := events ++ [stopEvent gateRegion .hleExit stop.context stop.gateSlot handler.value] }
  else
    let resumed ← (applyHleResume stop.context handler memory dispatched.2.guestBytes).mapError .hle
    return .inl {
      context := resumed
      transcript := dispatched.2
      gateStopCount := gateStopCount
      events := events ++ [stopEvent gateRegion .hleResume resumed stop.gateSlot handler.value] }

/-- The loop of the session, over the episodes there are. -/
def syntheticSessionLoop (environment : SignalEnvironment σ) :
    SessionState → List (SessionEpisode σ) → SessionRun σ
  | _, [] => .running
  | state, episode :: later =>
    let entry : SyntheticSessionEvent :=
      { kind := .guestEntry, rip := state.context.rip, rsp := state.context.rsp }
    let state := { state with events := state.events ++ [entry] }
    match enterLinuxGuest episode.entryHost environment image preparedMemory
      state.transcript.guestBytes state.context []
      episode.activity gateRegion with
    | .processEnded => .processEnded
    | .running => .running
    | .returned (.error e) environment => .returned (.error (.backend e)) environment
    | .returned (.ok stop) environment =>
      -- the guest may have written to its memory
      let transcript := { state.transcript with guestBytes := episode.activity.bytes }
      match serveStop image preparedMemory registry gateRegion episode.host { state with
        transcript := transcript } stop with
      | .error e => .returned (.error e) environment
      | .ok (.inr result) => .returned (.ok result) environment
      | .ok (.inl state) => syntheticSessionLoop environment state later

/-- `run_linux_synthetic_session`, over the bytes guest memory holds at first. -/
def runLinuxSyntheticSession (environment : SignalEnvironment σ) (bytes : ℕ → UInt8)
    (initialContext : GuestCpuContext) (episodes : List (SessionEpisode σ)) : SessionRun σ :=
  syntheticSessionLoop image preparedMemory registry gateRegion environment
    { context := initialContext, transcript := ⟨[], ⟨[]⟩, bytes⟩ } episodes

end Session

/-! ### What a service does -/

variable {bytes : ℕ → UInt8}

/-- What the services do for a call with some registers: each has its own result, and its own effect
on the state. -/
inductive Serves (memory : GuestMemoryAccess) (gateSlot : UInt32) (context : GuestCpuContext)
    (state : HleDispatchState) : HleFunctionId → HleHandlerResult → HleDispatchState → Prop
  /-- A shader is created of the call and of guest memory, and guest memory has its patches. -/
  | created {create : SceAgcCreateShaderPlan} {listOffset : UInt64}
      {preparation : SceAgcShaderPreparationPlan} {shader : CreatedAgcShader}
      (hcreated : ShaderCreated (makeCall kSceAgcCreateShaderHleId gateSlot context)
        state.guestBytes create listOffset preparation shader)
      (hwritable : Writable memory preparation.patches) :
      Serves memory gateSlot context state kSceAgcCreateShaderHleId ⟨.resume, 0⟩
        (state.withShader preparation shader)
  /-- Guest bytes are written to the output. -/
  | wrote (hreadable : memory.AllowsRange .read context.rdi.toNat context.rsi.toNat) :
      Serves memory gateSlot context state kSyntheticTestWriteId ⟨.resume, context.rsi⟩
        { state with
          output := state.output ++ load state.guestBytes context.rdi.toNat context.rsi.toNat }
  /-- The guest ends. -/
  | ended : Serves memory gateSlot context state kSyntheticTestExitId ⟨.exit, context.rdi⟩ state

section Services

variable {host : Host} {memory : GuestMemoryAccess} {gateSlot : UInt32} {context : GuestCpuContext}
  {call : HleCall} {state state' : HleDispatchState} {id : HleFunctionId}
  {result : HleHandlerResult}

theorem GuestMemoryAccess.allows_of_read {address : GuestAddress} {count : ℕ} {data : List UInt8}
    (hcount : count < 2 ^ 64) (h : memory.read bytes address count = .ok data) :
    data = load bytes address.toNat count ∧ memory.AllowsRange .read address.toNat count := by
  obtain ⟨rfl, hvalid⟩ := GuestMemoryAccess.read_eq_ok h
  refine ⟨rfl, ?_⟩
  have hnat : (UInt64.ofNat count).toNat = count := toNat_ofNat_of_lt hcount
  by_cases hzero : count = 0
  · subst hzero
    intro x h1 h2
    omega
  · have havail : memory.preparedMemoryAvailable = true := by
      obtain ⟨n, hn⟩ := hvalid
      rw [GuestMemoryAccess.validate, check_bind_eq_ok, refuseIf_eq_ok, Bool.not_eq_false] at hn
      exact hn.1
    have hallows := ((GuestMemoryAccess.validate_iff havail (by omega)).mp hvalid).2
    rwa [hnat] at hallows

theorem serveWrite_eq_ok (h : serveWrite host memory gateSlot call state = (.ok result, state')) :
    result = ⟨.resume, call.argument 1⟩ ∧
      state' = { state with
        output :=
          state.output ++ load state.guestBytes (call.argument 0).toNat (call.argument 1).toNat } ∧
      memory.AllowsRange .read (call.argument 0).toNat (call.argument 1).toNat := by
  rw [serveWrite] at h
  dsimp only at h
  split_ifs at h with hsize hzero
  · cases h
  · cases h
    rw [hzero]
    refine ⟨rfl, ?_, fun x h1 h2 => by omega⟩
    rw [load, List.range_zero, List.map_nil, List.append_nil]
  · cases hallocate : allocate host .output (writeError gateSlot call .hostAllocationFailure)
      (writeError gateSlot call .hostSizeUnrepresentable) with
    | error e =>
      rw [hallocate] at h
      cases h
    | ok =>
      cases hread : memory.read state.guestBytes ⟨call.argument 0⟩ (call.argument 1).toNat with
      | error e =>
        rw [hallocate] at h
        simp only [hread] at h
        cases h
      | ok copied =>
        rw [hallocate] at h
        simp only [hread, List.take_left] at h
        cases h
        obtain ⟨rfl, hallows⟩ := GuestMemoryAccess.allows_of_read (call.argument 1).toNat_lt hread
        exact ⟨rfl, rfl, hallows⟩

/-- A call that is served is served as its function says. -/
theorem serves_of_serve
    (h : serve host memory gateSlot (makeCall id gateSlot context) state id =
    (.ok result, state')) :
    Serves memory gateSlot context state id result state' := by
  rw [serve] at h
  split_ifs at h with hcreate hwrite hexit
  · subst hcreate
    rcases serveCreateShader_cases host memory gateSlot
      (makeCall kSceAgcCreateShaderHleId gateSlot context) state with
      ⟨e, hrefused, -⟩ | ⟨preparation, shader, hprepare, hwritable, hcreated⟩
    · rw [hrefused] at h
      cases h
    · rw [hcreated] at h
      cases h
      obtain ⟨create, listOffset, hfrom⟩ := shaderCreated_of_prepareCreateShader hprepare
      exact .created hfrom hwritable
  · subst hwrite
    obtain ⟨rfl, rfl, hreadable⟩ := serveWrite_eq_ok h
    exact .wrote hreadable
  · subst hexit
    obtain ⟨hresult, rfl⟩ := Prod.mk.inj h
    cases hresult
    exact .ended
  · cases h

/-- A dispatch that succeeds serves the function that is bound to the gate. -/
theorem dispatchHle_eq_ok {registry : HleRegistry} {gateRegion : SyntheticGateRegion}
    {stop : ExecutionStop}
    (h : dispatchHle host registry gateRegion stop memory state = (.ok result, state')) :
    ∃ binding, gateRegion.bindingForSlot stop.gateSlot = some binding ∧
      Serves memory stop.gateSlot stop.context state binding.functionId result state' := by
  rw [dispatchHle] at h
  cases hcalled : calledFunction registry gateRegion stop with
  | error e =>
    rw [hcalled] at h
    cases h
  | ok called =>
    obtain ⟨binding, descriptor⟩ := called
    rw [hcalled] at h
    dsimp only at h
    simp only [calledFunction, bind_eq_ok, orRefuse_eq_ok, pure_eq_ok, Prod.mk.injEq] at hcalled
    obtain ⟨_, -, found, hbinding, known, hknown, rfl, rfl⟩ := hcalled
    have hid : known.id = found.functionId := by
      rw [HleRegistry.find] at hknown
      exact eq_of_beq (List.find?_some
        (p := fun other : HleFunctionDescriptor => other.id == found.functionId) hknown)
    rw [hid] at h
    exact ⟨found, hbinding, serves_of_serve h⟩

end Services

/-- The registers with which a guest goes on behind a call: the result is in `rax`, the return
address is taken off the stack, and nothing else is changed. The address is one of code, in the
image and in prepared memory. -/
structure ResumesAt (memory : GuestMemoryAccess) (bytes : ℕ → UInt8) (stopped : GuestCpuContext)
    (value : UInt64) (resumed : GuestCpuContext) : Prop where
  registers : resumed = { stopped with rax := value, rip := resumed.rip, rsp := resumed.rsp }
  rip : resumed.rip.toNat = leValue (load bytes stopped.rsp.toNat 8)
  rsp : resumed.rsp.toNat = stopped.rsp.toNat + 8
  readable : memory.AllowsRange .read stopped.rsp.toNat 8
  code : memory.isExactExecutableAddress ⟨resumed.rip⟩ = true

theorem applyHleResume_eq_ok {context resumed : GuestCpuContext} {result : HleHandlerResult}
    {memory : GuestMemoryAccess} (h : applyHleResume context result memory bytes = .ok resumed) :
    ResumesAt memory bytes context result.value resumed := by
  simp only [applyHleResume, bind_eq_ok, mapError_eq_ok, refuseIf_eq_ok, pure_eq_ok,
    Bool.not_eq_false] at h
  obtain ⟨_, -, data, hread, next, hnext, _, hcode, rfl⟩ := h
  obtain ⟨rfl, hallows⟩ := GuestMemoryAccess.allows_of_read (by omega) hread
  refine ⟨rfl, ?_, ?_, hallows, hcode⟩
  · have hlt : leValue (load bytes context.rsp.toNat 8) < 2 ^ 64 := by
      have hbound := leValue_lt (load bytes context.rsp.toNat 8)
      rwa [length_load] at hbound
    exact toNat_ofNat_of_lt hlt
  · exact (GuestAddress.checkedAdd_eq_ok hnext).2

/-! ### Exchanges -/

/-- One exchange with a guest: how it is entered, in which state and with what memory, how it stops,
which function it calls, what comes of that, and how it goes on. -/
structure Exchange (σ : Type) where
  entered : GuestCpuContext
  before : HleDispatchState
  episode : SessionEpisode σ
  stop : FaultStop
  functionId : HleFunctionId
  result : HleHandlerResult
  after : HleDispatchState
  resumed : GuestCpuContext

namespace Exchange

variable {σ : Type} (exchange : Exchange σ)

/-- The state at the call: the memory is what the guest made of it. -/
def called : HleDispatchState :=
  { exchange.before with guestBytes := exchange.episode.activity.bytes }

/-- What the exchange adds to the output. -/
def written : List UInt8 :=
  if exchange.functionId = kSyntheticTestWriteId then
    load exchange.called.guestBytes exchange.stop.context.rdi.toNat exchange.stop.context.rsi.toNat
  else []

/-- The events of the exchange. -/
def events : List SyntheticSessionEvent := [
  { kind := .guestEntry, rip := exchange.entered.rip, rsp := exchange.entered.rsp },
  { kind := .gateStop, rip := exchange.stop.context.rip, rsp := exchange.stop.context.rsp,
    gateSlot := exchange.stop.gateSlot, functionId := exchange.functionId },
  { kind := if exchange.result.action = .exit then .hleExit else .hleResume,
    rip := exchange.resumed.rip, rsp := exchange.resumed.rsp, gateSlot := exchange.stop.gateSlot,
    functionId := exchange.functionId,
    value := exchange.result.value }]

end Exchange

section Conversation

variable {σ : Type} (image : GuestImage) (preparedMemory : LinuxPreparedMemory)
  (gateRegion : SyntheticGateRegion) (environment : SignalEnvironment σ)

/-- What is true of an exchange: the registers it begins with were checked, the guest left by its
first signal, which was that of a gate, and the function that is bound to the gate was served. -/
structure Exchanged (exchange : Exchange σ) : Prop where
  checked : EntryChecked image preparedMemory exchange.before.guestBytes
    (some gateRegion) exchange.entered []
  left : LeavesBy image [] (some gateRegion) [] environment.actions
    exchange.episode.activity.signals (.stopped exchange.stop)
  gate : gateRegion.slotAddress exchange.stop.gateSlot = some ⟨exchange.stop.context.rip⟩
  bound : ⟨exchange.stop.gateSlot, exchange.functionId⟩ ∈ gateRegion.bindings
  served : Serves (sessionMemory image preparedMemory) exchange.stop.gateSlot exchange.stop.context
    exchange.called exchange.functionId exchange.result exchange.after

/-- A conversation with a guest, from registers and a state on: exchanges one after the other, each
beginning where the last one goes on, up to the one that ends the guest. -/
inductive Conversation : GuestCpuContext → HleDispatchState → List (Exchange σ) → Prop
  | last (exchange : Exchange σ)
      (hexchanged : Exchanged image preparedMemory gateRegion environment exchange)
      (hexit : exchange.result.action = .exit)
        (hresumed : exchange.resumed = exchange.stop.context) :
      Conversation exchange.entered exchange.before [exchange]
  | more (exchange : Exchange σ) (exchanges : List (Exchange σ))
      (hexchanged : Exchanged image preparedMemory gateRegion environment exchange)
      (hresume : exchange.result.action = .resume)
      (hresumes : ResumesAt (sessionMemory image preparedMemory) exchange.after.guestBytes
        exchange.stop.context exchange.result.value exchange.resumed)
      (hrest : Conversation exchange.resumed exchange.after exchanges) :
      Conversation exchange.entered exchange.before (exchange :: exchanges)

/-- The result of a conversation, behind what there was before it. -/
structure ResultOf (state : SessionState) (exchanges : List (Exchange σ))
    (result : LinuxSyntheticSessionResult) : Prop where
  last : ∃ last ∈ exchanges.getLast?, last.functionId = kSyntheticTestExitId ∧
    result.exitCode = last.stop.context.rdi ∧
    result.finalContext = last.stop.context
  output : result.output = state.transcript.output ++ exchanges.flatMap Exchange.written
  events : result.events = state.events ++ exchanges.flatMap Exchange.events
  count : result.gateStopCount = state.gateStopCount + UInt64.ofNat exchanges.length

end Conversation

/-! ### What a session is -/

section Sessions

variable {σ : Type} {image : GuestImage} {preparedMemory : LinuxPreparedMemory}
  {registry : HleRegistry} {gateRegion : SyntheticGateRegion} {reserved : List GuestRange}
  {environment environment' : SignalEnvironment σ} {state : SessionState}
  {result : LinuxSyntheticSessionResult}

variable {stop : FaultStop} {answer : HleHandlerResult}

/-- A stop that the guest left by, and that is served, is at a gate. -/
theorem gate_of_leavesBy {previous : GuestSignal → SignalAction} {signals : List SignalDelivery}
    (hleft : LeavesBy image [] (some gateRegion) [] previous signals (.stopped stop))
    (hreason : stop.reason = .hostGate) :
    gateRegion.slotAddress stop.gateSlot = some ⟨stop.context.rip⟩ := by
  obtain ⟨before, delivery, later, -, -, hclaims⟩ := hleft
  cases hclaims with
  | gate context slot hcontext hsignal hgate =>
    obtain ⟨region, hregion, haddress⟩ := hgate
    cases hregion
    exact haddress
  | registered context hcontext hsignal howned hgate hsite => cases hreason
  | fault context hcontext hinfo howned hgate hsite => cases hreason

theorem mem_bindings (hbuilt : GateRegionBuilt registry image reserved gateRegion) {slot : UInt32}
    {binding : GateBinding} (h : gateRegion.bindingForSlot slot = some binding) :
    ⟨slot, binding.functionId⟩ ∈ gateRegion.bindings := by
  obtain ⟨hmem, rfl⟩ := hbuilt.bindingForSlot_eq_some.mp h
  exact hmem

section

variable {called after : HleDispatchState} {context : GuestCpuContext} {gateSlot : UInt32}
  {id : HleFunctionId} {memory : GuestMemoryAccess}
  (h : Serves memory gateSlot context called id answer after)

include h

/-- A served call writes what the exchange adds to the output. -/
theorem output_of_serves :
    after.output = called.output ++
      if id = kSyntheticTestWriteId then load called.guestBytes context.rdi.toNat context.rsi.toNat
        else [] := by
  cases h with
  | created hcreated hwritable =>
    rw [if_neg (by decide), List.append_nil]
    rfl
  | wrote hreadable => rw [if_pos rfl]
  | ended => rw [if_neg (by decide), List.append_nil]

/-- The service that ends the guest is the only one that does. -/
theorem exit_of_serves (hexit : answer.action = .exit) :
    id = kSyntheticTestExitId ∧ answer.value = context.rdi := by
  cases h with
  | created hcreated hwritable => cases hexit
  | wrote hreadable => cases hexit
  | ended => exact ⟨rfl, rfl⟩

end

theorem serveStop_eq_ok {host : Host} {next : SessionState ⊕ LinuxSyntheticSessionResult}
    (h : serveStop image preparedMemory registry gateRegion host state stop = .ok next) :
    stop.reason = .hostGate ∧
    ∃ binding handler after, gateRegion.bindingForSlot stop.gateSlot = some binding ∧
      Serves (sessionMemory image preparedMemory) stop.gateSlot stop.context state.transcript
        binding.functionId handler after ∧
      ((handler.action = .exit ∧ next = .inr
          { exitCode := handler.value
            gateStopCount := state.gateStopCount + 1
            finalContext := stop.context
            output := after.output
            events :=
              state.events ++ [stopEvent gateRegion .gateStop stop.context stop.gateSlot 0] ++
              [stopEvent gateRegion .hleExit stop.context stop.gateSlot handler.value] }) ∨
        (handler.action = .resume ∧ ∃ resumed,
          ResumesAt (sessionMemory image preparedMemory) after.guestBytes stop.context handler.value
            resumed ∧ next = .inl
          { context := resumed
            transcript := after
            gateStopCount := state.gateStopCount + 1
            events :=
              state.events ++ [stopEvent gateRegion .gateStop stop.context stop.gateSlot 0] ++
              [stopEvent gateRegion .hleResume resumed stop.gateSlot handler.value] })) := by
  simp only [serveStop, bind_eq_ok, refuseIf_eq_ok, mapError_eq_ok, not_or, not_not] at h
  obtain ⟨_, -, _, ⟨hreason, -⟩, handler, hdispatch, h⟩ := h
  obtain ⟨binding, hbinding, hserves⟩ := dispatchHle_eq_ok (Prod.ext hdispatch rfl)
  refine ⟨hreason, binding, handler, _, hbinding, hserves, ?_⟩
  split_ifs at h with hexit
  · exact .inl ⟨hexit, (pure_eq_ok.mp h).symm⟩
  · simp only [bind_eq_ok, mapError_eq_ok, pure_eq_ok] at h
    obtain ⟨resumed, hresumed, rfl⟩ := h
    have hresume : handler.action = .resume := by
      cases haction : handler.action with
      | resume => rfl
      | exit => exact absurd haction hexit
    exact .inr ⟨hresume, resumed, applyHleResume_eq_ok hresumed, rfl⟩

/-- A session that ends well has got through its first episode: it ends with it, or goes on behind
it. -/
theorem syntheticSessionLoop_cons_eq_ok {episode : SessionEpisode σ}
    {later : List (SessionEpisode σ)}
    (h : syntheticSessionLoop image preparedMemory registry gateRegion environment state
      (episode :: later) = .returned (.ok result) environment') :
    ∃ stop entryEnvironment next,
      enterLinuxGuest episode.entryHost environment image preparedMemory state.transcript.guestBytes
        state.context []
        episode.activity gateRegion = .returned (.ok stop) entryEnvironment ∧
      serveStop image preparedMemory registry gateRegion episode.host
        ⟨state.context, { state.transcript with guestBytes := episode.activity.bytes },
          state.gateStopCount, state.events ++
          [⟨.guestEntry, state.context.rip, state.context.rsp, none, none, 0⟩]⟩ stop = .ok next ∧
      next.elim
        (fun state' => syntheticSessionLoop image preparedMemory registry gateRegion
          entryEnvironment state' later = .returned (.ok result) environment')
        fun last => last = result ∧ entryEnvironment = environment' := by
  rw [syntheticSessionLoop] at h
  dsimp only at h
  cases hentered :
    enterLinuxGuest episode.entryHost environment image preparedMemory state.transcript.guestBytes
      state.context [] episode.activity gateRegion with
  | processEnded =>
    simp only [hentered] at h
    cases h
  | running =>
    simp only [hentered] at h
    cases h
  | returned entry entryEnvironment =>
    cases entry with
    | error e =>
      simp only [hentered] at h
      cases h
    | ok stop =>
      simp only [hentered] at h
      cases hserve : serveStop image preparedMemory registry gateRegion episode.host
          ⟨state.context, { state.transcript with guestBytes := episode.activity.bytes },
            state.gateStopCount, state.events ++
            [⟨.guestEntry, state.context.rip, state.context.rsp, none, none, 0⟩]⟩ stop with
      | error e =>
        simp only [hserve] at h
        cases h
      | ok next =>
        simp only [hserve] at h
        refine ⟨stop, entryEnvironment, next, rfl, hserve, ?_⟩
        cases next with
        | inl state' => exact h
        | inr last =>
          simp only [SessionRun.returned.injEq, Except.ok.injEq] at h
          exact h

theorem conversation_of_syntheticSessionLoop
    (hbuilt : GateRegionBuilt registry image reserved gateRegion)
    {episodes : List (SessionEpisode σ)}
    (h : syntheticSessionLoop image preparedMemory registry gateRegion environment state episodes =
      .returned (.ok result) environment') :
    environment' = environment ∧ ∃ exchanges, exchanges.map Exchange.episode <+: episodes ∧
      Conversation image preparedMemory gateRegion environment state.context state.transcript
        exchanges ∧
      ResultOf state exchanges result := by
  induction episodes generalizing state with
  | nil => cases h
  | cons episode later ih =>
    obtain ⟨stop, entryEnvironment, next, hentered, hserve, hrest⟩ :=
      syntheticSessionLoop_cons_eq_ok h
    have hgates : GatesBuilt registry reserved image (some gateRegion) := fun region hregion => by
      cases hregion
      exact hbuilt
    obtain ⟨hchecked, rfl, hleft⟩ := enterLinuxGuest_eq_ok hgates hentered
    obtain ⟨hreason, binding, handler, after, hbinding, hserves, hnext⟩ := serveStop_eq_ok hserve
    have hexchanged : ∀ resumed, Exchanged image preparedMemory gateRegion entryEnvironment
        ⟨state.context, state.transcript, episode, stop, binding.functionId, handler, after,
          resumed⟩ := fun resumed =>
      ⟨checkEntry_eq_ok hchecked, hleft, gate_of_leavesBy hleft hreason,
        mem_bindings hbuilt hbinding, hserves⟩
    have houtput : after.output = state.transcript.output ++ Exchange.written
        ⟨state.context, state.transcript, episode, stop, binding.functionId, handler, after,
          stop.context⟩ :=
      output_of_serves hserves
    rcases hnext with ⟨hexit, rfl⟩ | ⟨hresume, resumed, hresumes, rfl⟩
    · obtain ⟨rfl, rfl⟩ := hrest
      obtain ⟨hid, hvalue⟩ := exit_of_serves hserves hexit
      have hconversation := Conversation.last _ (hexchanged stop.context) hexit rfl
      refine ⟨rfl, _, ⟨later, rfl⟩, hconversation, ⟨_, rfl, hid, hvalue, rfl⟩, ?_, ?_, rfl⟩
      · rw [houtput, List.flatMap_singleton]
      · simp [Exchange.events, stopEvent, hbinding, hexit]
    · obtain ⟨rfl, exchanges, hprefix, hconversation, ⟨last, hlast, hend⟩, hout, hevents, hcount⟩ :=
        ih hrest
      have hmore :=
        Conversation.more _ exchanges (hexchanged resumed) hresume hresumes hconversation
      refine ⟨rfl, ⟨state.context, state.transcript, episode, stop, binding.functionId, handler,
        after, resumed⟩ :: exchanges, ?_, hmore, ⟨last, ?_, hend⟩, ?_, ?_, ?_⟩
      · exact (List.prefix_cons_inj episode).mpr hprefix
      · rw [Option.mem_def] at hlast
        rw [Option.mem_def, List.getLast?_cons, hlast, Option.getD_some]
      · rw [hout, houtput, List.flatMap_cons, List.append_assoc]
        rfl
      · rw [hevents]
        simp [Exchange.events, stopEvent, hbinding, hresume]
      · rw [hcount, List.length_cons, Nat.add_comm, UInt64.ofNat_add, UInt64.add_assoc]
        rfl

/-- **A session that ends well is a conversation**, whatever the guest does in it. Its result is
that of its exchanges, and what was set for the signals before it is set behind it. -/
theorem syntheticSession_conversation (hbuilt : GateRegionBuilt registry image reserved gateRegion)
    {bytes : ℕ → UInt8} {initialContext : GuestCpuContext} {episodes : List (SessionEpisode σ)}
    (h : runLinuxSyntheticSession image preparedMemory registry gateRegion environment bytes
      initialContext episodes = .returned (.ok result) environment') :
    environment' = environment ∧ ∃ exchanges, exchanges.map Exchange.episode <+: episodes ∧
      Conversation image preparedMemory gateRegion environment initialContext
        ⟨[], ⟨[]⟩, bytes⟩ exchanges ∧
      ResultOf { context := initialContext, transcript := ⟨[], ⟨[]⟩, bytes⟩ } exchanges result :=
  conversation_of_syntheticSessionLoop hbuilt h

/-- Two gates: the first is bound to the service that writes, the second to the one that ends the
guest. -/
def talkingGate : SyntheticGateRegion where
  range := twoGates
  slotCount := 2
  bindings := [⟨0, kSyntheticTestWriteId⟩, ⟨1, kSyntheticTestExitId⟩]

/-- The two services. -/
def talkingRegistry : HleRegistry :=
  ⟨[⟨kSyntheticTestWriteId, [0x77], 1⟩, ⟨kSyntheticTestExitId, [0x78], 1⟩]⟩

/-- Guest memory with two bytes to write, and a return address on the stack. -/
def talkingBytes : ℕ → UInt8
  | 0x2000 => 0x68
  | 0x2001 => 0x69
  | 0x8800 => 0x08
  | 0x8801 => 0x10
  | _ => 0

/-- A guest that leaves through a gate. -/
def guestAtGate (registers : GuestCpuContext) : SessionEpisode Unit :=
  ⟨grantingHost, Host.plentiful, ⟨[⟨.sigill, none, some registers⟩], talkingBytes⟩⟩

/-- The registers with which the guest asks for its bytes to be written. -/
def writingContext : GuestCpuContext :=
  { rip := 0x20000, rsp := 0x8800, rdi := 0x2000, rsi := 2, rflags := 2 }

/-- Those with which it ends. -/
def endingContext : GuestCpuContext := { rip := 0x20010, rsp := 0x8808, rdi := 5, rflags := 2 }

theorem talkingGate_built : GateRegionBuilt talkingRegistry dataImage [] talkingGate where
  size := rfl
  positive := by decide
  inside := by decide
  known := by
    intro binding hbinding
    rcases List.mem_pair.mp hbinding with rfl | rfl
    · exact ⟨_, rfl⟩
    · exact ⟨_, rfl⟩
  slots := by decide
  apart := by
    intro x hx
    have hrange : 0x20000 ≤ x ∧ x < 0x20020 := hx
    refine ⟨fun mapping hmapping hin => ?_, fun hin => ?_, fun range hrange =>
      absurd hrange List.not_mem_nil⟩
    · rcases List.mem_pair.mp hmapping with rfl | rfl
      · have hcode : 0x1000 ≤ x ∧ x < 0x1010 := hin
        omega
      · have hdata : 0x2000 ≤ x ∧ x < 0x2020 := hin
        omega
    · have hstack : 0x8000 ≤ x ∧ x < 0x9000 := hin
      omega

/-- The registers with which the guest begins. -/
def talkingContext : GuestCpuContext := { rip := 0x1000, rsp := 0x8808, rflags := 2 }

/-- The session of that guest. -/
def talkingSession : SessionRun Unit :=
  runLinuxSyntheticSession dataImage dataPrepared talkingRegistry talkingGate plainEnvironment
    talkingBytes talkingContext
    [guestAtGate writingContext, guestAtGate endingContext]

/-- A session of two exchanges: the guest has two bytes written, goes on behind the call, and ends.
-/
theorem syntheticSession_conversation_example :
    ∃ result exchanges, talkingSession = .returned (.ok result) plainEnvironment ∧
      result.output = [0x68, 0x69] ∧ result.exitCode = 5 ∧ result.gateStopCount = 2 ∧
      Conversation dataImage dataPrepared talkingGate plainEnvironment talkingContext
        ⟨[], ⟨[]⟩, talkingBytes⟩ exchanges ∧
      ResultOf { context := talkingContext, transcript := ⟨[], ⟨[]⟩, talkingBytes⟩ } exchanges
        result := by
  have hends : (match talkingSession with
      | .returned (.ok result) _ => decide (result.output = [0x68, 0x69] ∧ result.exitCode = 5 ∧
          result.gateStopCount = 2)
      | _ => false) = true := by
    decide +kernel
  split at hends
  · next result environment hran =>
    obtain ⟨hsame, exchanges, -, hconversation, hresult⟩ :=
      syntheticSession_conversation talkingGate_built hran
    obtain ⟨houtput, hexit, hcount⟩ := of_decide_eq_true hends
    rw [hsame] at hran
    exact ⟨result, exchanges, hran, houtput, hexit, hcount, hconversation, hresult⟩
  · cases hends

end Sessions

end Astraea.Execution
