import Astraea.Base.Duplex

/-!
# Messages over a stream of bytes

A `Program` reads and writes blocks of bytes on a stream that may take or give fewer of them at once
than asked for, so that each block is a loop of calls. `Program.bytes` is the process that moves one
byte at a time, and each call is some steps of it (`Connection.Call.runs`): what holds of processes,
in any order of their steps, holds of programs however their blocks are cut
(`Connection.all_calls`).

A `Framing` puts a message into a header and a body, whose size the header tells. `Process.framed`
is the program that sends frames for messages. Hand-shakes over messages are hand-shakes over the
bytes of their frames (`Rendezvous.framed`), and whatever bytes arrive, the program behaves like the
process on the messages that they begin with (`Process.behaves_framed`).
-/

namespace Astraea.Base

/-! ### Blocks -/

namespace Process

variable {Byte Failure Exit Result : Type}

/-- The bytes are sent one after the other. -/
def sendAll (failed : Failure → Result) (next : Process Byte Failure Exit Result) :
    List Byte → Process Byte Failure Exit Result
  | [] => next
  | byte :: bytes => .send byte failed (sendAll failed next bytes)

/-- So many bytes are received one after the other. -/
def receiveAll (failed : Failure → Result) :
    ℕ → (List Byte → Process Byte Failure Exit Result) → Process Byte Failure Exit Result
  | 0, next => next []
  | size + 1, next =>
    .receive failed fun byte => receiveAll failed size fun bytes => next (byte :: bytes)

theorem sendAll_append (failed : Failure → Result) (next : Process Byte Failure Exit Result)
    (bytes rest : List Byte) :
    sendAll failed next (bytes ++ rest) = sendAll failed (sendAll failed next rest) bytes := by
  induction bytes with
  | nil => rfl
  | cons byte bytes ih => rw [List.cons_append, sendAll, sendAll, ih]

end Process

/-- A program between two of its blocks. -/
inductive Program (Byte Failure Exit Result : Type) where
  | done (result : Result)
  | write (bytes : List Byte) (failed : Failure → Result) (next : Program Byte Failure Exit Result)
  | read (size : ℕ) (failed : Failure → Result)
      (next : List Byte → Program Byte Failure Exit Result)
  | wait (failed : Failure → Result) (next : Exit → Program Byte Failure Exit Result)

namespace Program

section Program

variable {Byte Failure Exit Result : Type}

/-- The process that moves one byte at a time. -/
def bytes : Program Byte Failure Exit Result → Process Byte Failure Exit Result
  | done result => .done result
  | write block failed next => .sendAll failed next.bytes block
  | read size failed next => .receiveAll failed size fun block => (next block).bytes
  | wait failed next => .wait failed fun exit => (next exit).bytes

/-- A loop with nothing left to do is over. -/
def skip : Program Byte Failure Exit Result → Program Byte Failure Exit Result
  | write [] _ next => next.skip
  | read 0 _ next => (next []).skip
  | program => program

theorem bytes_skip (program : Program Byte Failure Exit Result) :
    program.skip.bytes = program.bytes := by
  induction program with
  | done result => rfl
  | write block failed next ih =>
    cases block with
    | nil => exact ih
    | cons byte block => rfl
  | read size failed next ih =>
    cases size with
    | zero => exact ih []
    | succ size => rfl
  | wait failed next ih => rfl

/-- What is skipped to is no loop with nothing left to do. -/
theorem skip_ne (program : Program Byte Failure Exit Result) (failed : Failure → Result) :
    (∀ next, program.skip ≠ .write [] failed next) ∧
      ∀ next, program.skip ≠ .read 0 failed next := by
  induction program with
  | done result =>
    constructor
    · rintro next ⟨⟩
    · rintro next ⟨⟩
  | write block failed' next' ih =>
    cases block with
    | nil => exact ih
    | cons byte block =>
      constructor
      · rintro next ⟨⟩
      · rintro next ⟨⟩
  | read size failed' next' ih =>
    cases size with
    | zero => exact ih []
    | succ size =>
      constructor
      · rintro next ⟨⟩
      · rintro next ⟨⟩
  | wait failed' next' ih =>
    constructor
    · rintro next ⟨⟩
    · rintro next ⟨⟩

variable [ChannelFailure Failure]

/-- One call: some of the bytes of a block are moved, at least one. The end of file is read, or the
end of the peer seen, where the peer is done. A call that was interrupted, or found nothing to do
yet, is made again. -/
inductive Act (capacity : Option ℕ) (peer : Option Exit) :
    Program Byte Failure Exit Result → (inbox outbox : List Byte) →
      Program Byte Failure Exit Result → (inbox outbox : List Byte) → Prop
  | write {program next : Program Byte Failure Exit Result} {chunk rest inbox outbox : List Byte}
      {failed : Failure → Result}
      (h : program.skip = .write (chunk ++ rest) failed next) (hsome : chunk ≠ [])
      (hroom : ∀ n ∈ capacity, outbox.length + chunk.length ≤ n) :
      Act capacity peer program inbox outbox (.write rest failed next) inbox (outbox ++ chunk)
  | read {program : Program Byte Failure Exit Result}
      {next : List Byte → Program Byte Failure Exit Result}
      {chunk inbox outbox : List Byte} {rest : ℕ} {failed : Failure → Result}
      (h : program.skip = .read (chunk.length + rest) failed next) (hsome : chunk ≠ []) :
      Act capacity peer program (chunk ++ inbox) outbox
        (.read rest failed fun block => next (chunk ++ block)) inbox outbox
  | endOfFile {program : Program Byte Failure Exit Result}
      {next : List Byte → Program Byte Failure Exit Result}
      {outbox : List Byte} {size : ℕ} {failed : Failure → Result} {exit : Exit}
      (h : program.skip = .read (size + 1) failed next) (hpeer : peer = some exit) :
      Act capacity peer program [] outbox (.done (failed ChannelFailure.endOfFile)) [] outbox
  | exit {program : Program Byte Failure Exit Result}
      {next : Exit → Program Byte Failure Exit Result}
      {inbox outbox : List Byte} {failed : Failure → Result} {exit : Exit}
      (h : program.skip = .wait failed next) (hpeer : peer = some exit) :
      Act capacity peer program inbox outbox (next exit) inbox outbox

end Program

end Program

/-! ### Calls are steps -/

section Calls

variable {Byte Failure Exit Result : Type} [ChannelFailure Failure] {capacity : Option ℕ}
  {peer : Option Exit}

/-- A process with the bytes for it and from it. -/
abbrev Endpoint (Byte Failure Exit Result : Type) :=
  Process Byte Failure Exit Result × List Byte × List Byte

/-- An operation of a process, as a step. -/
def EndpointStep (capacity : Option ℕ) (peer : Option Exit)
    (x y : Endpoint Byte Failure Exit Result) : Prop :=
  Process.Act capacity peer x.1 x.2.1 x.2.2 y.1 y.2.1 y.2.2

theorem runs_sendAll {failed : Failure → Result} {next : Process Byte Failure Exit Result}
    {chunk inbox outbox : List Byte} (hroom : ∀ n ∈ capacity, outbox.length + chunk.length ≤ n) :
    RunsIn (EndpointStep capacity peer) chunk.length (.sendAll failed next chunk, inbox, outbox)
      (next, inbox, outbox ++ chunk) := by
  induction chunk generalizing outbox with
  | nil =>
    rw [List.append_nil]
    exact .refl _
  | cons byte chunk ih =>
    have hfirst : HasRoom capacity outbox := by
      intro n hn
      have hall := hroom n hn
      rw [List.length_cons] at hall
      omega
    have hrest := @ih (outbox ++ [byte]) fun n hn => by
      have hall := hroom n hn
      rw [List.length_cons] at hall
      rw [List.length_append, List.length_singleton]
      omega
    rw [List.append_assoc, List.singleton_append] at hrest
    have hstep : EndpointStep capacity peer (.sendAll failed next (byte :: chunk), inbox, outbox)
        (.sendAll failed next chunk, inbox, outbox ++ [byte]) := Process.Act.send hfirst
    exact .head hstep hrest

theorem runs_receiveAll {failed : Failure → Result}
    {next : List Byte → Process Byte Failure Exit Result} {chunk inbox outbox : List Byte}
    {rest : ℕ} :
    RunsIn (EndpointStep capacity peer) chunk.length
      (.receiveAll failed (chunk.length + rest) next, chunk ++ inbox, outbox)
      (.receiveAll failed rest fun block => next (chunk ++ block), inbox, outbox) := by
  induction chunk generalizing next with
  | nil =>
    rw [List.length_nil, Nat.zero_add]
    exact .refl _
  | cons byte chunk ih =>
    rw [List.length_cons, Nat.add_right_comm]
    have hstep : EndpointStep capacity peer (.receiveAll failed (chunk.length + rest + 1) next,
      byte :: chunk ++ inbox, outbox)
        (.receiveAll failed (chunk.length + rest) fun block => next (byte :: block), chunk ++ inbox,
          outbox) :=
      Process.Act.receive
    exact .head hstep ih

theorem Program.Act.runs {program next : Program Byte Failure Exit Result}
    {inbox outbox inbox' outbox' : List Byte}
    (h : Program.Act capacity peer program inbox outbox next inbox' outbox') :
    ∃ n, RunsIn (EndpointStep capacity peer) (n + 1) (program.bytes, inbox, outbox)
      (next.bytes, inbox', outbox') := by
  rw [← program.bytes_skip]
  cases h with
  | write hskip hsome hroom =>
    obtain ⟨n, hn⟩ :=
      Nat.exists_eq_succ_of_ne_zero fun hzero => hsome (List.length_eq_zero_iff.mp hzero)
    refine ⟨n, ?_⟩
    rw [hskip, bytes, Process.sendAll_append, ← Nat.succ_eq_add_one, ← hn]
    exact runs_sendAll hroom
  | read hskip hsome =>
    obtain ⟨n, hn⟩ :=
      Nat.exists_eq_succ_of_ne_zero fun hzero => hsome (List.length_eq_zero_iff.mp hzero)
    refine ⟨n, ?_⟩
    rw [hskip, bytes, ← Nat.succ_eq_add_one, ← hn]
    exact runs_receiveAll
  | endOfFile hskip hpeer =>
    refine ⟨0, ?_⟩
    rw [hskip]
    exact .single (.endOfFile hpeer)
  | exit hskip hpeer =>
    refine ⟨0, ?_⟩
    rw [hskip]
    exact .single (.exit hpeer)

/-- Where the process can take a step, the program can make a call. -/
theorem Program.exists_act {program : Program Byte Failure Exit Result}
    {process : Process Byte Failure Exit Result} {inbox outbox inbox' outbox' : List Byte}
    (h : Process.Act capacity peer program.bytes inbox outbox process inbox' outbox') :
    ∃ next inbox'' outbox'',
      Program.Act capacity peer program inbox outbox next inbox'' outbox'' := by
  rw [← program.bytes_skip] at h
  cases hskip : program.skip with
  | done result =>
    rw [hskip] at h
    cases h
  | write block failed next =>
    rw [hskip] at h
    cases block with
    | nil => exact absurd hskip ((skip_ne program failed).1 next)
    | cons byte block =>
      cases h with
      | send hroom =>
        exact ⟨_, _, _, @Program.Act.write _ _ _ _ _ _ _ program next [byte] block inbox outbox
          failed hskip (by simp) fun n hn => hroom n hn⟩
  | read size failed next =>
    rw [hskip] at h
    cases size with
    | zero => exact absurd hskip ((skip_ne program failed).2 next)
    | succ size =>
      cases h with
      | @receive byte =>
        refine ⟨_, _, _, @Program.Act.read _ _ _ _ _ _ _ program next [byte] inbox' outbox size
          failed ?_ (by simp)⟩
        rw [hskip, List.length_singleton, Nat.add_comm]
      | endOfFile hpeer => exact ⟨_, _, _, .endOfFile hskip hpeer⟩
  | wait failed next =>
    rw [hskip] at h
    cases h with
    | exit hpeer => exact ⟨_, _, _, .exit hskip hpeer⟩

end Calls

/-! ### Two programs -/

/-- The result, of a program whose loops are all over. -/
def Program.result? {Byte Failure Exit Result : Type} (program : Program Byte Failure Exit Result) :
    Option Result :=
  program.bytes.result?

/-- Two programs, and the bytes under way to each. -/
structure Connection (Byte Failure R S : Type) where
  left : Program Byte Failure S R
  right : Program Byte Failure R S
  toLeft : List Byte
  toRight : List Byte

namespace Connection

section Connection

variable {Byte Failure R S : Type}

/-- Nothing is under way yet. -/
def start (left : Program Byte Failure S R) (right : Program Byte Failure R S) :
    Connection Byte Failure R S :=
  ⟨left, right, [], []⟩

/-- The processes that move one byte at a time. -/
def bytes (connection : Connection Byte Failure R S) : Duplex Byte Failure R S :=
  ⟨connection.left.bytes, connection.right.bytes, connection.toLeft, connection.toRight⟩

variable [ChannelFailure Failure]

/-- A call of either side. -/
inductive Call (capacity : Option ℕ) :
    Connection Byte Failure R S → Connection Byte Failure R S → Prop
  | left {connection : Connection Byte Failure R S} {next : Program Byte Failure S R}
      {inbox outbox : List Byte}
      (h : Program.Act capacity connection.right.result? connection.left connection.toLeft
        connection.toRight next inbox outbox) : Call capacity connection
        ⟨next, connection.right, inbox, outbox⟩
  | right {connection : Connection Byte Failure R S} {next : Program Byte Failure R S}
      {inbox outbox : List Byte}
      (h : Program.Act capacity connection.left.result? connection.right connection.toRight
        connection.toLeft next inbox outbox) : Call capacity connection
        ⟨connection.left, next, outbox, inbox⟩

/-- A call, or one of the sides meets a fate. -/
inductive Disturbed (meets : Process Byte Failure S R → R → Prop)
    (meets' : Process Byte Failure R S → S → Prop) (capacity : Option ℕ) :
    Connection Byte Failure R S → Connection Byte Failure R S → Prop
  | call {connection connection' : Connection Byte Failure R S}
      (h : Call capacity connection connection') :
      Disturbed meets meets' capacity connection connection'
  | left {connection : Connection Byte Failure R S} {r : R} (hlive : connection.left.result? = none)
      (hmeets : meets connection.left.bytes r) :
        Disturbed meets meets' capacity connection { connection with left := .done r }
  | right {connection : Connection Byte Failure R S} {s : S}
      (hlive : connection.right.result? = none)
      (hmeets : meets' connection.right.bytes s) :
      Disturbed meets meets' capacity connection { connection with right := .done s }

variable {capacity : Option ℕ} {connection connection' : Connection Byte Failure R S}
  {meets : Process Byte Failure S R → R → Prop} {meets' : Process Byte Failure R S → S → Prop}
  {left : Program Byte Failure S R} {right : Program Byte Failure R S} {n : ℕ}

theorem runs_left {x y : Endpoint Byte Failure S R} {right : Process Byte Failure R S}
    (h : RunsIn (EndpointStep capacity right.result?) n x y) :
    RunsIn (Duplex.Step capacity) n ⟨x.1, right, x.2.1, x.2.2⟩ ⟨y.1, right, y.2.1, y.2.2⟩ := by
  induction h with
  | refl x => exact .refl _
  | head hstep hrest ih => exact .head (.left hstep) ih

theorem runs_right {x y : Endpoint Byte Failure R S} {left : Process Byte Failure S R}
    (h : RunsIn (EndpointStep capacity left.result?) n x y) :
    RunsIn (Duplex.Step capacity) n ⟨left, x.1, x.2.2, x.2.1⟩ ⟨left, y.1, y.2.2, y.2.1⟩ := by
  induction h with
  | refl x => exact .refl _
  | head hstep hrest ih => exact .head (.right hstep) ih

theorem Call.runs (h : Call capacity connection connection') :
    ∃ n, RunsIn (Duplex.Step capacity) (n + 1) connection.bytes connection'.bytes := by
  cases h with
  | left h =>
    obtain ⟨n, hn⟩ := h.runs
    exact ⟨n, runs_left hn⟩
  | right h =>
    obtain ⟨n, hn⟩ := h.runs
    exact ⟨n, runs_right hn⟩

theorem runs_of_calls (h : RunsIn (Call capacity) n connection connection') :
    ∃ m, n ≤ m ∧ RunsIn (Duplex.Step capacity) m connection.bytes connection'.bytes := by
  induction h with
  | refl connection => exact ⟨0, Nat.le_refl 0, .refl _⟩
  | head hcall hrest ih =>
    obtain ⟨first, hfirst⟩ := hcall.runs
    obtain ⟨rest, hle, hrest⟩ := ih
    exact ⟨first + 1 + rest, by omega, hfirst.trans hrest⟩

theorem exists_call {duplex : Duplex Byte Failure R S}
    (h : Duplex.Step capacity connection.bytes duplex) :
    ∃ connection', Call capacity connection connection' := by
  cases h with
  | left h =>
    obtain ⟨next, inbox, outbox, hact⟩ := Program.exists_act h
    exact ⟨_, .left hact⟩
  | right h =>
    obtain ⟨next, inbox, outbox, hact⟩ := Program.exists_act h
    exact ⟨_, .right hact⟩

theorem runs_of_disturbed (h : RunsIn (Disturbed meets meets' capacity) n connection connection') :
    ∃ m, RunsIn (Duplex.Disturbed meets meets' capacity) m connection.bytes connection'.bytes := by
  induction h with
  | refl connection => exact ⟨0, .refl _⟩
  | head hstep hrest ih =>
    obtain ⟨rest, hrest⟩ := ih
    cases hstep with
    | call hcall =>
      obtain ⟨first, hfirst⟩ := hcall.runs
      exact ⟨_, (hfirst.mono fun _ _ => .step).trans hrest⟩
    | left hlive hmeets => exact ⟨_, .head (.left hlive hmeets) hrest⟩
    | right hlive hmeets => exact ⟨_, .head (.right hlive hmeets) hrest⟩

variable {valid : Byte → Prop}

section

variable {r : R} {s : S} (h : Rendezvous valid left.bytes right.bytes r s)

include h

/-- **Hand-shakes over the bytes decide every run of calls**: there are only so many calls, and
until both programs have the results of the hand-shakes, and nothing is under way, there is a next
one. -/
theorem all_calls :
    ∃ bound, ∀ capacity, HasRoom capacity ([] : List Byte) → ∀ n connection,
      RunsIn (Call capacity) n (start left right) connection →
        n ≤ bound ∧ ((∃ next, Call capacity connection next) ∨ connection.left.result? = some r ∧
          connection.right.result? = some s ∧ connection.toLeft = [] ∧
          connection.toRight = []) := by
  obtain ⟨bound, hbound⟩ := h.all_runs
  refine ⟨bound, fun capacity hroom n connection hrun => ?_⟩
  obtain ⟨m, hle, hsteps⟩ := runs_of_calls hrun
  obtain ⟨k, rfl, hrest⟩ := hbound capacity hroom m _ hsteps
  refine ⟨by omega, ?_⟩
  rcases hrest.eq_or_step with hend | ⟨duplex, hstep⟩
  · have hleft : connection.left.bytes = .done r := congrArg Duplex.left hend
    have hright : connection.right.bytes = .done s := congrArg Duplex.right hend
    have htoLeft : connection.toLeft = [] := congrArg Duplex.toLeft hend
    have htoRight : connection.toRight = [] := congrArg Duplex.toRight hend
    exact .inr ⟨Process.result?_eq_some.mpr hleft, Process.result?_eq_some.mpr hright, htoLeft,
      htoRight⟩
  · exact .inl (exists_call hstep)

theorem exists_end (hroom : HasRoom capacity ([] : List Byte)) :
    ∃ n connection, RunsIn (Call capacity) n (start left right) connection ∧
      connection.left.result? = some r ∧
      connection.right.result? = some s := by
  obtain ⟨bound, hbound⟩ := all_calls h
  obtain ⟨n, connection, hrun, hfinal⟩ :=
    RunsIn.exists_final fun n connection hrun => (hbound capacity hroom n connection hrun).1
  obtain ⟨-, ⟨next, hcall⟩ | ⟨hr, hs, -, -⟩⟩ := hbound capacity hroom n connection hrun
  · exact absurd hcall (hfinal next)
  · exact ⟨n, connection, hrun, hr, hs⟩

/-- **Failing is all that can go wrong**, for programs. -/
theorem disturbed_calls {fate : R → Prop} {fate' : S → Prop} (hleft : left.bytes.FailsIn fate fate')
    (hright : right.bytes.FailsIn fate' fate) (hmeets : ∀ process r, meets process r → fate r)
    (hmeets' : ∀ process s, meets' process s → fate' s)
    (hrun : RunsIn (Disturbed meets meets' capacity) n (start left right) connection) :
    (∀ r', connection.left.result? = some r' → fate r' ∨ r' = r) ∧
      ∀ s', connection.right.result? = some s' → fate' s' ∨ s' = s := by
  obtain ⟨m, hm⟩ := runs_of_disturbed hrun
  obtain ⟨hr, hs⟩ := h.disturbed hleft hright hmeets hmeets' hm
  exact ⟨fun r' hr' => hr r' (Process.result?_eq_some.mp hr'),
    fun s' hs' => hs s' (Process.result?_eq_some.mp hs')⟩

end

end Connection

end Connection

/-! ### Frames -/

/-- How a message is put into a header and a body, and told from them. -/
structure Framing (Message ε Byte : Type) where
  encode : Message → Except ε (List Byte)
  headerSize : ℕ
  bodySize : List Byte → Except ε ℕ
  decode : List Byte → Except ε Message

/-- Each frame is that of one message, and its header tells its size. -/
structure Framing.Lawful {Message ε Byte : Type} (framing : Framing Message ε Byte) : Prop where
  headerSize_ne_zero : framing.headerSize ≠ 0
  decode_eq_ok : ∀ frame message, framing.decode frame = .ok message ↔
    framing.encode message = .ok frame
  header : ∀ frame message, framing.encode message = .ok frame →
    ∃ header body, frame = header ++ body ∧
    header.length = framing.headerSize ∧ framing.bodySize header = .ok body.length

/-- A failure of the stream, or of what came over it. -/
inductive TransportFailure (ι ε : Type) where
  | io (failure : ι)
  | wire (error : ε)

instance {ι ε : Type} [ChannelFailure ι] : ChannelFailure (TransportFailure ι ε) := ⟨.io endOfFile⟩

section Framing

variable {Message ε Byte ι R S Exit Result : Type} (framing : Framing Message ε Byte)

/-- The program that sends and receives the frames of the messages. -/
def Process.framed : Process Message (TransportFailure ι ε) Exit Result → Program Byte ι Exit Result
  | .done result => .done result
  | .send message failed next =>
    match framing.encode message with
    | .error e => .done (failed (.wire e))
    | .ok frame => .write frame (fun failure => failed (.io failure)) (framed next)
  | .receive failed next =>
    .read framing.headerSize (fun failure => failed (.io failure)) fun header =>
      match framing.bodySize header with
      | .error e => .done (failed (.wire e))
      | .ok size => .read size (fun failure => failed (.io failure)) fun body =>
        match framing.decode (header ++ body) with
        | .error e => .done (failed (.wire e))
        | .ok message => framed (next message)
  | .wait failed next => .wait (fun failure => failed (.io failure)) fun exit => framed (next exit)

/-- The bytes of the frames of the messages. -/
def Framing.frames (messages : List Message) : List Byte :=
  messages.flatMap fun message =>
    match framing.encode message with
    | .ok frame => frame
    | .error _ => []

variable {framing}

variable {block : List Byte} {fate : Result → Prop} {peerFate : Exit → Prop} {failed : ι → Result}
  {result : Result}

variable {failed' : ι → S} {next : Process Byte ι Exit Result}
  {process : Process Message (TransportFailure ι ε) Exit Result}

theorem Rendezvous.sendAll_toRight [ChannelFailure ι] {failed : ι → R} {next : Process Byte ι S R}
    {next' : List Byte → Process Byte ι R S} {r : R} {s : S}
    (h : Rendezvous (fun _ => True) next (next' block) r s) :
    Rendezvous (fun _ => True) (.sendAll failed next block)
      (.receiveAll failed' block.length next') r s := by
  induction block generalizing next' with
  | nil => exact h
  | cons byte block ih => exact .toRight trivial (ih h)

theorem Rendezvous.sendAll_toLeft [ChannelFailure ι] {failed : ι → R}
    {next : List Byte → Process Byte ι S R} {next' : Process Byte ι R S} {r : R} {s : S}
    (h : Rendezvous (fun _ => True) (next block) next' r s) :
    Rendezvous (fun _ => True) (.receiveAll failed block.length next)
      (.sendAll failed' next' block) r s := by
  induction block generalizing next with
  | nil => exact h
  | cons byte block ih => exact .toLeft trivial (ih h)

/-- **Hand-shakes over messages are hand-shakes over their frames.** -/
theorem Rendezvous.framed [ChannelFailure ι] {valid : Message → Prop} (hlawful : framing.Lawful)
    (hvalid : ∀ message, valid message → ∃ frame, framing.encode message = .ok frame)
    {left : Process Message (TransportFailure ι ε) S R}
    {right : Process Message (TransportFailure ι ε) R S} {r : R} {s : S}
    (h : Rendezvous valid left right r s) :
    Rendezvous (fun _ => True) (left.framed framing).bytes (right.framed framing).bytes r s := by
  obtain ⟨size, hsize⟩ := Nat.exists_eq_succ_of_ne_zero hlawful.headerSize_ne_zero
  induction h with
  | done => exact .done
  | @toRight message failed failed' next next' r s hmessage h ih =>
    obtain ⟨frame, hframe⟩ := hvalid message hmessage
    have hdecode := (hlawful.decode_eq_ok frame message).mpr hframe
    obtain ⟨header, body, rfl, hheader, hbody⟩ := hlawful.header frame message hframe
    simp only [Process.framed, Program.bytes, hframe, Process.sendAll_append, ← hheader]
    refine .sendAll_toRight ?_
    simp only [hbody, Program.bytes]
    refine .sendAll_toRight ?_
    simp only [hdecode]
    exact ih
  | @toLeft message failed failed' next next' r s hmessage h ih =>
    obtain ⟨frame, hframe⟩ := hvalid message hmessage
    have hdecode := (hlawful.decode_eq_ok frame message).mpr hframe
    obtain ⟨header, body, rfl, hheader, hbody⟩ := hlawful.header frame message hframe
    simp only [Process.framed, Program.bytes, hframe, Process.sendAll_append, ← hheader]
    refine .sendAll_toLeft ?_
    simp only [hbody, Program.bytes]
    refine .sendAll_toLeft ?_
    simp only [hdecode]
    exact ih
  | rightEnds =>
    simp only [Process.framed, Program.bytes, hsize]
    exact .rightEnds
  | leftEnds =>
    simp only [Process.framed, Program.bytes, hsize]
    exact .leftEnds
  | leftWaits h ih => exact .leftWaits ih
  | rightWaits h ih => exact .rightWaits ih

theorem Process.FailsIn.sendAll (hfailed : ∀ failure, fate (failed failure))
    (h : next.FailsIn fate peerFate) :
    (Process.sendAll failed next block).FailsIn fate peerFate := by
  induction block with
  | nil => exact h
  | cons byte block ih => exact ⟨hfailed, ih⟩

theorem Process.FailsIn.receiveAll {size : ℕ} {next : List Byte → Process Byte ι Exit Result}
    (hfailed : ∀ failure, fate (failed failure)) (h : ∀ block, (next block).FailsIn fate peerFate) :
    (Process.receiveAll failed size next).FailsIn fate peerFate := by
  induction size generalizing next with
  | zero => exact h []
  | succ size ih => exact ⟨hfailed, fun byte => ih fun block => h (byte :: block)⟩

theorem Process.FailsIn.framed (h : process.FailsIn fate peerFate) :
    (process.framed framing).bytes.FailsIn fate peerFate := by
  induction process with
  | done result => trivial
  | send message failed next ih =>
    rw [Process.framed]
    cases framing.encode message with
    | error e => trivial
    | ok frame => exact .sendAll (fun failure => h.1 _) (ih h.2)
  | receive failed next ih =>
    rw [Process.framed, Program.bytes]
    refine .receiveAll (fun failure => h.1 _) fun header => ?_
    cases framing.bodySize header with
    | error e => trivial
    | ok size =>
      refine .receiveAll (fun failure => h.1 _) fun body => ?_
      dsimp only
      cases framing.decode (header ++ body) with
      | error e => trivial
      | ok message => exact ih message (h.2 message)
  | wait failed next ih =>
    refine ⟨fun failure => h.1 _, fun exit => ⟨ih exit (h.2 exit).1, fun hfate => ?_⟩⟩
    obtain ⟨result, hresult, hmeets⟩ := (h.2 exit).2 hfate
    refine ⟨result, ?_, hmeets⟩
    dsimp only
    rw [hresult]
    rfl

/-! ### What a framed process has seen -/

theorem Process.Behaves.of_sendAll {received sent : List Byte}
    (h : (Process.sendAll failed next block).Behaves received sent (.done result)) :
    (∃ sent', sent = block ++ sent' ∧ next.Behaves received sent' (.done result)) ∨
    ∃ failure, result = failed failure := by
  induction block generalizing sent with
  | nil => exact .inl ⟨sent, rfl, h⟩
  | cons byte block ih =>
    cases h with
    | send h =>
      rcases ih h with ⟨sent', rfl, hnext⟩ | hfailed
      · exact .inl ⟨sent', rfl, hnext⟩
      · exact .inr hfailed
    | fails h =>
      cases h with
      | send failure => exact .inr ⟨failure, rfl⟩

theorem Process.Behaves.of_receiveAll {size : ℕ} {next : List Byte → Process Byte ι Exit Result}
    {received sent : List Byte}
    (h : (Process.receiveAll failed size next).Behaves received sent (.done result)) :
    (∃ block received', received = block ++ received' ∧
      (next block).Behaves received' sent (.done result)) ∨
      ∃ failure, result = failed failure := by
  induction size generalizing next received with
  | zero => exact .inl ⟨[], received, rfl, h⟩
  | succ size ih =>
    cases h with
    | @receive byte _ _ _ _ _ h =>
      rcases ih h with ⟨block, received', rfl, hnext⟩ | hfailed
      · exact .inl ⟨byte :: block, received', rfl, hnext⟩
      · exact .inr hfailed
    | fails h =>
      cases h with
      | receive failure => exact .inr ⟨failure, rfl⟩

theorem Framing.frames_cons {message : Message} {messages : List Message} {frame : List Byte}
    (h : framing.encode message = .ok frame) :
    framing.frames (message :: messages) = frame ++ framing.frames messages := by
  simp only [Framing.frames, List.flatMap_cons, h]

theorem Framing.frames_append (messages more : List Message) :
    framing.frames (messages ++ more) = framing.frames messages ++ framing.frames more :=
  List.flatMap_append

theorem Framing.frames_prefix {messages more : List Message} (h : messages <+: more) :
    framing.frames messages <+: framing.frames more := by
  obtain ⟨rest, rfl⟩ := h
  rw [Framing.frames_append]
  exact List.prefix_append _ _

/-- **Over bytes a process behaves as it does over messages**: those whose frames the bytes begin
with. -/
theorem Process.behaves_framed (hlawful : framing.Lawful) {received sent : List Byte}
    (h : (process.framed framing).bytes.Behaves received sent (.done result)) :
    ∃ messages messages', process.Behaves messages messages' (.done result) ∧
      framing.frames messages <+: received ∧
      framing.frames messages' <+: sent := by
  induction process generalizing received sent with
  | done result' =>
    obtain ⟨rfl, rfl, hdone⟩ := h.of_done
    cases hdone
    exact ⟨[], [], .refl _, List.nil_prefix, List.nil_prefix⟩
  | send message failed next ih =>
    rw [Process.framed] at h
    cases hframe : framing.encode message with
    | error e =>
      simp only [hframe, Program.bytes] at h
      obtain ⟨rfl, rfl, hdone⟩ := h.of_done
      cases hdone
      exact ⟨[], [], .fails (.send _), List.nil_prefix, List.nil_prefix⟩
    | ok frame =>
      simp only [hframe, Program.bytes] at h
      rcases h.of_sendAll with ⟨sent', rfl, hnext⟩ | ⟨failure, rfl⟩
      · obtain ⟨messages, messages', hbehaves, hreceived, hsent⟩ := ih hnext
        refine ⟨messages, message :: messages', .send hbehaves, hreceived, ?_⟩
        rw [Framing.frames_cons hframe]
        exact (List.prefix_append_right_inj frame).mpr hsent
      · exact ⟨[], [], .fails (.send _), List.nil_prefix, List.nil_prefix⟩
  | receive failed next ih =>
    have hfails : ∀ failure, ∃ messages messages',
      (Process.receive failed next).Behaves messages messages'
        (.done (failed failure)) ∧ framing.frames messages <+: received ∧
          framing.frames messages' <+: sent := fun failure =>
      ⟨[], [], .fails (.receive failure), List.nil_prefix, List.nil_prefix⟩
    rw [Process.framed, Program.bytes] at h
    rcases h.of_receiveAll with ⟨header, rest, rfl, hheader⟩ | ⟨failure, rfl⟩
    · cases hsize : framing.bodySize header with
      | error e =>
        simp only [hsize, Program.bytes] at hheader
        obtain ⟨-, -, hdone⟩ := hheader.of_done
        cases hdone
        exact hfails _
      | ok size =>
        simp only [hsize, Program.bytes] at hheader
        rcases hheader.of_receiveAll with ⟨body, rest, rfl, hbody⟩ | ⟨failure, rfl⟩
        · cases hdecode : framing.decode (header ++ body) with
          | error e =>
            simp only [hdecode, Program.bytes] at hbody
            obtain ⟨-, -, hdone⟩ := hbody.of_done
            cases hdone
            exact hfails _
          | ok message =>
            simp only [hdecode] at hbody
            obtain ⟨messages, messages', hbehaves, hreceived, hsent⟩ := ih message hbody
            refine ⟨message :: messages, messages', .receive hbehaves, ?_, hsent⟩
            rw [Framing.frames_cons ((hlawful.decode_eq_ok _ _).mp hdecode), List.append_assoc]
            exact (List.prefix_append_right_inj header).mpr
              ((List.prefix_append_right_inj body).mpr hreceived)
        · exact hfails _
    · exact hfails _
  | wait failed next ih =>
    cases h with
    | exit h =>
      obtain ⟨messages, messages', hbehaves, hreceived, hsent⟩ := ih _ h
      exact ⟨messages, messages', .exit hbehaves, hreceived, hsent⟩
    | fails h =>
      cases h with
      | wait failure => exact ⟨[], [], .fails (.wait _), List.nil_prefix, List.nil_prefix⟩

end Framing

end Astraea.Base
