import Mathlib.Data.List.Basic
import Mathlib.Data.Stream.Init
import Mathlib.Logic.Basic

/-!
# Two processes over a channel in each direction

A `Process` sends messages, receives them, waits for the end of its peer and is done with a result.
Two of them and what is under way between them are a `Duplex`. A step of it is a step of either
side, so that its runs are all the interleavings; a channel may hold a bounded number of messages.

No order can be observed: two steps of different sides commute (`Duplex.Step.diamond`), and so one
run to the end decides all the others, in their result and in their length (`RunsIn.remaining`).
Such a run is easy to give where the two shake hands over each message (`Rendezvous`), and it then
is one for every size of the channels, however small (`Rendezvous.all_runs`).

A side can also end at any time, as a process does that is killed or runs out of time. Where the
result tells that it failed, nothing else than its failing gets lost: a side that did not fail has
the result it has in a run where nothing fails (`Rendezvous.disturbed`).
-/

namespace Astraea.Base

/-! ### Runs that have the diamond property -/

section Runs

variable {α : Type} {step step' : α → α → Prop} {n m : ℕ} {x y z : α}

/-- `n` steps lead from the first state to the second. -/
inductive RunsIn (step : α → α → Prop) : ℕ → α → α → Prop
  | refl (x : α) : RunsIn step 0 x x
  | head {n : ℕ} {x y z : α} (hstep : step x y) (hrest : RunsIn step n y z) :
      RunsIn step (n + 1) x z

theorem RunsIn.single (h : step x y) : RunsIn step 1 x y := .head h (.refl y)

theorem RunsIn.trans (h : RunsIn step n x y) (h' : RunsIn step m y z) :
    RunsIn step (n + m) x z := by
  induction h with
  | refl x =>
    rw [Nat.zero_add]
    exact h'
  | @head n x w y hstep hrest ih =>
    rw [Nat.add_right_comm]
    exact .head hstep (ih h')

theorem RunsIn.mono (hstep : ∀ x y, step x y → step' x y) (h : RunsIn step n x y) :
    RunsIn step' n x y := by
  induction h with
  | refl x => exact .refl x
  | head h hrest ih => exact .head (hstep _ _ h) ih

theorem RunsIn.preserves (inv : α → Prop) (hstep : ∀ x y, step x y → inv x → inv y)
    (h : RunsIn step n x y) (hx : inv x) : inv y := by
  induction h with
  | refl x => exact hx
  | head h hrest ih => exact ih (hstep _ _ h hx)

/-- No step leaves the state. -/
def Final (step : α → α → Prop) (x : α) : Prop := ∀ y, ¬ step x y

/-- Where no run is longer than a bound, one of them cannot be continued. -/
theorem RunsIn.exists_final {bound : ℕ} (hbound : ∀ n y, RunsIn step n x y → n ≤ bound) :
    ∃ n y, RunsIn step n x y ∧ Final step y := by
  by_contra hnone
  have hlong : ∀ n, ∃ y, RunsIn step n x y := by
    intro n
    induction n with
    | zero => exact ⟨x, .refl x⟩
    | succ n ih =>
      obtain ⟨y, hrun⟩ := ih
      by_contra hstuck
      exact hnone ⟨n, y, hrun, fun z hstep => hstuck ⟨z, hrun.trans (.single hstep)⟩⟩
  obtain ⟨y, hrun⟩ := hlong (bound + 1)
  have hle := hbound (bound + 1) y hrun
  omega

theorem RunsIn.eq_or_step (h : RunsIn step n x y) : x = y ∨ ∃ z, step x z := by
  cases h with
  | refl => exact .inl rfl
  | head hstep hrest => exact .inr ⟨_, hstep⟩

/-- Two steps out of a state lead to the same state, or can be joined by one step each. -/
def HasDiamond (step : α → α → Prop) : Prop :=
  ∀ x y z, step x y → step x z → y = z ∨ ∃ w, step y w ∧ step z w

/-- A step does not lead away from the end: one step less is left. -/
theorem RunsIn.of_step (hdiamond : HasDiamond step) (hfinal : Final step z) (h : RunsIn step n x z)
    (hstep : step x y) :
    ∃ m, n = m + 1 ∧ RunsIn step m y z := by
  induction h generalizing y with
  | refl x => exact absurd hstep (hfinal y)
  | @head n x w z hw hrest ih =>
    rcases hdiamond x y w hstep hw with rfl | ⟨u, hyu, hwu⟩
    · exact ⟨n, rfl, hrest⟩
    · obtain ⟨m, rfl, hu⟩ := ih hfinal hwu
      exact ⟨m + 1, rfl, .head hyu hu⟩

/-- **One run to the end decides all**: whatever steps are taken, the end is still ahead, the steps
taken off. -/
theorem RunsIn.remaining (hdiamond : HasDiamond step) (hfinal : Final step z)
    (h : RunsIn step n x z) (hrun : RunsIn step m x y) : ∃ k, n = m + k ∧ RunsIn step k y z := by
  induction hrun generalizing n with
  | refl x => exact ⟨n, (Nat.zero_add n).symm, h⟩
  | @head m x w y hstep hrest ih =>
    obtain ⟨n', rfl, h'⟩ := h.of_step hdiamond hfinal hstep
    obtain ⟨k, rfl, hk⟩ := ih h'
    exact ⟨k, Nat.add_right_comm m k 1, hk⟩

end Runs

/-! ### Processes -/

/-- The end of file is one of the failures. -/
class ChannelFailure (Failure : Type) where
  endOfFile : Failure

export ChannelFailure (endOfFile)

/-- A process between two operations on its channels. A failed operation ends it. -/
inductive Process (Message Failure Exit Result : Type) where
  | done (result : Result)
  | send (message : Message) (failed : Failure → Result)
      (next : Process Message Failure Exit Result)
  | receive (failed : Failure → Result) (next : Message → Process Message Failure Exit Result)
  | wait (failed : Failure → Result) (next : Exit → Process Message Failure Exit Result)

/-- There is room for one more message, if the channel is bounded. -/
def HasRoom {Message : Type} (capacity : Option ℕ) (channel : List Message) : Prop :=
  ∀ n ∈ capacity, channel.length < n

theorem HasRoom.unbounded {Message : Type} (channel : List Message) : HasRoom none channel := by
  intro n hn
  cases hn

theorem HasRoom.empty {Message : Type} {n : ℕ} (h : 0 < n) :
    HasRoom (some n) ([] : List Message) := by
  intro m hm
  cases hm
  exact h

namespace Process

section Process

variable {Message Failure Exit Result : Type}

/-- The result, of a process that is done. -/
def result? : Process Message Failure Exit Result → Option Result
  | done result => some result
  | _ => none

theorem result?_eq_some {process : Process Message Failure Exit Result} {result : Result} :
    process.result? = some result ↔ process = done result := by
  cases process with
  | done result' => simp [result?]
  | _ => simp [result?]

variable [ChannelFailure Failure]

/-- One operation: what it does to the process and to the messages for it and from it. Its peer may
be done. -/
inductive Act (capacity : Option ℕ) (peer : Option Exit) :
    Process Message Failure Exit Result → (inbox outbox : List Message) →
      Process Message Failure Exit Result → (inbox outbox : List Message) → Prop
  | send {message : Message} {failed : Failure → Result}
      {next : Process Message Failure Exit Result}
      {inbox outbox : List Message} (hroom : HasRoom capacity outbox) :
      Act capacity peer (.send message failed next) inbox outbox next inbox (outbox ++ [message])
  | receive {message : Message} {failed : Failure → Result}
      {next : Message → Process Message Failure Exit Result}
      {inbox outbox : List Message} :
      Act capacity peer (.receive failed next) (message :: inbox) outbox (next message) inbox outbox
  | endOfFile {failed : Failure → Result} {next : Message → Process Message Failure Exit Result}
      {outbox : List Message}
      {exit : Exit} (hpeer : peer = some exit) :
      Act capacity peer (.receive failed next) [] outbox
        (.done (failed ChannelFailure.endOfFile)) [] outbox
  | exit {failed : Failure → Result} {next : Exit → Process Message Failure Exit Result}
      {inbox outbox : List Message}
      {exit : Exit} (hpeer : peer = some exit) :
      Act capacity peer (.wait failed next) inbox outbox (next exit) inbox outbox

variable {capacity : Option ℕ} {peer : Option Exit}
  {process next next' : Process Message Failure Exit Result}
  {inbox outbox inbox' outbox' inbox'' outbox'' : List Message}

section

variable (h : Act capacity peer process inbox outbox next inbox' outbox')

include h

theorem Act.unique (h' : Act capacity peer process inbox outbox next' inbox'' outbox'') :
    next = next' ∧ inbox' = inbox'' ∧ outbox' = outbox'' := by
  cases h with
  | send hroom =>
    cases h'
    exact ⟨rfl, rfl, rfl⟩
  | receive =>
    cases h'
    exact ⟨rfl, rfl, rfl⟩
  | endOfFile hpeer =>
    cases h'
    exact ⟨rfl, rfl, rfl⟩
  | exit hpeer =>
    cases h' with
    | exit hpeer' =>
      rw [hpeer] at hpeer'
      cases hpeer'
      exact ⟨rfl, rfl, rfl⟩

theorem Act.result?_eq_none : process.result? = none := by
  cases h <;> rfl

/-- An operation takes messages from the front of the one channel, and puts messages at the back of
the other. -/
theorem Act.channels : ∃ taken sent, inbox = taken ++ inbox' ∧ outbox' = outbox ++ sent := by
  cases h with
  | send hroom => exact ⟨[], _, rfl, rfl⟩
  | receive => exact ⟨[_], [], rfl, (List.append_nil _).symm⟩
  | endOfFile hpeer => exact ⟨[], [], rfl, (List.append_nil _).symm⟩
  | exit hpeer => exact ⟨[], [], rfl, (List.append_nil _).symm⟩

end

/-- An operation does not need the end of the peer, nor does it mind messages behind those under
way, or more room. -/
theorem Act.frame {taken : List Message}
    (h : Act capacity none process inbox (taken ++ outbox) next inbox' outbox') (peer : Option Exit)
    (more : List Message) :
    ∃ sent, outbox' = taken ++ outbox ++ sent ∧
      Act capacity peer process (inbox ++ more) outbox next (inbox' ++ more) (outbox ++ sent) := by
  cases h with
  | send hroom =>
    refine ⟨_, rfl, .send fun n hn => ?_⟩
    have hlength := hroom n hn
    rw [List.length_append] at hlength
    omega
  | receive =>
    refine ⟨[], (List.append_nil _).symm, ?_⟩
    rw [List.append_nil]
    exact .receive
  | endOfFile hpeer => cases hpeer
  | exit hpeer => cases hpeer

/-- Where there is room in a small channel, there is in an unbounded one. -/
theorem Act.unbounded (h : Act capacity peer process inbox outbox next inbox' outbox') :
    Act none peer process inbox outbox next inbox' outbox' := by
  cases h with
  | send hroom => exact .send (.unbounded _)
  | receive => exact .receive
  | endOfFile hpeer => exact .endOfFile hpeer
  | exit hpeer => exact .exit hpeer

end Process

end Process

/-! ### Two processes -/

/-- Two processes, and the messages under way to each. What one waits for is the result of the
other. -/
structure Duplex (Message Failure R S : Type) where
  left : Process Message Failure S R
  right : Process Message Failure R S
  toLeft : List Message
  toRight : List Message

namespace Duplex

section Duplex

variable {Message Failure R S : Type}

/-- The same two, the other way round. -/
def swap (duplex : Duplex Message Failure R S) : Duplex Message Failure S R :=
  ⟨duplex.right, duplex.left, duplex.toRight, duplex.toLeft⟩

/-- Nothing is under way yet. -/
def start (left : Process Message Failure S R) (right : Process Message Failure R S) :
    Duplex Message Failure R S :=
  ⟨left, right, [], []⟩

/-- Both are done, and all that was sent has been received. -/
def ended (r : R) (s : S) : Duplex Message Failure R S := start (.done r) (.done s)

variable [ChannelFailure Failure]

/-- A step of either side. -/
inductive Step (capacity : Option ℕ) :
    Duplex Message Failure R S → Duplex Message Failure R S → Prop
  | left {duplex : Duplex Message Failure R S} {next : Process Message Failure S R}
      {inbox outbox : List Message}
      (h : Process.Act capacity duplex.right.result? duplex.left duplex.toLeft duplex.toRight
        next inbox outbox) :
      Step capacity duplex ⟨next, duplex.right, inbox, outbox⟩
  | right {duplex : Duplex Message Failure R S} {next : Process Message Failure R S}
      {inbox outbox : List Message}
      (h : Process.Act capacity duplex.left.result? duplex.right duplex.toRight duplex.toLeft
        next inbox outbox) :
      Step capacity duplex ⟨duplex.left, next, outbox, inbox⟩

variable {capacity : Option ℕ} {duplex duplex' : Duplex Message Failure R S}

theorem Step.swap (h : Step capacity duplex duplex') : Step capacity duplex.swap duplex'.swap := by
  cases h with
  | left h => exact .right h
  | right h => exact .left h

theorem Step.commute {next : Process Message Failure S R} {next' : Process Message Failure R S}
    {inbox outbox inbox' outbox' : List Message}
    (h : Process.Act capacity duplex.right.result? duplex.left duplex.toLeft duplex.toRight
      next inbox outbox)
    (h' : Process.Act capacity duplex.left.result? duplex.right duplex.toRight duplex.toLeft next'
      inbox' outbox') :
    ∃ joined, Step capacity ⟨next, duplex.right, inbox, outbox⟩ joined ∧
      Step capacity ⟨duplex.left, next', outbox', inbox'⟩ joined := by
  obtain ⟨left, right, toLeft, toRight⟩ := duplex
  dsimp only at h h' ⊢
  rw [h'.result?_eq_none] at h
  rw [h.result?_eq_none] at h'
  obtain ⟨taken, sent, rfl, rfl⟩ := h.channels
  obtain ⟨taken', sent', rfl, rfl⟩ := h'.channels
  obtain ⟨sent₁, hsent, hleft⟩ := h.frame next'.result? sent'
  obtain ⟨sent₂, hsent', hright⟩ := h'.frame next.result? sent
  cases List.append_cancel_left hsent
  cases List.append_cancel_left hsent'
  exact ⟨⟨next, next', inbox ++ sent', inbox' ++ sent⟩, .right hright, .left hleft⟩

theorem Step.diamond :
    HasDiamond (Step capacity : Duplex Message Failure R S → Duplex Message Failure R S →
      Prop) := by
  intro duplex first second hfirst hsecond
  cases hfirst with
  | left h =>
    cases hsecond with
    | left h' =>
      obtain ⟨rfl, rfl, rfl⟩ := h.unique h'
      exact .inl rfl
    | right h' => exact .inr (Step.commute h h')
  | right h =>
    cases hsecond with
    | left h' =>
      obtain ⟨joined, hleft, hright⟩ := Step.commute h' h
      exact .inr ⟨joined, hright, hleft⟩
    | right h' =>
      obtain ⟨rfl, rfl, rfl⟩ := h.unique h'
      exact .inl rfl

theorem final_ended (r : R) (s : S) :
    Final (Step capacity) (ended r s : Duplex Message Failure R S) := by
  intro next hstep
  cases hstep with
  | left h => cases h
  | right h => cases h

theorem Step.left_done {r : R} (h : Step capacity duplex duplex') (hdone : duplex.left = .done r) :
    duplex'.left = .done r := by
  cases h with
  | left h =>
    rw [hdone] at h
    cases h
  | right h => exact hdone

theorem Step.right_done {s : S} (h : Step capacity duplex duplex')
    (hdone : duplex.right = .done s) :
    duplex'.right = .done s :=
  Step.left_done h.swap hdone

end Duplex

end Duplex

/-! ### Hand-shakes -/

/-- The two processes run to their results where each message is taken as soon as it is sent. The
messages are valid. -/
inductive Rendezvous {Message Failure R S : Type} [ChannelFailure Failure]
    (valid : Message → Prop) :
    Process Message Failure S R → Process Message Failure R S → R → S → Prop
  | done {r : R} {s : S} : Rendezvous valid (.done r) (.done s) r s
  | toRight {message : Message} {failed : Failure → R} {failed' : Failure → S}
      {next : Process Message Failure S R}
      {next' : Message → Process Message Failure R S} {r : R} {s : S} (hvalid : valid message)
      (h : Rendezvous valid next (next' message) r s) :
      Rendezvous valid (.send message failed next) (.receive failed' next') r s
  | toLeft {message : Message} {failed : Failure → R} {failed' : Failure → S}
      {next : Message → Process Message Failure S R}
      {next' : Process Message Failure R S} {r : R} {s : S} (hvalid : valid message)
      (h : Rendezvous valid (next message) next' r s) :
      Rendezvous valid (.receive failed next) (.send message failed' next') r s
  | rightEnds {failed : Failure → R} {next : Message → Process Message Failure S R} {s : S} :
      Rendezvous valid (.receive failed next) (.done s) (failed endOfFile) s
  | leftEnds {failed : Failure → S} {next : Message → Process Message Failure R S} {r : R} :
      Rendezvous valid (.done r) (.receive failed next) r (failed endOfFile)
  | leftWaits {failed : Failure → R} {next : S → Process Message Failure S R} {r : R} {s : S}
      (h : Rendezvous valid (next s) (.done s) r s) :
        Rendezvous valid (.wait failed next) (.done s) r s
  | rightWaits {failed : Failure → S} {next : R → Process Message Failure R S} {r : R} {s : S}
      (h : Rendezvous valid (.done r) (next r) r s) :
        Rendezvous valid (.done r) (.wait failed next) r s

section Rendezvous

variable {Message Failure R S : Type} [ChannelFailure Failure] {valid : Message → Prop}
  {left : Process Message Failure S R} {right : Process Message Failure R S} {r r' : R} {s s' : S}

open Duplex

section

variable (h : Rendezvous valid left right r s)

include h

/-- A hand-shake is a step of the sender and a step of the receiver; one place in each channel is
enough for them. -/
theorem Rendezvous.exists_run :
    ∃ n, ∀ capacity, HasRoom capacity ([] : List Message) →
      RunsIn (Step capacity) n (start left right) (ended r s) := by
  induction h with
  | done => exact ⟨0, fun capacity hroom => .refl _⟩
  | toRight hvalid h ih =>
    obtain ⟨n, hn⟩ := ih
    exact ⟨n + 2, fun capacity hroom =>
      .head (.left (.send hroom)) (.head (.right .receive) (hn capacity hroom))⟩
  | toLeft hvalid h ih =>
    obtain ⟨n, hn⟩ := ih
    exact ⟨n + 2, fun capacity hroom =>
      .head (.right (.send hroom)) (.head (.left .receive) (hn capacity hroom))⟩
  | rightEnds => exact ⟨1, fun capacity hroom => .head (.left (.endOfFile rfl)) (.refl _)⟩
  | leftEnds => exact ⟨1, fun capacity hroom => .head (.right (.endOfFile rfl)) (.refl _)⟩
  | leftWaits h ih =>
    obtain ⟨n, hn⟩ := ih
    exact ⟨n + 1, fun capacity hroom => .head (.left (.exit rfl)) (hn capacity hroom)⟩
  | rightWaits h ih =>
    obtain ⟨n, hn⟩ := ih
    exact ⟨n + 1, fun capacity hroom => .head (.right (.exit rfl)) (hn capacity hroom)⟩

/-- **Hand-shakes decide every run.** In whatever order the two take their steps, and however small
the channels, the same end is ahead, and all runs to it have one length. -/
theorem Rendezvous.all_runs :
    ∃ n, ∀ capacity, HasRoom capacity ([] : List Message) →
      ∀ m duplex, RunsIn (Step capacity) m (start left right) duplex →
      ∃ k, n = m + k ∧ RunsIn (Step capacity) k duplex (ended r s) := by
  obtain ⟨n, hn⟩ := h.exists_run
  refine ⟨n, fun capacity hroom m duplex hrun => ?_⟩
  exact (hn capacity hroom).remaining Step.diamond (final_ended r s) hrun

section

variable {duplex : Duplex Message Failure R S} {m : ℕ}
  (hrun : RunsIn (Step none) m (start left right) duplex)

include hrun

/-- Where the left side is done, it is so with the result of the hand-shakes. -/
theorem Rendezvous.left_result (hdone : duplex.left = .done r') : r' = r := by
  obtain ⟨n, hn⟩ := h.all_runs
  obtain ⟨k, -, hrest⟩ := hn none (.unbounded _) m duplex hrun
  have hend := hrest.preserves (fun duplex => duplex.left = .done r')
    (fun _ _ hstep hleft => hstep.left_done hleft) hdone
  cases hend
  rfl

theorem Rendezvous.right_result (hdone : duplex.right = .done s') : s' = s := by
  obtain ⟨n, hn⟩ := h.all_runs
  obtain ⟨k, -, hrest⟩ := hn none (.unbounded _) m duplex hrun
  have hend := hrest.preserves (fun duplex => duplex.right = .done s')
    (fun _ _ hstep hright => hstep.right_done hright) hdone
  cases hend
  rfl

end

end

end Rendezvous

/-! ### Processes that fail -/

namespace Process

/-- The results of the failed operations of a process are among the fates; so is its result where
the peer it waited for has met its fate. -/
def FailsIn {Message Failure Exit Result : Type} (fate : Result → Prop) (peerFate : Exit → Prop) :
    Process Message Failure Exit Result → Prop
  | done _ => True
  | send _ failed next => (∀ failure, fate (failed failure)) ∧ FailsIn fate peerFate next
  | receive failed next =>
    (∀ failure, fate (failed failure)) ∧ ∀ message, FailsIn fate peerFate (next message)
  | wait failed next => (∀ failure, fate (failed failure)) ∧
      ∀ exit, FailsIn fate peerFate (next exit) ∧
        (peerFate exit → ∃ result, next exit = done result ∧ fate result)

theorem FailsIn.act {Message Failure Exit Result : Type} [ChannelFailure Failure]
    {fate : Result → Prop} {peerFate : Exit → Prop} {capacity : Option ℕ} {peer : Option Exit}
    {process next : Process Message Failure Exit Result}
    {inbox outbox inbox' outbox' : List Message}
    (hact : Act capacity peer process inbox outbox next inbox' outbox')
    (h : process.FailsIn fate peerFate) : next.FailsIn fate peerFate := by
  cases hact with
  | send hroom => exact h.2
  | receive => exact h.2 _
  | endOfFile hpeer => trivial
  | exit hpeer => exact (h.2 _).1

end Process

/-- An operation of the process fails. -/
inductive Process.Fails {Message Failure Exit Result : Type} :
    Process Message Failure Exit Result → Result → Prop
  | send {message : Message} {failed : Failure → Result}
      {next : Process Message Failure Exit Result} (failure : Failure) :
      Fails (.send message failed next) (failed failure)
  | receive {failed : Failure → Result} {next : Message → Process Message Failure Exit Result}
      (failure : Failure) :
      Fails (.receive failed next) (failed failure)
  | wait {failed : Failure → Result} {next : Exit → Process Message Failure Exit Result}
      (failure : Failure) :
      Fails (.wait failed next) (failed failure)

section Tracks

variable {Message Failure R S : Type} (fate : R → Prop) (fate' : S → Prop)

/-- A side is where it is in the other run, or has met its fate. -/
def SameOrFate {Message Failure Exit Result : Type} (fate : Result → Prop)
    (process process' : Process Message Failure Exit Result) : Prop :=
  process = process' ∨ ∃ result, process = .done result ∧ fate result

/-- A disturbed pair of processes beside one that is not disturbed. -/
structure Tracks (duplex duplex' : Duplex Message Failure R S) : Prop where
  left : SameOrFate fate duplex.left duplex'.left
  right : SameOrFate fate' duplex.right duplex'.right
  toLeft : duplex.toLeft = duplex'.toLeft
  toRight : duplex.toRight = duplex'.toRight
  leftFails : duplex'.left.FailsIn fate fate'
  rightFails : duplex'.right.FailsIn fate' fate

variable {fate fate'} {duplex duplex' : Duplex Message Failure R S}

theorem Tracks.swap (h : Tracks fate fate' duplex duplex') :
    Tracks fate' fate duplex.swap duplex'.swap :=
  ⟨h.right, h.left, h.toRight, h.toLeft, h.rightFails, h.leftFails⟩

end Tracks

section Disturbed

variable {Message Failure R S : Type} [ChannelFailure Failure]

/-- A step, or one of the sides meets a fate it may meet there: it was killed, or an operation of it
failed for a reason of its own. -/
inductive Duplex.Disturbed (meets : Process Message Failure S R → R → Prop)
    (meets' : Process Message Failure R S → S → Prop) (capacity : Option ℕ) :
    Duplex Message Failure R S → Duplex Message Failure R S → Prop
  | step {duplex duplex' : Duplex Message Failure R S} (h : Duplex.Step capacity duplex duplex') :
      Disturbed meets meets' capacity duplex duplex'
  | left {duplex : Duplex Message Failure R S} {r : R} (hlive : duplex.left.result? = none)
      (hmeets : meets duplex.left r) :
      Disturbed meets meets' capacity duplex { duplex with left := .done r }
  | right {duplex : Duplex Message Failure R S} {s : S} (hlive : duplex.right.result? = none)
      (hmeets : meets' duplex.right s) :
        Disturbed meets meets' capacity duplex { duplex with right := .done s }

variable {fate : R → Prop} {fate' : S → Prop} {meets : Process Message Failure S R → R → Prop}
  {meets' : Process Message Failure R S → S → Prop} {capacity : Option ℕ}
  {duplex duplex' next : Duplex Message Failure R S}

/-- A step of the left side is followed, or makes it meet its fate. -/
theorem Tracks.left_step {left : Process Message Failure S R} {inbox outbox : List Message}
    (h : Tracks fate fate' duplex duplex')
    (hact : Process.Act capacity duplex.right.result? duplex.left duplex.toLeft duplex.toRight left
      inbox outbox) :
    Tracks fate fate' ⟨left, duplex.right, inbox, outbox⟩ duplex' ∨
      ∃ next', Duplex.Step none duplex' next' ∧
        Tracks fate fate' ⟨left, duplex.right, inbox, outbox⟩ next' := by
  obtain ⟨left₀, right, toLeft, toRight⟩ := duplex
  obtain ⟨left', right', toLeft', toRight'⟩ := duplex'
  obtain ⟨hleft, hright, rfl, rfl, hleftFails, hrightFails⟩ := h
  dsimp only at hact hleft hright hleftFails hrightFails ⊢
  rcases hleft with rfl | ⟨r, rfl, hfate⟩
  · rcases hright with rfl | ⟨s, rfl, hfate'⟩
    · exact .inr ⟨_, .left hact.unbounded, .inl rfl, .inl rfl, rfl, rfl, hleftFails.act hact,
        hrightFails⟩
    · -- the peer has met its fate, which only a process that looks for its end can tell
      cases hact with
      | send hroom =>
        exact .inr ⟨_, .left (.send (.unbounded _)), .inl rfl, .inr ⟨s, rfl, hfate'⟩, rfl, rfl,
          hleftFails.2, hrightFails⟩
      | receive =>
        exact .inr ⟨_, .left .receive, .inl rfl, .inr ⟨s, rfl, hfate'⟩, rfl, rfl, hleftFails.2 _,
          hrightFails⟩
      | endOfFile hpeer =>
        exact .inl ⟨.inr ⟨_, rfl, hleftFails.1 _⟩, .inr ⟨s, rfl, hfate'⟩, rfl, rfl, hleftFails,
          hrightFails⟩
      | exit hpeer =>
        cases hpeer
        exact .inl ⟨.inr ((hleftFails.2 s).2 hfate'), .inr ⟨s, rfl, hfate'⟩, rfl, rfl, hleftFails,
          hrightFails⟩
  · cases hact

theorem Tracks.step (hmeets : ∀ process r, meets process r → fate r)
    (hmeets' : ∀ process s, meets' process s → fate' s) (h : Tracks fate fate' duplex duplex')
    (hstep : Duplex.Disturbed meets meets' capacity duplex next) :
    ∃ n next', RunsIn (Duplex.Step none) n duplex' next' ∧ Tracks fate fate' next next' := by
  cases hstep with
  | step hstep =>
    cases hstep with
    | left hact =>
      rcases h.left_step hact with htracks | ⟨next', hnext, htracks⟩
      · exact ⟨0, duplex', .refl _, htracks⟩
      · exact ⟨1, next', .single hnext, htracks⟩
    | right hact =>
      rcases h.swap.left_step hact with htracks | ⟨next', hnext, htracks⟩
      · exact ⟨0, duplex', .refl _, htracks.swap⟩
      · exact ⟨1, next'.swap, .single hnext.swap, htracks.swap⟩
  | left hlive hfate =>
    exact ⟨0, duplex', .refl _, .inr ⟨_, rfl, hmeets _ _ hfate⟩, h.right, h.toLeft, h.toRight,
      h.leftFails, h.rightFails⟩
  | right hlive hfate =>
    exact ⟨0, duplex', .refl _, h.left, .inr ⟨_, rfl, hmeets' _ _ hfate⟩, h.toLeft, h.toRight,
      h.leftFails, h.rightFails⟩

theorem Tracks.run (hmeets : ∀ process r, meets process r → fate r)
    (hmeets' : ∀ process s, meets' process s → fate' s) {n : ℕ}
    (hrun : RunsIn (Duplex.Disturbed meets meets' capacity) n duplex next)
    (h : Tracks fate fate' duplex duplex') :
    ∃ m next', RunsIn (Duplex.Step none) m duplex' next' ∧ Tracks fate fate' next next' := by
  induction hrun generalizing duplex' with
  | refl duplex => exact ⟨0, duplex', .refl _, h⟩
  | head hstep hrest ih =>
    obtain ⟨n, middle, hn, hmiddle⟩ := h.step hmeets hmeets' hstep
    obtain ⟨m, next', hm, hnext⟩ := ih hmiddle
    exact ⟨n + m, next', hn.trans hm, hnext⟩

/-- **Failing is all that can go wrong.** In every run in which the sides may also meet their fates,
at any time and as often as it takes, a side that is done has met its fate or has the result of the
hand-shakes. -/
theorem Rendezvous.disturbed {valid : Message → Prop} {left : Process Message Failure S R}
    {right : Process Message Failure R S} {r : R} {s : S} (h : Rendezvous valid left right r s)
    (hleft : left.FailsIn fate fate') (hright : right.FailsIn fate' fate)
    (hmeets : ∀ process r, meets process r → fate r)
    (hmeets' : ∀ process s, meets' process s → fate' s) {n : ℕ}
    (hrun : RunsIn (Duplex.Disturbed meets meets' capacity) n (Duplex.start left right) duplex) :
    (∀ r', duplex.left = .done r' → fate r' ∨ r' = r) ∧
    ∀ s', duplex.right = .done s' → fate' s' ∨ s' = s := by
  obtain ⟨m, duplex', hclean, htracks⟩ :=
    Tracks.run hmeets hmeets' hrun ⟨.inl rfl, .inl rfl, rfl, rfl, hleft, hright⟩
  constructor
  · intro r' hdone
    rcases htracks.left with hsame | ⟨result, hresult, hfate⟩
    · exact .inr (h.left_result hclean (hsame ▸ hdone))
    · rw [hresult] at hdone
      cases hdone
      exact .inl hfate
  · intro s' hdone
    rcases htracks.right with hsame | ⟨result, hresult, hfate⟩
    · exact .inr (h.right_result hclean (hsame ▸ hdone))
    · rw [hresult] at hdone
      cases hdone
      exact .inl hfate

end Disturbed

/-! ### What a process has seen -/

namespace Process

/-- What a process received and what it sent on its way to another one, whatever was around it. -/
inductive Behaves {Message Failure Exit Result : Type} :
    Process Message Failure Exit Result → (received sent : List Message) →
    Process Message Failure Exit Result → Prop
  | refl (process : Process Message Failure Exit Result) : Behaves process [] [] process
  | send {message : Message} {failed : Failure → Result}
      {next process : Process Message Failure Exit Result}
      {received sent : List Message} (h : Behaves next received sent process) :
      Behaves (.send message failed next) received (message :: sent) process
  | receive {message : Message} {failed : Failure → Result}
      {next : Message → Process Message Failure Exit Result}
      {process : Process Message Failure Exit Result} {received sent : List Message}
      (h : Behaves (next message) received sent process) :
      Behaves (.receive failed next) (message :: received) sent process
  | exit {exit : Exit} {failed : Failure → Result}
      {next : Exit → Process Message Failure Exit Result}
      {process : Process Message Failure Exit Result} {received sent : List Message}
      (h : Behaves (next exit) received sent process) :
        Behaves (.wait failed next) received sent process
  | fails {process : Process Message Failure Exit Result} {result : Result}
      (h : process.Fails result) :
      Behaves process [] [] (.done result)

variable {Message Failure Exit Result : Type}
  {process next last : Process Message Failure Exit Result}
  {received sent received' sent' : List Message}

theorem Behaves.of_done {result : Result} (h : Behaves (.done result) received sent process) :
    received = [] ∧ sent = [] ∧ process = .done result := by
  cases h with
  | refl => exact ⟨rfl, rfl, rfl⟩
  | fails h => cases h

theorem Behaves.trans (h : Behaves process received sent next)
    (h' : Behaves next received' sent' last) :
    Behaves process (received ++ received') (sent ++ sent') last := by
  induction h with
  | refl process => exact h'
  | send h ih => exact .send (ih h')
  | receive h ih => exact .receive (ih h')
  | exit h ih => exact .exit (ih h')
  | fails h =>
    obtain ⟨rfl, rfl, rfl⟩ := h'.of_done
    exact .fails h

/-- An operation is a behaviour, with what it takes and what it puts. -/
theorem Act.behaves [ChannelFailure Failure] {capacity : Option ℕ} {peer : Option Exit}
    {inbox outbox inbox' outbox' : List Message}
    (h : Act capacity peer process inbox outbox next inbox' outbox') :
    ∃ taken put, inbox = taken ++ inbox' ∧ outbox' = outbox ++ put ∧
      Behaves process taken put next := by
  cases h with
  | @send message => exact ⟨[], [message], rfl, rfl, .send (.refl _)⟩
  | @receive message => exact ⟨[message], [], rfl, (List.append_nil _).symm, .receive (.refl _)⟩
  | endOfFile hpeer => exact ⟨[], [], rfl, (List.append_nil _).symm, .fails (.receive _)⟩
  | exit hpeer => exact ⟨[], [], rfl, (List.append_nil _).symm, .exit (.refl _)⟩

/-! ### A process in a world -/

/-- What is around a process: the messages it can receive and the failure behind them, which of its
messages are not sent and why, and the ends it waits for. -/
structure World (Message Failure Exit : Type) where
  incoming : List Message
  receiveFailure : Failure
  sends : Stream' (Option Failure)
  exits : Stream' (Except Failure Exit)

/-- The result of a process in a world. -/
def resultIn : Process Message Failure Exit Result → World Message Failure Exit → Result
  | done result, _ => result
  | send _ failed next, world =>
    match world.sends.head with
    | some failure => failed failure
    | none => next.resultIn { world with sends := world.sends.tail }
  | receive failed next, world =>
    match world.incoming with
    | [] => failed world.receiveFailure
    | message :: incoming => (next message).resultIn { world with incoming := incoming }
  | wait failed next, world =>
    match world.exits.head with
    | .error failure => failed failure
    | .ok exit => (next exit).resultIn { world with exits := world.exits.tail }

/-- What a process does until it is done, it does in a world with the messages it received. -/
theorem Behaves.exists_world [ChannelFailure Failure] {result : Result}
    (h : Behaves process received sent (.done result)) :
    ∃ world : World Message Failure Exit, world.incoming = received ∧
      process.resultIn world = result := by
  generalize hlast : Process.done result = last at h
  induction h with
  | refl process =>
    subst hlast
    exact ⟨⟨[], endOfFile, .const none, .const (.error endOfFile)⟩, rfl, rfl⟩
  | send h ih =>
    obtain ⟨world, hincoming, hresult⟩ := ih hlast
    exact ⟨{ world with sends := .cons none world.sends }, hincoming, hresult⟩
  | receive h ih =>
    obtain ⟨⟨incoming, receiveFailure, sends, exits⟩, rfl, hresult⟩ := ih hlast
    exact ⟨⟨_ :: incoming, receiveFailure, sends, exits⟩, rfl, hresult⟩
  | @exit exit failed next process received sent h ih =>
    obtain ⟨world, hincoming, hresult⟩ := ih hlast
    exact ⟨{ world with exits := .cons (.ok exit) world.exits }, hincoming, hresult⟩
  | fails h =>
    cases hlast
    cases h with
    | send failure => exact ⟨⟨[], endOfFile, .const (some failure), .const (.error endOfFile)⟩, rfl,
        rfl⟩
    | receive failure => exact ⟨⟨[], failure, .const none, .const (.error endOfFile)⟩, rfl, rfl⟩
    | wait failure => exact ⟨⟨[], endOfFile, .const none, .const (.error failure)⟩, rfl, rfl⟩

end Process

section History

variable {Message Failure R S : Type} {left : Process Message Failure S R}
  {right : Process Message Failure R S}

/-- What the two sides have done so far, the right side until it met its fate: all that one of them
received was sent by the other in this order, and the rest of it is under way. -/
structure History (left : Process Message Failure S R) (right : Process Message Failure R S)
    (duplex : Duplex Message Failure R S) (received sent : List Message) : Prop where
  left : left.Behaves received sent duplex.left
  right : ∃ received' right', sent = received' ++ duplex.toRight ∧
    right.Behaves received' (received ++ duplex.toLeft) right' ∧
    SameOrFate (fun _ => True) duplex.right right'

/-- **Nothing is lost, made up or reordered.** Here the left side fails by its operations only. -/
theorem Duplex.Disturbed.history [ChannelFailure Failure]
    {meets' : Process Message Failure R S → S → Prop} {capacity : Option ℕ} {n : ℕ}
    {duplex : Duplex Message Failure R S}
    (hrun : RunsIn (Duplex.Disturbed Process.Fails meets' capacity) n
      (Duplex.start left right) duplex) :
    ∃ received sent, History left right duplex received sent := by
  refine hrun.preserves (fun duplex => ∃ received sent, History left right duplex received sent) ?_
    ⟨[], [], .refl _, [], right, rfl, .refl _, .inl rfl⟩
  rintro ⟨left₁, right₁, toLeft, toRight⟩ next hstep
    ⟨received, sent, hleft, received', right', rfl, hright, hsame⟩
  cases hstep with
  | step hstep =>
    cases hstep with
    | left hact =>
      obtain ⟨taken, put, rfl, rfl, hbehaves⟩ := hact.behaves
      refine ⟨received ++ taken, received' ++ toRight ++ put, hleft.trans hbehaves, received',
        right', ?_, ?_, hsame⟩
      · exact List.append_assoc _ _ _
      · rw [List.append_assoc]
        exact hright
    | right hact =>
      obtain ⟨taken, put, hinbox, rfl, hbehaves⟩ := hact.behaves
      dsimp only at hinbox hsame hact hbehaves hright hleft ⊢
      subst hinbox
      rcases hsame with rfl | ⟨s, rfl, -⟩
      · refine ⟨received, received' ++ (taken ++ _), hleft, received' ++ taken, _, ?_, ?_, .inl rfl⟩
        · exact (List.append_assoc _ _ _).symm
        · have hall := hright.trans hbehaves
          rw [List.append_assoc] at hall
          exact hall
      · cases hact
  | left hlive hfails =>
    refine ⟨received, received' ++ toRight, ?_, received', right', rfl, hright, hsame⟩
    have hall := hleft.trans (.fails hfails)
    rwa [List.append_nil, List.append_nil] at hall
  | right hlive hfate =>
    refine ⟨received, received' ++ toRight, hleft, received', right', rfl, hright,
      .inr ⟨_, rfl, trivial⟩⟩

end History

end Astraea.Base
