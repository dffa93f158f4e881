import Mathlib.Data.List.Chain
import Mathlib.Algebra.Order.Group.Nat

/-!
# Runs that leave a record of each step

A step takes a state to the next and leaves a record, or refuses. `tracedRun` takes at most
`budget` steps and keeps the records; it stops early at a step that is refused, whose effect
is not there.

`Follows` says that a list of records leads from one state to another. What a record says
about its step is carried along it: a view of the state that every record changes as its step
does is replayed by the records (`Follows.replay`), and records that name the state before and
after them form a chain (`Follows.isChain`, `Follows.last`).
-/

namespace Astraea.Base

/-- The state a run leaves, the records of its steps, and why it stopped before its budget, if it
did. -/
structure TracedRun (σ τ ε : Type) where
  state : σ
  records : List τ
  stop : Option ε

section Run

variable {σ τ ε : Type} {step : σ → Except ε (σ × τ)} {n m : ℕ} {state next last : σ} {record : τ}
  {records : List τ}

/-- At most `budget` steps. -/
def tracedRun (step : σ → Except ε (σ × τ)) : (budget : ℕ) → σ → TracedRun σ τ ε
  | 0, state => ⟨state, [], none⟩
  | budget + 1, state =>
    match step state with
    | .error e => ⟨state, [], some e⟩
    | .ok (next, record) =>
      let rest := tracedRun step budget next
      ⟨rest.state, record :: rest.records, rest.stop⟩

@[simp] theorem tracedRun_zero : tracedRun step 0 state = ⟨state, [], none⟩ := rfl

theorem tracedRun_of_error {e : ε} (h : step state = .error e) :
    tracedRun step (n + 1) state = ⟨state, [], some e⟩ := by
  rw [tracedRun, h]

theorem tracedRun_of_ok (h : step state = .ok (next, record)) :
    tracedRun step (n + 1) state =
      ⟨(tracedRun step n next).state, record :: (tracedRun step n next).records,
        (tracedRun step n next).stop⟩ := by
  rw [tracedRun, h]

/-- A run keeps a record of each of its steps, and takes all of its budget unless it stops. -/
theorem tracedRun_length (step : σ → Except ε (σ × τ)) (n : ℕ) (state : σ) :
    (tracedRun step n state).records.length ≤ n ∧
      ((tracedRun step n state).stop = none ↔ (tracedRun step n state).records.length = n) := by
  induction n generalizing state with
  | zero => exact ⟨le_rfl, iff_of_true rfl rfl⟩
  | succ n ih =>
    cases hstep : step state with
    | error e =>
      rw [tracedRun_of_error hstep]
      refine ⟨Nat.zero_le _, iff_of_false (Option.some_ne_none e) ?_⟩
      rw [List.length_nil]
      omega
    | ok outcome =>
      obtain ⟨next, record⟩ := outcome
      obtain ⟨hle, hstop⟩ := ih next
      rw [tracedRun_of_ok hstep, List.length_cons]
      exact ⟨by omega, hstop.trans (by omega)⟩

theorem tracedRun_stop {e : ε} (h : (tracedRun step n state).stop = some e) :
    step (tracedRun step n state).state = .error e := by
  induction n generalizing state with
  | zero => cases h
  | succ n ih =>
    cases hstep : step state with
    | error e' =>
      rw [tracedRun_of_error hstep] at h ⊢
      cases h
      exact hstep
    | ok outcome =>
      obtain ⟨next, record⟩ := outcome
      rw [tracedRun_of_ok hstep] at h ⊢
      exact ih h

/-- **A run that takes all of its budget goes on as a second run from where it ends.** -/
theorem tracedRun_add (m : ℕ) (h : (tracedRun step n state).stop = none) :
    tracedRun step (n + m) state =
      ⟨(tracedRun step m (tracedRun step n state).state).state,
        (tracedRun step n state).records ++
          (tracedRun step m (tracedRun step n state).state).records,
        (tracedRun step m (tracedRun step n state).state).stop⟩ := by
  induction n generalizing state with
  | zero =>
    rw [Nat.zero_add]
    rfl
  | succ n ih =>
    cases hstep : step state with
    | error e =>
      rw [tracedRun_of_error hstep] at h
      cases h
    | ok outcome =>
      obtain ⟨next, record⟩ := outcome
      rw [tracedRun_of_ok hstep] at h
      rw [Nat.succ_add, tracedRun_of_ok hstep, tracedRun_of_ok hstep, ih h]
      rfl

/-- The steps of a run that stopped are those of a run with no more budget than they need. -/
theorem tracedRun_retired (step : σ → Except ε (σ × τ)) (n : ℕ) (state : σ) :
    tracedRun step (tracedRun step n state).records.length state =
      ⟨(tracedRun step n state).state, (tracedRun step n state).records, none⟩ := by
  induction n generalizing state with
  | zero => rfl
  | succ n ih =>
    cases hstep : step state with
    | error e =>
      rw [tracedRun_of_error hstep]
      rfl
    | ok outcome =>
      obtain ⟨next, record⟩ := outcome
      rw [tracedRun_of_ok hstep, List.length_cons, tracedRun_of_ok hstep, ih next]

/-- The records lead from one state to another, step by step. -/
inductive Follows (step : σ → Except ε (σ × τ)) : σ → List τ → σ → Prop where
  | nil {state : σ} : Follows step state [] state
  | cons {state next last : σ} {record : τ} {records : List τ} :
      step state = .ok (next, record) → Follows step next records last →
        Follows step state (record :: records) last

theorem tracedRun_follows (step : σ → Except ε (σ × τ)) (n : ℕ) (state : σ) :
    Follows step state (tracedRun step n state).records (tracedRun step n state).state := by
  induction n generalizing state with
  | zero => exact .nil
  | succ n ih =>
    cases hstep : step state with
    | error e =>
      rw [tracedRun_of_error hstep]
      exact .nil
    | ok outcome =>
      obtain ⟨next, record⟩ := outcome
      rw [tracedRun_of_ok hstep]
      exact .cons hstep (ih next)

namespace Follows

theorem forall_mem {P : τ → Prop} (h : Follows step state records last)
    (hstep : ∀ {state next record}, step state = .ok (next, record) → P record) :
    ∀ record ∈ records, P record := by
  induction h with
  | nil => exact fun record hrecord => absurd hrecord List.not_mem_nil
  | cons hone _ ih =>
    rw [List.forall_mem_cons]
    exact ⟨hstep hone, ih⟩

/-- **What is replayed.** A view of the state that each record changes as its step does is changed
by the records as by the run. -/
theorem replay {ν : Type} {μ : Type → Type} [Monad μ] [LawfulMonad μ] {view : σ → ν}
    {apply : ν → τ → μ ν} (h : Follows step state records last)
    (hstep : ∀ {state next record}, step state = .ok (next, record) →
      apply (view state) record = pure (view next)) :
    records.foldlM apply (view state) = pure (view last) := by
  induction h with
  | nil => rfl
  | cons hone _ ih => rw [List.foldlM_cons, hstep hone, pure_bind, ih]

theorem frame {ν : Type} {view : σ → ν} (h : Follows step state records last)
    (hstep : ∀ {state next record}, step state = .ok (next, record) → view next = view state) :
    view last = view state := by
  induction h with
  | nil => rfl
  | cons hone _ ih => exact ih.trans (hstep hone)

variable {κ : Type} {key : σ → κ} {before after : τ → κ}

/-- Records that name the state after them name the last one last. -/
theorem last_eq (h : Follows step state records last)
    (hafter : ∀ {state next record}, step state = .ok (next, record) → after record = key next) :
    key last = (records.getLast?.map after).getD (key state) := by
  induction h with
  | nil => rfl
  | @cons _ _ _ record records hone hrest ih =>
    cases records with
    | nil =>
      cases hrest
      exact (hafter hone).symm
    | cons record' records =>
      rw [ih, List.getLast?_cons_cons,
        List.getLast?_eq_some_getLast (List.cons_ne_nil record' records)]
      rfl

/-- Records that name the state before and after them form a chain. -/
theorem isChain (h : Follows step state records last)
    (hbefore : ∀ {state next record}, step state = .ok (next, record) → before record = key state)
    (hafter : ∀ {state next record}, step state = .ok (next, record) → after record = key next) :
    (∀ record ∈ records.head?, before record = key state) ∧
    records.IsChain fun a b => after a = before b := by
  induction h with
  | nil => exact ⟨fun record hrecord => (Option.not_mem_none record hrecord).elim, List.IsChain.nil⟩
  | @cons _ _ _ record records hone hrest ih =>
    obtain ⟨hhead, hchain⟩ := ih
    refine ⟨?_, ?_⟩
    · intro first hfirst
      rw [List.head?_cons, Option.mem_some_iff] at hfirst
      rw [← hfirst]
      exact hbefore hone
    · rw [List.isChain_cons]
      refine ⟨?_, hchain⟩
      intro second hsecond
      rw [hafter hone, hhead second hsecond]

end Follows

end Run

end Astraea.Base
