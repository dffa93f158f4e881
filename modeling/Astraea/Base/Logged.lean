import Astraea.Base.Check

/-!
# Checks that are watched

`Logged` is a sequence of checks together with the places it has looked at, those before an error
included. The result is what the same sequence gives without the log (`result_bind`), and where it
looks is shown step by step: `LooksIn p` holds of a sequence when it holds of its steps.
-/

namespace Astraea.Base

variable {ω ε α β η : Type}

/-- A result, an error or not, and the places that were looked at for it. -/
structure Logged (ω ε α : Type) where
  log : List ω
  result : Except ε α

namespace Logged

/-- A step that looks nowhere. -/
def quiet (result : Except ε α) : Logged ω ε α := ⟨[], result⟩

/-- A step that looks at one place. -/
def look (place : ω) (result : Except ε α) : Logged ω ε α := ⟨[place], result⟩

/-- A step and what follows it. -/
def andThen (x : Logged ω ε α) (f : α → Logged ω ε β) : Logged ω ε β :=
  match x.result with
  | .error e => ⟨x.log, .error e⟩
  | .ok a => ⟨x.log ++ (f a).log, (f a).result⟩

instance : Monad (Logged ω ε) where
  pure a := quiet (.ok a)
  bind := andThen

/-- Every place that was looked at satisfies `p`. -/
def LooksIn (p : ω → Prop) (x : Logged ω ε α) : Prop := ∀ place ∈ x.log, p place

section Rules

variable {p q : ω → Prop} {x : Logged ω ε α} {f : α → Logged ω ε β}

@[simp] theorem result_quiet (r : Except ε α) : (quiet r : Logged ω ε α).result = r := rfl

@[simp] theorem result_look (place : ω) (r : Except ε α) : (look place r).result = r := rfl

theorem result_pure (a : α) : (pure a : Logged ω ε α).result = .ok a := rfl

/-- **The log makes no difference to the result.** -/
theorem result_bind (x : Logged ω ε α) (f : α → Logged ω ε β) :
    (x >>= f).result = x.result >>= fun a => (f a).result := by
  show (andThen x f).result = _
  rw [andThen]
  cases x.result <;> rfl

theorem looksIn_quiet (r : Except ε α) : LooksIn p (quiet r) :=
  fun _ hmem => absurd hmem List.not_mem_nil

theorem looksIn_pure (a : α) : LooksIn p (pure a : Logged ω ε α) := looksIn_quiet _

theorem looksIn_look {place : ω} (h : p place) (r : Except ε α) : LooksIn p (look place r) := by
  intro other hmem
  rw [List.mem_singleton.mp hmem]
  exact h

/-- **A sequence looks where its steps look**, and at the later ones only if it comes to them. -/
theorem LooksIn.bind (hx : LooksIn p x) (hf : ∀ a, x.result = .ok a → LooksIn p (f a)) :
    LooksIn p (x >>= f) := by
  intro place hmem
  replace hmem : place ∈ (andThen x f).log := hmem
  rw [andThen] at hmem
  cases hresult : x.result with
  | error e =>
    rw [hresult] at hmem
    exact hx place hmem
  | ok a =>
    rw [hresult] at hmem
    rcases List.mem_append.mp hmem with hmem | hmem
    · exact hx place hmem
    · exact hf a hresult place hmem

theorem LooksIn.mono (h : LooksIn p x) (hsub : ∀ place, p place → q place) : LooksIn q x :=
  fun place hmem => hsub place (h place hmem)

end Rules

/-! ### Loops -/

/-- A loop that collects one result for each element. -/
def collect (f : η → Logged ω ε β) : List η → Logged ω ε (List β)
  | [] => pure []
  | x :: xs => do
    let y ← f x
    let ys ← collect f xs
    return y :: ys

theorem result_collect (f : η → Logged ω ε β) (xs : List η) :
    (collect f xs).result = xs.mapM fun x => (f x).result := by
  induction xs with
  | nil => rfl
  | cons x xs ih =>
    rw [collect, result_bind, List.mapM_cons]
    refine congrArg _ (funext fun y => ?_)
    rw [result_bind, ih]
    rfl

theorem looksIn_collect {p : ω → Prop} {f : η → Logged ω ε β} {xs : List η}
    (h : ∀ x ∈ xs, LooksIn p (f x)) :
    LooksIn p (collect f xs) := by
  induction xs with
  | nil => exact looksIn_pure _
  | cons x xs ih =>
    rw [List.forall_mem_cons] at h
    exact h.1.bind fun y _ => (ih h.2).bind fun ys _ => looksIn_pure _

/-! ### In the light of what came before -/

/-- What each entry of a log is, given the entries before it; `past` are those before the log. -/
def EachAfter (p : List ω → ω → Prop) : (past log : List ω) → Prop
  | _, [] => True
  | past, place :: log => p past place ∧ EachAfter p (past ++ [place]) log

section EachAfter

variable {p : List ω → ω → Prop} {past log log' : List ω}

theorem eachAfter_append :
    EachAfter p past (log ++ log') ↔ EachAfter p past log ∧ EachAfter p (past ++ log) log' := by
  induction log generalizing past with
  | nil => simp [EachAfter]
  | cons place log ih => simp only [List.cons_append, EachAfter, ih, and_assoc, List.append_assoc,
      List.nil_append]

/-- Every entry satisfies `p`, wherever the log is cut in front of it. -/
theorem EachAfter.split (h : EachAfter p past log) {before after : List ω} {place : ω}
    (hlog : log = before ++ place :: after) : p (past ++ before) place := by
  rw [hlog, eachAfter_append] at h
  exact h.2.1

/-- **The log of a sequence is that of its steps**, each in the light of the steps before it. -/
theorem eachAfter_bind {x : Logged ω ε α} {f : α → Logged ω ε β} (hx : EachAfter p past x.log)
    (hf : ∀ a, x.result = .ok a → EachAfter p (past ++ x.log) (f a).log) :
    EachAfter p past (x >>= f).log := by
  show EachAfter p past (andThen x f).log
  rw [andThen]
  cases hresult : x.result with
  | error e => exact hx
  | ok a => exact eachAfter_append.mpr ⟨hx, hf a hresult⟩

end EachAfter

theorem log_bind_of_ok {x : Logged ω ε α} {a : α} (h : x.result = .ok a) (f : α → Logged ω ε β) :
    (x >>= f).log = x.log ++ (f a).log := by
  show (andThen x f).log = _
  rw [andThen, h]

end Logged

end Astraea.Base
