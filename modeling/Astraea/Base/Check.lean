import Mathlib.Algebra.Order.Group.Nat
import Mathlib.Data.List.Forall2

/-!
# Sequences of checks

Code that validates its input is a sequence of checks, each of which may leave with
an error of its own. Here it is a `do` block in `Except`: `refuseIf` is a check that
leaves, `whenever` a check under a condition and `orRefuse` a lookup that may fail.
The lemmas take a sequence that came through, or that left with an error, apart into
what its checks found, and a loop of checks into what the check found at each element.
-/

namespace Astraea.Base

universe u v

variable {ε ε' : Type u} {α β : Type v}

/-- Leave with `e` when `c` holds. -/
def refuseIf (c : Prop) [Decidable c] (e : ε) : Except ε Unit := if c then .error e else .ok ()

/-- A check that is made only when `c` holds. -/
def whenever (c : Prop) [Decidable c] (check : Except ε Unit) : Except ε Unit :=
  if c then check else .ok ()

/-- The value, or leave with `e` when there is none. -/
def orRefuse (value : Option α) (e : ε) : Except ε α :=
  match value with
  | some a => .ok a
  | none => .error e

variable {c : Prop} {e : ε} {value : Option α} {x : Except ε α} {f : α → Except ε β} {xs : List α}
  {ys : List β}

@[simp] theorem refuseIf_eq_ok [Decidable c] {u : Unit} : refuseIf c e = .ok u ↔ ¬ c := by
  unfold refuseIf
  split_ifs with h <;> simp [h]

theorem refuseIf_of_not [Decidable c] (h : ¬ c) : refuseIf c e = .ok () :=
  if_neg h

theorem refuseIf_congr {c' : Prop} [Decidable c] [Decidable c'] (h : c ↔ c') (e : ε) :
    refuseIf c e = refuseIf c' e :=
  if_congr h rfl rfl

@[simp] theorem refuseIf_eq_error [Decidable c] {e' : ε} :
    refuseIf c e = .error e' ↔ c ∧ e = e' := by
  unfold refuseIf
  split_ifs with h <;> simp [h]

@[simp] theorem whenever_eq_ok [Decidable c] {check : Except ε Unit} {u : Unit} :
    whenever c check = .ok u ↔ (c → check = .ok ()) := by
  unfold whenever
  split_ifs with h <;> simp [h]

@[simp] theorem whenever_eq_error [Decidable c] {check : Except ε Unit} :
    whenever c check = .error e ↔ c ∧ check = .error e := by
  unfold whenever
  split_ifs with h <;> simp [h]

@[simp] theorem orRefuse_eq_ok {a : α} : orRefuse value e = .ok a ↔ value = some a := by
  cases value <;> simp [orRefuse]

@[simp] theorem orRefuse_eq_error {e' : ε} :
    orRefuse value e = .error e' ↔ value = none ∧ e = e' := by
  cases value <;> simp [orRefuse]

theorem ok_bind (a : α) (f : α → Except ε β) : (Except.ok a >>= f) = f a := rfl

@[simp] theorem bind_eq_ok {b : β} : x >>= f = .ok b ↔ ∃ a, x = .ok a ∧ f a = .ok b := by
  cases x <;> simp [bind, Except.bind]

theorem check_bind_eq_ok {β : Type} {x : Except ε Unit} {f : Unit → Except ε β} {b : β} :
    x >>= f = .ok b ↔ x = .ok () ∧ f () = .ok b := by
  cases x <;> simp [bind, Except.bind]

/-- What the last step of a sequence comes to in every case, the sequence comes to. -/
theorem forall_bind_eq_ok {p : β → Prop} (hf : ∀ a b, f a = .ok b → p b) :
    ∀ b, x >>= f = .ok b → p b := by
  intro b hb
  obtain ⟨a, -, ha⟩ := bind_eq_ok.mp hb
  exact hf a b ha

@[simp] theorem bind_eq_error :
    x >>= f = .error e ↔ x = .error e ∨ ∃ a, x = .ok a ∧ f a = .error e := by
  cases x <;> simp [bind, Except.bind]

@[simp] theorem pure_eq_ok {a b : α} : (pure a : Except ε α) = .ok b ↔ a = b := by
  simp [pure, Except.pure]

@[simp] theorem pure_ne_error {a : α} : (pure a : Except ε α) = .error e ↔ False := by
  simp [pure, Except.pure]

theorem map_eq_ok {f : α → β} {b : β} : x.map f = .ok b ↔ ∃ a, x = .ok a ∧ f a = b := by
  cases x <;> simp [Except.map]

theorem map_eq_error {f : α → β} : x.map f = .error e ↔ x = .error e := by
  cases x <;> simp [Except.map]

@[simp] theorem mapError_eq_ok {f : ε → ε'} {a : α} : x.mapError f = .ok a ↔ x = .ok a := by
  cases x <;> simp [Except.mapError]

@[simp] theorem mapError_eq_error {f : ε → ε'} {e : ε'} :
    x.mapError f = .error e ↔ ∃ e', x = .error e' ∧ f e' = e := by
  cases x <;> simp [Except.mapError]

/-! ### Renaming errors -/

theorem mapError_ok (a : α) (g : ε → ε') : (Except.ok a : Except ε α).mapError g = .ok a := rfl

theorem mapError_bind (x : Except ε α) (f : α → Except ε β) (g : ε → ε') :
    (x >>= f).mapError g = x.mapError g >>= fun a => (f a).mapError g := by
  cases x <;> rfl

/-- Two sequences that fail together, under two names for their errors, and go on alike. -/
theorem bind_eq_mapError_bind {x' : Except ε' α} {f' : α → Except ε' β} {g : ε → ε'}
    (hx : x' = x.mapError g) (hf : ∀ a, x = .ok a → f' a = (f a).mapError g) :
    x' >>= f' = (x >>= f).mapError g := by
  subst hx
  cases x with
  | error e => rfl
  | ok a => exact hf a rfl

theorem mapError_pure (a : α) (g : ε → ε') : (pure a : Except ε α).mapError g = pure a := rfl

theorem mapError_refuseIf (c : Prop) [Decidable c] (e : ε) (g : ε → ε') :
    (refuseIf c e).mapError g = refuseIf c (g e) := by
  unfold refuseIf
  split_ifs <;> rfl

theorem mapError_orRefuse (value : Option α) (e : ε) (g : ε → ε') :
    (orRefuse value e).mapError g = orRefuse value (g e) := by
  cases value <;> rfl

theorem refuseIf_bind_mapError {β : Type} {c : Prop} [Decidable c] {f : Unit → Except ε β}
    {f' : Unit → Except ε' β} {g : ε → ε'} (hf : ¬ c → f' () = (f ()).mapError g) :
    refuseIf c (g e) >>= f' = (refuseIf c e >>= f).mapError g :=
  bind_eq_mapError_bind (mapError_refuseIf _ _ _).symm fun _ h => hf (refuseIf_eq_ok.mp h)

theorem orRefuse_bind_mapError {f : α → Except ε β} {f' : α → Except ε' β} {g : ε → ε'}
    (hf : ∀ a, value = some a → f' a = (f a).mapError g) :
    orRefuse value (g e) >>= f' = (orRefuse value e >>= f).mapError g :=
  bind_eq_mapError_bind (mapError_orRefuse _ _ _).symm fun a h => hf a (orRefuse_eq_ok.mp h)

theorem exists_of_any {p : α → Bool} (h : x.toOption.any p = true) :
    ∃ a, x = .ok a ∧ p a = true := by
  cases x with
  | error e => cases h
  | ok a => exact ⟨a, rfl, h⟩

/-! ### Loops of checks -/

theorem forM_cons (f : α → Except ε PUnit) (x : α) (xs : List α) :
    (x :: xs).forM f = f x >>= fun _ => xs.forM f :=
  rfl

theorem mapError_forM (f : α → Except ε PUnit) (xs : List α) (g : ε → ε') :
    (xs.forM f).mapError g = xs.forM fun x => (f x).mapError g := by
  induction xs with
  | nil => rfl
  | cons x xs ih => rw [forM_cons, forM_cons, mapError_bind, ih]

theorem forM_congr {f g : α → Except ε PUnit} (h : ∀ x ∈ xs, f x = g x) :
    xs.forM f = xs.forM g := by
  induction xs with
  | nil => rfl
  | cons x xs ih =>
    rw [List.forall_mem_cons] at h
    rw [forM_cons, forM_cons, h.1, ih h.2]

theorem forM_eq_ok {f : α → Except ε PUnit} : xs.forM f = .ok () ↔ ∀ x ∈ xs, f x = .ok () := by
  induction xs with
  | nil => simp [pure, Except.pure]
  | cons x xs ih =>
    rw [forM_cons, bind_eq_ok, List.forall_mem_cons, ← ih]
    exact ⟨fun ⟨_, hx, hxs⟩ => ⟨hx, hxs⟩, fun ⟨hx, hxs⟩ => ⟨(), hx, hxs⟩⟩

theorem forM_zipIdx_eq_ok {f : α × ℕ → Except ε PUnit} :
    xs.zipIdx.forM f = .ok () ↔ ∀ (index : ℕ) (x : α),
      xs[index]? = some x → f (x, index) = .ok () := by
  rw [forM_eq_ok]
  constructor
  · intro h index x hx
    exact h (x, index) (List.mem_zipIdx_iff_getElem?.mpr hx)
  · rintro h ⟨x, index⟩ hx
    exact h index x (List.mem_zipIdx_iff_getElem?.mp hx)

/-- What every turn of a loop with a state says of its element holds of all of them. -/
theorem forall_of_foldlM_eq_ok {β : Type*} {f : β → α → Except ε β} {P : α → Prop}
    (hstep : ∀ b x b', f b x = .ok b' → P x) {b b' : β} (h : xs.foldlM f b = .ok b') :
    ∀ x ∈ xs, P x := by
  induction xs generalizing b with
  | nil => exact fun _ hx => absurd hx List.not_mem_nil
  | cons x xs ih =>
    rw [List.foldlM_cons, bind_eq_ok] at h
    obtain ⟨next, hx, hrest⟩ := h
    exact List.forall_mem_cons.mpr ⟨hstep b x next hx, ih hrest⟩

/-- A loop that leaves with an error does so at the first element that is refused. -/
theorem forM_eq_error {f : α → Except ε PUnit} :
    xs.forM f = .error e ↔
      ∃ before x after, xs = before ++ x :: after ∧ (∀ y ∈ before, f y = .ok ()) ∧
        f x = .error e := by
  induction xs with
  | nil => simp
  | cons x xs ih =>
    rw [forM_cons, bind_eq_error, ih]
    constructor
    · rintro (h | ⟨_, h, before, y, after, rfl, hb, hy⟩)
      · exact ⟨[], x, xs, rfl, by simp, h⟩
      · exact ⟨x :: before, y, after, rfl, by simpa using ⟨h, hb⟩, hy⟩
    · rintro ⟨before, y, after, heq, hb, hy⟩
      cases before with
      | nil =>
        cases heq
        exact .inl hy
      | cons z before =>
        cases heq
        exact .inr ⟨(), hb x List.mem_cons_self, before, y, after, rfl,
          fun w hw => hb w (List.mem_cons_of_mem _ hw), hy⟩

/-- Two computations that begin alike differ by a map, if what follows does. -/
theorem bind_eq_map_bind {f' : α → Except ε β} {g : β → β}
    (h : ∀ a, x = .ok a → f' a = (f a).map g) :
    (x >>= f') = (x >>= f).map g := by
  cases x with
  | error e => rfl
  | ok a => exact h a rfl

theorem mapM_eq_ok : xs.mapM f = .ok ys ↔ List.Forall₂ (fun x y => f x = .ok y) xs ys := by
  induction xs generalizing ys with
  | nil =>
    rw [List.mapM_nil, pure_eq_ok, List.forall₂_nil_left_iff]
    exact eq_comm
  | cons x xs ih =>
    simp only [List.mapM_cons, bind_eq_ok, pure_eq_ok, ih, List.forall₂_cons_left_iff]
    grind

/-- Where two lists go together element by element, each element has its partner in the other list.
-/
theorem exists_mem_of_forall₂ {r : α → β → Prop} (h : List.Forall₂ r xs ys) :
    (∀ x ∈ xs, ∃ y ∈ ys, r x y) ∧ ∀ y ∈ ys, ∃ x ∈ xs, r x y := by
  induction h with
  | nil => simp
  | cons hxy _ ih =>
    rw [List.forall_mem_cons, List.forall_mem_cons]
    refine ⟨⟨⟨_, List.mem_cons_self, hxy⟩, ?_⟩, ⟨⟨_, List.mem_cons_self, hxy⟩, ?_⟩⟩
    · intro x hx
      obtain ⟨y, hy, hr⟩ := ih.1 x hx
      exact ⟨y, List.mem_cons_of_mem _ hy, hr⟩
    · intro y hy
      obtain ⟨x, hx, hr⟩ := ih.2 y hy
      exact ⟨x, List.mem_cons_of_mem _ hx, hr⟩

/-- Each element has its result among those a loop collected, and each of these is one. -/
theorem mem_of_mapM_eq_ok (h : xs.mapM f = .ok ys) :
    (∀ x ∈ xs, ∃ y ∈ ys, f x = .ok y) ∧ ∀ y ∈ ys, ∃ x ∈ xs, f x = .ok y :=
  exists_mem_of_forall₂ (mapM_eq_ok.mp h)

theorem exists_mapM_eq_ok (h : ∀ x ∈ xs, ∃ y, f x = .ok y) : ∃ ys, xs.mapM f = .ok ys := by
  induction xs with
  | nil => exact ⟨[], rfl⟩
  | cons x xs ih =>
    rw [List.forall_mem_cons] at h
    obtain ⟨y, hy⟩ := h.1
    obtain ⟨ys, hys⟩ := ih h.2
    refine ⟨y :: ys, ?_⟩
    simp only [List.mapM_cons, bind_eq_ok, pure_eq_ok]
    exact ⟨y, hy, ys, hys, rfl⟩

/-! ### The errors of a sequence -/

/-- Every error that the sequence leaves with satisfies `p`. -/
def LeavesWith (p : ε → Prop) (x : Except ε α) : Prop := ∀ e, x = .error e → p e

section LeavesWith

variable {p : ε → Prop}

theorem LeavesWith.bind (hx : LeavesWith p x) (hf : ∀ a, x = .ok a → LeavesWith p (f a)) :
    LeavesWith p (x >>= f) := by
  intro e he
  rcases bind_eq_error.mp he with hfail | ⟨a, ha, hfail⟩
  · exact hx e hfail
  · exact hf a ha e hfail

theorem leavesWith_ok (a : α) : LeavesWith p (.ok a) := fun _ he => by cases he

theorem leavesWith_refuseIf [Decidable c] (h : c → p e) : LeavesWith p (refuseIf c e) := by
  intro e' he
  obtain ⟨hc, rfl⟩ := refuseIf_eq_error.mp he
  exact h hc

theorem leavesWith_orRefuse (h : value = none → p e) : LeavesWith p (orRefuse value e) := by
  intro e' he
  obtain ⟨hnone, rfl⟩ := orRefuse_eq_error.mp he
  exact h hnone

theorem leavesWith_mapError {x : Except ε' α} {f : ε' → ε} (h : ∀ e, x = .error e → p (f e)) :
    LeavesWith p (x.mapError f) := by
  intro e he
  obtain ⟨e', he', rfl⟩ := mapError_eq_error.mp he
  exact h e' he'

theorem leavesWith_mapM (h : ∀ x ∈ xs, LeavesWith p (f x)) : LeavesWith p (xs.mapM f) := by
  induction xs with
  | nil =>
    intro e he
    cases he
  | cons x xs ih =>
    rw [List.forall_mem_cons] at h
    rw [List.mapM_cons]
    refine h.1.bind fun y _ => (ih h.2).bind fun ys _ => ?_
    intro e he
    cases he

theorem leavesWith_forM {f : α → Except ε Unit} (h : ∀ x ∈ xs, LeavesWith p (f x)) :
    LeavesWith p (xs.forM f) := by
  intro e he
  obtain ⟨before, x, after, rfl, -, hx⟩ := forM_eq_error.mp he
  exact h x (List.mem_append_right _ List.mem_cons_self) e hx

end LeavesWith

end Astraea.Base
