import Astraea.Base.Check

/-!
# Relabelled results

Two runs of the same checks on inputs that differ in names only, such as the places things are
numbered by, have results that differ in these names only. `relabel` changes the names in a
result, an error or not, and the lemmas carry it through a sequence of checks. The second part
is about a loop over a list in which an element has been repeated that changes nothing.
-/

namespace Astraea.Base

universe u v

variable {ε ε' δ δ' : Type u} {α β γ κ : Type v}

/-- The result with the names in it changed: by `φ` in an error, by `g` otherwise. -/
def relabel (φ : ε → ε') (g : α → β) : Except ε α → Except ε' β
  | .error e => .error (φ e)
  | .ok a => .ok (g a)

section Relabel

variable {φ : ε → ε'} {g : α → β}

theorem relabel_id (x : Except ε α) : relabel (fun e => e) (fun a => a) x = x := by
  cases x <;> rfl

variable {x : Except ε α} {x' : Except ε' β} {h : γ → κ} {E : δ → ε}

theorem bind_relabel {k : α → Except ε γ} {k' : β → Except ε' κ} (hx : x' = relabel φ g x)
    (hk : ∀ a, k' (g a) = relabel φ h (k a)) :
    (x' >>= k') = relabel φ h (x >>= k) := by
  subst hx
  cases x with
  | error e => rfl
  | ok a => exact hk a

/-- An error that is turned into another keeps its names. -/
theorem mapError_relabel {ψ : δ → δ'} {x : Except δ α} {x' : Except δ' β} {E' : δ' → ε'}
    (hx : x' = relabel ψ g x) (hE : ∀ e, E' (ψ e) = φ (E e)) :
    x'.mapError E' = relabel φ g (x.mapError E) := by
  subst hx
  cases x with
  | error e => exact congrArg Except.error (hE e)
  | ok a => rfl

theorem mapError_relabel_same {x : Except δ α} {E' : δ → ε'} (hE : ∀ e, E' e = φ (E e)) :
    x.mapError E' = relabel φ (fun a => a) (x.mapError E) :=
  mapError_relabel (relabel_id x).symm hE

theorem refuseIf_relabel {c : Prop} [Decidable c] {e : ε} {e' : ε'} (he : e' = φ e) :
    refuseIf c e' = relabel φ (fun u => u) (refuseIf c e) := by
  rw [he, refuseIf, refuseIf]
  split_ifs <;> rfl

theorem whenever_relabel {c : Prop} [Decidable c] {check : Except ε Unit} {check' : Except ε' Unit}
    (h : check' = relabel φ (fun u => u) check) :
    whenever c check' = relabel φ (fun u => u) (whenever c check) := by
  rw [whenever, whenever]
  split_ifs
  · exact h
  · rfl

theorem orRefuse_relabel {value : Option α} {e : ε} {e' : ε'} (he : e' = φ e) :
    orRefuse value e' = relabel φ (fun a => a) (orRefuse value e) := by
  rw [he]
  cases value <;> rfl

theorem map_relabel {k : α → γ} {k' : β → κ} (hx : x' = relabel φ g x)
    (hk : ∀ a, k' (g a) = h (k a)) :
    x'.map k' = relabel φ h (x.map k) := by
  subst hx
  cases x with
  | error e => rfl
  | ok a => exact congrArg Except.ok (hk a)

theorem foldlM_relabel {η η' : Type v} {step : α → η → Except ε α} {step' : β → η' → Except ε' β}
    {l : η → η'} (hstep : ∀ a x, step' (g a) (l x) = relabel φ g (step a x)) (xs : List η) (a : α) :
    (xs.map l).foldlM step' (g a) = relabel φ g (xs.foldlM step a) := by
  induction xs generalizing a with
  | nil => rfl
  | cons x xs ih =>
    rw [List.map_cons, List.foldlM_cons, List.foldlM_cons]
    exact bind_relabel (hstep a x) ih

theorem foldlM_relabel_same {η : Type v} {step : α → η → Except ε α} {step' : β → η → Except ε' β}
    (hstep : ∀ a x, step' (g a) x = relabel φ g (step a x)) (xs : List η) (a : α) :
    xs.foldlM step' (g a) = relabel φ g (xs.foldlM step a) := by
  have h := foldlM_relabel (l := fun x => x) hstep xs a
  rw [List.map_id'] at h
  exact h

end Relabel

/-! ### Repeated elements -/

section Repeated

variable {η : Type v} {step : α → η → Except ε α} {Seen : α → Prop} {entry repeated : η}

variable {xs : List η}

/-- What an element has established stays, through the rest of the loop. -/
theorem foldlM_seen (hstays : ∀ {a a' x}, Seen a → step a x = .ok a' → Seen a') {a a' : α}
    (h : Seen a) (hrun : xs.foldlM step a = .ok a') : Seen a' := by
  induction xs generalizing a with
  | nil =>
    cases hrun
    exact h
  | cons x xs ih =>
    rw [List.foldlM_cons, bind_eq_ok] at hrun
    obtain ⟨middle, hmiddle, hrun⟩ := hrun
    exact ih (hstays h hmiddle) hrun

theorem foldlM_seen_of_mem (hsees : ∀ {a a'}, step a entry = .ok a' → Seen a')
    (hstays : ∀ {a a' x}, Seen a → step a x = .ok a' → Seen a') {a a' : α} (hmem : entry ∈ xs)
    (hrun : xs.foldlM step a = .ok a') : Seen a' := by
  induction xs generalizing a with
  | nil => exact absurd hmem List.not_mem_nil
  | cons x xs ih =>
    rw [List.foldlM_cons, bind_eq_ok] at hrun
    obtain ⟨middle, hmiddle, hrun⟩ := hrun
    rcases List.mem_cons.mp hmem with rfl | hmem
    · exact foldlM_seen hstays (hsees hmiddle) hrun
    · exact ih hmem hrun

/-- **A repeated element makes no difference** when the first one has established what makes it
idle. -/
theorem foldlM_repeated (hsees : ∀ {a a'}, step a entry = .ok a' → Seen a')
    (hstays : ∀ {a a' x}, Seen a → step a x = .ok a' → Seen a')
    (hidle : ∀ {a}, Seen a → step a repeated = .ok a) {before after : List η}
    (hmem : entry ∈ before) (a : α) :
    (before ++ repeated :: after).foldlM step a = (before ++ after).foldlM step a := by
  rw [List.foldlM_append, List.foldlM_append]
  cases hrun : before.foldlM step a with
  | error e => rfl
  | ok a' =>
    show (repeated :: after).foldlM step a' = after.foldlM step a'
    rw [List.foldlM_cons, hidle (foldlM_seen_of_mem hsees hstays hmem hrun)]
    rfl

end Repeated

end Astraea.Base
