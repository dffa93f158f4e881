import Mathlib.Algebra.Order.Group.Nat
import Mathlib.Tactic.Common

/-!
# Chains of consecutive entries

A table of numbered entries is cut into chains: an entry is either the last of its chain, or the
chain goes on with the next number; some entries may not be readable at all. A walk begins
anywhere and visits one entry after the other. Walks that begin at different places run into
each other, so the end of the walk from the highest beginning bounds all of them.
-/

namespace Astraea.Base

variable {ε : Type} {entry : ℕ → Except ε Bool} {first index last other : ℕ}

/-- The entries a walk from `first` visits. An entry that says `true` is the last of its chain. -/
inductive Visits (entry : ℕ → Except ε Bool) (first : ℕ) : ℕ → Prop where
  | start : Visits entry first first
  | next {index : ℕ} :
      Visits entry first index → entry index = .ok false → Visits entry first (index + 1)

/-- The walk from `first` ends at `last`. -/
def ChainEnds (entry : ℕ → Except ε Bool) (first last : ℕ) : Prop :=
  Visits entry first last ∧ entry last = .ok true

/-- The walk from `first` comes to an entry that cannot be read. -/
def ChainBreaks (entry : ℕ → Except ε Bool) (first : ℕ) : Prop :=
  ∃ index e, Visits entry first index ∧ entry index = .error e

theorem Visits.le (h : Visits entry first index) : first ≤ index := by
  induction h with
  | start => exact le_rfl
  | next _ _ ih => exact Nat.le_succ_of_le ih

theorem Visits.passed (h : Visits entry first index) :
    ∀ i, first ≤ i → i < index → entry i = .ok false := by
  induction h with
  | start =>
    intro i hle hlt
    omega
  | @next index _ hentry ih =>
    intro i hle hlt
    by_cases hi : i = index
    · rw [hi]
      exact hentry
    · exact ih i hle (by omega)

/-- Entries that go on are visited, and so is the one after them. -/
theorem visits_of_passed (hle : first ≤ index)
    (h : ∀ i, first ≤ i → i < index → entry i = .ok false) :
    Visits entry first index := by
  induction index, hle using Nat.le_induction with
  | base => exact .start
  | succ index hle ih =>
    refine .next (ih fun i hi hlt => h i hi (by omega)) (h index hle (by omega))

theorem Visits.le_of_ends (h : Visits entry first index) (hfirst : first ≤ last)
    (hlast : entry last = .ok true) :
    index ≤ last := by
  by_contra hlt
  have hpassed := h.passed last hfirst (Nat.lt_of_not_le hlt)
  rw [hlast] at hpassed
  cases hpassed

/-- **A walk below the end of a chain ends**, there or before, unless it comes to an entry that
cannot be read. -/
theorem ends_or_breaks (hfirst : first ≤ last) (hlast : entry last = .ok true) :
    (∃ l ≤ last, ChainEnds entry first l) ∨ ChainBreaks entry first := by
  by_contra hnone
  rw [not_or, not_exists] at hnone
  obtain ⟨hends, hbreaks⟩ := hnone
  have hall : ∀ k, first + k ≤ last → Visits entry first (first + k) := by
    intro k
    induction k with
    | zero => exact fun _ => .start
    | succ k ih =>
      intro hk
      have hvisits := ih (by omega)
      refine .next hvisits ?_
      cases hentry : entry (first + k) with
      | error e => exact absurd ⟨first + k, e, hvisits, hentry⟩ hbreaks
      | ok final =>
        cases final with
        | false => rfl
        | true => exact absurd ⟨by omega, hvisits, hentry⟩ (hends (first + k))
  have hvisits := hall (last - first) (by omega)
  rw [Nat.add_sub_cancel' hfirst] at hvisits
  exact hends last ⟨le_rfl, hvisits, hlast⟩

theorem ChainEnds.unique (h : ChainEnds entry first last) (h' : ChainEnds entry first other) :
    last = other :=
  Nat.le_antisymm (h.1.le_of_ends h'.1.le h'.2) (h'.1.le_of_ends h.1.le h.2)

/-- A walk that ends comes to no entry that cannot be read. -/
theorem ChainEnds.not_breaks (h : ChainEnds entry first last) : ¬ ChainBreaks entry first := by
  rintro ⟨index, e, hvisits, hentry⟩
  rcases Nat.lt_or_eq_of_le (hvisits.le_of_ends h.1.le h.2) with hlt | rfl
  · have hpassed := h.1.passed index hvisits.le hlt
    rw [hentry] at hpassed
    cases hpassed
  · rw [h.2] at hentry
    cases hentry

/-! ### Tables of chains -/

/-- `count` entries cover the chains that begin at the `Head`s: the hashed entries begin at
`symoffset`, every head is one of them, and no walk from a head ends outside. -/
def CoversChains (entry : ℕ → Except ε Bool) (Head : ℕ → Prop) (symoffset count : ℕ) : Prop :=
  ∀ head, Head head → symoffset ≤ head ∧ head < count ∧
    (ChainBreaks entry head ∨ ∃ last < count, ChainEnds entry head last)

section Covers

variable {Head : ℕ → Prop} {symoffset highest count : ℕ}

/-- **The chain of the highest head covers all chains.** -/
theorem coversChains_of_highest (hheads : ∀ head, Head head → symoffset ≤ head ∧ head ≤ highest)
    (hends : ChainEnds entry highest last) : CoversChains entry Head symoffset (last + 1) := by
  intro head hhead
  obtain ⟨hlow, hhigh⟩ := hheads head hhead
  have hle : head ≤ last := hhigh.trans hends.1.le
  refine ⟨hlow, Nat.lt_succ_of_le hle, ?_⟩
  rcases ends_or_breaks hle hends.2 with ⟨l, hl, h⟩ | h
  · exact .inr ⟨l, Nat.lt_succ_of_le hl, h⟩
  · exact .inl h

/-- Whatever covers the chains has room for the chain of the highest head. -/
theorem CoversChains.lt (h : CoversChains entry Head symoffset count) (hhead : Head highest)
    (hends : ChainEnds entry highest last) : last < count := by
  rcases (h highest hhead).2.2 with hbreaks | ⟨l, hl, h⟩
  · exact absurd hbreaks hends.not_breaks
  · rw [hends.unique h]
    exact hl

end Covers

end Astraea.Base
