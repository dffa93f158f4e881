import Mathlib.Data.List.Nodup
import Mathlib.Data.Finset.Card
import Mathlib.Data.Finset.Range
import Mathlib.Algebra.Order.Group.Nat

/-!
# Paths of a function

A partial function leads from an element to the next. A path that comes to an end passes
every element at most once: from an element it passed before it would have to go round for
ever.
-/

namespace Astraea.Base

variable {α : Type} {next : α → Option α}

/-- The elements from a first one to one behind which there is none. -/
inductive EndsIn (next : α → Option α) : List α → Prop where
  | last {a : α} (h : next a = none) : EndsIn next [a]
  | step {a b : α} {rest : List α} (h : next a = some b) (hrest : EndsIn next (b :: rest)) :
      EndsIn next (a :: b :: rest)

theorem EndsIn.unique {a : α} {as bs : List α} (has : EndsIn next (a :: as))
    (hbs : EndsIn next (a :: bs)) : as = bs := by
  induction as generalizing a bs with
  | nil =>
    cases has with
    | last hnone =>
      cases hbs with
      | last => rfl
      | step hsome => rw [hnone] at hsome; cases hsome
  | cons b as ih =>
    cases has with
    | step hsome hrest =>
      cases hbs with
      | last hnone => rw [hnone] at hsome; cases hsome
      | step hsome' hrest' =>
        rw [hsome, Option.some_inj] at hsome'
        subst hsome'
        rw [ih hrest hrest']

/-- From every element it passes, a path goes on as a path. -/
theorem EndsIn.exists_of_mem {as : List α} (h : EndsIn next as) {a : α} (ha : a ∈ as) :
    ∃ rest, EndsIn next (a :: rest) ∧ rest.length < as.length := by
  induction h with
  | last hnone =>
    rw [List.mem_singleton] at ha
    subst ha
    exact ⟨[], .last hnone, Nat.one_pos⟩
  | @step b c rest hsome hrest ih =>
    rcases List.mem_cons.mp ha with rfl | ha
    · exact ⟨_, .step hsome hrest, Nat.lt_succ_self _⟩
    · obtain ⟨rest', hrest', hlength⟩ := ih ha
      exact ⟨rest', hrest', Nat.lt_succ_of_lt hlength⟩

/-- **A path that comes to an end passes no element twice.** -/
theorem EndsIn.nodup {as : List α} (h : EndsIn next as) : as.Nodup := by
  induction h with
  | last => exact List.nodup_singleton _
  | @step a b rest hsome hrest ih =>
    refine List.nodup_cons.mpr ⟨?_, ih⟩
    intro ha
    obtain ⟨rest', hrest', hlength⟩ := hrest.exists_of_mem ha
    have heq := hrest'.unique (.step hsome hrest)
    rw [heq] at hlength
    exact lt_irrefl _ hlength

/-- Numbers below a bound without repetition are not more than the bound. -/
theorem length_le_of_nodup_of_lt {ns : List ℕ} {bound : ℕ} (hnodup : ns.Nodup)
    (hlt : ∀ n ∈ ns, n < bound) :
    ns.length ≤ bound := by
  have hsub : ns.toFinset ⊆ Finset.range bound := by
    intro n hn
    exact Finset.mem_range.mpr (hlt n (List.mem_toFinset.mp hn))
  have hcard := Finset.card_le_card hsub
  rwa [List.toFinset_card_of_nodup hnodup, Finset.card_range] at hcard

end Astraea.Base
