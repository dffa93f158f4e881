import Mathlib.Data.List.Basic
import Mathlib.Order.Bounds.Basic
import Mathlib.Algebra.Order.Group.Nat

/-!
# The longest prefix on which two lists match

Two lists match for `n` steps when both have as many elements and these are alike pairwise. How far
they match at most follows the lists: they match for no step at the end of one of them or at two
elements that are not alike, and for one step more at two that are.
-/

namespace Astraea.Base

section

variable {α β : Type} {same : α → β → Prop} {x : α} {y : β} {xs : List α} {ys : List β} {n : ℕ}

/-- The first `n` elements of both lists are alike pairwise. -/
def MatchesFor (same : α → β → Prop) (xs : List α) (ys : List β) (n : ℕ) : Prop :=
  n ≤ xs.length ∧ n ≤ ys.length ∧ ∀ i < n, ∀ x y, xs[i]? = some x → ys[i]? = some y → same x y

theorem matchesFor_zero : MatchesFor same xs ys 0 :=
  ⟨Nat.zero_le _, Nat.zero_le _, fun _ hi => absurd hi (Nat.not_lt_zero _)⟩

theorem matchesFor_cons :
    MatchesFor same (x :: xs) (y :: ys) (n + 1) ↔ same x y ∧ MatchesFor same xs ys n := by
  simp only [MatchesFor, List.length_cons, Nat.add_le_add_iff_right]
  constructor
  · rintro ⟨hxs, hys, halike⟩
    refine ⟨halike 0 (Nat.succ_pos n) x y rfl rfl, hxs, hys, ?_⟩
    intro i hi x' y' hx' hy'
    exact halike (i + 1) (Nat.succ_lt_succ hi) x' y' hx' hy'
  · rintro ⟨hfirst, hxs, hys, halike⟩
    refine ⟨hxs, hys, ?_⟩
    intro i hi x' y' hx' hy'
    cases i with
    | zero =>
      cases hx'
      cases hy'
      exact hfirst
    | succ i => exact halike i (Nat.lt_of_succ_lt_succ hi) x' y' hx' hy'

theorem isGreatest_of_nil (h : xs = [] ∨ ys = []) : IsGreatest {n | MatchesFor same xs ys n} 0 := by
  refine ⟨matchesFor_zero, ?_⟩
  rintro n ⟨hxs, hys, -⟩
  rcases h with rfl | rfl
  · exact hxs
  · exact hys

theorem isGreatest_of_not (h : ¬ same x y) :
    IsGreatest {n | MatchesFor same (x :: xs) (y :: ys) n} 0 := by
  refine ⟨matchesFor_zero, ?_⟩
  intro n hn
  cases n with
  | zero => exact le_rfl
  | succ n => exact absurd (matchesFor_cons.mp hn).1 h

theorem isGreatest_cons (h : same x y) (hgreatest : IsGreatest {n | MatchesFor same xs ys n} n) :
    IsGreatest {n | MatchesFor same (x :: xs) (y :: ys) n} (n + 1) := by
  refine ⟨matchesFor_cons.mpr ⟨h, hgreatest.1⟩, ?_⟩
  intro m hm
  cases m with
  | zero => exact Nat.zero_le _
  | succ m => exact Nat.succ_le_succ (hgreatest.2 (matchesFor_cons.mp hm).2)

theorem MatchesFor.imp_of_map {α' β' : Type} {same' : α' → β' → Prop} {f : α → α'} {g : β → β'}
    (himp : ∀ x ∈ xs, ∀ y ∈ ys, same' (f x) (g y) ↔ same x y) :
    MatchesFor same' (xs.map f) (ys.map g) n ↔ MatchesFor same xs ys n := by
  simp only [MatchesFor, List.length_map, List.getElem?_map, Option.map_eq_some_iff]
  refine and_congr_right fun _ => and_congr_right fun _ => forall_congr' fun i =>
    forall_congr' fun _ => ?_
  constructor
  · intro halike x y hx hy
    exact (himp x (List.mem_of_getElem? hx) y (List.mem_of_getElem? hy)).mp
      (halike _ _ ⟨x, hx, rfl⟩ ⟨y, hy, rfl⟩)
  · rintro halike _ _ ⟨x, hx, rfl⟩ ⟨y, hy, rfl⟩
    exact (himp x (List.mem_of_getElem? hx) y (List.mem_of_getElem? hy)).mpr (halike x y hx hy)

end

end Astraea.Base
