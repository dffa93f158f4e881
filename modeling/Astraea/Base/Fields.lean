import Mathlib.Algebra.Order.Group.Nat
import Mathlib.Data.List.Basic

/-!
# Fields between separators

`splitAtFirst` takes a list apart at the first place where a separator stands: the field before
it, and all that comes behind. What it finds is the only way to take the list apart such that the
field has no separator in it, so that two lists of fields that are written the same way are the
same.
-/

namespace Astraea.Base

section Split

variable {α : Type} [DecidableEq α] {separator : α} {xs field rest : List α}

/-- The field in front of the first separator, and what comes behind it. -/
def splitAtFirst (separator : α) : List α → Option (List α × List α)
  | [] => none
  | x :: xs =>
    if x = separator then some ([], xs)
    else (splitAtFirst separator xs).map fun split => (x :: split.1, split.2)

theorem splitAtFirst_eq_none : splitAtFirst separator xs = none ↔ separator ∉ xs := by
  induction xs with
  | nil => simp [splitAtFirst]
  | cons x xs ih =>
    rw [splitAtFirst, List.mem_cons, not_or]
    by_cases hx : x = separator
    · simp [hx]
    · rw [if_neg hx, Option.map_eq_none_iff, ih]
      exact ⟨fun h => ⟨Ne.symm hx, h⟩, And.right⟩

/-- The field has no separator in it, and the separator stands between the field and the rest. -/
theorem splitAtFirst_eq_some :
    splitAtFirst separator xs = some (field, rest) ↔ xs = field ++ separator :: rest ∧
    separator ∉ field := by
  induction xs generalizing field with
  | nil => simp [splitAtFirst]
  | cons x xs ih =>
    rw [splitAtFirst]
    by_cases hx : x = separator
    · rw [if_pos hx, Option.some.injEq, Prod.mk.injEq]
      subst hx
      constructor
      · rintro ⟨rfl, rfl⟩
        exact ⟨rfl, List.not_mem_nil⟩
      · rintro ⟨hsplit, hfield⟩
        cases field with
        | nil =>
          rw [List.nil_append, List.cons.injEq] at hsplit
          exact ⟨rfl, hsplit.2⟩
        | cons y field =>
          rw [List.cons_append, List.cons.injEq] at hsplit
          rw [← hsplit.1] at hfield
          exact absurd List.mem_cons_self hfield
    · rw [if_neg hx, Option.map_eq_some_iff]
      constructor
      · rintro ⟨⟨field', rest'⟩, hsplit, heq⟩
        cases heq
        obtain ⟨rfl, hfield⟩ := ih.mp hsplit
        refine ⟨rfl, ?_⟩
        rw [List.mem_cons, not_or]
        exact ⟨Ne.symm hx, hfield⟩
      · rintro ⟨hsplit, hfield⟩
        cases field with
        | nil =>
          rw [List.nil_append, List.cons.injEq] at hsplit
          exact absurd hsplit.1 hx
        | cons y field =>
          rw [List.cons_append, List.cons.injEq] at hsplit
          obtain ⟨rfl, rfl⟩ := hsplit
          exact ⟨(field, rest), ih.mpr ⟨rfl, fun hmem => hfield (List.mem_cons_of_mem _ hmem)⟩, rfl⟩

/-- There is one way to write a field and a rest behind it. -/
theorem append_separator_inj {field' rest' : List α} (hfield : separator ∉ field)
    (hfield' : separator ∉ field') (h : field ++ separator :: rest = field' ++ separator :: rest') :
    field = field' ∧ rest = rest' := by
  have hsplit : splitAtFirst separator (field ++ separator :: rest) = some (field, rest) :=
    splitAtFirst_eq_some.mpr ⟨rfl, hfield⟩
  rw [splitAtFirst_eq_some.mpr ⟨h, hfield'⟩] at hsplit
  simp only [Option.some.injEq, Prod.mk.injEq] at hsplit
  exact ⟨hsplit.1.symm, hsplit.2.symm⟩

end Split

end Astraea.Base
