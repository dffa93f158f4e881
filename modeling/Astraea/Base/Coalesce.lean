import Mathlib.Data.List.Pairwise
import Mathlib.Order.MinMax

/-!
# Merging intervals

Intervals of a linear order, each a pair of its first point and the point behind it, stand in the
order of their first points. `coalesce` goes through them and puts those together that touch.

What comes out covers the same points (`coalesce_covers`), keeps a point free between any two
(`coalesce_apart`), and each interval that went in lies inside one that comes out
(`exists_mem_coalesce`).
-/

namespace Astraea.Base

section Coalesce

variable {α : Type} [LinearOrder α]

/-- The point is in the interval. -/
def SpanCovers (interval : α × α) (point : α) : Prop := interval.1 ≤ point ∧ point < interval.2

/-- The one interval is inside the other. -/
def LiesIn (inner outer : α × α) : Prop := outer.1 ≤ inner.1 ∧ inner.2 ≤ outer.2

/-- The last interval so far is extended by those that touch it, up to the first that does not. -/
def coalesce : (previous : α × α) → List (α × α) → List (α × α)
  | previous, [] => [previous]
  | previous, interval :: rest =>
    if previous.2 < interval.1 then previous :: coalesce interval rest
    else coalesce (previous.1, max previous.2 interval.2) rest

variable {previous interval inner outer : α × α} {intervals : List (α × α)}

theorem LiesIn.refl (interval : α × α) : LiesIn interval interval := ⟨le_rfl, le_rfl⟩

theorem LiesIn.trans {middle : α × α} (h : LiesIn inner middle) (h' : LiesIn middle outer) :
    LiesIn inner outer :=
  ⟨h'.1.trans h.1, h.2.trans h'.2⟩

theorem LiesIn.covers {point : α} (h : LiesIn inner outer) (hcovers : SpanCovers inner point) :
    SpanCovers outer point :=
  ⟨h.1.trans hcovers.1, hcovers.2.trans_le h.2⟩

/-- An interval that touches the last one is inside the two put together, and so is the last one. -/
theorem liesIn_merged (hsorted : previous.1 ≤ interval.1) :
    LiesIn previous (previous.1, max previous.2 interval.2) ∧
    LiesIn interval (previous.1, max previous.2 interval.2) :=
  ⟨⟨le_rfl, le_max_left _ _⟩, hsorted, le_max_right _ _⟩

theorem covers_merged {point : α} (htouch : interval.1 ≤ previous.2)
    (h : SpanCovers (previous.1, max previous.2 interval.2) point) :
    SpanCovers previous point ∨ SpanCovers interval point := by
  obtain ⟨hlow, hhigh⟩ := h
  by_cases hpoint : point < previous.2
  · exact .inl ⟨hlow, hpoint⟩
  · have hbehind := le_of_not_gt hpoint
    exact .inr ⟨htouch.trans hbehind, (lt_max_iff.mp hhigh).resolve_left hpoint⟩

/-- The first point of what comes out is that of an interval that went in, and so is the point
behind it. -/
theorem ends_of_mem_coalesce (h : interval ∈ coalesce previous intervals) :
    (∃ source ∈ previous :: intervals, source.1 = interval.1) ∧
    ∃ source ∈ previous :: intervals, source.2 = interval.2 := by
  induction intervals generalizing previous with
  | nil =>
    rw [coalesce, List.mem_singleton] at h
    subst h
    exact ⟨⟨_, List.mem_cons_self, rfl⟩, _, List.mem_cons_self, rfl⟩
  | cons next rest ih =>
    rw [coalesce] at h
    split_ifs at h with hgap
    · rcases List.mem_cons.mp h with rfl | h
      · exact ⟨⟨_, List.mem_cons_self, rfl⟩, _, List.mem_cons_self, rfl⟩
      · obtain ⟨⟨first, hfirst, hlow⟩, last, hlast, hhigh⟩ := ih h
        exact ⟨⟨first, List.mem_cons_of_mem _ hfirst, hlow⟩, last, List.mem_cons_of_mem _ hlast,
          hhigh⟩
    · obtain ⟨⟨first, hfirst, hlow⟩, last, hlast, hhigh⟩ := ih h
      constructor
      · rcases List.mem_cons.mp hfirst with rfl | hfirst
        · exact ⟨previous, List.mem_cons_self, hlow⟩
        · exact ⟨first, List.mem_cons_of_mem _ (List.mem_cons_of_mem _ hfirst), hlow⟩
      · rcases List.mem_cons.mp hlast with rfl | hlast
        · rcases max_choice previous.2 next.2 with hmax | hmax
          · exact ⟨previous, List.mem_cons_self, by rw [← hhigh, hmax]⟩
          · exact ⟨next, List.mem_cons_of_mem _ List.mem_cons_self, by rw [← hhigh, hmax]⟩
        · exact ⟨last, List.mem_cons_of_mem _ (List.mem_cons_of_mem _ hlast), hhigh⟩

/-- No interval that comes out is empty, if none that went in is. -/
theorem nonempty_of_mem_coalesce (hnonempty : ∀ inner ∈ previous :: intervals, inner.1 < inner.2)
    (h : outer ∈ coalesce previous intervals) : outer.1 < outer.2 := by
  induction intervals generalizing previous with
  | nil => exact hnonempty outer h
  | cons next rest ih =>
    rw [List.forall_mem_cons] at hnonempty
    rw [coalesce] at h
    split_ifs at h with hgap
    · rcases List.mem_cons.mp h with rfl | h
      · exact hnonempty.1
      · exact ih hnonempty.2 h
    · refine ih (List.forall_mem_cons.mpr ⟨lt_max_of_lt_left hnonempty.1, ?_⟩) h
      exact fun inner hinner => hnonempty.2 inner (List.mem_cons_of_mem _ hinner)

/-- Sorted intervals stay sorted when the first two are put together. -/
theorem pairwise_merged
    (hsorted : (previous :: interval :: intervals).Pairwise fun a b => a.1 ≤ b.1) :
    ((previous.1, max previous.2 interval.2) :: intervals).Pairwise fun a b => a.1 ≤ b.1 := by
  rw [List.pairwise_cons, List.pairwise_cons] at hsorted
  rw [List.pairwise_cons]
  exact ⟨fun next hnext => hsorted.1 next (List.mem_cons_of_mem _ hnext), hsorted.2.2⟩

section

variable (hsorted : (previous :: intervals).Pairwise fun a b => a.1 ≤ b.1)

include hsorted

/-- **What went in lies in what comes out.** -/
theorem exists_mem_coalesce (h : inner ∈ previous :: intervals) :
    ∃ outer ∈ coalesce previous intervals, LiesIn inner outer := by
  induction intervals generalizing previous inner with
  | nil =>
    rw [List.mem_singleton] at h
    subst h
    exact ⟨inner, List.mem_cons_self, .refl _⟩
  | cons next rest ih =>
    rw [coalesce]
    split_ifs with hgap
    · rcases List.mem_cons.mp h with rfl | h
      · exact ⟨inner, List.mem_cons_self, .refl _⟩
      · obtain ⟨outer, houter, hlies⟩ := ih hsorted.of_cons h
        exact ⟨outer, List.mem_cons_of_mem _ houter, hlies⟩
    · have hmerged :=
        @liesIn_merged _ _ previous next (List.rel_of_pairwise_cons hsorted List.mem_cons_self)
      obtain ⟨outer, houter, hlies⟩ := ih (pairwise_merged hsorted) List.mem_cons_self
      rcases List.mem_cons.mp h with rfl | h
      · exact ⟨outer, houter, hmerged.1.trans hlies⟩
      · rcases List.mem_cons.mp h with rfl | h
        · exact ⟨outer, houter, hmerged.2.trans hlies⟩
        · exact ih (pairwise_merged hsorted) (List.mem_cons_of_mem _ h)

/-- **The points stay the same.** -/
theorem coalesce_covers {point : α} :
    (∃ outer ∈ coalesce previous intervals, SpanCovers outer point) ↔
    ∃ inner ∈ previous :: intervals, SpanCovers inner point := by
  constructor
  · rintro ⟨outer, houter, hcovers⟩
    induction intervals generalizing previous with
    | nil => exact ⟨outer, houter, hcovers⟩
    | cons next rest ih =>
      rw [coalesce] at houter
      split_ifs at houter with hgap
      · rcases List.mem_cons.mp houter with rfl | houter
        · exact ⟨outer, List.mem_cons_self, hcovers⟩
        · obtain ⟨inner, hinner, hpoint⟩ := ih hsorted.of_cons houter
          exact ⟨inner, List.mem_cons_of_mem _ hinner, hpoint⟩
      · obtain ⟨inner, hinner, hpoint⟩ := ih (pairwise_merged hsorted) houter
        rcases List.mem_cons.mp hinner with rfl | hinner
        · rcases covers_merged (le_of_not_gt hgap) hpoint with hpoint | hpoint
          · exact ⟨previous, List.mem_cons_self, hpoint⟩
          · exact ⟨next, List.mem_cons_of_mem _ List.mem_cons_self, hpoint⟩
        · exact ⟨inner, List.mem_cons_of_mem _ (List.mem_cons_of_mem _ hinner), hpoint⟩
  · rintro ⟨inner, hinner, hcovers⟩
    obtain ⟨outer, houter, hlies⟩ := exists_mem_coalesce hsorted hinner
    exact ⟨outer, houter, hlies.covers hcovers⟩

/-- **Intervals that come out do not touch.** -/
theorem coalesce_apart : (coalesce previous intervals).Pairwise fun a b => a.2 < b.1 := by
  induction intervals generalizing previous with
  | nil => exact List.pairwise_singleton _ _
  | cons next rest ih =>
    rw [coalesce]
    split_ifs with hgap
    · refine List.pairwise_cons.mpr ⟨?_, ih hsorted.of_cons⟩
      intro later hlater
      -- it begins where an interval begins, and none of those left begins before `next`
      obtain ⟨⟨source, hsource, hlow⟩, -⟩ := ends_of_mem_coalesce hlater
      rw [← hlow]
      rcases List.mem_cons.mp hsource with rfl | hsource
      · exact hgap
      · exact hgap.trans_le (List.rel_of_pairwise_cons hsorted.of_cons hsource)
    · exact ih (pairwise_merged hsorted)

end

/-- Of intervals that do not touch only one has an interval with a point inside. -/
theorem eq_of_liesIn {xs : List (α × α)} (hapart : xs.Pairwise fun a b => a.2 < b.1)
    (hpoint : inner.1 < inner.2) {outer' : α × α} (hmem : outer ∈ xs) (hmem' : outer' ∈ xs)
    (h : LiesIn inner outer) (h' : LiesIn inner outer') :
    outer = outer' := by
  by_contra hne
  have hsymm : Std.Symm fun a b : α × α => a.2 < b.1 ∨ b.2 < a.1 := ⟨fun _ _ h => h.symm⟩
  have heither : xs.Pairwise fun a b => a.2 < b.1 ∨ b.2 < a.1 := hapart.imp fun h => .inl h
  rcases heither.forall hmem hmem' hne with hlt | hlt
  · exact absurd (h'.1.trans (hpoint.le.trans h.2)) (not_le_of_gt hlt)
  · exact absurd (h.1.trans (hpoint.le.trans h'.2)) (not_le_of_gt hlt)

end Coalesce

end Astraea.Base
