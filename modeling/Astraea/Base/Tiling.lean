import Mathlib.Algebra.Order.Group.Nat
import Mathlib.Data.List.Pairwise

/-!
# Extents that tile an interval

An extent is a first position and a count. A list of extents tiles an interval when each begins
where the one before it ends, none is empty, and the last ends where the interval does. The
firsts of a tiling increase, every position of the interval lies in one of its extents, and two
tilings of adjacent intervals make one of both.
-/

namespace Astraea.Base

/-- The extents follow one another from `start` to `stop`. -/
def Tiles : (start stop : ℕ) → List (ℕ × ℕ) → Prop
  | start, stop, [] => start = stop
  | start, stop, extent :: extents =>
    extent.1 = start ∧ 0 < extent.2 ∧ Tiles (start + extent.2) stop extents

section Tiling

variable {start middle stop position : ℕ} {extents extents' : List (ℕ × ℕ)}
  {extent extent' : ℕ × ℕ}

theorem tiles_nil : Tiles start stop [] ↔ start = stop := Iff.rfl

theorem tiles_cons :
    Tiles start stop (extent :: extents) ↔ extent.1 = start ∧ 0 < extent.2 ∧
    Tiles (start + extent.2) stop extents :=
  Iff.rfl

theorem Tiles.le (h : Tiles start stop extents) : start ≤ stop := by
  induction extents generalizing start with
  | nil => exact h.le
  | cons extent extents ih =>
    have := ih h.2.2
    omega

theorem Tiles.append (h : Tiles start middle extents) (h' : Tiles middle stop extents') :
    Tiles start stop (extents ++ extents') := by
  induction extents generalizing start with
  | nil =>
    rw [tiles_nil] at h
    rwa [h]
  | cons extent extents ih =>
    obtain ⟨hfirst, hpos, hrest⟩ := h
    exact ⟨hfirst, hpos, ih hrest⟩

section

variable (h : Tiles start stop extents)

include h

theorem Tiles.bounds (hmem : extent ∈ extents) :
    start ≤ extent.1 ∧ 0 < extent.2 ∧ extent.1 + extent.2 ≤ stop := by
  induction extents generalizing start with
  | nil => exact absurd hmem List.not_mem_nil
  | cons first extents ih =>
    obtain ⟨hfirst, hpos, hrest⟩ := h
    have hle := hrest.le
    rcases List.mem_cons.mp hmem with rfl | hmem
    · exact ⟨hfirst.ge, hpos, by omega⟩
    · obtain ⟨h1, h2, h3⟩ := ih hrest hmem
      exact ⟨by omega, h2, h3⟩

theorem Tiles.pairwise : extents.Pairwise fun lower upper => lower.1 + lower.2 ≤ upper.1 := by
  induction extents generalizing start with
  | nil => exact List.Pairwise.nil
  | cons first extents ih =>
    obtain ⟨hfirst, -, hrest⟩ := h
    refine List.Pairwise.cons ?_ (ih hrest)
    intro later hlater
    have := (hrest.bounds hlater).1
    omega

theorem Tiles.first_lt_first {i j : ℕ} (hi : extents[i]? = some extent)
    (hj : extents[j]? = some extent') (hlt : i < j) :
    extent.1 < extent'.1 := by
  obtain ⟨hib, rfl⟩ := List.getElem?_eq_some_iff.mp hi
  obtain ⟨hjb, rfl⟩ := List.getElem?_eq_some_iff.mp hj
  have hle := List.pairwise_iff_getElem.mp h.pairwise i j hib hjb hlt
  have hpos := (h.bounds (List.getElem_mem hib)).2.1
  omega

theorem Tiles.first_not_inside (hmem : extent ∈ extents) (hmem' : extent' ∈ extents)
    (hinside : extent.1 < extent'.1) :
    extent.1 + extent.2 ≤ extent'.1 := by
  obtain ⟨i, hi⟩ := List.mem_iff_getElem?.mp hmem
  obtain ⟨j, hj⟩ := List.mem_iff_getElem?.mp hmem'
  rcases Nat.lt_trichotomy i j with hlt | rfl | hgt
  · obtain ⟨hib, rfl⟩ := List.getElem?_eq_some_iff.mp hi
    obtain ⟨hjb, rfl⟩ := List.getElem?_eq_some_iff.mp hj
    exact List.pairwise_iff_getElem.mp h.pairwise i j hib hjb hlt
  · rw [hi] at hj
    cases hj
    omega
  · have := h.first_lt_first hj hi hgt
    omega

theorem Tiles.exists_extent (hlow : start ≤ position) (hhigh : position < stop) :
    ∃ extent ∈ extents, extent.1 ≤ position ∧ position < extent.1 + extent.2 := by
  induction extents generalizing start with
  | nil =>
    rw [tiles_nil] at h
    omega
  | cons first extents ih =>
    obtain ⟨hfirst, -, hrest⟩ := h
    by_cases hhere : position < start + first.2
    · exact ⟨first, List.mem_cons_self, by omega, by omega⟩
    · obtain ⟨extent, hmem, hin⟩ := ih hrest (by omega)
      exact ⟨extent, List.mem_cons_of_mem _ hmem, hin⟩

end

theorem tiles_of_getElem? (hpos : ∀ extent ∈ extents, 0 < extent.2)
    (hfirst : ∀ extent, extents[0]? = some extent → extent.1 = start)
    (hnil : extents = [] → start = stop)
    (hnext : ∀ i extent extent', extents[i]? = some extent → extents[i + 1]? = some extent' →
      extent.1 + extent.2 = extent'.1)
    (hlast : ∀ i extent, extents[i]? = some extent → extents[i + 1]? = none →
      extent.1 + extent.2 = stop) :
    Tiles start stop extents := by
  induction extents generalizing start with
  | nil => exact hnil rfl
  | cons first extents ih =>
    rw [List.forall_mem_cons] at hpos
    have hstart : first.1 = start := hfirst first rfl
    refine ⟨hstart, hpos.1, ih hpos.2 ?_ ?_ ?_ ?_⟩
    · intro extent hextent
      have := hnext 0 first extent rfl hextent
      omega
    · intro hempty
      have := hlast 0 first rfl (by rw [hempty]; rfl)
      omega
    · intro i extent extent' hi hi'
      exact hnext (i + 1) extent extent' hi hi'
    · intro i extent hi hi'
      exact hlast (i + 1) extent hi hi'

/-- An extent that ends before the interval does is followed by one. -/
theorem Tiles.next (h : Tiles start stop extents) {i : ℕ} (hi : extents[i]? = some extent)
    (hlt : extent.1 + extent.2 < stop) :
    ∃ extent', extents[i + 1]? = some extent' ∧ extent'.1 = extent.1 + extent.2 := by
  induction extents generalizing start i with
  | nil => cases hi
  | cons first extents ih =>
    obtain ⟨hfirst, -, hrest⟩ := h
    cases i with
    | zero =>
      cases hi
      cases extents with
      | nil =>
        rw [tiles_nil] at hrest
        omega
      | cons second extents => exact ⟨second, rfl, by rw [hrest.1, hfirst]⟩
    | succ i => exact ih hrest hi

end Tiling

end Astraea.Base
