import Mathlib.Data.List.Pairwise
import Mathlib.Algebra.Order.Group.Nat
import Mathlib.Tactic.Common

/-!
# Sweeping over cut points

A line of positions up to `top` is cut at the positions of a strictly increasing list:
every cut begins a segment that ends right before the next cut, the last one at `top`.
When both ends of a span are cuts, the span covers a segment wholly or not at all, so
it is enough to ask about the segment's first position. `uniqueAdjacent` is
`std::unique`; after a sort it leaves a strictly increasing list.
-/

namespace Astraea.Base

/-! ### Unique elements of a sorted list -/

section Unique

variable {α : Type*} [DecidableEq α]

/-- A list with runs of equal neighbours reduced to one element. -/
def uniqueAdjacent : List α → List α
  | [] => []
  | [a] => [a]
  | a :: b :: l => if a = b then uniqueAdjacent (b :: l) else a :: uniqueAdjacent (b :: l)

@[simp] theorem mem_uniqueAdjacent {a : α} {l : List α} : a ∈ uniqueAdjacent l ↔ a ∈ l := by
  induction l using uniqueAdjacent.induct with
  | case1 => rfl
  | case2 => rfl
  | case3 b l ih =>
    rw [uniqueAdjacent, if_pos rfl, ih]
    simp
  | case4 b c l hne ih =>
    rw [uniqueAdjacent, if_neg hne, List.mem_cons, ih, ← List.mem_cons]

/-- What a sort leaves not decreasing is strictly increasing without its repetitions. -/
theorem pairwise_uniqueAdjacent {lt : α → α → Prop} (htrans : ∀ {a b c}, lt a b → lt b c → lt a c)
    (htri : ∀ {a b}, ¬ lt b a → a ≠ b → lt a b) {l : List α} (h : l.Pairwise fun a b => ¬ lt b a) :
    (uniqueAdjacent l).Pairwise lt := by
  induction l using uniqueAdjacent.induct with
  | case1 => exact .nil
  | case2 a => exact List.pairwise_singleton _ _
  | case3 b l ih =>
    rw [uniqueAdjacent, if_pos rfl]
    exact ih h.of_cons
  | case4 a b l hne ih =>
    rw [uniqueAdjacent, if_neg hne, List.pairwise_cons]
    refine ⟨fun c hc => ?_, ih h.of_cons⟩
    have hab : lt a b := htri ((List.pairwise_cons.mp h).1 b List.mem_cons_self) hne
    rcases List.mem_cons.mp (mem_uniqueAdjacent.mp hc) with rfl | hc
    · exact hab
    · by_cases hbc : b = c
      · exact hbc ▸ hab
      · exact htrans hab (htri ((List.pairwise_cons.mp h.of_cons).1 c hc) hbc)

end Unique

/-! ### Segments -/

/-- Where the segment that begins before `rest` ends. -/
def segmentEnd (top : ℕ) : (rest : List ℕ) → ℕ
  | [] => top
  | next :: _ => next - 1

/-- The segments of a list of cuts, as first and last positions. -/
def segments (top : ℕ) : List ℕ → List (ℕ × ℕ)
  | [] => []
  | first :: rest => (first, segmentEnd top rest) :: segments top rest

variable {top : ℕ} {cuts : List ℕ}

/-- A segment begins at a cut, is not empty, and has no other cut in it. -/
theorem mem_segments (hs : cuts.Pairwise (· < ·)) (htop : ∀ c ∈ cuts, c ≤ top) {first last : ℕ}
    (h : (first, last) ∈ segments top cuts) :
    first ∈ cuts ∧ first ≤ last ∧ last ≤ top ∧ ∀ c ∈ cuts, ¬ (first < c ∧ c ≤ last) := by
  induction cuts with
  | nil => cases h
  | cons a rest ih =>
    rw [List.pairwise_cons] at hs
    have htop' : ∀ c ∈ rest, c ≤ top := fun c hc => htop c (List.mem_cons_of_mem _ hc)
    rcases List.mem_cons.mp h with heq | h
    · obtain ⟨rfl, rfl⟩ := Prod.mk.inj heq
      refine ⟨List.mem_cons_self, ?_⟩
      cases rest with
      | nil =>
        refine ⟨htop _ List.mem_cons_self, le_rfl, fun c hc => ?_⟩
        rw [List.mem_singleton.mp hc]
        omega
      | cons b rest =>
        have hab := hs.1 b List.mem_cons_self
        have hb := htop' b List.mem_cons_self
        simp only [segmentEnd]
        refine ⟨by omega, by omega, fun c hc => ?_⟩
        rcases List.mem_cons.mp hc with rfl | hc
        · omega
        · rcases List.mem_cons.mp hc with rfl | hc
          · omega
          · have := (List.pairwise_cons.mp hs.2).1 c hc
            omega
    · obtain ⟨hmem, hle, hlast, hnone⟩ := ih hs.2 htop' h
      refine ⟨List.mem_cons_of_mem _ hmem, hle, hlast, fun c hc => ?_⟩
      rcases List.mem_cons.mp hc with rfl | hc
      · have := hs.1 first hmem
        omega
      · exact hnone c hc

theorem exists_segment (hs : cuts.Pairwise (· < ·)) {c x : ℕ} (hc : c ∈ cuts) (hcx : c ≤ x)
    (hx : x ≤ top) :
    ∃ first last, (first, last) ∈ segments top cuts ∧ first ≤ x ∧ x ≤ last := by
  induction cuts generalizing c with
  | nil => cases hc
  | cons a rest ih =>
    rw [List.pairwise_cons] at hs
    have hax : a ≤ x := by
      rcases List.mem_cons.mp hc with rfl | hc
      · exact hcx
      · exact le_trans (le_of_lt (hs.1 c hc)) hcx
    cases rest with
    | nil => exact ⟨a, top, List.mem_cons_self, hax, hx⟩
    | cons b rest =>
      by_cases hb : x < b
      · exact ⟨a, b - 1, List.mem_cons_self, hax, by omega⟩
      · obtain ⟨first, last, hmem, h1, h2⟩ := ih hs.2 List.mem_cons_self (Nat.le_of_not_lt hb)
        exact ⟨first, last, List.mem_cons_of_mem _ hmem, h1, h2⟩

theorem pairwise_segments (hs : cuts.Pairwise (· < ·)) (htop : ∀ c ∈ cuts, c ≤ top) :
    (segments top cuts).Pairwise fun p q => p.2 < q.1 := by
  induction cuts with
  | nil => exact .nil
  | cons a rest ih =>
    have htop' : ∀ c ∈ rest, c ≤ top := fun c hc => htop c (List.mem_cons_of_mem _ hc)
    rw [segments, List.pairwise_cons]
    refine ⟨fun ⟨first, last⟩ hmem => ?_, ih hs.of_cons htop'⟩
    have hfirst := (mem_segments hs.of_cons htop' hmem).1
    cases rest with
    | nil => cases hfirst
    | cons b rest =>
      have hab := (List.pairwise_cons.mp hs).1 b List.mem_cons_self
      simp only [segmentEnd]
      rcases List.mem_cons.mp hfirst with rfl | hfirst
      · omega
      · have := (List.pairwise_cons.mp hs.of_cons).1 first hfirst
        omega

/-- **A span whose ends are cuts covers a segment wholly or not at all.** -/
theorem covers_iff_of_segment {lo hi first last x : ℕ} (hlo : lo ∈ cuts)
    (hhi : hi < top → hi + 1 ∈ cuts) (hnone : ∀ c ∈ cuts, ¬ (first < c ∧ c ≤ last))
    (hlast : last ≤ top) (h1 : first ≤ x) (h2 : x ≤ last) :
    lo ≤ x ∧ x ≤ hi ↔ lo ≤ first ∧ first ≤ hi := by
  have hl := hnone lo hlo
  by_cases htop : hi < top
  · have hh := hnone (hi + 1) (hhi htop)
    omega
  · omega

end Astraea.Base
