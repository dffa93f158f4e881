import Mathlib.Data.List.GetD
import Mathlib.Data.List.Range
import Mathlib.Data.List.Pairwise
import Mathlib.Algebra.Order.Group.Nat
import Mathlib.Order.Basic

/-!
# Cutting a range into segments

Some of the positions below `n` are marked. Every marked position starts a segment, which
reaches to the next marked position, or to `n`. `segmentStarts` lists the starts and
`segmentTable` enters for every position the segment it lies in, one segment after another.
-/

namespace Astraea.Base

/-- The marked positions below `n`, in order. -/
def segmentStarts (n : ℕ) (marked : ℕ → Bool) : List ℕ := (List.range n).filter marked

/-- Where a segment ends: at the start of the next one, or at `n`. -/
def segmentLimit (n : ℕ) (starts : List ℕ) (index : ℕ) : ℕ := starts.getD (index + 1) n

/-- A table with `value` entered at some positions. -/
def enterAt (table : List ℕ) (positions : List ℕ) (value : ℕ) : List ℕ :=
  positions.foldl (fun table position => table.set position value) table

/-- The table after the first `count` segments were entered. -/
def enterSegments (n : ℕ) (starts : List ℕ) (count : ℕ) : List ℕ :=
  (List.range count).foldl
    (fun table index => enterAt table
      (List.range' (starts.getD index 0) (segmentLimit n starts index - starts.getD index 0)) index)
    (List.replicate n 0)

/-- The segment of every position below `n`. -/
def segmentTable (n : ℕ) (starts : List ℕ) : List ℕ := enterSegments n starts starts.length

section Starts

variable {n : ℕ} {marked : ℕ → Bool} {index start : ℕ}

theorem mem_segmentStarts {position : ℕ} :
    position ∈ segmentStarts n marked ↔ position < n ∧ marked position = true := by
  simp [segmentStarts]

theorem pairwise_segmentStarts (n : ℕ) (marked : ℕ → Bool) :
    (segmentStarts n marked).Pairwise (· < ·) :=
  List.pairwise_lt_range.filter _

theorem start_lt_start {index' start' : ℕ} (h : (segmentStarts n marked)[index]? = some start)
    (h' : (segmentStarts n marked)[index']? = some start') (hlt : index < index') :
    start < start' := by
  obtain ⟨hb, rfl⟩ := List.getElem?_eq_some_iff.mp h
  obtain ⟨hb', rfl⟩ := List.getElem?_eq_some_iff.mp h'
  exact List.pairwise_iff_getElem.mp (pairwise_segmentStarts n marked) index index' hb hb' hlt

theorem segmentLimit_cases (n : ℕ) (starts : List ℕ) (index : ℕ) :
    starts[index + 1]? = some (segmentLimit n starts index) ∨
      (starts[index + 1]? = none ∧ segmentLimit n starts index = n) := by
  unfold segmentLimit
  rw [List.getD_eq_getElem?_getD]
  cases h : starts[index + 1]? with
  | none => exact .inr ⟨rfl, rfl⟩
  | some next => exact .inl rfl

theorem start_lt_segmentLimit (h : (segmentStarts n marked)[index]? = some start) :
    start < segmentLimit n (segmentStarts n marked) index ∧
    segmentLimit n (segmentStarts n marked) index ≤ n := by
  rcases segmentLimit_cases n (segmentStarts n marked) index with hnext | ⟨-, hend⟩
  · exact ⟨start_lt_start h hnext (Nat.lt_succ_self _),
      (mem_segmentStarts.mp (List.mem_of_getElem? hnext)).1.le⟩
  · rw [hend]
    exact ⟨(mem_segmentStarts.mp (List.mem_of_getElem? h)).1, le_rfl⟩

/-- Where a segment ends before the range does, the next one starts. -/
theorem getElem?_succ_of_segmentLimit_lt {starts : List ℕ} (h : segmentLimit n starts index < n) :
    starts[index + 1]? = some (segmentLimit n starts index) := by
  rcases segmentLimit_cases n starts index with hnext | ⟨-, hend⟩
  · exact hnext
  · omega

/-- A later segment starts no earlier than an earlier one ends. -/
theorem segmentLimit_le_start {index' start' : ℕ}
    (h' : (segmentStarts n marked)[index']? = some start') (hlt : index < index') :
    segmentLimit n (segmentStarts n marked) index ≤ start' := by
  rcases segmentLimit_cases n (segmentStarts n marked) index with hnext | ⟨hnone, -⟩
  · rcases Nat.lt_or_ge (index + 1) index' with hlt' | hge
    · exact (start_lt_start hnext h' hlt').le
    · obtain rfl : index' = index + 1 := by omega
      rw [hnext] at h'
      exact (Option.some.inj h').le
  · rw [List.getElem?_eq_none_iff] at hnone
    have := (List.getElem?_eq_some_iff.mp h').1
    omega

/-- **Inside a segment no position is marked.** -/
theorem not_marked_inside (h : (segmentStarts n marked)[index]? = some start) {position : ℕ}
    (h1 : start < position) (h2 : position < segmentLimit n (segmentStarts n marked) index) :
    marked position = false := by
  by_contra hmarked
  rw [Bool.not_eq_false] at hmarked
  have hend := (start_lt_segmentLimit h).2
  obtain ⟨index', h'⟩ :=
    List.mem_iff_getElem?.mp (mem_segmentStarts.mpr ⟨lt_of_lt_of_le h2 hend, hmarked⟩)
  rcases Nat.lt_trichotomy index index' with hlt | rfl | hgt
  · exact absurd (segmentLimit_le_start h' hlt) (by omega)
  · rw [h] at h'
    cases h'
    omega
  · exact absurd (start_lt_start h' h hgt) (by omega)

end Starts

/-! ### The table -/

@[simp] theorem length_enterAt (table positions : List ℕ) (value : ℕ) :
    (enterAt table positions value).length = table.length := by
  induction positions generalizing table with
  | nil => rfl
  | cons position positions ih =>
    show (enterAt (table.set position value) positions value).length = _
    rw [ih, List.length_set]

theorem getElem?_enterAt {table positions : List ℕ} {value position : ℕ}
    (hposition : position < table.length) :
    (enterAt table positions value)[position]? = if position ∈ positions then some value
      else table[position]? := by
  induction positions generalizing table with
  | nil => simp [enterAt]
  | cons first positions ih =>
    show (enterAt (table.set first value) positions value)[position]? = _
    rw [ih (by rwa [List.length_set]), List.getElem?_set]
    by_cases hmem : position ∈ positions
    · simp [hmem]
    · by_cases hfirst : first = position
      · simp [hmem, hfirst, hposition]
      · simp [hmem, hfirst, Ne.symm hfirst]

theorem enterSegments_succ (n : ℕ) (starts : List ℕ) (count : ℕ) :
    enterSegments n starts (count + 1) = enterAt (enterSegments n starts count)
      (List.range' (starts.getD count 0) (segmentLimit n starts count - starts.getD count 0))
        count := by
  simp [enterSegments, List.range_succ]

@[simp] theorem length_enterSegments (n : ℕ) (starts : List ℕ) (count : ℕ) :
    (enterSegments n starts count).length = n := by
  induction count with
  | zero => simp [enterSegments]
  | succ count ih => rw [enterSegments_succ, length_enterAt, ih]

/-- **The table names the segment every position lies in.** -/
theorem getElem?_segmentTable {n : ℕ} {marked : ℕ → Bool} {index start position : ℕ}
    (h : (segmentStarts n marked)[index]? = some start) (h1 : start ≤ position)
    (h2 : position < segmentLimit n (segmentStarts n marked) index) :
    (segmentTable n (segmentStarts n marked))[position]? = some index := by
  have hn := (start_lt_segmentLimit h).2
  have hloop : ∀ count ≤ (segmentStarts n marked).length, index < count →
      (enterSegments n (segmentStarts n marked) count)[position]? = some index := by
    intro count hcount hindex
    induction count with
    | zero => omega
    | succ count ih =>
      have hcurrent : (segmentStarts n marked)[count]? =
          some ((segmentStarts n marked).getD count 0) := by
        rw [List.getD_eq_getElem _ _ (by omega)]
        exact List.getElem?_eq_getElem (by omega)
      rw [enterSegments_succ, getElem?_enterAt (by rw [length_enterSegments]; omega)]
      simp only [List.mem_range'_1]
      rcases Nat.lt_succ_iff_lt_or_eq.mp hindex with hlt | rfl
      · -- the segments entered later lie behind the position
        have := segmentLimit_le_start hcurrent hlt
        rw [if_neg (by omega), ih (by omega) hlt]
      · rw [hcurrent] at h
        cases h
        rw [if_pos (by omega)]
  exact hloop _ le_rfl (List.getElem?_eq_some_iff.mp h).1

end Astraea.Base
