import Mathlib.Data.List.GetD
import Mathlib.Data.List.Range
import Mathlib.Algebra.Order.Group.Nat

/-!
# Register files

A file of registers is written in ranges of consecutive registers, one range after
another. Every register keeps the value of the last range that reaches it, and a register
that no range reaches stays as it was. `lastHit` finds the last entry of a list that answers
a question, and `replay_read` says that a register reads what the last range answered.
-/

namespace Astraea.Base

/-! ### The last answer -/

section LastHit

variable {α β γ : Type}

/-- The last answer that `f` gives along a list. -/
def lastHit (f : α → Option β) (xs : List α) : Option β :=
  xs.foldl (fun last x => (f x).or last) none

variable {f : α → Option β} {xs : List α}

section

variable (f : α → Option β)

theorem foldl_or (xs : List α) (first : Option β) :
    xs.foldl (fun last x => (f x).or last) first = (lastHit f xs).or first := by
  unfold lastHit
  induction xs generalizing first with
  | nil => rfl
  | cons x xs ih =>
    rw [List.foldl_cons, List.foldl_cons, ih, ih ((f x).or none), Option.or_none, Option.or_assoc]

@[simp] theorem lastHit_nil : lastHit f [] = none := rfl

theorem lastHit_cons (x : α) (xs : List α) : lastHit f (x :: xs) = (lastHit f xs).or (f x) := by
  rw [lastHit, List.foldl_cons, foldl_or, Option.or_none]

theorem lastHit_append (xs ys : List α) :
    lastHit f (xs ++ ys) = (lastHit f ys).or (lastHit f xs) := by
  rw [lastHit, List.foldl_append, foldl_or]
  rfl

@[simp] theorem lastHit_concat (xs : List α) (x : α) :
    lastHit f (xs ++ [x]) = (f x).or (lastHit f xs) := by
  rw [lastHit_append, lastHit_cons, lastHit_nil, Option.none_or]

end

theorem lastHit_eq_none : lastHit f xs = none ↔ ∀ x ∈ xs, f x = none := by
  induction xs with
  | nil => simp
  | cons x xs ih =>
    rw [lastHit_cons, Option.or_eq_none_iff, ih, List.forall_mem_cons, and_comm]

/-- **The last answer** is given by an element, and by no later one. -/
theorem lastHit_eq_some {b : β} :
    lastHit f xs = some b ↔
      ∃ before x after, xs = before ++ x :: after ∧ f x = some b ∧ ∀ y ∈ after, f y = none := by
  induction xs with
  | nil => simp
  | cons x xs ih =>
    rw [lastHit_cons]
    constructor
    · intro h
      rcases Option.or_eq_some_iff.mp h with hlast | ⟨hnone, hx⟩
      · obtain ⟨before, y, after, rfl, hy, hafter⟩ := ih.mp hlast
        exact ⟨x :: before, y, after, rfl, hy, hafter⟩
      · exact ⟨[], x, xs, rfl, hx, lastHit_eq_none.mp hnone⟩
    · rintro ⟨before, y, after, heq, hy, hafter⟩
      rw [Option.or_eq_some_iff]
      cases before with
      | nil =>
        cases heq
        exact .inr ⟨lastHit_eq_none.mpr hafter, hy⟩
      | cons z before =>
        cases heq
        exact .inl (ih.mpr ⟨before, y, after, rfl, hy, hafter⟩)

/-- Two questions that the same elements answer have a last answer together. -/
theorem isSome_lastHit_congr {g : α → Option γ} (h : ∀ x ∈ xs, (f x).isSome = (g x).isSome) :
    (lastHit f xs).isSome = (lastHit g xs).isSome := by
  induction xs with
  | nil => rfl
  | cons x xs ih =>
    rw [List.forall_mem_cons] at h
    rw [lastHit_cons, lastHit_cons, Option.isSome_or, Option.isSome_or, ih h.2, h.1]

/-- A question that is asked only of the elements another question keeps. -/
theorem lastHit_filterMap (g : γ → Option α) (ys : List γ) :
    lastHit f (ys.filterMap g) = lastHit (fun y => (g y).bind f) ys := by
  induction ys with
  | nil => rfl
  | cons y ys ih =>
    rw [lastHit_cons, ← ih, List.filterMap_cons]
    cases g y with
    | none => simp
    | some x => simp only [Option.bind_some, lastHit_cons]

/-- A question that is asked of what another function makes of the elements. -/
theorem lastHit_map (g : γ → α) (ys : List γ) :
    lastHit f (ys.map g) = lastHit (fun y => f (g y)) ys := by
  rw [← List.filterMap_eq_map, lastHit_filterMap]
  rfl

theorem lastHit_zipIdx_concat (g : α × ℕ → Option β) (xs : List α) (x : α) :
    lastHit g (xs ++ [x]).zipIdx = (g (x, xs.length)).or (lastHit g xs.zipIdx) := by
  rw [List.zipIdx_append, List.zipIdx_singleton, lastHit_concat, Nat.zero_add]

/-- The last answer along a list with indices: an index answers, and no later one does. -/
theorem lastHit_zipIdx_eq_some {g : α × ℕ → Option β} {b : β} :
    lastHit g xs.zipIdx = some b ↔
      ∃ (index : ℕ) (x : α), xs[index]? = some x ∧ g (x, index) = some b ∧
        ∀ (later : ℕ) (y : α), index < later → xs[later]? = some y → g (y, later) = none := by
  rw [lastHit_eq_some]
  constructor
  · rintro ⟨before, ⟨x, index⟩, after, hsplit, hx, hafter⟩
    have hat : xs.zipIdx[before.length]? =
      some (x, index) := by rw [hsplit, List.getElem?_append_right le_rfl]; simp
    rw [List.getElem?_zipIdx, Option.map_eq_some_iff] at hat
    obtain ⟨y, hy, hyx⟩ := hat
    simp only [Prod.mk.injEq, Nat.zero_add] at hyx
    obtain ⟨rfl, rfl⟩ := hyx
    refine ⟨before.length, y, hy, hx, fun later z hlater hz => hafter _ ?_⟩
    have hlast : xs.zipIdx[later]? = some (z, later) := by rw [List.getElem?_zipIdx, hz]; simp
    rw [hsplit, List.getElem?_append_right hlater.le, List.getElem?_cons, if_neg (by omega)]
      at hlast
    exact List.mem_of_getElem? hlast
  · rintro ⟨index, x, hx, hhit, hlater⟩
    have hat : xs.zipIdx[index]? = some (x, index) := by rw [List.getElem?_zipIdx, hx]; simp
    obtain ⟨hlt, hget⟩ := List.getElem?_eq_some_iff.mp hat
    refine ⟨xs.zipIdx.take index, (x, index), xs.zipIdx.drop (index + 1), ?_, hhit, ?_⟩
    · rw [← hget, List.getElem_cons_drop, List.take_append_drop]
    · rintro ⟨y, later⟩ hy
      obtain ⟨k, hk⟩ := List.mem_iff_getElem?.mp hy
      rw [List.getElem?_drop, List.getElem?_zipIdx, Option.map_eq_some_iff] at hk
      obtain ⟨z, hz, hzy⟩ := hk
      simp only [Prod.mk.injEq, Nat.zero_add] at hzy
      obtain ⟨rfl, rfl⟩ := hzy
      exact hlater _ z (by omega) hz

end LastHit

/-! ### Registers -/

/-- Registers with a value each, and a mark at those that were written. -/
structure RegisterFile (α : Type) (n : ℕ) where
  values : Vector α n
  initialized : Vector Bool n
  deriving DecidableEq

/-- Values for consecutive registers. -/
structure RegisterRange (α : Type) where
  start : ℕ
  values : List α
  deriving DecidableEq

/-- The value a range has for a register. -/
def RegisterRange.valueAt {α : Type} (range : RegisterRange α) (register : ℕ) : Option α :=
  if range.start ≤ register then range.values[register - range.start]? else none

/-- The registers of a range. -/
def RegisterRange.Covers {α : Type} (range : RegisterRange α) (register : ℕ) : Prop :=
  range.start ≤ register ∧ register < range.start + range.values.length

variable {register : ℕ}

instance {α : Type} (range : RegisterRange α) (register : ℕ) : Decidable (range.Covers register) :=
  inferInstanceAs (Decidable (_ ∧ _))

namespace RegisterFile

variable {α : Type} {n : ℕ}

/-- A file nobody has written. -/
def clear (n : ℕ) (zero : α) : RegisterFile α n :=
  ⟨Vector.replicate n zero, Vector.replicate n false⟩

/-- Write one register. -/
def set (file : RegisterFile α n) (register : ℕ) (value : α) : RegisterFile α n where
  values := file.values.setIfInBounds register value
  initialized := file.initialized.setIfInBounds register true

/-- Write consecutive registers, one after another. -/
def write (file : RegisterFile α n) : (start : ℕ) → List α → RegisterFile α n
  | _, [] => file
  | start, value :: values => (file.set start value).write (start + 1) values

/-- Write ranges, one after another. -/
def replay (file : RegisterFile α n) (ranges : List (RegisterRange α)) : RegisterFile α n :=
  ranges.foldl (fun file range => file.write range.start range.values) file

/-- The value of a register that was written. -/
def read (file : RegisterFile α n) (register : ℕ) : Option α :=
  if file.initialized[register]? = some true then file.values[register]? else none

theorem read_eq_some {file : RegisterFile α n} {value : α} :
    file.read register = some value ↔ file.initialized[register]? = some true ∧
    file.values[register]? = some value := by
  unfold read
  split_ifs with h <;> simp [h]

theorem isSome_read {file : RegisterFile α n} (h : register < n) :
    (file.read register).isSome = file.initialized[register] := by
  unfold read
  rw [Vector.getElem?_eq_getElem h, Vector.getElem?_eq_getElem h]
  cases file.initialized[register] <;> simp

@[simp] theorem read_clear (zero : α) (register : ℕ) : (clear n zero).read register = none := by
  unfold read clear
  rw [if_neg]
  intro h
  simp [Vector.getElem?_replicate] at h

theorem read_set (file : RegisterFile α n) (h : register < n) (written : ℕ) (value : α) :
    (file.set written value).read register = if written = register then some value
      else file.read register := by
  unfold read set
  by_cases heq : written = register
  · subst heq
    simp [h]
  · simp [heq]

theorem read_write (file : RegisterFile α n) (h : register < n) (start : ℕ) (values : List α) :
    (file.write start values).read register =
      ((⟨start, values⟩ : RegisterRange α).valueAt register).or (file.read register) := by
  induction values generalizing file start with
  | nil => simp [write, RegisterRange.valueAt]
  | cons value values ih =>
    rw [write, ih, read_set _ h]
    simp only [RegisterRange.valueAt]
    rcases Nat.lt_trichotomy start register with hlt | rfl | hgt
    · have hindex : register - start = register - (start + 1) + 1 := by omega
      simp only [hindex, List.getElem?_cons_succ, if_pos (show start + 1 ≤ register by omega),
        if_pos hlt.le, if_neg (show ¬ start = register by omega)]
    · simp
    · simp only [if_neg (show ¬ start + 1 ≤ register by omega),
        if_neg (show ¬ start ≤ register by omega), if_neg (show ¬ start = register by omega)]

/-- **Later ranges override earlier ones.** -/
theorem read_replay (file : RegisterFile α n) (h : register < n) (ranges : List (RegisterRange α)) :
    (file.replay ranges).read register =
      (lastHit (·.valueAt register) ranges).or (file.read register) := by
  induction ranges generalizing file with
  | nil => rfl
  | cons range ranges ih =>
    show ((file.write range.start range.values).replay ranges).read register = _
    rw [ih, read_write _ h, lastHit_cons, Option.or_assoc]

theorem replay_append (file : RegisterFile α n) (ranges ranges' : List (RegisterRange α)) :
    file.replay (ranges ++ ranges') = (file.replay ranges).replay ranges' := List.foldl_append

end RegisterFile

theorem RegisterRange.isSome_valueAt_iff {α : Type} {range : RegisterRange α} :
    (range.valueAt register).isSome = true ↔ range.Covers register := by
  unfold RegisterRange.valueAt RegisterRange.Covers
  split_ifs with h
  · rw [isSome_getElem?]
    omega
  · simp [h]

theorem RegisterRange.valueAt_eq_none {α : Type} {range : RegisterRange α} :
    range.valueAt register = none ↔ ¬ range.Covers register := by
  rw [← RegisterRange.isSome_valueAt_iff, Option.not_isSome_iff_eq_none]

end Astraea.Base
