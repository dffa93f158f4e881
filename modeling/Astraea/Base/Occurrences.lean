import Mathlib.Data.List.ReduceOption
import Mathlib.Algebra.Order.Group.Nat

/-!
# Where a record occurs

A run leaves a record of each of its steps, or none. What was recorded is kept in a list, and the
steps are forgotten: `records.reduceOption`. The lemmas here lead back from what is found in such a
list to the steps: nothing is found where no step recorded it, one thing where one step did.
-/

namespace Astraea.Base

variable {α : Type} {records : List (Option α)} {p : α → Bool} {a : α} {k : ℕ}

/-- The step at a position recorded `a`, which is what is looked for. -/
def OccursAt (records : List (Option α)) (p : α → Bool) (k : ℕ) (a : α) : Prop :=
  records[k]? = some (some a) ∧ p a = true

variable {record : Option α}

theorem occursAt_zero : OccursAt (record :: records) p 0 a ↔ record = some a ∧ p a = true := by
  rw [OccursAt, List.getElem?_cons_zero, Option.some.injEq]

theorem occursAt_succ : OccursAt (record :: records) p (k + 1) a ↔ OccursAt records p k a := by
  rw [OccursAt, List.getElem?_cons_succ, OccursAt]

theorem filter_reduceOption_cons_some (h : p a = true) :
    (some a :: records).reduceOption.filter p = a :: records.reduceOption.filter p := by
  rw [List.reduceOption_cons_of_some, List.filter_cons_of_pos h]

/-- A record that is not looked for makes no difference. -/
theorem filter_reduceOption_cons_of_not (h : ∀ a, record = some a → p a = false) :
    (record :: records).reduceOption.filter p = records.reduceOption.filter p := by
  cases record with
  | none => rw [List.reduceOption_cons_of_none]
  | some a => rw [List.reduceOption_cons_of_some, List.filter_cons_of_neg (by simp [h a rfl])]

/-- **Nothing is found exactly where it occurs nowhere.** -/
theorem filter_reduceOption_eq_nil_iff :
    records.reduceOption.filter p = [] ↔ ∀ k a, ¬ OccursAt records p k a := by
  rw [List.filter_eq_nil_iff]
  constructor
  · rintro h k a ⟨hget, hp⟩
    exact h a (List.reduceOption_mem_iff.mpr (List.mem_of_getElem? hget)) hp
  · intro h a ha hp
    obtain ⟨k, hk⟩ := List.mem_iff_getElem?.mp (List.reduceOption_mem_iff.mp ha)
    exact h k a ⟨hk, hp⟩

/-- **One thing is found exactly where it occurs once.** -/
theorem filter_reduceOption_eq_singleton_iff :
    records.reduceOption.filter p = [a] ↔ ∃ k, OccursAt records p k a ∧
    ∀ k' b, OccursAt records p k' b → k' = k := by
  induction records with
  | nil => simp [OccursAt]
  | cons record records ih =>
    by_cases hhead : ∃ b, record = some b ∧ p b = true
    · obtain ⟨b, rfl, hb⟩ := hhead
      rw [filter_reduceOption_cons_some hb, List.cons.injEq, filter_reduceOption_eq_nil_iff]
      constructor
      · rintro ⟨rfl, hnone⟩
        refine ⟨0, occursAt_zero.mpr ⟨rfl, hb⟩, ?_⟩
        intro k' c hc
        cases k' with
        | zero => rfl
        | succ k' => exact absurd (occursAt_succ.mp hc) (hnone k' c)
      · rintro ⟨k, hk, honly⟩
        -- the head is found at 0, so it is the only one
        obtain rfl := honly 0 b (occursAt_zero.mpr ⟨rfl, hb⟩)
        have hab := (occursAt_zero.mp hk).1
        refine ⟨Option.some.inj hab, fun k' c hc => ?_⟩
        exact absurd (honly (k' + 1) c (occursAt_succ.mpr hc)) (Nat.succ_ne_zero k')
    · have hskip : ∀ b, record = some b → p b = false := fun b hb =>
        Bool.eq_false_iff.mpr fun hp => hhead ⟨b, hb, hp⟩
      rw [filter_reduceOption_cons_of_not hskip, ih]
      constructor
      · rintro ⟨k, hk, honly⟩
        refine ⟨k + 1, occursAt_succ.mpr hk, ?_⟩
        intro k' c hc
        cases k' with
        | zero => exact absurd ⟨c, occursAt_zero.mp hc⟩ hhead
        | succ k' => rw [honly k' c (occursAt_succ.mp hc)]
      · rintro ⟨k, hk, honly⟩
        cases k with
        | zero => exact absurd ⟨a, occursAt_zero.mp hk⟩ hhead
        | succ k =>
          refine ⟨k, occursAt_succ.mp hk, fun k' c hc => ?_⟩
          exact Nat.succ.inj (honly (k' + 1) c (occursAt_succ.mpr hc))

/-- As many things are found as there are records of them. -/
theorem length_filter_reduceOption (records : List (Option α)) (p : α → Bool) :
    (records.reduceOption.filter p).length = records.countP fun record => record.any p := by
  induction records with
  | nil => rfl
  | cons record records ih =>
    cases record with
    | none => rw [List.reduceOption_cons_of_none, ih, List.countP_cons_of_neg (by simp)]
    | some a =>
      rw [List.reduceOption_cons_of_some, List.filter_cons, List.countP_cons, ← ih]
      cases hp : p a <;> simp [hp]

/-- More than one thing is found exactly where it occurs at two positions. -/
theorem two_le_length_filter_reduceOption_iff :
    2 ≤ (records.reduceOption.filter p).length ↔
      ∃ k k' a b, k ≠ k' ∧ OccursAt records p k a ∧ OccursAt records p k' b := by
  constructor
  · intro hlength
    have hnonempty : ∃ k a, OccursAt records p k a := by
      by_contra hnone
      rw [filter_reduceOption_eq_nil_iff.mpr fun k a h => hnone ⟨k, a, h⟩] at hlength
      simp at hlength
    obtain ⟨k, a, hk⟩ := hnonempty
    by_contra hsame
    have hone : records.reduceOption.filter p = [a] :=
      filter_reduceOption_eq_singleton_iff.mpr ⟨k, hk, fun k' b hb => by
        by_contra hne
        exact hsame ⟨k, k', a, b, Ne.symm hne, hk, hb⟩⟩
    rw [hone] at hlength
    simp at hlength
  · rintro ⟨k, k', a, b, hne, hk, hk'⟩
    by_contra hlt
    rcases hfound : records.reduceOption.filter p with _ | ⟨c, _ | ⟨d, rest⟩⟩
    · exact filter_reduceOption_eq_nil_iff.mp hfound k a hk
    · obtain ⟨only, -, honly⟩ := filter_reduceOption_eq_singleton_iff.mp hfound
      exact hne ((honly k a hk).trans (honly k' b hk').symm)
    · rw [hfound] at hlt
      simp at hlt

end Astraea.Base
