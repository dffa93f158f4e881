import Mathlib.Data.List.Pairwise
import Astraea.Base.Path

/-!
# Maps of disjoint intervals

Entries own an interval of addresses each, no two of them share an address, and none is
empty. `locate` goes through the entries for a request: it stops at one that contains the
request, and otherwise remembers the last one that meets it. The outcome tells how the
request lies among the entries, whatever their order.
-/

namespace Astraea.Base

/-- The addresses from `start` on, `size` of them. -/
structure Interval where
  start : ℕ
  size : ℕ
  deriving DecidableEq

namespace Interval

/-- Every address of the request is in the interval. -/
def Contains (i request : Interval) : Prop :=
  i.start ≤ request.start ∧ request.start + request.size ≤ i.start + i.size

/-- The intervals share an address, if neither is empty. -/
def Meets (i j : Interval) : Prop := i.start < j.start + j.size ∧ j.start < i.start + i.size

instance (i request : Interval) : Decidable (i.Contains request) :=
  inferInstanceAs (Decidable (_ ∧ _))

instance (i j : Interval) : Decidable (i.Meets j) := inferInstanceAs (Decidable (_ ∧ _))

theorem Meets.symm {i j : Interval} (h : i.Meets j) : j.Meets i := ⟨h.2, h.1⟩

theorem Contains.meets {i request : Interval} (h : i.Contains request) (hpos : 0 < request.size) :
    request.Meets i := by
  unfold Contains at h
  unfold Meets
  omega

/-- Intervals that share no address do not both contain a request. -/
theorem Contains.meets_of_contains {i j request : Interval} (hi : i.Contains request)
    (hj : j.Contains request) (hpos : 0 < request.size) : i.Meets j := by
  unfold Contains at hi hj
  unfold Meets
  omega

end Interval

variable {α : Type} {interval : α → Interval}

/-- None of the entries is empty, and no two share an address. -/
structure Apart (interval : α → Interval) (entries : List α) : Prop where
  nonempty : ∀ a ∈ entries, 0 < (interval a).size
  disjoint : entries.Pairwise fun a b => ¬ (interval a).Meets (interval b)

theorem Apart.nil : Apart interval [] := ⟨by simp, .nil⟩

variable {a : α} {crossed : Option α}

/-- An entry that shares no address with the others may join them. -/
theorem Apart.concat {entries : List α} (h : Apart interval entries) (hpos : 0 < (interval a).size)
    (hfree : ∀ b ∈ entries, ¬ (interval a).Meets (interval b)) :
    Apart interval (entries ++ [a]) := by
  constructor
  · exact List.forall_mem_append.mpr ⟨h.nonempty, List.forall_mem_singleton.mpr hpos⟩
  · rw [List.pairwise_append]
    refine ⟨h.disjoint, List.pairwise_singleton _ _, fun b hb c hc => ?_⟩
    rw [List.mem_singleton.mp hc]
    exact fun hmeets => hfree b hb hmeets.symm

theorem Apart.eq_of_contains {entries : List α} (h : Apart interval entries) {b : α}
    (ha : a ∈ entries) (hb : b ∈ entries) {request : Interval} (hpos : 0 < request.size)
    (hcontains : (interval a).Contains request) (hcontains' : (interval b).Contains request) :
    a = b := by
  by_contra hne
  have hsymm : Std.Symm fun a b => ¬ (interval a).Meets (interval b) :=
    ⟨fun _ _ hfree hmeets => hfree hmeets.symm⟩
  exact h.disjoint.forall ha hb hne (hcontains.meets_of_contains hcontains' hpos)

/-- **There are no more entries than addresses.** -/
theorem Apart.length_le {entries : List α} (h : Apart interval entries) {top : ℕ}
    (htop : ∀ a ∈ entries, (interval a).start + (interval a).size ≤ top) :
    entries.length ≤ top := by
  have hstarts : (entries.map fun a => (interval a).start).Nodup := by
    rw [List.Nodup, List.pairwise_map]
    refine h.disjoint.imp_of_mem fun {a b} ha hb hmeets heq => hmeets ?_
    have hpa := h.nonempty a ha
    have hpb := h.nonempty b hb
    exact ⟨by omega, by omega⟩
  rw [← List.length_map fun a => (interval a).start]
  refine length_le_of_nodup_of_lt hstarts ?_
  intro start hstart
  obtain ⟨a, ha, rfl⟩ := List.mem_map.mp hstart
  have hpa := h.nonempty a ha
  have := htop a ha
  omega

/-! ### Locating a request -/

/-- The entry that contains the request, or else the last one that meets it, if any. -/
def locate (interval : α → Interval) (request : Interval) :
    List α → (crossed : Option α) → Except (Option α) α
  | [], crossed => .error crossed
  | a :: rest, crossed =>
    if (interval a).Contains request then .ok a
    else locate interval request rest (if request.Meets (interval a) then some a else crossed)

variable {request : Interval} {entries : List α}

theorem mem_of_locate_eq_ok (h : locate interval request entries crossed = .ok a) :
    a ∈ entries ∧ (interval a).Contains request := by
  induction entries generalizing crossed with
  | nil => cases h
  | cons b rest ih =>
    rw [locate] at h
    by_cases hcontains : (interval b).Contains request
    · rw [if_pos hcontains] at h
      cases h
      exact ⟨List.mem_cons_self, hcontains⟩
    · rw [if_neg hcontains] at h
      obtain ⟨hmem, hcontains'⟩ := ih h
      exact ⟨List.mem_cons_of_mem _ hmem, hcontains'⟩

theorem not_contains_of_locate_eq_error {last : Option α}
    (h : locate interval request entries crossed = .error last) :
    ∀ a ∈ entries, ¬ (interval a).Contains request := by
  induction entries generalizing crossed with
  | nil => simp
  | cons b rest ih =>
    rw [locate] at h
    by_cases hcontains : (interval b).Contains request
    · rw [if_pos hcontains] at h
      cases h
    · rw [if_neg hcontains] at h
      rw [List.forall_mem_cons]
      exact ⟨hcontains, ih h⟩

/-- What is remembered is the last entry that meets the request. -/
theorem isSome_of_locate_eq_error {last : Option α}
    (h : locate interval request entries crossed = .error last) :
    last.isSome = true ↔ crossed.isSome = true ∨ ∃ a ∈ entries, request.Meets (interval a) := by
  induction entries generalizing crossed with
  | nil =>
    cases h
    simp
  | cons b rest ih =>
    rw [locate] at h
    split_ifs at h with hcontains hmeets
    · rw [ih h]
      simp [hmeets]
    · rw [ih h]
      simp [hmeets]

theorem mem_of_locate_eq_error {last : α}
    (h : locate interval request entries crossed = .error (some last)) :
    crossed = some last ∨ (last ∈ entries ∧ request.Meets (interval last)) := by
  induction entries generalizing crossed with
  | nil =>
    cases h
    exact .inl rfl
  | cons b rest ih =>
    rw [locate] at h
    split_ifs at h with hcontains hmeets
    · rcases ih h with heq | ⟨hmem, hmeets'⟩
      · cases heq
        exact .inr ⟨List.mem_cons_self, hmeets⟩
      · exact .inr ⟨List.mem_cons_of_mem _ hmem, hmeets'⟩
    · rcases ih h with heq | ⟨hmem, hmeets'⟩
      · exact .inl heq
      · exact .inr ⟨List.mem_cons_of_mem _ hmem, hmeets'⟩

/-- **A request is found exactly in the entry that contains it.** -/
theorem locate_eq_ok_iff (h : Apart interval entries) (hpos : 0 < request.size) :
    locate interval request entries crossed = .ok a ↔ a ∈ entries ∧
    (interval a).Contains request := by
  refine ⟨mem_of_locate_eq_ok, fun ⟨hmem, hcontains⟩ => ?_⟩
  cases hlocate : locate interval request entries crossed with
  | error last => exact absurd hcontains (not_contains_of_locate_eq_error hlocate a hmem)
  | ok b =>
    obtain ⟨hmem', hcontains'⟩ := mem_of_locate_eq_ok hlocate
    rw [h.eq_of_contains hmem' hmem hpos hcontains' hcontains]

/-- **A request is refused with an entry exactly when it meets one and none contains it.** -/
theorem locate_eq_crossing_iff (h : Apart interval entries) (hpos : 0 < request.size) :
    (∃ a, locate interval request entries none = .error (some a)) ↔
      (∃ a ∈ entries, request.Meets (interval a)) ∧
      ∀ a ∈ entries, ¬ (interval a).Contains request := by
  constructor
  · rintro ⟨a, hlocate⟩
    refine ⟨?_, not_contains_of_locate_eq_error hlocate⟩
    simpa using (isSome_of_locate_eq_error hlocate).mp rfl
  · rintro ⟨hmeets, hnone⟩
    cases hlocate : locate interval request entries none with
    | ok a => exact absurd ((locate_eq_ok_iff h hpos).mp hlocate).2 (hnone a
        ((locate_eq_ok_iff h hpos).mp hlocate).1)
    | error last =>
      obtain ⟨a, rfl⟩ :=
        Option.isSome_iff_exists.mp ((isSome_of_locate_eq_error hlocate).mpr (.inr hmeets))
      exact ⟨a, rfl⟩

/-- **A request is refused without an entry exactly when it meets none.** -/
theorem locate_eq_outside_iff (hpos : 0 < request.size) :
    locate interval request entries none = .error none ↔
    ∀ a ∈ entries, ¬ request.Meets (interval a) := by
  constructor
  · intro hlocate a ha hmeets
    have := (isSome_of_locate_eq_error hlocate).mpr (.inr ⟨a, ha, hmeets⟩)
    cases this
  · intro hnone
    cases hlocate : locate interval request entries none with
    | ok a =>
      obtain ⟨hmem, hcontains⟩ := mem_of_locate_eq_ok hlocate
      exact absurd (hcontains.meets hpos) (hnone a hmem)
    | error last =>
      cases last with
      | none => rfl
      | some a =>
        rcases mem_of_locate_eq_error hlocate with heq | ⟨hmem, hmeets⟩
        · cases heq
        · exact absurd hmeets (hnone a hmem)

end Astraea.Base
