import Astraea.Base.Check
import Astraea.Base.ByteStore

/-!
# Batches of steps

A batch takes elements one after another, with a step that changes a state and may fail. The
first element that fails ends the batch, and is named by its index; what the steps before it
did to the state stays.

Where no step can fail, the batch is a fold over the elements; `Written` is what is left when
the steps are stores of disjoint patches.
-/

namespace Astraea.Base

section Batch

variable {α β σ ε : Type}

/-- The elements from an index on. -/
def batchFrom (step : α → σ → Except ε β × σ) :
    (index : ℕ) → List α → σ → Except (ℕ × ε) (List β) × σ
  | _, [], state => (.ok [], state)
  | index, x :: xs, state =>
    match step x state with
    | (.error e, state) => (.error (index, e), state)
    | (.ok b, state) =>
      let rest := batchFrom step (index + 1) xs state
      (rest.1.map (b :: ·), rest.2)

variable {step : α → σ → Except ε β × σ} {f : α → β} {g : α → σ → σ} {xs : List α} {state : σ}

theorem batchFrom_of_forall (h : ∀ x ∈ xs, ∀ state, step x state = (.ok (f x), g x state))
    (index : ℕ) (state : σ) :
    batchFrom step index xs state =
      (.ok (xs.map f), xs.foldl (fun state x => g x state) state) := by
  induction xs generalizing index state with
  | nil => rfl
  | cons x xs ih =>
    rw [List.forall_mem_cons] at h
    rw [batchFrom, h.1 state]
    simp only [ih h.2]
    rfl

/-- A batch that came to its end, where a step has one way to succeed. -/
theorem batchFrom_eq_ok
    (hstep : ∀ x state b, (step x state).1 = .ok b → step x state = (.ok (f x), g x state))
    {index : ℕ} {bs : List β} (h : (batchFrom step index xs state).1 = .ok bs) :
    bs = xs.map f ∧ (batchFrom step index xs state).2 =
      xs.foldl (fun state x => g x state) state := by
  induction xs generalizing index state bs with
  | nil =>
    cases h
    exact ⟨rfl, rfl⟩
  | cons x xs ih =>
    rw [batchFrom] at h ⊢
    cases hx : (step x state).1 with
    | error e =>
      rw [show step x state = (.error e, (step x state).2) by rw [← hx]] at h
      cases h
    | ok b =>
      rw [hstep x state b hx] at h ⊢
      obtain ⟨rest, hrest, rfl⟩ := map_eq_ok.mp h
      obtain ⟨rfl, hstate⟩ := ih hrest
      exact ⟨rfl, hstate⟩

/-- A batch that ended at an index has taken the elements before it, where a step that fails changes
nothing. -/
theorem batchFrom_eq_error
    (hstep : ∀ x state b, (step x state).1 = .ok b → step x state = (.ok (f x), g x state))
    (hfail : ∀ x state e, (step x state).1 = .error e → (step x state).2 = state) {index failed : ℕ}
    {e : ε} (h : (batchFrom step index xs state).1 = .error (failed, e)) :
    index ≤ failed ∧ failed < index + xs.length ∧
      (batchFrom step index xs state).2 =
        (xs.take (failed - index)).foldl (fun state x => g x state) state := by
  induction xs generalizing index state with
  | nil => cases h
  | cons x xs ih =>
    rw [batchFrom] at h ⊢
    cases hx : (step x state).1 with
    | error e' =>
      have hstate := hfail x state e' hx
      rw [show step x state = (.error e', (step x state).2) by rw [← hx]] at h ⊢
      cases h
      rw [Nat.sub_self, List.take_zero, List.length_cons]
      exact ⟨le_refl _, by omega, hstate⟩
    | ok b =>
      rw [hstep x state b hx] at h ⊢
      obtain ⟨hle, hlt, hstate⟩ := ih (map_eq_error.mp h)
      rw [List.length_cons, show failed - index = failed - (index + 1) + 1 by omega,
        List.take_succ_cons, List.foldl_cons]
      exact ⟨by omega, by omega, hstate⟩

/-- Where whether a step succeeds does not depend on the state, a batch succeeds when each of its
steps does. -/
theorem exists_batchFrom_eq_ok {p : α → Prop}
    (hstep : ∀ x state, (∃ b, (step x state).1 = .ok b) ↔ p x) {index : ℕ} :
    (∃ bs, (batchFrom step index xs state).1 = .ok bs) ↔ ∀ x ∈ xs, p x := by
  induction xs generalizing index state with
  | nil => simp [batchFrom]
  | cons x xs ih =>
    rw [List.forall_mem_cons, ← hstep x state, batchFrom]
    cases hx : step x state with
    | mk result state' =>
      cases result with
      | error e => simp
      | ok b => simp [map_eq_ok, ih]

end Batch

/-! ### Patches that were written -/

/-- The patches are disjoint, a memory holds them all, and away from them it is as another one. -/
structure Written (patches : List Patch) (before after : ℕ → UInt8) : Prop where
  disjoint : patches.Pairwise Patch.Disjoint
  holds : ∀ p ∈ patches, load after p.1 p.2.length = p.2
  frame : ∀ x, (∀ p ∈ patches, ¬ p.Hits x) → after x = before x

theorem written_storeAll {patches : List Patch} (hd : patches.Pairwise Patch.Disjoint)
    (mem : ℕ → UInt8) :
    Written patches mem (storeAll mem patches) where
  disjoint := hd
  holds _ hp := load_storeAll hd hp mem
  frame _ h := storeAll_frame h mem

theorem storeAll_map {α : Type} (f : α → Patch) (xs : List α) (mem : ℕ → UInt8) :
    storeAll mem (xs.map f) = xs.foldl (fun mem x => store mem (f x).1 (f x).2) mem := by
  rw [storeAll, List.foldl_map]

end Astraea.Base
