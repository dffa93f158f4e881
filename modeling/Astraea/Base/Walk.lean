import Mathlib.Algebra.Order.Group.Nat
import Mathlib.Tactic.Common

/-!
# Walking a range by intervals

A range of addresses is checked piece by piece: a *probe* at the cursor either
refuses, or says how many addresses from the cursor on are good. The walk skips
that many and probes again. When the probe is right about the addresses it
passes over and refuses only bad ones, the walk succeeds exactly when every
address of the range is good, and a walk that is refused is refused at the first
bad address.
-/

namespace Astraea.Base

variable {ε : Type*}

/-- Check `remaining` addresses from `cursor` on. -/
def walk (probe : ℕ → Except ε ℕ) (cursor remaining : ℕ) : Except ε Unit :=
  if remaining = 0 then .ok ()
  else
    match probe cursor with
    | .error e => .error e
    | .ok reach =>
      -- a probe that reaches nowhere is read as one that reaches its own address
      walk probe (cursor + max 1 reach) (remaining - max 1 reach)
termination_by remaining
decreasing_by omega

/-- What a probe has to be right about for the addresses that are `Good`. -/
structure Probes (probe : ℕ → Except ε ℕ) (Good : ℕ → Prop) : Prop where
  /-- It reaches over good addresses only, and over the cursor at least. -/
  reach : ∀ {x k}, probe x = .ok k → 0 < k ∧ ∀ y, x ≤ y → y < x + k → Good y
  /-- It refuses at bad addresses only. -/
  refuse : ∀ {x e}, probe x = .error e → ¬ Good x

variable {probe : ℕ → Except ε ℕ} {Good : ℕ → Prop}

/-- The walk over a range of good addresses succeeds, and otherwise it is refused by
the probe at the first bad address. -/
theorem walk_spec (h : Probes probe Good) (cursor remaining : ℕ) :
    (walk probe cursor remaining = .ok () ∧ ∀ y, cursor ≤ y → y < cursor + remaining → Good y) ∨
      ∃ x e, walk probe cursor remaining = .error e ∧ probe x = .error e ∧ cursor ≤ x ∧
        x < cursor + remaining ∧ ¬ Good x ∧ ∀ y, cursor ≤ y → y < x → Good y := by
  induction remaining using Nat.strong_induction_on generalizing cursor with
  | _ remaining ih =>
    unfold walk
    split_ifs with hr
    · exact .inl ⟨rfl, fun y h1 h2 => by omega⟩
    · cases hp : probe cursor with
      | error e => exact .inr ⟨cursor, e, rfl, hp, le_rfl, by omega, h.refuse hp,
          fun y h1 h2 => by omega⟩
      | ok k =>
        obtain ⟨hk, hgood⟩ := h.reach hp
        have hmax : max 1 k = k := by omega
        simp only [hmax]
        rcases ih (remaining - k) (by omega) (cursor + k)
          with ⟨hw, hall⟩ | ⟨x, e, hw, hx, h1, h2, hbad, hall⟩
        · refine .inl ⟨hw, fun y h1 h2 => ?_⟩
          by_cases hy : y < cursor + k
          · exact hgood y h1 hy
          · exact hall y (by omega) (by omega)
        · refine .inr ⟨x, e, hw, hx, by omega, by omega, hbad, fun y h3 h4 => ?_⟩
          by_cases hy : y < cursor + k
          · exact hgood y h3 hy
          · exact hall y (by omega) h4

/-- **The walk is exact.** -/
theorem walk_eq_ok_iff (h : Probes probe Good) {cursor remaining : ℕ} :
    walk probe cursor remaining = .ok () ↔ ∀ y, cursor ≤ y → y < cursor + remaining → Good y := by
  rcases walk_spec h cursor remaining with ⟨hw, hall⟩ | ⟨x, e, hw, -, h1, h2, hbad, -⟩
  · exact ⟨fun _ => hall, fun _ => hw⟩
  · rw [hw]
    exact ⟨nofun, fun hall => absurd (hall x h1 h2) hbad⟩

/-- **A refused walk stops at the first bad address.** -/
theorem exists_of_walk_eq_error (h : Probes probe Good) {cursor remaining : ℕ} {e : ε}
    (hw : walk probe cursor remaining = .error e) :
    ∃ x, probe x = .error e ∧ cursor ≤ x ∧ x < cursor + remaining ∧ ¬ Good x ∧
      ∀ y, cursor ≤ y → y < x → Good y := by
  rcases walk_spec h cursor remaining with ⟨hw', -⟩ | ⟨x, e', hw', hx, h1, h2, hbad, hall⟩
  · rw [hw] at hw'
    cases hw'
  · rw [hw] at hw'
    cases hw'
    exact ⟨x, hx, h1, h2, hbad, hall⟩

end Astraea.Base
