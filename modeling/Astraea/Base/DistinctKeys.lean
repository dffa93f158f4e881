import Astraea.Base.Check
import Mathlib.Data.List.Nodup

/-!
# Distinct keys

A list whose elements must have distinct keys is checked by comparing every element with those
before it. The check says what `Nodup` says of the keys.
-/

namespace Astraea.Base

universe u v

variable {ε : Type u} {α : Type v} {κ : Type} [DecidableEq κ]

/-- The element at an index, compared with every element before it. -/
def refuseRepeated (key : α → κ) (e : ℕ → ε) (xs : List α) (place : α × ℕ) : Except ε PUnit :=
  (xs.take place.2).zipIdx.forM fun previous =>
    refuseIf (key previous.1 = key place.1) (e previous.2)

/-- **No element is refused where no key comes twice.** -/
theorem refuseRepeated_eq_ok {key : α → κ} {e : α × ℕ → ℕ → ε} {xs : List α} :
    (∀ (index : ℕ) (x : α), xs[index]? = some x →
      refuseRepeated key (e (x, index)) xs (x, index) = .ok ()) ↔
      (xs.map key).Nodup := by
  rw [List.Nodup, List.pairwise_map, List.pairwise_iff_getElem]
  constructor
  · intro h previous index hprevious hindex hlt
    have hturn := h index _ (List.getElem?_eq_getElem hindex)
    rw [refuseRepeated, forM_zipIdx_eq_ok] at hturn
    refine refuseIf_eq_ok.mp (hturn previous xs[previous] ?_)
    rw [List.getElem?_take, if_pos hlt, List.getElem?_eq_getElem hprevious]
  · intro h index x hx
    obtain ⟨hindex, rfl⟩ := List.getElem?_eq_some_iff.mp hx
    rw [refuseRepeated, forM_zipIdx_eq_ok]
    intro previous y hy
    rw [List.getElem?_take] at hy
    split_ifs at hy with hlt
    obtain ⟨hprevious, rfl⟩ := List.getElem?_eq_some_iff.mp hy
    exact refuseIf_eq_ok.mpr (h previous index hprevious hindex hlt)

theorem leavesWith_refuseRepeated {p : ε → Prop} {key : α → κ} {e : ℕ → ε} {xs : List α}
    {place : α × ℕ} (h : ∀ previous, p (e previous)) :
    LeavesWith p (refuseRepeated key e xs place) :=
  leavesWith_forM fun previous _ => leavesWith_refuseIf fun _ => h previous.2

/-- A loop whose turns test each element by itself and compare it with those before it. -/
theorem forM_distinct_eq_ok {key : α → κ} {e : α × ℕ → ℕ → ε} {f : α × ℕ → Except ε PUnit}
    {p : α → Prop} {xs : List α}
    (hf : ∀ place, f place = .ok () ↔ p place.1 ∧ refuseRepeated key (e place) xs place = .ok ()) :
    xs.zipIdx.forM f = .ok () ↔ (∀ x ∈ xs, p x) ∧ (xs.map key).Nodup := by
  rw [forM_zipIdx_eq_ok, ← refuseRepeated_eq_ok (e := e)]
  constructor
  · intro h
    refine ⟨fun x hx => ?_, fun index x hx => ((hf _).mp (h index x hx)).2⟩
    obtain ⟨index, hindex⟩ := List.mem_iff_getElem?.mp hx
    exact ((hf _).mp (h index x hindex)).1
  · rintro ⟨hp, hunique⟩ index x hx
    exact (hf _).mpr ⟨hp x (List.mem_of_getElem? hx), hunique index x hx⟩

end Astraea.Base
