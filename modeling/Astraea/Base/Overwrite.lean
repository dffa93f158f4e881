import Mathlib.Algebra.Order.Group.Nat
import Mathlib.Data.List.Basic

/-!
# Overwriting a part of a buffer

A slice of a buffer is compared with what is expected there, and overwritten by as many elements.
`getElem?_overwrite` is what the buffer holds afterwards, place by place, and `slice_overwriteAll`
what it holds after several writes.
-/

namespace Astraea.Base

variable {α : Type} {xs ys : List α} {offset count i : ℕ}

/-- `count` elements of a buffer, from an offset on. -/
def slice (xs : List α) (offset count : ℕ) : List α := (xs.drop offset).take count

/-- The buffer with `ys` over its elements from an offset on. -/
def overwrite (xs : List α) (offset : ℕ) (ys : List α) : List α :=
  xs.take offset ++ ys ++ xs.drop (offset + ys.length)

theorem getElem?_slice :
    (slice xs offset count)[i]? = if i < count then xs[offset + i]? else none := by
  rw [slice, List.getElem?_take]
  split_ifs
  · exact List.getElem?_drop
  · rfl

theorem slice_eq_iff (h : ys.length = count) :
    slice xs offset count = ys ↔ ∀ i < count, xs[offset + i]? = ys[i]? := by
  rw [List.ext_getElem?_iff]
  constructor
  · intro hsame i hi
    have hplace := hsame i
    rw [getElem?_slice, if_pos hi] at hplace
    exact hplace
  · intro hsame i
    rw [getElem?_slice]
    split_ifs with hi
    · exact hsame i hi
    · exact (List.getElem?_eq_none (by omega)).symm

theorem length_overwrite (h : offset + ys.length ≤ xs.length) :
    (overwrite xs offset ys).length = xs.length := by
  simp only [overwrite, List.length_append, List.length_take, List.length_drop]
  omega

/-- **What the buffer holds afterwards**: the new elements at their places, the old ones elsewhere.
-/
theorem getElem?_overwrite (h : offset + ys.length ≤ xs.length) :
    (overwrite xs offset ys)[i]? = if offset ≤ i ∧ i < offset + ys.length then ys[i - offset]?
      else xs[i]? := by
  have htake : (xs.take offset).length = offset := by
    rw [List.length_take]
    omega
  rw [overwrite, List.append_assoc]
  by_cases hbefore : i < offset
  · rw [if_neg (by omega), List.getElem?_append_left (by omega), List.getElem?_take, if_pos hbefore]
  · rw [List.getElem?_append_right (by omega), htake]
    by_cases hin : i < offset + ys.length
    · rw [if_pos ⟨by omega, hin⟩, List.getElem?_append_left (by omega)]
    · rw [if_neg (by omega), List.getElem?_append_right (by omega), List.getElem?_drop]
      congr 1
      omega

/-! ### Several writes -/

/-- Writes one after the other, each at its offset. -/
def overwriteAll (xs : List α) (writes : List (ℕ × List α)) : List α :=
  writes.foldl (fun xs write => overwrite xs write.1 write.2) xs

/-- A write ends before another begins. -/
def EndsBefore (write other : ℕ × List α) : Prop := write.1 + write.2.length ≤ other.1

theorem EndsBefore.trans {a b c : ℕ × List α} (hab : EndsBefore a b) (hbc : EndsBefore b c) :
    EndsBefore a c := by
  rw [EndsBefore] at *
  omega

instance : Trans (@EndsBefore α) (@EndsBefore α) (@EndsBefore α) := ⟨EndsBefore.trans⟩

section Writes

variable {write : ℕ × List α} {writes : List (ℕ × List α)}

theorem overwriteAll_cons (xs : List α) (write : ℕ × List α) (writes : List (ℕ × List α)) :
    overwriteAll xs (write :: writes) = overwriteAll (overwrite xs write.1 write.2) writes := rfl

section

variable (h : ∀ write ∈ writes, write.1 + write.2.length ≤ xs.length)

include h

theorem length_overwriteAll : (overwriteAll xs writes).length = xs.length := by
  induction writes generalizing xs with
  | nil => rfl
  | cons write writes ih =>
    rw [List.forall_mem_cons] at h
    have hlength := length_overwrite h.1
    rw [overwriteAll_cons, ih (hlength.symm ▸ h.2), hlength]

theorem getElem?_overwriteAll (hbefore : ∀ write ∈ writes, i < write.1) :
    (overwriteAll xs writes)[i]? = xs[i]? := by
  induction writes generalizing xs with
  | nil => rfl
  | cons write writes ih =>
    rw [List.forall_mem_cons] at h hbefore
    have hlength := length_overwrite h.1
    rw [overwriteAll_cons, ih (hlength.symm ▸ h.2) hbefore.2, getElem?_overwrite h.1, if_neg]
    rintro ⟨hlow, -⟩
    exact absurd hbefore.1 (Nat.not_lt.mpr hlow)

/-- **Each of several writes is found in the buffer afterwards**, if they are in order. -/
theorem slice_overwriteAll (horder : writes.Pairwise EndsBefore) (hwrite : write ∈ writes) :
    slice (overwriteAll xs writes) write.1 write.2.length = write.2 := by
  induction writes generalizing xs with
  | nil => cases hwrite
  | cons first writes ih =>
    rw [List.forall_mem_cons] at h
    rw [List.pairwise_cons] at horder
    have hlater := h.2
    rw [← length_overwrite h.1] at hlater
    rw [overwriteAll_cons]
    rcases List.mem_cons.mp hwrite with rfl | hwrite
    · rw [slice_eq_iff rfl]
      intro i hi
      have hbefore : ∀ other ∈ writes, write.1 + i < other.1 := fun other hother =>
        lt_of_lt_of_le (Nat.add_lt_add_left hi _) (horder.1 other hother)
      rw [getElem?_overwriteAll hlater hbefore, getElem?_overwrite h.1,
        if_pos ⟨Nat.le_add_right _ _, by omega⟩, Nat.add_sub_cancel_left]
    · exact ih hlater horder.2 hwrite

end

end Writes

/-! ### Copying piece by piece -/

/-- A buffer of the size of another, whose first places are a copy of it. -/
structure CopiedUpTo (xs ys : List α) (offset : ℕ) : Prop where
  length : ys.length = xs.length
  same : ∀ i < offset, ys[i]? = xs[i]?

theorem CopiedUpTo.overwrite (h : CopiedUpTo xs ys offset) (hcount : offset + count ≤ xs.length) :
    CopiedUpTo xs (overwrite ys offset (slice xs offset count)) (offset + count) := by
  have hslice : (slice xs offset count).length = count := by
    rw [slice, List.length_take, List.length_drop]
    omega
  have hfits : offset + (slice xs offset count).length ≤ ys.length := by
    rw [hslice, h.length]
    exact hcount
  refine ⟨(length_overwrite hfits).trans h.length, fun i hi => ?_⟩
  rw [getElem?_overwrite hfits, hslice]
  split_ifs with hin
  · rw [getElem?_slice, if_pos (by omega), Nat.add_sub_of_le hin.1]
  · exact h.same i (by omega)

theorem CopiedUpTo.eq (h : CopiedUpTo xs ys offset) (hall : xs.length ≤ offset) : ys = xs := by
  apply List.ext_getElem?
  intro i
  by_cases hi : i < offset
  · exact h.same i hi
  · rw [List.getElem?_eq_none (by rw [h.length]; omega), List.getElem?_eq_none (by omega)]

end Astraea.Base
