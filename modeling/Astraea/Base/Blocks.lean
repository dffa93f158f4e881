import Astraea.Base.ByteStore
import Astraea.Base.Overwrite

/-!
# Blocks of one size

A sequence is written element by element, and every element takes as many places. Then the block of
an element is found by its index, whatever follows the sequence. A memory is read in the same way:
a slice of what was loaded is what is loaded from there.
-/

namespace Astraea.Base

section Blocks

variable {α β : Type} {encode : α → List β} {size index : ℕ} {xs : List α} {x : α} {more : List β}

theorem length_blocks (hsize : ∀ x, (encode x).length = size) (xs : List α) :
    (xs.flatMap encode).length = xs.length * size := by
  induction xs with
  | nil => simp
  | cons x xs ih => rw [List.flatMap_cons, List.length_append, hsize, ih, List.length_cons,
      Nat.succ_mul, Nat.add_comm]

theorem slice_blocks (hsize : ∀ x, (encode x).length = size) (h : xs[index]? = some x) :
    slice (xs.flatMap encode ++ more) (index * size) size = encode x := by
  induction xs generalizing index with
  | nil => cases h
  | cons first rest ih =>
    rw [List.flatMap_cons, List.append_assoc]
    cases index with
    | zero =>
      rw [List.getElem?_cons_zero, Option.some.injEq] at h
      rw [slice, Nat.zero_mul, List.drop_zero, h, List.take_left' (hsize x)]
    | succ index =>
      have hoffset : (index + 1) * size = (encode first).length + index * size := by
        rw [hsize, Nat.succ_mul, Nat.add_comm]
      rw [List.getElem?_cons_succ] at h
      rw [slice, hoffset, List.drop_length_add_append]
      exact ih h

end Blocks

section Load

variable {mem : ℕ → UInt8} {address count offset width : ℕ}

/-- A slice of what was loaded is loaded from its place. -/
theorem slice_load (h : offset + width ≤ count) :
    slice (load mem address count) offset width = load mem (address + offset) width := by
  rw [slice_eq_iff (length_load _ _ _)]
  intro i hi
  rw [getElem?_load mem address (by omega), getElem?_load mem _ hi, Nat.add_assoc]

theorem load_of_slice {bytes : List UInt8} (hbytes : load mem address bytes.length = bytes)
    (h : offset + width ≤ bytes.length) :
    load mem (address + offset) width = slice bytes offset width := by
  rw [← slice_load h, hbytes]

end Load

end Astraea.Base
