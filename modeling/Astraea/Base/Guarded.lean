import Astraea.Base.Check
import Astraea.Base.LittleEndian

/-!
# Reads that are looked up

A parser over a byte string can be written a second time with every read looked up: a byte by
its index, a span by its two ends. What the parser itself refuses is an error `some e`; the error
`none` is a read that found nothing. Such a parser that is equal to the first one, with its
errors under `some`, has read inside the byte string only.
-/

namespace Astraea.Base

section Guarded

variable {ε α β : Type} {bytes : List UInt8} {index width offset size : ℕ}

/-- The byte at an index. -/
def byteWithin (bytes : List UInt8) (index : ℕ) : Except (Option ε) UInt8 :=
  orRefuse bytes[index]? none

/-- The word of `width` bytes at an offset. -/
def wordWithin (width : ℕ) (bytes : List UInt8) (offset : ℕ) : Except (Option ε) ℕ := do
  let word ← (List.range width).mapM fun i => byteWithin bytes (offset + i)
  return leValue word

/-- A span of `size` bytes at an offset. It begins inside the bytes or at their end, and ends there
too. -/
def spanWithin (bytes : List UInt8) (offset size : ℕ) : Except (Option ε) (List UInt8) := do
  refuseIf (offset > bytes.length ∨ size > bytes.length - offset) none
  return (bytes.drop offset).take size

theorem byteWithin_eq (h : index < bytes.length) :
    (byteWithin bytes index : Except (Option ε) UInt8) = .ok (bytes.getD index 0) := by
  rw [byteWithin, List.getElem?_eq_getElem h, List.getD_eq_getElem _ _ h]
  rfl

theorem mapM_eq_ok_map {f : α → Except ε β} {g : α → β} {xs : List α}
    (h : ∀ x ∈ xs, f x = .ok (g x)) :
    xs.mapM f = .ok (xs.map g) := by
  rw [mapM_eq_ok, List.forall₂_map_right_iff, List.forall₂_same]
  exact h

theorem wordWithin_eq (h : offset + width ≤ bytes.length) :
    (wordWithin width bytes offset : Except (Option ε) ℕ) = .ok (leAt width bytes offset) := by
  have hbytes : (List.range width).map (fun i => bytes.getD (offset + i) 0) =
      (bytes.drop offset).take width := by
    apply List.ext_getElem
    · rw [List.length_map, List.length_range, List.length_take, List.length_drop]
      omega
    · intro i hi hi'
      rw [List.length_map, List.length_range] at hi
      rw [List.getElem_map, List.getElem_range, List.getElem_take, List.getElem_drop,
        List.getD_eq_getElem _ _ (by omega)]
  rw [wordWithin, mapM_eq_ok_map (fun i hi => byteWithin_eq (by rw [List.mem_range] at hi; omega)),
    hbytes]
  rfl

theorem spanWithin_eq (h : offset + size ≤ bytes.length) :
    (spanWithin bytes offset size : Except (Option ε) (List UInt8)) =
      .ok ((bytes.drop offset).take size) := by
  rw [spanWithin, refuseIf_of_not (by omega)]
  rfl

theorem spanWithin_eq_error (h : bytes.length < offset + size) :
    (spanWithin bytes offset size : Except (Option ε) (List UInt8)) = .error none := by
  rw [spanWithin, refuseIf, if_pos (by omega)]
  rfl

theorem foldlM_eq_mapError {f : β → α → Except ε β} {f' : β → α → Except (Option ε) β} {xs : List α}
    (h : ∀ b, ∀ x ∈ xs, f' b x = (f b x).mapError some) (b : β) :
    xs.foldlM f' b = (xs.foldlM f b).mapError some := by
  induction xs generalizing b with
  | nil => rfl
  | cons x xs ih =>
    rw [List.foldlM_cons, List.foldlM_cons]
    refine bind_eq_mapError_bind (h b x List.mem_cons_self) ?_
    intro next _
    exact ih (fun b' y hy => h b' y (List.mem_cons_of_mem _ hy)) next

end Guarded

end Astraea.Base
