import Astraea.Base.ByteStore

/-!
# Memories with holes

A memory in which only some addresses have a byte. Pages that are mapped hold zeros; a
write has to find every address it goes to. `writeAll_spec` is what a run of writes
leaves behind when all of them write, wherever they reach, the bytes of one image: the
order in which they come and the places where they overlap do not matter.
-/

namespace Astraea.Base

/-- A memory in which an address has a byte or is not mapped. -/
def MappedStore := ℕ → Option UInt8

namespace MappedStore

/-- Nothing is mapped. -/
def nothing : MappedStore := fun _ => none

/-- `mem` with zeros mapped at `base .. base + size`. -/
def mapZero (mem : MappedStore) (base size : ℕ) : MappedStore := fun x =>
  if base ≤ x ∧ x < base + size then some 0 else mem x

/-- The bytes of a patch written over what is mapped; there is no result when one of them
has no place. -/
def write (mem : MappedStore) (p : Patch) : Option MappedStore :=
  if ∀ i < p.2.length, (mem (p.1 + i)).isSome = true then
    some fun x => if p.Hits x then some (p.2.getD (x - p.1) 0) else mem x
  else none

/-- Patches written one after the other. -/
def writeAll (mem : MappedStore) (patches : List Patch) : Option MappedStore :=
  patches.foldlM write mem

/-- What one write does to a memory in which all its addresses are mapped. -/
theorem write_spec {mem : MappedStore} {p : Patch} (h : ∀ x, p.Hits x → (mem x).isSome = true) :
    ∃ mem', mem.write p = some mem' ∧ (∀ x, p.Hits x → mem' x = some (p.2.getD (x - p.1) 0)) ∧
      ∀ x, ¬ p.Hits x → mem' x = mem x := by
  refine ⟨_, if_pos ?_, ?_, ?_⟩
  · intro i hi
    exact h _ ⟨by omega, by omega⟩
  · intro x hx
    exact if_pos hx
  · intro x hx
    exact if_neg hx

/-- Writes of patches that all hold the bytes of one image leave these bytes wherever one
of them reaches, and the rest as it was. -/
theorem writeAll_spec {value : ℕ → UInt8} {patches : List Patch} {mem : MappedStore}
    (hvalue : ∀ p ∈ patches, ∀ x, p.Hits x → p.2.getD (x - p.1) 0 = value x)
    (hmapped : ∀ p ∈ patches, ∀ x, p.Hits x → (mem x).isSome = true) :
    ∃ mem', mem.writeAll patches = some mem' ∧
      (∀ x, (∃ p ∈ patches, p.Hits x) → mem' x = some (value x)) ∧
      ∀ x, (∀ p ∈ patches, ¬ p.Hits x) → mem' x = mem x := by
  induction patches generalizing mem with
  | nil => exact ⟨mem, rfl, by simp, fun x _ => rfl⟩
  | cons p patches ih =>
    rw [List.forall_mem_cons] at hvalue hmapped
    obtain ⟨next, hnext, hhit, hmiss⟩ := write_spec hmapped.1
    have hstill : ∀ x, (mem x).isSome = true → (next x).isSome = true := by
      intro x hx
      by_cases hp : p.Hits x
      · rw [hhit x hp]
        rfl
      · rw [hmiss x hp]
        exact hx
    obtain ⟨mem', hmem', hin, hout⟩ := ih hvalue.2 fun q hq x hx => hstill x (hmapped.2 q hq x hx)
    refine ⟨mem', ?_, ?_, ?_⟩
    · rw [writeAll, List.foldlM_cons, hnext]
      exact hmem'
    · intro x hx
      by_cases hrest : ∃ q ∈ patches, q.Hits x
      · exact hin x hrest
      · have hp : p.Hits x := by
          obtain ⟨q, hq, hqx⟩ := hx
          rcases List.mem_cons.mp hq with rfl | hq
          · exact hqx
          · exact absurd ⟨q, hq, hqx⟩ hrest
        rw [hout x fun q hq hqx => hrest ⟨q, hq, hqx⟩, hhit x hp, hvalue.1 x hp]
    · intro x hx
      rw [List.forall_mem_cons] at hx
      rw [hout x hx.2, hmiss x hx.1]

theorem mapZero_of_mem {mem : MappedStore} {base size x : ℕ} (h : base ≤ x ∧ x < base + size) :
    mem.mapZero base size x = some 0 := if_pos h

theorem mapZero_of_not_mem {mem : MappedStore} {base size x : ℕ}
    (h : ¬ (base ≤ x ∧ x < base + size)) :
    mem.mapZero base size x = mem x := if_neg h

end MappedStore

end Astraea.Base
