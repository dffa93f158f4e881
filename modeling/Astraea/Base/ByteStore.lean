import Astraea.Base.LittleEndian
import Mathlib.Data.List.GetD
import Mathlib.Data.List.Range
import Mathlib.Data.List.Pairwise
import Mathlib.Algebra.Order.Group.Nat

/-!
# Stores of bytes

A memory is a function from addresses to bytes. A *patch* is an address and the
bytes to put there; `storeAll` applies a list of patches in order. Over pairwise
disjoint patches every patch is found again after all of them are applied, and an
address keeps its byte exactly when the patches that reach it write that byte again.
-/

namespace Astraea.Base

/-- The bytes of `mem` at `address .. address + count`. -/
def load (mem : ℕ → UInt8) (address count : ℕ) : List UInt8 :=
  (List.range count).map fun i => mem (address + i)

/-- `mem` with `bytes` written at `address`. -/
def store (mem : ℕ → UInt8) (address : ℕ) (bytes : List UInt8) : ℕ → UInt8 := fun x =>
  if address ≤ x ∧ x < address + bytes.length then bytes.getD (x - address) 0 else mem x

/-- An address and the bytes to put there. -/
abbrev Patch := ℕ × List UInt8

/-- The addresses a patch writes. -/
def Patch.Hits (p : Patch) (x : ℕ) : Prop := p.1 ≤ x ∧ x < p.1 + p.2.length

/-- Two patches with no address in common. -/
def Patch.Disjoint (p q : Patch) : Prop := ∀ x, ¬ (p.Hits x ∧ q.Hits x)

instance (p : Patch) (x : ℕ) : Decidable (p.Hits x) := inferInstanceAs (Decidable (_ ∧ _))

/-- `mem` with the patches applied one after the other. -/
def storeAll (mem : ℕ → UInt8) (patches : List Patch) : ℕ → UInt8 :=
  patches.foldl (fun m p => store m p.1 p.2) mem

@[simp] theorem length_load (mem : ℕ → UInt8) (address count : ℕ) :
    (load mem address count).length = count := by
  simp [load]

theorem getElem?_load (mem : ℕ → UInt8) (address : ℕ) {count i : ℕ} (h : i < count) :
    (load mem address count)[i]? = some (mem (address + i)) := by
  simp [load, h]

variable {mem : ℕ → UInt8} {p : Patch} {x : ℕ} {patches : List Patch}

/-- A byte string is what a memory holds as soon as every byte of it is. -/
theorem load_eq_iff {address : ℕ} {bytes : List UInt8} :
    load mem address bytes.length = bytes ↔
    ∀ i < bytes.length, mem (address + i) = bytes.getD i 0 := by
  constructor
  · intro h i hi
    have := getElem?_load mem address hi
    rw [h] at this
    rw [List.getD_eq_getElem?_getD, this, Option.getD_some]
  · intro h
    apply List.ext_getElem (by simp)
    intro i hi _
    rw [length_load] at hi
    have := h i hi
    rw [List.getD_eq_getElem _ _ hi] at this
    simpa [load] using this

/-- Two memories hold the same bytes exactly when every byte is the same. -/
theorem load_eq_load_iff {m m' : ℕ → UInt8} {address count : ℕ} :
    load m address count = load m' address count ↔
    ∀ i < count, m (address + i) = m' (address + i) := by
  simp [load]

theorem store_of_hits (h : p.Hits x) : store mem p.1 p.2 x = p.2.getD (x - p.1) 0 := if_pos h

theorem store_of_not_hits (h : ¬ p.Hits x) : store mem p.1 p.2 x = mem x := if_neg h

theorem storeAll_cons (mem : ℕ → UInt8) (p : Patch) (ps : List Patch) :
    storeAll mem (p :: ps) = storeAll (store mem p.1 p.2) ps := rfl

theorem storeAll_append (mem : ℕ → UInt8) (ps qs : List Patch) :
    storeAll mem (ps ++ qs) = storeAll (storeAll mem ps) qs := List.foldl_append

/-- **Frame**: an address that no patch reaches keeps its byte. -/
theorem storeAll_frame (h : ∀ p ∈ patches, ¬ p.Hits x) (mem : ℕ → UInt8) :
    storeAll mem patches x = mem x := by
  induction patches generalizing mem with
  | nil => rfl
  | cons p ps ih =>
    rw [storeAll_cons, ih (fun q hq => h q (List.mem_cons_of_mem _ hq)),
      store_of_not_hits (h p List.mem_cons_self)]

/-- Over pairwise disjoint patches, every address a patch reaches ends up with that
patch's byte. -/
theorem storeAll_of_hits (hd : patches.Pairwise Patch.Disjoint) (hp : p ∈ patches) (hx : p.Hits x)
    (mem : ℕ → UInt8) :
    storeAll mem patches x = p.2.getD (x - p.1) 0 := by
  induction patches generalizing mem with
  | nil => cases hp
  | cons q qs ih =>
    rw [List.pairwise_cons] at hd
    rw [storeAll_cons]
    rcases List.mem_cons.mp hp with rfl | hp
    · rw [storeAll_frame (fun r hr hrx => hd.1 r hr x ⟨hx, hrx⟩), store_of_hits hx]
    · exact ih hd.2 hp _

/-- Over pairwise disjoint patches, an address keeps its byte exactly when a patch that reaches
it writes that byte again. -/
theorem storeAll_eq_iff (hd : patches.Pairwise Patch.Disjoint) :
    storeAll mem patches x = mem x ↔ ∀ p ∈ patches, p.Hits x → p.2.getD (x - p.1) 0 = mem x := by
  constructor
  · intro h p hp hx
    rw [← storeAll_of_hits hd hp hx mem, h]
  · intro h
    by_cases hhit : ∃ p ∈ patches, p.Hits x
    · obtain ⟨p, hp, hx⟩ := hhit
      rw [storeAll_of_hits hd hp hx, h p hp hx]
    · exact storeAll_frame (fun p hp hx => hhit ⟨p, hp, hx⟩) mem

/-- Over pairwise disjoint patches, every patch can be read back whole. -/
theorem load_storeAll (hd : patches.Pairwise Patch.Disjoint) (hp : p ∈ patches) (mem : ℕ → UInt8) :
    load (storeAll mem patches) p.1 p.2.length = p.2 := by
  rw [load_eq_iff]
  intro i hi
  rw [storeAll_of_hits hd hp ⟨Nat.le_add_right _ _, by omega⟩, Nat.add_sub_cancel_left]

/-- A patch can be read back whole as soon as no later one reaches it: those before it do not
matter. -/
theorem load_storeAll_of_later {before after : List Patch} (h : ∀ q ∈ after, Patch.Disjoint p q)
    (mem : ℕ → UInt8) :
    load (storeAll mem (before ++ p :: after)) p.1 p.2.length = p.2 := by
  rw [load_eq_iff]
  intro i hi
  have hhits : p.Hits (p.1 + i) := ⟨Nat.le_add_right _ _, by omega⟩
  rw [storeAll_append, storeAll_cons, storeAll_frame fun q hq hqx => h q hq _ ⟨hhits, hqx⟩,
    store_of_hits hhits, Nat.add_sub_cancel_left]

/-! ### Words of a memory -/

/-- A word inside what was loaded is a word of the memory. -/
theorem leAt_load {address count width offset : ℕ} (h : offset + width ≤ count) :
    leAt width (load mem address count) offset = leValue (load mem (address + offset) width) := by
  unfold leAt
  congr 1
  apply List.ext_getElem
  · simp only [List.length_take, List.length_drop, length_load]
    omega
  · intro i _ _
    simp [load, Nat.add_assoc]

/-- Two memories hold the same word exactly when they hold the same bytes there. -/
theorem leValue_load_eq_iff {m m' : ℕ → UInt8} {address width : ℕ} :
    leValue (load m address width) = leValue (load m' address width) ↔
      ∀ i < width, m (address + i) = m' (address + i) := by
  rw [← load_eq_load_iff]
  refine ⟨fun h => ?_, congrArg leValue⟩
  rw [← leBytes_leValue_of_length (length_load m address width), h,
    leBytes_leValue_of_length (length_load _ _ _)]

end Astraea.Base
