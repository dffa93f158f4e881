import Mathlib.Data.List.Nodup
import Mathlib.Data.List.Sort

/-!
# Sorting by keys

Elements sorted by a key, and a look at neighbours for a key that comes twice. Where no key
comes twice a sorted list is its set of elements: `OrdersKeys.eq_of_mem_iff`.
-/

namespace Astraea.Base

/-- A test for the order of two keys that puts them all in a row. -/
structure OrdersKeys {κ : Type} (le : κ → κ → Bool) : Prop where
  trans : ∀ a b c, le a b = true → le b c = true → le a c = true
  total : ∀ a b, (le a b || le b a) = true
  antisymm : ∀ a b, le a b = true → le b a = true → a = b

section

variable {α κ : Type} (le : κ → κ → Bool) (key : α → κ)

/-- The elements in the order of their keys. -/
def sortByKey (xs : List α) : List α := xs.insertionSort fun a b => le (key a) (key b) = true

/-- Two neighbours have the same key. -/
def neighboursShareKey [DecidableEq κ] : List α → Bool
  | a :: b :: rest => key a == key b || neighboursShareKey (b :: rest)
  | _ => false

variable {le : κ → κ → Bool} {key : α → κ} {xs ys : List α}

theorem sortByKey_perm (le : κ → κ → Bool) (key : α → κ) (xs : List α) :
    (sortByKey le key xs).Perm xs :=
  List.perm_insertionSort _ _

theorem mem_sortByKey {a : α} : a ∈ sortByKey le key xs ↔ a ∈ xs :=
  (sortByKey_perm le key xs).mem_iff

theorem OrdersKeys.pairwise_sortByKey (h : OrdersKeys le) (key : α → κ) (xs : List α) :
    (sortByKey le key xs).Pairwise fun a b => le (key a) (key b) = true := by
  have htotal : Std.Total fun a b : α => le (key a) (key b) = true :=
    ⟨fun a b => Bool.or_eq_true _ _ ▸ h.total (key a) (key b)⟩
  have htrans : IsTrans α fun a b => le (key a) (key b) = true :=
    ⟨fun a b c => h.trans (key a) (key b) (key c)⟩
  exact List.pairwise_insertionSort _ xs

/-- In a sorted list a key that comes twice comes twice in a row. -/
theorem OrdersKeys.nodup_of_neighbours [DecidableEq κ] (h : OrdersKeys le)
    (hsorted : xs.Pairwise fun a b => le (key a) (key b) = true) :
    neighboursShareKey key xs = false ↔ (xs.map key).Nodup := by
  induction xs with
  | nil => simp [neighboursShareKey]
  | cons a xs ih =>
    cases xs with
    | nil => simp [neighboursShareKey]
    | cons b rest =>
      rw [List.pairwise_cons] at hsorted
      rw [neighboursShareKey, Bool.or_eq_false_iff, ih hsorted.2, List.map_cons (a := a),
        List.nodup_cons, beq_eq_false_iff_ne]
      refine and_congr_left ?_
      intro hrest
      rw [not_iff_not.symm, not_not, not_not]
      constructor
      · intro heq
        exact heq ▸ List.mem_map_of_mem List.mem_cons_self
      · intro hmem
        -- the key of `a` stands at or behind that of `b`, and no later key comes before it
        obtain ⟨c, hc, hkey⟩ := List.mem_map.mp hmem
        have hab := hsorted.1 b List.mem_cons_self
        refine h.antisymm _ _ hab ?_
        rw [← hkey]
        rcases List.mem_cons.mp hc with rfl | hc
        · simpa using h.total (key c) (key c)
        · exact List.rel_of_pairwise_cons hsorted.2 hc

theorem OrdersKeys.neighbours_sortByKey [DecidableEq κ] (h : OrdersKeys le) :
    neighboursShareKey key (sortByKey le key xs) = false ↔ (xs.map key).Nodup := by
  rw [h.nodup_of_neighbours (h.pairwise_sortByKey key xs)]
  exact ((sortByKey_perm le key xs).map key).nodup_iff

/-- **A sorted list without a key that comes twice is its set of elements.** -/
theorem OrdersKeys.eq_of_mem_iff (h : OrdersKeys le)
    (hxs : xs.Pairwise fun a b => le (key a) (key b) = true)
    (hys : ys.Pairwise fun a b => le (key a) (key b) = true) (hxnodup : (xs.map key).Nodup)
    (hynodup : (ys.map key).Nodup) (hmem : ∀ a, a ∈ xs ↔ a ∈ ys) : xs = ys := by
  have hperm : xs.Perm ys := (List.perm_ext_iff_of_nodup hxnodup.of_map hynodup.of_map).mpr hmem
  refine List.Perm.eq_of_pairwise ?_ hxs hys hperm
  intro a b ha hb hab hba
  exact List.inj_on_of_nodup_map hxnodup ha (hperm.mem_iff.mpr hb) (h.antisymm _ _ hab hba)

/-- Elements with the same keys in the same order, none of them twice, are the same once they are
the same as a set. -/
theorem eq_of_map_eq_of_mem (hkeys : xs.map key = ys.map key) (hnodup : (ys.map key).Nodup)
    (hmem : ∀ a ∈ xs, a ∈ ys) :
    xs = ys := by
  induction xs generalizing ys with
  | nil =>
    rw [List.map_nil] at hkeys
    exact (List.map_eq_nil_iff.mp hkeys.symm).symm
  | cons x xs ih =>
    cases ys with
    | nil => cases hkeys
    | cons y ys =>
      rw [List.map_cons, List.map_cons, List.cons.injEq] at hkeys
      rw [List.forall_mem_cons] at hmem
      have hx : x = y := List.inj_on_of_nodup_map hnodup hmem.1 List.mem_cons_self hkeys.1
      subst hx
      rw [List.map_cons, List.nodup_cons] at hnodup
      refine congrArg _ (ih hkeys.2 hnodup.2 ?_)
      intro a ha
      rcases List.mem_cons.mp (hmem.2 a ha) with rfl | hys
      · exact absurd (hkeys.2 ▸ List.mem_map_of_mem ha) hnodup.1
      · exact hys

/-- Where no key comes twice, looking for a key finds the one element that has it. -/
theorem find?_key_eq_some [BEq κ] [LawfulBEq κ] (hnodup : (xs.map key).Nodup) {k : κ} {a : α} :
    xs.find? (fun x => key x == k) = some a ↔ a ∈ xs ∧ key a = k := by
  constructor
  · intro h
    exact ⟨List.mem_of_find?_eq_some h, beq_iff_eq.mp (List.find?_some h :)⟩
  · rintro ⟨hmem, hkey⟩
    cases hfind : xs.find? (fun x => key x == k) with
    | none =>
      have hnone := List.find?_eq_none.mp hfind a hmem
      rw [beq_iff_eq] at hnone
      exact absurd hkey hnone
    | some b =>
      have hb : key b = k := beq_iff_eq.mp (List.find?_some hfind :)
      rw [List.inj_on_of_nodup_map hnodup (List.mem_of_find?_eq_some hfind) hmem
        (hb.trans hkey.symm)]

/-- Where no key comes twice, the order does not matter to a lookup. -/
theorem find?_key_eq_of_perm [BEq κ] [LawfulBEq κ] (hperm : xs.Perm ys)
    (hnodup : (xs.map key).Nodup) (k : κ) :
    xs.find? (fun x => key x == k) = ys.find? fun x => key x == k := by
  ext a
  rw [find?_key_eq_some hnodup, find?_key_eq_some ((hperm.map key).nodup_iff.mp hnodup),
    hperm.mem_iff]

end

/-! ### Keys given by a strict order -/

/-- A test for one key coming before another that puts all keys in a row. -/
structure StrictlyOrders {κ : Type} (lt : κ → κ → Bool) : Prop where
  irrefl : ∀ a, lt a a = false
  trans : ∀ a b c, lt a b = true → lt b c = true → lt a c = true
  connected : ∀ a b, lt a b = false → lt b a = false → a = b

section

variable {α κ κ' : Type} {lt : κ → κ → Bool} {lt' : κ' → κ' → Bool}

/-- No key before all, then the keys as they are: `operator<` of `std::optional`. -/
def optionLess (lt : κ → κ → Bool) : Option κ → Option κ → Bool
  | _, none => false
  | none, some _ => true
  | some a, some b => lt a b

/-- By the first component, and by the second where the first are the same. -/
def pairLess [DecidableEq κ] (lt : κ → κ → Bool) (lt' : κ' → κ' → Bool) (a b : κ × κ') : Bool :=
  if a.1 ≠ b.1 then lt a.1 b.1 else lt' a.2 b.2

theorem StrictlyOrders.ordersKeys (h : StrictlyOrders lt) : OrdersKeys fun a b => !lt b a where
  trans a b c hab hbc := by
    simp only [Bool.not_eq_true'] at *
    by_contra hca
    rw [Bool.not_eq_false] at hca
    cases hlt : lt b c with
    | true =>
      rw [h.trans b c a hlt hca] at hab
      cases hab
    | false =>
      rw [h.connected b c hlt hbc, hca] at hab
      cases hab
  total a b := by
    cases hab : lt a b with
    | false => simp
    | true =>
      cases hba : lt b a with
      | false => simp
      | true =>
        have := h.trans a b a hab hba
        rw [h.irrefl] at this
        cases this
  antisymm a b hab hba := by
    simp only [Bool.not_eq_true'] at *
    exact h.connected a b hba hab

theorem StrictlyOrders.option (h : StrictlyOrders lt) : StrictlyOrders (optionLess lt) where
  irrefl a := by
    cases a with
    | none => rfl
    | some a => exact h.irrefl a
  trans a b c hab hbc := by
    cases c with
    | none => cases b <;> cases hbc
    | some c =>
      cases a with
      | none => rfl
      | some a =>
        cases b with
        | none => cases hab
        | some b => exact h.trans a b c hab hbc
  connected a b hab hba := by
    cases a with
    | none =>
      cases b with
      | none => rfl
      | some b => cases hab
    | some a =>
      cases b with
      | none => cases hba
      | some b => exact congrArg some (h.connected a b hab hba)

theorem StrictlyOrders.pair [DecidableEq κ] (h : StrictlyOrders lt) (h' : StrictlyOrders lt') :
    StrictlyOrders (pairLess lt lt') where
  irrefl a := by simp [pairLess, h'.irrefl]
  trans a b c hab hbc := by
    obtain ⟨a, a'⟩ := a
    obtain ⟨b, b'⟩ := b
    obtain ⟨c, c'⟩ := c
    simp only [pairLess] at *
    by_cases h₁ : a = b
    · subst h₁
      rw [if_neg (by simp)] at hab
      by_cases h₂ : a = c
      · subst h₂
        rw [if_neg (by simp)] at hbc ⊢
        exact h'.trans a' b' c' hab hbc
      · rw [if_pos h₂] at hbc ⊢
        exact hbc
    · rw [if_pos h₁] at hab
      by_cases h₂ : b = c
      · subst h₂
        rw [if_pos h₁]
        exact hab
      · rw [if_pos h₂] at hbc
        have hac := h.trans a b c hab hbc
        have hne : a ≠ c := by
          rintro rfl
          rw [h.irrefl] at hac
          cases hac
        rw [if_pos hne]
        exact hac
  connected a b hab hba := by
    obtain ⟨a, a'⟩ := a
    obtain ⟨b, b'⟩ := b
    simp only [pairLess] at *
    by_cases h₁ : a = b
    · subst h₁
      rw [if_neg (by simp)] at hab hba
      rw [h'.connected a' b' hab hba]
    · rw [if_pos h₁] at hab
      rw [if_pos (Ne.symm h₁)] at hba
      exact absurd (h.connected a b hab hba) h₁

theorem StrictlyOrders.comap (h : StrictlyOrders lt) {f : α → κ} (hf : Function.Injective f) :
    StrictlyOrders fun a b => lt (f a) (f b) where
  irrefl a := h.irrefl (f a)
  trans a b c := h.trans (f a) (f b) (f c)
  connected a b hab hba := hf (h.connected (f a) (f b) hab hba)

end

end Astraea.Base
