import Astraea.Base.Relabel
import Astraea.Loader.Dynamic
import Mathlib.Logic.Function.Basic

/-!
# Slots for tags

Every part of the loader that reads the dynamic table keeps a slot for each tag that it knows and
merges the entries of the tag into it. `fillSlot` is one turn of such a loop, with the slots as a
function of the tag. The loop comes through when no tag has two values, and leaves in each slot
the value of its tag; so what it makes of a table depends on which values which tags have, and
not on how often or in which order it says so.
-/

namespace Astraea.Loader

open Astraea.Base

/-- An entry of the tag has the value. -/
def HasValue (entries : List DynamicEntry) (tag : Int64) (value : UInt64) : Prop :=
  ∃ entry ∈ entries, entry.tag = tag ∧ entry.value = value

/-- The entries of the tag have one value. -/
def OneValue (entries : List DynamicEntry) (tag : Int64) : Prop :=
  ∀ value value', HasValue entries tag value → HasValue entries tag value' → value = value'

/-- The same tags have the same values. -/
def SayTheSame (entries entries' : List DynamicEntry) : Prop :=
  ∀ tag value, HasValue entries tag value ↔ HasValue entries' tag value

/-- One turn of the loop. -/
def fillSlot {ε : Type} (conflict : DynamicEntry → SingletonValue → ε) (known : List Int64)
    (slots : Int64 → Option SingletonValue) (entry : DynamicEntry) :
    Except ε (Int64 → Option SingletonValue) :=
  if entry.tag ∈ known then
    (mergeSingleton conflict (slots entry.tag) entry).map (Function.update slots entry.tag)
  else .ok slots

section Same

variable {entries entries' before after : List DynamicEntry} {repeated : DynamicEntry}

theorem SayTheSame.oneValue {tag : Int64} (h : SayTheSame entries entries') :
    OneValue entries tag ↔ OneValue entries' tag := by
  simp only [OneValue, h tag]

/-- An entry without its number. -/
def DynamicEntry.said (entry : DynamicEntry) : Int64 × UInt64 := (entry.tag, entry.value)

theorem hasValue_iff {tag : Int64} {value : UInt64} :
    HasValue entries tag value ↔ (tag, value) ∈ entries.map DynamicEntry.said := by
  simp only [HasValue, List.mem_map, DynamicEntry.said, Prod.mk.injEq]

/-- The order does not matter, and neither do the numbers. -/
theorem sayTheSame_of_perm
    (h : (entries.map DynamicEntry.said).Perm (entries'.map DynamicEntry.said)) :
    SayTheSame entries entries' := fun tag value => by
  rw [hasValue_iff, hasValue_iff, h.mem_iff]

theorem sayTheSame_repeated (hmem : repeated.said ∈ (before ++ after).map DynamicEntry.said) :
    SayTheSame (before ++ after) (before ++ repeated :: after) := fun tag value => by
  rw [hasValue_iff, hasValue_iff]
  simp only [List.map_append, List.map_cons, List.mem_append, List.mem_cons] at hmem ⊢
  constructor
  · rintro (h | h)
    · exact .inl h
    · exact .inr (.inr h)
  · rintro (h | h | h)
    · exact .inl h
    · rw [h]
      exact hmem
    · exact .inr h

end Same

section Fill

variable {ε : Type} {conflict : DynamicEntry → SingletonValue → ε} {known : List Int64}
  {slots slots' : Int64 → Option SingletonValue} {entries entries' rest : List DynamicEntry}
  {entry : DynamicEntry} {tag : Int64} {value : UInt64} {slot slot' : Option SingletonValue}

/-- A slot has the value that all entries of its tag have, and the place of one of them. -/
structure SlotHolds (tag : Int64) (entries : List DynamicEntry) (slot : Option SingletonValue) :
    Prop where
  value : ∀ entry ∈ entries, entry.tag = tag → ∃ found, slot = some found ∧
    found.value = entry.value
  source : ∀ found, slot = some found →
    ∃ entry ∈ entries, entry.tag = tag ∧ entry.value = found.value ∧
      entry.index = found.sourceEntryIndex

theorem slotHolds_nil : SlotHolds tag [] none :=
  ⟨fun _ hmem => absurd hmem List.not_mem_nil, fun _ h => nomatch h⟩

theorem SlotHolds.skip (h : SlotHolds tag entries slot) (hne : entry.tag ≠ tag) :
    SlotHolds tag (entries ++ [entry]) slot := by
  constructor
  · intro other hmem htag
    rcases List.mem_append.mp hmem with hmem | hmem
    · exact h.value other hmem htag
    · rw [List.mem_singleton.mp hmem] at htag
      exact absurd htag hne
  · intro found hfound
    obtain ⟨other, hmem, hother⟩ := h.source found hfound
    exact ⟨other, List.mem_append_left _ hmem, hother⟩

theorem SlotHolds.merge (h : SlotHolds tag entries slot) (htag : entry.tag = tag)
    (hmerge : mergeSingleton conflict slot entry = .ok slot') :
    SlotHolds tag (entries ++ [entry]) slot' := by
  cases slot with
  | none =>
    cases hmerge
    constructor
    · intro other hmem hother
      rcases List.mem_append.mp hmem with hmem | hmem
      · obtain ⟨found, hfound, -⟩ := h.value other hmem hother
        cases hfound
      · rw [List.mem_singleton.mp hmem]
        exact ⟨_, rfl, rfl⟩
    · intro found hfound
      cases hfound
      exact ⟨entry, List.mem_append_right _ (List.mem_singleton_self _), htag, rfl, rfl⟩
  | some found =>
    rw [mergeSingleton] at hmerge
    by_cases hvalue : found.value ≠ entry.value
    · rw [if_pos hvalue] at hmerge
      cases hmerge
    · rw [if_neg hvalue] at hmerge
      cases hmerge
      constructor
      · intro other hmem hother
        rcases List.mem_append.mp hmem with hmem | hmem
        · exact h.value other hmem hother
        · rw [List.mem_singleton.mp hmem]
          exact ⟨found, rfl, not_not.mp hvalue⟩
      · intro other hother
        obtain ⟨source, hmem, hsource⟩ := h.source other hother
        exact ⟨source, List.mem_append_left _ hmem, hsource⟩

/-- The slots of the known tags hold what the entries say, the others are empty. -/
structure SlotsHold (known : List Int64) (entries : List DynamicEntry)
    (slots : Int64 → Option SingletonValue) : Prop where
  holds : ∀ tag ∈ known, SlotHolds tag entries (slots tag)
  empty : ∀ tag, tag ∉ known → slots tag = none

theorem slotsHold_nil (known : List Int64) : SlotsHold known [] fun _ => none :=
  ⟨fun _ _ => slotHolds_nil, fun _ _ => rfl⟩

/-- A turn of a loop that keeps its slots in a state of its own. -/
theorem fillSlot_of_merge {σ : Type} {slotsOf : σ → Int64 → Option SingletonValue} {state : σ}
    {put : Option SingletonValue → σ} {slot : Option SingletonValue} (htag : entry.tag = tag)
    (hknown : tag ∈ known) (hslot : slotsOf state tag = slot)
    (hput : ∀ merged, slotsOf (put merged) = Function.update (slotsOf state) tag merged) :
    fillSlot conflict known (slotsOf state) entry =
      (mergeSingleton conflict slot entry >>= fun merged => pure (put merged)).map slotsOf := by
  subst htag hslot
  rw [fillSlot, if_pos hknown]
  cases mergeSingleton conflict (slotsOf state entry.tag) entry with
  | error e => rfl
  | ok merged => exact congrArg Except.ok (hput merged).symm

theorem fillSlot_of_not_mem (hknown : entry.tag ∉ known) :
    fillSlot conflict known slots entry = .ok slots :=
  if_neg hknown

/-- A loop that keeps its slots in a state of its own comes to the same slots. -/
theorem foldlM_fillSlot {σ : Type} {slotsOf : σ → Int64 → Option SingletonValue}
    {step : σ → DynamicEntry → Except ε σ}
    (hstep : ∀ state entry, fillSlot conflict known (slotsOf state) entry =
      (step state entry).map slotsOf) (state : σ) :
    entries.foldlM (fillSlot conflict known) (slotsOf state) =
      (entries.foldlM step state).map slotsOf := by
  induction entries generalizing state with
  | nil => rfl
  | cons entry entries ih =>
    rw [List.foldlM_cons, List.foldlM_cons, hstep]
    cases step state entry with
    | error e => rfl
    | ok next => exact ih next

theorem SlotsHold.step (h : SlotsHold known entries slots)
    (hstep : fillSlot conflict known slots entry = .ok slots') :
    SlotsHold known (entries ++ [entry]) slots' := by
  rw [fillSlot] at hstep
  split_ifs at hstep with hknown
  · obtain ⟨merged, hmerged, rfl⟩ := map_eq_ok.mp hstep
    refine ⟨fun tag htag => ?_, fun tag htag => ?_⟩
    · by_cases heq : entry.tag = tag
      · subst heq
        rw [Function.update_self]
        exact (h.holds _ htag).merge rfl hmerged
      · rw [Function.update_of_ne (Ne.symm heq)]
        exact (h.holds tag htag).skip heq
    · have hne : tag ≠ entry.tag := by
        rintro rfl
        exact htag hknown
      rw [Function.update_of_ne hne]
      exact h.empty tag htag
  · cases hstep
    exact ⟨fun tag htag => (h.holds tag htag).skip fun heq => hknown (by rw [heq]; exact htag),
      h.empty⟩

/-- **What the slots are** after the loop. -/
theorem SlotsHold.run (h : SlotsHold known entries slots)
    (hrun : rest.foldlM (fillSlot conflict known) slots = .ok slots') :
    SlotsHold known (entries ++ rest) slots' := by
  induction rest generalizing entries slots with
  | nil =>
    cases hrun
    rw [List.append_nil]
    exact h
  | cons entry rest ih =>
    rw [List.foldlM_cons, bind_eq_ok] at hrun
    obtain ⟨middle, hmiddle, hrun⟩ := hrun
    have hrest := ih (h.step hmiddle) hrun
    rw [List.append_assoc] at hrest
    exact hrest

theorem slotsHold_of_foldlM
    (hrun : entries.foldlM (fillSlot conflict known) (fun _ => none) = .ok slots) :
    SlotsHold known entries slots := by
  have hholds := (slotsHold_nil known).run hrun
  rw [List.nil_append] at hholds
  exact hholds

theorem SlotsHold.value_eq_some (h : SlotsHold known entries slots) (htag : tag ∈ known) :
    (slots tag).map SingletonValue.value = some value ↔ HasValue entries tag value := by
  rw [Option.map_eq_some_iff]
  constructor
  · rintro ⟨found, hfound, rfl⟩
    obtain ⟨entry, hmem, hentry, hvalue, -⟩ := (h.holds tag htag).source found hfound
    exact ⟨entry, hmem, hentry, hvalue⟩
  · rintro ⟨entry, hmem, hentry, rfl⟩
    exact (h.holds tag htag).value entry hmem hentry

/-- A turn fails only where its entry has another value than one before it. -/
theorem SlotsHold.exists_step (h : SlotsHold known entries slots)
    (hone : ∀ tag ∈ known, OneValue (entries ++ [entry]) tag) :
    ∃ slots', fillSlot conflict known slots entry = .ok slots' := by
  rw [fillSlot]
  split_ifs with hknown
  · cases hslot : slots entry.tag with
    | none => exact ⟨_, rfl⟩
    | some found =>
      obtain ⟨source, hmem, htag, hvalue, -⟩ := (h.holds _ hknown).source found hslot
      have hsame : found.value = entry.value :=
        hone _ hknown _ _ ⟨source, List.mem_append_left _ hmem, htag, hvalue⟩
        ⟨entry, List.mem_append_right _ (List.mem_singleton_self _), rfl, rfl⟩
      rw [mergeSingleton, if_neg (not_not.mpr hsame)]
      exact ⟨_, rfl⟩
  · exact ⟨slots, rfl⟩

theorem SlotsHold.exists_run (h : SlotsHold known entries slots)
    (hone : ∀ tag ∈ known, OneValue (entries ++ rest) tag) :
    ∃ slots', rest.foldlM (fillSlot conflict known) slots = .ok slots' := by
  induction rest generalizing entries slots with
  | nil => exact ⟨slots, rfl⟩
  | cons entry rest ih =>
    have hsub : ∀ tag ∈ known, OneValue (entries ++ [entry]) tag := by
      rintro tag htag value value' ⟨e, he, hevalue⟩ ⟨e', he', hevalue'⟩
      refine hone tag htag value value' ⟨e, ?_, hevalue⟩ ⟨e', ?_, hevalue'⟩
      · grind
      · grind
    have hstep : ∃ middle, fillSlot conflict known slots entry = .ok middle := h.exists_step hsub
    obtain ⟨middle, hmiddle⟩ := hstep
    obtain ⟨slots', hslots'⟩ := ih (h.step hmiddle) (by rwa [List.append_assoc])
    refine ⟨slots', ?_⟩
    rw [List.foldlM_cons, bind_eq_ok]
    exact ⟨middle, hmiddle, hslots'⟩

/-- **The loop comes through when no tag has two values.** -/
theorem exists_foldlM_fillSlot :
    (∃ slots, entries.foldlM (fillSlot conflict known) (fun _ => none) = .ok slots) ↔
    ∀ tag ∈ known, OneValue entries tag := by
  constructor
  · rintro ⟨slots, hslots⟩ tag htag value value' hvalue hvalue'
    have hholds := slotsHold_of_foldlM hslots
    have hfound := (hholds.value_eq_some htag).mpr hvalue
    rw [(hholds.value_eq_some htag).mpr hvalue'] at hfound
    exact (Option.some.inj hfound).symm
  · intro hone
    exact (slotsHold_nil known).exists_run (by rwa [List.nil_append])

/-- The slots of both have the same values. -/
def SameValues (slots slots' : Int64 → Option SingletonValue) : Prop :=
  ∀ tag, (slots tag).map SingletonValue.value = (slots' tag).map SingletonValue.value

/-- **Tables that say the same fill the slots alike.** -/
theorem SayTheSame.fillSlots (h : SayTheSame entries entries') :
    (∃ slots, entries.foldlM (fillSlot conflict known) (fun _ => none) = .ok slots ∧
      ∃ slots', entries'.foldlM (fillSlot conflict known) (fun _ => none) = .ok slots' ∧
        SameValues slots slots') ∨
    (∃ e, entries.foldlM (fillSlot conflict known) (fun _ => none) = .error e) ∧
      ∃ e, entries'.foldlM (fillSlot conflict known) (fun _ => none) = .error e := by
  have hboth : (∃ slots, entries.foldlM (fillSlot conflict known) (fun _ => none) = .ok slots) ↔
      ∃ slots, entries'.foldlM (fillSlot conflict known) (fun _ => none) = .ok slots := by
    rw [exists_foldlM_fillSlot, exists_foldlM_fillSlot]
    exact forall₂_congr fun tag _ => h.oneValue
  cases hrun : entries.foldlM (fillSlot conflict known) (fun _ => none) with
  | ok slots =>
    obtain ⟨slots', hrun'⟩ := hboth.mp ⟨slots, hrun⟩
    refine .inl ⟨slots, rfl, slots', hrun', fun tag => ?_⟩
    have hholds := slotsHold_of_foldlM hrun
    have hholds' := slotsHold_of_foldlM hrun'
    by_cases htag : tag ∈ known
    · ext value
      rw [hholds.value_eq_some htag, hholds'.value_eq_some htag, h tag value]
    · rw [hholds.empty tag htag, hholds'.empty tag htag]
  | error e =>
    refine .inr ⟨⟨e, rfl⟩, ?_⟩
    cases hrun' : entries'.foldlM (fillSlot conflict known) (fun _ => none) with
    | ok slots' =>
      obtain ⟨slots, hslots⟩ := hboth.mpr ⟨slots', hrun'⟩
      rw [hrun] at hslots
      cases hslots
    | error e' => exact ⟨e', rfl⟩

/-- **What is built from the slots alone** is the same from tables that say the same. -/
theorem SayTheSame.builds {σ α β : Type} {slotsOf : σ → Int64 → Option SingletonValue}
    {step : σ → DynamicEntry → Except ε σ} {start : σ} {build : σ → Except ε α} {part : α → β}
    (h : SayTheSame entries entries') (hstart : slotsOf start = fun _ => none)
    (hstep : ∀ state entry, fillSlot conflict known (slotsOf state) entry =
      (step state entry).map slotsOf)
    (hbuild : ∀ state state', SameValues (slotsOf state) (slotsOf state') →
      (build state).toOption.map part = (build state').toOption.map part) :
    (entries.foldlM step start >>= build).toOption.map part =
      (entries'.foldlM step start >>= build).toOption.map part := by
  have hrun := @foldlM_fillSlot ε conflict known entries σ slotsOf step hstep start
  have hrun' := @foldlM_fillSlot ε conflict known entries' σ slotsOf step hstep start
  rw [hstart] at hrun hrun'
  rcases @SayTheSame.fillSlots ε conflict known entries entries' h
    with ⟨slots, hslots, slots', hslots', hsame⟩ | ⟨⟨e, he⟩, e', he'⟩
  · rw [hrun, map_eq_ok] at hslots
    rw [hrun', map_eq_ok] at hslots'
    obtain ⟨state, hstate, rfl⟩ := hslots
    obtain ⟨state', hstate', rfl⟩ := hslots'
    rw [hstate, hstate']
    exact hbuild state state' hsame
  · rw [hrun, map_eq_error] at he
    rw [hrun', map_eq_error] at he'
    rw [he, he']
    rfl

end Fill

end Astraea.Loader
