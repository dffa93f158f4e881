import Astraea.Loader.DynamicSymbolTable

/-!
# Repeated tags

The entries of a dynamic table are numbered, and the numbers turn up in descriptors and errors.
When an entry is repeated with the same value the entries after it get other numbers, and that
is all that changes: `renumber` changes the numbers in whatever has them, and the symbol table
descriptor is built from a renumbered table as it was from the table itself.
-/

namespace Astraea.Loader

open Astraea.Base Astraea.Memory

/-! ### Numbers -/

section Numbers

variable (f : ℕ → ℕ)

/-- The entry, counted otherwise. -/
def DynamicEntry.renumber (entry : DynamicEntry) : DynamicEntry :=
  { entry with index := f entry.index }

/-- The table, with its entries counted otherwise. -/
def DynamicTable.renumber (table : DynamicTable) : DynamicTable :=
  ⟨table.entries.map (DynamicEntry.renumber f)⟩

/-- The value, with its entry counted otherwise. -/
def SingletonValue.renumber (found : SingletonValue) : SingletonValue :=
  { found with sourceEntryIndex := f found.sourceEntryIndex }

/-- The error, with its entry counted otherwise. -/
def SysvHashError.renumber (e : SysvHashError) : SysvHashError :=
  { e with
    sourceEntryIndex := e.sourceEntryIndex.map f,
    conflictingEntryIndex := e.conflictingEntryIndex.map f }

/-- The evidence, with its entry counted otherwise. -/
def SysvHashCountEvidence.renumber (evidence : SysvHashCountEvidence) : SysvHashCountEvidence :=
  { evidence with sourceEntryIndex := f evidence.sourceEntryIndex }

/-- The error, with its entry counted otherwise. -/
def GnuHashError.renumber (e : GnuHashError) : GnuHashError :=
  { e with
    sourceEntryIndex := e.sourceEntryIndex.map f,
    conflictingEntryIndex := e.conflictingEntryIndex.map f }

/-- The evidence, with its entry counted otherwise. -/
def GnuHashCountEvidence.renumber (evidence : GnuHashCountEvidence) : GnuHashCountEvidence :=
  { evidence with sourceEntryIndex := f evidence.sourceEntryIndex }

/-- The location, with its entry counted otherwise. -/
def HashLocation.renumber (location : HashLocation) : HashLocation :=
  { location with sourceEntryIndex := f location.sourceEntryIndex }

/-- The tags, with their entries counted otherwise. -/
def SymbolTags.renumber (tags : SymbolTags) : SymbolTags :=
  { tags with
    symtab := tags.symtab.map (SingletonValue.renumber f)
    syment := tags.syment.map (SingletonValue.renumber f)
    symtabsz := tags.symtabsz.map (SingletonValue.renumber f) }

/-- The error, with its entries counted otherwise. -/
def DynamicSymbolError.renumber (e : DynamicSymbolError) : DynamicSymbolError :=
  { e with
    sourceEntryIndex := e.sourceEntryIndex.map f
    conflictingEntryIndex := e.conflictingEntryIndex.map f
    sysvHashError := e.sysvHashError.map (SysvHashError.renumber f)
    gnuHashError := e.gnuHashError.map (GnuHashError.renumber f) }

/-- The descriptor, with its entries counted otherwise. -/
def DynamicSymbolTableDescriptor.renumber (descriptor : DynamicSymbolTableDescriptor) :
    DynamicSymbolTableDescriptor :=
  { descriptor with
    symtabSourceEntryIndex := f descriptor.symtabSourceEntryIndex
    symentSourceEntryIndex := f descriptor.symentSourceEntryIndex
    symtabszSourceEntryIndex := descriptor.symtabszSourceEntryIndex.map f
    hashSourceEntryIndex := descriptor.hashSourceEntryIndex.map f
    gnuHashSourceEntryIndex := descriptor.gnuHashSourceEntryIndex.map f }

end Numbers

variable {entry : DynamicEntry}

variable {repeated : DynamicEntry}

/-! ### Slots -/

section Slots

variable {ε : Type} {f : ℕ → ℕ} {φ : ε → ε} {conflict : DynamicEntry → SingletonValue → ε}
  {tag : Int64}

section

variable
  (hconflict : ∀ entry found,
    conflict (entry.renumber f) (found.renumber f) = φ (conflict entry found))

include hconflict

theorem mergeSingleton_renumber (slot : Option SingletonValue) (entry : DynamicEntry) :
    mergeSingleton conflict (slot.map (SingletonValue.renumber f)) (entry.renumber f) =
      relabel φ (Option.map (SingletonValue.renumber f)) (mergeSingleton conflict slot entry) := by
  cases slot with
  | none => rfl
  | some found =>
    rw [Option.map_some, mergeSingleton, mergeSingleton]
    by_cases hvalue : found.value ≠ entry.value
    · rw [if_pos hvalue,
        if_pos (show (found.renumber f).value ≠ (entry.renumber f).value from hvalue), hconflict]
      rfl
    · rw [if_neg hvalue,
        if_neg (show ¬ (found.renumber f).value ≠ (entry.renumber f).value from hvalue)]
      rfl

theorem findTag_renumber (table : DynamicTable) :
    findTag tag conflict (table.renumber f) =
      relabel φ (Option.map (SingletonValue.renumber f)) (findTag tag conflict table) := by
  refine @foldlM_relabel ε ε (Option SingletonValue) (Option SingletonValue) φ
    (Option.map (SingletonValue.renumber f))
    DynamicEntry DynamicEntry _ _ (DynamicEntry.renumber f) ?_ table.entries none
  intro slot entry
  by_cases htag : entry.tag ≠ tag
  · rw [if_pos htag, if_pos (show (entry.renumber f).tag ≠ tag from htag)]
    rfl
  · rw [if_neg htag, if_neg (show ¬ (entry.renumber f).tag ≠ tag from htag)]
    exact mergeSingleton_renumber hconflict slot entry

end

/-- What the first entry of a tag has established: its value is in the slot. -/
def SlotSeen (tag : Int64) (entry : DynamicEntry) (slot : Option SingletonValue) : Prop :=
  entry.tag = tag → ∃ found, slot = some found ∧ found.value = entry.value

theorem SlotSeen.of_merge {slot slot' : Option SingletonValue}
    (h : mergeSingleton conflict slot entry = .ok slot') :
    ∃ found, slot' = some found ∧ found.value = entry.value := by
  cases slot with
  | none =>
    cases h
    exact ⟨_, rfl, rfl⟩
  | some found =>
    rw [mergeSingleton] at h
    by_cases hvalue : found.value ≠ entry.value
    · rw [if_pos hvalue] at h
      cases h
    · rw [if_neg hvalue] at h
      cases h
      exact ⟨found, rfl, not_not.mp hvalue⟩

variable {found : SingletonValue}

theorem eq_of_mergeSingleton {slot' : Option SingletonValue}
    (h : mergeSingleton conflict (some found) entry = .ok slot') :
    slot' = some found := by
  rw [mergeSingleton] at h
  split_ifs at h
  cases h
  rfl

theorem mergeSingleton_same (h : found.value = entry.value) :
    mergeSingleton conflict (some found) entry = .ok (some found) :=
  if_neg (not_not.mpr h)

/-- **A repeated entry does not change what is found of a tag.** -/
theorem findTag_repeated {before after : List DynamicEntry} (hmem : entry ∈ before)
    (htag : repeated.tag = entry.tag) (hvalue : repeated.value = entry.value) :
    findTag tag conflict ⟨before ++ repeated :: after⟩ =
      findTag tag conflict ⟨before ++ after⟩ := by
  refine @foldlM_repeated ε _ DynamicEntry _
    (SlotSeen tag entry) entry repeated ?_ ?_ ?_ before after hmem none
  · intro slot slot' hstep hentry
    rw [if_neg (not_not.mpr hentry)] at hstep
    exact SlotSeen.of_merge hstep
  · intro slot slot' other hseen hstep hentry
    obtain ⟨found, rfl, hfound⟩ := hseen hentry
    by_cases hother : other.tag ≠ tag
    · rw [if_pos hother] at hstep
      cases hstep
      exact ⟨found, rfl, hfound⟩
    · rw [if_neg hother] at hstep
      exact ⟨found, eq_of_mergeSingleton hstep, hfound⟩
  · intro slot hseen
    by_cases hentry : entry.tag = tag
    · obtain ⟨found, rfl, hfound⟩ := hseen hentry
      rw [if_neg (not_not.mpr (htag.trans hentry))]
      exact mergeSingleton_same (hfound.trans hvalue.symm)
    · rw [if_pos fun h => hentry (htag.symm.trans h)]

end Slots

/-! ### Evidence -/

section Evidence

variable {f : ℕ → ℕ} {view : InitializedImageView} {location : HashLocation}

theorem buildSysvHashCountEvidence_renumber (table : DynamicTable) (view : InitializedImageView) :
    buildSysvHashCountEvidence (table.renumber f) view =
      relabel (SysvHashError.renumber f) (Option.map (SysvHashCountEvidence.renumber f))
        (buildSysvHashCountEvidence table view) := by
  rw [buildSysvHashCountEvidence, buildSysvHashCountEvidence]
  refine bind_relabel (findTag_renumber (by intro _ _; rfl) table) ?_
  intro found
  cases found with
  | none => rfl
  | some found =>
    refine bind_relabel (mapError_relabel_same fun _ => rfl) ?_
    intro range
    refine bind_relabel (mapError_relabel_same fun _ => rfl) ?_
    intro header
    refine bind_relabel (refuseIf_relabel rfl) ?_
    intro _
    rfl

theorem readWord_renumber (offset : ℕ) :
    readWord view (location.renumber f) offset =
      relabel (GnuHashError.renumber f) (fun word => word) (readWord view location offset) := by
  rw [readWord, readWord]
  refine bind_relabel (mapError_relabel_same fun _ => rfl) ?_
  intro address
  refine bind_relabel (mapError_relabel_same fun _ => rfl) ?_
  intro range
  refine bind_relabel (mapError_relabel_same fun _ => rfl) ?_
  intro bytes
  rfl

theorem chainEnd_renumber {chainsOffset symoffset : ℕ} (remaining index : ℕ) :
    chainEnd view (location.renumber f) chainsOffset symoffset remaining index =
      relabel (GnuHashError.renumber f) (fun count => count)
        (chainEnd view location chainsOffset symoffset remaining index) := by
  induction remaining generalizing index with
  | zero => rfl
  | succ remaining ih =>
    rw [chainEnd, chainEnd]
    refine bind_relabel (readWord_renumber _) ?_
    intro chain
    by_cases hlow : chain &&& 1 ≠ 0
    · rw [if_pos hlow, if_pos hlow]
      rfl
    · rw [if_neg hlow, if_neg hlow]
      exact ih _

theorem checkBucket_renumber {bucketsOffset : ℕ} {symoffset : UInt32} (highest : UInt32) (i : ℕ) :
    checkBucket view (location.renumber f) bucketsOffset symoffset highest i =
      relabel (GnuHashError.renumber f) (fun bucket => bucket)
        (checkBucket view location bucketsOffset symoffset highest i) := by
  rw [checkBucket, checkBucket]
  refine bind_relabel (readWord_renumber _) ?_
  intro bucket
  refine bind_relabel (refuseIf_relabel rfl) ?_
  intro _
  rfl

theorem buildGnuHashCountEvidence_renumber (table : DynamicTable) (view : InitializedImageView) :
    buildGnuHashCountEvidence (table.renumber f) view =
      relabel (GnuHashError.renumber f) (Option.map (GnuHashCountEvidence.renumber f))
        (buildGnuHashCountEvidence table view) := by
  rw [buildGnuHashCountEvidence, buildGnuHashCountEvidence]
  refine bind_relabel (findTag_renumber (by intro _ _; rfl) table) ?_
  intro found
  cases found with
  | none => rfl
  | some found =>
    refine bind_relabel (@readWord_renumber f view ⟨⟨found.value⟩, found.sourceEntryIndex⟩ 0) ?_
    intro nbuckets
    refine bind_relabel (@readWord_renumber f view ⟨⟨found.value⟩, found.sourceEntryIndex⟩ 4) ?_
    intro symoffset
    refine bind_relabel (@readWord_renumber f view ⟨⟨found.value⟩, found.sourceEntryIndex⟩ 8) ?_
    intro bloomWords
    refine bind_relabel (@readWord_renumber f view ⟨⟨found.value⟩, found.sourceEntryIndex⟩ 12) ?_
    intro _
    refine bind_relabel (refuseIf_relabel rfl) ?_
    intro _
    refine bind_relabel (@foldlM_relabel_same _ _ UInt32 UInt32 (GnuHashError.renumber f)
      (fun highest => highest) ℕ _ _
      (@checkBucket_renumber f view ⟨⟨found.value⟩, found.sourceEntryIndex⟩
      (16 + 8 * bloomWords.toNat) symoffset) (List.range nbuckets.toNat) 0) ?_
    intro highest
    dsimp only
    by_cases hempty : highest ≠ 0
    · rw [if_pos hempty, if_pos hempty]
      refine bind_relabel
        (@chainEnd_renumber f view ⟨⟨found.value⟩, found.sourceEntryIndex⟩ _ _ _ _) ?_
      intro count
      rfl
    · rw [if_neg hempty, if_neg hempty]
      rfl

end Evidence

/-! ### The loop over the tags -/

section Tags

variable {f : ℕ → ℕ}

theorem symbolConflict_renumber (entry : DynamicEntry) (found : SingletonValue) :
    symbolConflict (entry.renumber f) (found.renumber f) =
      (symbolConflict entry found).renumber f := rfl

theorem collectSymbolTag_renumber (tags : SymbolTags) (entry : DynamicEntry) :
    collectSymbolTag (tags.renumber f) (entry.renumber f) =
      relabel (DynamicSymbolError.renumber f) (SymbolTags.renumber f)
        (collectSymbolTag tags entry) := by
  have hmerge := fun slot => mergeSingleton_renumber (f := f) symbolConflict_renumber slot entry
  rw [collectSymbolTag, collectSymbolTag]
  have htag : (entry.renumber f).tag = entry.tag := rfl
  rw [htag]
  by_cases hsymtab : entry.tag = kDtSymtab
  · rw [if_pos hsymtab, if_pos hsymtab]
    exact bind_relabel (hmerge tags.symtab) fun _ => rfl
  rw [if_neg hsymtab, if_neg hsymtab]
  by_cases hsyment : entry.tag = kDtSyment
  · rw [if_pos hsyment, if_pos hsyment]
    exact bind_relabel (hmerge tags.syment) fun _ => rfl
  rw [if_neg hsyment, if_neg hsyment]
  by_cases hsymtabsz : entry.tag = kDtSymtabsz
  · rw [if_pos hsymtabsz, if_pos hsymtabsz]
    exact bind_relabel (hmerge tags.symtabsz) fun _ => rfl
  rw [if_neg hsymtabsz, if_neg hsymtabsz]
  split_ifs <;> rfl

/-- What an entry has established: its value is in the slot of its tag, or the hash table is noted.
-/
structure TagSeen (entry : DynamicEntry) (tags : SymbolTags) : Prop where
  symtab : SlotSeen kDtSymtab entry tags.symtab
  syment : SlotSeen kDtSyment entry tags.syment
  symtabsz : SlotSeen kDtSymtabsz entry tags.symtabsz
  hash : entry.tag = kDtHash → tags.hasHash = true
  gnuHash : entry.tag = kDtGnuHash → tags.hasGnuHash = true

/-- What one entry does: it fills the slot of its tag, or notes the hash table, and leaves the rest.
-/
theorem collectSymbolTag_cases {tags tags' : SymbolTags}
    (h : collectSymbolTag tags entry = .ok tags') :
    (entry.tag = kDtSymtab ∧ ∃ slot, mergeSingleton symbolConflict tags.symtab entry = .ok slot ∧
      tags' = { tags with symtab := slot }) ∨
    (entry.tag = kDtSyment ∧ ∃ slot, mergeSingleton symbolConflict tags.syment entry = .ok slot ∧
      tags' = { tags with syment := slot }) ∨
    (entry.tag = kDtSymtabsz ∧ ∃ slot, mergeSingleton symbolConflict tags.symtabsz entry =
      .ok slot ∧ tags' = { tags with symtabsz := slot }) ∨
    (entry.tag = kDtHash ∧ tags' = { tags with hasHash := true }) ∨
    (entry.tag = kDtGnuHash ∧ tags' = { tags with hasGnuHash := true }) ∨
    (entry.tag ≠ kDtSymtab ∧ entry.tag ≠ kDtSyment ∧ entry.tag ≠ kDtSymtabsz ∧ entry.tag ≠ kDtHash ∧
      entry.tag ≠ kDtGnuHash ∧ tags' = tags) := by
  rw [collectSymbolTag] at h
  by_cases hsymtab : entry.tag = kDtSymtab
  · rw [if_pos hsymtab, bind_eq_ok] at h
    obtain ⟨slot, hslot, h⟩ := h
    cases h
    exact .inl ⟨hsymtab, slot, hslot, rfl⟩
  rw [if_neg hsymtab] at h
  by_cases hsyment : entry.tag = kDtSyment
  · rw [if_pos hsyment, bind_eq_ok] at h
    obtain ⟨slot, hslot, h⟩ := h
    cases h
    exact .inr (.inl ⟨hsyment, slot, hslot, rfl⟩)
  rw [if_neg hsyment] at h
  by_cases hsymtabsz : entry.tag = kDtSymtabsz
  · rw [if_pos hsymtabsz, bind_eq_ok] at h
    obtain ⟨slot, hslot, h⟩ := h
    cases h
    exact .inr (.inr (.inl ⟨hsymtabsz, slot, hslot, rfl⟩))
  rw [if_neg hsymtabsz] at h
  by_cases hhash : entry.tag = kDtHash
  · rw [if_pos hhash] at h
    cases h
    exact .inr (.inr (.inr (.inl ⟨hhash, rfl⟩)))
  rw [if_neg hhash] at h
  by_cases hgnu : entry.tag = kDtGnuHash
  · rw [if_pos hgnu] at h
    cases h
    exact .inr (.inr (.inr (.inr (.inl ⟨hgnu, rfl⟩))))
  rw [if_neg hgnu] at h
  cases h
  exact .inr (.inr (.inr (.inr (.inr ⟨hsymtab, hsyment, hsymtabsz, hhash, hgnu, rfl⟩))))

theorem slotSeen_of_ne {tag : Int64} {slot : Option SingletonValue} (h : entry.tag ≠ tag) :
    SlotSeen tag entry slot :=
  fun hentry => absurd hentry h

theorem TagSeen.of_step {tags tags' : SymbolTags} (h : collectSymbolTag tags entry = .ok tags') :
    TagSeen entry tags' := by
  rcases collectSymbolTag_cases h
    with ⟨htag, slot, hslot, rfl⟩ | ⟨htag, slot, hslot, rfl⟩ | ⟨htag, slot, hslot, rfl⟩ |
    ⟨htag, rfl⟩ | ⟨htag, rfl⟩ | ⟨hsymtab, hsyment, hsymtabsz, hhash, hgnu, rfl⟩
  · have hother : ∀ {tag}, kDtSymtab ≠ tag → entry.tag ≠ tag := fun h => ne_of_eq_of_ne htag h
    exact ⟨fun _ => SlotSeen.of_merge hslot, slotSeen_of_ne (hother (by decide)),
      slotSeen_of_ne (hother (by decide)), fun h => absurd h (hother (by decide)),
      fun h => absurd h (hother (by decide))⟩
  · have hother : ∀ {tag}, kDtSyment ≠ tag → entry.tag ≠ tag := fun h => ne_of_eq_of_ne htag h
    exact ⟨slotSeen_of_ne (hother (by decide)),
      fun _ => SlotSeen.of_merge hslot, slotSeen_of_ne (hother (by decide)),
      fun h => absurd h (hother (by decide)), fun h => absurd h (hother (by decide))⟩
  · have hother : ∀ {tag}, kDtSymtabsz ≠ tag → entry.tag ≠ tag := fun h => ne_of_eq_of_ne htag h
    exact ⟨slotSeen_of_ne (hother (by decide)), slotSeen_of_ne (hother (by decide)),
      fun _ => SlotSeen.of_merge hslot, fun h => absurd h (hother (by decide)),
      fun h => absurd h (hother (by decide))⟩
  · have hother : ∀ {tag}, kDtHash ≠ tag → entry.tag ≠ tag := fun h => ne_of_eq_of_ne htag h
    exact ⟨slotSeen_of_ne (hother (by decide)), slotSeen_of_ne (hother (by decide)),
      slotSeen_of_ne (hother (by decide)), fun _ => rfl, fun h => absurd h (hother (by decide))⟩
  · have hother : ∀ {tag}, kDtGnuHash ≠ tag → entry.tag ≠ tag := fun h => ne_of_eq_of_ne htag h
    exact ⟨slotSeen_of_ne (hother (by decide)), slotSeen_of_ne (hother (by decide)),
      slotSeen_of_ne (hother (by decide)), fun h => absurd h (hother (by decide)), fun _ => rfl⟩
  · exact ⟨slotSeen_of_ne hsymtab, slotSeen_of_ne hsyment, slotSeen_of_ne hsymtabsz,
      fun h => absurd h hhash, fun h => absurd h hgnu⟩

variable {other : DynamicEntry}

theorem SlotSeen.stays {ε : Type} {conflict : DynamicEntry → SingletonValue → ε} {tag : Int64}
    {slot slot' : Option SingletonValue} (h : SlotSeen tag entry slot)
    (hmerge : mergeSingleton conflict slot other = .ok slot') : SlotSeen tag entry slot' := by
  intro htag
  obtain ⟨found, rfl, hfound⟩ := h htag
  exact ⟨found, eq_of_mergeSingleton hmerge, hfound⟩

theorem TagSeen.stays {tags tags' : SymbolTags} (h : TagSeen entry tags)
    (hstep : collectSymbolTag tags other = .ok tags') :
    TagSeen entry tags' := by
  rcases collectSymbolTag_cases hstep
    with ⟨-, slot, hslot, rfl⟩ | ⟨-, slot, hslot, rfl⟩ | ⟨-, slot, hslot, rfl⟩ |
    ⟨-, rfl⟩ | ⟨-, rfl⟩ | ⟨-, -, -, -, -, rfl⟩
  · exact ⟨h.symtab.stays hslot, h.syment, h.symtabsz, h.hash, h.gnuHash⟩
  · exact ⟨h.symtab, h.syment.stays hslot, h.symtabsz, h.hash, h.gnuHash⟩
  · exact ⟨h.symtab, h.syment, h.symtabsz.stays hslot, h.hash, h.gnuHash⟩
  · exact ⟨h.symtab, h.syment, h.symtabsz, fun _ => rfl, h.gnuHash⟩
  · exact ⟨h.symtab, h.syment, h.symtabsz, h.hash, fun _ => rfl⟩
  · exact h

/-- An entry whose value has been established changes nothing. -/
theorem TagSeen.idle {tags : SymbolTags} (h : TagSeen entry tags) (htag : repeated.tag = entry.tag)
    (hvalue : repeated.value = entry.value) :
    collectSymbolTag tags repeated = .ok tags := by
  have hmerge : ∀ {tag : Int64} {slot : Option SingletonValue}, SlotSeen tag entry slot →
    repeated.tag = tag →
      mergeSingleton symbolConflict slot repeated = .ok slot := by
    intro tag slot hseen hrepeated
    obtain ⟨found, rfl, hfound⟩ := hseen (htag.symm.trans hrepeated)
    exact mergeSingleton_same (hfound.trans hvalue.symm)
  rw [collectSymbolTag]
  by_cases hsymtab : repeated.tag = kDtSymtab
  · rw [if_pos hsymtab, hmerge h.symtab hsymtab, ok_bind]
    rfl
  rw [if_neg hsymtab]
  by_cases hsyment : repeated.tag = kDtSyment
  · rw [if_pos hsyment, hmerge h.syment hsyment, ok_bind]
    rfl
  rw [if_neg hsyment]
  by_cases hsymtabsz : repeated.tag = kDtSymtabsz
  · rw [if_pos hsymtabsz, hmerge h.symtabsz hsymtabsz, ok_bind]
    rfl
  rw [if_neg hsymtabsz]
  by_cases hhash : repeated.tag = kDtHash
  · have hnoted := h.hash (htag.symm.trans hhash)
    rw [if_pos hhash, ← hnoted]
  rw [if_neg hhash]
  by_cases hgnu : repeated.tag = kDtGnuHash
  · have hnoted := h.gnuHash (htag.symm.trans hgnu)
    rw [if_pos hgnu, ← hnoted]
  rw [if_neg hgnu]

end Tags

/-! ### The descriptor -/

section Descriptor

variable {f : ℕ → ℕ} {view : InitializedImageView} {tags : SymbolTags}
  {symtab syment : SingletonValue} {declared : Option UInt64} {sysv : Option SysvHashCountEvidence}
  {gnu : Option GnuHashCountEvidence}

theorem declaredCount_renumber (tags : SymbolTags) :
    declaredCount (tags.renumber f) =
      relabel (DynamicSymbolError.renumber f) (fun count => count) (declaredCount tags) := by
  rw [declaredCount, declaredCount]
  cases hslot : tags.symtabsz with
  | none =>
    rw [show (tags.renumber f).symtabsz = none by rw [SymbolTags.renumber, hslot, Option.map_none]]
    rfl
  | some symtabsz =>
    rw [show (tags.renumber f).symtabsz = some (symtabsz.renumber f) by
      rw [SymbolTags.renumber, hslot, Option.map_some]]
    refine map_relabel ?_ fun _ => rfl
    rw [symtabszCount, symtabszCount]
    refine bind_relabel (refuseIf_relabel rfl) fun _ => ?_
    exact bind_relabel (refuseIf_relabel rfl) fun _ => rfl

theorem agreedCount_renumber {counts : SymbolCounts} {symtabszIndex hashIndex gnuIndex : Option ℕ} :
    agreedCount counts (symtab.renumber f) (symtabszIndex.map f) (hashIndex.map f)
      (gnuIndex.map f) =
      relabel (DynamicSymbolError.renumber f) (fun count => count)
        (agreedCount counts symtab symtabszIndex hashIndex gnuIndex) := by
  rw [agreedCount, agreedCount]
  refine bind_relabel (orRefuse_relabel rfl) fun count => ?_
  refine bind_relabel (refuseIf_relabel rfl) fun _ => ?_
  refine bind_relabel (refuseIf_relabel ?_) fun _ => ?_
  · rw [DynamicSymbolError.renumber]
    split_ifs <;> rfl
  refine bind_relabel (refuseIf_relabel rfl) fun _ => ?_
  exact bind_relabel (refuseIf_relabel rfl) fun _ => rfl

theorem readSymbol_renumber (descriptor : DynamicSymbolTableDescriptor) (index : UInt64)
    (enforceBounds : Bool) :
    readSymbol (descriptor.renumber f) index view enforceBounds =
      relabel (DynamicSymbolError.renumber f) (fun symbol => symbol)
        (readSymbol descriptor index view enforceBounds) := by
  rw [readSymbol, readSymbol]
  refine bind_relabel (refuseIf_relabel rfl) fun _ => ?_
  refine bind_relabel (refuseIf_relabel rfl) fun _ => ?_
  refine bind_relabel (mapError_relabel_same fun _ => rfl) fun address => ?_
  refine bind_relabel (mapError_relabel_same fun _ => rfl) fun range => ?_
  exact bind_relabel (mapError_relabel_same fun _ => rfl) fun bytes => rfl

theorem readWholeTable_renumber {base : GuestAddress} {byteSize symtabIndex : ℕ} (offset : ℕ) :
    readWholeTable view base byteSize (f symtabIndex) offset =
      relabel (DynamicSymbolError.renumber f) (fun u => u)
        (readWholeTable view base byteSize symtabIndex offset) := by
  induction hremaining : byteSize - offset using Nat.strong_induction_on generalizing offset with
  | _ remaining ih =>
    rw [readWholeTable, readWholeTable]
    by_cases hdone : byteSize ≤ offset
    · rw [if_pos hdone, if_pos hdone]
      rfl
    · rw [if_neg hdone, if_neg hdone]
      refine bind_relabel (mapError_relabel_same fun _ => rfl) fun address => ?_
      refine bind_relabel (mapError_relabel_same fun _ => rfl) fun range => ?_
      exact bind_relabel (mapError_relabel_same fun _ => rfl) fun _ => ih _ (by omega) _ rfl

theorem descriptorOf_renumber (count : UInt64) (range : GuestRange) :
    descriptorOf (tags.renumber f) (symtab.renumber f) (syment.renumber f) declared
        (sysv.map (SysvHashCountEvidence.renumber f))
          (gnu.map (GnuHashCountEvidence.renumber f)) count range =
      (descriptorOf tags symtab syment declared sysv gnu count range).renumber f := by
  obtain ⟨symtabSlot, symentSlot, symtabsz, hasHash, hasGnuHash⟩ := tags
  cases symtabsz <;> cases sysv <;> cases gnu <;> rfl

theorem describeCounted_renumber :
    describeCounted view (tags.renumber f) (symtab.renumber f) (syment.renumber f) declared
        (sysv.map (SysvHashCountEvidence.renumber f)) (gnu.map (GnuHashCountEvidence.renumber f)) =
      relabel (DynamicSymbolError.renumber f) (DynamicSymbolTableDescriptor.renumber f)
        (describeCounted view tags symtab syment declared sysv gnu) := by
  have hcounts : ∀ slot : Option SingletonValue,
    (slot.map (SingletonValue.renumber f)).map SingletonValue.sourceEntryIndex =
      (slot.map SingletonValue.sourceEntryIndex).map f := by
    intro slot
    cases slot <;> rfl
  have hsysv : (sysv.map (SysvHashCountEvidence.renumber f)).map
    (fun evidence => evidence.symbolCount.toUInt64) =
      sysv.map fun evidence => evidence.symbolCount.toUInt64 := by
    cases sysv <;> rfl
  have hsysvIndex :
    (sysv.map (SysvHashCountEvidence.renumber f)).map SysvHashCountEvidence.sourceEntryIndex =
      (sysv.map SysvHashCountEvidence.sourceEntryIndex).map f := by
    cases sysv <;> rfl
  have hgnu : (gnu.map (GnuHashCountEvidence.renumber f)).map GnuHashCountEvidence.symbolCount =
      gnu.map GnuHashCountEvidence.symbolCount := by
    cases gnu <;> rfl
  have hgnuIndex :
    (gnu.map (GnuHashCountEvidence.renumber f)).map GnuHashCountEvidence.sourceEntryIndex =
      (gnu.map GnuHashCountEvidence.sourceEntryIndex).map f := by
    cases gnu <;> rfl
  have hpresent : (gnu.map (GnuHashCountEvidence.renumber f)).isSome = gnu.isSome := by
    cases gnu <;> rfl
  have htags : (tags.renumber f).symtabsz = tags.symtabsz.map (SingletonValue.renumber f) := rfl
  rw [describeCounted, describeCounted, hsysv, hgnu, hsysvIndex, hgnuIndex, hpresent, htags,
    hcounts]
  refine bind_relabel agreedCount_renumber fun count => ?_
  refine bind_relabel (mapError_relabel_same fun _ => rfl) fun range => ?_
  rw [descriptorOf_renumber]
  refine bind_relabel (readSymbol_renumber _ _ _) fun zero => ?_
  refine bind_relabel (refuseIf_relabel rfl) fun _ => ?_
  exact bind_relabel (whenever_relabel (readWholeTable_renumber 0)) fun _ => rfl

theorem describeSymbolTable_renumber (table : DynamicTable) :
    describeSymbolTable (table.renumber f) view (tags.renumber f) (symtab.renumber f)
      (syment.renumber f) =
      relabel (DynamicSymbolError.renumber f) (DynamicSymbolTableDescriptor.renumber f)
        (describeSymbolTable table view tags symtab syment) := by
  rw [describeSymbolTable, describeSymbolTable]
  refine bind_relabel (refuseIf_relabel rfl) fun _ => ?_
  refine bind_relabel (declaredCount_renumber tags) fun declared => ?_
  refine bind_relabel (mapError_relabel (buildSysvHashCountEvidence_renumber table view) fun _ =>
    rfl) fun sysv => ?_
  refine bind_relabel (mapError_relabel (buildGnuHashCountEvidence_renumber table view) fun _ =>
    rfl) fun gnu => ?_
  exact describeCounted_renumber

/-- **Renumbering the entries renumbers the descriptor**, or the error. -/
theorem buildDynamicSymbolTableDescriptor_renumber (table : DynamicTable)
    (view : InitializedImageView) :
    buildDynamicSymbolTableDescriptor (table.renumber f) view =
      relabel (DynamicSymbolError.renumber f) (Option.map (DynamicSymbolTableDescriptor.renumber f))
        (buildDynamicSymbolTableDescriptor table view) := by
  rw [buildDynamicSymbolTableDescriptor, buildDynamicSymbolTableDescriptor]
  refine bind_relabel (foldlM_relabel collectSymbolTag_renumber table.entries {}) fun tags => ?_
  obtain ⟨symtab, syment, symtabsz, hasHash, hasGnuHash⟩ := tags
  cases symtab with
  | none =>
    cases syment <;> cases symtabsz <;> cases hasHash <;> cases hasGnuHash <;> rfl
  | some symtab =>
    cases syment with
    | none => rfl
    | some syment => exact map_relabel (describeSymbolTable_renumber table) fun _ => rfl

/-- **A repeated entry changes nothing.** -/
theorem buildDynamicSymbolTableDescriptor_repeated {before after : List DynamicEntry}
    (hmem : entry ∈ before) (htag : repeated.tag = entry.tag)
    (hvalue : repeated.value = entry.value) :
    buildDynamicSymbolTableDescriptor ⟨before ++ repeated :: after⟩ view =
      buildDynamicSymbolTableDescriptor ⟨before ++ after⟩ view := by
  have htags : (before ++ repeated :: after).foldlM collectSymbolTag {} =
      (before ++ after).foldlM collectSymbolTag {} :=
    foldlM_repeated TagSeen.of_step TagSeen.stays (fun h => h.idle htag hvalue) hmem {}
  have hsysv : buildSysvHashCountEvidence ⟨before ++ repeated :: after⟩ view =
      buildSysvHashCountEvidence ⟨before ++ after⟩ view := by
    rw [buildSysvHashCountEvidence, buildSysvHashCountEvidence, findTag_repeated hmem htag hvalue]
  have hgnu : buildGnuHashCountEvidence ⟨before ++ repeated :: after⟩ view =
      buildGnuHashCountEvidence ⟨before ++ after⟩ view := by
    rw [buildGnuHashCountEvidence, buildGnuHashCountEvidence, findTag_repeated hmem htag hvalue]
  have hdescribe : ∀ tags symtab syment,
    describeSymbolTable ⟨before ++ repeated :: after⟩ view tags symtab syment =
      describeSymbolTable ⟨before ++ after⟩ view tags symtab syment := by
    intro tags symtab syment
    rw [describeSymbolTable, describeSymbolTable, hsysv, hgnu]
  rw [buildDynamicSymbolTableDescriptor, buildDynamicSymbolTableDescriptor, htags]
  simp only [hdescribe]

end Descriptor

/-- **Symbol table descriptors are sound**, no chunk of the final read is beyond the address space,
and a tag entry that is repeated with the same value changes nothing but the numbers of the entries.
-/
theorem dynamicSymbolTable_sound (table : DynamicTable) (view : InitializedImageView) :
    (∀ descriptor, buildDynamicSymbolTableDescriptor table view = .ok (some descriptor) →
      DescriptorSound table view descriptor) ∧
    (∀ (range : GuestRange) symtabIndex offset error,
      readWholeTable view range.base range.size.toNat symtabIndex offset = .error error →
        error.code = .symbolEntryUnreadable) ∧
    (∀ error, buildDynamicSymbolTableDescriptor table view = .error error →
      error.code = .symbolTableRangeOverflow → error.symbolIndex = none) ∧
    (∀ (before after : List DynamicEntry) (entry repeated : DynamicEntry) (f : ℕ → ℕ),
      table.entries = before ++ after → entry ∈ before → repeated.tag = entry.tag →
    repeated.value = entry.value →
    buildDynamicSymbolTableDescriptor
      ⟨before.map (DynamicEntry.renumber f) ++ repeated :: after.map (DynamicEntry.renumber f)⟩
      view = relabel (DynamicSymbolError.renumber f)
      (Option.map (DynamicSymbolTableDescriptor.renumber f))
      (buildDynamicSymbolTableDescriptor table view)) := by
  refine ⟨fun _ h => descriptorSound_of_build h, fun _ _ _ _ h => readWholeTable_eq_error h,
    fun _ h hcode => symbolIndex_of_build h hcode, ?_⟩
  intro before after entry repeated f hentries hmem htag hvalue
  have hrenumbered : DynamicTable.mk
    (before.map (DynamicEntry.renumber f) ++ after.map (DynamicEntry.renumber f)) =
      table.renumber f := by
    rw [DynamicTable.renumber, hentries, List.map_append]
  have hmem' : entry.renumber f ∈ before.map (DynamicEntry.renumber f) := List.mem_map_of_mem hmem
  rw [buildDynamicSymbolTableDescriptor_repeated hmem' htag hvalue, hrenumbered,
    buildDynamicSymbolTableDescriptor_renumber]

end Astraea.Loader
