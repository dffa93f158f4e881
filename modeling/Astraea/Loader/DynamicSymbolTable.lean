import Astraea.Loader.DynamicSymbols
import Astraea.Loader.GnuHashChains
import Astraea.Loader.TagSlots

/-!
# What a symbol table descriptor promises

A descriptor says where the symbols are and how many there are. `DescriptorSound` is what can be
relied on: the counts agree, the table does not pass the end of the address space, the first
symbol is the reserved one, and every symbol that is counted can be asked for. The tags come
from a table in which entries may be repeated; a repetition does not change anything.
-/

namespace Astraea.Loader

open Astraea.Base Astraea.Memory

/-- `parse_dynamic_symbol`. -/
def parseDynamicSymbol (descriptor : DynamicSymbolTableDescriptor) (index : UInt64)
    (view : InitializedImageView) :
    Except DynamicSymbolError DynamicSymbol :=
  readSymbol descriptor index view true

/-- The symbol whose record is `bytes`. -/
def symbolOf (index : UInt64) (bytes : List UInt8) : DynamicSymbol where
  index := index
  nameOffset := u32At bytes 0
  info := bytes.getD 4 0
  other := bytes.getD 5 0
  sectionIndexRaw := u16At bytes 6
  value := u64At bytes 8
  size := u64At bytes 16

/-- A record that cannot be read. -/
def unreadableSymbol (descriptor : DynamicSymbolTableDescriptor) (index : UInt64)
    (address : GuestAddress) (e : InitializedImageError) : DynamicSymbolError :=
  { code := .symbolEntryUnreadable, sourceEntryIndex := descriptor.symtabSourceEntryIndex,
    symbolIndex := index, guestAddress := e.guestAddress.getD address, imageError := some e }

/-- The reserved symbol at index zero. -/
def reservedSymbol : DynamicSymbol := ⟨0, 0, 0, 0, 0, 0, 0⟩

/-! ### What the loop over the tags has found -/

/-- The tags whose values the loop keeps. -/
def symbolTagsKnown : List Int64 := [kDtSymtab, kDtSyment, kDtSymtabsz]

/-- The slot of a tag. -/
def SymbolTags.slots (tags : SymbolTags) (tag : Int64) : Option SingletonValue :=
  if tag = kDtSymtab then tags.symtab
  else if tag = kDtSyment then tags.syment
  else if tag = kDtSymtabsz then tags.symtabsz
  else none

section Slots

variable {entries : List DynamicEntry} {tags : SymbolTags} {merged : Option SingletonValue}

theorem slots_symtab :
    SymbolTags.slots { tags with symtab := merged } =
      Function.update tags.slots kDtSymtab merged := by
  funext tag
  simp only [SymbolTags.slots, Function.update_apply]
  split_ifs <;> rfl

theorem slots_syment :
    SymbolTags.slots { tags with syment := merged } =
      Function.update tags.slots kDtSyment merged := by
  funext tag
  rw [Function.update_apply]
  by_cases htag : tag = kDtSyment
  · rw [if_pos htag, htag, SymbolTags.slots, if_neg (by decide), if_pos rfl]
  · rw [if_neg htag, SymbolTags.slots, SymbolTags.slots, if_neg htag, if_neg htag]

theorem slots_symtabsz :
    SymbolTags.slots { tags with symtabsz := merged } =
      Function.update tags.slots kDtSymtabsz merged := by
  funext tag
  rw [Function.update_apply]
  by_cases htag : tag = kDtSymtabsz
  · rw [if_pos htag, htag, SymbolTags.slots, if_neg (by decide), if_neg (by decide), if_pos rfl]
  · rw [if_neg htag, SymbolTags.slots, SymbolTags.slots, if_neg htag, if_neg htag]

/-- One entry fills the slot of its tag, or notes a hash table. -/
theorem fillSlot_symbolTags (tags : SymbolTags) (entry : DynamicEntry) :
    fillSlot symbolConflict symbolTagsKnown tags.slots entry =
      (collectSymbolTag tags entry).map SymbolTags.slots := by
  rw [collectSymbolTag]
  by_cases hsymtab : entry.tag = kDtSymtab
  · rw [if_pos hsymtab]
    exact fillSlot_of_merge hsymtab (by decide) rfl fun merged => slots_symtab
  rw [if_neg hsymtab]
  by_cases hsyment : entry.tag = kDtSyment
  · rw [if_pos hsyment]
    exact fillSlot_of_merge hsyment (by decide) rfl fun merged => slots_syment
  rw [if_neg hsyment]
  by_cases hsymtabsz : entry.tag = kDtSymtabsz
  · rw [if_pos hsymtabsz]
    exact fillSlot_of_merge hsymtabsz (by decide) rfl fun merged => slots_symtabsz
  rw [if_neg hsymtabsz, fillSlot_of_not_mem]
  · split_ifs <;> rfl
  · simp only [symbolTagsKnown, List.mem_cons, hsymtab, hsyment, hsymtabsz, List.not_mem_nil,
      or_self, not_false_eq_true]

/-- **What the loop leaves** in its slots. -/
theorem slotsHold_of_collectSymbolTag (hrun : entries.foldlM collectSymbolTag {} = .ok tags) :
    SlotsHold symbolTagsKnown entries tags.slots := by
  have hfill :=
    @foldlM_fillSlot _ symbolConflict symbolTagsKnown entries _ _ _ fillSlot_symbolTags {}
  have hstart : SymbolTags.slots {} = fun _ => none := by
    funext tag
    simp only [SymbolTags.slots, ite_self]
  rw [hrun, hstart] at hfill
  exact slotsHold_of_foldlM hfill

end Slots

/-! ### Reading one symbol -/

section Read

variable {descriptor : DynamicSymbolTableDescriptor} {index : UInt64} {view : InitializedImageView}
  {enforceBounds : Bool}

theorem toNat_kElf64SymbolSize : kElf64SymbolSize.toNat = 24 := rfl

/-- A record that fits the address space is read as its 24 bytes. -/
theorem readSymbol_of_fits (hbounds : ¬ (enforceBounds = true ∧ index ≥ descriptor.symbolCount))
    (hfits : descriptor.range.base.toNat + 24 * index.toNat + 24 ≤ 2 ^ 64) :
    ∃ range : GuestRange, range.base.toNat = descriptor.range.base.toNat + 24 * index.toNat ∧
      range.size.toNat = 24 ∧
      readSymbol descriptor index view enforceBounds =
        ((view.copyBytes range 24).mapError (unreadableSymbol descriptor index range.base)).map
          (symbolOf index) := by
  have hindex : ¬ index > u64Max / kElf64SymbolSize := by
    rw [gt_iff_lt, UInt64.lt_iff_toNat_lt, UInt64.toNat_div, toNat_u64Max, toNat_kElf64SymbolSize]
    omega
  have hoffset : (index * kElf64SymbolSize).toNat = 24 * index.toNat := by
    rw [UInt64.toNat_mul, toNat_kElf64SymbolSize, Nat.mod_eq_of_lt (by omega), Nat.mul_comm]
  have hadd : descriptor.range.base.checkedAdd ⟨index * kElf64SymbolSize⟩ =
      .ok ⟨descriptor.range.base.value + index * kElf64SymbolSize⟩ := by
    apply GuestAddress.checkedAdd_of_lt
    rw [GuestSize.toNat_mk, hoffset]
    omega
  have haddress : (GuestAddress.mk (descriptor.range.base.value + index * kElf64SymbolSize)).toNat =
      descriptor.range.base.toNat + 24 * index.toNat := by
    rw [(GuestAddress.checkedAdd_eq_ok hadd).2, GuestSize.toNat_mk, hoffset]
  have hsize : (GuestSize.mk kElf64SymbolSize).toNat = 24 := by
    rw [GuestSize.toNat_mk, toNat_kElf64SymbolSize]
  have hrange : (GuestAddress.mk (descriptor.range.base.value + index * kElf64SymbolSize)).toNat +
      (GuestSize.mk kElf64SymbolSize).toNat ≤ 2 ^ 64 := by
    rw [haddress, hsize]
    exact hfits
  refine ⟨⟨_, _, hrange⟩, haddress, hsize, ?_⟩
  rw [readSymbol, refuseIf_of_not hbounds, ok_bind, refuseIf_of_not hindex, ok_bind, hadd,
    mapError_ok, ok_bind, GuestRange.create_of_le hrange, mapError_ok, ok_bind,
    toNat_kElf64SymbolSize]
  cases view.copyBytes ⟨_, _, hrange⟩ 24 with
  | error e => rfl
  | ok bytes => rfl

/-- For a symbol that is counted the bound makes no difference. -/
theorem readSymbol_enforce (h : ¬ index ≥ descriptor.symbolCount) :
    readSymbol descriptor index view true = readSymbol descriptor index view false := by
  have hfalse : ¬ ((false : Bool) = true ∧ index ≥ descriptor.symbolCount) := fun hboth => h hboth.2
  rw [readSymbol, readSymbol, refuseIf_of_not fun hboth => h hboth.2, refuseIf_of_not hfalse]

theorem readSymbol_outside (h : index ≥ descriptor.symbolCount) :
    readSymbol descriptor index view true =
      .error
        { code := .symbolIndexOutOfBounds, sourceEntryIndex := descriptor.symtabSourceEntryIndex,
          symbolIndex := index } := by
  rw [readSymbol, refuseIf, if_pos ⟨rfl, h⟩]
  rfl

end Read

/-! ### Reading the whole table -/

section Whole

variable {view : InitializedImageView} {range : GuestRange} {symtabIndex offset : ℕ}
  {error : DynamicSymbolError}

/-- A chunk that cannot be read. -/
def unreadableChunk (symtabIndex offset : ℕ) (address : GuestAddress) (e : InitializedImageError) :
    DynamicSymbolError where
  code := .symbolEntryUnreadable
  tag := kDtSymtab
  sourceEntryIndex := symtabIndex
  symbolIndex := UInt64.ofNat (offset / 24)
  guestAddress := e.guestAddress.getD address
  imageError := some e

/-- One turn of the loop: the chunk lies inside the table, so its range exists. -/
theorem readWholeTable_step (hoffset : offset < range.size.toNat) :
    ∃ chunk : GuestRange, chunk.base.toNat = range.base.toNat + offset ∧
      chunk.size.toNat = min (range.size.toNat - offset) 4096 ∧
      readWholeTable view range.base range.size.toNat symtabIndex offset =
        (view.copyBytes chunk chunk.size.toNat).mapError
          (unreadableChunk symtabIndex offset chunk.base) >>= fun _ =>
          readWholeTable view range.base range.size.toNat symtabIndex
            (offset + chunk.size.toNat) := by
  have hwrap := range.noWrap
  obtain ⟨address, hadd, haddress⟩ := exists_address_of_lt hoffset
  have hlt := range.size.toNat_lt
  have hsize : (GuestSize.mk (UInt64.ofNat (min (range.size.toNat - offset) 4096))).toNat =
      min (range.size.toNat - offset) 4096 := by
    rw [GuestSize.toNat_mk, toNat_ofNat_of_lt (by omega)]
  have hrange : address.toNat +
      (GuestSize.mk (UInt64.ofNat (min (range.size.toNat - offset) 4096))).toNat ≤ 2 ^ 64 := by
    rw [haddress, hsize]
    omega
  refine ⟨⟨_, _, hrange⟩, haddress, hsize, ?_⟩
  rw [readWholeTable, if_neg (Nat.not_le_of_lt hoffset)]
  dsimp only
  rw [hadd, mapError_ok, ok_bind, GuestRange.create_of_le hrange, mapError_ok, ok_bind, hsize]
  rfl

/-- **The loop meets no overflow**: all it can say is that a chunk is not readable. -/
theorem readWholeTable_eq_error
    (h : readWholeTable view range.base range.size.toNat symtabIndex offset = .error error) :
    error.code = .symbolEntryUnreadable := by
  induction hremaining : range.size.toNat - offset using Nat.strong_induction_on generalizing offset
    with
  | _ remaining ih =>
    by_cases hoffset : offset < range.size.toNat
    · obtain ⟨chunk, -, hsize, hstep⟩ := @readWholeTable_step view range symtabIndex offset hoffset
      rw [hstep, bind_eq_error] at h
      rcases h with h | ⟨_, -, h⟩
      · rw [mapError_eq_error] at h
        obtain ⟨e, -, rfl⟩ := h
        rfl
      · exact ih _ (by omega) h rfl
    · rw [readWholeTable, if_pos (Nat.le_of_not_lt hoffset)] at h
      cases h

/-- When the loop is through, every byte of the table can be read. -/
theorem readWholeTable_eq_ok {u : Unit}
    (h : readWholeTable view range.base range.size.toNat symtabIndex offset = .ok u) :
    ∀ address : GuestAddress, range.base.toNat + offset ≤ address.toNat →
      address.toNat < range.base.toNat + range.size.toNat →
      ∃ byte, view.readByte address = .ok byte := by
  induction hremaining : range.size.toNat - offset using Nat.strong_induction_on generalizing offset
    with
  | _ remaining ih =>
    intro address hlow hhigh
    have hoffset : offset < range.size.toNat := by omega
    obtain ⟨chunk, hbase, hsize, hstep⟩ :=
      @readWholeTable_step view range symtabIndex offset hoffset
    rw [hstep, bind_eq_ok] at h
    obtain ⟨bytes, hcopied, h⟩ := h
    by_cases hchunk : address.toNat < range.base.toNat + offset + chunk.size.toNat
    · obtain ⟨-, -, hread⟩ := InitializedImageView.copyBytes_eq_ok (mapError_eq_ok.mp hcopied)
      refine ⟨_, hread address ?_⟩
      rw [GuestRange.mem_def, GuestRange.last]
      omega
    · exact ih _ (by omega) h rfl address (by omega) hhigh

end Whole

/-! ### The descriptor -/

section Descriptor

variable {table : DynamicTable} {view : InitializedImageView} {tags : SymbolTags}
  {symtab syment : SingletonValue} {counts : SymbolCounts} {count : UInt64}
  {symtabszIndex hashIndex gnuIndex : Option ℕ} {declared : Option UInt64}
  {sysv : Option SysvHashCountEvidence} {gnu : Option GnuHashCountEvidence}
  {descriptor : DynamicSymbolTableDescriptor}

theorem declaredCount_eq_ok {symtabsz : SingletonValue} (htag : tags.symtabsz = some symtabsz)
    (h : declaredCount tags = .ok declared) :
    ∃ count, declared = some count ∧ symtabsz.value.toNat = 24 * count.toNat := by
  rw [declaredCount, htag] at h
  dsimp only at h
  rw [map_eq_ok] at h
  obtain ⟨count, hcount, rfl⟩ := h
  simp only [symtabszCount, bind_eq_ok, refuseIf_eq_ok, pure_eq_ok] at hcount
  obtain ⟨-, hvalid, -, -, rfl⟩ := hcount
  rw [not_or, not_not] at hvalid
  have hmod := congrArg UInt64.toNat hvalid.2
  rw [UInt64.toNat_mod, toNat_kElf64SymbolSize, UInt64.toNat_zero] at hmod
  refine ⟨_, rfl, ?_⟩
  rw [UInt64.toNat_div, toNat_kElf64SymbolSize]
  omega

/-- **The counts agree**: every one that is present is the count. -/
theorem agreedCount_eq_ok
    (h : agreedCount counts symtab symtabszIndex hashIndex gnuIndex = .ok count) :
    (∀ declared, counts.symtabsz = some declared → declared = count) ∧
      (∀ sysv, counts.sysvHash = some sysv → sysv = count) ∧
      (∀ gnu, counts.gnuHash = some gnu → gnu = count) ∧
      count ≠ 0 ∧ count.toNat ≤ (2 ^ 64 - 1) / 24 := by
  simp only [agreedCount, bind_eq_ok, orRefuse_eq_ok, refuseIf_eq_ok, pure_eq_ok] at h
  obtain ⟨found, hfound, -, hsysv, -, hgnu, -, hzero, -, hlimit, rfl⟩ := h
  have hle : found.toNat ≤ (2 ^ 64 - 1) / 24 := by
    rw [gt_iff_lt, UInt64.lt_iff_toNat_lt, UInt64.toNat_div, toNat_u64Max, toNat_kElf64SymbolSize]
      at hlimit
    exact Nat.le_of_not_lt hlimit
  obtain ⟨symtabsz, sysvHash, gnuHash⟩ := counts
  dsimp only at hfound hsysv hgnu ⊢
  have hdeclared : ∀ declared, symtabsz = some declared → declared = found := by
    rintro declared rfl
    exact Option.some.inj hfound
  have hother : ∀ sysv, sysvHash = some sysv → sysv = found := by
    rintro sysv rfl
    cases symtabsz with
    | none => exact Option.some.inj hfound
    | some declared =>
      by_contra hne
      refine hsysv ⟨declared, rfl, sysv, rfl, ?_⟩
      rw [hdeclared declared rfl]
      exact Ne.symm hne
  refine ⟨hdeclared, hother, ?_, hzero, hle⟩
  rintro gnu rfl
  by_contra hne
  cases symtabsz with
  | some declared =>
    refine hgnu ⟨gnu, rfl, .inl ⟨declared, rfl, ?_⟩⟩
    rw [hdeclared declared rfl]
    exact hne
  | none =>
    cases sysvHash with
    | some sysv =>
      refine hgnu ⟨gnu, rfl, .inr ⟨sysv, rfl, ?_⟩⟩
      rw [hother sysv rfl]
      exact hne
    | none => exact hne (Option.some.inj hfound)

theorem isReservedUndefinedSymbol_iff {symbol : DynamicSymbol} :
    isReservedUndefinedSymbol symbol = true ↔ symbol = reservedSymbol := by
  cases symbol
  simp [isReservedUndefinedSymbol, reservedSymbol, and_assoc]

/-- What a descriptor promises. -/
structure DescriptorSound (table : DynamicTable) (view : InitializedImageView)
    (descriptor : DynamicSymbolTableDescriptor) : Prop where
  /-- Every `DT_SYMTABSZ` is 24 bytes for each symbol. -/
  symtabsz : ∀ entry ∈ table.entries, entry.tag = kDtSymtabsz →
    entry.value.toNat = 24 * descriptor.symbolCount.toNat
  /-- The System V table, if there is one, has as many symbols. -/
  sysvHash : ∃ sysv, buildSysvHashCountEvidence table view = .ok sysv ∧
    ∀ evidence, sysv = some evidence → evidence.symbolCount.toNat = descriptor.symbolCount.toNat
  /-- The GNU table, if there is one, has as many symbols. -/
  gnuHash : ∃ gnu, buildGnuHashCountEvidence table view = .ok gnu ∧
    ∀ evidence, gnu = some evidence → evidence.symbolCount = descriptor.symbolCount
  positive : 0 < descriptor.symbolCount.toNat
  /-- Every `DT_SYMTAB` is where the table begins, and there is one. -/
  symtab : (∃ entry ∈ table.entries, entry.tag = kDtSymtab) ∧
    ∀ entry ∈ table.entries, entry.tag = kDtSymtab → entry.value = descriptor.range.base.value
  size : descriptor.range.size.toNat = 24 * descriptor.symbolCount.toNat
  noWrap : descriptor.range.base.toNat + 24 * descriptor.symbolCount.toNat ≤ 2 ^ 64
  zero : parseDynamicSymbol descriptor 0 view = .ok reservedSymbol
  outside : ∀ index, descriptor.symbolCount.toNat ≤ index.toNat →
    parseDynamicSymbol descriptor index view =
    .error
      { code := .symbolIndexOutOfBounds, sourceEntryIndex := descriptor.symtabSourceEntryIndex,
        symbolIndex := index }
  /-- A symbol that is counted is read as its 24 bytes; the only error is that they cannot be read.
  -/
  inside : ∀ index, index.toNat < descriptor.symbolCount.toNat →
    ∃ range : GuestRange, range.base.toNat = descriptor.range.base.toNat + 24 * index.toNat ∧
      range.size.toNat = 24 ∧
      parseDynamicSymbol descriptor index view =
        ((view.copyBytes range 24).mapError (unreadableSymbol descriptor index range.base)).map
          (symbolOf index)
  /-- With a GNU table they all can be read. -/
  readable : (∃ evidence, buildGnuHashCountEvidence table view = .ok (some evidence)) → ∀ index,
    index.toNat < descriptor.symbolCount.toNat →
      ∃ symbol, parseDynamicSymbol descriptor index view = .ok symbol

/-- **A descriptor is sound.** -/
theorem descriptorSound_of_build
    (h : buildDynamicSymbolTableDescriptor table view = .ok (some descriptor)) :
    DescriptorSound table view descriptor := by
  rw [buildDynamicSymbolTableDescriptor, bind_eq_ok] at h
  obtain ⟨tags, htags, h⟩ := h
  have hholds := slotsHold_of_collectSymbolTag htags
  have hheldSymtab : SlotHolds kDtSymtab table.entries tags.symtab :=
    hholds.holds kDtSymtab (by decide)
  have hheldSymtabsz : SlotHolds kDtSymtabsz table.entries tags.symtabsz :=
    hholds.holds kDtSymtabsz (by decide)
  cases hsymtab : tags.symtab with
  | none =>
    rw [hsymtab] at h
    dsimp only at h
    split_ifs at h
    cases h
  | some symtab =>
    cases hsyment : tags.syment with
    | none =>
      rw [hsymtab, hsyment] at h
      cases h
    | some syment =>
      rw [hsymtab, hsyment] at h
      dsimp only at h
      rw [map_eq_ok] at h
      obtain ⟨found, hdescribe, hfound⟩ := h
      cases hfound
      rw [describeSymbolTable, bind_eq_ok] at hdescribe
      obtain ⟨_, -, hdescribe⟩ := hdescribe
      simp only [bind_eq_ok, mapError_eq_ok] at hdescribe
      obtain ⟨declared, hdeclared, sysv, hsysv, gnu, hgnu, hcounted⟩ := hdescribe
      simp only [describeCounted, bind_eq_ok, mapError_eq_ok, refuseIf_eq_ok, whenever_eq_ok,
        pure_eq_ok] at hcounted
      obtain ⟨count, hcount, range, hrange, zero, hzero, _, hreserved, _, hwhole, rfl⟩ := hcounted
      obtain ⟨hfromDeclared, hfromSysv, hfromGnu, hpositive, hlimit⟩ := agreedCount_eq_ok hcount
      obtain ⟨hbase, hsize⟩ := GuestRange.create_eq_ok hrange
      have hbytes : (count * kElf64SymbolSize).toNat = 24 * count.toNat := by
        rw [UInt64.toNat_mul, toNat_kElf64SymbolSize, Nat.mod_eq_of_lt (by omega), Nat.mul_comm]
      have hrangeSize : range.size.toNat = 24 * count.toNat := by
        rw [hsize, GuestSize.toNat_mk, hbytes]
      have hwrap := range.noWrap
      have hcountPos : 0 < count.toNat :=
        Nat.pos_of_ne_zero fun h => hpositive (UInt64.toNat_inj.mp h)
      have hinside : ∀ index : UInt64, index.toNat < count.toNat → ∀ enforce, ∃ symbolRange :
        GuestRange,
          symbolRange.base.toNat = range.base.toNat + 24 * index.toNat ∧
            symbolRange.size.toNat = 24 ∧
          readSymbol (descriptorOf tags symtab syment declared sysv gnu count range) index view
            enforce =
            ((view.copyBytes symbolRange 24).mapError (unreadableSymbol
              (descriptorOf tags symtab syment declared sysv gnu count range) index
                symbolRange.base)).map
              (symbolOf index) := by
        intro index hindex enforce
        refine @readSymbol_of_fits
          (descriptorOf tags symtab syment declared sysv gnu count range) index view enforce ?_ ?_
        · rintro ⟨-, hge⟩
          exact Nat.not_lt_of_le (UInt64.le_iff_toNat_le.mp hge) hindex
        · show range.base.toNat + 24 * index.toNat + 24 ≤ 2 ^ 64
          omega
      have hzeroIndex : (0 : UInt64).toNat < count.toNat := hcountPos
      refine ⟨?_, ?_, ?_, hcountPos, ⟨?_, ?_⟩, hrangeSize, by rw [hrangeSize] at hwrap; exact hwrap,
        ?_, ?_, ?_, ?_⟩
      · intro entry hmem htag
        obtain ⟨symtabsz, hslot, hvalue⟩ := hheldSymtabsz.value entry hmem htag
        obtain ⟨declaredSize, rfl, hsize⟩ := declaredCount_eq_ok hslot hdeclared
        rw [← hvalue, hsize, hfromDeclared declaredSize rfl]
        rfl
      · refine ⟨sysv, hsysv, ?_⟩
        rintro evidence rfl
        have hsame := congrArg UInt64.toNat (hfromSysv _ rfl)
        rw [UInt32.toNat_toUInt64] at hsame
        exact hsame
      · refine ⟨gnu, hgnu, ?_⟩
        rintro evidence rfl
        exact hfromGnu _ rfl
      · obtain ⟨entry, hmem, htag, -⟩ := hheldSymtab.source symtab hsymtab
        exact ⟨entry, hmem, htag⟩
      · intro entry hmem htag
        obtain ⟨slot, hslot, hvalue⟩ := hheldSymtab.value entry hmem htag
        rw [hsymtab] at hslot
        cases hslot
        rw [← hvalue]
        show symtab.value = range.base.value
        rw [hbase]
      · have hzeroBound : ¬ (0 : UInt64) ≥
            (descriptorOf tags symtab syment declared sysv gnu count range).symbolCount :=
          fun hge => Nat.not_lt_of_le (UInt64.le_iff_toNat_le.mp hge) hzeroIndex
        rw [parseDynamicSymbol, readSymbol_enforce hzeroBound, hzero]
        rw [Bool.not_eq_false, isReservedUndefinedSymbol_iff] at hreserved
        rw [hreserved]
      · intro index hindex
        exact readSymbol_outside (UInt64.le_iff_toNat_le.mpr hindex)
      · exact fun index hindex => hinside index hindex true
      · rintro ⟨evidence, hevidence⟩ index hindex
        rw [hevidence] at hgnu
        cases hgnu
        have hwhole := hwhole rfl
        rw [hbytes, ← hrangeSize] at hwhole
        obtain ⟨symbolRange, hsymbolBase, hsymbolSize, hread⟩ := hinside index hindex true
        obtain ⟨bytes, hcopied, -⟩ :=
          @InitializedImageView.copyBytes_of_readable view symbolRange (by
          intro address hmem
          rw [GuestRange.mem_def, GuestRange.last] at hmem
          exact readWholeTable_eq_ok hwhole address (by omega) (by
            have hcounted : index.toNat < count.toNat := hindex
            omega))
        rw [hsymbolSize] at hcopied
        exact ⟨symbolOf index bytes, by rw [parseDynamicSymbol, hread, hcopied, mapError_ok]; rfl⟩

/-! ### Overflows -/

variable {e : DynamicSymbolError}

theorem collectSymbolTag_eq_error {entry : DynamicEntry}
    (h : collectSymbolTag tags entry = .error e) :
    e.code = .conflictingDynamicTag := by
  have hmerge : ∀ slot, mergeSingleton symbolConflict slot entry = .error e →
      e.code = .conflictingDynamicTag := by
    intro slot hslot
    cases slot with
    | none => cases hslot
    | some found =>
      rw [mergeSingleton] at hslot
      split_ifs at hslot
      cases hslot
      rfl
  have hstep : ∀ slot (g : Option SingletonValue → SymbolTags),
      (mergeSingleton symbolConflict slot entry >>= fun merged => pure (g merged)) = .error e →
        e.code = .conflictingDynamicTag := by
    intro slot g hbind
    rw [bind_eq_error] at hbind
    rcases hbind with hbind | ⟨_, -, hbind⟩
    · exact hmerge slot hbind
    · cases hbind
  rw [collectSymbolTag] at h
  split_ifs at h
  · exact hstep _ _ h
  · exact hstep _ _ h
  · exact hstep _ _ h

theorem foldlM_collectSymbolTag_eq_error {entries : List DynamicEntry}
    (h : entries.foldlM collectSymbolTag tags = .error e) : e.code = .conflictingDynamicTag := by
  induction entries generalizing tags with
  | nil => cases h
  | cons entry entries ih =>
    rw [List.foldlM_cons, bind_eq_error] at h
    rcases h with h | ⟨middle, -, h⟩
    · exact collectSymbolTag_eq_error h
    · exact ih h

theorem declaredCount_eq_error (h : declaredCount tags = .error e) :
    e.code = .invalidSymbolTableSize := by
  rw [declaredCount] at h
  cases hslot : tags.symtabsz with
  | none =>
    rw [hslot] at h
    cases h
  | some symtabsz =>
    rw [hslot] at h
    dsimp only at h
    rw [map_eq_error, symtabszCount, bind_eq_error] at h
    rcases h with h | ⟨_, -, h⟩
    · rw [refuseIf_eq_error] at h
      rw [← h.2]
    · dsimp only at h
      rw [bind_eq_error] at h
      rcases h with h | ⟨_, -, h⟩
      · rw [refuseIf_eq_error] at h
        rw [← h.2]
      · cases h

/-- **The only range that can be too long is the whole table's.** Neither the first symbol nor a
chunk is ever beyond the address space: their errors would carry an index. -/
theorem symbolIndex_of_rangeOverflow
    (h : describeCounted view tags symtab syment declared sysv gnu = .error e)
    (hcode : e.code = .symbolTableRangeOverflow) : e.symbolIndex = none := by
  rw [describeCounted, bind_eq_error] at h
  rcases h with h | ⟨count, hcount, h⟩
  · simp only [agreedCount, bind_eq_error, orRefuse_eq_error, refuseIf_eq_error] at h
    rcases h with ⟨-, rfl⟩ | ⟨_, -,
      ⟨-, rfl⟩ | ⟨_, -, ⟨-, rfl⟩ | ⟨_, -, ⟨-, rfl⟩ | ⟨_, -, ⟨-, rfl⟩ | ⟨_, -, h⟩⟩⟩⟩⟩
    · cases hcode
    · cases hcode
    · cases hcode
    · cases hcode
    · cases hcode
    · cases h
  rw [bind_eq_error] at h
  rcases h with h | ⟨range, hrange, h⟩
  · rw [mapError_eq_error] at h
    obtain ⟨_, -, rfl⟩ := h
    rfl
  obtain ⟨-, -, -, hpositive, hlimit⟩ := agreedCount_eq_ok hcount
  obtain ⟨-, hsize⟩ := GuestRange.create_eq_ok (mapError_eq_ok.mp hrange)
  have hbytes : (count * kElf64SymbolSize).toNat = 24 * count.toNat := by
    rw [UInt64.toNat_mul, toNat_kElf64SymbolSize, Nat.mod_eq_of_lt (by omega), Nat.mul_comm]
  have hrangeSize : range.size.toNat = (count * kElf64SymbolSize).toNat := by
    rw [hsize, GuestSize.toNat_mk]
  have hwrap := range.noWrap
  have hcountPos : 0 < count.toNat := Nat.pos_of_ne_zero fun h => hpositive (UInt64.toNat_inj.mp h)
  rw [bind_eq_error] at h
  rcases h with h | ⟨zero, -, h⟩
  · obtain ⟨_, -, -, hread⟩ :=
      @readSymbol_of_fits (descriptorOf tags symtab syment declared sysv gnu count range) 0 view
      false (fun hboth => Bool.false_ne_true hboth.1) (by
        show range.base.toNat + 24 * 0 + 24 ≤ 2 ^ 64
        omega)
    rw [hread, map_eq_error, mapError_eq_error] at h
    obtain ⟨_, -, rfl⟩ := h
    cases hcode
  rw [bind_eq_error] at h
  rcases h with h | ⟨_, -, h⟩
  · rw [refuseIf_eq_error] at h
    obtain ⟨-, rfl⟩ := h
    cases hcode
  rw [bind_eq_error] at h
  rcases h with h | ⟨_, -, h⟩
  · rw [whenever_eq_error, ← hrangeSize] at h
    rw [readWholeTable_eq_error h.2] at hcode
    cases hcode
  · cases h

theorem symbolIndex_of_build (h : buildDynamicSymbolTableDescriptor table view = .error e)
    (hcode : e.code = .symbolTableRangeOverflow) : e.symbolIndex = none := by
  rw [buildDynamicSymbolTableDescriptor, bind_eq_error] at h
  rcases h with h | ⟨tags, -, h⟩
  · rw [foldlM_collectSymbolTag_eq_error h] at hcode
    cases hcode
  cases hsymtab : tags.symtab with
  | none =>
    rw [hsymtab] at h
    dsimp only at h
    split_ifs at h
    cases h
    cases hcode
  | some symtab =>
    cases hsyment : tags.syment with
    | none =>
      rw [hsymtab, hsyment] at h
      cases h
      cases hcode
    | some syment =>
      rw [hsymtab, hsyment] at h
      dsimp only at h
      rw [map_eq_error, describeSymbolTable, bind_eq_error] at h
      rcases h with h | ⟨_, -, h⟩
      · rw [refuseIf_eq_error] at h
        obtain ⟨-, rfl⟩ := h
        cases hcode
      rw [bind_eq_error] at h
      rcases h with h | ⟨declared, -, h⟩
      · rw [declaredCount_eq_error h] at hcode
        cases hcode
      rw [bind_eq_error] at h
      rcases h with h | ⟨sysv, -, h⟩
      · rw [mapError_eq_error] at h
        obtain ⟨_, -, rfl⟩ := h
        cases hcode
      rw [bind_eq_error] at h
      rcases h with h | ⟨gnu, -, h⟩
      · rw [mapError_eq_error] at h
        obtain ⟨_, -, rfl⟩ := h
        cases hcode
      exact symbolIndex_of_rangeOverflow h hcode

end Descriptor

end Astraea.Loader
