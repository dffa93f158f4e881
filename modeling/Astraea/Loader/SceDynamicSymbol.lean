import Astraea.Base.Fields
import Astraea.Core.HostAllocation
import Astraea.Loader.DynamicSymbolTable

/-!
# Symbols and their names

`materialize_sce_dynamic_symbol` reads a symbol, finds its name in the string table and takes the
name apart. A name with two `#` in it says what is imported: eleven characters for the function
itself, the library and the module. A name without `#` is a name and nothing more; every other
name is refused.

`materializeSceDynamicSymbol_eq_ok` is what a symbol that came through is: its name is what the
image holds in the string table up to a zero byte, and its identity is the only one that is
spelled that way.
-/

namespace Astraea.Loader

open Astraea.Base Astraea.Core Astraea.Memory

/-! ### Strings of the string table -/

/-- Why a string is not read. -/
inductive DynamicStringErrorCode where
  | offsetOutOfBounds
  | unterminated
  | imageReadFailure
  | guestAddressOverflow
  | hostSizeUnrepresentable
  | hostAllocationFailure
  deriving DecidableEq

/-- A string that is not read. -/
structure DynamicStringError where
  code : DynamicStringErrorCode
  sourceEntryIndex : ℕ
  offset : UInt64
  guestAddress : Option GuestAddress := none
  imageError : Option InitializedImageError := none
  deriving DecidableEq

/-- `max_size()` of a string. -/
def kStringMaxSize : ℕ := 2 ^ 63 - 1

section Strings

variable (host : Host) (view : InitializedImageView) (reference : DynamicStringRef)

/-- `string_error`. -/
def stringError (code : DynamicStringErrorCode) (guestAddress : GuestAddress)
    (imageError : Option InitializedImageError) : DynamicStringError where
  code := code
  sourceEntryIndex := reference.sourceEntryIndex
  offset := reference.offset
  guestAddress := guestAddress
  imageError := imageError

/-- `address_at`. -/
def stringAddressAt (base : GuestAddress) (offset : UInt64) :
    Except DynamicStringError GuestAddress :=
  (base.checkedAdd ⟨offset⟩).mapError fun _ => stringError reference .guestAddressOverflow base none

/-- The byte at an offset of the string, as both loops read it. -/
def stringByte (start : GuestAddress) (offset : UInt64) : Except DynamicStringError UInt8 := do
  let address ← stringAddressAt reference start offset
  (view.readByte address).mapError fun e => stringError reference .imageReadFailure address (some e)

/-- The first loop: the offset of the zero byte, among the bytes that remain of the table. -/
def stringLength (start : GuestAddress) :
    (remaining : ℕ) → (offset : UInt64) → Except DynamicStringError (Option UInt64)
  | 0, _ => .ok none
  | remaining + 1, offset => do
    let byte ← stringByte view reference start offset
    if byte = 0 then .ok (some offset) else stringLength start remaining (offset + 1)

/-- `resolve_dynamic_string`. -/
def resolveDynamicString (table : DynamicStringTableDescriptor) :
    Except DynamicStringError (List UInt8) := do
  let tableSize := table.range.size.value
  refuseIf (reference.offset ≥ tableSize)
    (stringError reference .offsetOutOfBounds table.range.base none)
  let start ← stringAddressAt reference table.range.base reference.offset
  let found ← stringLength view reference start (tableSize - reference.offset).toNat 0
  let length ← orRefuse found (stringError reference .unterminated start none)
  refuseIf (length.toNat > kStringMaxSize)
    (stringError reference .hostSizeUnrepresentable start none)
  -- a length that was found to be at most `max_size()` is not too long to resize to
  allocate host .dynamicString (stringError reference .hostAllocationFailure start none)
    (stringError reference .hostAllocationFailure start none)
  (List.range length.toNat).mapM fun index => stringByte view reference start (UInt64.ofNat index)

end Strings

/-! ### Names -/

/-- Why a name says no identity. -/
inductive SceSymbolIdentityErrorCode where
  | malformedLongForm
  | invalidNidLength
  | hostAllocationFailure
  deriving DecidableEq

/-- A name that says no identity. -/
structure SceSymbolIdentityError where
  code : SceSymbolIdentityErrorCode
  deriving DecidableEq

/-- What a name stands for: an identifier, a library and a module. -/
structure SceSymbolIdentity where
  nid : List UInt8
  libraryId : List UInt8
  moduleId : List UInt8
  deriving DecidableEq

/-- A name and what it says. -/
structure SceDynamicSymbolName where
  raw : List UInt8
  identity : Option SceSymbolIdentity
  deriving DecidableEq

/-- The character `#`. -/
def kSceSeparator : UInt8 := 0x23

/-- `parse_sce_dynamic_symbol_name`. -/
def parseSceDynamicSymbolName (host : Host) (raw : List UInt8) :
    Except SceSymbolIdentityError SceDynamicSymbolName :=
  match splitAtFirst kSceSeparator raw with
  | none => do
    allocate host .symbolName ⟨.hostAllocationFailure⟩ ⟨.hostAllocationFailure⟩
    return ⟨raw, none⟩
  | some (nid, behindNid) =>
    match splitAtFirst kSceSeparator behindNid with
    | none => .error ⟨.malformedLongForm⟩
    | some (libraryId, moduleId) => do
      refuseIf (kSceSeparator ∈ moduleId) ⟨.malformedLongForm⟩
      refuseIf (nid.isEmpty = true ∨ libraryId.isEmpty = true ∨ moduleId.isEmpty = true)
        ⟨.malformedLongForm⟩
      refuseIf (nid.length ≠ 11) ⟨.invalidNidLength⟩
      allocate host .symbolName ⟨.hostAllocationFailure⟩ ⟨.hostAllocationFailure⟩
      return ⟨raw, some ⟨nid, libraryId, moduleId⟩⟩

/-! ### Symbols -/

/-- Why a symbol is not read. -/
inductive SceDynamicSymbolErrorCode where
  | dynamicSymbolFailure
  | dynamicStringFailure
  | sceIdentityFailure
  deriving DecidableEq

/-- A symbol that is not read, with the error below it. -/
structure SceDynamicSymbolError where
  code : SceDynamicSymbolErrorCode
  symbolIndex : UInt64
  symbolError : Option DynamicSymbolError := none
  stringError : Option DynamicStringError := none
  identityError : Option SceSymbolIdentityError := none
  deriving DecidableEq

/-- A symbol with its name. -/
structure SceDynamicSymbolRecord where
  symbol : DynamicSymbol
  name : SceDynamicSymbolName
  deriving DecidableEq

/-- `materialize_sce_dynamic_symbol`. -/
def materializeSceDynamicSymbol (host : Host) (symbols : DynamicSymbolTableDescriptor)
    (strings : DynamicStringTableDescriptor) (symbolIndex : UInt64) (view : InitializedImageView) :
    Except SceDynamicSymbolError SceDynamicSymbolRecord := do
  let symbol ← (parseDynamicSymbol symbols symbolIndex view).mapError fun e =>
    ({ code := .dynamicSymbolFailure, symbolIndex := symbolIndex, symbolError := some e } :
      SceDynamicSymbolError)
  let nameReference : DynamicStringRef :=
    ⟨symbol.nameOffset.toUInt64, symbols.symtabSourceEntryIndex⟩
  let rawName ← (resolveDynamicString host view nameReference strings).mapError fun e =>
    ({ code := .dynamicStringFailure, symbolIndex := symbolIndex, stringError := some e } :
      SceDynamicSymbolError)
  let name ← (parseSceDynamicSymbolName host rawName).mapError fun e =>
    ({ code := .sceIdentityFailure, symbolIndex := symbolIndex, identityError := some e } :
      SceDynamicSymbolError)
  return ⟨symbol, name⟩

/-! ### What a string is -/

/-- The image holds `name` at `address`, and behind it the first zero byte. -/
structure HoldsString (view : InitializedImageView) (address : ℕ) (name : List UInt8) : Prop where
  fits : address + name.length < 2 ^ 64
  bytes : ∀ (index : ℕ) (byte : UInt8), name[index]? = some byte → byte ≠ 0 ∧ ∀ place :
    GuestAddress,
    place.toNat = address + index → view.readByte place = .ok byte
  terminator : ∀ place : GuestAddress, place.toNat = address + name.length →
    view.readByte place = .ok 0

section Strings

variable {host : Host} {view : InitializedImageView} {reference : DynamicStringRef}
  {table : DynamicStringTableDescriptor} {start : GuestAddress} {offset length : UInt64}
  {byte : UInt8} {name : List UInt8}

theorem stringByte_eq_ok (h : stringByte view reference start offset = .ok byte) :
    start.toNat + offset.toNat < 2 ^ 64 ∧
      ∀ place : GuestAddress, place.toNat = start.toNat + offset.toNat →
        view.readByte place = .ok byte := by
  simp only [stringByte, stringAddressAt, bind_eq_ok, mapError_eq_ok] at h
  obtain ⟨address, hadd, hread⟩ := h
  obtain ⟨hlt, haddress⟩ := GuestAddress.checkedAdd_eq_ok hadd
  refine ⟨hlt, fun place hplace => ?_⟩
  have hsame : place = address := GuestAddress.toNat_inj.mp (by rw [hplace, haddress]; rfl)
  rw [hsame]
  exact hread

/-- The first loop finds the first zero byte, and has read every byte before it. -/
theorem stringLength_eq_ok {remaining : ℕ} (hbound : offset.toNat + remaining < 2 ^ 64)
    (h : stringLength view reference start remaining offset = .ok (some length)) :
    offset.toNat ≤ length.toNat ∧ stringByte view reference start length = .ok 0 ∧
      ∀ middle : UInt64, offset.toNat ≤ middle.toNat → middle.toNat < length.toNat →
        ∃ byte, stringByte view reference start middle = .ok byte ∧ byte ≠ 0 := by
  induction remaining generalizing offset with
  | zero => cases h
  | succ remaining ih =>
    rw [stringLength, bind_eq_ok] at h
    obtain ⟨byte, hbyte, h⟩ := h
    by_cases hzero : byte = 0
    · rw [if_pos hzero] at h
      cases h
      rw [hzero] at hbyte
      exact ⟨le_refl _, hbyte, fun middle hlow hhigh => absurd hhigh (Nat.not_lt_of_le hlow)⟩
    · rw [if_neg hzero] at h
      have hnext : (offset + 1).toNat = offset.toNat + 1 := by
        rw [UInt64.toNat_add, UInt64.toNat_one, Nat.mod_eq_of_lt (by omega)]
      obtain ⟨hle, hterminator, hbefore⟩ := ih (by omega) h
      refine ⟨by omega, hterminator, fun middle hlow hhigh => ?_⟩
      by_cases hfirst : middle.toNat = offset.toNat
      · rw [UInt64.toNat_inj.mp hfirst]
        exact ⟨byte, hbyte, hzero⟩
      · exact hbefore middle (by omega) hhigh

/-- **A string that was resolved** is what the image holds at its place, up to the first zero byte.
-/
theorem resolveDynamicString_eq_ok (h : resolveDynamicString host view reference table = .ok name) :
    HoldsString view (table.range.base.toNat + reference.offset.toNat) name := by
  simp only [resolveDynamicString, bind_eq_ok, refuseIf_eq_ok, orRefuse_eq_ok, allocate_eq_ok] at h
  obtain ⟨-, hoffset, start, hstart, found, hfound, length, rfl, -, -, -, -, hname⟩ := h
  have hbase : start.toNat = table.range.base.toNat + reference.offset.toNat := by
    rw [stringAddressAt, mapError_eq_ok] at hstart
    exact (GuestAddress.checkedAdd_eq_ok hstart).2
  obtain ⟨-, hterminator, hbefore⟩ :=
    stringLength_eq_ok (by rw [UInt64.toNat_zero, Nat.zero_add]; exact UInt64.toNat_lt _) hfound
  rw [mapM_eq_ok, List.forall₂_iff_get] at hname
  obtain ⟨hlength, hget⟩ := hname
  rw [List.length_range] at hlength
  obtain ⟨hfits, hzero⟩ := stringByte_eq_ok hterminator
  rw [hbase, hlength] at hfits hzero
  refine ⟨hfits, fun index byte hbyte => ?_, hzero⟩
  obtain ⟨hindex, rfl⟩ := List.getElem?_eq_some_iff.mp hbyte
  have hsmall : (UInt64.ofNat index).toNat = index := toNat_ofNat_of_lt (by omega)
  have hread : stringByte view reference start (UInt64.ofNat index) = .ok name[index] := by
    have hturn := hget index (by rw [List.length_range]; omega) hindex
    rw [List.get_eq_getElem, List.get_eq_getElem, List.getElem_range] at hturn
    exact hturn
  obtain ⟨other, hother, hnonzero⟩ := hbefore (UInt64.ofNat index) (Nat.zero_le _) (by omega)
  rw [hread] at hother
  cases hother
  refine ⟨hnonzero, ?_⟩
  have hplace := (stringByte_eq_ok hread).2
  rw [hsmall, hbase] at hplace
  exact hplace

end Strings

/-! ### What a name says -/

/-- How an identity is spelled. -/
def SceSymbolIdentity.spelling (identity : SceSymbolIdentity) : List UInt8 :=
  identity.nid ++ kSceSeparator :: (identity.libraryId ++ kSceSeparator :: identity.moduleId)

/-- An identity that can be spelled. -/
structure SceSymbolIdentity.WellFormed (identity : SceSymbolIdentity) : Prop where
  nid : identity.nid.length = 11
  libraryId : identity.libraryId ≠ []
  moduleId : identity.moduleId ≠ []
  separators : kSceSeparator ∉ identity.nid ∧ kSceSeparator ∉ identity.libraryId ∧
    kSceSeparator ∉ identity.moduleId

section Names

variable {host : Host} {raw : List UInt8} {name : SceDynamicSymbolName}
  {identity identity' : SceSymbolIdentity}

theorem SceSymbolIdentity.spelling_inj (h : identity.WellFormed) (h' : identity'.WellFormed)
    (heq : identity.spelling = identity'.spelling) : identity = identity' := by
  obtain ⟨hnid, hbehind⟩ := append_separator_inj h.separators.1 h'.separators.1 heq
  obtain ⟨hlibrary, hmodule⟩ := append_separator_inj h.separators.2.1 h'.separators.2.1 hbehind
  cases identity
  cases identity'
  simp only [SceSymbolIdentity.mk.injEq]
  exact ⟨hnid, hlibrary, hmodule⟩

/-- The names there are, and what each says: nothing, or what is imported. -/
inductive SceName : List UInt8 → Option SceSymbolIdentity → Prop
  | plain {raw : List UInt8} : kSceSeparator ∉ raw → SceName raw none
  | longForm {identity : SceSymbolIdentity} :
      identity.WellFormed → SceName identity.spelling (some identity)

theorem sceName_some :
    SceName raw (some identity) ↔ raw = identity.spelling ∧ identity.WellFormed := by
  constructor
  · intro h
    cases h with
    | longForm h => exact ⟨rfl, h⟩
  · rintro ⟨rfl, h⟩
    exact .longForm h

theorem separator_mem_spelling (identity : SceSymbolIdentity) : kSceSeparator ∈ identity.spelling :=
  List.mem_append_right _ List.mem_cons_self

theorem SceName.unique {said said' : Option SceSymbolIdentity} (h : SceName raw said)
    (h' : SceName raw said') :
    said = said' := by
  cases h with
  | plain h =>
    cases h' with
    | plain => rfl
    | @longForm identity' => exact absurd (separator_mem_spelling identity') h
  | @longForm identity h =>
    generalize hraw : identity.spelling = raw at h'
    cases h' with
    | plain h' => exact absurd (hraw ▸ separator_mem_spelling identity) h'
    | longForm h' => rw [SceSymbolIdentity.spelling_inj h h' hraw]

theorem SceName.raw_eq {raw' : List UInt8} (h : SceName raw (some identity))
    (h' : SceName raw' (some identity)) :
    raw = raw' := by
  rw [(sceName_some.mp h).1, (sceName_some.mp h').1]

/-- A name is parsed as what it says, as long as the host has memory for it. -/
theorem parseSceDynamicSymbolName_of_sceName {said : Option SceSymbolIdentity}
    (h : SceName raw said) :
    parseSceDynamicSymbolName host raw =
      allocate host .symbolName ⟨.hostAllocationFailure⟩ ⟨.hostAllocationFailure⟩ >>= fun _ =>
        .ok ⟨raw, said⟩ := by
  cases h with
  | plain h =>
    rw [parseSceDynamicSymbolName, splitAtFirst_eq_none.mpr h]
    rfl
  | @longForm identity h =>
    obtain ⟨hnid, hlibrary, hmodule⟩ := h.separators
    have hbehind : splitAtFirst kSceSeparator identity.spelling =
        some (identity.nid, identity.libraryId ++ kSceSeparator :: identity.moduleId) :=
      splitAtFirst_eq_some.mpr ⟨rfl, hnid⟩
    have hrest : splitAtFirst kSceSeparator
      (identity.libraryId ++ kSceSeparator :: identity.moduleId) =
        some (identity.libraryId, identity.moduleId) := splitAtFirst_eq_some.mpr ⟨rfl, hlibrary⟩
    have hnonempty : identity.nid ≠ [] := fun hnil => by
      have hlength := h.nid
      rw [hnil] at hlength
      cases hlength
    rw [parseSceDynamicSymbolName, hbehind]
    simp only [hrest]
    rw [refuseIf_of_not hmodule, ok_bind,
      refuseIf_of_not (by simp [hnonempty, h.libraryId, h.moduleId]), ok_bind,
      refuseIf_of_not (not_not.mpr h.nid), ok_bind]
    rfl

theorem parseSceDynamicSymbolName_of_not (h : ¬ ∃ said, SceName raw said) :
    ∃ e, parseSceDynamicSymbolName host raw = .error e ∧ e.code ≠ .hostAllocationFailure := by
  rw [parseSceDynamicSymbolName]
  cases hnid : splitAtFirst kSceSeparator raw with
  | none => exact absurd ⟨none, .plain (splitAtFirst_eq_none.mp hnid)⟩ h
  | some parts =>
    obtain ⟨nid, behindNid⟩ := parts
    cases hlibrary : splitAtFirst kSceSeparator behindNid with
    | none =>
      simp only [hlibrary]
      exact ⟨_, rfl, by simp⟩
    | some parts' =>
      obtain ⟨libraryId, moduleId⟩ := parts'
      obtain ⟨rfl, hnidField⟩ := splitAtFirst_eq_some.mp hnid
      obtain ⟨rfl, hlibraryField⟩ := splitAtFirst_eq_some.mp hlibrary
      simp only [hlibrary]
      by_cases hmodule : kSceSeparator ∈ moduleId
      · exact ⟨_, bind_eq_error.mpr (.inl (refuseIf_eq_error.mpr ⟨hmodule, rfl⟩)), by simp⟩
      rw [refuseIf_of_not hmodule, ok_bind]
      by_cases hempty : nid.isEmpty = true ∨ libraryId.isEmpty = true ∨ moduleId.isEmpty = true
      · exact ⟨_, bind_eq_error.mpr (.inl (refuseIf_eq_error.mpr ⟨hempty, rfl⟩)), by simp⟩
      rw [refuseIf_of_not hempty, ok_bind]
      by_cases hlength : nid.length ≠ 11
      · exact ⟨_, bind_eq_error.mpr (.inl (refuseIf_eq_error.mpr ⟨hlength, rfl⟩)), by simp⟩
      simp only [not_or, List.isEmpty_iff] at hempty
      have hwell : SceSymbolIdentity.WellFormed ⟨nid, libraryId, moduleId⟩ :=
        ⟨not_not.mp hlength, hempty.2.1, hempty.2.2, hnidField, hlibraryField, hmodule⟩
      exact absurd ⟨_, SceName.longForm hwell⟩ h

/-- **The parser accepts the names there are**, as long as the host has memory for them. -/
theorem parseSceDynamicSymbolName_eq_ok_iff :
    parseSceDynamicSymbolName host raw = .ok name ↔
      name.raw = raw ∧ SceName raw name.identity ∧ host.allocation .symbolName = none := by
  by_cases hname : ∃ said, SceName raw said
  · obtain ⟨said, hsaid⟩ := hname
    rw [parseSceDynamicSymbolName_of_sceName hsaid, check_bind_eq_ok, allocate_eq_ok,
      Except.ok.injEq]
    constructor
    · rintro ⟨hhost, rfl⟩
      exact ⟨rfl, hsaid, hhost⟩
    · rintro ⟨rfl, hidentity, hhost⟩
      rw [hsaid.unique hidentity]
      exact ⟨hhost, rfl⟩
  · obtain ⟨e, he, -⟩ := parseSceDynamicSymbolName_of_not hname
    rw [he]
    exact ⟨fun h => (by cases h), fun h => absurd ⟨_, h.2.1⟩ hname⟩

/-- A name keeps its spelling, and if it says what is imported, it is spelled that way. -/
theorem parseSceDynamicSymbolName_eq_ok (h : parseSceDynamicSymbolName host raw = .ok name) :
    name.raw = raw ∧ ∀ identity, name.identity = some identity → raw = identity.spelling ∧
    identity.WellFormed := by
  obtain ⟨hraw, hname, -⟩ := parseSceDynamicSymbolName_eq_ok_iff.mp h
  refine ⟨hraw, fun identity hidentity => ?_⟩
  rw [hidentity] at hname
  exact sceName_some.mp hname

/-- **Every other name is refused for what it is**, whether the host has memory or not. -/
theorem parseSceDynamicSymbolName_refuses_iff :
    (∃ e, parseSceDynamicSymbolName host raw = .error e ∧ e.code ≠ .hostAllocationFailure) ↔
      ¬ ∃ said, SceName raw said := by
  constructor
  · rintro ⟨e, he, hcode⟩ ⟨said, hsaid⟩
    rw [parseSceDynamicSymbolName_of_sceName hsaid, allocate] at he
    split at he <;> cases he <;> exact hcode rfl
  · exact parseSceDynamicSymbolName_of_not

end Names

/-! ### What a symbol is -/

/-- A symbol of the table with its name: what `materialize_sce_dynamic_symbol` promises. -/
structure SymbolNamed (view : InitializedImageView) (symbols : DynamicSymbolTableDescriptor)
    (strings : DynamicStringTableDescriptor) (symbolIndex : UInt64)
    (record : SceDynamicSymbolRecord) : Prop where
  symbol : parseDynamicSymbol symbols symbolIndex view = .ok record.symbol
  index : record.symbol.index = symbolIndex
  name : HoldsString view (strings.range.base.toNat + record.symbol.nameOffset.toNat)
    record.name.raw
  identity : ∀ identity, record.name.identity = some identity →
    record.name.raw = identity.spelling ∧ identity.WellFormed

variable {symbols : DynamicSymbolTableDescriptor}

theorem index_of_parseDynamicSymbol {index : UInt64} {view : InitializedImageView}
    {symbol : DynamicSymbol} (h : parseDynamicSymbol symbols index view = .ok symbol) :
    symbol.index = index := by
  suffices hall : ∀ symbol, parseDynamicSymbol symbols index view = .ok symbol →
      symbol.index = index from hall symbol h
  unfold parseDynamicSymbol readSymbol
  repeat refine forall_bind_eq_ok fun _ => ?_
  rintro symbol ⟨⟩
  rfl

/-- **A symbol that came through** has the name at its place in the string table, and the one
identity that is spelled so. -/
theorem materializeSceDynamicSymbol_eq_ok {host : Host} {strings : DynamicStringTableDescriptor}
    {symbolIndex : UInt64} {view : InitializedImageView} {record : SceDynamicSymbolRecord}
    (h : materializeSceDynamicSymbol host symbols strings symbolIndex view = .ok record) :
    SymbolNamed view symbols strings symbolIndex record := by
  simp only [materializeSceDynamicSymbol, bind_eq_ok, mapError_eq_ok, pure_eq_ok] at h
  obtain ⟨symbol, hsymbol, rawName, hrawName, name, hname, rfl⟩ := h
  obtain ⟨hraw, hidentity⟩ := parseSceDynamicSymbolName_eq_ok hname
  have hholds := resolveDynamicString_eq_ok hrawName
  rw [← hraw] at hholds hidentity
  exact ⟨hsymbol, index_of_parseDynamicSymbol hsymbol, hholds, hidentity⟩

end Astraea.Loader
