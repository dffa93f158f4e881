import Astraea.Base.Logged
import Astraea.Loader.SceDynamicSymbol
import Mathlib.Data.Finset.Card
import Mathlib.Order.Interval.Finset.Nat

/-!
# Bounded names

The dependency manifest reads names out of the string table with `read_bounded_name`, which
reads the string as `resolve_dynamic_string` does but in a table that is cut off behind the
longest name. A name that is short enough is found by both alike, and the cut keeps the reader
from looking at more than 257 bytes.
-/

namespace Astraea.App

open Astraea.Base Astraea.Core Astraea.Loader Astraea.Memory

/-- What `manifest_for` throws, in the order of the source. -/
inductive ManifestFault where
  | nameOffsetOutOfBounds
  | nameRangeInvalid
  | nameUnreadableOrUnterminated
  | initializedImageUnavailable
  | tooManyGenericDependencies
  | missingDynamicStringTable
  | emptyDependencyName
  | tooManyDynamicRecords
  | sceDynamicMetadataInvalid
  | tooManyDynamicSymbols
  | dynamicSymbolUnreadable
  | symbolStringTableUnavailable
  | malformedSceSymbolIdentity
  | tooManyRelocations
  | relocationsMissingSymbolTable
  | relocationUnreadable
  deriving DecidableEq

/-- What the manifest says of a fault. -/
def ManifestFault.what : ManifestFault → String
  | .nameOffsetOutOfBounds => "name_offset_out_of_bounds"
  | .nameRangeInvalid => "name_range_invalid"
  | .nameUnreadableOrUnterminated => "name_unreadable_or_unterminated"
  | .initializedImageUnavailable => "initialized_image_unavailable"
  | .tooManyGenericDependencies => "too_many_generic_dependencies"
  | .missingDynamicStringTable => "missing_dynamic_string_table"
  | .emptyDependencyName => "empty_dependency_name"
  | .tooManyDynamicRecords => "too_many_dynamic_records"
  | .sceDynamicMetadataInvalid => "sce_dynamic_metadata_invalid"
  | .tooManyDynamicSymbols => "too_many_dynamic_symbols"
  | .dynamicSymbolUnreadable => "dynamic_symbol_unreadable"
  | .symbolStringTableUnavailable => "symbol_string_table_unavailable"
  | .malformedSceSymbolIdentity => "malformed_sce_symbol_identity"
  | .tooManyRelocations => "too_many_relocations"
  | .relocationsMissingSymbolTable => "relocations_missing_symbol_table"
  | .relocationUnreadable => "relocation_unreadable"

/-- The longest name of a module that is needed. -/
def kMaxDependencyNameBytes : UInt64 := 256

/-- `read_bounded_name`. -/
def readBoundedName (host : Host) (view : InitializedImageView)
    (original : DynamicStringTableDescriptor) (reference : DynamicStringRef) :
    Except ManifestFault (List UInt8) := do
  let tableSize := original.range.size.value
  refuseIf (reference.offset ≥ tableSize) .nameOffsetOutOfBounds
  let remaining := tableSize - reference.offset
  let size := reference.offset + min remaining (kMaxDependencyNameBytes + 1)
  let range ← (GuestRange.create original.range.base ⟨size⟩).mapError fun _ =>
    ManifestFault.nameRangeInvalid
  (resolveDynamicString host view reference ⟨range⟩).mapError fun _ => .nameUnreadableOrUnterminated

/-! ### The readers, watched -/

variable {remaining : ℕ}

section Watched

variable (host : Host) (view : InitializedImageView) (reference : DynamicStringRef)

/-- The byte at an offset of the string, with the address that is looked at. -/
def stringByteLogged (start : GuestAddress) (offset : UInt64) :
    Logged GuestAddress DynamicStringError UInt8 := do
  let address ← .quiet (stringAddressAt reference start offset)
  .look address ((view.readByte address).mapError fun e =>
    stringError reference .imageReadFailure address (some e))

/-- `string_length`, with the addresses that are looked at. -/
def stringLengthLogged (start : GuestAddress) :
    (remaining : ℕ) → (offset : UInt64) → Logged GuestAddress DynamicStringError (Option UInt64)
  | 0, _ => pure none
  | remaining + 1, offset => do
    let byte ← stringByteLogged view reference start offset
    if byte = 0 then pure (some offset) else stringLengthLogged start remaining (offset + 1)

/-- `resolve_dynamic_string`, with the addresses it looks at. -/
def resolveDynamicStringLogged (table : DynamicStringTableDescriptor) :
    Logged GuestAddress DynamicStringError (List UInt8) := do
  let tableSize := table.range.size.value
  .quiet (refuseIf (reference.offset ≥ tableSize)
    (stringError reference .offsetOutOfBounds table.range.base none))
  let start ← .quiet (stringAddressAt reference table.range.base reference.offset)
  let found ← stringLengthLogged view reference start (tableSize - reference.offset).toNat 0
  let length ← .quiet (orRefuse found (stringError reference .unterminated start none))
  .quiet (refuseIf (length.toNat > kStringMaxSize)
    (stringError reference .hostSizeUnrepresentable start none))
  .quiet (allocate host .dynamicString (stringError reference .hostAllocationFailure start none)
    (stringError reference .hostAllocationFailure start none))
  Logged.collect (fun index => stringByteLogged view reference start (UInt64.ofNat index))
    (List.range length.toNat)

/-- `read_bounded_name`, with the addresses it looks at. -/
def readBoundedNameLogged (original : DynamicStringTableDescriptor) :
    Logged GuestAddress ManifestFault (List UInt8) := do
  let tableSize := original.range.size.value
  .quiet (refuseIf (reference.offset ≥ tableSize) .nameOffsetOutOfBounds)
  let remaining := tableSize - reference.offset
  let size := reference.offset + min remaining (kMaxDependencyNameBytes + 1)
  let range ← .quiet ((GuestRange.create original.range.base ⟨size⟩).mapError fun _ =>
    ManifestFault.nameRangeInvalid)
  let name := resolveDynamicStringLogged host view reference ⟨range⟩
  ⟨name.log, name.result.mapError fun _ => .nameUnreadableOrUnterminated⟩

end Watched

section Logs

variable {host : Host} {view : InitializedImageView} {reference : DynamicStringRef}
  {table : DynamicStringTableDescriptor} {start : GuestAddress}

theorem result_stringByteLogged (start : GuestAddress) (offset : UInt64) :
    (stringByteLogged view reference start offset).result =
      stringByte view reference start offset := by
  rw [stringByteLogged, Logged.result_bind]
  rfl

theorem result_stringLengthLogged (start : GuestAddress) (remaining : ℕ) (offset : UInt64) :
    (stringLengthLogged view reference start remaining offset).result =
      stringLength view reference start remaining offset := by
  induction remaining generalizing offset with
  | zero => rfl
  | succ remaining ih =>
    rw [stringLengthLogged, stringLength, Logged.result_bind, result_stringByteLogged]
    refine congrArg _ (funext fun byte => ?_)
    by_cases hzero : byte = 0
    · rw [if_pos hzero, if_pos hzero]
      rfl
    · rw [if_neg hzero, if_neg hzero, ih]

theorem result_collect_stringByteLogged (start : GuestAddress) (count : ℕ) :
    (Logged.collect (fun index => stringByteLogged view reference start (UInt64.ofNat index))
      (List.range count)).result =
      (List.range count).mapM fun index =>
        stringByte view reference start (UInt64.ofNat index) := by
  rw [Logged.result_collect]
  simp only [result_stringByteLogged]

theorem result_resolveDynamicStringLogged :
    (resolveDynamicStringLogged host view reference table).result =
      resolveDynamicString host view reference table := by
  rw [resolveDynamicStringLogged, resolveDynamicString, Logged.result_bind, Logged.result_quiet]
  refine bind_congr fun _ => ?_
  rw [Logged.result_bind, Logged.result_quiet]
  refine bind_congr fun start => ?_
  rw [Logged.result_bind, result_stringLengthLogged]
  refine bind_congr fun found => ?_
  rw [Logged.result_bind, Logged.result_quiet]
  refine bind_congr fun length => ?_
  rw [Logged.result_bind, Logged.result_quiet]
  refine bind_congr fun _ => ?_
  rw [Logged.result_bind, Logged.result_quiet]
  refine bind_congr fun _ => ?_
  exact result_collect_stringByteLogged start length.toNat

theorem result_readBoundedNameLogged :
    (readBoundedNameLogged host view reference table).result =
      readBoundedName host view table reference := by
  rw [readBoundedNameLogged, readBoundedName, Logged.result_bind, Logged.result_quiet]
  refine bind_congr fun _ => ?_
  rw [Logged.result_bind, Logged.result_quiet]
  refine bind_congr fun range => ?_
  dsimp only
  rw [result_resolveDynamicStringLogged]

/-- The addresses of the string's place, as far as the table goes. -/
def InString (table : DynamicStringTableDescriptor) (reference : DynamicStringRef)
    (address : GuestAddress) : Prop :=
  table.range.base.toNat + reference.offset.toNat ≤ address.toNat ∧ address.toNat < table.range.last

variable {p : GuestAddress → Prop}

theorem looksIn_stringByteLogged {offset : UInt64}
    (h : ∀ address : GuestAddress, address.toNat = start.toNat + offset.toNat → p address) :
    (stringByteLogged view reference start offset).LooksIn p := by
  refine (Logged.looksIn_quiet _).bind fun address haddress => Logged.looksIn_look (h address ?_) _
  rw [Logged.result_quiet, stringAddressAt, mapError_eq_ok] at haddress
  exact (GuestAddress.checkedAdd_eq_ok haddress).2

theorem looksIn_stringLengthLogged {offset : UInt64} (hbound : offset.toNat + remaining < 2 ^ 64)
    (h : ∀ address : GuestAddress, start.toNat + offset.toNat ≤ address.toNat → address.toNat <
      start.toNat + offset.toNat + remaining → p address) :
    (stringLengthLogged view reference start remaining offset).LooksIn p := by
  induction remaining generalizing offset with
  | zero => exact Logged.looksIn_pure _
  | succ remaining ih =>
    refine (looksIn_stringByteLogged fun address haddress => h address (by omega) (by omega)).bind
      fun byte _ => ?_
    split_ifs with hzero
    · exact Logged.looksIn_pure _
    · have hnext : (offset + 1).toNat = offset.toNat + 1 := by
        rw [UInt64.toNat_add, UInt64.toNat_one, Nat.mod_eq_of_lt (by omega)]
      exact ih (by omega) fun address hlow hhigh => h address (by omega) (by omega)

theorem stringLength_lt {offset length : UInt64} (hbound : offset.toNat + remaining < 2 ^ 64)
    (h : stringLength view reference start remaining offset = .ok (some length)) :
    length.toNat < offset.toNat + remaining := by
  induction remaining generalizing offset with
  | zero => cases h
  | succ remaining ih =>
    rw [stringLength, bind_eq_ok] at h
    obtain ⟨byte, -, h⟩ := h
    by_cases hzero : byte = 0
    · rw [if_pos hzero] at h
      cases h
      omega
    · rw [if_neg hzero] at h
      have hnext : (offset + 1).toNat = offset.toNat + 1 := by
        rw [UInt64.toNat_add, UInt64.toNat_one, Nat.mod_eq_of_lt (by omega)]
      have hlt := ih (by omega) h
      omega

/-- **A string is looked for in its table**, behind its offset. -/
theorem looksIn_resolveDynamicStringLogged :
    (resolveDynamicStringLogged host view reference table).LooksIn (InString table reference) := by
  refine (Logged.looksIn_quiet _).bind fun _ hoffset =>
    (Logged.looksIn_quiet _).bind fun start hstart => ?_
  rw [Logged.result_quiet, refuseIf_eq_ok] at hoffset
  rw [Logged.result_quiet, stringAddressAt, mapError_eq_ok] at hstart
  have hbase := (GuestAddress.checkedAdd_eq_ok hstart).2
  rw [GuestSize.toNat_mk] at hbase
  have hle : reference.offset ≤ table.range.size.value := UInt64.le_of_lt (UInt64.not_le.mp hoffset)
  have hremaining : (table.range.size.value - reference.offset).toNat =
      table.range.size.toNat - reference.offset.toNat := UInt64.toNat_sub_of_le _ _ hle
  have hle' : reference.offset.toNat ≤ table.range.size.toNat := UInt64.le_iff_toNat_le.mp hle
  have hlast : table.range.last = table.range.base.toNat + table.range.size.toNat := rfl
  have hsize := table.range.size.toNat_lt
  have hbound : (0 : UInt64).toNat + (table.range.size.value - reference.offset).toNat <
      2 ^ 64 := by
    rw [hremaining, UInt64.toNat_zero]
    omega
  refine Logged.LooksIn.bind ?_ fun found hfound => ?_
  · refine looksIn_stringLengthLogged hbound fun address hlow hhigh => ?_
    rw [UInt64.toNat_zero] at hlow hhigh
    exact ⟨by omega, by omega⟩
  · rw [result_stringLengthLogged] at hfound
    refine (Logged.looksIn_quiet _).bind fun length hlength =>
      (Logged.looksIn_quiet _).bind fun _ _ =>
      (Logged.looksIn_quiet _).bind fun _ _ => Logged.looksIn_collect fun index hindex => ?_
    rw [Logged.result_quiet, orRefuse_eq_ok] at hlength
    subst hlength
    have hlt := stringLength_lt hbound hfound
    rw [List.mem_range] at hindex
    rw [UInt64.toNat_zero] at hlt
    refine looksIn_stringByteLogged fun address haddress => ?_
    rw [toNat_ofNat_of_lt (by omega)] at haddress
    exact ⟨by omega, by omega⟩

end Logs

/-! ### What the readers answer -/

/-- The string at the reference, inside the table: its bytes are what the view reads there, none is
zero, and the next one is. -/
structure StringInTable (view : InitializedImageView) (table : DynamicStringTableDescriptor)
    (reference : DynamicStringRef) (name : List UInt8) : Prop where
  offset : reference.offset.toNat < table.range.size.toNat
  inside : reference.offset.toNat + name.length < table.range.size.toNat
  no_zero : 0 ∉ name
  bytes : ∀ (index : ℕ) (byte : UInt8), name[index]? = some byte → ∀ address : GuestAddress,
    address.toNat = table.range.base.toNat + reference.offset.toNat + index →
      view.readByte address = .ok byte
  terminator : ∀ address : GuestAddress,
    address.toNat = table.range.base.toNat + reference.offset.toNat + name.length →
      view.readByte address = .ok 0

/-- The host can make a string of the name. -/
structure HostHolds (host : Host) (name : List UInt8) : Prop where
  length : name.length ≤ kStringMaxSize
  memory : host.allocation .dynamicString = none

section Answers

variable {host : Host} {view : InitializedImageView} {reference : DynamicStringRef}
  {table : DynamicStringTableDescriptor} {start : GuestAddress} {offset length : UInt64}
  {byte : UInt8} {name : List UInt8}

theorem stringByte_of_read (hlt : start.toNat + offset.toNat < 2 ^ 64)
    (hread : ∀ address : GuestAddress, address.toNat = start.toNat + offset.toNat →
      view.readByte address = .ok byte) :
    stringByte view reference start offset = .ok byte := by
  have hadd : start.checkedAdd ⟨offset⟩ = .ok ⟨start.value + offset⟩ :=
    GuestAddress.checkedAdd_of_lt hlt
  have haddress := (GuestAddress.checkedAdd_eq_ok hadd).2
  rw [stringByte, stringAddressAt, hadd, mapError_ok, ok_bind, hread _ haddress, mapError_ok]

theorem stringLength_of_string (hfits : start.toNat + name.length < 2 ^ 64)
    (hbytes : ∀ (index : ℕ) (byte : UInt8), name[index]? = some byte → byte ≠ 0 ∧ stringByte view
      reference start (UInt64.ofNat index) = .ok byte)
    (hterminator : stringByte view reference start (UInt64.ofNat name.length) = .ok 0)
    (hlow : offset.toNat ≤ name.length) (hhigh : name.length < offset.toNat + remaining) :
    stringLength view reference start remaining offset = .ok (some (UInt64.ofNat name.length)) := by
  induction remaining generalizing offset with
  | zero => omega
  | succ remaining ih =>
    rw [stringLength]
    by_cases hend : offset.toNat = name.length
    · have hoffset : offset = UInt64.ofNat name.length := by rw [← hend, UInt64.ofNat_toNat]
      rw [hoffset, hterminator, ok_bind, if_pos rfl]
    · have hlt : offset.toNat < name.length := by omega
      obtain ⟨hnonzero, hread⟩ := hbytes offset.toNat _ (List.getElem?_eq_getElem hlt)
      rw [UInt64.ofNat_toNat] at hread
      have hnext : (offset + 1).toNat = offset.toNat + 1 := by
        rw [UInt64.toNat_add, UInt64.toNat_one, Nat.mod_eq_of_lt (by omega)]
      rw [hread, ok_bind, if_neg hnonzero]
      exact ih (by omega) (by omega)

theorem resolveDynamicString_of_string (hhost : HostHolds host name)
    (h : StringInTable view table reference name) :
    resolveDynamicString host view reference table = .ok name := by
  have hwrap := table.range.noWrap
  have hoffset : ¬ reference.offset ≥ table.range.size.value :=
    UInt64.not_le.mpr (UInt64.lt_iff_toNat_lt.mpr h.offset)
  have hremaining : (table.range.size.value - reference.offset).toNat =
      table.range.size.toNat - reference.offset.toNat :=
    UInt64.toNat_sub_of_le _ _ (UInt64.le_of_lt (UInt64.not_le.mp hoffset))
  have hinside := h.inside
  have hadd : table.range.base.checkedAdd ⟨reference.offset⟩ =
      .ok ⟨table.range.base.value + reference.offset⟩ := by
    apply GuestAddress.checkedAdd_of_lt
    rw [GuestSize.toNat_mk]
    omega
  have hstart := (GuestAddress.checkedAdd_eq_ok hadd).2
  rw [GuestSize.toNat_mk] at hstart
  generalize GuestAddress.mk (table.range.base.value + reference.offset) = start at hadd hstart
  have hbytes : ∀ (index : ℕ) (byte : UInt8), name[index]? = some byte → byte ≠ 0 ∧
      stringByte view reference start (UInt64.ofNat index) = .ok byte := by
    intro index byte hbyte
    obtain ⟨hindex, rfl⟩ := List.getElem?_eq_some_iff.mp hbyte
    have hsmall : (UInt64.ofNat index).toNat = index := toNat_ofNat_of_lt (by omega)
    refine ⟨fun hzero => h.no_zero (hzero ▸ List.getElem_mem hindex),
      stringByte_of_read (by omega) ?_⟩
    intro address haddress
    exact h.bytes index _ hbyte address (by omega)
  have hterminator : stringByte view reference start (UInt64.ofNat name.length) = .ok 0 := by
    have hsmall : (UInt64.ofNat name.length).toNat = name.length := toNat_ofNat_of_lt (by omega)
    refine stringByte_of_read (by omega) fun address haddress => h.terminator address (by omega)
  have hlength : stringLength view reference start
    (table.range.size.value - reference.offset).toNat 0 =
      .ok (some (UInt64.ofNat name.length)) := by
    refine stringLength_of_string (by omega) hbytes hterminator (Nat.zero_le _) ?_
    rw [hremaining, UInt64.toNat_zero]
    omega
  have hcount : (UInt64.ofNat name.length).toNat = name.length := toNat_ofNat_of_lt (by omega)
  have hcollect : (List.range name.length).mapM
    (fun index => stringByte view reference start (UInt64.ofNat index)) =
      .ok name := by
    rw [mapM_eq_ok, List.forall₂_iff_get]
    refine ⟨List.length_range, fun index hindex hindex' => ?_⟩
    rw [List.get_eq_getElem, List.get_eq_getElem, List.getElem_range]
    exact (hbytes index _ (List.getElem?_eq_getElem hindex')).2
  rw [resolveDynamicString]
  simp only [bind_eq_ok, refuseIf_eq_ok, orRefuse_eq_ok, allocate_eq_ok, stringAddressAt,
    mapError_eq_ok]
  refine ⟨(), hoffset, start, hadd, _, hlength, _, rfl, (), ?_, (), hhost.memory, ?_⟩
  · rw [hcount]
    exact Nat.not_lt.mpr hhost.length
  · rw [hcount]
    exact hcollect

/-- **What a resolved string is**, and that it is found. -/
theorem resolveDynamicString_eq_ok_iff :
    resolveDynamicString host view reference table = .ok name ↔
      HostHolds host name ∧ StringInTable view table reference name := by
  constructor
  · intro h
    have hholds := resolveDynamicString_eq_ok h
    simp only [resolveDynamicString, bind_eq_ok, refuseIf_eq_ok, orRefuse_eq_ok, allocate_eq_ok]
      at h
    obtain ⟨-, hoffset, start, -, found, hfound, length, rfl, -, hmax, -, hmemory, hname⟩ := h
    have hle : reference.offset ≤ table.range.size.value :=
      UInt64.le_of_lt (UInt64.not_le.mp hoffset)
    have hlt : reference.offset.toNat < table.range.size.toNat :=
      UInt64.lt_iff_toNat_lt.mp (UInt64.not_le.mp hoffset)
    have hremaining : (table.range.size.value - reference.offset).toNat =
        table.range.size.toNat - reference.offset.toNat := UInt64.toNat_sub_of_le _ _ hle
    have hsize := table.range.size.toNat_lt
    have hbound : (0 : UInt64).toNat + (table.range.size.value - reference.offset).toNat <
        2 ^ 64 := by
      rw [hremaining, UInt64.toNat_zero]
      omega
    have hend := stringLength_lt hbound hfound
    rw [hremaining, UInt64.toNat_zero] at hend
    have hlength : name.length = length.toNat := by
      rw [mapM_eq_ok] at hname
      rw [← hname.length_eq, List.length_range]
    refine ⟨⟨by rw [hlength]; exact Nat.not_lt.mp hmax, hmemory⟩, ?_⟩
    refine ⟨hlt, by omega, ?_, fun index byte hbyte => (hholds.bytes index byte hbyte).2,
      hholds.terminator⟩
    intro hzero
    obtain ⟨index, hindex⟩ := List.mem_iff_getElem?.mp hzero
    exact (hholds.bytes index 0 hindex).1 rfl
  · rintro ⟨hhost, hstring⟩
    exact resolveDynamicString_of_string hhost hstring

/-- The cut table is as long as the original, but for the longest name. -/
theorem toNat_cutSize (h : reference.offset.toNat < table.range.size.toNat) :
    (reference.offset + min (table.range.size.value - reference.offset)
      (kMaxDependencyNameBytes + 1)).toNat =
      min table.range.size.toNat (reference.offset.toNat + 257) := by
  have hsize := table.range.size.toNat_lt
  have hremaining : (table.range.size.value - reference.offset).toNat =
      table.range.size.toNat - reference.offset.toNat :=
    UInt64.toNat_sub_of_le _ _ (UInt64.le_of_lt (UInt64.lt_iff_toNat_lt.mpr h))
  have hmin :
    (min (table.range.size.value - reference.offset) (kMaxDependencyNameBytes + 1)).toNat =
      min (table.range.size.toNat - reference.offset.toNat) 257 := by
    rw [toNat_min, hremaining]
    rfl
  rw [UInt64.toNat_add, hmin, Nat.mod_eq_of_lt (by omega)]
  omega

theorem readBoundedName_of_lt (h : reference.offset.toNat < table.range.size.toNat) :
    ∃ range : GuestRange, range.base = table.range.base ∧
      range.size.toNat = min table.range.size.toNat (reference.offset.toNat + 257) ∧
      readBoundedName host view table reference =
        (resolveDynamicString host view reference ⟨range⟩).mapError fun _ =>
          .nameUnreadableOrUnterminated := by
  have hwrap := table.range.noWrap
  have hoffset : ¬ reference.offset ≥ table.range.size.value :=
    UInt64.not_le.mpr (UInt64.lt_iff_toNat_lt.mpr h)
  have hrange : table.range.base.toNat + (GuestSize.mk (reference.offset +
      min (table.range.size.value - reference.offset) (kMaxDependencyNameBytes + 1))).toNat ≤
        2 ^ 64 := by
    rw [GuestSize.toNat_mk, toNat_cutSize h]
    omega
  refine ⟨⟨_, _, hrange⟩, rfl, toNat_cutSize h, ?_⟩
  rw [readBoundedName, refuseIf_of_not hoffset, ok_bind]
  dsimp only
  rw [GuestRange.create_of_le hrange, mapError_ok, ok_bind]

theorem readBoundedName_of_le (h : table.range.size.toNat ≤ reference.offset.toNat) :
    readBoundedName host view table reference = .error .nameOffsetOutOfBounds := by
  have hoffset : reference.offset ≥ table.range.size.value := UInt64.le_iff_toNat_le.mpr h
  rw [readBoundedName, refuseIf, if_pos hoffset]
  rfl

/-- A name that fits behind its offset is in the cut table as it is in the original. -/
theorem stringInTable_cut {range : GuestRange} (hbase : range.base = table.range.base)
    (hsize : range.size.toNat = min table.range.size.toNat (reference.offset.toNat + 257)) :
    StringInTable view ⟨range⟩ reference name ↔ StringInTable view table reference name ∧
    name.length ≤ 256 := by
  constructor
  · intro h
    have hinside := h.inside
    rw [hsize] at hinside
    refine ⟨⟨by omega, by omega, h.no_zero, ?_, ?_⟩, by omega⟩
    · rw [← hbase]
      exact h.bytes
    · rw [← hbase]
      exact h.terminator
  · rintro ⟨h, hlength⟩
    have hinside := h.inside
    refine ⟨by rw [hsize]; omega, by rw [hsize]; omega, h.no_zero, ?_, ?_⟩
    · rw [hbase]
      exact h.bytes
    · rw [hbase]
      exact h.terminator

/-- **A bounded name is a string that is short enough.** -/
theorem readBoundedName_eq_ok_iff :
    readBoundedName host view table reference = .ok name ↔
      resolveDynamicString host view reference table = .ok name ∧ name.length ≤ 256 := by
  by_cases h : reference.offset.toNat < table.range.size.toNat
  · obtain ⟨range, hbase, hsize, hread⟩ := @readBoundedName_of_lt host view reference table h
    rw [hread, mapError_eq_ok, resolveDynamicString_eq_ok_iff, resolveDynamicString_eq_ok_iff,
      stringInTable_cut hbase hsize, and_assoc]
  · rw [readBoundedName_of_le (Nat.not_lt.mp h), resolveDynamicString_eq_ok_iff]
    constructor
    · intro hok
      cases hok
    · rintro ⟨⟨-, hstring⟩, -⟩
      exact absurd hstring.offset h

theorem leavesWith_readBoundedName :
    LeavesWith (fun fault => fault = .nameOffsetOutOfBounds ∨ fault = .nameUnreadableOrUnterminated)
      (readBoundedName host view table reference) := by
  intro fault hfault
  by_cases h : reference.offset.toNat < table.range.size.toNat
  · obtain ⟨range, -, -, hread⟩ := @readBoundedName_of_lt host view reference table h
    rw [hread, mapError_eq_error] at hfault
    obtain ⟨_, -, rfl⟩ := hfault
    exact .inr rfl
  · rw [readBoundedName_of_le (Nat.not_lt.mp h)] at hfault
    cases hfault
    exact .inl rfl

/-- **The bounded reader looks at the first 257 bytes** of the string's place, as far as the table
goes. -/
theorem looksIn_readBoundedNameLogged :
    (readBoundedNameLogged host view reference table).LooksIn fun address =>
      InString table reference address ∧
      address.toNat < table.range.base.toNat + reference.offset.toNat + 257 := by
  refine (Logged.looksIn_quiet _).bind fun _ hoffset =>
    (Logged.looksIn_quiet _).bind fun range hrange => ?_
  rw [Logged.result_quiet, refuseIf_eq_ok] at hoffset
  rw [Logged.result_quiet, mapError_eq_ok] at hrange
  obtain ⟨hbase, hsize⟩ := GuestRange.create_eq_ok hrange
  have hlt : reference.offset.toNat < table.range.size.toNat :=
    UInt64.lt_iff_toNat_lt.mp (UInt64.not_le.mp hoffset)
  have hcut : range.size.toNat = min table.range.size.toNat (reference.offset.toNat + 257) := by
    rw [hsize, GuestSize.toNat_mk, toNat_cutSize hlt]
  intro address hmem
  obtain ⟨hlow, hhigh⟩ := looksIn_resolveDynamicStringLogged address hmem
  dsimp only at hlow hhigh
  rw [GuestRange.last, hbase, hcut] at hhigh
  rw [hbase] at hlow
  refine ⟨⟨hlow, ?_⟩, by omega⟩
  rw [GuestRange.last]
  omega

theorem length_dedup_le {log : List GuestAddress} {low count : ℕ}
    (h : ∀ address ∈ log, low ≤ address.toNat ∧ address.toNat < low + count) :
    log.dedup.length ≤ count := by
  have hinj : Function.Injective GuestAddress.toNat := fun _ _ heq => GuestAddress.toNat_inj.mp heq
  have hsub : (log.map GuestAddress.toNat).toFinset ⊆ Finset.Ico low (low + count) := by
    intro place hplace
    obtain ⟨address, hmem, rfl⟩ := List.mem_map.mp (List.mem_toFinset.mp hplace)
    exact Finset.mem_Ico.mpr (h address hmem)
  have hcard := Finset.card_le_card hsub
  rwa [Nat.card_Ico, Nat.add_sub_cancel_left, List.card_toFinset, List.dedup_map_of_injective hinj,
    List.length_map] at hcard

/-- **Bounded names agree with full string resolution.** A string is resolved exactly when it is in
the table and the host can make it; a bounded name is a resolved string of at most 256 bytes, and
the table that is cut off is always a range. The full reader looks at no byte outside the table or
before the string, the bounded one besides at 257 at most. -/
theorem boundedNames_agree (host : Host) (view : InitializedImageView)
    (table : DynamicStringTableDescriptor) (reference : DynamicStringRef) :
    (∀ name, resolveDynamicString host view reference table = .ok name ↔
      HostHolds host name ∧ StringInTable view table reference name) ∧
    (∀ name, readBoundedName host view table reference = .ok name ↔
      resolveDynamicString host view reference table = .ok name ∧ name.length ≤ 256) ∧
    readBoundedName host view table reference ≠ .error .nameRangeInvalid ∧
    ((resolveDynamicStringLogged host view reference table).result =
      resolveDynamicString host view reference table ∧
    (resolveDynamicStringLogged host view reference table).LooksIn (InString table reference)) ∧
    (readBoundedNameLogged host view reference table).result =
      readBoundedName host view table reference ∧
      (readBoundedNameLogged host view reference table).LooksIn (InString table reference) ∧
      (readBoundedNameLogged host view reference table).log.dedup.length ≤ 257 := by
  refine ⟨fun name => resolveDynamicString_eq_ok_iff, fun name => readBoundedName_eq_ok_iff, ?_, ?_,
    ?_, ?_, ?_⟩
  · intro hfault
    rcases leavesWith_readBoundedName _ hfault with h | h
    · cases h
    · cases h
  · exact ⟨result_resolveDynamicStringLogged, looksIn_resolveDynamicStringLogged⟩
  · exact result_readBoundedNameLogged
  · exact looksIn_readBoundedNameLogged.mono fun address h => h.1
  · refine @length_dedup_le _ (table.range.base.toNat + reference.offset.toNat) 257
      fun address hmem => ?_
    obtain ⟨⟨hlow, -⟩, hhigh⟩ := looksIn_readBoundedNameLogged address hmem
    exact ⟨hlow, hhigh⟩

end Answers

end Astraea.App
