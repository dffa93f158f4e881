import Astraea.Loader.Elf64
import Astraea.Memory.GuestAddress

/-!
# The dynamic table

`parse_dynamic_table` reads the entries of a `PT_DYNAMIC` segment up to the first
terminator, and `build_dynamic_string_metadata` collects from them where the strings
are and which strings the image refers to. A tag that may occur once may be repeated
with the same value: `mergeSingleton` is that rule, used for the strings, the symbol
table and the relocation tables alike.
-/

namespace Astraea.Loader

open Astraea.Base Astraea.Memory

/-- Why a dynamic table is refused. -/
inductive DynamicErrorCode where
  | notDynamicSegment
  | integerOverflow
  | segmentOutOfBounds
  | invalidSegmentSize
  | missingTerminator
  deriving DecidableEq

/-- A dynamic table that is refused, with the entry it is about. -/
structure DynamicError where
  code : DynamicErrorCode
  entryIndex : Option ℕ
  fileOffset : UInt64
  deriving DecidableEq

/-- An entry of the table: a tag and a value. -/
structure DynamicEntry where
  tag : Int64
  value : UInt64
  index : ℕ
  deriving DecidableEq

/-- The entries of a dynamic table. -/
structure DynamicTable where
  entries : List DynamicEntry
  deriving DecidableEq

/-- The program header type of the dynamic segment. -/
def kPtDynamic : UInt32 := 2

/-- The tag of the last entry. -/
def kDtNull : Int64 := 0

/-- The bytes of an entry. -/
def kDynamicEntrySize : UInt64 := 16

/-- The entry at position `index` of the table at `offset`. -/
def readDynamicEntry (bytes : List UInt8) (offset index : ℕ) : DynamicEntry where
  tag := (u64At bytes (offset + index * 16)).toInt64
  value := u64At bytes (offset + index * 16 + 8)
  index := index

/-- The loop over the entries, `count` of them left from `index` on; `none` when they end
without a terminator. -/
def readDynamicEntries (bytes : List UInt8) (offset : ℕ) :
    (count index : ℕ) → Option (List DynamicEntry)
  | 0, _ => none
  | count + 1, index =>
    let entry := readDynamicEntry bytes offset index
    if entry.tag = kDtNull then some [entry]
    else (readDynamicEntries bytes offset count (index + 1)).map (entry :: ·)

/-- `parse_dynamic_table`. -/
def parseDynamicTable (bytes : List UInt8) (segment : ProgramHeader) :
    Except DynamicError DynamicTable := do
  refuseIf (segment.type ≠ kPtDynamic) ⟨.notDynamicSegment, none, segment.offset⟩
  refuseIf (segment.fileSize = 0) ⟨.missingTerminator, none, segment.offset⟩
  refuseIf (segment.fileSize % kDynamicEntrySize ≠ 0) ⟨.invalidSegmentSize, none, segment.offset⟩
  let segmentEnd ← orRefuse (checkedAdd segment.offset segment.fileSize)
    (⟨.integerOverflow, none, segment.offset⟩ : DynamicError)
  refuseIf (segment.offset.toNat > bytes.length ∨ segmentEnd.toNat > bytes.length)
    ⟨.segmentOutOfBounds, none, segment.offset⟩
  let entryCount := (segment.fileSize / kDynamicEntrySize).toNat
  let entries ← orRefuse (readDynamicEntries bytes segment.offset.toNat entryCount 0)
    (⟨.missingTerminator, some entryCount, segment.offset⟩ : DynamicError)
  return ⟨entries⟩

/-! ### Tags that occur once -/

/-- The value of a tag and the entry it was first found in. -/
structure SingletonValue where
  value : UInt64
  sourceEntryIndex : ℕ
  deriving DecidableEq

/-- `merge_singleton`: the first value of a tag is kept, another value is a conflict. -/
def mergeSingleton {ε : Type} (conflict : DynamicEntry → SingletonValue → ε)
    (slot : Option SingletonValue) (entry : DynamicEntry) : Except ε (Option SingletonValue) :=
  match slot with
  | none => .ok (some ⟨entry.value, entry.index⟩)
  | some found =>
    if found.value ≠ entry.value then .error (conflict entry found) else .ok (some found)

/-! ### Strings -/

/-- An offset into the strings, and the entry it comes from. -/
structure DynamicStringRef where
  offset : UInt64
  sourceEntryIndex : ℕ
  deriving DecidableEq

/-- Where the strings are. -/
structure DynamicStringTableDescriptor where
  range : GuestRange
  deriving DecidableEq

/-- What the tags of strings say. -/
structure DynamicStringMetadata where
  stringTable : Option DynamicStringTableDescriptor
  needed : List DynamicStringRef
  soname : Option DynamicStringRef
  deriving DecidableEq

/-- Why tags of strings are refused. -/
inductive DynamicMetadataErrorCode where
  | conflictingDynamicTag
  | missingRequiredCompanionTag
  | guestTableRangeOverflow
  | missingStringTable
  deriving DecidableEq

/-- Tags of strings that are refused, with the entry they are about. -/
structure DynamicMetadataError where
  code : DynamicMetadataErrorCode
  tag : Int64
  sourceEntryIndex : Option ℕ := none
  conflictingEntryIndex : Option ℕ := none
  deriving DecidableEq

/-- `DT_NEEDED`. -/
def kDtNeeded : Int64 := 1

/-- `DT_STRTAB`. -/
def kDtStrtab : Int64 := 5

/-- `DT_STRSZ`. -/
def kDtStrsz : Int64 := 10

/-- `DT_SONAME`. -/
def kDtSoname : Int64 := 14

/-- What the loop over the entries has collected. -/
structure StringTags where
  strtab : Option SingletonValue := none
  strsz : Option SingletonValue := none
  soname : Option SingletonValue := none
  needed : List DynamicStringRef := []
  deriving DecidableEq

/-- The tag was there before, with another value. -/
def metadataConflict (entry : DynamicEntry) (found : SingletonValue) : DynamicMetadataError :=
  { code := .conflictingDynamicTag, tag := entry.tag, sourceEntryIndex := entry.index,
    conflictingEntryIndex := found.sourceEntryIndex }

/-- The loop of the builder, at an entry. -/
def collectStringTag (tags : StringTags) (entry : DynamicEntry) :
    Except DynamicMetadataError StringTags :=
  if entry.tag = kDtNeeded then
    .ok { tags with needed := tags.needed ++ [⟨entry.value, entry.index⟩] }
  else if entry.tag = kDtStrtab then do
    let merged ← mergeSingleton metadataConflict tags.strtab entry
    return { tags with strtab := merged }
  else if entry.tag = kDtStrsz then do
    let merged ← mergeSingleton metadataConflict tags.strsz entry
    return { tags with strsz := merged }
  else if entry.tag = kDtSoname then do
    let merged ← mergeSingleton metadataConflict tags.soname entry
    return { tags with soname := merged }
  else .ok tags

/-- The string table, when both its address and its size are there. -/
def stringTableOf (tags : StringTags) :
    Except DynamicMetadataError (Option DynamicStringTableDescriptor) :=
  match tags.strtab, tags.strsz with
  | some strtab, some strsz => do
    let range ← (GuestRange.create ⟨strtab.value⟩ ⟨strsz.value⟩).mapError fun _ =>
      ({ code := .guestTableRangeOverflow, tag := kDtStrtab,
         sourceEntryIndex := strtab.sourceEntryIndex,
         conflictingEntryIndex := strsz.sourceEntryIndex } :
        DynamicMetadataError)
    return some ⟨range⟩
  | some strtab, none =>
    .error
      { code := .missingRequiredCompanionTag, tag := kDtStrsz,
        sourceEntryIndex := strtab.sourceEntryIndex }
  | none, some strsz =>
    .error
      { code := .missingRequiredCompanionTag, tag := kDtStrtab,
        sourceEntryIndex := strsz.sourceEntryIndex }
  | none, none =>
    -- references to strings need a table
    match tags.needed, tags.soname with
    | reference :: _, _ =>
      .error
        { code := .missingStringTable, tag := kDtNeeded,
          sourceEntryIndex := reference.sourceEntryIndex }
    | [], some soname =>
      .error
        { code := .missingStringTable, tag := kDtSoname,
          sourceEntryIndex := soname.sourceEntryIndex }
    | [], none => .ok none

/-- `build_dynamic_string_metadata`. -/
def buildDynamicStringMetadata (table : DynamicTable) :
    Except DynamicMetadataError DynamicStringMetadata := do
  let tags ← table.entries.foldlM collectStringTag {}
  let stringTable ← stringTableOf tags
  return ⟨stringTable, tags.needed,
    tags.soname.map fun soname => ⟨soname.value, soname.sourceEntryIndex⟩⟩

end Astraea.Loader
