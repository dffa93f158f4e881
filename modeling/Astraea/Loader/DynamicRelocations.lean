import Astraea.Loader.Dynamic
import Astraea.Memory.InitializedImageView

/-!
# Relocation tables

Where the relocation tables of an image are and how many records they have:
`build_general_dynamic_relocation_metadata` for `DT_REL` and `DT_RELA`,
`build_plt_dynamic_relocation_metadata` for the table of the procedure linkage.
-/

namespace Astraea.Loader

open Astraea.Base Astraea.Memory

/-- The kinds of relocation tables. -/
inductive RelocationTableKind where
  | rel
  | rela
  | pltRel
  | pltRela
  deriving DecidableEq

/-- Why tags of relocations are refused. -/
inductive DynamicRelocationErrorCode where
  | conflictingDynamicTag
  | missingRequiredCompanionTag
  | invalidRelocationEntrySize
  | invalidRelocationTableSize
  | relocationTableRangeOverflow
  | missingSymbolTable
  | relocationIndexOutOfBounds
  | relocationEntryUnreadable
  | relocationSymbolIndexOutOfBounds
  | invalidPltRelocationEncoding
  deriving DecidableEq

/-- Tags of relocations that are refused, with the entry they are about. -/
structure DynamicRelocationError where
  code : DynamicRelocationErrorCode
  tag : Option Int64 := none
  sourceEntryIndex : Option ℕ := none
  conflictingEntryIndex : Option ℕ := none
  tableKind : Option RelocationTableKind := none
  tableIndex : Option UInt64 := none
  guestAddress : Option GuestAddress := none
  symbolIndex : Option UInt32 := none
  imageError : Option InitializedImageError := none
  deriving DecidableEq

/-- Where a table of relocations is, and its number of records. -/
structure DynamicRelocationTableDescriptor where
  kind : RelocationTableKind
  range : GuestRange
  entrySize : GuestSize
  count : UInt64
  addressSourceEntryIndex : ℕ
  sizeSourceEntryIndex : ℕ
  encodingSourceEntryIndex : ℕ
  deriving DecidableEq

/-- A relocation. -/
structure DynamicRelocation where
  tableKind : RelocationTableKind
  tableIndex : UInt64
  target : GuestAddress
  rawInfo : UInt64
  symbolIndex : UInt32
  relocationType : UInt32
  addend : Option Int64
  deriving DecidableEq

/-- What the tags of relocations say. -/
structure GeneralDynamicRelocationMetadata where
  rel : Option DynamicRelocationTableDescriptor := none
  rela : Option DynamicRelocationTableDescriptor := none
  deriving DecidableEq

/-- `DT_PLTRELSZ`. -/
def kDtPltrelsz : Int64 := 2

/-- `DT_RELA`. -/
def kDtRela : Int64 := 7

/-- `DT_RELASZ`. -/
def kDtRelasz : Int64 := 8

/-- `DT_RELAENT`. -/
def kDtRelaent : Int64 := 9

/-- `DT_REL`. -/
def kDtRel : Int64 := 17

/-- `DT_RELSZ`. -/
def kDtRelsz : Int64 := 18

/-- `DT_RELENT`. -/
def kDtRelent : Int64 := 19

/-- `DT_PLTREL`. -/
def kDtPltrel : Int64 := 20

/-- `DT_JMPREL`. -/
def kDtJmprel : Int64 := 23

/-- The bytes of a relocation without an addend. -/
def kElf64RelSize : UInt64 := 16

/-- The bytes of a relocation with an addend. -/
def kElf64RelaSize : UInt64 := 24

/-- The three tags that describe one table. -/
structure GroupValues where
  address : Option SingletonValue := none
  size : Option SingletonValue := none
  entrySize : Option SingletonValue := none
  deriving DecidableEq

/-- The tag was there before, with another value. -/
def relocationConflict (entry : DynamicEntry) (found : SingletonValue) : DynamicRelocationError :=
  { code := .conflictingDynamicTag, tag := entry.tag, sourceEntryIndex := entry.index,
    conflictingEntryIndex := found.sourceEntryIndex }

/-- `group_active`. -/
def groupActive (group : GroupValues) : Bool :=
  group.address.isSome || group.size.isSome || group.entrySize.isSome

/-- The check of the table's size and range that all kinds of table share. -/
def describeTable (kind : RelocationTableKind) (addressTag sizeTag : Int64) (entrySize : UInt64)
    (address size encoding : SingletonValue) :
    Except DynamicRelocationError DynamicRelocationTableDescriptor := do
  refuseIf (size.value % entrySize ≠ 0)
    { code := .invalidRelocationTableSize, tag := sizeTag,
      sourceEntryIndex := size.sourceEntryIndex, tableKind := kind }
  let range ← (GuestRange.create ⟨address.value⟩ ⟨size.value⟩).mapError fun _ =>
    ({ code := .relocationTableRangeOverflow, tag := addressTag,
       sourceEntryIndex := address.sourceEntryIndex, tableKind := kind,
       guestAddress := some ⟨address.value⟩ } :
      DynamicRelocationError)
  return ⟨kind, range, ⟨entrySize⟩, size.value / entrySize, address.sourceEntryIndex,
    size.sourceEntryIndex, encoding.sourceEntryIndex⟩

/-- `build_group`. -/
def buildGroup (group : GroupValues) (kind : RelocationTableKind)
    (addressTag sizeTag entryTag : Int64) (requiredEntrySize : UInt64) :
    Except DynamicRelocationError (Option DynamicRelocationTableDescriptor) :=
  if groupActive group = false then .ok none
  else do
    let address ← orRefuse group.address
      ({ code := .missingRequiredCompanionTag, tag := addressTag, tableKind := kind } :
        DynamicRelocationError)
    let size ← orRefuse group.size
      ({ code := .missingRequiredCompanionTag, tag := sizeTag,
         sourceEntryIndex := address.sourceEntryIndex, tableKind := kind } : DynamicRelocationError)
    let entrySize ← orRefuse group.entrySize
      ({ code := .missingRequiredCompanionTag, tag := entryTag,
         sourceEntryIndex := address.sourceEntryIndex, tableKind := kind } : DynamicRelocationError)
    refuseIf (entrySize.value ≠ requiredEntrySize)
      { code := .invalidRelocationEntrySize, tag := entryTag,
        sourceEntryIndex := entrySize.sourceEntryIndex, tableKind := kind }
    (describeTable kind addressTag sizeTag requiredEntrySize address size entrySize).map some

/-- What the loop over the entries has collected. -/
structure RelocationTags where
  rel : GroupValues := {}
  rela : GroupValues := {}
  deriving DecidableEq

/-- The loop of the builder, at an entry. -/
def collectRelocationTag (tags : RelocationTags) (entry : DynamicEntry) :
    Except DynamicRelocationError RelocationTags :=
  if entry.tag = kDtRela then do
    let merged ← mergeSingleton relocationConflict tags.rela.address entry
    return { tags with rela := { tags.rela with address := merged } }
  else if entry.tag = kDtRelasz then do
    let merged ← mergeSingleton relocationConflict tags.rela.size entry
    return { tags with rela := { tags.rela with size := merged } }
  else if entry.tag = kDtRelaent then do
    let merged ← mergeSingleton relocationConflict tags.rela.entrySize entry
    return { tags with rela := { tags.rela with entrySize := merged } }
  else if entry.tag = kDtRel then do
    let merged ← mergeSingleton relocationConflict tags.rel.address entry
    return { tags with rel := { tags.rel with address := merged } }
  else if entry.tag = kDtRelsz then do
    let merged ← mergeSingleton relocationConflict tags.rel.size entry
    return { tags with rel := { tags.rel with size := merged } }
  else if entry.tag = kDtRelent then do
    let merged ← mergeSingleton relocationConflict tags.rel.entrySize entry
    return { tags with rel := { tags.rel with entrySize := merged } }
  else .ok tags

/-- `build_general_dynamic_relocation_metadata`. -/
def buildGeneralDynamicRelocationMetadata (table : DynamicTable) :
    Except DynamicRelocationError GeneralDynamicRelocationMetadata := do
  let tags ← table.entries.foldlM collectRelocationTag {}
  let rel ← buildGroup tags.rel .rel kDtRel kDtRelsz kDtRelent kElf64RelSize
  let rela ← buildGroup tags.rela .rela kDtRela kDtRelasz kDtRelaent kElf64RelaSize
  return ⟨rel, rela⟩

/-- The loop of the builder of the jump slots, at an entry. -/
def collectPltTag (group : GroupValues) (entry : DynamicEntry) :
    Except DynamicRelocationError GroupValues :=
  if entry.tag = kDtJmprel then do
    let merged ← mergeSingleton relocationConflict group.address entry
    return { group with address := merged }
  else if entry.tag = kDtPltrelsz then do
    let merged ← mergeSingleton relocationConflict group.size entry
    return { group with size := merged }
  else if entry.tag = kDtPltrel then do
    let merged ← mergeSingleton relocationConflict group.entrySize entry
    return { group with entrySize := merged }
  else .ok group

/-- The kind of table a `DT_PLTREL` value names, and the size of its records. -/
def pltEncoding (value : UInt64) : Option (RelocationTableKind × UInt64) :=
  if value = kDtRel.toUInt64 then some (.pltRel, kElf64RelSize)
  else if value = kDtRela.toUInt64 then some (.pltRela, kElf64RelaSize)
  else none

/-- The part of `build_plt_dynamic_relocation_metadata` behind its loop: the third tag is the
encoding here. -/
def buildPltGroup (group : GroupValues) :
    Except DynamicRelocationError (Option DynamicRelocationTableDescriptor) := do
  if groupActive group = false then return none
  let address ← orRefuse group.address
    ({ code := .missingRequiredCompanionTag, tag := kDtJmprel } : DynamicRelocationError)
  let size ← orRefuse group.size
    ({ code := .missingRequiredCompanionTag, tag := kDtPltrelsz,
       sourceEntryIndex := address.sourceEntryIndex } : DynamicRelocationError)
  let encoding ← orRefuse group.entrySize
    ({ code := .missingRequiredCompanionTag, tag := kDtPltrel,
       sourceEntryIndex := address.sourceEntryIndex } : DynamicRelocationError)
  let (kind, entrySize) ← orRefuse (pltEncoding encoding.value)
    ({ code := .invalidPltRelocationEncoding, tag := kDtPltrel,
       sourceEntryIndex := encoding.sourceEntryIndex } : DynamicRelocationError)
  (describeTable kind kDtJmprel kDtPltrelsz entrySize address size encoding).map some

/-- `build_plt_dynamic_relocation_metadata`. -/
def buildPltDynamicRelocationMetadata (table : DynamicTable) :
    Except DynamicRelocationError (Option DynamicRelocationTableDescriptor) := do
  let group ← table.entries.foldlM collectPltTag {}
  buildPltGroup group

end Astraea.Loader
