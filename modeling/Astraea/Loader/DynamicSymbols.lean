import Astraea.Loader.HashEvidence

/-!
# The dynamic symbol table

`build_dynamic_symbol_table_descriptor`: where the symbol table is and how many symbols
it has, from up to three independent counts that have to agree, with the reserved first
symbol checked and, for a count from a GNU table, every byte of the table read once.
-/

namespace Astraea.Loader

open Astraea.Base Astraea.Memory

/-- Why symbols are refused. -/
inductive DynamicSymbolErrorCode where
  | conflictingDynamicTag
  | missingRequiredCompanionTag
  | invalidSymbolEntrySize
  | invalidSymbolTableSize
  | symbolCountUnavailable
  | conflictingSymbolCount
  | symbolTableSizeOverflow
  | symbolTableRangeOverflow
  | sysvHashFailure
  | symbolIndexOutOfBounds
  | symbolEntryUnreadable
  | invalidUndefinedSymbol
  | gnuHashFailure
  deriving DecidableEq

/-- Symbols that are refused, with the entry or symbol they are about. -/
structure DynamicSymbolError where
  code : DynamicSymbolErrorCode
  tag : Option Int64 := none
  sourceEntryIndex : Option ℕ := none
  conflictingEntryIndex : Option ℕ := none
  symbolIndex : Option UInt64 := none
  guestAddress : Option GuestAddress := none
  sysvHashError : Option SysvHashError := none
  imageError : Option InitializedImageError := none
  gnuHashError : Option GnuHashError := none
  deriving DecidableEq

/-- Where the symbols are, and what tells their number. -/
structure DynamicSymbolTableDescriptor where
  range : GuestRange
  entrySize : GuestSize
  symbolCount : UInt64
  countFromSymtabsz : Bool
  countFromSysvHash : Bool
  symtabSourceEntryIndex : ℕ
  symentSourceEntryIndex : ℕ
  symtabszSourceEntryIndex : Option ℕ
  hashSourceEntryIndex : Option ℕ
  countFromGnuHash : Bool
  gnuHashSourceEntryIndex : Option ℕ
  deriving DecidableEq

/-- A symbol. -/
structure DynamicSymbol where
  index : UInt64
  nameOffset : UInt32
  info : UInt8
  other : UInt8
  sectionIndexRaw : UInt16
  value : UInt64
  size : UInt64
  deriving DecidableEq

/-- `binding()`. -/
def DynamicSymbol.binding (symbol : DynamicSymbol) : UInt8 := symbol.info >>> 4

/-- `DT_SYMTAB`. -/
def kDtSymtab : Int64 := 6

/-- `DT_SYMENT`. -/
def kDtSyment : Int64 := 11

/-- `DT_SYMTABSZ`. -/
def kDtSymtabsz : Int64 := 39

/-- The bytes of a symbol. -/
def kElf64SymbolSize : UInt64 := 24

/-- `read_symbol`. -/
def readSymbol (descriptor : DynamicSymbolTableDescriptor) (index : UInt64)
    (view : InitializedImageView) (enforceBounds : Bool) :
    Except DynamicSymbolError DynamicSymbol := do
  refuseIf (enforceBounds = true ∧ index ≥ descriptor.symbolCount)
    { code := .symbolIndexOutOfBounds, sourceEntryIndex := descriptor.symtabSourceEntryIndex,
      symbolIndex := index }
  refuseIf (index > u64Max / kElf64SymbolSize)
    { code := .symbolTableSizeOverflow, sourceEntryIndex := descriptor.symtabSourceEntryIndex,
      symbolIndex := index }
  let address ← (descriptor.range.base.checkedAdd ⟨index * kElf64SymbolSize⟩).mapError fun _ =>
    ({ code := .symbolTableRangeOverflow, sourceEntryIndex := descriptor.symtabSourceEntryIndex,
       symbolIndex := index, guestAddress := descriptor.range.base } : DynamicSymbolError)
  let range ← (GuestRange.create address ⟨kElf64SymbolSize⟩).mapError fun _ =>
    ({ code := .symbolTableRangeOverflow, sourceEntryIndex := descriptor.symtabSourceEntryIndex,
       symbolIndex := index, guestAddress := address } : DynamicSymbolError)
  let bytes ← (view.copyBytes range kElf64SymbolSize.toNat).mapError
      fun (e : InitializedImageError) =>
    ({ code := .symbolEntryUnreadable, sourceEntryIndex := descriptor.symtabSourceEntryIndex,
       symbolIndex := index, guestAddress := e.guestAddress.getD address, imageError := some e } :
      DynamicSymbolError)
  return {
    index := index
    nameOffset := u32At bytes 0
    info := bytes.getD 4 0
    other := bytes.getD 5 0
    sectionIndexRaw := u16At bytes 6
    value := u64At bytes 8
    size := u64At bytes 16 }

/-- `is_reserved_undefined_symbol`. -/
def isReservedUndefinedSymbol (symbol : DynamicSymbol) : Bool :=
  symbol.index == 0 && symbol.nameOffset == 0 && symbol.info == 0 && symbol.other == 0 &&
    symbol.sectionIndexRaw == 0 && symbol.value == 0 && symbol.size == 0

/-- What the loop over the entries has collected. -/
structure SymbolTags where
  symtab : Option SingletonValue := none
  syment : Option SingletonValue := none
  symtabsz : Option SingletonValue := none
  hasHash : Bool := false
  hasGnuHash : Bool := false
  deriving DecidableEq

/-- The tag was there before, with another value. -/
def symbolConflict (entry : DynamicEntry) (found : SingletonValue) : DynamicSymbolError :=
  { code := .conflictingDynamicTag, tag := entry.tag, sourceEntryIndex := entry.index,
    conflictingEntryIndex := found.sourceEntryIndex }

/-- The loop of the builder, at an entry. -/
def collectSymbolTag (tags : SymbolTags) (entry : DynamicEntry) :
    Except DynamicSymbolError SymbolTags :=
  if entry.tag = kDtSymtab then do
    let merged ← mergeSingleton symbolConflict tags.symtab entry
    return { tags with symtab := merged }
  else if entry.tag = kDtSyment then do
    let merged ← mergeSingleton symbolConflict tags.syment entry
    return { tags with syment := merged }
  else if entry.tag = kDtSymtabsz then do
    let merged ← mergeSingleton symbolConflict tags.symtabsz entry
    return { tags with symtabsz := merged }
  else if entry.tag = kDtHash then .ok { tags with hasHash := true }
  else if entry.tag = kDtGnuHash then .ok { tags with hasGnuHash := true }
  else .ok tags

/-- The number of symbols a declared table size stands for. -/
def symtabszCount (symtabsz : SingletonValue) : Except DynamicSymbolError UInt64 := do
  refuseIf (symtabsz.value = 0 ∨ symtabsz.value % kElf64SymbolSize ≠ 0)
    { code := .invalidSymbolTableSize, tag := kDtSymtabsz,
      sourceEntryIndex := symtabsz.sourceEntryIndex }
  let count := symtabsz.value / kElf64SymbolSize
  refuseIf (count = 0)
    { code := .invalidSymbolTableSize, tag := kDtSymtabsz,
      sourceEntryIndex := symtabsz.sourceEntryIndex }
  return count

/-- The final read over the whole table, in chunks of 4096 bytes from `offset` on. -/
def readWholeTable (view : InitializedImageView) (base : GuestAddress) (byteSize : ℕ)
    (symtabIndex : ℕ) (offset : ℕ) :
    Except DynamicSymbolError Unit :=
  if byteSize ≤ offset then .ok ()
  else do
    let chunkSize := min (byteSize - offset) 4096
    let address ← (base.checkedAdd ⟨UInt64.ofNat offset⟩).mapError fun _ =>
      ({ code := .symbolTableRangeOverflow, tag := kDtSymtab, sourceEntryIndex := symtabIndex,
         symbolIndex := UInt64.ofNat offset, guestAddress := base } : DynamicSymbolError)
    let range ← (GuestRange.create address ⟨UInt64.ofNat chunkSize⟩).mapError fun _ =>
      ({ code := .symbolTableRangeOverflow, tag := kDtSymtab, sourceEntryIndex := symtabIndex,
         symbolIndex := UInt64.ofNat offset, guestAddress := address } : DynamicSymbolError)
    let _copied ← (view.copyBytes range chunkSize).mapError fun (e : InitializedImageError) =>
      ({ code := .symbolEntryUnreadable, tag := kDtSymtab, sourceEntryIndex := symtabIndex,
         symbolIndex := UInt64.ofNat (offset / 24), guestAddress := e.guestAddress.getD address,
         imageError := some e } : DynamicSymbolError)
    readWholeTable view base byteSize symtabIndex (offset + chunkSize)
termination_by byteSize - offset
decreasing_by omega

/-- The counts of symbols that were found, in the order in which they are preferred. -/
structure SymbolCounts where
  symtabsz : Option UInt64
  sysvHash : Option UInt64
  gnuHash : Option UInt64
  deriving DecidableEq

/-- The count the evidence agrees on. -/
def agreedCount (counts : SymbolCounts) (symtab : SingletonValue)
    (symtabszIndex hashIndex gnuIndex : Option ℕ) :
    Except DynamicSymbolError UInt64 := do
  let count ← orRefuse (counts.symtabsz.or (counts.sysvHash.or counts.gnuHash))
    ({ code := .symbolCountUnavailable, sourceEntryIndex := symtab.sourceEntryIndex } :
      DynamicSymbolError)
  refuseIf (∃ a ∈ counts.symtabsz, ∃ b ∈ counts.sysvHash, a ≠ b)
    { code := .conflictingSymbolCount, sourceEntryIndex := symtabszIndex,
      conflictingEntryIndex := hashIndex }
  refuseIf (∃ g ∈ counts.gnuHash, (∃ a ∈ counts.symtabsz, g ≠ a) ∨ ∃ b ∈ counts.sysvHash, g ≠ b)
    { code := .conflictingSymbolCount, sourceEntryIndex := gnuIndex,
      conflictingEntryIndex := if counts.symtabsz.isSome then symtabszIndex else hashIndex }
  refuseIf (count = 0)
    { code := .invalidSymbolTableSize, sourceEntryIndex := symtab.sourceEntryIndex }
  refuseIf (count > u64Max / kElf64SymbolSize)
    { code := .symbolTableSizeOverflow, sourceEntryIndex := symtab.sourceEntryIndex }
  return count

/-- The count that `DT_SYMTABSZ` declares, if it is there. -/
def declaredCount (tags : SymbolTags) : Except DynamicSymbolError (Option UInt64) :=
  match tags.symtabsz with
  | none => .ok none
  | some symtabsz => (symtabszCount symtabsz).map some

/-- The descriptor that the parts make up. -/
def descriptorOf (tags : SymbolTags) (symtab syment : SingletonValue) (declared : Option UInt64)
    (sysv : Option SysvHashCountEvidence) (gnu : Option GnuHashCountEvidence) (count : UInt64)
    (range : GuestRange) :
    DynamicSymbolTableDescriptor where
  range := range
  entrySize := ⟨kElf64SymbolSize⟩
  symbolCount := count
  countFromSymtabsz := declared.isSome
  countFromSysvHash := sysv.isSome
  symtabSourceEntryIndex := symtab.sourceEntryIndex
  symentSourceEntryIndex := syment.sourceEntryIndex
  symtabszSourceEntryIndex := tags.symtabsz.map SingletonValue.sourceEntryIndex
  hashSourceEntryIndex := sysv.map SysvHashCountEvidence.sourceEntryIndex
  countFromGnuHash := gnu.isSome
  gnuHashSourceEntryIndex := gnu.map GnuHashCountEvidence.sourceEntryIndex

/-- The error for a System V table that gives no count. -/
def sysvHashFailure (e : SysvHashError) : DynamicSymbolError :=
  { code := .sysvHashFailure, tag := kDtHash, sourceEntryIndex := e.sourceEntryIndex,
    conflictingEntryIndex := e.conflictingEntryIndex, guestAddress := e.guestAddress,
    sysvHashError := some e }

/-- The error for a GNU table that gives no count. -/
def gnuHashFailure (e : GnuHashError) : DynamicSymbolError :=
  { code := .gnuHashFailure, tag := kDtGnuHash, sourceEntryIndex := e.sourceEntryIndex,
    conflictingEntryIndex := e.conflictingEntryIndex, guestAddress := e.guestAddress,
    gnuHashError := some e }

/-- The descriptor of the table once the three counts are known. -/
def describeCounted (view : InitializedImageView) (tags : SymbolTags)
    (symtab syment : SingletonValue) (declared : Option UInt64)
    (sysv : Option SysvHashCountEvidence) (gnu : Option GnuHashCountEvidence) :
    Except DynamicSymbolError DynamicSymbolTableDescriptor := do
  let count ← agreedCount
    ⟨declared, sysv.map fun evidence =>
      evidence.symbolCount.toUInt64, gnu.map GnuHashCountEvidence.symbolCount⟩ symtab
    (tags.symtabsz.map SingletonValue.sourceEntryIndex)
      (sysv.map SysvHashCountEvidence.sourceEntryIndex)
    (gnu.map GnuHashCountEvidence.sourceEntryIndex)
  let range ← (GuestRange.create ⟨symtab.value⟩ ⟨count * kElf64SymbolSize⟩).mapError fun _ =>
    ({ code := .symbolTableRangeOverflow, tag := kDtSymtab,
       sourceEntryIndex := symtab.sourceEntryIndex,
       guestAddress := some ⟨symtab.value⟩ } : DynamicSymbolError)
  let zero ← readSymbol (descriptorOf tags symtab syment declared sysv gnu count range) 0 view false
  refuseIf (isReservedUndefinedSymbol zero = false)
    { code := .invalidUndefinedSymbol, sourceEntryIndex := symtab.sourceEntryIndex,
      symbolIndex := some 0, guestAddress := range.base }
  whenever (gnu.isSome = true)
    (readWholeTable view range.base (count * kElf64SymbolSize).toNat symtab.sourceEntryIndex 0)
  return descriptorOf tags symtab syment declared sysv gnu count range

/-- The descriptor of the table once the tags are known and the table is there. -/
def describeSymbolTable (table : DynamicTable) (view : InitializedImageView) (tags : SymbolTags)
    (symtab syment : SingletonValue) : Except DynamicSymbolError DynamicSymbolTableDescriptor := do
  refuseIf (syment.value ≠ kElf64SymbolSize)
    { code := .invalidSymbolEntrySize, tag := kDtSyment,
      sourceEntryIndex := syment.sourceEntryIndex }
  let declared ← declaredCount tags
  let sysv ← (buildSysvHashCountEvidence table view).mapError sysvHashFailure
  let gnu ← (buildGnuHashCountEvidence table view).mapError gnuHashFailure
  describeCounted view tags symtab syment declared sysv gnu

/-- `build_dynamic_symbol_table_descriptor`. -/
def buildDynamicSymbolTableDescriptor (table : DynamicTable) (view : InitializedImageView) :
    Except DynamicSymbolError (Option DynamicSymbolTableDescriptor) := do
  let tags ← table.entries.foldlM collectSymbolTag {}
  match tags.symtab, tags.syment with
  | some symtab, some syment => (describeSymbolTable table view tags symtab syment).map some
  | some symtab, none =>
    .error
      { code := .missingRequiredCompanionTag, tag := kDtSyment,
        sourceEntryIndex := symtab.sourceEntryIndex }
  | none, syment =>
    if syment.isSome || tags.symtabsz.isSome || tags.hasHash || tags.hasGnuHash then
      .error { code := .missingRequiredCompanionTag, tag := kDtSymtab }
    else .ok none

end Astraea.Loader
