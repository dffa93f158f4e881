import Astraea.Loader.DynamicRelocations
import Astraea.Loader.DynamicSymbolTable

/-!
# Relocation records

`parse_dynamic_relocation` reads one record of a relocation table. A record names the address to
be relocated, a symbol and the type of the relocation; in two of the four kinds of table it has an
addend besides. A symbol that the symbol table does not have is refused.
-/

namespace Astraea.Loader

open Astraea.Base Astraea.Memory

/-- `expected_entry_size`. -/
def RelocationTableKind.expectedEntrySize : RelocationTableKind → UInt64
  | .rel => kElf64RelSize
  | .pltRel => kElf64RelSize
  | .rela => kElf64RelaSize
  | .pltRela => kElf64RelaSize

/-- The kinds of table whose records have an addend. -/
def RelocationTableKind.hasAddend : RelocationTableKind → Bool
  | .rel => false
  | .pltRel => false
  | .rela => true
  | .pltRela => true

section Parse

variable (descriptor : DynamicRelocationTableDescriptor) (index : UInt64)

/-- An error of the record at `index`: it names the entry of `DT_REL`, `DT_RELA` or `DT_JMPREL`. -/
def recordError (code : DynamicRelocationErrorCode) : DynamicRelocationError where
  code := code
  sourceEntryIndex := descriptor.addressSourceEntryIndex
  tableKind := descriptor.kind
  tableIndex := index

/-- The relocation whose record is `bytes`. -/
def relocationOf (bytes : List UInt8) : DynamicRelocation where
  tableKind := descriptor.kind
  tableIndex := index
  target := ⟨u64At bytes 0⟩
  rawInfo := u64At bytes 8
  symbolIndex := (u64At bytes 8 >>> 32).toUInt32
  relocationType := (u64At bytes 8 &&& 0xffffffff).toUInt32
  addend := if descriptor.kind.hasAddend = true then some (u64At bytes 16).toInt64 else none

/-- Where the record at `index` is. -/
def recordRange : Except DynamicRelocationError GuestRange := do
  let requiredSize := descriptor.kind.expectedEntrySize
  refuseIf (index > u64Max / requiredSize)
    { recordError descriptor index .relocationTableRangeOverflow with
      guestAddress := descriptor.range.base }
  let address ← (descriptor.range.base.checkedAdd ⟨index * requiredSize⟩).mapError fun _ =>
    { recordError descriptor index .relocationTableRangeOverflow with
      guestAddress := some descriptor.range.base }
  (GuestRange.create address ⟨requiredSize⟩).mapError fun _ =>
    { recordError descriptor index .relocationTableRangeOverflow with guestAddress := some address }

/-- `parse_dynamic_relocation`. -/
def parseDynamicRelocation (symbols : DynamicSymbolTableDescriptor) (view : InitializedImageView) :
    Except DynamicRelocationError DynamicRelocation := do
  let requiredSize := descriptor.kind.expectedEntrySize
  refuseIf (descriptor.entrySize.value ≠ requiredSize)
    { recordError descriptor index .invalidRelocationEntrySize with
      sourceEntryIndex := descriptor.encodingSourceEntryIndex }
  refuseIf (index ≥ descriptor.count) (recordError descriptor index .relocationIndexOutOfBounds)
  let range ← recordRange descriptor index
  let bytes ← (view.copyBytes range requiredSize.toNat).mapError fun (e : InitializedImageError) =>
    { recordError descriptor index .relocationEntryUnreadable with
      guestAddress := some (e.guestAddress.getD range.base), imageError := some e }
  let relocation := relocationOf descriptor index bytes
  refuseIf (relocation.symbolIndex.toUInt64 ≥ symbols.symbolCount)
    { recordError descriptor index .relocationSymbolIndexOutOfBounds with
      guestAddress := some relocation.target, symbolIndex := some relocation.symbolIndex }
  return relocation

end Parse

end Astraea.Loader
