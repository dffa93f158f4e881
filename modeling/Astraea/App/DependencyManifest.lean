import Astraea.App.BoundedNames
import Astraea.Loader.GuestImage
import Astraea.Loader.RelocationTables
import Astraea.Loader.SceDynamicMetadata

/-!
# The dependency manifest

`manifest_for` lists what an image depends on: the names of the generic dependencies, the modules
and libraries of its dynamic table, its symbols and its relocations. This is its opaque mode, which
takes none of the packed values apart. The report is put together while the image is read, but none
of it is seen before the end, so that here the rows are read first.

`build_guest_image` lets an image have relocation tables without records and no symbol table; the
manifest refuses it. But for such images, everything the manifest refuses has one of the causes that
`ManifestCause` lists.
-/

namespace Astraea.App

open Astraea.Base Astraea.Core Astraea.Loader Astraea.Memory

/-- The most records of a manifest. -/
def kMaxManifestRecords : ℕ := 4096

/-! ### Rows -/

/-- What the report says, row by row. -/
structure DependencyManifest where
  needed : List (DynamicStringRef × List UInt8)
  sceRecords : List SceDynamicRecord
  symbols : List SceDynamicSymbolRecord
  relocations : List (String × DynamicRelocation)

section Rows

variable (host : Host) (view : InitializedImageView)

/-- One turn of the loop over the generic dependencies. -/
def readNeeded (strings : DynamicStringMetadata) (reference : DynamicStringRef) :
    Except ManifestFault (DynamicStringRef × List UInt8) := do
  let table ← orRefuse strings.stringTable .missingDynamicStringTable
  let name ← readBoundedName host view table reference
  refuseIf (name = []) .emptyDependencyName
  return (reference, name)

/-- The names of the modules that are needed. -/
def readNeededNames (strings : Option DynamicStringMetadata) :
    Except ManifestFault (List (DynamicStringRef × List UInt8)) :=
  match strings with
  | none => .ok []
  | some strings => do
    refuseIf (strings.needed.length > kMaxManifestRecords) .tooManyGenericDependencies
    strings.needed.mapM (readNeeded host view strings)

/-- The records of the tags of the namespace. -/
def readSceRecords (table : Option DynamicTable) : Except ManifestFault (List SceDynamicRecord) :=
  match table with
  | none => .ok []
  | some table => do
    refuseIf (table.entries.length > kMaxManifestRecords) .tooManyDynamicRecords
    let sce ← (buildSceDynamicMetadata host table).mapError fun _ =>
      ManifestFault.sceDynamicMetadataInvalid
    return sce.records

/-- The name of a symbol, which is not looked up at offset zero. -/
def readSymbolName (strings : Option DynamicStringMetadata) (symbols : DynamicSymbolTableDescriptor)
    (symbol : DynamicSymbol) : Except ManifestFault (List UInt8) :=
  if symbol.nameOffset ≠ 0 then do
    let table ← orRefuse (strings.bind DynamicStringMetadata.stringTable)
      .symbolStringTableUnavailable
    readBoundedName host view table ⟨symbol.nameOffset.toUInt64, symbols.symtabSourceEntryIndex⟩
  else .ok []

/-- One turn of the loop over the symbols. -/
def readSymbol (strings : Option DynamicStringMetadata) (symbols : DynamicSymbolTableDescriptor)
    (index : UInt64) :
    Except ManifestFault SceDynamicSymbolRecord := do
  let symbol ← (parseDynamicSymbol symbols index view).mapError fun _ =>
    ManifestFault.dynamicSymbolUnreadable
  let rawName ← readSymbolName host view strings symbols symbol
  let name ← (parseSceDynamicSymbolName host rawName).mapError fun _ =>
    ManifestFault.malformedSceSymbolIdentity
  return ⟨symbol, name⟩

/-- The rows of the symbols, where there is a symbol table. -/
def readSymbols (strings : Option DynamicStringMetadata)
    (symbols : Option DynamicSymbolTableDescriptor) :
    Except ManifestFault (List SceDynamicSymbolRecord) :=
  match symbols with
  | none => .ok []
  | some symbols => do
    refuseIf (symbols.symbolCount.toNat > kMaxManifestRecords) .tooManyDynamicSymbols
    (List.range symbols.symbolCount.toNat).mapM fun index =>
      readSymbol host view strings symbols (UInt64.ofNat index)

/-- `read_table`, after `total` relocations. -/
def readTable (symbols : Option DynamicSymbolTableDescriptor) (total : ℕ)
    (descriptor : Option DynamicRelocationTableDescriptor) (kind : String) :
    Except ManifestFault (List (String × DynamicRelocation)) :=
  match descriptor with
  | none => .ok []
  | some descriptor => do
    refuseIf (descriptor.count.toNat > kMaxManifestRecords ∨
      total > kMaxManifestRecords - descriptor.count.toNat)
      .tooManyRelocations
    let symbols ← orRefuse symbols .relocationsMissingSymbolTable
    (List.range descriptor.count.toNat).mapM fun index => do
      let relocation ← (parseDynamicRelocation descriptor
          (UInt64.ofNat index) symbols view).mapError fun _ =>
        ManifestFault.relocationUnreadable
      return (kind, relocation)

/-- The word for a table of the procedure linkage. -/
def pltKind (descriptor : Option DynamicRelocationTableDescriptor) : String :=
  if descriptor.map DynamicRelocationTableDescriptor.kind = some .pltRel then "plt_rel"
    else "plt_rela"

/-- The rows of the relocations: those with and without an addend, then those of the jump slots. -/
def readRelocations (image : GuestImage) :
    Except ManifestFault (List (String × DynamicRelocation)) := do
  let rel ← readTable view image.dynamicSymbols 0 image.generalRelocations.rel "rel"
  let rela ← readTable view image.dynamicSymbols rel.length image.generalRelocations.rela "rela"
  let plt ← readTable view image.dynamicSymbols (rel.length + rela.length) image.pltRelocations
    (pltKind image.pltRelocations)
  return rel ++ rela ++ plt

end Rows

/-- What `manifest_for` reads. -/
def readManifest (host : Host) (image : GuestImage) : Except ManifestFault DependencyManifest := do
  let view ← image.initializedImageView.mapError fun _ => ManifestFault.initializedImageUnavailable
  let needed ← readNeededNames host view image.dynamicStrings
  let sceRecords ← readSceRecords host image.dynamicTable
  let symbols ← readSymbols host view image.dynamicStrings image.dynamicSymbols
  let relocations ← readRelocations view image
  return ⟨needed, sceRecords, symbols, relocations⟩

/-! ### The report -/

section Report

/-- A number in hexadecimal. -/
def hexText (value : ℕ) : String := "0x" ++ String.ofList (Nat.toDigits 16 value)

/-- `encode_hex`. -/
def encodeHex (bytes : List UInt8) : String :=
  String.ofList (bytes.flatMap fun byte =>
    [Nat.digitChar (byte.toNat >>> 4), Nat.digitChar (byte.toNat &&& 0x0f)])

/-- A line of the report. -/
def reportLine (key value : String) : String := key ++ "=" ++ value ++ "\n"

/-- A flag, as it is printed. -/
def flagText (flag : Bool) : String := if flag = true then "1" else "0"

/-- The row at `index`, of those before which the names are `earlier`. -/
def neededText (earlier : List (List UInt8)) (index : ℕ) (row : DynamicStringRef × List UInt8) :
    String :=
  let key := "generic_needed[" ++ toString index ++ "]"
  reportLine (key ++ ".source_index") (toString row.1.sourceEntryIndex) ++
    reportLine (key ++ ".offset") (toString row.1.offset.toNat) ++
    reportLine (key ++ ".name_hex") (encodeHex row.2) ++
    reportLine (key ++ ".duplicate") (flagText (earlier.contains row.2))

/-- What the rows of a kind are called in the report, which has two kinds. -/
def sceRecordKey : SceDynamicTagKind → Option String
  | .neededModule => some "sce_needed_module"
  | .importLibrary => some "sce_import_library"
  | _ => none

/-- The row of a record, where `earlier` are those of its kind before it. -/
def sceRecordText (earlier : List SceDynamicRecord) (record : SceDynamicRecord) : String :=
  match sceRecordKey record.kind with
  | none => ""
  | some key =>
    let place := key ++ "[" ++ toString earlier.length ++ "]"
    reportLine (place ++ ".source_index") (toString record.sourceEntryIndex) ++
      reportLine (place ++ ".raw_tag") (hexText record.rawTag.toUInt64.toNat) ++
      reportLine (place ++ ".raw_value") (hexText record.rawValue.toNat) ++
      reportLine (place ++ ".duplicate_raw")
        (flagText ((earlier.map SceDynamicRecord.rawValue).contains record.rawValue))

/-- An identity, as it is printed. -/
def identityText (key : String) (identity : SceSymbolIdentity) : String :=
  reportLine (key ++ ".nid_hex") (encodeHex identity.nid) ++
    reportLine (key ++ ".library_id_hex") (encodeHex identity.libraryId) ++
    reportLine (key ++ ".module_id_hex") (encodeHex identity.moduleId)

/-- The line of a symbol. -/
def symbolText (earlier : List (List UInt8)) (index : ℕ) (row : SceDynamicSymbolRecord) : String :=
  let key := "symbol[" ++ toString index ++ "]"
  reportLine (key ++ ".name_hex") (encodeHex row.name.raw) ++
    reportLine (key ++ ".undefined") (flagText (row.symbol.sectionIndexRaw == 0)) ++
    reportLine (key ++ ".binding") (toString row.symbol.binding.toNat) ++
    reportLine (key ++ ".type") (toString (row.symbol.info &&& 0x0f).toNat) ++
    reportLine (key ++ ".name_duplicate")
      (flagText (row.name.raw != [] && earlier.contains row.name.raw)) ++
    reportLine (key ++ ".sce_longform") (flagText row.name.identity.isSome) ++
    (row.name.identity.map (identityText key)).getD ""

/-- The line of a relocation. -/
def relocationText (index : ℕ) (row : String × DynamicRelocation) : String :=
  let key := "relocation[" ++ toString index ++ "]"
  reportLine (key ++ ".table") row.1 ++
    reportLine (key ++ ".table_index") (toString row.2.tableIndex.toNat) ++
    reportLine (key ++ ".target") (hexText row.2.target.toNat) ++
    reportLine (key ++ ".type") (toString row.2.relocationType.toNat) ++
    reportLine (key ++ ".symbol_index") (toString row.2.symbolIndex.toNat) ++
    reportLine (key ++ ".raw_info") (hexText row.2.rawInfo.toNat) ++
    reportLine (key ++ ".has_addend") (flagText row.2.addend.isSome) ++
    (row.2.addend.map fun addend => reportLine (key ++ ".addend") (toString addend.toInt)).getD ""

/-- Each row with its index and the rows before it. -/
def rowsText {α : Type} (text : List α → ℕ → α → String) (rows : List α) : String :=
  String.join (rows.zipIdx.map fun row => text (rows.take row.2) row.2 row.1)

/-- The rows of a kind. -/
def DependencyManifest.sceRowsOf (manifest : DependencyManifest) (kind : SceDynamicTagKind) :
    List SceDynamicRecord :=
  manifest.sceRecords.filter fun record => record.kind = kind

/-- How many rows of a kind there are, and how many values they have. -/
def DependencyManifest.sceTotalsText (manifest : DependencyManifest) (key : String)
    (kind : SceDynamicTagKind) : String :=
  reportLine (key ++ "_records") (toString (manifest.sceRowsOf kind).length) ++
    reportLine (key ++ "_unique_raw")
      (toString ((manifest.sceRowsOf kind).map SceDynamicRecord.rawValue).dedup.length)

/-- The text that `manifest_for` returns. -/
def DependencyManifest.report (manifest : DependencyManifest) : String :=
  "Astraea dependency manifest v0\n" ++ reportLine "execution" "none" ++
    reportLine "identity_policy" "opaque" ++
    reportLine "generic_needed_records" (toString manifest.needed.length) ++
    rowsText (fun earlier => neededText (earlier.map Prod.snd)) manifest.needed ++
    reportLine "generic_needed_unique_names"
      (toString (manifest.needed.map Prod.snd).dedup.length) ++
    rowsText (fun earlier _ record =>
      sceRecordText (earlier.filter fun other => other.kind = record.kind) record)
      manifest.sceRecords ++
    manifest.sceTotalsText "sce_needed_module" .neededModule ++
    manifest.sceTotalsText "sce_import_library" .importLibrary ++
    reportLine "dynamic_symbol_records" (toString manifest.symbols.length) ++
    rowsText (fun earlier => symbolText (earlier.map fun row => row.name.raw)) manifest.symbols ++
    reportLine "dynamic_symbol_unique_nonempty_names"
      (toString ((manifest.symbols.map fun row => row.name.raw).filter fun name =>
        name != []).dedup.length) ++
    rowsText (fun _ => relocationText) manifest.relocations ++
    reportLine "relocation_records" (toString manifest.relocations.length) ++
    reportLine "relocation_unique_symbol_indices"
      (toString (manifest.relocations.map fun row => row.2.symbolIndex).dedup.length) ++
    reportLine "relocation_application" "not_attempted" ++
      reportLine "resolution" "not_attempted" ++
    reportLine "guest_instructions" "0"

/-- `manifest_for`, in opaque mode. -/
def manifestFor (host : Host) (image : GuestImage) : Except ManifestFault String :=
  (readManifest host image).map DependencyManifest.report

end Report

end Astraea.App
