import Astraea.Graphics.AgcShaderBinary

/-!
# AGC shader containers

A shader is shipped in an ELF file with a section for its header and one for its text.
`parse_agc_shader_container` checks the file header, walks the table of sections, finds the two
by their names and hands them to `parse_agc_shader_binary`.

The walk keeps the two sections it has found so far. A section that takes no bytes of the file,
by its type or by its size, is not checked against the size of the file.
-/

namespace Astraea.Graphics

open Astraea.Base Astraea.Core

/-- Where a section is in the file. -/
structure AgcShaderSectionProvenance where
  sectionIndex : ℕ
  fileOffset : UInt64
  fileSize : UInt64
  alignment : UInt64
  deriving DecidableEq

/-- The header and the text of a shader, and where they are in the file. -/
structure AgcShaderContainer where
  osAbi : UInt8
  abiVersion : UInt8
  elfType : UInt16
  elfMachine : UInt16
  elfFlags : UInt32
  shaderHeaderSection : AgcShaderSectionProvenance
  shaderTextSection : AgcShaderSectionProvenance
  shader : AgcShaderBinary
  containerBytes : List UInt8
  deriving DecidableEq

/-- Why a file is refused. -/
inductive AgcShaderContainerErrorCode where
  | fileTooSmall
  | badMagic
  | unsupportedClass
  | unsupportedEndianness
  | unsupportedIdentVersion
  | unsupportedElfVersion
  | unsupportedMachine
  | invalidElfHeaderSize
  | missingSectionTable
  | unsupportedExtendedSectionCount
  | invalidSectionHeaderEntrySize
  | invalidSectionNameTableIndex
  | integerOverflow
  | sectionHeaderTableOutOfBounds
  | invalidSectionNameTable
  | sectionOutOfBounds
  | sectionNameOutOfBounds
  | unterminatedSectionName
  | missingShaderHeader
  | duplicateShaderHeader
  | missingShaderText
  | duplicateShaderText
  | invalidShaderSectionType
  | shaderHeaderTooSmall
  | badShaderHeaderMagic
  | declaredHeaderSizeMismatch
  | declaredShaderTextSizeMismatch
  | registerTableExtentOverflow
  | registerTableExtentOutOfBounds
  | shaderTextTooSmallForTrailer
  | programExtentOutOfBounds
  | programSizeNotDwordAligned
  | hostAllocationFailure
  deriving DecidableEq

/-- A file that is refused, with the byte or section it is about. -/
structure AgcShaderContainerError where
  code : AgcShaderContainerErrorCode
  fileOffset : UInt64
  sectionIndex : Option ℕ := none
  shaderBinaryError : Option AgcShaderBinaryError := none
  deriving DecidableEq

/-- `kElf64HeaderSize`. -/
def kContainerHeaderSize : ℕ := 64

/-- `kElf64SectionHeaderSize`. -/
def kElf64SectionHeaderSize : ℕ := 64

/-- The machine of a shader. -/
def kEmAmdgpu : UInt16 := 224

/-- The index that stands for a larger one. -/
def kShnXindex : UInt16 := 0xffff

/-- A section with bytes of the program. -/
def kShtProgbits : UInt32 := 1

/-- A section with strings. -/
def kShtStrtab : UInt32 := 3

/-- A section without bytes in the file. -/
def kShtNobits : UInt32 := 8

/-- `kElfMagic`. -/
def kContainerMagic : List UInt8 := [0x7f, 0x45, 0x4c, 0x46]

/-- The bytes of `".shader_header"`. -/
def kShaderHeaderName : List UInt8 :=
  [0x2e, 0x73, 0x68, 0x61, 0x64, 0x65, 0x72, 0x5f, 0x68, 0x65, 0x61, 0x64, 0x65, 0x72]

/-- The bytes of `".shader_text"`. -/
def kShaderTextName : List UInt8 :=
  [0x2e, 0x73, 0x68, 0x61, 0x64, 0x65, 0x72, 0x5f, 0x74, 0x65, 0x78, 0x74]

/-! ### Sections -/

/-- What the table says of a section. -/
structure SectionRecord where
  index : ℕ
  nameIndex : UInt32
  type : UInt32
  offset : UInt64
  size : UInt64
  alignment : UInt64
  deriving DecidableEq

/-- Where the record of a section is in the file. -/
def sectionRecordOffset (sectionHeaderOffset : UInt64) (index : ℕ) : UInt64 :=
  sectionHeaderOffset + UInt64.ofNat index * UInt64.ofNat kElf64SectionHeaderSize

/-- `read_section_record`. -/
def readSectionRecord (bytes : List UInt8) (sectionHeaderOffset : UInt64) (index : ℕ) :
    SectionRecord :=
  let recordOffset := (sectionRecordOffset sectionHeaderOffset index).toNat
  { index := index
    nameIndex := u32At bytes recordOffset
    type := u32At bytes (recordOffset + 4)
    offset := u64At bytes (recordOffset + 24)
    size := u64At bytes (recordOffset + 32)
    alignment := u64At bytes (recordOffset + 48) }

/-- What `section_name_equals` finds out about a name. -/
structure NameComparison where
  equal : Bool
  nameInBounds : Bool
  terminated : Bool
  deriving DecidableEq

/-- The loop to the end of a name: the first zero among the next `remaining` bytes. -/
def findTerminator (bytes : List UInt8) : (remaining cursor : ℕ) → Option ℕ
  | 0, _ => none
  | remaining + 1, cursor =>
    if bytes.getD cursor 0 = 0 then some cursor else findTerminator bytes remaining (cursor + 1)

/-- The loop over the bytes of a name. -/
def nameMatches (bytes : List UInt8) : (start : ℕ) → (expected : List UInt8) → Bool
  | _, [] => true
  | start, byte :: expected =>
    if bytes.getD start 0 ≠ byte then false else nameMatches bytes (start + 1) expected

/-- `section_name_equals`. -/
def sectionNameEquals (bytes : List UInt8) (stringTableOffset stringTableSize : UInt64)
    (nameIndex : UInt32) (expected : List UInt8) : NameComparison :=
  if nameIndex.toUInt64 < stringTableSize then
    let nameStart := (stringTableOffset + nameIndex.toUInt64).toNat
    let nameEndLimit := (stringTableOffset + stringTableSize).toNat
    match findTerminator bytes (nameEndLimit - nameStart) nameStart with
    | none => ⟨false, true, false⟩
    | some cursor =>
      if cursor - nameStart ≠ expected.length then ⟨false, true, true⟩
      else ⟨nameMatches bytes nameStart expected, true, true⟩
  else ⟨false, false, false⟩

/-- The two sections, as far as they have been found. -/
structure FoundSections where
  shaderHeader : Option SectionRecord := none
  shaderText : Option SectionRecord := none
  deriving DecidableEq

section Walk

variable (bytes : List UInt8) (sectionHeaderOffset : UInt64) (stringTable : SectionRecord)

/-- The check of the bytes of a section. -/
def checkSectionExtent (inputSize : ℕ) (record : SectionRecord) :
    Except AgcShaderContainerError Unit :=
  whenever (record.type ≠ kShtNobits ∧ record.size ≠ 0) do
    let sectionEnd ← orRefuse (checkedAdd record.offset record.size)
      ({ code := .integerOverflow, fileOffset := record.offset,
         sectionIndex := some record.index } : AgcShaderContainerError)
    refuseIf (record.offset.toNat > inputSize ∨ sectionEnd.toNat > inputSize)
      { code := .sectionOutOfBounds, fileOffset := record.offset,
        sectionIndex := some record.index }

/-- The two checks after a comparison of names. -/
def checkNameComparison (record : SectionRecord) (comparison : NameComparison) :
    Except AgcShaderContainerError Unit := do
  refuseIf (comparison.nameInBounds = false)
    { code := .sectionNameOutOfBounds,
      fileOffset := sectionRecordOffset sectionHeaderOffset record.index
      sectionIndex := some record.index }
  refuseIf (comparison.terminated = false)
    { code := .unterminatedSectionName, fileOffset := stringTable.offset + record.nameIndex.toUInt64
      sectionIndex := some record.index }

/-- A section with one of the two names: of the right type, and the first of its name. -/
def acceptShaderSection (record : SectionRecord) (before : Option SectionRecord)
    (duplicate : AgcShaderContainerErrorCode) :
    Except AgcShaderContainerError SectionRecord := do
  refuseIf (record.type ≠ kShtProgbits)
    { code := .invalidShaderSectionType,
      fileOffset := sectionRecordOffset sectionHeaderOffset record.index + 4
      sectionIndex := some record.index }
  refuseIf (before.isSome = true)
    { code := duplicate, fileOffset := record.offset, sectionIndex := some record.index }
  return record

/-- One round of the walk over the table of sections. -/
def visitSection (found : FoundSections) (index : ℕ) :
    Except AgcShaderContainerError FoundSections := do
  let record := readSectionRecord bytes sectionHeaderOffset index
  checkSectionExtent bytes.length record
  let isHeader := sectionNameEquals bytes stringTable.offset stringTable.size record.nameIndex
    kShaderHeaderName
  checkNameComparison sectionHeaderOffset stringTable record isHeader
  if isHeader.equal = true then do
    let shaderHeader ← acceptShaderSection sectionHeaderOffset record found.shaderHeader
      .duplicateShaderHeader
    return { found with shaderHeader := some shaderHeader }
  else do
    let isText :=
      sectionNameEquals bytes stringTable.offset stringTable.size record.nameIndex kShaderTextName
    checkNameComparison sectionHeaderOffset stringTable record isText
    if isText.equal = true then do
      let shaderText ← acceptShaderSection sectionHeaderOffset record found.shaderText
        .duplicateShaderText
      return { found with shaderText := some shaderText }
    else return found

end Walk

/-! ### The container -/

/-- The fields of the file header that the parser reads. -/
structure ContainerHeader where
  elfType : UInt16
  elfVersion : UInt32
  machine : UInt16
  sectionHeaderOffset : UInt64
  elfFlags : UInt32
  elfHeaderSize : UInt16
  sectionHeaderEntrySize : UInt16
  sectionHeaderCount : UInt16
  sectionNameTableIndex : UInt16
  deriving DecidableEq

/-- The words of the header of a file. -/
def readContainerHeader (bytes : List UInt8) : ContainerHeader where
  elfType := u16At bytes 16
  elfVersion := u32At bytes 20
  machine := u16At bytes 18
  sectionHeaderOffset := u64At bytes 40
  elfFlags := u32At bytes 48
  elfHeaderSize := u16At bytes 52
  sectionHeaderEntrySize := u16At bytes 58
  sectionHeaderCount := u16At bytes 60
  sectionNameTableIndex := u16At bytes 62

/-- The checks of the identification bytes. -/
def checkContainerIdent (bytes : List UInt8) : Except AgcShaderContainerError Unit := do
  refuseIf (bytes.length < kContainerMagic.length) { code := .fileTooSmall, fileOffset := 0 }
  (List.range kContainerMagic.length).forM fun i =>
    refuseIf (bytes.getD i 0 ≠ kContainerMagic.getD i 0)
      { code := .badMagic, fileOffset := UInt64.ofNat i }
  refuseIf (bytes.length < 16) { code := .fileTooSmall, fileOffset := UInt64.ofNat bytes.length }
  refuseIf (bytes.getD 4 0 ≠ 2) { code := .unsupportedClass, fileOffset := 4 }
  refuseIf (bytes.getD 5 0 ≠ 1) { code := .unsupportedEndianness, fileOffset := 5 }
  refuseIf (bytes.getD 6 0 ≠ 1) { code := .unsupportedIdentVersion, fileOffset := 6 }
  refuseIf (bytes.length < kContainerHeaderSize) { code := .fileTooSmall, fileOffset := 16 }

/-- The checks of the file header. -/
def checkContainerHeader (header : ContainerHeader) : Except AgcShaderContainerError Unit := do
  refuseIf (header.elfVersion ≠ 1) { code := .unsupportedElfVersion, fileOffset := 20 }
  refuseIf (header.machine ≠ kEmAmdgpu) { code := .unsupportedMachine, fileOffset := 18 }
  refuseIf (header.elfHeaderSize.toNat ≠ kContainerHeaderSize)
    { code := .invalidElfHeaderSize, fileOffset := 52 }
  refuseIf (header.sectionHeaderOffset = 0) { code := .missingSectionTable, fileOffset := 40 }
  refuseIf (header.sectionHeaderCount = 0)
    { code := .unsupportedExtendedSectionCount, fileOffset := 60 }
  refuseIf (header.sectionHeaderEntrySize.toNat ≠ kElf64SectionHeaderSize)
    { code := .invalidSectionHeaderEntrySize, fileOffset := 58 }
  refuseIf (header.sectionNameTableIndex = 0 ∨ header.sectionNameTableIndex = kShnXindex ∨
      header.sectionNameTableIndex ≥ header.sectionHeaderCount)
    { code := .invalidSectionNameTableIndex, fileOffset := 62 }

/-- The check that the table of sections is in the file. -/
def checkSectionTable (inputSize : ℕ) (header : ContainerHeader) :
    Except AgcShaderContainerError Unit := do
  let sectionTableSize ← orRefuse
    (checkedMultiply header.sectionHeaderCount.toUInt64 header.sectionHeaderEntrySize.toUInt64)
    ({ code := .integerOverflow, fileOffset := 60 } : AgcShaderContainerError)
  let sectionTableEnd ← orRefuse (checkedAdd header.sectionHeaderOffset sectionTableSize)
    ({ code := .integerOverflow, fileOffset := 40 } : AgcShaderContainerError)
  refuseIf (header.sectionHeaderOffset.toNat > inputSize ∨ sectionTableEnd.toNat > inputSize)
    { code := .sectionHeaderTableOutOfBounds, fileOffset := 40 }

/-- The checks of the table of section names. -/
def checkStringTable (inputSize : ℕ) (stringTable : SectionRecord) :
    Except AgcShaderContainerError Unit := do
  refuseIf (stringTable.type ≠ kShtStrtab)
    { code := .invalidSectionNameTable, fileOffset := stringTable.offset,
      sectionIndex := some stringTable.index }
  let stringTableEnd ← orRefuse (checkedAdd stringTable.offset stringTable.size)
    ({ code := .integerOverflow, fileOffset := stringTable.offset,
       sectionIndex := some stringTable.index } : AgcShaderContainerError)
  refuseIf (stringTable.offset.toNat > inputSize ∨ stringTableEnd.toNat > inputSize)
    { code := .sectionOutOfBounds, fileOffset := stringTable.offset,
      sectionIndex := some stringTable.index }

/-- The bytes of a section: `bytes.subspan(offset, size)`. -/
def subspan (bytes : List UInt8) (offset size : ℕ) : List UInt8 := (bytes.drop offset).take size

/-- `container_error_code`. -/
def containerErrorCode : AgcShaderBinaryErrorCode → AgcShaderContainerErrorCode
  | .shaderHeaderTooSmall => .shaderHeaderTooSmall
  | .badShaderHeaderMagic => .badShaderHeaderMagic
  | .declaredHeaderSizeMismatch => .declaredHeaderSizeMismatch
  | .declaredShaderTextSizeMismatch => .declaredShaderTextSizeMismatch
  | .registerTableExtentOverflow => .registerTableExtentOverflow
  | .registerTableExtentOutOfBounds => .registerTableExtentOutOfBounds
  | .shaderTextTooSmallForTrailer => .shaderTextTooSmallForTrailer
  | .programExtentOutOfBounds => .programExtentOutOfBounds
  | .programSizeNotDwordAligned => .programSizeNotDwordAligned
  | .hostAllocationFailure => .hostAllocationFailure

/-- The error of a shader that was refused, in the terms of the file. -/
def shaderFailure (shaderHeader shaderText : SectionRecord) (detail : AgcShaderBinaryError) :
    AgcShaderContainerError :=
  match detail.region with
  | .shaderHeader => ⟨containerErrorCode detail.code,
      shaderHeader.offset + UInt64.ofNat detail.byteOffset, some shaderHeader.index, some detail⟩
  | .shaderText => ⟨containerErrorCode detail.code,
      shaderText.offset + UInt64.ofNat detail.byteOffset, some shaderText.index, some detail⟩
  | .none => ⟨containerErrorCode detail.code, 0, none, some detail⟩

/-- What a container keeps of a section. -/
def SectionRecord.provenance (record : SectionRecord) : AgcShaderSectionProvenance :=
  ⟨record.index, record.offset, record.size, record.alignment⟩

/-- `parse_agc_shader_container`. -/
def parseAgcShaderContainer (host : Host) (bytes : List UInt8) :
    Except AgcShaderContainerError AgcShaderContainer := do
  checkContainerIdent bytes
  let header := readContainerHeader bytes
  checkContainerHeader header
  checkSectionTable bytes.length header
  let stringTable :=
    readSectionRecord bytes header.sectionHeaderOffset header.sectionNameTableIndex.toNat
  checkStringTable bytes.length stringTable
  let found ← (List.range header.sectionHeaderCount.toNat).foldlM
    (visitSection bytes header.sectionHeaderOffset stringTable) {}
  let shaderHeader ← orRefuse found.shaderHeader
    ({ code := .missingShaderHeader, fileOffset := 0 } : AgcShaderContainerError)
  let shaderText ← orRefuse found.shaderText
    ({ code := .missingShaderText, fileOffset := 0 } : AgcShaderContainerError)
  let headerSpan := subspan bytes shaderHeader.offset.toNat shaderHeader.size.toNat
  let textSpan := subspan bytes shaderText.offset.toNat shaderText.size.toNat
  let shader ← (parseAgcShaderBinary host headerSpan textSpan).mapError
    (shaderFailure shaderHeader shaderText)
  allocate host .shaderContainer { code := .hostAllocationFailure, fileOffset := 0 }
    { code := .hostAllocationFailure, fileOffset := 0 }
  return {
    osAbi := bytes.getD 7 0
    abiVersion := bytes.getD 8 0
    elfType := header.elfType
    elfMachine := header.machine
    elfFlags := header.elfFlags
    shaderHeaderSection := shaderHeader.provenance
    shaderTextSection := shaderText.provenance
    shader := shader
    containerBytes := bytes }

end Astraea.Graphics
