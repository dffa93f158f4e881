import Astraea.Base.Guarded
import Astraea.Graphics.AgcShaderContainer

/-!
# What the container parser reads

`parseAgcShaderContainerGuarded` is the parser of shader containers with every byte looked up in
the file, and `parseAgcShaderBinaryGuarded` the one of shader binaries with every byte looked up
in the header and the text. The latter never finds nothing.

The former does in one case. A section that takes no bytes is not checked against the size of the
file, so an empty `.shader_header` or `.shader_text` may begin behind its end, and the span of it
is formed there. `ShaderSections` says which files reach that point.
-/

namespace Astraea.Graphics

open Astraea.Base Astraea.Core

/-! ### The binary -/

section Binary

variable (host : Host)

/-- `registerRecordAt`, with every byte looked up. -/
def registerRecordWithin (header : List UInt8) (offset : ℕ) :
    Except (Option AgcShaderBinaryError) AgcRegisterWrite := do
  let registerOffset ← wordWithin 2 header offset
  let value ← wordWithin 4 header (offset + 4)
  return ⟨.ofNat registerOffset, .ofNat value⟩

/-- `parse_register_list`, with every byte looked up. -/
def parseRegisterListGuarded (header : List UInt8) (offsetField countField : ℕ)
    (kind : AgcRegisterListKind) :
    Except (Option AgcShaderBinaryError) ParsedRegisterList := do
  let count ← wordWithin 1 header countField
  let overflow : AgcShaderBinaryError :=
    ⟨.registerTableExtentOverflow, .shaderHeader, offsetField, some kind⟩
  if UInt8.ofNat count = 0 then return ⟨[], none⟩
  else do
    let relativeOffset ← wordWithin 8 header offsetField
    let listOffset ← orRefuse (checkedAdd (UInt64.ofNat offsetField) (.ofNat relativeOffset))
      (some overflow)
    let listSize ← orRefuse (checkedMultiply (UInt8.ofNat count).toUInt64
      (UInt64.ofNat kAgcRegisterRecordSize)) (some overflow)
    let listEnd ← orRefuse (checkedAdd listOffset listSize) (some overflow)
    refuseIf (listOffset.toNat > header.length ∨ listEnd.toNat > header.length)
      (some ⟨.registerTableExtentOutOfBounds, .shaderHeader, offsetField, some kind⟩)
    allocate host kind.site (some ⟨.hostAllocationFailure, .none, 0, some kind⟩)
      (some ⟨.hostAllocationFailure, .none, 0, some kind⟩)
    let writes ← (List.range (UInt8.ofNat count).toNat).mapM fun index =>
      registerRecordWithin header (listOffset.toNat + index * kAgcRegisterRecordSize)
    return ⟨writes, some listOffset⟩

/-- `parse_agc_shader_binary`, with every byte looked up. -/
def parseAgcShaderBinaryGuarded (shaderHeader shaderText : List UInt8) :
    Except (Option AgcShaderBinaryError) AgcShaderBinary := do
  refuseIf (shaderHeader.length < kAgcHeaderMinimumSize)
    (some ⟨.shaderHeaderTooSmall, .shaderHeader, shaderHeader.length, none⟩)
  let headerMagic ← wordWithin 4 shaderHeader 0
  refuseIf (UInt32.ofNat headerMagic ≠ kAgcHeaderMagic)
    (some ⟨.badShaderHeaderMagic, .shaderHeader, 0, none⟩)
  let headerVersion ← wordWithin 4 shaderHeader 4
  let declaredHeaderSize ← wordWithin 4 shaderHeader kAgcHeaderSizeOffset
  let declaredShaderTextSize ← wordWithin 4 shaderHeader kAgcShaderTextSizeOffset
  refuseIf ((UInt32.ofNat declaredHeaderSize).toNat ≠ shaderHeader.length)
    (some ⟨.declaredHeaderSizeMismatch, .shaderHeader, kAgcHeaderSizeOffset, none⟩)
  refuseIf ((UInt32.ofNat declaredShaderTextSize).toNat ≠ shaderText.length)
    (some ⟨.declaredShaderTextSizeMismatch, .shaderHeader, kAgcShaderTextSizeOffset, none⟩)
  let contextRegisters ←
    parseRegisterListGuarded host shaderHeader kAgcContextRegistersOffset
      kAgcContextRegisterCountOffset .context
  let shaderRegisters ←
    parseRegisterListGuarded host shaderHeader kAgcShaderRegistersOffset
      kAgcShaderRegisterCountOffset .shader
  refuseIf (shaderText.length < kAgcShaderTextTrailerSize)
    (some ⟨.shaderTextTooSmallForTrailer, .shaderText, shaderText.length, none⟩)
  let trailerOffset := shaderText.length - kAgcShaderTextTrailerSize
  let programByteSize ← wordWithin 4 shaderText (trailerOffset + kAgcTrailerProgramLengthOffset)
  let trailerSl00ByteSize ← wordWithin 4 shaderText (trailerOffset + kAgcTrailerSl00LengthOffset)
  refuseIf ((UInt32.ofNat programByteSize).toNat > trailerOffset)
    (some ⟨.programExtentOutOfBounds, .shaderText, trailerOffset + kAgcTrailerProgramLengthOffset,
      none⟩)
  refuseIf (UInt32.ofNat programByteSize % 4 ≠ 0)
    (some ⟨.programSizeNotDwordAligned, .shaderText, trailerOffset + kAgcTrailerProgramLengthOffset,
      none⟩)
  allocate host .shaderBinary (some { code := .hostAllocationFailure })
    (some { code := .hostAllocationFailure })
  let words ← (List.range ((UInt32.ofNat programByteSize).toNat / 4)).mapM fun index =>
    wordWithin 4 shaderText (index * 4)
  let rawProgramType ← wordWithin 1 shaderHeader kAgcProgramTypeOffset
  return {
    headerMagic := .ofNat headerMagic
    headerVersion := .ofNat headerVersion
    declaredHeaderSize := .ofNat declaredHeaderSize
    declaredShaderTextSize := .ofNat declaredShaderTextSize
    programType := programType (.ofNat rawProgramType)
    contextRegisterListHeaderOffset := contextRegisters.headerOffset
    shaderRegisterListHeaderOffset := shaderRegisters.headerOffset
    contextRegisters := contextRegisters.writes
    shaderRegisters := shaderRegisters.writes
    programByteSize := .ofNat programByteSize
    trailerSl00ByteSize := .ofNat trailerSl00ByteSize
    shaderHeaderBytes := shaderHeader
    shaderTextBytes := shaderText
    rdna2Words := words.map UInt32.ofNat }

variable {host} {header text : List UInt8}

theorem registerRecordWithin_eq {offset : ℕ} (h : offset + 8 ≤ header.length) :
    registerRecordWithin header offset = .ok (registerRecordAt header offset) := by
  rw [registerRecordWithin, wordWithin_eq (by omega), ok_bind, wordWithin_eq (by omega), ok_bind]
  rfl

theorem parseRegisterListGuarded_eq {offsetField countField : ℕ} (kind : AgcRegisterListKind)
    (hoffset : offsetField + 8 ≤ header.length) (hcount : countField < header.length) :
    parseRegisterListGuarded host header offsetField countField kind =
      (parseRegisterList host header offsetField countField kind).mapError some := by
  rw [parseRegisterListGuarded, wordWithin_eq hcount, ok_bind, parseRegisterList]
  by_cases hzero : u8At header countField = 0
  · rw [if_pos hzero]
    exact if_pos hzero
  rw [if_neg hzero]
  refine (if_neg hzero).trans ?_
  rw [wordWithin_eq hoffset, ok_bind]
  refine orRefuse_bind_mapError ?_
  intro listOffset _
  refine orRefuse_bind_mapError ?_
  intro listSize hsize
  refine orRefuse_bind_mapError ?_
  intro listEnd hend
  refine refuseIf_bind_mapError ?_
  intro hbounds
  refine bind_eq_mapError_bind (mapError_allocate _ _ _).symm ?_
  intro _ _
  have hbytes := checkedMultiply_eq_some hsize
  have hlast := (checkedAdd_eq_some hend).2
  rw [← u8At] at hbytes
  rw [UInt8.toNat_toUInt64, kAgcRegisterRecordSize, toNat_ofNat_of_lt (by decide)] at hbytes
  have hwrites : ((List.range (u8At header countField).toNat).mapM fun index =>
      registerRecordWithin header (listOffset.toNat + index * kAgcRegisterRecordSize)) =
      .ok (registerRecordsAt header listOffset.toNat (u8At header countField).toNat) := by
    refine mapM_eq_ok_map ?_
    intro index hindex
    rw [List.mem_range] at hindex
    exact registerRecordWithin_eq (by rw [kAgcRegisterRecordSize]; omega)
  exact (congrArg (fun x => x >>= fun writes =>
    (pure ⟨writes, some listOffset⟩ : Except _ ParsedRegisterList)) hwrites)

/-- **The binary parser reads inside the header and the text.** -/
theorem parseAgcShaderBinaryGuarded_eq (host : Host) (header text : List UInt8) :
    parseAgcShaderBinaryGuarded host header text =
      (parseAgcShaderBinary host header text).mapError some := by
  refine refuseIf_bind_mapError ?_
  intro hmin
  rw [kAgcHeaderMinimumSize] at hmin
  rw [wordWithin_eq (by omega), ok_bind]
  refine refuseIf_bind_mapError ?_
  intro _
  rw [wordWithin_eq (by omega), ok_bind, wordWithin_eq (by rw [kAgcHeaderSizeOffset]; omega),
    ok_bind, wordWithin_eq (by rw [kAgcShaderTextSizeOffset]; omega), ok_bind]
  refine refuseIf_bind_mapError ?_
  intro _
  refine refuseIf_bind_mapError ?_
  intro _
  refine bind_eq_mapError_bind
    (parseRegisterListGuarded_eq .context (by rw [kAgcContextRegistersOffset]; omega)
    (by rw [kAgcContextRegisterCountOffset]; omega)) ?_
  intro contextRegisters _
  refine bind_eq_mapError_bind
    (parseRegisterListGuarded_eq .shader (by rw [kAgcShaderRegistersOffset]; omega)
    (by rw [kAgcShaderRegisterCountOffset]; omega)) ?_
  intro shaderRegisters _
  refine refuseIf_bind_mapError ?_
  intro htrailer
  rw [kAgcShaderTextTrailerSize] at htrailer
  dsimp only
  rw [wordWithin_eq (by rw [kAgcShaderTextTrailerSize, kAgcTrailerProgramLengthOffset]; omega),
    ok_bind, wordWithin_eq (by rw [kAgcShaderTextTrailerSize, kAgcTrailerSl00LengthOffset]; omega),
    ok_bind]
  refine refuseIf_bind_mapError ?_
  intro hprogram
  rw [kAgcShaderTextTrailerSize] at hprogram
  refine refuseIf_bind_mapError ?_
  intro _
  refine bind_eq_mapError_bind (mapError_allocate _ _ _).symm ?_
  intro _ _
  have hwords : ∀ count, 4 * count ≤ text.length →
      ((List.range count).mapM fun index =>
        (wordWithin 4 text (index * 4) : Except (Option AgcShaderBinaryError) ℕ)) =
        .ok ((List.range count).map fun index => leAt 4 text (index * 4)) := by
    intro count hcount
    refine mapM_eq_ok_map ?_
    intro index hindex
    rw [List.mem_range] at hindex
    exact wordWithin_eq (by omega)
  rw [hwords _ (by rw [kAgcShaderTextTrailerSize]; omega), ok_bind,
    wordWithin_eq (by rw [kAgcProgramTypeOffset]; omega), ok_bind, List.map_map]
  rfl

end Binary

/-! ### The container -/

section Container

/-- `read_section_record`, with the record and its bytes looked up. -/
def readSectionRecordGuarded (bytes : List UInt8) (sectionHeaderOffset : UInt64) (index : ℕ) :
    Except (Option AgcShaderContainerError) SectionRecord := do
  let recordOffset := (sectionRecordOffset sectionHeaderOffset index).toNat
  let _record ← spanWithin bytes recordOffset kElf64SectionHeaderSize
  let nameIndex ← wordWithin 4 bytes recordOffset
  let type ← wordWithin 4 bytes (recordOffset + 4)
  let offset ← wordWithin 8 bytes (recordOffset + 24)
  let size ← wordWithin 8 bytes (recordOffset + 32)
  let alignment ← wordWithin 8 bytes (recordOffset + 48)
  return ⟨index, .ofNat nameIndex, .ofNat type, .ofNat offset, .ofNat size, .ofNat alignment⟩

/-- `findTerminator`, with every byte looked up. -/
def findTerminatorGuarded (bytes : List UInt8) :
    (remaining cursor : ℕ) → Except (Option AgcShaderContainerError) (Option ℕ)
  | 0, _ => .ok none
  | remaining + 1, cursor => do
    let byte ← byteWithin bytes cursor
    if byte = 0 then .ok (some cursor) else findTerminatorGuarded bytes remaining (cursor + 1)

/-- `nameMatches`, with every byte looked up. -/
def nameMatchesGuarded (bytes : List UInt8) : (start : ℕ) → (expected : List UInt8) →
    Except (Option AgcShaderContainerError) Bool
  | _, [] => .ok true
  | start, byte :: expected => do
    let found ← byteWithin bytes start
    if found ≠ byte then .ok false else nameMatchesGuarded bytes (start + 1) expected

/-- `section_name_equals`, with every byte looked up. -/
def sectionNameEqualsGuarded (bytes : List UInt8) (stringTableOffset stringTableSize : UInt64)
    (nameIndex : UInt32) (expected : List UInt8) :
    Except (Option AgcShaderContainerError) NameComparison :=
  if nameIndex.toUInt64 < stringTableSize then do
    let nameStart := (stringTableOffset + nameIndex.toUInt64).toNat
    let nameEndLimit := (stringTableOffset + stringTableSize).toNat
    let terminator ← findTerminatorGuarded bytes (nameEndLimit - nameStart) nameStart
    match terminator with
    | none => .ok ⟨false, true, false⟩
    | some cursor =>
      if cursor - nameStart ≠ expected.length then .ok ⟨false, true, true⟩
      else do
        let equal ← nameMatchesGuarded bytes nameStart expected
        return ⟨equal, true, true⟩
  else .ok ⟨false, false, false⟩

/-- One round of the walk over the table of sections, with every byte looked up. -/
def visitSectionGuarded (bytes : List UInt8) (sectionHeaderOffset : UInt64)
    (stringTable : SectionRecord) (found : FoundSections) (index : ℕ) :
    Except (Option AgcShaderContainerError) FoundSections := do
  let record ← readSectionRecordGuarded bytes sectionHeaderOffset index
  (checkSectionExtent bytes.length record).mapError some
  let isHeader ← sectionNameEqualsGuarded bytes stringTable.offset stringTable.size record.nameIndex
    kShaderHeaderName
  (checkNameComparison sectionHeaderOffset stringTable record isHeader).mapError some
  if isHeader.equal = true then do
    let shaderHeader ←
      (acceptShaderSection sectionHeaderOffset record found.shaderHeader
        .duplicateShaderHeader).mapError some
    return { found with shaderHeader := some shaderHeader }
  else do
    let isText ← sectionNameEqualsGuarded bytes stringTable.offset stringTable.size record.nameIndex
      kShaderTextName
    (checkNameComparison sectionHeaderOffset stringTable record isText).mapError some
    if isText.equal = true then do
      let shaderText ← (acceptShaderSection sectionHeaderOffset record found.shaderText
        .duplicateShaderText).mapError some
      return { found with shaderText := some shaderText }
    else return found

/-- The header fields, with every byte looked up. -/
def readContainerHeaderGuarded (bytes : List UInt8) :
    Except (Option AgcShaderContainerError) ContainerHeader := do
  let elfType ← wordWithin 2 bytes 16
  let elfVersion ← wordWithin 4 bytes 20
  let machine ← wordWithin 2 bytes 18
  let sectionHeaderOffset ← wordWithin 8 bytes 40
  let elfFlags ← wordWithin 4 bytes 48
  let elfHeaderSize ← wordWithin 2 bytes 52
  let sectionHeaderEntrySize ← wordWithin 2 bytes 58
  let sectionHeaderCount ← wordWithin 2 bytes 60
  let sectionNameTableIndex ← wordWithin 2 bytes 62
  return ⟨.ofNat elfType, .ofNat elfVersion, .ofNat machine, .ofNat sectionHeaderOffset,
    .ofNat elfFlags, .ofNat elfHeaderSize, .ofNat sectionHeaderEntrySize, .ofNat sectionHeaderCount,
    .ofNat sectionNameTableIndex⟩

/-- The check of one identification byte. -/
def checkContainerByte (bytes : List UInt8) (index : ℕ) (expected : UInt8)
    (e : AgcShaderContainerError) :
    Except (Option AgcShaderContainerError) Unit := do
  let byte ← byteWithin bytes index
  refuseIf (byte ≠ expected) (some e)

/-- The checks of the identification bytes, with every byte looked up. -/
def checkContainerIdentGuarded (bytes : List UInt8) :
    Except (Option AgcShaderContainerError) Unit := do
  refuseIf (bytes.length < kContainerMagic.length) (some { code := .fileTooSmall, fileOffset := 0 })
  (List.range kContainerMagic.length).forM fun i =>
    checkContainerByte bytes i (kContainerMagic.getD i 0)
      { code := .badMagic, fileOffset := UInt64.ofNat i }
  refuseIf (bytes.length < 16)
    (some { code := .fileTooSmall, fileOffset := UInt64.ofNat bytes.length })
  checkContainerByte bytes 4 2 { code := .unsupportedClass, fileOffset := 4 }
  checkContainerByte bytes 5 1 { code := .unsupportedEndianness, fileOffset := 5 }
  checkContainerByte bytes 6 1 { code := .unsupportedIdentVersion, fileOffset := 6 }
  refuseIf (bytes.length < kContainerHeaderSize) (some { code := .fileTooSmall, fileOffset := 16 })

/-- The guarded parser as far as the two sections. -/
def locateShaderSectionsGuarded (bytes : List UInt8) :
    Except (Option AgcShaderContainerError) (ContainerHeader × SectionRecord × SectionRecord) := do
  checkContainerIdentGuarded bytes
  let header ← readContainerHeaderGuarded bytes
  (checkContainerHeader header).mapError some
  (checkSectionTable bytes.length header).mapError some
  let stringTable ← readSectionRecordGuarded bytes header.sectionHeaderOffset
    header.sectionNameTableIndex.toNat
  (checkStringTable bytes.length stringTable).mapError some
  let _names ← spanWithin bytes stringTable.offset.toNat stringTable.size.toNat
  let found ← (List.range header.sectionHeaderCount.toNat).foldlM
    (visitSectionGuarded bytes header.sectionHeaderOffset stringTable) {}
  let shaderHeader ← orRefuse found.shaderHeader
    (some ({ code := .missingShaderHeader, fileOffset := 0 } : AgcShaderContainerError))
  let shaderText ← orRefuse found.shaderText
    (some ({ code := .missingShaderText, fileOffset := 0 } : AgcShaderContainerError))
  return (header, shaderHeader, shaderText)

/-- `parse_agc_shader_container`, with every byte and every span looked up: those of the file in the
file, and those of the shader in the spans of its two sections. -/
def parseAgcShaderContainerGuarded (host : Host) (bytes : List UInt8) :
    Except (Option AgcShaderContainerError) AgcShaderContainer := do
  let (header, shaderHeader, shaderText) ← locateShaderSectionsGuarded bytes
  let headerSpan ← spanWithin bytes shaderHeader.offset.toNat shaderHeader.size.toNat
  let textSpan ← spanWithin bytes shaderText.offset.toNat shaderText.size.toNat
  let shader ← (parseAgcShaderBinaryGuarded host headerSpan textSpan).mapError
    (Option.map (shaderFailure shaderHeader shaderText))
  (allocate host .shaderContainer { code := .hostAllocationFailure, fileOffset := 0 }
    { code := .hostAllocationFailure, fileOffset := 0 }).mapError some
  let osAbi ← byteWithin bytes 7
  let abiVersion ← byteWithin bytes 8
  return {
    osAbi := osAbi
    abiVersion := abiVersion
    elfType := header.elfType
    elfMachine := header.machine
    elfFlags := header.elfFlags
    shaderHeaderSection := shaderHeader.provenance
    shaderTextSection := shaderText.provenance
    shader := shader
    containerBytes := bytes }

/-- The parser as far as the two sections. -/
def locateShaderSections (bytes : List UInt8) :
    Except AgcShaderContainerError (ContainerHeader × SectionRecord × SectionRecord) := do
  checkContainerIdent bytes
  let header := readContainerHeader bytes
  checkContainerHeader header
  checkSectionTable bytes.length header
  let stringTable :=
    readSectionRecord bytes header.sectionHeaderOffset header.sectionNameTableIndex.toNat
  checkStringTable bytes.length stringTable
  let found ← (List.range header.sectionHeaderCount.toNat).foldlM
    (visitSection bytes header.sectionHeaderOffset stringTable) {}
  let shaderHeader ← orRefuse found.shaderHeader
    ({ code := .missingShaderHeader, fileOffset := 0 } : AgcShaderContainerError)
  let shaderText ← orRefuse found.shaderText
    ({ code := .missingShaderText, fileOffset := 0 } : AgcShaderContainerError)
  return (header, shaderHeader, shaderText)

/-- The container of the two sections. -/
def containerOf (host : Host) (bytes : List UInt8) (header : ContainerHeader)
    (shaderHeader shaderText : SectionRecord) :
    Except AgcShaderContainerError AgcShaderContainer := do
  let headerSpan := subspan bytes shaderHeader.offset.toNat shaderHeader.size.toNat
  let textSpan := subspan bytes shaderText.offset.toNat shaderText.size.toNat
  let shader ← (parseAgcShaderBinary host headerSpan textSpan).mapError
    (shaderFailure shaderHeader shaderText)
  allocate host .shaderContainer { code := .hostAllocationFailure, fileOffset := 0 }
    { code := .hostAllocationFailure, fileOffset := 0 }
  return {
    osAbi := bytes.getD 7 0
    abiVersion := bytes.getD 8 0
    elfType := header.elfType
    elfMachine := header.machine
    elfFlags := header.elfFlags
    shaderHeaderSection := shaderHeader.provenance
    shaderTextSection := shaderText.provenance
    shader := shader
    containerBytes := bytes }

theorem parseAgcShaderContainer_eq (host : Host) (bytes : List UInt8) :
    parseAgcShaderContainer host bytes =
      locateShaderSections bytes >>= fun located =>
        containerOf host bytes located.1 located.2.1 located.2.2 := by
  simp only [parseAgcShaderContainer, locateShaderSections, containerOf, bind_assoc, pure_bind]

variable {bytes : List UInt8} {sectionHeaderOffset : UInt64} {index : ℕ}

theorem checkContainerByte_eq (h : index < bytes.length) (expected : UInt8)
    (e : AgcShaderContainerError) :
    checkContainerByte bytes index expected e =
      (refuseIf (bytes.getD index 0 ≠ expected) e).mapError some := by
  rw [checkContainerByte, byteWithin_eq h, ok_bind, mapError_refuseIf]

theorem checkContainerIdentGuarded_eq (bytes : List UInt8) :
    checkContainerIdentGuarded bytes = (checkContainerIdent bytes).mapError some := by
  refine refuseIf_bind_mapError ?_
  intro hmagic
  refine bind_eq_mapError_bind ?_ ?_
  · rw [mapError_forM]
    refine forM_congr ?_
    intro i hi
    rw [List.mem_range] at hi
    exact checkContainerByte_eq (by omega) _ _
  intro _ _
  refine refuseIf_bind_mapError ?_
  intro hident
  refine bind_eq_mapError_bind (checkContainerByte_eq (by omega) _ _) ?_
  intro _ _
  refine bind_eq_mapError_bind (checkContainerByte_eq (by omega) _ _) ?_
  intro _ _
  refine bind_eq_mapError_bind (checkContainerByte_eq (by omega) _ _) ?_
  intro _ _
  exact (mapError_refuseIf _ _ _).symm

theorem readContainerHeaderGuarded_eq (h : 64 ≤ bytes.length) :
    readContainerHeaderGuarded bytes = .ok (readContainerHeader bytes) := by
  unfold readContainerHeaderGuarded
  simp (disch := omega) only [wordWithin_eq, ok_bind]
  rfl

theorem readSectionRecordGuarded_eq
    (h : (sectionRecordOffset sectionHeaderOffset index).toNat + 64 ≤ bytes.length) :
    readSectionRecordGuarded bytes sectionHeaderOffset index =
      .ok (readSectionRecord bytes sectionHeaderOffset index) := by
  unfold readSectionRecordGuarded
  simp (disch := first | omega | (rw [kElf64SectionHeaderSize]; omega)) only [spanWithin_eq,
    wordWithin_eq, ok_bind]
  rfl

theorem findTerminatorGuarded_eq {remaining cursor : ℕ} (h : cursor + remaining ≤ bytes.length) :
    findTerminatorGuarded bytes remaining cursor = .ok (findTerminator bytes remaining cursor) := by
  induction remaining generalizing cursor with
  | zero => rfl
  | succ remaining ih =>
    rw [findTerminatorGuarded, findTerminator, byteWithin_eq (by omega), ok_bind, ih (by omega)]
    split_ifs
    · rfl
    · rfl

theorem nameMatchesGuarded_eq {start : ℕ} {expected : List UInt8}
    (h : start + expected.length ≤ bytes.length) :
    nameMatchesGuarded bytes start expected = .ok (nameMatches bytes start expected) := by
  induction expected generalizing start with
  | nil => rfl
  | cons byte expected ih =>
    rw [List.length_cons] at h
    rw [nameMatchesGuarded, nameMatches, byteWithin_eq (by omega), ok_bind, ih (by omega)]
    split_ifs
    · rfl
    · rfl

end Container

/-! ### Names -/

/-- A section has a name: it is in the table of names, and a zero follows it there. -/
structure HasName (bytes : List UInt8) (stringTable record : SectionRecord) (name : List UInt8) :
    Prop where
  inTable : record.nameIndex.toNat + name.length < stringTable.size.toNat
  spelled : ∀ i < name.length,
    bytes.getD (stringTable.offset.toNat + record.nameIndex.toNat + i) 0 = name.getD i 0
  terminator : bytes.getD (stringTable.offset.toNat + record.nameIndex.toNat + name.length) 0 = 0

/-- The name of a section ends in the table of names. -/
def NameEnds (bytes : List UInt8) (stringTable record : SectionRecord) : Prop :=
  ∃ n, record.nameIndex.toNat + n < stringTable.size.toNat ∧
    bytes.getD (stringTable.offset.toNat + record.nameIndex.toNat + n) 0 = 0

section Names

variable {bytes name : List UInt8} {stringTable record : SectionRecord} {remaining cursor start : ℕ}

theorem findTerminator_eq_some {found : ℕ}
    (h : findTerminator bytes remaining cursor = some found) :
    cursor ≤ found ∧ found < cursor + remaining ∧ bytes.getD found 0 = 0 ∧
      ∀ j, cursor ≤ j → j < found → bytes.getD j 0 ≠ 0 := by
  induction remaining generalizing cursor with
  | zero => cases h
  | succ remaining ih =>
    rw [findTerminator] at h
    split_ifs at h with hzero
    · cases h
      exact ⟨le_rfl, by omega, hzero, fun j hlow hhigh => absurd hlow (by omega)⟩
    · obtain ⟨hlow, hhigh, hfound, hbefore⟩ := ih h
      refine ⟨by omega, by omega, hfound, ?_⟩
      intro j hj hj'
      rcases Nat.eq_or_lt_of_le hj with rfl | hj
      · exact hzero
      · exact hbefore j hj hj'

theorem findTerminator_eq_none (h : findTerminator bytes remaining cursor = none) :
    ∀ j, cursor ≤ j → j < cursor + remaining → bytes.getD j 0 ≠ 0 := by
  induction remaining generalizing cursor with
  | zero =>
    intro j hlow hhigh
    omega
  | succ remaining ih =>
    rw [findTerminator] at h
    split_ifs at h with hzero
    intro j hlow hhigh
    rcases Nat.eq_or_lt_of_le hlow with rfl | hlow
    · exact hzero
    · exact ih h j hlow (by omega)

theorem nameMatches_iff :
    nameMatches bytes start name = true ↔
    ∀ i < name.length, bytes.getD (start + i) 0 = name.getD i 0 := by
  induction name generalizing start with
  | nil =>
    refine ⟨fun _ i hi => ?_, fun _ => rfl⟩
    rw [List.length_nil] at hi
    omega
  | cons byte name ih =>
    rw [nameMatches]
    constructor
    · intro h
      split_ifs at h with hne
      rw [not_not] at hne
      intro i hi
      cases i with
      | zero => exact hne
      | succ i =>
        have := ih.mp h i (by rw [List.length_cons] at hi; omega)
        rwa [Nat.add_right_comm] at this
    · intro h
      have hfirst : bytes.getD start 0 = byte := h 0 (Nat.succ_pos _)
      rw [if_neg (not_not.mpr hfirst)]
      apply ih.mpr
      intro i hi
      have := h (i + 1) (by rw [List.length_cons]; omega)
      rwa [← Nat.add_assoc, Nat.add_right_comm] at this

/-- **What a comparison of names finds out.** -/
theorem sectionNameEquals_spec (htable : stringTable.offset.toNat + stringTable.size.toNat < 2 ^ 64)
    (hname : ∀ i < name.length, name.getD i 0 ≠ 0) :
    let comparison :=
      sectionNameEquals bytes stringTable.offset stringTable.size record.nameIndex name
    (comparison.nameInBounds = true ↔ record.nameIndex.toNat < stringTable.size.toNat) ∧
      (comparison.terminated = true ↔ NameEnds bytes stringTable record) ∧
      (comparison.equal = true ↔ HasName bytes stringTable record name) := by
  dsimp only
  have hindex : record.nameIndex.toUInt64.toNat = record.nameIndex.toNat := UInt32.toNat_toUInt64 _
  rw [sectionNameEquals]
  by_cases hbounds : record.nameIndex.toUInt64 < stringTable.size
  · rw [if_pos hbounds]
    rw [UInt64.lt_iff_toNat_lt, hindex] at hbounds
    have hstart : (stringTable.offset + record.nameIndex.toUInt64).toNat =
        stringTable.offset.toNat + record.nameIndex.toNat := by
      rw [UInt64.toNat_add, hindex, Nat.mod_eq_of_lt (by omega)]
    have hlimit : (stringTable.offset + stringTable.size).toNat =
        stringTable.offset.toNat + stringTable.size.toNat := by
      rw [UInt64.toNat_add, Nat.mod_eq_of_lt htable]
    dsimp only
    rw [hstart, hlimit]
    cases hfind : findTerminator bytes (stringTable.offset.toNat + stringTable.size.toNat -
        (stringTable.offset.toNat + record.nameIndex.toNat))
          (stringTable.offset.toNat + record.nameIndex.toNat) with
    | none =>
      have hnone := findTerminator_eq_none hfind
      refine ⟨iff_of_true rfl hbounds, ?_, ?_⟩
      · refine iff_of_false Bool.false_ne_true ?_
        rintro ⟨n, hn, hzero⟩
        exact hnone (stringTable.offset.toNat + record.nameIndex.toNat + n) (by omega)
          (by omega) hzero
      · refine iff_of_false Bool.false_ne_true ?_
        intro hhas
        have hn := hhas.inTable
        exact hnone (stringTable.offset.toNat + record.nameIndex.toNat + name.length) (by omega)
          (by omega) hhas.terminator
    | some found =>
      obtain ⟨hlow, hhigh, hzero, hbefore⟩ := findTerminator_eq_some hfind
      have hends : NameEnds bytes stringTable record := by
        refine ⟨found - (stringTable.offset.toNat + record.nameIndex.toNat), by omega, ?_⟩
        rwa [Nat.add_sub_cancel' hlow]
      have hlength : HasName bytes stringTable record name →
          found - (stringTable.offset.toNat + record.nameIndex.toNat) = name.length := by
        intro hhas
        -- the name has no zero before its end, and one there
        rcases Nat.lt_trichotomy (found - (stringTable.offset.toNat + record.nameIndex.toNat))
          name.length with hlt | heq | hgt
        · have hbyte := hhas.spelled _ hlt
          rw [Nat.add_sub_cancel' hlow, hzero] at hbyte
          exact absurd hbyte.symm (hname _ hlt)
        · exact heq
        · exact absurd hhas.terminator
            (hbefore (stringTable.offset.toNat + record.nameIndex.toNat + name.length) (by omega)
            (by omega))
      dsimp only
      by_cases hne : found - (stringTable.offset.toNat + record.nameIndex.toNat) ≠ name.length
      · rw [if_pos hne]
        refine ⟨iff_of_true rfl hbounds, iff_of_true rfl hends, iff_of_false Bool.false_ne_true ?_⟩
        intro hhas
        exact hne (hlength hhas)
      · rw [if_neg hne]
        rw [not_not] at hne
        refine ⟨iff_of_true rfl hbounds, iff_of_true rfl hends, ?_⟩
        dsimp only
        rw [nameMatches_iff]
        constructor
        · intro hmatches
          refine ⟨by omega, hmatches, ?_⟩
          rw [← hne, Nat.add_sub_cancel' hlow, hzero]
        · exact fun hhas => hhas.spelled
  · rw [if_neg hbounds]
    rw [UInt64.lt_iff_toNat_lt, hindex] at hbounds
    refine ⟨iff_of_false Bool.false_ne_true hbounds, iff_of_false Bool.false_ne_true ?_,
      iff_of_false Bool.false_ne_true ?_⟩
    · rintro ⟨n, hn, -⟩
      omega
    · intro hhas
      have hn := hhas.inTable
      omega

theorem sectionNameEqualsGuarded_eq
    (htable : stringTable.offset.toNat + stringTable.size.toNat < 2 ^ 64)
    (hinside : stringTable.offset.toNat + stringTable.size.toNat ≤ bytes.length)
    (nameIndex : UInt32) :
    sectionNameEqualsGuarded bytes stringTable.offset stringTable.size nameIndex name =
      .ok (sectionNameEquals bytes stringTable.offset stringTable.size nameIndex name) := by
  have hindex : nameIndex.toUInt64.toNat = nameIndex.toNat := UInt32.toNat_toUInt64 _
  rw [sectionNameEqualsGuarded, sectionNameEquals]
  by_cases hbounds : nameIndex.toUInt64 < stringTable.size
  · rw [if_pos hbounds, if_pos hbounds]
    rw [UInt64.lt_iff_toNat_lt, hindex] at hbounds
    have hstart : (stringTable.offset + nameIndex.toUInt64).toNat =
        stringTable.offset.toNat + nameIndex.toNat := by
      rw [UInt64.toNat_add, hindex, Nat.mod_eq_of_lt (by omega)]
    have hlimit : (stringTable.offset + stringTable.size).toNat =
        stringTable.offset.toNat + stringTable.size.toNat := by
      rw [UInt64.toNat_add, Nat.mod_eq_of_lt htable]
    dsimp only
    rw [hstart, hlimit, findTerminatorGuarded_eq (by omega), ok_bind]
    cases hfind : findTerminator bytes (stringTable.offset.toNat + stringTable.size.toNat -
        (stringTable.offset.toNat + nameIndex.toNat)) (stringTable.offset.toNat + nameIndex.toNat)
          with
    | none => rfl
    | some found =>
      obtain ⟨hlow, hhigh, -, -⟩ := findTerminator_eq_some hfind
      dsimp only
      split_ifs with hne
      · rfl
      · rw [not_not] at hne
        rw [nameMatchesGuarded_eq (by omega)]
        rfl
  · rw [if_neg hbounds, if_neg hbounds]

end Names

/-! ### The files with the two sections -/

/-- `input_size_u64`: the size of the file, as far as a 64-bit word tells it. -/
def containerInputSize (bytes : List UInt8) : ℕ := min bytes.length (2 ^ 64 - 1)

/-- The record of a section. -/
def sectionAt (bytes : List UInt8) (index : ℕ) : SectionRecord :=
  readSectionRecord bytes (readContainerHeader bytes).sectionHeaderOffset index

/-- The number of sections. -/
def sectionCount (bytes : List UInt8) : ℕ := (readContainerHeader bytes).sectionHeaderCount.toNat

/-- The table of section names. -/
def nameTable (bytes : List UInt8) : SectionRecord :=
  sectionAt bytes (readContainerHeader bytes).sectionNameTableIndex.toNat

/-- A file header that is accepted, with the table of sections and the table of their names. -/
structure AcceptedContainerHeader (bytes : List UInt8) : Prop where
  inFile : 64 ≤ bytes.length
  ident : ∀ i < 7, bytes.getD i 0 = (kContainerMagic ++ [2, 1, 1]).getD i 0
  version : (readContainerHeader bytes).elfVersion = 1
  machine : (readContainerHeader bytes).machine = kEmAmdgpu
  headerSize : (readContainerHeader bytes).elfHeaderSize.toNat = 64
  offset : (readContainerHeader bytes).sectionHeaderOffset ≠ 0
  count : (readContainerHeader bytes).sectionHeaderCount ≠ 0
  entrySize : (readContainerHeader bytes).sectionHeaderEntrySize.toNat = 64
  nameIndex : (readContainerHeader bytes).sectionNameTableIndex ≠ 0 ∧
    (readContainerHeader bytes).sectionNameTableIndex ≠ kShnXindex ∧
    (readContainerHeader bytes).sectionNameTableIndex <
      (readContainerHeader bytes).sectionHeaderCount
  table : (readContainerHeader bytes).sectionHeaderOffset.toNat + sectionCount bytes * 64 ≤
    containerInputSize bytes
  names : (nameTable bytes).type = kShtStrtab
  namesInFile : (nameTable bytes).offset.toNat + (nameTable bytes).size.toNat ≤
    containerInputSize bytes

/-- A section that is accepted: its bytes are in the file if it has any, its name ends in the table
of names, and it is of the right type if it is one of the two. -/
structure AcceptedSection (bytes : List UInt8) (record : SectionRecord) : Prop where
  extent : record.type ≠ kShtNobits → record.size ≠ 0 →
    record.offset.toNat + record.size.toNat ≤ containerInputSize bytes
  nameEnds : NameEnds bytes (nameTable bytes) record
  type : HasName bytes (nameTable bytes) record kShaderHeaderName ∨
    HasName bytes (nameTable bytes) record kShaderTextName →
    record.type = kShtProgbits

/-- The section is the only one of its name. -/
def OnlyNamed (bytes name : List UInt8) (record : SectionRecord) : Prop :=
  ∃ i < sectionCount bytes, record = sectionAt bytes i ∧
    ∀ j < sectionCount bytes, HasName bytes (nameTable bytes) (sectionAt bytes j) name ↔ j = i

/-- A file in which the parser finds the two sections. -/
structure ShaderSections (bytes : List UInt8) (shaderHeader shaderText : SectionRecord) : Prop where
  header : AcceptedContainerHeader bytes
  sections : ∀ i < sectionCount bytes, AcceptedSection bytes (sectionAt bytes i)
  shaderHeader : OnlyNamed bytes kShaderHeaderName shaderHeader
  shaderText : OnlyNamed bytes kShaderTextName shaderText

section Located

variable {bytes : List UInt8} {record : SectionRecord}

theorem le_containerInputSize {n : ℕ} :
    n ≤ containerInputSize bytes ↔ n ≤ bytes.length ∧ n < 2 ^ 64 := by
  unfold containerInputSize
  omega

theorem kShaderHeaderName_ne_zero :
    ∀ i < kShaderHeaderName.length, kShaderHeaderName.getD i 0 ≠ 0 := by
  decide

theorem kShaderTextName_ne_zero : ∀ i < kShaderTextName.length, kShaderTextName.getD i 0 ≠ 0 := by
  decide

theorem not_hasName_both {stringTable : SectionRecord}
    (h : HasName bytes stringTable record kShaderHeaderName) :
    ¬ HasName bytes stringTable record kShaderTextName := by
  intro htext
  have hbyte := h.spelled 12 (by decide)
  have hend := htext.terminator
  have hlength : kShaderTextName.length = 12 := by decide
  rw [hlength, hbyte] at hend
  exact absurd hend (by decide)

theorem checkContainerIdent_eq_ok :
    checkContainerIdent bytes = .ok () ↔
      64 ≤ bytes.length ∧ ∀ i < 7, bytes.getD i 0 = (kContainerMagic ++ [2, 1, 1]).getD i 0 := by
  have hsize : kContainerHeaderSize = 64 := rfl
  simp only [checkContainerIdent, bind_eq_ok, refuseIf_eq_ok, not_lt, not_not]
  constructor
  · rintro ⟨_, -, ⟨⟩, hmagic, _, -, _, hclass, _, hendian, _, hversion, hlength⟩
    rw [hsize] at hlength
    simp only [forM_eq_ok, refuseIf_eq_ok, not_not, List.mem_range] at hmagic
    refine ⟨hlength, ?_⟩
    intro i hi
    by_cases hsmall : i < 4
    · rw [hmagic i hsmall, List.getD_append _ _ _ _ hsmall]
    · have hcases : i = 4 ∨ i = 5 ∨ i = 6 := by omega
      rcases hcases with rfl | rfl | rfl
      · exact hclass
      · exact hendian
      · exact hversion
  · rintro ⟨hlength, hident⟩
    have hmagic : kContainerMagic.length = 4 := rfl
    refine ⟨(), by omega, (), ?_, (), by omega, (), hident 4 (by omega), (), hident 5 (by omega),
      (), hident 6 (by omega), by omega⟩
    rw [forM_eq_ok]
    intro i hi
    rw [List.mem_range] at hi
    rw [refuseIf_eq_ok, not_not, hident i (by omega), List.getD_append _ _ _ _ hi]

theorem checkSectionTable_eq_ok {header : ContainerHeader}
    (hentry : header.sectionHeaderEntrySize.toNat = 64) :
    checkSectionTable bytes.length header = .ok () ↔
      header.sectionHeaderOffset.toNat + header.sectionHeaderCount.toNat * 64 ≤
        containerInputSize bytes := by
  have hproduct : header.sectionHeaderCount.toUInt64.toNat *
    header.sectionHeaderEntrySize.toUInt64.toNat =
      header.sectionHeaderCount.toNat * 64 := by
    rw [UInt16.toNat_toUInt64, UInt16.toNat_toUInt64, hentry]
  have hcount : header.sectionHeaderCount.toNat < 2 ^ 16 := header.sectionHeaderCount.toNat_lt
  obtain ⟨size, hsize, hsizeNat⟩ :=
    @exists_checkedMultiply header.sectionHeaderCount.toUInt64
      header.sectionHeaderEntrySize.toUInt64 (by rw [hproduct]; omega)
  rw [hproduct] at hsizeNat
  rw [le_containerInputSize]
  simp only [checkSectionTable, bind_eq_ok, orRefuse_eq_ok, refuseIf_eq_ok, hsize,
    Option.some.injEq]
  constructor
  · rintro ⟨_, rfl, last, hend, hbounds⟩
    obtain ⟨hlt, hlast⟩ := checkedAdd_eq_some hend
    omega
  · rintro ⟨hle, hlt⟩
    obtain ⟨last, hend, hlast⟩ := @exists_checkedAdd header.sectionHeaderOffset size (by omega)
    exact ⟨size, rfl, last, hend, by omega⟩

theorem checkStringTable_eq_ok :
    checkStringTable bytes.length record = .ok () ↔
      record.type = kShtStrtab ∧ record.offset.toNat + record.size.toNat ≤
        containerInputSize bytes := by
  rw [le_containerInputSize]
  simp only [checkStringTable, bind_eq_ok, orRefuse_eq_ok, refuseIf_eq_ok, ne_eq, not_not]
  constructor
  · rintro ⟨_, htype, last, hend, hbounds⟩
    obtain ⟨hlt, hlast⟩ := checkedAdd_eq_some hend
    exact ⟨htype, by omega⟩
  · rintro ⟨htype, hle, hlt⟩
    obtain ⟨last, hend, hlast⟩ := exists_checkedAdd hlt
    exact ⟨(), htype, last, hend, by omega⟩

theorem checkSectionExtent_eq_ok :
    checkSectionExtent bytes.length record = .ok () ↔ (record.type ≠ kShtNobits → record.size ≠ 0 →
      record.offset.toNat + record.size.toNat ≤ containerInputSize bytes) := by
  rw [le_containerInputSize, checkSectionExtent]
  simp only [whenever_eq_ok, bind_eq_ok, orRefuse_eq_ok, refuseIf_eq_ok]
  constructor
  · intro h htype hsize
    obtain ⟨last, hend, hbounds⟩ := h ⟨htype, hsize⟩
    obtain ⟨hlt, hlast⟩ := checkedAdd_eq_some hend
    omega
  · rintro h ⟨htype, hsize⟩
    obtain ⟨hle, hlt⟩ := h htype hsize
    obtain ⟨last, hend, hlast⟩ := exists_checkedAdd hlt
    exact ⟨last, hend, by omega⟩

/-- A file header whose fields are as the parser wants them. -/
structure CheckedContainerHeader (header : ContainerHeader) : Prop where
  version : header.elfVersion = 1
  machine : header.machine = kEmAmdgpu
  headerSize : header.elfHeaderSize.toNat = 64
  offset : header.sectionHeaderOffset ≠ 0
  count : header.sectionHeaderCount ≠ 0
  entrySize : header.sectionHeaderEntrySize.toNat = 64
  nameIndex : header.sectionNameTableIndex ≠ 0 ∧ header.sectionNameTableIndex ≠ kShnXindex ∧
    header.sectionNameTableIndex < header.sectionHeaderCount

theorem checkContainerHeader_eq_ok {header : ContainerHeader} :
    checkContainerHeader header = .ok () ↔ CheckedContainerHeader header := by
  simp only [checkContainerHeader, check_bind_eq_ok, refuseIf_eq_ok, not_or, ne_eq, not_not,
    ge_iff_le, UInt16.not_le]
  constructor
  · rintro ⟨hversion, hmachine, hsize, hoffset, hcount, hentry, hindex⟩
    exact ⟨hversion, hmachine, hsize, hoffset, hcount, hentry, hindex⟩
  · intro h
    exact ⟨h.version, h.machine, h.headerSize, h.offset, h.count, h.entrySize, h.nameIndex⟩

/-- The file header is accepted exactly when its checks pass. -/
theorem acceptedContainerHeader_iff :
    AcceptedContainerHeader bytes ↔
      checkContainerIdent bytes = .ok () ∧
      checkContainerHeader (readContainerHeader bytes) = .ok () ∧
        checkSectionTable bytes.length (readContainerHeader bytes) = .ok () ∧
        checkStringTable bytes.length (nameTable bytes) = .ok () := by
  rw [checkContainerIdent_eq_ok, checkContainerHeader_eq_ok, checkStringTable_eq_ok]
  constructor
  · intro h
    exact ⟨⟨h.inFile, h.ident⟩, ⟨h.version, h.machine, h.headerSize, h.offset, h.count,
      h.entrySize, h.nameIndex⟩, (checkSectionTable_eq_ok h.entrySize).mpr h.table, h.names,
      h.namesInFile⟩
  · rintro ⟨⟨hfile, hident⟩, h, htable, hnames, hnamesInFile⟩
    exact ⟨hfile, hident, h.version, h.machine, h.headerSize, h.offset, h.count, h.entrySize,
      h.nameIndex, (checkSectionTable_eq_ok h.entrySize).mp htable, hnames, hnamesInFile⟩

end Located

/-! ### The walk -/

section Walk

variable {bytes name : List UInt8} {record shaderHeader shaderText : SectionRecord}
  {found found' : FoundSections} {before : Option SectionRecord} {index k : ℕ}

theorem acceptShaderSection_eq_ok {sectionHeaderOffset : UInt64}
    {duplicate : AgcShaderContainerErrorCode} {accepted : SectionRecord} :
    acceptShaderSection sectionHeaderOffset record before duplicate = .ok accepted ↔
      record.type = kShtProgbits ∧ before = none ∧ accepted = record := by
  simp only [acceptShaderSection, bind_eq_ok, refuseIf_eq_ok, pure_eq_ok, ne_eq, not_not,
    Bool.not_eq_true, Option.isSome_eq_false_iff, Option.isNone_iff_eq_none]
  constructor
  · rintro ⟨_, htype, _, hbefore, rfl⟩
    exact ⟨htype, hbefore, rfl⟩
  · rintro ⟨htype, hbefore, rfl⟩
    exact ⟨(), htype, (), hbefore, rfl⟩

theorem checkNameComparison_eq_ok {sectionHeaderOffset : UInt64} {stringTable : SectionRecord}
    {comparison : NameComparison} :
    checkNameComparison sectionHeaderOffset stringTable record comparison = .ok () ↔
      comparison.nameInBounds = true ∧ comparison.terminated = true := by
  simp only [checkNameComparison, bind_eq_ok, refuseIf_eq_ok, Bool.not_eq_false]
  constructor
  · rintro ⟨_, hbounds, hterminated⟩
    exact ⟨hbounds, hterminated⟩
  · rintro ⟨hbounds, hterminated⟩
    exact ⟨(), hbounds, hterminated⟩

/-- What one round does: it accepts the section, and keeps it if it is the first of one of the
names. -/
def Visits (bytes : List UInt8) (record : SectionRecord) (found found' : FoundSections) : Prop :=
  (HasName bytes (nameTable bytes) record kShaderHeaderName ∧ found.shaderHeader = none ∧
      found' = { found with shaderHeader := some record }) ∨
    (HasName bytes (nameTable bytes) record kShaderTextName ∧ found.shaderText = none ∧
      found' = { found with shaderText := some record }) ∨
    (¬ HasName bytes (nameTable bytes) record kShaderHeaderName ∧
      ¬ HasName bytes (nameTable bytes) record kShaderTextName ∧ found' = found)

theorem visitSection_eq_ok (haccepted : AcceptedContainerHeader bytes) :
    visitSection bytes (readContainerHeader bytes).sectionHeaderOffset
      (nameTable bytes) found index = .ok found' ↔
      AcceptedSection bytes (sectionAt bytes index) ∧
      Visits bytes (sectionAt bytes index) found found' := by
  have htable := (le_containerInputSize.mp haccepted.namesInFile).2
  have hheader :=
    @sectionNameEquals_spec bytes kShaderHeaderName (nameTable bytes) (sectionAt bytes index) htable
    kShaderHeaderName_ne_zero
  have htext :=
    @sectionNameEquals_spec bytes kShaderTextName (nameTable bytes) (sectionAt bytes index) htable
    kShaderTextName_ne_zero
  dsimp only at hheader htext
  have hends : NameEnds bytes (nameTable bytes) (sectionAt bytes index) →
      (sectionAt bytes index).nameIndex.toNat < (nameTable bytes).size.toNat := by
    rintro ⟨n, hn, -⟩
    omega
  rw [visitSection, ← sectionAt]
  generalize sectionNameEquals bytes (nameTable bytes).offset (nameTable bytes).size
    (sectionAt bytes index).nameIndex
    kShaderHeaderName = isHeader at hheader
  generalize sectionNameEquals bytes (nameTable bytes).offset (nameTable bytes).size
    (sectionAt bytes index).nameIndex
    kShaderTextName = isText at htext
  generalize sectionAt bytes index = record at hheader htext hends
  obtain ⟨hheaderBounds, hheaderEnds, hheaderEqual⟩ := hheader
  obtain ⟨htextBounds, htextEnds, htextEqual⟩ := htext
  have hnamed : NameEnds bytes (nameTable bytes) record →
      (isHeader.nameInBounds = true ∧ isHeader.terminated = true) ∧
        isText.nameInBounds = true ∧ isText.terminated = true := fun h =>
    ⟨⟨hheaderBounds.mpr (hends h), hheaderEnds.mpr h⟩, htextBounds.mpr (hends h), htextEnds.mpr h⟩
  dsimp only
  simp only [check_bind_eq_ok, checkSectionExtent_eq_ok, checkNameComparison_eq_ok]
  by_cases hisHeader : isHeader.equal = true
  · have hname := hheaderEqual.mp hisHeader
    simp only [if_pos hisHeader, bind_eq_ok, acceptShaderSection_eq_ok, pure_eq_ok]
    constructor
    · rintro ⟨hextent, hcomparison, _, ⟨htype, hnone, rfl⟩, rfl⟩
      exact ⟨⟨hextent, hheaderEnds.mp hcomparison.2, fun _ => htype⟩, .inl ⟨hname, hnone, rfl⟩⟩
    · rintro ⟨hsection, hvisits⟩
      rcases hvisits with ⟨-, hnone, rfl⟩ | ⟨htextName, -⟩ | ⟨hno, -⟩
      · exact ⟨hsection.extent, (hnamed hsection.nameEnds).1, _,
          ⟨hsection.type (.inl hname), hnone, rfl⟩, rfl⟩
      · exact absurd htextName (not_hasName_both hname)
      · exact absurd hname hno
  · have hnoHeader : ¬ HasName bytes (nameTable bytes) record kShaderHeaderName :=
      fun h => hisHeader (hheaderEqual.mpr h)
    simp only [if_neg hisHeader, check_bind_eq_ok, checkNameComparison_eq_ok]
    by_cases hisText : isText.equal = true
    · have hname := htextEqual.mp hisText
      simp only [if_pos hisText, bind_eq_ok, acceptShaderSection_eq_ok, pure_eq_ok]
      constructor
      · rintro ⟨hextent, hcomparison, -, _, ⟨htype, hnone, rfl⟩, rfl⟩
        exact ⟨⟨hextent, hheaderEnds.mp hcomparison.2, fun _ => htype⟩,
          .inr (.inl ⟨hname, hnone, rfl⟩)⟩
      · rintro ⟨hsection, hvisits⟩
        rcases hvisits with ⟨hheaderName, -⟩ | ⟨-, hnone, rfl⟩ | ⟨-, hno, -⟩
        · exact absurd hheaderName hnoHeader
        · obtain ⟨hheader, htext⟩ := hnamed hsection.nameEnds
          exact ⟨hsection.extent, hheader, htext, _, ⟨hsection.type (.inr hname), hnone, rfl⟩, rfl⟩
        · exact absurd hname hno
    · have hnoText : ¬ HasName bytes (nameTable bytes) record kShaderTextName :=
        fun h => hisText (htextEqual.mpr h)
      simp only [if_neg hisText, pure_eq_ok]
      constructor
      · rintro ⟨hextent, hcomparison, -, rfl⟩
        refine ⟨⟨hextent, hheaderEnds.mp hcomparison.2, ?_⟩, .inr (.inr ⟨hnoHeader, hnoText, rfl⟩)⟩
        rintro (h | h)
        · exact absurd h hnoHeader
        · exact absurd h hnoText
      · rintro ⟨hsection, hvisits⟩
        rcases hvisits with ⟨hheaderName, -⟩ | ⟨htextName, -⟩ | ⟨-, -, rfl⟩
        · exact absurd hheaderName hnoHeader
        · exact absurd htextName hnoText
        · obtain ⟨hheader, htext⟩ := hnamed hsection.nameEnds
          exact ⟨hsection.extent, hheader, htext, rfl⟩

/-- The section of a name among the first `k`, if there is one. -/
def FoundNamed (bytes name : List UInt8) (k : ℕ) : Option SectionRecord → Prop
  | none => ∀ j < k, ¬ HasName bytes (nameTable bytes) (sectionAt bytes j) name
  | some record => ∃ i < k, record = sectionAt bytes i ∧
      ∀ j < k, HasName bytes (nameTable bytes) (sectionAt bytes j) name ↔ j = i

theorem FoundNamed.keep (h : FoundNamed bytes name k none)
    (hname : HasName bytes (nameTable bytes) (sectionAt bytes k) name) :
    FoundNamed bytes name (k + 1) (some (sectionAt bytes k)) := by
  refine ⟨k, Nat.lt_succ_self k, rfl, ?_⟩
  intro j hj
  rcases Nat.lt_succ_iff_lt_or_eq.mp hj with hj | rfl
  · exact iff_of_false (h j hj) hj.ne
  · exact iff_of_true hname rfl

theorem FoundNamed.skip (h : FoundNamed bytes name k before)
    (hname : ¬ HasName bytes (nameTable bytes) (sectionAt bytes k) name) :
    FoundNamed bytes name (k + 1) before := by
  cases before with
  | none =>
    intro j hj
    rcases Nat.lt_succ_iff_lt_or_eq.mp hj with hj | rfl
    · exact h j hj
    · exact hname
  | some record =>
    obtain ⟨i, hi, hrecord, honly⟩ := h
    refine ⟨i, by omega, hrecord, ?_⟩
    intro j hj
    rcases Nat.lt_succ_iff_lt_or_eq.mp hj with hj | rfl
    · exact honly j hj
    · exact iff_of_false hname (by omega)

/-- What the walk has found among the first `k` sections. -/
structure Scanned (bytes : List UInt8) (k : ℕ) (found : FoundSections) : Prop where
  sections : ∀ i < k, AcceptedSection bytes (sectionAt bytes i)
  shaderHeader : FoundNamed bytes kShaderHeaderName k found.shaderHeader
  shaderText : FoundNamed bytes kShaderTextName k found.shaderText

theorem Scanned.step (h : Scanned bytes k found)
    (hsection : AcceptedSection bytes (sectionAt bytes k))
    (hvisits : Visits bytes (sectionAt bytes k) found found') : Scanned bytes (k + 1) found' := by
  have hsections : ∀ i < k + 1, AcceptedSection bytes (sectionAt bytes i) := by
    intro i hi
    rcases Nat.lt_succ_iff_lt_or_eq.mp hi with hi | rfl
    · exact h.sections i hi
    · exact hsection
  have hheader := h.shaderHeader
  have htext := h.shaderText
  rcases hvisits with ⟨hname, hnone, rfl⟩ | ⟨hname, hnone, rfl⟩ | ⟨hnoHeader, hnoText, rfl⟩
  · rw [hnone] at hheader
    exact ⟨hsections, hheader.keep hname, htext.skip (not_hasName_both hname)⟩
  · rw [hnone] at htext
    exact ⟨hsections, hheader.skip fun h => not_hasName_both h hname, htext.keep hname⟩
  · exact ⟨hsections, hheader.skip hnoHeader, htext.skip hnoText⟩

theorem foldlM_range_succ {β ε : Type} (f : β → ℕ → Except ε β) (b : β) (k : ℕ) :
    (List.range (k + 1)).foldlM f b = (List.range k).foldlM f b >>= fun b' => f b' k := by
  rw [List.range_succ, List.foldlM_append]
  refine congrArg _ (funext fun b' => ?_)
  rw [List.foldlM_cons]
  cases f b' k <;> rfl

theorem Scanned.run (haccepted : AcceptedContainerHeader bytes)
    (h : (List.range k).foldlM (visitSection bytes (readContainerHeader bytes).sectionHeaderOffset
      (nameTable bytes)) {} = .ok found) : Scanned bytes k found := by
  induction k generalizing found with
  | zero =>
    cases h
    exact ⟨fun i hi => absurd hi (Nat.not_lt_zero i), fun j hj => absurd hj (Nat.not_lt_zero j),
      fun j hj => absurd hj (Nat.not_lt_zero j)⟩
  | succ k ih =>
    rw [foldlM_range_succ, bind_eq_ok] at h
    obtain ⟨found₁, hfirst, hlast⟩ := h
    rw [visitSection_eq_ok haccepted] at hlast
    exact (ih hfirst).step hlast.1 hlast.2

/-- The walk comes through where every section is accepted and none of the names comes twice. -/
theorem exists_scan (haccepted : AcceptedContainerHeader bytes)
    (hsections : ∀ i < k, AcceptedSection bytes (sectionAt bytes i))
    (hheader : ∀ i < k, ∀ j < k, HasName bytes (nameTable bytes)
      (sectionAt bytes i) kShaderHeaderName →
    HasName bytes (nameTable bytes) (sectionAt bytes j) kShaderHeaderName → i = j)
    (htext : ∀ i < k, ∀ j < k, HasName bytes (nameTable bytes) (sectionAt bytes i) kShaderTextName →
      HasName bytes (nameTable bytes) (sectionAt bytes j) kShaderTextName → i = j) :
    ∃ found, (List.range k).foldlM
      (visitSection bytes (readContainerHeader bytes).sectionHeaderOffset (nameTable bytes)) {} =
      .ok found := by
  induction k with
  | zero => exact ⟨_, rfl⟩
  | succ k ih =>
    obtain ⟨found, hfound⟩ :=
      ih (fun i hi => hsections i (by omega)) (fun i hi j hj => hheader i (by omega) j (by omega))
      (fun i hi j hj => htext i (by omega) j (by omega))
    have hscanned := Scanned.run haccepted hfound
    have hunique : ∀ {name : List UInt8} {before : Option SectionRecord},
      FoundNamed bytes name k before →
        (∀ i < k + 1, ∀ j < k + 1, HasName bytes (nameTable bytes) (sectionAt bytes i) name →
          HasName bytes (nameTable bytes) (sectionAt bytes j) name → i = j) →
        HasName bytes (nameTable bytes) (sectionAt bytes k) name → before = none := by
      intro name before hbefore honly hname
      cases before with
      | none => rfl
      | some record =>
        obtain ⟨i, hi, -, hnamed⟩ := hbefore
        have := honly i (by omega) k (by omega) ((hnamed i hi).mpr rfl) hname
        omega
    have hvisits : ∃ found', Visits bytes (sectionAt bytes k) found found' := by
      by_cases hisHeader : HasName bytes (nameTable bytes) (sectionAt bytes k) kShaderHeaderName
      · exact ⟨_, .inl ⟨hisHeader, hunique hscanned.shaderHeader hheader hisHeader, rfl⟩⟩
      · by_cases hisText : HasName bytes (nameTable bytes) (sectionAt bytes k) kShaderTextName
        · exact ⟨_, .inr (.inl ⟨hisText, hunique hscanned.shaderText htext hisText, rfl⟩)⟩
        · exact ⟨_, .inr (.inr ⟨hisHeader, hisText, rfl⟩)⟩
    obtain ⟨found', hfound'⟩ := hvisits
    refine ⟨found', ?_⟩
    rw [foldlM_range_succ, hfound, ok_bind, visitSection_eq_ok haccepted]
    exact ⟨hsections k (by omega), hfound'⟩

/-- **The files in which the parser finds the two sections.** -/
theorem locateShaderSections_eq_ok {header : ContainerHeader} :
    locateShaderSections bytes = .ok (header, shaderHeader, shaderText) ↔
      header = readContainerHeader bytes ∧ ShaderSections bytes shaderHeader shaderText := by
  rw [locateShaderSections]
  dsimp only
  rw [← sectionAt, ← nameTable, ← sectionCount]
  simp only [bind_eq_ok, orRefuse_eq_ok, pure_eq_ok, Prod.mk.injEq]
  constructor
  · rintro ⟨⟨⟩, hident, ⟨⟩, hheader, ⟨⟩, htable, ⟨⟩, hnames, found, hfound, record, hrecord,
      record', hrecord', rfl, rfl, rfl⟩
    have haccepted := acceptedContainerHeader_iff.mpr ⟨hident, hheader, htable, hnames⟩
    have hscanned := Scanned.run haccepted hfound
    have hheaderNamed := hscanned.shaderHeader
    have htextNamed := hscanned.shaderText
    rw [hrecord] at hheaderNamed
    rw [hrecord'] at htextNamed
    exact ⟨rfl, haccepted, hscanned.sections, hheaderNamed, htextNamed⟩
  · rintro ⟨rfl, hsections⟩
    have hident := acceptedContainerHeader_iff.mp hsections.header
    obtain ⟨i, hi, hheaderRecord, hheaderNamed⟩ := hsections.shaderHeader
    obtain ⟨j, hj, htextRecord, htextNamed⟩ := hsections.shaderText
    obtain ⟨found, hfound⟩ := exists_scan hsections.header hsections.sections
      (fun a ha b hb h h' => ((hheaderNamed a ha).mp h).trans ((hheaderNamed b hb).mp h').symm)
      (fun a ha b hb h h' => ((htextNamed a ha).mp h).trans ((htextNamed b hb).mp h').symm)
    have hscanned := Scanned.run hsections.header hfound
    have hsame : ∀ {name : List UInt8} {before : Option SectionRecord} {record : SectionRecord}
      {i : ℕ},
        FoundNamed bytes name (sectionCount bytes) before → i < sectionCount bytes →
          record = sectionAt bytes i →
        (∀ j < sectionCount bytes, HasName bytes (nameTable bytes) (sectionAt bytes j) name ↔
        j = i) →
        before = some record := by
      intro name before record i hbefore hi hrecord hnamed
      cases before with
      | none => exact absurd ((hnamed i hi).mpr rfl) (hbefore i hi)
      | some found =>
        obtain ⟨i', hi', hfound, hnamed'⟩ := hbefore
        have hindex : i' = i := (hnamed i' hi').mp ((hnamed' i' hi').mpr rfl)
        rw [hfound, hindex, hrecord]
    have hshaderHeader := hsame hscanned.shaderHeader hi hheaderRecord hheaderNamed
    have hshaderText := hsame hscanned.shaderText hj htextRecord htextNamed
    obtain ⟨hmagic, hclass, hencoding, hversion⟩ := hident
    exact ⟨(), hmagic, (), hclass, (), hencoding, (), hversion, found, hfound, _, hshaderHeader, _,
      hshaderText, rfl, rfl, rfl⟩

end Walk

/-! ### The guarded walk -/

section GuardedWalk

variable {bytes : List UInt8} {found : FoundSections} {index : ℕ}

theorem sectionRecordOffset_toNat {sectionHeaderOffset : UInt64} {n : ℕ}
    (h : sectionHeaderOffset.toNat + n * 64 < 2 ^ 64) (hindex : index < n) :
    (sectionRecordOffset sectionHeaderOffset index).toNat =
      sectionHeaderOffset.toNat + index * 64 := by
  have hsize : (UInt64.ofNat kElf64SectionHeaderSize).toNat = 64 := rfl
  rw [sectionRecordOffset, UInt64.toNat_add, UInt64.toNat_mul, hsize, toNat_ofNat_of_lt (by omega)]
  rw [Nat.mod_eq_of_lt (by omega : index * 64 < 2 ^ 64), Nat.mod_eq_of_lt (by omega)]

theorem readSectionGuarded_eq
    (htable : (readContainerHeader bytes).sectionHeaderOffset.toNat + sectionCount bytes * 64 ≤
      containerInputSize bytes) (hindex : index < sectionCount bytes) :
    readSectionRecordGuarded bytes (readContainerHeader bytes).sectionHeaderOffset index =
      .ok (sectionAt bytes index) := by
  rw [le_containerInputSize] at htable
  apply readSectionRecordGuarded_eq
  rw [sectionRecordOffset_toNat htable.2 hindex]
  omega

theorem visitSectionGuarded_eq (haccepted : AcceptedContainerHeader bytes)
    (hindex : index < sectionCount bytes) :
    visitSectionGuarded bytes (readContainerHeader bytes).sectionHeaderOffset
      (nameTable bytes) found index =
      (visitSection bytes (readContainerHeader bytes).sectionHeaderOffset
        (nameTable bytes) found index).mapError some := by
  obtain ⟨hinside, hwrap⟩ := le_containerInputSize.mp haccepted.namesInFile
  rw [visitSectionGuarded, visitSection, readSectionGuarded_eq haccepted.table hindex, ok_bind]
  dsimp only
  rw [← sectionAt]
  refine bind_eq_mapError_bind rfl ?_
  intro _ _
  rw [sectionNameEqualsGuarded_eq hwrap hinside, ok_bind]
  refine bind_eq_mapError_bind rfl ?_
  intro _ _
  by_cases hisHeader : (sectionNameEquals bytes (nameTable bytes).offset (nameTable bytes).size
      (sectionAt bytes index).nameIndex kShaderHeaderName).equal = true
  · rw [if_pos hisHeader, if_pos hisHeader]
    refine bind_eq_mapError_bind rfl ?_
    intro _ _
    rfl
  · rw [if_neg hisHeader, if_neg hisHeader, sectionNameEqualsGuarded_eq hwrap hinside, ok_bind]
    refine bind_eq_mapError_bind rfl ?_
    intro _ _
    split_ifs
    · refine bind_eq_mapError_bind rfl ?_
      intro _ _
      rfl
    · rfl

/-- **The parser reads inside the file until it has found the two sections.** -/
theorem locateShaderSectionsGuarded_eq (bytes : List UInt8) :
    locateShaderSectionsGuarded bytes = (locateShaderSections bytes).mapError some := by
  refine bind_eq_mapError_bind (checkContainerIdentGuarded_eq bytes) ?_
  intro _ hident
  rw [readContainerHeaderGuarded_eq (checkContainerIdent_eq_ok.mp hident).1, ok_bind]
  refine bind_eq_mapError_bind rfl ?_
  intro _ hheader
  refine bind_eq_mapError_bind rfl ?_
  intro _ htable
  have hchecked := checkContainerHeader_eq_ok.mp hheader
  rw [readSectionGuarded_eq ((checkSectionTable_eq_ok hchecked.entrySize).mp htable)
    (UInt16.lt_iff_toNat_lt.mp hchecked.nameIndex.2.2), ok_bind]
  dsimp only
  rw [← sectionAt, ← nameTable]
  refine bind_eq_mapError_bind rfl ?_
  intro _ hnames
  have haccepted := acceptedContainerHeader_iff.mpr ⟨hident, hheader, htable, hnames⟩
  rw [spanWithin_eq (le_containerInputSize.mp haccepted.namesInFile).1, ok_bind]
  refine bind_eq_mapError_bind ?_ ?_
  · apply foldlM_eq_mapError
    intro found index hindex
    exact visitSectionGuarded_eq haccepted (List.mem_range.mp hindex)
  intro found _
  refine orRefuse_bind_mapError ?_
  intro shaderHeader _
  refine orRefuse_bind_mapError ?_
  intro shaderText _
  rfl

end GuardedWalk

/-! ### The two spans -/

/-- One of the two sections is empty and begins behind the end of the file. -/
def EmptyBehindEnd (bytes : List UInt8) (record : SectionRecord) : Prop :=
  record.size = 0 ∧ bytes.length < record.offset.toNat

/-- The file passes every check up to the two sections, and one of them is empty and begins behind
its end. -/
def EmptySectionBehindEnd (bytes : List UInt8) : Prop :=
  ∃ shaderHeader shaderText, ShaderSections bytes shaderHeader shaderText ∧
    (EmptyBehindEnd bytes shaderHeader ∨ EmptyBehindEnd bytes shaderText)

/-- Every byte and every span is looked up where there is one. -/
def ReadsInside (host : Host) (bytes : List UInt8) : Prop :=
  parseAgcShaderContainerGuarded host bytes = (parseAgcShaderContainer host bytes).mapError some

/-- A section that a container records: a range of the file, and the only section of its name. -/
structure RecordedSection (bytes name : List UInt8) (recorded : AgcShaderSectionProvenance) :
    Prop where
  inFile : recorded.fileOffset.toNat + recorded.fileSize.toNat ≤ bytes.length
  only : ∃ record, OnlyNamed bytes name record ∧ record.type = kShtProgbits ∧
    recorded = record.provenance

/-- The container of two sections of the file. -/
structure ContainerOf (host : Host) (bytes : List UInt8) (container : AgcShaderContainer) :
    Prop where
  shaderHeader : RecordedSection bytes kShaderHeaderName container.shaderHeaderSection
  shaderText : RecordedSection bytes kShaderTextName container.shaderTextSection
  shader : parseAgcShaderBinary host
    (subspan bytes container.shaderHeaderSection.fileOffset.toNat
      container.shaderHeaderSection.fileSize.toNat)
    (subspan bytes container.shaderTextSection.fileOffset.toNat
      container.shaderTextSection.fileSize.toNat) =
      .ok container.shader

section Spans

variable {host : Host} {bytes name : List UInt8} {header : ContainerHeader}
  {record shaderHeader shaderText : SectionRecord}

/-- The section of a name is a range of the file, unless it is empty. -/
theorem OnlyNamed.accepted (h : OnlyNamed bytes name record)
    (hsections : ∀ i < sectionCount bytes, AcceptedSection bytes (sectionAt bytes i)) :
    AcceptedSection bytes record ∧ HasName bytes (nameTable bytes) record name := by
  obtain ⟨i, hi, rfl, hnamed⟩ := h
  exact ⟨hsections i hi, (hnamed i hi).mpr rfl⟩

theorem AcceptedSection.inFile (h : AcceptedSection bytes record)
    (htype : record.type = kShtProgbits) (hsize : record.size ≠ 0) :
    record.offset.toNat + record.size.toNat ≤ bytes.length := by
  have hbits : record.type ≠ kShtNobits := by
    rw [htype]
    decide
  exact (le_containerInputSize.mp (h.extent hbits hsize)).1

theorem AcceptedSection.emptyBehindEnd (h : AcceptedSection bytes record)
    (htype : record.type = kShtProgbits) :
    EmptyBehindEnd bytes record ↔ bytes.length < record.offset.toNat + record.size.toNat := by
  by_cases hsize : record.size = 0
  · have hzero : record.size.toNat = 0 := by rw [hsize]; rfl
    rw [hzero, Nat.add_zero]
    exact ⟨fun hbehind => hbehind.2, fun hbehind => ⟨hsize, hbehind⟩⟩
  · have hinside := h.inFile htype hsize
    exact iff_of_false (fun hbehind => hsize hbehind.1) (by omega)

namespace ShaderSections

section

variable (h : ShaderSections bytes shaderHeader shaderText)

include h

theorem headerAccepted : AcceptedSection bytes shaderHeader ∧ shaderHeader.type = kShtProgbits := by
  obtain ⟨haccepted, hname⟩ := h.shaderHeader.accepted h.sections
  exact ⟨haccepted, haccepted.type (.inl hname)⟩

theorem textAccepted : AcceptedSection bytes shaderText ∧ shaderText.type = kShtProgbits := by
  obtain ⟨haccepted, hname⟩ := h.shaderText.accepted h.sections
  exact ⟨haccepted, haccepted.type (.inr hname)⟩

theorem located :
    locateShaderSections bytes = .ok (readContainerHeader bytes, shaderHeader, shaderText) :=
  locateShaderSections_eq_ok.mpr ⟨rfl, h⟩

end

end ShaderSections

theorem mapError_mapError_some {ε ε' α : Type} (x : Except ε α) (f : ε → ε') :
    (x.mapError some).mapError (Option.map f) = (x.mapError f).mapError some := by
  cases x <;> rfl

/-- The guarded parser behind the two sections, where both spans are in the file. -/
theorem readsInside_of_located
    (hheader : shaderHeader.offset.toNat + shaderHeader.size.toNat ≤ bytes.length)
    (htext : shaderText.offset.toNat + shaderText.size.toNat ≤ bytes.length)
    (hfile : 64 ≤ bytes.length)
    (hlocated : locateShaderSections bytes = .ok (header, shaderHeader, shaderText)) :
    ReadsInside host bytes := by
  rw [ReadsInside, parseAgcShaderContainerGuarded, parseAgcShaderContainer_eq,
    locateShaderSectionsGuarded_eq, hlocated, mapError_ok, ok_bind, ok_bind]
  dsimp only
  rw [spanWithin_eq hheader, ok_bind, spanWithin_eq htext, ok_bind, ← subspan, ← subspan]
  refine bind_eq_mapError_bind ?_ ?_
  · rw [parseAgcShaderBinaryGuarded_eq]
    exact mapError_mapError_some _ _
  intro shader _
  refine bind_eq_mapError_bind rfl ?_
  intro _ _
  rw [byteWithin_eq (by omega), ok_bind, byteWithin_eq (by omega), ok_bind]
  rfl

theorem not_readsInside
    (hlocated : locateShaderSections bytes = .ok (header, shaderHeader, shaderText))
    (hbehind : bytes.length < shaderHeader.offset.toNat + shaderHeader.size.toNat ∨
      bytes.length < shaderText.offset.toNat + shaderText.size.toNat) :
        ¬ ReadsInside host bytes := by
  have hguarded : parseAgcShaderContainerGuarded host bytes = .error none := by
    rw [parseAgcShaderContainerGuarded, locateShaderSectionsGuarded_eq, hlocated, mapError_ok,
      ok_bind]
    dsimp only
    by_cases hheader : bytes.length < shaderHeader.offset.toNat + shaderHeader.size.toNat
    · rw [spanWithin_eq_error hheader]
      rfl
    · rw [spanWithin_eq (by omega), ok_bind, spanWithin_eq_error (hbehind.resolve_left hheader)]
      rfl
  intro hinside
  rw [ReadsInside, hguarded] at hinside
  obtain ⟨e, -, he⟩ := mapError_eq_error.mp hinside.symm
  cases he

/-- A parsed container is one of two sections of the file. -/
theorem parseAgcShaderContainer_eq_ok {container : AgcShaderContainer}
    (h : parseAgcShaderContainer host bytes = .ok container) :
    ContainerOf host bytes container := by
  rw [parseAgcShaderContainer_eq, bind_eq_ok] at h
  obtain ⟨⟨header, shaderHeader, shaderText⟩, hlocated, hcontainer⟩ := h
  obtain ⟨-, hsections⟩ := locateShaderSections_eq_ok.mp hlocated
  simp only [containerOf, bind_eq_ok, mapError_eq_ok, pure_eq_ok] at hcontainer
  obtain ⟨shader, hshader, _, -, rfl⟩ := hcontainer
  have hparsed := parseAgcShaderBinary_eq_ok hshader
  have hempty : ∀ offset, (subspan bytes offset 0).length = 0 := by
    intro offset
    rw [subspan, List.take_zero, List.length_nil]
  have hheaderSize : shaderHeader.size ≠ 0 := by
    intro hzero
    have hminimum := hparsed.headerMinimum
    rw [hzero, UInt64.toNat_zero, hempty, kAgcHeaderMinimumSize] at hminimum
    omega
  have htextSize : shaderText.size ≠ 0 := by
    intro hzero
    have hminimum := hparsed.textMinimum
    rw [hzero, UInt64.toNat_zero, hempty, kAgcShaderTextTrailerSize] at hminimum
    omega
  obtain ⟨hheader, hheaderType⟩ := hsections.headerAccepted
  obtain ⟨htext, htextType⟩ := hsections.textAccepted
  exact ⟨⟨hheader.inFile hheaderType hheaderSize, shaderHeader, hsections.shaderHeader, hheaderType,
    rfl⟩, ⟨htext.inFile htextType htextSize, shaderText, hsections.shaderText, htextType, rfl⟩,
    hshader⟩

end Spans

/-- **The container parser reads inside the file**, and its result is that of the two sections,
unless the file has an empty `.shader_header` or `.shader_text` behind its end. -/
theorem parseAgcShaderContainer_readsInside (host : Host) (bytes : List UInt8) :
    (ReadsInside host bytes ∧
      ∀ container, parseAgcShaderContainer host bytes = .ok container →
        ContainerOf host bytes container) ↔
      ¬ EmptySectionBehindEnd bytes := by
  constructor
  · rintro ⟨hinside, -⟩ ⟨shaderHeader, shaderText, hsections, hempty⟩
    obtain ⟨hheader, hheaderType⟩ := hsections.headerAccepted
    obtain ⟨htext, htextType⟩ := hsections.textAccepted
    rw [hheader.emptyBehindEnd hheaderType, htext.emptyBehindEnd htextType] at hempty
    exact not_readsInside hsections.located hempty hinside
  · intro hnot
    refine ⟨?_, fun container hcontainer => parseAgcShaderContainer_eq_ok hcontainer⟩
    cases hlocated : locateShaderSections bytes with
    | error e =>
      rw [ReadsInside, parseAgcShaderContainerGuarded, parseAgcShaderContainer_eq,
        locateShaderSectionsGuarded_eq, hlocated]
      rfl
    | ok located =>
      obtain ⟨header, shaderHeader, shaderText⟩ := located
      obtain ⟨-, hsections⟩ := locateShaderSections_eq_ok.mp hlocated
      obtain ⟨hheader, hheaderType⟩ := hsections.headerAccepted
      obtain ⟨htext, htextType⟩ := hsections.textAccepted
      have hheaderInside : ¬ bytes.length < shaderHeader.offset.toNat +
          shaderHeader.size.toNat := by
        rw [← hheader.emptyBehindEnd hheaderType]
        intro hempty
        exact hnot ⟨shaderHeader, shaderText, hsections, .inl hempty⟩
      have htextInside : ¬ bytes.length < shaderText.offset.toNat + shaderText.size.toNat := by
        rw [← htext.emptyBehindEnd htextType]
        intro hempty
        exact hnot ⟨shaderHeader, shaderText, hsections, .inr hempty⟩
      exact readsInside_of_located (Nat.not_lt.mp hheaderInside)
        (Nat.not_lt.mp htextInside) hsections.header.inFile hlocated

/-- A file with an empty `.shader_header` at 0x1000, an empty `.shader_text` and the table of their
names. -/
def emptySectionFile : List UInt8 :=
  let header := kContainerMagic ++ [2, 1, 1] ++ List.replicate 11 0 ++ [224, 0] ++ [1, 0, 0, 0] ++
    List.replicate 16 0 ++
    [64, 0, 0, 0, 0, 0, 0, 0] ++ List.replicate 4 0 ++ [64, 0] ++ List.replicate 4 0 ++
      [64, 0, 3, 0, 1, 0]
  let record := fun (name type : UInt8) (offset : List UInt8) (size : UInt8) =>
    [name, 0, 0, 0, type, 0, 0, 0] ++ List.replicate 16 0 ++ offset ++ List.replicate 6 0 ++
      [size] ++ List.replicate 31 0
  header ++ record 0 1 [0, 0x10] 0 ++ record 14 3 [0, 1] 28 ++ record 15 1 [0, 0] 0 ++
    kShaderHeaderName ++ [0] ++ kShaderTextName ++ [0]

/-- An empty section behind the end of the file passes the checks, and the span of it is formed. -/
theorem emptySectionFile_readsOutside :
    ¬ (ReadsInside Host.plentiful emptySectionFile ∧ ∀ container,
      parseAgcShaderContainer Host.plentiful emptySectionFile = .ok container →
        ContainerOf Host.plentiful emptySectionFile container) := by
  rintro ⟨hinside, -⟩
  have hguarded : parseAgcShaderContainerGuarded Host.plentiful emptySectionFile =
    .error none := by decide +kernel
  rw [ReadsInside, hguarded] at hinside
  obtain ⟨e, -, he⟩ := mapError_eq_error.mp hinside.symm
  cases he

end Astraea.Graphics
