import Astraea.Base.LittleEndian
import Astraea.Base.Word
import Astraea.Core.HostAllocation

/-!
# AGC shader binaries

A shader reaches the emulator as two byte strings, the header and the text.
`parse_agc_shader_binary` checks their sizes against what the header declares, follows the
two self-relative pointers of the header to its register lists, and takes the program
words from the front of the text, as the trailer of the text declares.

`RegisterListAt` and `parseAgcShaderBinary_eq_ok` say what a parsed shader is made of.
-/

namespace Astraea.Graphics

open Astraea.Base Astraea.Core

/-- The stages a shader can be for. -/
inductive AgcShaderStage where
  | compute
  | pixel
  | geometry
  | hull
  | geometryFront
  | hullFront
  | geometryBack
  | hullBack
  | function
  deriving DecidableEq

/-- The byte that tells the type of a program. -/
structure AgcShaderProgramType where
  raw : UInt8
  known : Option AgcShaderStage
  deriving DecidableEq

/-- The two lists of registers. -/
inductive AgcRegisterListKind where
  | context
  | shader
  deriving DecidableEq

/-- A register and its value. -/
structure AgcRegisterWrite where
  registerOffset : UInt16
  value : UInt32
  deriving DecidableEq

/-- What a header says of its shader. -/
structure AgcShaderBinary where
  headerMagic : UInt32
  headerVersion : UInt32
  declaredHeaderSize : UInt32
  declaredShaderTextSize : UInt32
  programType : AgcShaderProgramType
  contextRegisterListHeaderOffset : Option UInt64
  shaderRegisterListHeaderOffset : Option UInt64
  contextRegisters : List AgcRegisterWrite
  shaderRegisters : List AgcRegisterWrite
  programByteSize : UInt32
  trailerSl00ByteSize : UInt32
  shaderHeaderBytes : List UInt8
  shaderTextBytes : List UInt8
  rdna2Words : List UInt32
  deriving DecidableEq

/-- The part of the binary that an error is about. -/
inductive AgcShaderBinaryRegion where
  | none
  | shaderHeader
  | shaderText
  deriving DecidableEq

/-- Why a binary is refused. -/
inductive AgcShaderBinaryErrorCode where
  | shaderHeaderTooSmall
  | badShaderHeaderMagic
  | declaredHeaderSizeMismatch
  | declaredShaderTextSizeMismatch
  | registerTableExtentOverflow
  | registerTableExtentOutOfBounds
  | shaderTextTooSmallForTrailer
  | programExtentOutOfBounds
  | programSizeNotDwordAligned
  | hostAllocationFailure
  deriving DecidableEq

/-- A binary that is refused, with the byte it is about. -/
structure AgcShaderBinaryError where
  code : AgcShaderBinaryErrorCode
  region : AgcShaderBinaryRegion := .none
  byteOffset : ℕ := 0
  registerListKind : Option AgcRegisterListKind := none
  deriving DecidableEq

/-- The first word of a header. -/
def kAgcHeaderMagic : UInt32 := 0x34333231

/-- The least bytes of a header. -/
def kAgcHeaderMinimumSize : ℕ := 96

/-- Where a header points to its context registers. -/
def kAgcContextRegistersOffset : ℕ := 0x18

/-- Where a header points to its shader registers. -/
def kAgcShaderRegistersOffset : ℕ := 0x20

/-- Where a header has its size. -/
def kAgcHeaderSizeOffset : ℕ := 0x40

/-- Where a header has the size of the text. -/
def kAgcShaderTextSizeOffset : ℕ := 0x44

/-- Where a header has the type of the program. -/
def kAgcProgramTypeOffset : ℕ := 0x5a

/-- Where a header has the number of context registers. -/
def kAgcContextRegisterCountOffset : ℕ := 0x5b

/-- Where a header has the number of shader registers. -/
def kAgcShaderRegisterCountOffset : ℕ := 0x5c

/-- The bytes of a record of a register. -/
def kAgcRegisterRecordSize : ℕ := 8

/-- The bytes of a trailer. -/
def kAgcShaderTextTrailerSize : ℕ := 0x30

/-- Where a trailer has the length of the program. -/
def kAgcTrailerProgramLengthOffset : ℕ := 0x14

/-- Where a trailer has the length of its `sl00` block. -/
def kAgcTrailerSl00LengthOffset : ℕ := 0x1c

/-- The byte at `offset`. -/
def u8At (bytes : List UInt8) (offset : ℕ) : UInt8 := UInt8.ofNat (leAt 1 bytes offset)

/-- `program_type`. -/
def programType (raw : UInt8) : AgcShaderProgramType where
  raw := raw
  known := match raw with
    | 0 => some .compute
    | 1 => some .pixel
    | 2 => some .geometry
    | 3 => some .hull
    | 4 => some .geometryFront
    | 5 => some .hullFront
    | 6 => some .geometryBack
    | 7 => some .hullBack
    | 8 => some .function
    | _ => none

/-- The register record at an offset of the header: an offset, two unused bytes and a value. -/
def registerRecordAt (header : List UInt8) (offset : ℕ) : AgcRegisterWrite :=
  ⟨u16At header offset, u32At header (offset + 4)⟩

/-- The register records from an offset of the header on. -/
def registerRecordsAt (header : List UInt8) (offset count : ℕ) : List AgcRegisterWrite :=
  (List.range count).map fun index =>
    registerRecordAt header (offset + index * kAgcRegisterRecordSize)

/-- A list of registers, and where it ends. -/
structure ParsedRegisterList where
  writes : List AgcRegisterWrite
  headerOffset : Option UInt64
  deriving DecidableEq

/-- Where the registers of a list are collected. -/
def AgcRegisterListKind.site : AgcRegisterListKind → AllocationSite
  | .context => .contextRegisterList
  | .shader => .shaderRegisterList

/-- `parse_register_list`. -/
def parseRegisterList (host : Host) (header : List UInt8) (offsetField countField : ℕ)
    (kind : AgcRegisterListKind) :
    Except AgcShaderBinaryError ParsedRegisterList :=
  let count := u8At header countField
  let overflow : AgcShaderBinaryError :=
    ⟨.registerTableExtentOverflow, .shaderHeader, offsetField, some kind⟩
  if count = 0 then .ok ⟨[], none⟩
  else do
    let listOffset ← orRefuse (checkedAdd (UInt64.ofNat offsetField) (u64At header offsetField))
      overflow
    let listSize ← orRefuse (checkedMultiply count.toUInt64 (UInt64.ofNat kAgcRegisterRecordSize))
      overflow
    let listEnd ← orRefuse (checkedAdd listOffset listSize) overflow
    refuseIf (listOffset.toNat > header.length ∨ listEnd.toNat > header.length)
      ⟨.registerTableExtentOutOfBounds, .shaderHeader, offsetField, some kind⟩
    allocate host kind.site ⟨.hostAllocationFailure, .none, 0, some kind⟩
      ⟨.hostAllocationFailure, .none, 0, some kind⟩
    return ⟨registerRecordsAt header listOffset.toNat count.toNat, some listOffset⟩

/-- The first `count` words of the text. -/
def programWords (text : List UInt8) (count : ℕ) : List UInt32 :=
  (List.range count).map fun index => u32At text (index * 4)

/-- `parse_agc_shader_binary`. -/
def parseAgcShaderBinary (host : Host) (shaderHeader shaderText : List UInt8) :
    Except AgcShaderBinaryError AgcShaderBinary := do
  refuseIf (shaderHeader.length < kAgcHeaderMinimumSize)
    ⟨.shaderHeaderTooSmall, .shaderHeader, shaderHeader.length, none⟩
  let headerMagic := u32At shaderHeader 0
  refuseIf (headerMagic ≠ kAgcHeaderMagic) ⟨.badShaderHeaderMagic, .shaderHeader, 0, none⟩
  let declaredHeaderSize := u32At shaderHeader kAgcHeaderSizeOffset
  let declaredShaderTextSize := u32At shaderHeader kAgcShaderTextSizeOffset
  refuseIf (declaredHeaderSize.toNat ≠ shaderHeader.length)
    ⟨.declaredHeaderSizeMismatch, .shaderHeader, kAgcHeaderSizeOffset, none⟩
  refuseIf (declaredShaderTextSize.toNat ≠ shaderText.length)
    ⟨.declaredShaderTextSizeMismatch, .shaderHeader, kAgcShaderTextSizeOffset, none⟩
  let contextRegisters ←
    parseRegisterList host shaderHeader kAgcContextRegistersOffset kAgcContextRegisterCountOffset
      .context
  let shaderRegisters ←
    parseRegisterList host shaderHeader kAgcShaderRegistersOffset kAgcShaderRegisterCountOffset
      .shader
  refuseIf (shaderText.length < kAgcShaderTextTrailerSize)
    ⟨.shaderTextTooSmallForTrailer, .shaderText, shaderText.length, none⟩
  let trailerOffset := shaderText.length - kAgcShaderTextTrailerSize
  let programByteSize := u32At shaderText (trailerOffset + kAgcTrailerProgramLengthOffset)
  refuseIf (programByteSize.toNat > trailerOffset)
    ⟨.programExtentOutOfBounds, .shaderText, trailerOffset + kAgcTrailerProgramLengthOffset, none⟩
  refuseIf (programByteSize % 4 ≠ 0)
    ⟨.programSizeNotDwordAligned, .shaderText, trailerOffset + kAgcTrailerProgramLengthOffset, none⟩
  allocate host .shaderBinary { code := .hostAllocationFailure } { code := .hostAllocationFailure }
  return {
    headerMagic := headerMagic
    headerVersion := u32At shaderHeader 4
    declaredHeaderSize := declaredHeaderSize
    declaredShaderTextSize := declaredShaderTextSize
    programType := programType (u8At shaderHeader kAgcProgramTypeOffset)
    contextRegisterListHeaderOffset := contextRegisters.headerOffset
    shaderRegisterListHeaderOffset := shaderRegisters.headerOffset
    contextRegisters := contextRegisters.writes
    shaderRegisters := shaderRegisters.writes
    programByteSize := programByteSize
    trailerSl00ByteSize := u32At shaderText (trailerOffset + kAgcTrailerSl00LengthOffset)
    shaderHeaderBytes := shaderHeader
    shaderTextBytes := shaderText
    rdna2Words := programWords shaderText (programByteSize.toNat / 4) }

/-! ### What a parsed shader is made of -/

/-- A register list that was parsed: nothing, or the records its pointer leads to, inside the
header. -/
def RegisterListAt (header : List UInt8) (offsetField countField : ℕ) (list : ParsedRegisterList) :
    Prop :=
  list = ⟨[], none⟩ ∨
    ∃ offset : UInt64, offset.toNat = offsetField + (u64At header offsetField).toNat ∧
      list = ⟨registerRecordsAt header offset.toNat (u8At header countField).toNat, some offset⟩ ∧
      offset.toNat + (u8At header countField).toNat * kAgcRegisterRecordSize ≤ header.length

@[simp] theorem length_registerRecordsAt (header : List UInt8) (offset count : ℕ) :
    (registerRecordsAt header offset count).length = count := by
  simp [registerRecordsAt]

variable {host : Host} {header : List UInt8} {shader : AgcShaderBinary}

theorem parseRegisterList_eq_ok {offsetField countField : ℕ} {kind : AgcRegisterListKind}
    {list : ParsedRegisterList} (hfield : offsetField < 2 ^ 64)
    (h : parseRegisterList host header offsetField countField kind = .ok list) :
    RegisterListAt header offsetField countField list := by
  simp only [parseRegisterList] at h
  split_ifs at h with hcount
  · cases h
    exact .inl rfl
  · simp only [bind_eq_ok, orRefuse_eq_ok, refuseIf_eq_ok, pure_eq_ok] at h
    obtain ⟨listOffset, hoffset, listSize, hsize, listEnd, hend, -, hbounds, -, -, rfl⟩ := h
    have hstart := (checkedAdd_eq_some hoffset).2
    have hbytes := checkedMultiply_eq_some hsize
    have hlast := (checkedAdd_eq_some hend).2
    rw [toNat_ofNat_of_lt hfield] at hstart
    rw [UInt8.toNat_toUInt64, kAgcRegisterRecordSize, toNat_ofNat_of_lt (by decide)] at hbytes
    refine .inr ⟨listOffset, hstart, rfl, ?_⟩
    rw [kAgcRegisterRecordSize]
    omega

/-- The parts of a parsed shader that the emulator goes on to use. -/
structure ParsedFrom (header text : List UInt8) (shader : AgcShaderBinary) : Prop where
  headerBytes : shader.shaderHeaderBytes = header
  textBytes : shader.shaderTextBytes = text
  headerSize : shader.declaredHeaderSize.toNat = header.length
  textSize : shader.declaredShaderTextSize.toNat = text.length
  headerMinimum : kAgcHeaderMinimumSize ≤ header.length
  textMinimum : kAgcShaderTextTrailerSize ≤ text.length
  shaderRegisters : RegisterListAt header kAgcShaderRegistersOffset kAgcShaderRegisterCountOffset
    ⟨shader.shaderRegisters, shader.shaderRegisterListHeaderOffset⟩

/-- The steps of a parse that succeeds: the two register lists, and what was checked of the sizes.
-/
structure BinaryParsed (host : Host) (header text : List UInt8) (shader : AgcShaderBinary)
    (context registers : ParsedRegisterList) : Prop where
  headerMinimum : kAgcHeaderMinimumSize ≤ header.length
  headerSize : (u32At header kAgcHeaderSizeOffset).toNat = header.length
  textSize : (u32At header kAgcShaderTextSizeOffset).toNat = text.length
  contextRegisters : parseRegisterList host header kAgcContextRegistersOffset
    kAgcContextRegisterCountOffset .context =
    .ok context
  shaderRegisters :
    parseRegisterList host header kAgcShaderRegistersOffset kAgcShaderRegisterCountOffset .shader =
    .ok registers
  textMinimum : kAgcShaderTextTrailerSize ≤ text.length
  programFits : shader.programByteSize.toNat ≤ text.length - kAgcShaderTextTrailerSize
  programAligned : shader.programByteSize % 4 = 0
  parsed : shader =
    { headerMagic := u32At header 0
      headerVersion := u32At header 4
      declaredHeaderSize := u32At header kAgcHeaderSizeOffset
      declaredShaderTextSize := u32At header kAgcShaderTextSizeOffset
      programType := programType (u8At header kAgcProgramTypeOffset)
      contextRegisterListHeaderOffset := context.headerOffset
      shaderRegisterListHeaderOffset := registers.headerOffset
      contextRegisters := context.writes
      shaderRegisters := registers.writes
      programByteSize :=
        u32At text (text.length - kAgcShaderTextTrailerSize + kAgcTrailerProgramLengthOffset)
      trailerSl00ByteSize :=
        u32At text (text.length - kAgcShaderTextTrailerSize + kAgcTrailerSl00LengthOffset)
      shaderHeaderBytes := header
      shaderTextBytes := text
      rdna2Words := programWords text (shader.programByteSize.toNat / 4) }

theorem exists_binaryParsed {text : List UInt8}
    (h : parseAgcShaderBinary host header text = .ok shader) :
    ∃ context registers, BinaryParsed host header text shader context registers := by
  simp only [parseAgcShaderBinary, bind_eq_ok, refuseIf_eq_ok, pure_eq_ok, not_not, not_lt] at h
  obtain ⟨-, hmin, -, -, -, hheader, -, htext, context, hcontext, list, hlist, -, htrailer, -,
    hprogram, -, haligned, -, -, rfl⟩ := h
  exact ⟨context, list, hmin, hheader, htext, hcontext, hlist, htrailer, hprogram, haligned, rfl⟩

theorem parseAgcShaderBinary_eq_ok {text : List UInt8}
    (h : parseAgcShaderBinary host header text = .ok shader) :
    ParsedFrom header text shader := by
  obtain ⟨context, registers, hsteps⟩ := exists_binaryParsed h
  have hlist := parseRegisterList_eq_ok (by decide) hsteps.shaderRegisters
  rw [hsteps.parsed]
  exact ⟨rfl, rfl, hsteps.headerSize, hsteps.textSize, hsteps.headerMinimum, hsteps.textMinimum,
    hlist⟩

end Astraea.Graphics
