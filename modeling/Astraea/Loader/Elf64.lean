import Astraea.Base.Check
import Astraea.Base.LittleEndian
import Astraea.Base.Word

/-!
# ELF64 headers

`parse_elf64`: the identification bytes, the 64-byte file header and the table of
program headers, with every check the loader makes before it believes a `PT_LOAD`
segment. Offsets into the file that the checks have already bounded are natural
numbers; the fields of the file are the machine words they are in the file.

`parseElf64_load` is what the rest of the loader relies on: in an accepted file the
bytes of every load segment are there, its sizes agree, and its addresses do not wrap.
-/

namespace Astraea.Loader

open Astraea.Base

/-- Which family of executables is accepted. -/
inductive ElfParseProfile where
  | generic
  | ps5Sce
  | ps5MarkedRaw
  deriving DecidableEq

/-- Why a file is refused. -/
inductive ElfErrorCode where
  | fileTooSmall
  | badMagic
  | unsupportedClass
  | unsupportedEndianness
  | unsupportedIdentVersion
  | unsupportedElfVersion
  | unsupportedMachine
  | unsupportedFileType
  | invalidElfHeaderSize
  | invalidProgramHeaderEntrySize
  | unsupportedExtendedProgramHeaderCount
  | integerOverflow
  | programHeaderTableOutOfBounds
  | segmentFileRangeOutOfBounds
  | loadFileSizeExceedsMemorySize
  | loadVirtualRangeOverflow
  | invalidLoadAlignment
  | loadSegmentsOutOfOrder
  deriving DecidableEq

/-- An error, the program header it is about and the file offset it was found at. -/
structure ElfError where
  code : ElfErrorCode
  programHeaderIndex : Option ℕ
  fileOffset : ℕ
  deriving DecidableEq

/-- The fields of the header of a file. -/
structure ElfHeader where
  osAbi : UInt8
  abiVersion : UInt8
  type : UInt16
  machine : UInt16
  version : UInt32
  entry : UInt64
  programHeaderOffset : UInt64
  sectionHeaderOffset : UInt64
  flags : UInt32
  headerSize : UInt16
  programHeaderEntrySize : UInt16
  programHeaderCount : UInt16
  sectionHeaderEntrySize : UInt16
  sectionHeaderCount : UInt16
  sectionNameTableIndex : UInt16
  deriving DecidableEq

/-- The fields of a program header. -/
structure ProgramHeader where
  type : UInt32
  flags : UInt32
  offset : UInt64
  virtualAddress : UInt64
  physicalAddress : UInt64
  fileSize : UInt64
  memorySize : UInt64
  alignment : UInt64
  /-- The position in the program header table. -/
  index : ℕ
  deriving DecidableEq

/-- The header of a file and its segments. -/
structure ElfImage where
  header : ElfHeader
  programHeaders : List ProgramHeader
  deriving DecidableEq

/-- The bytes of the identification. -/
def kIdentSize : ℕ := 16

/-- The bytes of the header of a file. -/
def kElf64HeaderSize : ℕ := 64

/-- The bytes of a program header. -/
def kElf64ProgramHeaderSize : ℕ := 56

/-- The program header type of a load segment. -/
def kPtLoad : UInt32 := 1

/-- `0x7f`, `E`, `L`, `F`. -/
def kElfMagic : List UInt8 := [0x7f, 0x45, 0x4c, 0x46]

/-- An error in the header of a file. -/
def headerError (code : ElfErrorCode) (offset : ℕ) : ElfError := ⟨code, none, offset⟩

/-- An error in a program header. -/
def programHeaderError (code : ElfErrorCode) (index offset : ℕ) : ElfError :=
  ⟨code, some index, offset⟩

/-- The types of files that a profile supports. -/
def supportedFileType (type : UInt16) (osAbi abiVersion : UInt8) : ElfParseProfile → Bool
  | .generic => type == 2 || type == 3
  | .ps5Sce => type == 0xfe10 || type == 0xfe18
  | .ps5MarkedRaw => type == 3 && osAbi == 9 && abiVersion == 2

/-- The fields of the file header, read where the format puts them. -/
def readElfHeader (bytes : List UInt8) : ElfHeader where
  osAbi := bytes.getD 7 0
  abiVersion := bytes.getD 8 0
  type := u16At bytes 16
  machine := u16At bytes 18
  version := u32At bytes 20
  entry := u64At bytes 24
  programHeaderOffset := u64At bytes 32
  sectionHeaderOffset := u64At bytes 40
  flags := u32At bytes 48
  headerSize := u16At bytes 52
  programHeaderEntrySize := u16At bytes 54
  programHeaderCount := u16At bytes 56
  sectionHeaderEntrySize := u16At bytes 58
  sectionHeaderCount := u16At bytes 60
  sectionNameTableIndex := u16At bytes 62

/-- The program header at a file offset. -/
def readProgramHeader (bytes : List UInt8) (entryOffset index : ℕ) : ProgramHeader where
  type := u32At bytes entryOffset
  flags := u32At bytes (entryOffset + 4)
  offset := u64At bytes (entryOffset + 8)
  virtualAddress := u64At bytes (entryOffset + 16)
  physicalAddress := u64At bytes (entryOffset + 24)
  fileSize := u64At bytes (entryOffset + 32)
  memorySize := u64At bytes (entryOffset + 40)
  alignment := u64At bytes (entryOffset + 48)
  index := index

/-- The checks of one load segment against the file and the load segment before it. -/
def checkLoadSegment (inputSize : ℕ) (previousLoadAddress : Option UInt64) (entryOffset : ℕ)
    (ph : ProgramHeader) :
    Except ElfError Unit := do
  refuseIf (ph.fileSize > ph.memorySize)
    (programHeaderError .loadFileSizeExceedsMemorySize ph.index entryOffset)
  whenever (ph.fileSize > 0) do
    let fileEnd ← orRefuse (checkedAdd ph.offset ph.fileSize)
      (programHeaderError .integerOverflow ph.index (entryOffset + 8))
    refuseIf (ph.offset.toNat > inputSize ∨ fileEnd.toNat > inputSize)
      (programHeaderError .segmentFileRangeOutOfBounds ph.index (entryOffset + 8))
  whenever (ph.memorySize > 0) do
    refuseIf (ph.virtualAddress > u64Max - (ph.memorySize - 1))
      (programHeaderError .loadVirtualRangeOverflow ph.index (entryOffset + 16))
  whenever (ph.alignment > 1) do
    refuseIf (isPowerOfTwo ph.alignment = false ∨ ph.virtualAddress % ph.alignment ≠
      ph.offset % ph.alignment)
      (programHeaderError .invalidLoadAlignment ph.index (entryOffset + 48))
  refuseIf (∃ previous ∈ previousLoadAddress, ph.virtualAddress < previous)
    (programHeaderError .loadSegmentsOutOfOrder ph.index (entryOffset + 16))

/-- The loop over the program header table, from entry `index` on. -/
def parseProgramHeaders (bytes : List UInt8) (tableOffset : ℕ) :
    (count index : ℕ) → (previousLoadAddress : Option UInt64) → Except ElfError (List ProgramHeader)
  | 0, _, _ => .ok []
  | count + 1, index, previousLoadAddress => do
    let entryOffset := tableOffset + index * kElf64ProgramHeaderSize
    let ph := readProgramHeader bytes entryOffset index
    if ph.type = kPtLoad then
      checkLoadSegment bytes.length previousLoadAddress entryOffset ph
      let rest ← parseProgramHeaders bytes tableOffset count (index + 1) (some ph.virtualAddress)
      return ph :: rest
    else
      let rest ← parseProgramHeaders bytes tableOffset count (index + 1) previousLoadAddress
      return ph :: rest

/-- `parse_elf64`. -/
def parseElf64 (bytes : List UInt8) (profile : ElfParseProfile) : Except ElfError ElfImage := do
  refuseIf (bytes.length < kIdentSize) (headerError .fileTooSmall 0)
  (List.range 4).forM fun i =>
    refuseIf (bytes.getD i 0 ≠ kElfMagic.getD i 0) (headerError .badMagic i)
  refuseIf (bytes.getD 4 0 ≠ 2) (headerError .unsupportedClass 4)
  refuseIf (bytes.getD 5 0 ≠ 1) (headerError .unsupportedEndianness 5)
  refuseIf (bytes.getD 6 0 ≠ 1) (headerError .unsupportedIdentVersion 6)
  refuseIf (bytes.length < kElf64HeaderSize) (headerError .fileTooSmall kIdentSize)
  let header := readElfHeader bytes
  refuseIf (header.version ≠ 1) (headerError .unsupportedElfVersion 20)
  refuseIf (header.machine ≠ 62) (headerError .unsupportedMachine 18)
  refuseIf (supportedFileType header.type header.osAbi header.abiVersion profile = false)
    (headerError .unsupportedFileType 16)
  refuseIf (header.headerSize.toNat ≠ kElf64HeaderSize) (headerError .invalidElfHeaderSize 52)
  refuseIf (header.programHeaderCount = 0xffff)
    (headerError .unsupportedExtendedProgramHeaderCount 56)
  if header.programHeaderCount = 0 then
    return ⟨header, []⟩
  refuseIf (header.programHeaderEntrySize.toNat ≠ kElf64ProgramHeaderSize)
    (headerError .invalidProgramHeaderEntrySize 54)
  let tableSize ← orRefuse
    (checkedMultiply header.programHeaderCount.toUInt64 header.programHeaderEntrySize.toUInt64)
    (headerError .integerOverflow 56)
  let tableEnd ← orRefuse (checkedAdd header.programHeaderOffset tableSize)
    (headerError .integerOverflow 32)
  refuseIf (header.programHeaderOffset.toNat > bytes.length ∨ tableEnd.toNat > bytes.length)
    (headerError .programHeaderTableOutOfBounds 32)
  let programHeaders ← parseProgramHeaders bytes header.programHeaderOffset.toNat
    header.programHeaderCount.toNat 0 none
  return ⟨header, programHeaders⟩

/-! ### What an accepted file promises -/

/-- A load segment whose bytes are in a file of `inputSize` bytes and whose addresses
do not wrap. -/
structure LoadSegment (inputSize : ℕ) (ph : ProgramHeader) : Prop where
  sizes : ph.fileSize.toNat ≤ ph.memorySize.toNat
  file : 0 < ph.fileSize.toNat →
    ph.offset.toNat + ph.fileSize.toNat < 2 ^ 64 ∧ ph.offset.toNat + ph.fileSize.toNat ≤ inputSize
  memory : ph.virtualAddress.toNat + ph.memorySize.toNat ≤ 2 ^ 64

variable {previous : Option UInt64} {bytes : List UInt8}

theorem checkLoadSegment_eq_ok {inputSize entryOffset : ℕ} {ph : ProgramHeader} {u : Unit}
    (h : checkLoadSegment inputSize previous entryOffset ph = .ok u) :
    LoadSegment inputSize ph := by
  unfold checkLoadSegment at h
  simp only [bind_eq_ok, refuseIf_eq_ok, whenever_eq_ok, orRefuse_eq_ok] at h
  obtain ⟨-, hsizes, -, hfile, -, hmem, -⟩ := h
  refine ⟨?_, fun hpos => ?_, ?_⟩
  · rw [gt_iff_lt, UInt64.lt_iff_toNat_lt] at hsizes
    omega
  · have hgt : ph.fileSize > 0 := UInt64.lt_iff_toNat_lt.mpr hpos
    obtain ⟨fileEnd, hend, hbound⟩ := hfile hgt
    have := checkedAdd_eq_some hend
    omega
  · by_cases hgt : ph.memorySize > 0
    · have hmem := hmem hgt
      rw [gt_u64Max_sub_iff] at hmem
      have hone : (1 : UInt64) ≤ ph.memorySize :=
        UInt64.le_iff_toNat_le.mpr (UInt64.lt_iff_toNat_lt.mp hgt)
      rw [UInt64.toNat_sub_of_le _ _ hone, UInt64.toNat_one] at hmem
      have := UInt64.lt_iff_toNat_lt.mp hgt
      rw [UInt64.toNat_zero] at this
      omega
    · have hlt := ph.virtualAddress.toNat_lt
      rw [gt_iff_lt, UInt64.lt_iff_toNat_lt, UInt64.toNat_zero] at hgt
      omega

theorem parseProgramHeaders_load {tableOffset count index : ℕ} {phs : List ProgramHeader}
    (h : parseProgramHeaders bytes tableOffset count index previous = .ok phs) :
    ∀ ph ∈ phs, ph.type = kPtLoad → LoadSegment bytes.length ph := by
  induction count generalizing index previous phs with
  | zero =>
    cases h
    simp
  | succ count ih =>
    rw [parseProgramHeaders] at h
    split_ifs at h with htype
    · simp only [bind_eq_ok, pure_eq_ok] at h
      obtain ⟨_, hcheck, rest, hrest, rfl⟩ := h
      intro ph hmem hload
      rcases List.mem_cons.mp hmem with rfl | hmem
      · exact checkLoadSegment_eq_ok hcheck
      · exact ih hrest ph hmem hload
    · simp only [bind_eq_ok, pure_eq_ok] at h
      obtain ⟨rest, hrest, rfl⟩ := h
      intro ph hmem hload
      rcases List.mem_cons.mp hmem with rfl | hmem
      · exact absurd hload htype
      · exact ih hrest ph hmem hload

/-- **Load segments of an accepted file are loadable.** -/
theorem parseElf64_load {profile : ElfParseProfile} {elf : ElfImage}
    (h : parseElf64 bytes profile = .ok elf) :
    ∀ ph ∈ elf.programHeaders, ph.type = kPtLoad → LoadSegment bytes.length ph := by
  suffices hall : ∀ elf, parseElf64 bytes profile = .ok elf →
      ∀ ph ∈ elf.programHeaders, ph.type = kPtLoad → LoadSegment bytes.length ph from hall elf h
  unfold parseElf64
  repeat refine forall_bind_eq_ok fun _ => ?_
  split_ifs with hcount
  · rintro elf ⟨⟩
    exact fun _ hmem => absurd hmem List.not_mem_nil
  · iterate 4 refine forall_bind_eq_ok fun _ => ?_
    simp only [bind_eq_ok, pure_eq_ok]
    rintro elf ⟨phs, hphs, rfl⟩
    exact parseProgramHeaders_load hphs

end Astraea.Loader
