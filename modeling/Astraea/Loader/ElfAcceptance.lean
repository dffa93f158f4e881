import Astraea.Base.Guarded
import Astraea.Loader.GuestImage

/-!
# Which files are accepted

`parse_elf64` decides over an untrusted file. `AcceptedElf` is the decision in plain
arithmetic: the header, the table of program headers and the load segments in it.
`parseElf64_eq_ok_iff` says that exactly these files are accepted and what is read from
them.

`parseElf64Guarded` is the same parser with every byte looked up in the file, where a
lookup may find nothing. It never does (`parseElf64Guarded_eq`).

The mappings and the view of an image check ranges once more, each in arithmetic of its
own. `not_mappingFailure_of_accepted` says that an accepted file gives them nothing to
refuse.
-/

namespace Astraea.Loader

open Astraea.Base Astraea.Memory

/-! ### The files that are accepted -/

/-- `input_size_u64`: the size of a file, as far as a 64-bit word tells it. -/
def inputSizeU64 (bytes : List UInt8) : ℕ := min bytes.length (2 ^ 64 - 1)

/-- The entries of the program header table, from entry `index` on. -/
def tableFrom (bytes : List UInt8) (tableOffset count index : ℕ) : List ProgramHeader :=
  (List.range' index count).map fun i =>
    readProgramHeader bytes (tableOffset + i * kElf64ProgramHeaderSize) i

/-- The program header table a file header points at. -/
def programHeaderTable (bytes : List UInt8) : List ProgramHeader :=
  tableFrom bytes (readElfHeader bytes).programHeaderOffset.toNat
    (readElfHeader bytes).programHeaderCount.toNat 0

/-- The type of an executable of each family. -/
def AcceptedType (header : ElfHeader) : ElfParseProfile → Prop
  | .generic => header.type = 2 ∨ header.type = 3
  | .ps5Sce => header.type = 0xfe10 ∨ header.type = 0xfe18
  | .ps5MarkedRaw => header.type = 3 ∧ header.osAbi = 9 ∧ header.abiVersion = 2

/-- A load segment that is accepted in a file of `inputSize` bytes. -/
structure AcceptedLoad (inputSize : ℕ) (ph : ProgramHeader) : Prop where
  sizes : ph.fileSize.toNat ≤ ph.memorySize.toNat
  file : 0 < ph.fileSize.toNat → ph.offset.toNat + ph.fileSize.toNat ≤ inputSize
  memory : ph.virtualAddress.toNat + ph.memorySize.toNat ≤ 2 ^ 64
  alignment : ph.alignment.toNat ≤ 1 ∨
    (∃ k, ph.alignment.toNat = 2 ^ k) ∧
      ph.virtualAddress.toNat % ph.alignment.toNat = ph.offset.toNat % ph.alignment.toNat

/-- A program header table that is accepted. -/
structure AcceptedTable (bytes : List UInt8) : Prop where
  entrySize : (readElfHeader bytes).programHeaderEntrySize.toNat = 56
  inFile : (readElfHeader bytes).programHeaderOffset.toNat +
    (readElfHeader bytes).programHeaderCount.toNat * 56 ≤
    inputSizeU64 bytes
  loads : ∀ ph ∈ programHeaderTable bytes, ph.type = kPtLoad → AcceptedLoad (inputSizeU64 bytes) ph
  /-- No load segment begins below the one before it. -/
  ordered : ((loadSegments (programHeaderTable bytes)).map fun ph =>
    ph.virtualAddress.toNat).IsChain (· ≤ ·)

/-- A file that is accepted. -/
structure AcceptedElf (bytes : List UInt8) (profile : ElfParseProfile) : Prop where
  headerInFile : 64 ≤ bytes.length
  ident : bytes.take 7 = [0x7f, 0x45, 0x4c, 0x46, 2, 1, 1]
  version : (readElfHeader bytes).version = 1
  machine : (readElfHeader bytes).machine = 62
  type : AcceptedType (readElfHeader bytes) profile
  headerSize : (readElfHeader bytes).headerSize.toNat = 64
  count : (readElfHeader bytes).programHeaderCount ≠ 0xffff
  table : (readElfHeader bytes).programHeaderCount = 0 ∨ AcceptedTable bytes

variable {profile : ElfParseProfile} {entryOffset index : ℕ} {elf : ElfImage}

theorem supportedFileType_iff {header : ElfHeader} :
    supportedFileType header.type header.osAbi header.abiVersion profile = true ↔
    AcceptedType header profile := by
  cases profile with
  | generic => simp [supportedFileType, AcceptedType]
  | ps5Sce => simp [supportedFileType, AcceptedType]
  | ps5MarkedRaw => simp [supportedFileType, AcceptedType, and_assoc]

theorem le_inputSizeU64 {bytes : List UInt8} {n : ℕ} :
    n ≤ inputSizeU64 bytes ↔ n ≤ bytes.length ∧ n < 2 ^ 64 := by
  unfold inputSizeU64
  omega

theorem take_seven_iff {bytes : List UInt8} (h : 7 ≤ bytes.length) (a b c d e f g : UInt8) :
    bytes.take 7 = [a, b, c, d, e, f, g] ↔
      bytes.getD 0 0 = a ∧ bytes.getD 1 0 = b ∧ bytes.getD 2 0 = c ∧ bytes.getD 3 0 = d ∧
      bytes.getD 4 0 = e ∧
        bytes.getD 5 0 = f ∧ bytes.getD 6 0 = g := by
  match bytes, h with
  | _ :: _ :: _ :: _ :: _ :: _ :: _ :: _, _ => simp

/-! ### The checks of a load segment -/

variable {previous : Option UInt64} {ph : ProgramHeader} {tableOffset inputSize : ℕ}
  {phs : List ProgramHeader}

/-- The checks accept exactly the load segments that are accepted and do not begin below
the one before. -/
theorem checkLoadSegment_eq_ok_iff {bytes : List UInt8} :
    checkLoadSegment bytes.length previous entryOffset ph = .ok () ↔
      AcceptedLoad (inputSizeU64 bytes) ph ∧
      ∀ address ∈ previous, address.toNat ≤ ph.virtualAddress.toNat := by
  constructor
  · intro h
    have hload := checkLoadSegment_eq_ok h
    simp only [checkLoadSegment, bind_eq_ok, refuseIf_eq_ok, whenever_eq_ok, orRefuse_eq_ok] at h
    obtain ⟨-, -, -, -, -, -, -, halign, horder⟩ := h
    refine ⟨⟨hload.sizes, ?_, hload.memory, ?_⟩, ?_⟩
    · intro hpos
      obtain ⟨hlt, hle⟩ := hload.file hpos
      exact le_inputSizeU64.mpr ⟨hle, hlt⟩
    · by_cases hone : ph.alignment > 1
      · have halign := halign hone
        rw [not_or, Bool.not_eq_false, not_not, ← UInt64.toNat_inj, UInt64.toNat_mod,
          UInt64.toNat_mod] at halign
        exact .inr ⟨exists_eq_two_pow_of_isPowerOfTwo halign.1, halign.2⟩
      · rw [gt_iff_lt, UInt64.lt_iff_toNat_lt] at hone
        exact .inl (Nat.not_lt.mp hone)
    · intro address haddress
      by_contra hlt
      exact horder ⟨address, haddress, UInt64.lt_iff_toNat_lt.mpr (Nat.not_le.mp hlt)⟩
  · rintro ⟨hload, horder⟩
    simp only [checkLoadSegment, bind_eq_ok, refuseIf_eq_ok, whenever_eq_ok, orRefuse_eq_ok]
    refine ⟨(), ?_, (), ?_, (), ?_, (), ?_, ?_⟩
    · rw [gt_iff_lt, UInt64.lt_iff_toNat_lt]
      exact Nat.not_lt.mpr hload.sizes
    · intro hpos
      obtain ⟨hle, hlt⟩ := le_inputSizeU64.mp (hload.file (UInt64.lt_iff_toNat_lt.mp hpos))
      refine ⟨_, checkedAdd_of_lt hlt, ?_⟩
      rw [UInt64.toNat_add, Nat.mod_eq_of_lt hlt]
      omega
    · intro hpos
      have hmemory := hload.memory
      have hpos := UInt64.lt_iff_toNat_lt.mp hpos
      have hone : (1 : UInt64) ≤ ph.memorySize := UInt64.le_iff_toNat_le.mpr hpos
      rw [gt_u64Max_sub_iff, UInt64.toNat_sub_of_le _ _ hone, UInt64.toNat_one]
      rw [UInt64.toNat_zero] at hpos
      omega
    · intro hone
      rw [gt_iff_lt, UInt64.lt_iff_toNat_lt, UInt64.toNat_one] at hone
      rcases hload.alignment with hsmall | ⟨hpow, hmod⟩
      · omega
      · rw [not_or, Bool.not_eq_false, not_not, ← UInt64.toNat_inj, UInt64.toNat_mod,
          UInt64.toNat_mod]
        exact ⟨isPowerOfTwo_iff.mpr hpow, hmod⟩
    · rintro ⟨address, haddress, hlt⟩
      exact Nat.not_lt.mpr (horder address haddress) (UInt64.lt_iff_toNat_lt.mp hlt)

/-! ### The table -/

theorem tableFrom_succ (bytes : List UInt8) (tableOffset count index : ℕ) :
    tableFrom bytes tableOffset (count + 1) index =
      readProgramHeader bytes (tableOffset + index * kElf64ProgramHeaderSize) index ::
        tableFrom bytes tableOffset count (index + 1) := by
  simp [tableFrom, List.range'_succ]

/-- The loop over the table reads all of it, and accepts it when each load segment is
accepted and none begins below the one before it. -/
theorem parseProgramHeaders_eq_ok_iff {bytes : List UInt8} {count : ℕ} :
    parseProgramHeaders bytes tableOffset count index previous = .ok phs ↔
      tableFrom bytes tableOffset count index = phs ∧
        (∀ ph ∈ tableFrom bytes tableOffset count index, ph.type = kPtLoad →
          AcceptedLoad (inputSizeU64 bytes) ph) ∧
        (previous.toList.map UInt64.toNat ++
          (loadSegments (tableFrom bytes tableOffset count index)).map fun ph =>
          ph.virtualAddress.toNat).IsChain (· ≤ ·) := by
  induction count generalizing index previous phs with
  | zero => cases previous <;> simp [parseProgramHeaders, tableFrom, loadSegments]
  | succ count ih =>
    rw [parseProgramHeaders, tableFrom_succ]
    generalize hph : readProgramHeader bytes (tableOffset + index * kElf64ProgramHeaderSize) index =
      ph
    split_ifs with htype
    · have hloads : loadSegments (ph :: tableFrom bytes tableOffset count (index + 1)) =
          ph :: loadSegments (tableFrom bytes tableOffset count (index + 1)) :=
            List.filter_cons_of_pos (by simpa using htype)
      have hchain : (previous.toList.map UInt64.toNat ++ ph.virtualAddress.toNat ::
          (loadSegments (tableFrom bytes tableOffset count (index + 1))).map fun ph =>
            ph.virtualAddress.toNat).IsChain
            (· ≤ ·) ↔ (∀ address ∈ previous, address.toNat ≤ ph.virtualAddress.toNat) ∧
          (ph.virtualAddress.toNat ::
            (loadSegments (tableFrom bytes tableOffset count (index + 1))).map fun ph =>
              ph.virtualAddress.toNat).IsChain
            (· ≤ ·) := by
        cases previous with
        | none => simp
        | some address => simp [List.isChain_cons_cons]
      rw [hloads, List.map_cons, hchain, List.forall_mem_cons]
      simp only [bind_eq_ok, pure_eq_ok]
      constructor
      · rintro ⟨_, hcheck, rest, hrest, rfl⟩
        obtain ⟨hload, horder⟩ := checkLoadSegment_eq_ok_iff.mp hcheck
        obtain ⟨rfl, hrest, hordered⟩ := ih.mp hrest
        exact ⟨rfl, ⟨fun _ => hload, hrest⟩, horder, hordered⟩
      · rintro ⟨rfl, ⟨hload, hrest⟩, horder, hordered⟩
        exact ⟨(), checkLoadSegment_eq_ok_iff.mpr ⟨hload htype, horder⟩, _,
          ih.mpr ⟨rfl, hrest, hordered⟩, rfl⟩
    · have hloads : loadSegments (ph :: tableFrom bytes tableOffset count (index + 1)) =
          loadSegments (tableFrom bytes tableOffset count (index + 1)) :=
            List.filter_cons_of_neg (by simpa using htype)
      rw [hloads, List.forall_mem_cons]
      simp only [bind_eq_ok, pure_eq_ok]
      constructor
      · rintro ⟨rest, hrest, rfl⟩
        obtain ⟨rfl, hrest, hordered⟩ := ih.mp hrest
        exact ⟨rfl, ⟨fun hload => absurd hload htype, hrest⟩, hordered⟩
      · rintro ⟨rfl, ⟨-, hrest⟩, hordered⟩
        exact ⟨_, ih.mpr ⟨rfl, hrest, hordered⟩, rfl⟩

/-! ### The file -/

theorem magic_eq_ok_iff {bytes : List UInt8} :
    ((List.range 4).forM fun i =>
      refuseIf (bytes.getD i 0 ≠ kElfMagic.getD i 0) (headerError .badMagic i)) = .ok () ↔
      bytes.getD 0 0 = 0x7f ∧ bytes.getD 1 0 = 0x45 ∧ bytes.getD 2 0 = 0x4c ∧
      bytes.getD 3 0 = 0x46 := by
  rw [forM_eq_ok]
  simp only [refuseIf_eq_ok, not_not, List.mem_range]
  constructor
  · intro h
    exact ⟨h 0 (by omega), h 1 (by omega), h 2 (by omega), h 3 (by omega)⟩
  · rintro ⟨h0, h1, h2, h3⟩ i hi
    match i, hi with
    | 0, _ => exact h0
    | 1, _ => exact h1
    | 2, _ => exact h2
    | 3, _ => exact h3

/-- The part of `parse_elf64` that is reached by a file with program headers. -/
def parseTable (bytes : List UInt8) (header : ElfHeader) : Except ElfError ElfImage := do
  refuseIf (header.programHeaderEntrySize.toNat ≠ kElf64ProgramHeaderSize)
    (headerError .invalidProgramHeaderEntrySize 54)
  let tableSize ← orRefuse
    (checkedMultiply header.programHeaderCount.toUInt64 header.programHeaderEntrySize.toUInt64)
    (headerError .integerOverflow 56)
  let tableEnd ← orRefuse (checkedAdd header.programHeaderOffset tableSize)
    (headerError .integerOverflow 32)
  refuseIf (header.programHeaderOffset.toNat > bytes.length ∨ tableEnd.toNat > bytes.length)
    (headerError .programHeaderTableOutOfBounds 32)
  let programHeaders ← parseProgramHeaders bytes header.programHeaderOffset.toNat
    header.programHeaderCount.toNat 0 none
  return ⟨header, programHeaders⟩

theorem parseTable_eq_ok_iff {bytes : List UInt8} :
    parseTable bytes (readElfHeader bytes) = .ok elf ↔
      AcceptedTable bytes ∧ elf = ⟨readElfHeader bytes, programHeaderTable bytes⟩ := by
  generalize hheader : readElfHeader bytes = header
  have hcount := header.programHeaderCount.toNat_lt
  have hproduct : ∀ size : UInt16, size.toNat = 56 →
      header.programHeaderCount.toUInt64.toNat * size.toUInt64.toNat =
        header.programHeaderCount.toNat * 56 := by
    intro size hsize
    rw [UInt16.toNat_toUInt64, UInt16.toNat_toUInt64, hsize]
  simp only [parseTable, bind_eq_ok, refuseIf_eq_ok, orRefuse_eq_ok, pure_eq_ok, not_not]
  constructor
  · rintro ⟨-, hsize, tableSize, hmul, tableEnd, hadd, -, hbounds, phs, hphs, rfl⟩
    have hmul := checkedMultiply_eq_some hmul
    rw [hproduct _ hsize] at hmul
    obtain ⟨hlt, hend⟩ := checkedAdd_eq_some hadd
    obtain ⟨rfl, hloads, hordered⟩ := parseProgramHeaders_eq_ok_iff.mp hphs
    have htable : tableFrom bytes header.programHeaderOffset.toNat header.programHeaderCount.toNat
      0 =
        programHeaderTable bytes := by rw [programHeaderTable, hheader]
    rw [htable] at hloads hordered
    refine ⟨⟨by rw [hheader]; exact hsize, ?_, hloads, hordered⟩, by rw [htable]⟩
    rw [hheader, le_inputSizeU64]
    omega
  · rintro ⟨htable, rfl⟩
    have hsize := htable.entrySize
    obtain ⟨hle, hlt⟩ := le_inputSizeU64.mp htable.inFile
    have hloads := htable.loads
    have hordered := htable.ordered
    rw [programHeaderTable, hheader] at hloads hordered
    rw [hheader] at hsize hle hlt
    have hmul := hproduct _ hsize
    have hmul' :
      (header.programHeaderCount.toUInt64 * header.programHeaderEntrySize.toUInt64).toNat =
        header.programHeaderCount.toNat * 56 := by
      rw [toNat_mul_of_lt (by omega), hmul]
    refine ⟨(), hsize, _, checkedMultiply_of_lt (by omega), _, checkedAdd_of_lt (by omega), (), ?_,
      _, parseProgramHeaders_eq_ok_iff.mpr ⟨rfl, hloads, hordered⟩, ?_⟩
    · rw [UInt64.toNat_add, hmul', Nat.mod_eq_of_lt hlt]
      omega
    · rw [programHeaderTable, hheader]

/-- **Acceptance is exact.** A file is accepted when it is an `AcceptedElf`, and then its
header and its program header table are what was read. -/
theorem parseElf64_eq_ok_iff {bytes : List UInt8} :
    parseElf64 bytes profile = .ok elf ↔
      AcceptedElf bytes profile ∧ elf = ⟨readElfHeader bytes, programHeaderTable bytes⟩ := by
  have hempty : (readElfHeader bytes).programHeaderCount = 0 → programHeaderTable bytes = [] := by
    intro hzero
    rw [programHeaderTable, hzero]
    rfl
  simp only [parseElf64, bind_eq_ok, refuseIf_eq_ok, not_not, Bool.not_eq_false,
    supportedFileType_iff]
  constructor
  · rintro ⟨-, -, ⟨⟩, hmagic, -, hclass, -, hendian, -, hident, -, hlength, -, hversion, -,
      hmachine, -, htype, -, hsize, -, hcount, h⟩
    obtain ⟨h0, h1, h2, h3⟩ := magic_eq_ok_iff.mp hmagic
    have hlength : 64 ≤ bytes.length := Nat.not_lt.mp hlength
    have hbytes := (take_seven_iff (by omega) 0x7f 0x45 0x4c 0x46 2 1 1).mpr
      ⟨h0, h1, h2, h3, hclass, hendian, hident⟩
    split_ifs at h with hzero
    · rw [pure_eq_ok] at h
      subst h
      exact ⟨⟨hlength, hbytes, hversion, hmachine, htype, hsize, hcount, .inl hzero⟩, by
        rw [hempty hzero]⟩
    · obtain ⟨htable, rfl⟩ := parseTable_eq_ok_iff.mp h
      exact ⟨⟨hlength, hbytes, hversion, hmachine, htype, hsize, hcount, .inr htable⟩, rfl⟩
  · rintro ⟨⟨hlength, hbytes, hversion, hmachine, htype, hsize, hcount, htable⟩, rfl⟩
    obtain ⟨h0, h1, h2, h3, hclass, hendian, hident⟩ :=
      (take_seven_iff (by omega) 0x7f 0x45 0x4c 0x46 2 1 1).mp hbytes
    refine ⟨(), ?_, (), magic_eq_ok_iff.mpr ⟨h0, h1, h2, h3⟩, (), hclass, (), hendian, (), hident,
      (), Nat.not_lt.mpr hlength, (), hversion, (), hmachine, (), htype, (), hsize, (), hcount, ?_⟩
    · rw [kIdentSize]
      omega
    · split_ifs with hzero
      · rw [pure_eq_ok, hempty hzero]
      · exact parseTable_eq_ok_iff.mpr ⟨htable.resolve_left hzero, rfl⟩

/-! ### Every byte is looked up -/

/-- The header of a file, with every byte looked up. -/
def readElfHeaderGuarded (bytes : List UInt8) : Except (Option ElfError) ElfHeader := do
  let osAbi ← byteWithin bytes 7
  let abiVersion ← byteWithin bytes 8
  let type ← wordWithin 2 bytes 16
  let machine ← wordWithin 2 bytes 18
  let version ← wordWithin 4 bytes 20
  let entry ← wordWithin 8 bytes 24
  let programHeaderOffset ← wordWithin 8 bytes 32
  let sectionHeaderOffset ← wordWithin 8 bytes 40
  let flags ← wordWithin 4 bytes 48
  let headerSize ← wordWithin 2 bytes 52
  let programHeaderEntrySize ← wordWithin 2 bytes 54
  let programHeaderCount ← wordWithin 2 bytes 56
  let sectionHeaderEntrySize ← wordWithin 2 bytes 58
  let sectionHeaderCount ← wordWithin 2 bytes 60
  let sectionNameTableIndex ← wordWithin 2 bytes 62
  return ⟨osAbi, abiVersion, .ofNat type, .ofNat machine, .ofNat version, .ofNat entry,
    .ofNat programHeaderOffset, .ofNat sectionHeaderOffset, .ofNat flags, .ofNat headerSize,
    .ofNat programHeaderEntrySize, .ofNat programHeaderCount, .ofNat sectionHeaderEntrySize,
    .ofNat sectionHeaderCount, .ofNat sectionNameTableIndex⟩

/-- A program header, with every byte looked up. -/
def readProgramHeaderGuarded (bytes : List UInt8) (entryOffset index : ℕ) :
    Except (Option ElfError) ProgramHeader := do
  let type ← wordWithin 4 bytes entryOffset
  let flags ← wordWithin 4 bytes (entryOffset + 4)
  let offset ← wordWithin 8 bytes (entryOffset + 8)
  let virtualAddress ← wordWithin 8 bytes (entryOffset + 16)
  let physicalAddress ← wordWithin 8 bytes (entryOffset + 24)
  let fileSize ← wordWithin 8 bytes (entryOffset + 32)
  let memorySize ← wordWithin 8 bytes (entryOffset + 40)
  let alignment ← wordWithin 8 bytes (entryOffset + 48)
  return ⟨.ofNat type, .ofNat flags, .ofNat offset, .ofNat virtualAddress, .ofNat physicalAddress,
    .ofNat fileSize, .ofNat memorySize, .ofNat alignment, index⟩

/-- The loop over the program headers, with every byte looked up. -/
def parseProgramHeadersGuarded (bytes : List UInt8) (tableOffset : ℕ) :
    (count index : ℕ) → (previousLoadAddress : Option UInt64) →
    Except (Option ElfError) (List ProgramHeader)
  | 0, _, _ => .ok []
  | count + 1, index, previousLoadAddress => do
    let entryOffset := tableOffset + index * kElf64ProgramHeaderSize
    let ph ← readProgramHeaderGuarded bytes entryOffset index
    if ph.type = kPtLoad then
      (checkLoadSegment bytes.length previousLoadAddress entryOffset ph).mapError some
      let rest ← parseProgramHeadersGuarded bytes tableOffset count (index + 1)
        (some ph.virtualAddress)
      return ph :: rest
    else
      let rest ← parseProgramHeadersGuarded bytes tableOffset count (index + 1) previousLoadAddress
      return ph :: rest

/-- The table of program headers, with every byte looked up. -/
def parseTableGuarded (bytes : List UInt8) (header : ElfHeader) :
    Except (Option ElfError) ElfImage := do
  refuseIf (header.programHeaderEntrySize.toNat ≠ kElf64ProgramHeaderSize)
    (some (headerError .invalidProgramHeaderEntrySize 54))
  let tableSize ← orRefuse
    (checkedMultiply header.programHeaderCount.toUInt64 header.programHeaderEntrySize.toUInt64)
    (some (headerError .integerOverflow 56))
  let tableEnd ← orRefuse (checkedAdd header.programHeaderOffset tableSize)
    (some (headerError .integerOverflow 32))
  refuseIf (header.programHeaderOffset.toNat > bytes.length ∨ tableEnd.toNat > bytes.length)
    (some (headerError .programHeaderTableOutOfBounds 32))
  let programHeaders ← parseProgramHeadersGuarded bytes header.programHeaderOffset.toNat
    header.programHeaderCount.toNat 0 none
  return ⟨header, programHeaders⟩

/-- One identification byte. -/
def checkIdentByte (bytes : List UInt8) (index : ℕ) (expected : UInt8) (code : ElfErrorCode) :
    Except (Option ElfError) Unit := do
  let byte ← byteWithin bytes index
  refuseIf (byte ≠ expected) (some (headerError code index))

/-- `parse_elf64`, with every byte looked up in the file. -/
def parseElf64Guarded (bytes : List UInt8) (profile : ElfParseProfile) :
    Except (Option ElfError) ElfImage := do
  refuseIf (bytes.length < kIdentSize) (some (headerError .fileTooSmall 0))
  (List.range 4).forM fun i => checkIdentByte bytes i (kElfMagic.getD i 0) .badMagic
  checkIdentByte bytes 4 2 .unsupportedClass
  checkIdentByte bytes 5 1 .unsupportedEndianness
  checkIdentByte bytes 6 1 .unsupportedIdentVersion
  refuseIf (bytes.length < kElf64HeaderSize) (some (headerError .fileTooSmall kIdentSize))
  let header ← readElfHeaderGuarded bytes
  refuseIf (header.version ≠ 1) (some (headerError .unsupportedElfVersion 20))
  refuseIf (header.machine ≠ 62) (some (headerError .unsupportedMachine 18))
  refuseIf (supportedFileType header.type header.osAbi header.abiVersion profile = false)
    (some (headerError .unsupportedFileType 16))
  refuseIf (header.headerSize.toNat ≠ kElf64HeaderSize)
    (some (headerError .invalidElfHeaderSize 52))
  refuseIf (header.programHeaderCount = 0xffff)
    (some (headerError .unsupportedExtendedProgramHeaderCount 56))
  if header.programHeaderCount = 0 then
    return ⟨header, []⟩
  parseTableGuarded bytes header

theorem readElfHeaderGuarded_eq {bytes : List UInt8} (h : 64 ≤ bytes.length) :
    readElfHeaderGuarded bytes = .ok (readElfHeader bytes) := by
  unfold readElfHeaderGuarded
  rw [byteWithin_eq (by omega), byteWithin_eq (by omega)]
  simp (disch := omega) only [wordWithin_eq, ok_bind]
  rfl

theorem readProgramHeaderGuarded_eq {bytes : List UInt8} (index : ℕ)
    (h : entryOffset + 56 ≤ bytes.length) :
    readProgramHeaderGuarded bytes entryOffset index =
      .ok (readProgramHeader bytes entryOffset index) := by
  unfold readProgramHeaderGuarded
  simp (disch := omega) only [wordWithin_eq, ok_bind]
  rfl

theorem parseProgramHeadersGuarded_eq {bytes : List UInt8} {count : ℕ} (previous : Option UInt64)
    (h : tableOffset + (index + count) * 56 ≤ bytes.length) :
    parseProgramHeadersGuarded bytes tableOffset count index previous =
      (parseProgramHeaders bytes tableOffset count index previous).mapError some := by
  induction count generalizing index previous with
  | zero => rfl
  | succ count ih =>
    rw [parseProgramHeadersGuarded, parseProgramHeaders]
    rw [readProgramHeaderGuarded_eq index (by rw [kElf64ProgramHeaderSize]; omega), ok_bind]
    split_ifs
    · refine bind_eq_mapError_bind rfl ?_
      intro _ _
      refine bind_eq_mapError_bind (ih _ (by omega)) ?_
      intro rest _
      rfl
    · refine bind_eq_mapError_bind (ih _ (by omega)) ?_
      intro rest _
      rfl

theorem parseTableGuarded_eq (bytes : List UInt8) (header : ElfHeader) :
    parseTableGuarded bytes header = (parseTable bytes header).mapError some := by
  refine refuseIf_bind_mapError ?_
  intro hsize
  refine orRefuse_bind_mapError ?_
  intro tableSize hmul
  refine orRefuse_bind_mapError ?_
  intro tableEnd hadd
  refine refuseIf_bind_mapError ?_
  intro hbounds
  refine bind_eq_mapError_bind (parseProgramHeadersGuarded_eq none ?_) ?_
  · rw [not_not] at hsize
    have hmul := checkedMultiply_eq_some hmul
    rw [UInt16.toNat_toUInt64, UInt16.toNat_toUInt64, hsize, kElf64ProgramHeaderSize] at hmul
    have hadd := (checkedAdd_eq_some hadd).2
    omega
  · intro phs _
    rfl

theorem checkIdentByte_eq {bytes : List UInt8} (h : index < bytes.length) (expected : UInt8)
    (code : ElfErrorCode) :
    checkIdentByte bytes index expected code =
      (refuseIf (bytes.getD index 0 ≠ expected) (headerError code index)).mapError some := by
  rw [checkIdentByte, byteWithin_eq h, ok_bind, mapError_refuseIf]

/-- **No byte outside the file is read.** With every byte looked up in the file the parser
does the same; a lookup that finds nothing would show as the error `none`. -/
theorem parseElf64Guarded_eq (bytes : List UInt8) (profile : ElfParseProfile) :
    parseElf64Guarded bytes profile = (parseElf64 bytes profile).mapError some := by
  refine refuseIf_bind_mapError ?_
  intro hident
  rw [kIdentSize] at hident
  refine bind_eq_mapError_bind ?_ ?_
  · rw [mapError_forM]
    refine forM_congr ?_
    intro i hi
    rw [List.mem_range] at hi
    exact checkIdentByte_eq (by omega) _ _
  intro _ _
  refine bind_eq_mapError_bind (checkIdentByte_eq (by omega) _ _) ?_
  intro _ _
  refine bind_eq_mapError_bind (checkIdentByte_eq (by omega) _ _) ?_
  intro _ _
  refine bind_eq_mapError_bind (checkIdentByte_eq (by omega) _ _) ?_
  intro _ _
  refine refuseIf_bind_mapError ?_
  intro hheader
  rw [kElf64HeaderSize] at hheader
  rw [readElfHeaderGuarded_eq (by omega), ok_bind]
  refine refuseIf_bind_mapError ?_
  intro _
  refine refuseIf_bind_mapError ?_
  intro _
  refine refuseIf_bind_mapError ?_
  intro _
  refine refuseIf_bind_mapError ?_
  intro _
  refine refuseIf_bind_mapError ?_
  intro _
  split_ifs
  · rfl
  · exact parseTableGuarded_eq bytes _

/-! ### What the result depends on -/

/-- The positions of the header and of the program header table. -/
def InHeaderOrTable (bytes : List UInt8) (index : ℕ) : Prop :=
  index < 64 ∨ (readElfHeader bytes).programHeaderOffset.toNat ≤ index ∧
    index < (readElfHeader bytes).programHeaderOffset.toNat +
      (readElfHeader bytes).programHeaderCount.toNat * 56

section Congruence

variable {bytes other : List UInt8}

variable {offset : ℕ}

theorem u16At_congr (h : ∀ i < 2, other[offset + i]? = bytes[offset + i]?) :
    u16At other offset = u16At bytes offset := by rw [u16At, u16At, leAt_congr h]

theorem u32At_congr (h : ∀ i < 4, other[offset + i]? = bytes[offset + i]?) :
    u32At other offset = u32At bytes offset := by rw [u32At, u32At, leAt_congr h]

theorem u64At_congr (h : ∀ i < 8, other[offset + i]? = bytes[offset + i]?) :
    u64At other offset = u64At bytes offset := by rw [u64At, u64At, leAt_congr h]

theorem getD_congr (h : other[index]? = bytes[index]?) :
    other.getD index 0 = bytes.getD index 0 := by
  rw [List.getD_eq_getElem?_getD, List.getD_eq_getElem?_getD, h]

theorem readElfHeader_congr (h : ∀ i < 64, other[i]? = bytes[i]?) :
    readElfHeader other = readElfHeader bytes := by
  have h16 : ∀ offset, offset + 2 ≤ 64 → u16At other offset = u16At bytes offset := by
    intro offset hoffset
    exact u16At_congr fun i hi => h _ (by omega)
  have h32 : ∀ offset, offset + 4 ≤ 64 → u32At other offset = u32At bytes offset := by
    intro offset hoffset
    exact u32At_congr fun i hi => h _ (by omega)
  have h64 : ∀ offset, offset + 8 ≤ 64 → u64At other offset = u64At bytes offset := by
    intro offset hoffset
    exact u64At_congr fun i hi => h _ (by omega)
  simp (disch := omega) only [readElfHeader, h16, h32, h64]
  rw [getD_congr (h 7 (by omega)), getD_congr (h 8 (by omega))]

theorem readProgramHeader_congr (index : ℕ)
    (h : ∀ i, entryOffset ≤ i → i < entryOffset + 56 → other[i]? = bytes[i]?) :
    readProgramHeader other entryOffset index = readProgramHeader bytes entryOffset index := by
  have h32 : ∀ offset, entryOffset ≤ offset → offset + 4 ≤ entryOffset + 56 →
      u32At other offset = u32At bytes offset := by
    intro offset hlow hhigh
    exact u32At_congr fun i hi => h _ (by omega) (by omega)
  have h64 : ∀ offset, entryOffset ≤ offset → offset + 8 ≤ entryOffset + 56 →
      u64At other offset = u64At bytes offset := by
    intro offset hlow hhigh
    exact u64At_congr fun i hi => h _ (by omega) (by omega)
  simp (disch := omega) only [readProgramHeader, h32, h64]

theorem parseProgramHeaders_congr {count : ℕ} (previous : Option UInt64)
    (hlength : other.length = bytes.length)
    (h : ∀ i, tableOffset ≤ i → i < tableOffset + (index + count) * 56 → other[i]? = bytes[i]?) :
    parseProgramHeaders other tableOffset count index previous =
      parseProgramHeaders bytes tableOffset count index previous := by
  induction count generalizing index previous with
  | zero => rfl
  | succ count ih =>
    have hph : readProgramHeader other (tableOffset + index * kElf64ProgramHeaderSize) index =
        readProgramHeader bytes (tableOffset + index * kElf64ProgramHeaderSize) index := by
      refine readProgramHeader_congr index ?_
      intro i hlow hhigh
      rw [kElf64ProgramHeaderSize] at hlow hhigh
      exact h i (by omega) (by omega)
    have hrest : ∀ previous, parseProgramHeaders other tableOffset count (index + 1) previous =
        parseProgramHeaders bytes tableOffset count (index + 1) previous := by
      intro previous
      exact ih previous fun i hlow hhigh => h i hlow (by omega)
    rw [parseProgramHeaders, parseProgramHeaders]
    simp only [hph, hrest, hlength]

/-- **The result depends only on the length, the header and the table.** -/
theorem parseElf64_congr (profile : ElfParseProfile) (hlength : other.length = bytes.length)
    (h : ∀ i, InHeaderOrTable bytes i → other[i]? = bytes[i]?) :
    parseElf64 other profile = parseElf64 bytes profile := by
  have hheader : readElfHeader other = readElfHeader bytes :=
    readElfHeader_congr fun i hi => h i (.inl hi)
  have hbyte : ∀ i < 64, other.getD i 0 = bytes.getD i 0 := fun i hi => getD_congr (h i (.inl hi))
  have hmagic : ((List.range 4).forM fun i =>
    refuseIf (other.getD i 0 ≠ kElfMagic.getD i 0) (headerError .badMagic i)) =
      (List.range 4).forM fun i =>
        refuseIf (bytes.getD i 0 ≠ kElfMagic.getD i 0) (headerError .badMagic i) := by
    refine forM_congr ?_
    intro i hi
    rw [List.mem_range] at hi
    simp only [hbyte i (by omega)]
  have htable : parseProgramHeaders other (readElfHeader bytes).programHeaderOffset.toNat
      (readElfHeader bytes).programHeaderCount.toNat 0 none =
      parseProgramHeaders bytes (readElfHeader bytes).programHeaderOffset.toNat
        (readElfHeader bytes).programHeaderCount.toNat 0 none := by
    refine parseProgramHeaders_congr none hlength ?_
    intro i hlow hhigh
    exact h i (.inr ⟨hlow, by omega⟩)
  simp only [parseElf64, hheader, hlength, hmagic, htable, hbyte 4 (by omega), hbyte 5 (by omega),
    hbyte 6 (by omega)]

end Congruence

/-! ### What the later stages check again -/

theorem mappingIntentsFromLoad_of_load (htype : ph.type = kPtLoad) (h : LoadSegment inputSize ph) :
    ∃ intents, mappingIntentsFromLoad ph = .ok intents := by
  have hsizes := h.sizes
  have hmemory := h.memory
  have hrange : ∀ size : UInt64, size.toNat ≤ ph.memorySize.toNat →
      ∃ range, GuestRange.create ⟨ph.virtualAddress⟩ ⟨size⟩ = .ok range := by
    intro size hsize
    refine ⟨_, GuestRange.create_of_le ?_⟩
    rw [GuestAddress.toNat_mk, GuestSize.toNat_mk]
    omega
  obtain ⟨files, hfiles⟩ : ∃ files, fileIntents ph = .ok files := by
    obtain ⟨range, hrange⟩ := hrange ph.fileSize hsizes
    unfold fileIntents
    split_ifs
    · rw [hrange]
      exact ⟨_, rfl⟩
    · exact ⟨_, rfl⟩
  obtain ⟨zeros, hzeros⟩ : ∃ zeros, zeroFillIntents ph = .ok zeros := by
    unfold zeroFillIntents
    split_ifs with hlt
    · -- there is a zero byte, so the zero part begins below the top of the address space
      rw [gt_iff_lt, UInt64.lt_iff_toNat_lt] at hlt
      have hbase : ph.virtualAddress.toNat + ph.fileSize.toNat < 2 ^ 64 := by omega
      have hsize : (ph.memorySize - ph.fileSize).toNat = ph.memorySize.toNat - ph.fileSize.toNat :=
        UInt64.toNat_sub_of_le _ _ (UInt64.le_iff_toNat_le.mpr hsizes)
      have hadd : GuestAddress.checkedAdd ⟨ph.virtualAddress⟩ ⟨ph.fileSize⟩ =
          .ok ⟨ph.virtualAddress + ph.fileSize⟩ := by
        refine GuestAddress.checkedAdd_of_lt ?_
        rw [GuestAddress.toNat_mk, GuestSize.toNat_mk]
        exact hbase
      have hzero : (GuestAddress.mk (ph.virtualAddress + ph.fileSize)).toNat +
          (GuestSize.mk (ph.memorySize - ph.fileSize)).toNat ≤ 2 ^ 64 := by
        rw [GuestAddress.toNat_mk, GuestSize.toNat_mk, hsize, UInt64.toNat_add,
          Nat.mod_eq_of_lt hbase]
        omega
      simp only [bind_eq_ok, mapError_eq_ok, pure_eq_ok]
      exact ⟨_, _, hadd, _, GuestRange.create_of_le hzero, rfl⟩
    · exact ⟨_, rfl⟩
  obtain ⟨full, hfull⟩ := hrange ph.memorySize le_rfl
  by_cases hzero : ph.memorySize = 0
  · refine ⟨[], ?_⟩
    simp only [mappingIntentsFromLoad, bind_eq_ok, refuseIf_eq_ok, if_pos hzero, gt_iff_lt,
      UInt64.lt_iff_toNat_lt, pure_eq_ok, and_true]
    exact ⟨(), not_not.mpr htype, (), Nat.not_lt.mpr hsizes⟩
  · refine ⟨sortIntents (files ++ zeros), ?_⟩
    simp only [mappingIntentsFromLoad, bind_eq_ok, refuseIf_eq_ok, if_neg hzero, gt_iff_lt,
      UInt64.lt_iff_toNat_lt, pure_eq_ok, mapError_eq_ok]
    exact ⟨(), not_not.mpr htype, (), Nat.not_lt.mpr hsizes, full, hfull, files, hfiles, zeros,
      hzeros, rfl⟩

theorem collectMappings_of_loads (h : ∀ ph ∈ phs, ph.type = kPtLoad → LoadSegment inputSize ph) :
    ∃ mappings, collectMappings phs = .ok mappings := by
  induction phs with
  | nil => exact ⟨[], rfl⟩
  | cons ph phs ih =>
    rw [List.forall_mem_cons] at h
    obtain ⟨rest, hrest⟩ := ih h.2
    rw [collectMappings]
    split_ifs with htype
    · exact ⟨rest, hrest⟩
    · obtain ⟨intents, hintents⟩ :=
        mappingIntentsFromLoad_of_load (not_not.mp htype) (h.1 (not_not.mp htype))
      refine ⟨intents ++ rest, ?_⟩
      simp only [bind_eq_ok, mapError_eq_ok, pure_eq_ok]
      exact ⟨intents, hintents, rest, hrest, rfl⟩

/-- The mappings of an accepted file are built, and so is the view over them. -/
theorem exists_view_of_parseElf64 {bytes : List UInt8} (h : parseElf64 bytes profile = .ok elf) :
    ∃ collected, collectMappings elf.programHeaders = .ok collected ∧
      ∃ view, InitializedImageView.create bytes (sortIntents collected) = .ok view := by
  have hload := parseElf64_load h
  obtain ⟨collected, hcollected⟩ := collectMappings_of_loads hload
  refine ⟨collected, hcollected, InitializedImageView.create_of_backed ?_⟩
  intro intent hintent
  rw [mem_sortIntents, mem_collectMappings hcollected] at hintent
  obtain ⟨ph, hph, hof⟩ := hintent
  obtain ⟨hmem, htype⟩ := mem_loadSegments.mp hph
  exact hof.backed (hload ph hmem htype)

/-- An accepted file gives the mappings and the view nothing to refuse. -/
theorem not_mappingFailure_of_accepted {bytes : List UInt8} {stack : InitialStackRequest}
    {e : GuestImageError} (haccepted : AcceptedElf bytes profile)
    (h : buildGuestImage ⟨bytes, stack, profile⟩ = .error e) :
    e.code ≠ .mappingFailure ∧ e.code ≠ .initializedImageFailure := by
  have helf := parseElf64_eq_ok_iff.mpr ⟨haccepted, rfl⟩
  obtain ⟨collected, hcollected, view, hview⟩ := exists_view_of_parseElf64 helf
  rcases buildGuestImage_eq_error h with hparse | ⟨elf, helf', hcollect | ⟨other, hother, hlater⟩⟩
  · rw [hparse]
    simp
  · cases helf.symm.trans helf'
    cases hcollected.symm.trans hcollect
  · cases helf.symm.trans helf'
    cases hcollected.symm.trans hother
    rcases hlater with ⟨hconflict, -⟩ | ⟨-, cause, hrefused⟩ | hlater
    · rw [hconflict]
      simp
    · cases hview.symm.trans hrefused
    · constructor
      · intro hcode
        rw [hcode] at hlater
        simp [laterCodes] at hlater
      · intro hcode
        rw [hcode] at hlater
        simp [laterCodes] at hlater

/-- **Acceptance of a file is exact and sufficient for loading.** A file is accepted when
it is an `AcceptedElf`; no byte outside it is read; the result depends only on the
length, the header and the table; and for an accepted file neither the mappings nor the
view of its image are refused. -/
theorem parseElf64_acceptance (bytes : List UInt8) (profile : ElfParseProfile) :
    ((∃ elf, parseElf64 bytes profile = .ok elf) ↔ AcceptedElf bytes profile) ∧
      parseElf64Guarded bytes profile = (parseElf64 bytes profile).mapError some ∧
      (∀ other : List UInt8, other.length = bytes.length →
        (∀ i, InHeaderOrTable bytes i → other[i]? = bytes[i]?) →
      parseElf64 other profile = parseElf64 bytes profile) ∧
      ∀ elf, parseElf64 bytes profile = .ok elf →
        ∀ (stack : InitialStackRequest) (e : GuestImageError),
        buildGuestImage ⟨bytes, stack, profile⟩ = .error e →
          e.code ≠ .mappingFailure ∧ e.code ≠ .initializedImageFailure := by
  refine ⟨⟨?_, ?_⟩, parseElf64Guarded_eq bytes profile, ?_, ?_⟩
  · rintro ⟨elf, h⟩
    exact (parseElf64_eq_ok_iff.mp h).1
  · intro h
    exact ⟨_, parseElf64_eq_ok_iff.mpr ⟨h, rfl⟩⟩
  · intro other hlength hsame
    exact parseElf64_congr profile hlength hsame
  · intro elf helf stack e he
    exact not_mappingFailure_of_accepted (parseElf64_eq_ok_iff.mp helf).1 he

/-- A file with one load segment, whose last page ends at the top of the address space. -/
def topOfMemoryElf : List UInt8 :=
  [0x7f, 0x45, 0x4c, 0x46, 2, 1, 1] ++ List.replicate 9 0 ++
    wordsBytes [(2, 2), (2, 62), (4, 1), (8, 0), (8, 64), (8, 0), (4, 0), (2, 64), (2, 56), (2, 1),
      (2, 0), (2, 0), (2, 0)] ++
    wordsBytes [(4, 1), (4, 5), (8, 0), (8, 2 ^ 64 - 0x1000), (8, 0), (8, 120), (8, 0x1000),
      (8, 0x1000)]

theorem topOfMemoryElf_accepted : AcceptedElf topOfMemoryElf .generic := by
  have hparse : (parseElf64 topOfMemoryElf .generic).toOption.isSome = true := by decide +kernel
  obtain ⟨elf, helf⟩ := Option.isSome_iff_exists.mp hparse
  refine (parseElf64_acceptance topOfMemoryElf .generic).1.mp ⟨elf, ?_⟩
  cases hresult : parseElf64 topOfMemoryElf .generic with
  | error e =>
    rw [hresult] at helf
    cases helf
  | ok found =>
    rw [hresult] at helf
    cases helf
    rfl

end Astraea.Loader
