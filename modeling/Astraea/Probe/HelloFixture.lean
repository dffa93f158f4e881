import Astraea.Base.Overwrite
import Astraea.Loader.ElfAcceptance
import Astraea.Probe.HelloCode

/-!
# The fixture of the hello probe

`build_probe_hello_fixture` puts the code of the hello probe and its message into an executable, and
describes a stack for it. Everything lies on pages of its own, from a base that the caller chooses:
the code, the message, the stack, and the page of the two gates, which nothing may be mapped on.

`fixtureOf_buildProbeHelloFixture` says what a fixture is, and `exists_fixture_iff` for which bases
and page sizes there is one: the distance to the gates limits the page size.
-/

namespace Astraea.Probe

open Astraea.Base Astraea.Loader Astraea.Memory

/-- The bytes of the header of a file. -/
def kElfHeaderSize : ℕ := 64

/-- The bytes of a program header. -/
def kProgramHeaderSize : ℕ := 56

/-- Where the program headers start. -/
def kProgramHeaderOffset : ℕ := 64

/-! ### The file -/

/-- `write_u16`: where it writes, and what. -/
def writeU16 (offset : ℕ) (value : UInt16) : ℕ × List UInt8 := (offset, leBytes 2 value.toNat)

/-- `write_u32`. -/
def writeU32 (offset : ℕ) (value : UInt32) : ℕ × List UInt8 := (offset, leBytes 4 value.toNat)

/-- `write_u64`. -/
def writeU64 (offset : ℕ) (value : UInt64) : ℕ × List UInt8 := (offset, leBytes 8 value.toNat)

/-- The writes of `write_program_header`. -/
def writeProgramHeader (index : ℕ) (flags : UInt32)
    (fileOffset virtualAddress fileSize alignment : UInt64) :
    List (ℕ × List UInt8) :=
  let offset := kProgramHeaderOffset + index * kProgramHeaderSize
  [writeU32 offset 1, writeU32 (offset + 4) flags, writeU64 (offset + 8) fileOffset,
    writeU64 (offset + 16) virtualAddress, writeU64 (offset + 24) 0,
    writeU64 (offset + 32) fileSize, writeU64 (offset + 40) fileSize,
    writeU64 (offset + 48) alignment]

/-- The writes of the file header. -/
def writeElfHeader (entry : UInt64) : List (ℕ × List UInt8) :=
  [(0, [0x7f]), (1, [0x45]), (2, [0x4c]), (3, [0x46]), (4, [2]), (5, [1]), (6, [1]), writeU16 16 2,
    writeU16 18 62, writeU32 20 1, writeU64 24 entry,
    writeU64 32 (UInt64.ofNat kProgramHeaderOffset), writeU16 52 (UInt16.ofNat kElfHeaderSize),
    writeU16 54 (UInt16.ofNat kProgramHeaderSize), writeU16 56 2]

/-- All that is written into the file. -/
def writeFile (guestBase dataBase pageSize dataOffset : UInt64) (code : List UInt8) :
    List (ℕ × List UInt8) :=
  writeElfHeader guestBase ++
    (writeProgramHeader 0 0x5 pageSize guestBase (UInt64.ofNat code.length) pageSize ++
      (writeProgramHeader 1 0x4 dataOffset dataBase
        (UInt64.ofNat kProbeHelloMessage.length) pageSize ++
        [(pageSize.toNat, code), (dataOffset.toNat, kProbeHelloMessage)]))

/-- A file that was built, and where it is to be loaded. -/
structure ProbeHelloFixture where
  elfBytes : List UInt8
  initialStack : InitialStackRequest
  codeBase : GuestAddress
  dataBase : GuestAddress
  gateBase : GuestAddress
  deriving DecidableEq

/-- The name of the program, `probe_hello.elf`. -/
def probeArgument : List UInt8 :=
  ['p', 'r', 'o', 'b', 'e', '_', 'h', 'e', 'l', 'l', 'o', '.', 'e', 'l', 'f'].map fun c =>
    UInt8.ofNat c.toNat

/-- The one variable, `ASTRAEA_PROBE=1`. -/
def probeVariable : List UInt8 :=
  ['A', 'S', 'T', 'R', 'A', 'E', 'A', '_', 'P', 'R', 'O', 'B', 'E', '=', '1'].map fun c =>
    UInt8.ofNat c.toNat

/-- The stack of the probe. The auxiliary entry has the page size. -/
def probeStackRequest (storage : GuestRange) (pageSize : UInt64) : InitialStackRequest where
  storage := storage
  arguments := [probeArgument]
  environment := [probeVariable]
  auxiliaryVector := [⟨6, pageSize⟩]

/-- `build_probe_hello_fixture`. A `std::size_t` has 64 bits, so that it has room for the page size;
the last check is the limit of a vector of bytes. -/
def buildProbeHelloFixture (guestBase : GuestAddress) (pageSize : UInt64) :
    Except ProbeHelloError ProbeHelloFixture := do
  refuseIf (pageSize < 4096 ∨ pageSize &&& (pageSize - 1) ≠ 0) { code := .invalidPageSize }
  refuseIf (guestBase.value % pageSize ≠ 0) ⟨.unalignedGuestBase, true, guestBase.value⟩
  let overflow (address : GuestAddress) (_ : AddressErrorCode) : ProbeHelloError :=
    ⟨.guestAddressOverflow, true, address.value⟩
  let twoPages ← (GuestSize.checkedAdd ⟨pageSize⟩ ⟨pageSize⟩).mapError (overflow guestBase)
  let threePages ← (twoPages.checkedAdd ⟨pageSize⟩).mapError (overflow guestBase)
  let dataBase ← (guestBase.checkedAdd ⟨pageSize⟩).mapError (overflow guestBase)
  let stackBase ← (guestBase.checkedAdd twoPages).mapError (overflow guestBase)
  let gateBase ← (guestBase.checkedAdd threePages).mapError (overflow guestBase)
  let stackStorage ← (GuestRange.create stackBase ⟨pageSize⟩).mapError (overflow stackBase)
  let code ← buildProbeCode guestBase.value dataBase.value gateBase.value
  let dataOffset := twoPages.value
  let messageSize := UInt64.ofNat kProbeHelloMessage.length
  refuseIf (dataOffset > u64Max - messageSize) { code := .hostSizeUnrepresentable }
  let rawFileSize := dataOffset + messageSize
  refuseIf (rawFileSize.toNat > 2 ^ 63 - 1) { code := .hostSizeUnrepresentable }
  let elfBytes := overwriteAll (List.replicate rawFileSize.toNat 0)
    (writeFile guestBase.value dataBase.value pageSize dataOffset code)
  return ⟨elfBytes, probeStackRequest stackStorage pageSize, guestBase, dataBase, gateBase⟩

/-! ### What a fixture is -/

/-- A base and a page size for which there is a fixture. -/
structure FixtureFits (guestBase : GuestAddress) (pageSize : UInt64) : Prop where
  power : isPowerOfTwo pageSize = true
  large : 4096 ≤ pageSize.toNat
  aligned : pageSize.toNat ∣ guestBase.toNat
  /-- The page of the gates is a page of the address space. -/
  space : guestBase.toNat + 3 * pageSize.toNat < 2 ^ 64
  /-- The gates are in reach of the calls: the second is nearer, as its call is further behind. -/
  reach : 3 * pageSize.toNat < 2 ^ 31 + 25

/-- What a fixture is made of. -/
structure FixtureOf (guestBase : GuestAddress) (pageSize : UInt64) (fixture : ProbeHelloFixture) :
    Prop where
  fits : FixtureFits guestBase pageSize
  codeBase : fixture.codeBase = guestBase
  dataBase : fixture.dataBase.toNat = guestBase.toNat + pageSize.toNat
  gateBase : fixture.gateBase.toNat = guestBase.toNat + 3 * pageSize.toNat
  stackBase : fixture.initialStack.storage.base.toNat = guestBase.toNat + 2 * pageSize.toNat
  stackSize : fixture.initialStack.storage.size.toNat = pageSize.toNat
  stack : fixture.initialStack = probeStackRequest fixture.initialStack.storage pageSize
  gates : GatesInReach fixture.codeBase.value fixture.gateBase.value
  file : ∃ dataOffset : UInt64, dataOffset.toNat = 2 * pageSize.toNat ∧
    fixture.elfBytes = overwriteAll (List.replicate (2 * pageSize.toNat + 16) 0)
      (writeFile guestBase.value fixture.dataBase.value pageSize dataOffset
        (assemble fixture.codeBase.value
          (probeProgram fixture.codeBase.value fixture.dataBase.value fixture.gateBase.value)))

section Fixture

variable {guestBase gateBase : GuestAddress} {pageSize : UInt64} {fixture : ProbeHelloFixture}

section

variable (hspace : guestBase.toNat + 3 * pageSize.toNat + 16 < 2 ^ 64)
  (hlarge : 4096 ≤ pageSize.toNat) (hgate : gateBase.toNat = guestBase.toNat + 3 * pageSize.toNat)

include hspace hlarge hgate

/-- How far the gates are from the instructions behind the calls. -/
theorem distance_gates :
    ProbeInstruction.distance (guestBase.value + UInt64.ofNat 20) gateBase.value 5 =
      3 * pageSize.toNat - 25 ∧
      ProbeInstruction.distance (guestBase.value + UInt64.ofNat 41)
        (gateBase.value + kSyntheticGateStride) 5 =
        3 * pageSize.toNat - 30 := by
  rw [GuestAddress.toNat] at hspace
  rw [GuestAddress.toNat, GuestAddress.toNat] at hgate
  have h20 := @toNat_add_ofNat guestBase.value 20 (by omega)
  have h41 := @toNat_add_ofNat guestBase.value 41 (by omega)
  have hexit := @toNat_add_ofNat gateBase.value 16 (by omega)
  change (gateBase.value + kSyntheticGateStride).toNat = _ at hexit
  constructor
  · rw [ProbeInstruction.distance, h20, hgate]
    push_cast
    omega
  · rw [ProbeInstruction.distance, h41, hexit, hgate]
    push_cast
    omega

/-- The calls of the code at a base reach the gates three pages further on, if the pages are not too
large. -/
theorem gatesInReach_iff :
    GatesInReach guestBase.value gateBase.value ↔ 3 * pageSize.toNat < 2 ^ 31 + 25 := by
  obtain ⟨hwrite, hexit⟩ := distance_gates hspace hlarge hgate
  have hfits : ∀ d : ℤ, SignedFits 32 d ↔ -2 ^ 31 ≤ d ∧ d < 2 ^ 31 := fun d => Iff.rfl
  constructor
  · rintro ⟨hreach, -, -⟩
    rw [ProbeInstruction.Fits, hwrite, hfits] at hreach
    omega
  · intro hsmall
    refine ⟨?_, ?_, ?_⟩
    · rw [ProbeInstruction.Fits, hwrite, hfits]
      omega
    · rw [ProbeInstruction.Fits, hexit, hfits]
      omega
    · rw [GuestAddress.toNat] at hspace
      rw [GuestAddress.toNat, GuestAddress.toNat] at hgate
      omega

end

/-- The page behind an aligned address that does not pass the top does not pass it either. -/
theorem add_pageSize_le {address : ℕ} (hpower : isPowerOfTwo pageSize = true)
    (haligned : pageSize.toNat ∣ address) (h : address < 2 ^ 64) :
    address + pageSize.toNat ≤ 2 ^ 64 := by
  obtain ⟨m, hm⟩ := dvd_two_pow_64 hpower
  obtain ⟨n, rfl⟩ := haligned
  rw [hm] at h ⊢
  rw [← Nat.mul_succ]
  exact Nat.mul_le_mul_left _ (Nat.lt_of_mul_lt_mul_left h)

/-- Where the pages lie, once all sums have been checked. -/
structure PagesAt (guestBase : GuestAddress) (pageSize : UInt64) (twoPages : GuestSize)
    (dataBase gateBase : GuestAddress) (storage : GuestRange) : Prop where
  power : isPowerOfTwo pageSize = true
  large : 4096 ≤ pageSize.toNat
  aligned : pageSize.toNat ∣ guestBase.toNat
  space : guestBase.toNat + 3 * pageSize.toNat < 2 ^ 64
  twoPages : twoPages.toNat = 2 * pageSize.toNat
  dataBase : dataBase.toNat = guestBase.toNat + pageSize.toNat
  gateBase : gateBase.toNat = guestBase.toNat + 3 * pageSize.toNat
  stackBase : storage.base.toNat = guestBase.toNat + 2 * pageSize.toNat
  stackSize : storage.size.toNat = pageSize.toNat

theorem pageSize_eq_ok_iff : ¬ (pageSize < 4096 ∨ pageSize &&& (pageSize - 1) ≠ 0) ↔
    isPowerOfTwo pageSize = true ∧ 4096 ≤ pageSize.toNat := by
  have h4096 : (4096 : UInt64).toNat = 4096 := rfl
  have hzero : pageSize = 0 ↔ pageSize.toNat = 0 := by rw [← UInt64.toNat_inj, UInt64.toNat_zero]
  rw [not_or, not_not, UInt64.lt_iff_toNat_lt, h4096, Nat.not_lt, isPowerOfTwo, Bool.and_eq_true,
    bne_iff_ne, beq_iff_eq, Ne, hzero]
  constructor
  · rintro ⟨hlarge, hand⟩
    exact ⟨⟨by omega, hand⟩, hlarge⟩
  · rintro ⟨⟨-, hand⟩, hlarge⟩
    exact ⟨hlarge, hand⟩

theorem pagesAt {twoPages threePages : GuestSize} {dataBase stackBase : GuestAddress}
    {storage : GuestRange} (hpage : ¬ (pageSize < 4096 ∨ pageSize &&& (pageSize - 1) ≠ 0))
    (haligned : ¬ guestBase.value % pageSize ≠ 0)
    (htwo : GuestSize.checkedAdd ⟨pageSize⟩ ⟨pageSize⟩ = .ok twoPages)
    (hthree : twoPages.checkedAdd ⟨pageSize⟩ = .ok threePages)
    (hdata : guestBase.checkedAdd ⟨pageSize⟩ = .ok dataBase)
    (hstack : guestBase.checkedAdd twoPages = .ok stackBase)
    (hgate : guestBase.checkedAdd threePages = .ok gateBase)
    (hstorage : GuestRange.create stackBase ⟨pageSize⟩ = .ok storage) :
    PagesAt guestBase pageSize twoPages dataBase gateBase storage := by
  obtain ⟨hpower, hlarge⟩ := pageSize_eq_ok_iff.mp hpage
  obtain ⟨htwoLt, rfl⟩ := GuestSize.checkedAdd_eq_ok_iff.mp htwo
  obtain ⟨hthreeLt, rfl⟩ := GuestSize.checkedAdd_eq_ok_iff.mp hthree
  obtain ⟨hdataLt, hdata⟩ := GuestAddress.checkedAdd_eq_ok hdata
  obtain ⟨hstackLt, hstack⟩ := GuestAddress.checkedAdd_eq_ok hstack
  obtain ⟨hgateLt, hgate⟩ := GuestAddress.checkedAdd_eq_ok hgate
  obtain ⟨hbase, hsize⟩ := GuestRange.create_eq_ok hstorage
  rw [GuestSize.toNat_mk] at htwoLt
  have htwo : (pageSize + pageSize).toNat = pageSize.toNat + pageSize.toNat := by
    rw [UInt64.toNat_add, Nat.mod_eq_of_lt htwoLt]
  rw [GuestSize.toNat_mk, GuestSize.toNat_mk, htwo] at hthreeLt
  have hthree : (pageSize + pageSize + pageSize).toNat =
      pageSize.toNat + pageSize.toNat + pageSize.toNat := by
    rw [UInt64.toNat_add, htwo, Nat.mod_eq_of_lt hthreeLt]
  rw [GuestSize.toNat_mk] at hdata
  rw [GuestSize.toNat_mk, htwo] at hstack
  rw [GuestSize.toNat_mk, hthree] at hgateLt hgate
  refine ⟨hpower, hlarge, ?_, by omega, ?_, hdata, by omega, ?_, ?_⟩
  · rw [not_not, ← UInt64.toNat_inj, UInt64.toNat_mod, UInt64.toNat_zero] at haligned
    exact Nat.dvd_of_mod_eq_zero haligned
  · rw [GuestSize.toNat_mk, htwo]
    omega
  · rw [hbase]
    omega
  · rw [hsize, GuestSize.toNat_mk]

section Pages

variable {twoPages : GuestSize} {dataBase : GuestAddress} {storage : GuestRange}

section

variable (h : PagesAt guestBase pageSize twoPages dataBase gateBase storage)

include h

theorem PagesAt.room : guestBase.value.toNat + 46 < 2 ^ 64 := by
  have hspace := h.space
  have hlarge := h.large
  rw [GuestAddress.toNat] at hspace
  omega

theorem PagesAt.gates_iff :
    GatesInReach guestBase.value gateBase.value ↔ 3 * pageSize.toNat < 2 ^ 31 + 25 := by
  have hlarge := h.large
  have hgates : pageSize.toNat ∣ guestBase.toNat + 3 * pageSize.toNat :=
    Nat.dvd_add h.aligned (Nat.dvd_mul_left _ _)
  have hspace := add_pageSize_le h.power hgates h.space
  exact gatesInReach_iff (by omega) hlarge h.gateBase

theorem PagesAt.toNat_fileSize :
    (twoPages.value + UInt64.ofNat kProbeHelloMessage.length).toNat = 2 * pageSize.toNat + 16 := by
  have hspace := h.space
  have htwo := h.twoPages
  rw [GuestSize.toNat] at htwo
  rw [@toNat_add_ofNat twoPages.value kProbeHelloMessage.length
    (by rw [htwo]; change _ + 16 < _; omega), htwo]
  rfl

end

end Pages

/-- **What a fixture is**, where there is one. -/
theorem fixtureOf_buildProbeHelloFixture
    (h : buildProbeHelloFixture guestBase pageSize = .ok fixture) :
    FixtureOf guestBase pageSize fixture := by
  simp only [buildProbeHelloFixture, bind_eq_ok, refuseIf_eq_ok, mapError_eq_ok, pure_eq_ok] at h
  obtain ⟨-, hpage, -, haligned, twoPages, htwo, threePages, hthree, dataBase, hdata, stackBase,
    hstack, gateBase, hgate, storage, hstorage, code, hcode, -, -, -, -, rfl⟩ := h
  have hpages := pagesAt hpage haligned htwo hthree hdata hstack hgate hstorage
  obtain ⟨hreach, rfl⟩ := (buildProbeCode_eq_ok_iff hpages.room).mp hcode
  refine ⟨⟨hpages.power, hpages.large, hpages.aligned, hpages.space, hpages.gates_iff.mp hreach⟩,
    rfl, hpages.dataBase, hpages.gateBase, hpages.stackBase, hpages.stackSize, rfl, hreach,
    twoPages.value, hpages.twoPages, ?_⟩
  rw [hpages.toNat_fileSize]

theorem exists_fixture_iff : (∃ fixture, buildProbeHelloFixture guestBase pageSize = .ok fixture) ↔
    FixtureFits guestBase pageSize := by
  constructor
  · rintro ⟨fixture, h⟩
    exact (fixtureOf_buildProbeHelloFixture h).fits
  · intro h
    have hlarge := h.large
    have hspace := h.space
    have hreach := h.reach
    have hpage := pageSize_eq_ok_iff.mpr ⟨h.power, h.large⟩
    have haligned : ¬ guestBase.value % pageSize ≠ 0 := by
      rw [not_not, ← UInt64.toNat_inj, UInt64.toNat_mod, UInt64.toNat_zero]
      exact Nat.mod_eq_zero_of_dvd h.aligned
    have hone : (GuestSize.mk pageSize).toNat = pageSize.toNat := rfl
    have hsum : ∀ {lhs rhs : GuestSize}, lhs.toNat + rhs.toNat < 2 ^ 64 →
        ∃ size, lhs.checkedAdd rhs = .ok size ∧ size.toNat = lhs.toNat + rhs.toNat := by
      intro lhs rhs hlt
      refine ⟨_, GuestSize.checkedAdd_eq_ok_iff.mpr ⟨hlt, rfl⟩, ?_⟩
      rw [GuestSize.toNat_mk, UInt64.toNat_add]
      exact Nat.mod_eq_of_lt hlt
    have haddress : ∀ {size : GuestSize}, guestBase.toNat + size.toNat < 2 ^ 64 →
        ∃ address, guestBase.checkedAdd size = .ok address :=
          fun hlt => ⟨_, GuestAddress.checkedAdd_of_lt hlt⟩
    obtain ⟨twoPages, htwo, htwoNat⟩ := @hsum ⟨pageSize⟩ ⟨pageSize⟩ (by omega)
    obtain ⟨threePages, hthree, hthreeNat⟩ := @hsum twoPages ⟨pageSize⟩ (by omega)
    obtain ⟨dataBase, hdata⟩ := @haddress ⟨pageSize⟩ (by omega)
    obtain ⟨stackBase, hstack⟩ := @haddress twoPages (by omega)
    obtain ⟨gateBase, hgate⟩ := @haddress threePages (by omega)
    have hstackNat := (GuestAddress.checkedAdd_eq_ok hstack).2
    have hstorage := @GuestRange.create_of_le stackBase ⟨pageSize⟩ (by omega)
    have hpages := pagesAt hpage haligned htwo hthree hdata hstack hgate hstorage
    have hcode := (@buildProbeCode_eq_ok_iff _ _ dataBase.value _ hpages.room).mpr
      ⟨hpages.gates_iff.mpr hreach, rfl⟩
    have hsize := hpages.toNat_fileSize
    have hoffset : ¬ twoPages.value > u64Max - UInt64.ofNat kProbeHelloMessage.length := by
      rw [gt_u64Max_sub_iff, Nat.not_le]
      change twoPages.toNat + 16 < 2 ^ 64
      omega
    simp only [buildProbeHelloFixture, bind_eq_ok, refuseIf_eq_ok, mapError_eq_ok, pure_eq_ok]
    exact ⟨_, (), hpage, (), haligned, twoPages, htwo, threePages, hthree, dataBase, hdata,
      stackBase, hstack, gateBase, hgate, _, hstorage, _, hcode, (), hoffset,
      (), by rw [hsize]; omega, rfl⟩

/-- **Why there is no fixture for the reach of a call**: one of the gates is too far away. -/
theorem far_of_relativeCallOutOfRange {e : ProbeHelloError}
    (h : buildProbeHelloFixture guestBase pageSize = .error e)
    (hcode : e.code = .relativeCallOutOfRange) : 2 ^ 31 + 25 ≤ 3 * pageSize.toNat := by
  simp only [buildProbeHelloFixture, bind_eq_error, refuseIf_eq_error, mapError_eq_error,
    refuseIf_eq_ok, mapError_eq_ok, pure_ne_error, and_false, exists_false, or_false] at h
  rcases h with ⟨-, rfl⟩ | ⟨-, hpage,
    ⟨-, rfl⟩ | ⟨-, haligned,
    ⟨_, -, rfl⟩ | ⟨twoPages, htwo,
    ⟨_, -, rfl⟩ | ⟨threePages, hthree,
    ⟨_, -, rfl⟩ | ⟨dataBase, hdata,
    ⟨_, -, rfl⟩ | ⟨stackBase, hstack,
    ⟨_, -, rfl⟩ | ⟨gateBase, hgate, ⟨_, -, rfl⟩ | ⟨storage, hstorage, hrest⟩⟩⟩⟩⟩⟩⟩⟩
  case inr.inr.inr.inr.inr.inr.inr.inr =>
    have hpages := pagesAt hpage haligned htwo hthree hdata hstack hgate hstorage
    rcases hrest with hrefused | ⟨_, -, ⟨-, rfl⟩ | ⟨-, -, -, rfl⟩⟩
    · have hfar := buildProbeCode_eq_error hpages.room hrefused
      rw [hpages.gates_iff] at hfar
      exact Nat.not_lt.mp hfar
    · cases hcode
    · cases hcode
  all_goals cases hcode

end Fixture

/-! ### Reading the file -/

section File

variable {guestBase dataBase pageSize dataOffset : UInt64} {code : List UInt8}

/-- The code and the message begin behind the headers, and the code has room before the message. -/
structure FileLayout (pageSize dataOffset : UInt64) (code : List UInt8) : Prop where
  large : 4096 ≤ pageSize.toNat
  codeSize : code.length = 48
  dataOffset : dataOffset.toNat = 2 * pageSize.toNat

/-- The bytes of the file. -/
def fileBytes (guestBase dataBase pageSize dataOffset : UInt64) (code : List UInt8) : List UInt8 :=
  overwriteAll (List.replicate (2 * pageSize.toNat + 16) 0)
    (writeFile guestBase dataBase pageSize dataOffset code)

theorem inOrder_writeFile (h : FileLayout pageSize dataOffset code) :
    (writeFile guestBase dataBase pageSize dataOffset code).Pairwise EndsBefore := by
  have hchain : (writeFile guestBase dataBase pageSize dataOffset code).IsChain EndsBefore := by
    have hlarge := h.large
    simp [writeFile, writeElfHeader, writeProgramHeader, writeU16, writeU32, writeU64, EndsBefore,
      h.codeSize, h.dataOffset, kProgramHeaderOffset, kProgramHeaderSize]
    omega
  exact List.isChain_iff_pairwise.mp hchain

theorem writeFile_inside (h : FileLayout pageSize dataOffset code) :
    ∀ write ∈ writeFile guestBase dataBase pageSize dataOffset code,
      write.1 + write.2.length ≤ (List.replicate (2 * pageSize.toNat + 16) (0 : UInt8)).length := by
  have hlarge := h.large
  have hmessage : kProbeHelloMessage.length = 16 := rfl
  simp [writeFile, writeElfHeader, writeProgramHeader, writeU16, writeU32, writeU64, h.codeSize,
    h.dataOffset, kProgramHeaderOffset, kProgramHeaderSize, hmessage]
  omega

/-- **What is written is found in the file.** -/
theorem slice_fileBytes (h : FileLayout pageSize dataOffset code) {offset : ℕ} {data : List UInt8}
    (hwrite : (offset, data) ∈ writeFile guestBase dataBase pageSize dataOffset code) :
    slice (fileBytes guestBase dataBase pageSize dataOffset code) offset data.length = data :=
  slice_overwriteAll (writeFile_inside h) (inOrder_writeFile h) hwrite

theorem length_fileBytes (h : FileLayout pageSize dataOffset code) :
    (fileBytes guestBase dataBase pageSize dataOffset code).length = 2 * pageSize.toNat + 16 := by
  rw [fileBytes, length_overwriteAll (writeFile_inside h), List.length_replicate]

theorem leAt_fileBytes (h : FileLayout pageSize dataOffset code) {offset width value : ℕ}
    (hvalue : value < 256 ^ width)
    (hwrite : (offset, leBytes width value) ∈
    writeFile guestBase dataBase pageSize dataOffset code) :
    leAt width (fileBytes guestBase dataBase pageSize dataOffset code) offset = value := by
  have hslice := slice_fileBytes h hwrite
  rw [length_leBytes] at hslice
  rw [leAt]
  exact (congrArg leValue hslice).trans (leValue_leBytes_of_lt hvalue)

section

variable {offset : ℕ} (h : FileLayout pageSize dataOffset code)

include h

theorem u16At_fileBytes {value : UInt16}
    (hwrite : writeU16 offset value ∈ writeFile guestBase dataBase pageSize dataOffset code) :
    u16At (fileBytes guestBase dataBase pageSize dataOffset code) offset = value :=
  u16At_eq_iff.mpr (leAt_fileBytes h value.toNat_lt hwrite)

theorem u32At_fileBytes {value : UInt32}
    (hwrite : writeU32 offset value ∈ writeFile guestBase dataBase pageSize dataOffset code) :
    u32At (fileBytes guestBase dataBase pageSize dataOffset code) offset = value :=
  u32At_eq_iff.mpr (leAt_fileBytes h value.toNat_lt hwrite)

theorem u64At_fileBytes {value : UInt64}
    (hwrite : writeU64 offset value ∈ writeFile guestBase dataBase pageSize dataOffset code) :
    u64At (fileBytes guestBase dataBase pageSize dataOffset code) offset = value :=
  u64At_eq_iff.mpr (leAt_fileBytes h value.toNat_lt hwrite)

theorem getD_fileBytes {byte : UInt8}
    (hwrite : (offset, [byte]) ∈ writeFile guestBase dataBase pageSize dataOffset code) :
    (fileBytes guestBase dataBase pageSize dataOffset code).getD offset 0 = byte := by
  have hslice := (slice_eq_iff rfl).mp (slice_fileBytes h hwrite) 0 Nat.one_pos
  rw [Nat.add_zero] at hslice
  rw [List.getD_eq_getElem?_getD, hslice]
  rfl

end

theorem readProgramHeader_fileBytes (h : FileLayout pageSize dataOffset code) {index : ℕ}
    {flags : UInt32} {fileOffset virtualAddress fileSize alignment : UInt64}
    (hwrites : ∀ write ∈ writeProgramHeader index flags fileOffset virtualAddress fileSize
      alignment, write ∈ writeFile guestBase dataBase pageSize dataOffset code) :
    readProgramHeader (fileBytes guestBase dataBase pageSize dataOffset code)
        (kProgramHeaderOffset + index * kProgramHeaderSize) index =
      ⟨kPtLoad, flags, fileOffset, virtualAddress, 0, fileSize, fileSize, alignment, index⟩ := by
  simp only [writeProgramHeader, List.forall_mem_cons, List.not_mem_nil, false_imp_iff,
    implies_true, and_true] at hwrites
  obtain ⟨htype, hflags, hoffset, hvirtual, hphysical, hfile, hmemory, halignment⟩ := hwrites
  rw [readProgramHeader, u32At_fileBytes h htype, u32At_fileBytes h hflags,
    u64At_fileBytes h hoffset, u64At_fileBytes h hvirtual, u64At_fileBytes h hphysical,
    u64At_fileBytes h hfile, u64At_fileBytes h hmemory, u64At_fileBytes h halignment, kPtLoad]

/-- The header of the code segment. -/
def codeSegment (guestBase pageSize : UInt64) : ProgramHeader :=
  ⟨kPtLoad, 0x5, pageSize, guestBase, 0, 48, 48, pageSize, 0⟩

/-- The header of the segment of the message. -/
def messageSegment (dataBase pageSize dataOffset : UInt64) : ProgramHeader :=
  ⟨kPtLoad, 0x4, dataOffset, dataBase, 0, 16, 16, pageSize, 1⟩

/-- The fields of the file header that a loader looks at. -/
structure HeaderFields (bytes : List UInt8) (entry : UInt64) : Prop where
  type : (readElfHeader bytes).type = 2
  machine : (readElfHeader bytes).machine = 62
  version : (readElfHeader bytes).version = 1
  entry : (readElfHeader bytes).entry = entry
  programHeaderOffset : (readElfHeader bytes).programHeaderOffset = 64
  headerSize : (readElfHeader bytes).headerSize = 64
  programHeaderEntrySize : (readElfHeader bytes).programHeaderEntrySize = 56
  programHeaderCount : (readElfHeader bytes).programHeaderCount = 2

theorem headerFields_fileBytes (h : FileLayout pageSize dataOffset code) :
    HeaderFields (fileBytes guestBase dataBase pageSize dataOffset code) guestBase := by
  have hmem : ∀ write ∈ writeElfHeader guestBase, write ∈
      writeFile guestBase dataBase pageSize dataOffset code :=
    fun write hwrite => List.mem_append_left _ hwrite
  simp only [writeElfHeader, List.forall_mem_cons, List.not_mem_nil, false_imp_iff, implies_true,
    and_true] at hmem
  obtain ⟨-, -, -, -, -, -, -, htype, hmachine, hversion, hentry, hoffset, hsize, hentrySize,
    hcount⟩ := hmem
  exact ⟨u16At_fileBytes h htype, u16At_fileBytes h hmachine, u32At_fileBytes h hversion,
    u64At_fileBytes h hentry, u64At_fileBytes h hoffset, u16At_fileBytes h hsize,
    u16At_fileBytes h hentrySize, u16At_fileBytes h hcount⟩

theorem programHeaderTable_fileBytes (h : FileLayout pageSize dataOffset code) :
    programHeaderTable (fileBytes guestBase dataBase pageSize dataOffset code) =
      [codeSegment guestBase pageSize, messageSegment dataBase pageSize dataOffset] := by
  have hfields := @headerFields_fileBytes guestBase dataBase _ _ _ h
  have hcode : UInt64.ofNat code.length = 48 := by rw [h.codeSize]; rfl
  have hmessage : UInt64.ofNat kProbeHelloMessage.length = 16 := rfl
  have hfirst :=
      @readProgramHeader_fileBytes guestBase dataBase _ _ _ h 0 _ _ _ _ _ fun write hwrite =>
    List.mem_append_right _ (List.mem_append_left _ hwrite)
  have hsecond :=
      @readProgramHeader_fileBytes guestBase dataBase _ _ _ h 1 _ _ _ _ _ fun write hwrite =>
    List.mem_append_right _ (List.mem_append_right _ (List.mem_append_left _ hwrite))
  rw [hcode] at hfirst
  rw [hmessage] at hsecond
  rw [programHeaderTable, hfields.programHeaderOffset, hfields.programHeaderCount, codeSegment,
    messageSegment, ← hfirst, ← hsecond]
  rfl

section

variable (h : FileLayout pageSize dataOffset code) (hpower : isPowerOfTwo pageSize = true)
  (haligned : pageSize.toNat ∣ guestBase.toNat)
  (hspace : guestBase.toNat + 3 * pageSize.toNat < 2 ^ 64)
  (hsmall : 3 * pageSize.toNat < 2 ^ 31 + 25)
  (hdata : dataBase.toNat = guestBase.toNat + pageSize.toNat)

include h hpower haligned hspace hsmall hdata

/-- The segments are load segments that lie in the file, with addresses that fit their places in it.
-/
theorem acceptedLoad_segments :
    ∀ ph ∈ [codeSegment guestBase pageSize, messageSegment dataBase pageSize dataOffset],
      AcceptedLoad (inputSizeU64 (fileBytes guestBase dataBase pageSize dataOffset code)) ph := by
  have hlarge := h.large
  have hoffset := h.dataOffset
  have hlength := @length_fileBytes guestBase dataBase _ _ _ h
  have hfits : 2 * pageSize.toNat + 16 ≤
      inputSizeU64 (fileBytes guestBase dataBase pageSize dataOffset code) := by
    rw [le_inputSizeU64, hlength]
    omega
  have h48 : (48 : UInt64).toNat = 48 := rfl
  have h16 : (16 : UInt64).toNat = 16 := rfl
  have hpow := isPowerOfTwo_iff.mp hpower
  have hguest : guestBase.toNat % pageSize.toNat = 0 := Nat.mod_eq_zero_of_dvd haligned
  have hself : pageSize.toNat % pageSize.toNat = 0 := Nat.mod_self _
  simp only [List.forall_mem_cons, List.not_mem_nil, false_imp_iff, implies_true, and_true]
  refine ⟨⟨le_rfl, fun _ => ?_, ?_, .inr ⟨hpow, ?_⟩⟩, le_rfl, fun _ => ?_, ?_, .inr ⟨hpow, ?_⟩⟩
  · rw [codeSegment]
    dsimp only
    omega
  · rw [codeSegment]
    dsimp only
    omega
  · rw [codeSegment]
    dsimp only
    rw [hguest, hself]
  · rw [messageSegment]
    dsimp only
    omega
  · rw [messageSegment]
    dsimp only
    omega
  · rw [messageSegment]
    dsimp only
    rw [hdata, hoffset, Nat.add_mod, hguest, hself, Nat.mul_mod_left, Nat.zero_add, Nat.zero_mod]

/-- **The file is accepted**, with its two segments. -/
theorem parseElf64_fileBytes :
    parseElf64 (fileBytes guestBase dataBase pageSize dataOffset code) .generic =
      .ok ⟨readElfHeader (fileBytes guestBase dataBase pageSize dataOffset code),
        [codeSegment guestBase pageSize, messageSegment dataBase pageSize dataOffset]⟩ := by
  have hlarge := h.large
  have hlength := @length_fileBytes guestBase dataBase _ _ _ h
  have hfields := @headerFields_fileBytes guestBase dataBase _ _ _ h
  have htable := @programHeaderTable_fileBytes guestBase dataBase _ _ _ h
  have hloads := acceptedLoad_segments h hpower haligned hspace hsmall hdata
  refine parseElf64_eq_ok_iff.mpr
    ⟨⟨?_, ?_, hfields.version, hfields.machine, .inl hfields.type, ?_, ?_, .inr ⟨?_, ?_, ?_, ?_⟩⟩,
    ?_⟩
  · omega
  · have hmem : ∀ write ∈ writeElfHeader guestBase, write ∈
        writeFile guestBase dataBase pageSize dataOffset code :=
      fun write hwrite => List.mem_append_left _ hwrite
    simp only [writeElfHeader, List.forall_mem_cons] at hmem
    obtain ⟨h0, h1, h2, h3, h4, h5, h6, -⟩ := hmem
    exact (take_seven_iff (by omega) _ _ _ _ _ _ _).mpr ⟨getD_fileBytes h h0, getD_fileBytes h h1,
      getD_fileBytes h h2, getD_fileBytes h h3, getD_fileBytes h h4, getD_fileBytes h h5,
      getD_fileBytes h h6⟩
  · rw [hfields.headerSize]
    rfl
  · rw [hfields.programHeaderCount]
    decide
  · rw [hfields.programHeaderEntrySize]
    rfl
  · rw [hfields.programHeaderOffset, hfields.programHeaderCount, le_inputSizeU64, hlength]
    change 64 + 2 * 56 ≤ _ ∧ 64 + 2 * 56 < _
    omega
  · rw [htable]
    exact fun ph hph _ => hloads ph hph
  · rw [htable]
    have hordered : guestBase.toNat ≤ dataBase.toNat := by omega
    change [guestBase.toNat, dataBase.toNat].IsChain (· ≤ ·)
    exact .cons_cons hordered (.singleton _)
  · rw [htable]

end

end File

end Astraea.Probe
