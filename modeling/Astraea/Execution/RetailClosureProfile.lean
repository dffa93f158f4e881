import Astraea.Loader.GuestImage
import Astraea.Loader.SceDynamicMetadata
import Astraea.Loader.StackReadBack
import Mathlib.Data.List.TakeWhile

/-!
# The retail closure profile

`profile_retail_artifact` builds the image of an artifact only to count what is in it. An image
needs a stack, although nothing will run on it: `choose_retail_analysis_stack` takes the first of
256 places below `0x7fff00000000` at which no load segment lies. It looks at whole segments, before
there are mappings; the loader looks at the mappings, a segment's file bytes and its zero bytes
apart. `chooseRetailAnalysisStack_suits` says that the two agree, and so that an image is never
refused because of a stack that was chosen here.

Host allocation does not fail here, except where the records of the dynamic table are collected.
-/

namespace Astraea.Execution

open Astraea.Base Astraea.Core Astraea.Loader Astraea.Memory

/-- The size of the stack that is tried. -/
def kRetailAnalysisStackSize : UInt64 := 2 * 1024 * 1024

/-- The first place that is tried for the stack. -/
def kRetailAnalysisStackFirstBase : UInt64 := 0x00007fff00000000

/-- The distance from one place to the next. -/
def kRetailAnalysisStackStride : UInt64 := 0x01000000

/-- The number of places that are tried. -/
def kRetailAnalysisStackCandidateCount : ℕ := 256

/-! ### The stack -/

/-- `overlaps_load_segment`. -/
def overlapsLoadSegment (candidate : GuestRange) (elf : ElfImage) : Bool :=
  elf.programHeaders.any fun header =>
    if header.type ≠ kPtLoad ∨ header.memorySize = 0 then false
    else match GuestRange.create ⟨header.virtualAddress⟩ ⟨header.memorySize⟩ with
      | .error _ => true
      | .ok range => candidate.overlaps range

/-- A candidate is taken when no segment is in its way, or when the file is refused: then the
loader reports what is wrong with it. -/
def accepts (parsed : Except ElfError ElfImage) (candidate : GuestRange) : Bool :=
  match parsed with
  | .error _ => true
  | .ok elf => !overlapsLoadSegment candidate elf

/-- How far below the first place the one at `index` is. -/
def candidateDelta (index : ℕ) : UInt64 := UInt64.ofNat index * kRetailAnalysisStackStride

/-- The candidates in the order of the loop, which ends where the difference is too large and
passes over a range that cannot be built. -/
def analysisStackCandidates : List GuestRange :=
  ((List.range kRetailAnalysisStackCandidateCount).takeWhile fun index =>
    decide (¬ candidateDelta index > kRetailAnalysisStackFirstBase)).filterMap fun index =>
      (GuestRange.create ⟨kRetailAnalysisStackFirstBase - candidateDelta index⟩
        ⟨kRetailAnalysisStackSize⟩).toOption

/-- `choose_retail_analysis_stack`. -/
def chooseRetailAnalysisStack (artifact : List UInt8) (profile : ElfParseProfile) :
    Option GuestRange :=
  analysisStackCandidates.find? (accepts (parseElf64 artifact profile))

/-- A request for the image of an artifact on a stack with one argument. -/
def analysisRequest (name : String) (artifact : List UInt8) (stack : GuestRange)
    (profile : ElfParseProfile) :
    GuestImageRequest where
  imageBytes := artifact
  initialStack := ⟨stack, [name.toList.map fun c => UInt8.ofNat c.toNat], [], []⟩
  elfProfile := profile

/-- The request of `profile_retail_artifact`. -/
def profileRequest : List UInt8 → GuestRange → ElfParseProfile → GuestImageRequest :=
  analysisRequest "astraea-retail-profile"

/-- The request of `run_retail_dependency_manifest`. -/
def manifestRequest : List UInt8 → GuestRange → ElfParseProfile → GuestImageRequest :=
  analysisRequest "astraea-manifest"

/-! ### The profile -/

/-- What is counted in an artifact. -/
structure RetailStaticClosureProfile where
  programHeaderCount : UInt64 := 0
  loadSegmentCount : UInt64 := 0
  loadMemoryBytes : UInt64 := 0
  executableLoadSegmentCount : UInt64 := 0
  executableLoadMemoryBytes : UInt64 := 0
  genericNeededCount : UInt64 := 0
  sceNeededModuleCount : UInt64 := 0
  sceImportLibraryCount : UInt64 := 0
  sceUnknownDynamicRecordCount : UInt64 := 0
  dynamicSymbolCount : Option UInt64 := none
  relRelocationCount : UInt64 := 0
  relaRelocationCount : UInt64 := 0
  pltRelocationCount : UInt64 := 0
  totalRelocationCount : UInt64 := 0
  tlsPresent : Bool := false
  tlsInitializedBytes : UInt64 := 0
  tlsTotalBytes : UInt64 := 0
  tlsAlignment : UInt64 := 0
  deriving DecidableEq

/-- Why a profile fails. -/
inductive RetailStaticClosureProfileErrorCode where
  | sceDynamicMetadataFailure
  deriving DecidableEq

/-- A profile that fails, with the error of the tags. -/
structure RetailStaticClosureProfileError where
  code : RetailStaticClosureProfileErrorCode := .sceDynamicMetadataFailure
  sceDynamicMetadataError : Option SceDynamicMetadataError := none
  deriving DecidableEq

/-- Why an artifact cannot be profiled. -/
inductive RetailStaticClosureArtifactErrorCode where
  | planningStackUnavailable
  | guestImageFailure
  | profileFailure
  | hostAllocationFailure
  deriving DecidableEq

/-- An artifact that cannot be profiled. -/
structure RetailStaticClosureArtifactError where
  code : RetailStaticClosureArtifactErrorCode := .planningStackUnavailable
  guestImageError : Option GuestImageError := none
  profileError : Option RetailStaticClosureProfileError := none
  deriving DecidableEq

/-- The program header flag of code. -/
def kPfExecute : UInt32 := 1

/-- `saturating_add`. -/
def saturatingAdd (lhs rhs : UInt64) : UInt64 := if rhs > u64Max - lhs then u64Max else lhs + rhs

/-- The number of relocations of a table, if there is one. -/
def relocationCount (table : Option DynamicRelocationTableDescriptor) : UInt64 :=
  (table.map DynamicRelocationTableDescriptor.count).getD 0

/-- `is_sce_dynamic_namespace`. -/
def isSceDynamicNamespace (tag : Int64) : Bool :=
  if tag < 0 then false else tag.toUInt64 &&& 0xffff0000 == 0x61000000

/-- One turn of the loop over the program headers. -/
def countLoad (profile : RetailStaticClosureProfile) (header : ProgramHeader) :
    RetailStaticClosureProfile :=
  if header.type ≠ kPtLoad then profile
  else
    let loaded := { profile with
      loadSegmentCount := saturatingAdd profile.loadSegmentCount 1
      loadMemoryBytes := saturatingAdd profile.loadMemoryBytes header.memorySize }
    if header.flags &&& kPfExecute ≠ 0 then
      { loaded with
        executableLoadSegmentCount := saturatingAdd profile.executableLoadSegmentCount 1
        executableLoadMemoryBytes :=
          saturatingAdd profile.executableLoadMemoryBytes header.memorySize }
    else loaded

/-- One turn of the loop over the records of the dynamic table. -/
def countSceRecord (profile : RetailStaticClosureProfile) (record : SceDynamicRecord) :
    RetailStaticClosureProfile :=
  match record.kind with
  | .neededModule => { profile with
      sceNeededModuleCount := saturatingAdd profile.sceNeededModuleCount 1 }
  | .importLibrary => { profile with
      sceImportLibraryCount := saturatingAdd profile.sceImportLibraryCount 1 }
  | .unknown =>
    if isSceDynamicNamespace record.rawTag = true then
      { profile with
        sceUnknownDynamicRecordCount := saturatingAdd profile.sceUnknownDynamicRecordCount 1 }
    else profile
  | _ => profile

/-- The records of the dynamic table, when there is one. -/
def sceRecordsOf (host : Host) (table : Option DynamicTable) :
    Except RetailStaticClosureProfileError (List SceDynamicRecord) :=
  match table with
  | none => .ok []
  | some table => do
    let sce ← (buildSceDynamicMetadata host table).mapError fun e =>
      (⟨.sceDynamicMetadataFailure, some e⟩ : RetailStaticClosureProfileError)
    return sce.records

/-- `profile_retail_guest_image`. -/
def profileRetailGuestImage (host : Host) (image : GuestImage) :
    Except RetailStaticClosureProfileError RetailStaticClosureProfile := do
  let loads := image.elf.programHeaders.foldl countLoad
    { programHeaderCount := UInt64.ofNat image.elf.programHeaders.length }
  let needed := { loads with
    genericNeededCount :=
      (image.dynamicStrings.map fun strings => UInt64.ofNat strings.needed.length).getD 0 }
  let records ← sceRecordsOf host image.dynamicTable
  let rel := relocationCount image.generalRelocations.rel
  let rela := relocationCount image.generalRelocations.rela
  let plt := relocationCount image.pltRelocations
  let counted := { records.foldl countSceRecord needed with
    dynamicSymbolCount := image.dynamicSymbols.map DynamicSymbolTableDescriptor.symbolCount
    relRelocationCount := rel
    relaRelocationCount := rela
    pltRelocationCount := plt
    totalRelocationCount := saturatingAdd (saturatingAdd rel rela) plt }
  match image.tls with
  | none => return counted
  | some tls =>
    return { counted with
      tlsPresent := true
      tlsInitializedBytes := tls.initializedSize.value
      tlsTotalBytes := tls.totalSize.value
      tlsAlignment := tls.alignment }

/-- `profile_retail_artifact`. -/
def profileRetailArtifact (host : Host) (artifact : List UInt8) (profile : ElfParseProfile) :
    Except RetailStaticClosureArtifactError RetailStaticClosureProfile := do
  let stack ← orRefuse (chooseRetailAnalysisStack artifact profile)
    ({ code := .planningStackUnavailable } : RetailStaticClosureArtifactError)
  let image ← (buildGuestImage (profileRequest artifact stack profile)).mapError fun e =>
    (⟨.guestImageFailure, some e, none⟩ : RetailStaticClosureArtifactError)
  (profileRetailGuestImage host image).mapError fun e => ⟨.profileFailure, none, some e⟩

/-! ### The candidates -/

/-- The place for a stack at `index`. -/
def candidateStack (index : ℕ) : GuestRange :=
  ⟨⟨UInt64.ofNat (0x7fff00000000 - index * 0x1000000)⟩, ⟨kRetailAnalysisStackSize⟩, by
    have hsize : kRetailAnalysisStackSize.toNat = 0x200000 := rfl
    rw [GuestAddress.toNat_mk, GuestSize.toNat_mk, toNat_ofNat_of_lt (by omega), hsize]
    omega⟩

theorem toNat_candidateStack_base (index : ℕ) :
    (candidateStack index).base.toNat = 0x7fff00000000 - index * 0x1000000 := by
  rw [candidateStack, GuestAddress.toNat_mk, toNat_ofNat_of_lt (by omega)]

theorem toNat_candidateStack_size (index : ℕ) : (candidateStack index).size.toNat = 0x200000 := rfl

/-- A range has an address in common with the memory of a load segment. -/
def SharesAddress (range : GuestRange) (elf : ElfImage) : Prop :=
  ∃ header ∈ loadSegments elf.programHeaders, ∃ x ∈ range, header.virtualAddress.toNat ≤ x ∧
    x < header.virtualAddress.toNat + header.memorySize.toNat

/-- The candidate with the highest base among those that share no address with a load segment. -/
structure FirstFree (elf : ElfImage) (stack : GuestRange) : Prop where
  candidate : ∃ index < kRetailAnalysisStackCandidateCount, stack = candidateStack index
  free : ¬ SharesAddress stack elf
  highest : ∀ index < kRetailAnalysisStackCandidateCount,
    stack.base.toNat < (candidateStack index).base.toNat → SharesAddress (candidateStack index) elf

section Candidates

variable {artifact : List UInt8} {profile : ElfParseProfile} {elf : ElfImage}
  {candidate stack : GuestRange} {index : ℕ}

theorem create_candidateStack (h : index < kRetailAnalysisStackCandidateCount) :
    ¬ candidateDelta index > kRetailAnalysisStackFirstBase ∧
      GuestRange.create ⟨kRetailAnalysisStackFirstBase - candidateDelta index⟩
        ⟨kRetailAnalysisStackSize⟩ =
        .ok (candidateStack index) := by
  have hcount : kRetailAnalysisStackCandidateCount = 256 := rfl
  have hstride : kRetailAnalysisStackStride.toNat = 0x1000000 := rfl
  have hfirst : kRetailAnalysisStackFirstBase.toNat = 0x7fff00000000 := rfl
  have hindex : (UInt64.ofNat index).toNat = index := toNat_ofNat_of_lt (by omega)
  have hdelta : (candidateDelta index).toNat = index * 0x1000000 := by
    rw [candidateDelta, UInt64.toNat_mul, hindex, hstride, Nat.mod_eq_of_lt (by omega)]
  have hle : candidateDelta index ≤ kRetailAnalysisStackFirstBase := by
    rw [UInt64.le_iff_toNat_le, hdelta, hfirst]
    omega
  have hbase : kRetailAnalysisStackFirstBase - candidateDelta index =
      UInt64.ofNat (0x7fff00000000 - index * 0x1000000) := by
    rw [← UInt64.toNat_inj, UInt64.toNat_sub_of_le _ _ hle, hdelta, hfirst,
      toNat_ofNat_of_lt (by omega)]
  refine ⟨UInt64.not_lt.mpr hle, ?_⟩
  rw [hbase]
  exact GuestRange.create_of_le (candidateStack index).noWrap

/-- None of the 256 is too far below, and none is no range. -/
theorem analysisStackCandidates_eq :
    analysisStackCandidates =
      (List.range kRetailAnalysisStackCandidateCount).map candidateStack := by
  have hall : (List.range kRetailAnalysisStackCandidateCount).takeWhile (fun index =>
      decide (¬ candidateDelta index > kRetailAnalysisStackFirstBase)) =
        List.range kRetailAnalysisStackCandidateCount := by
    rw [List.takeWhile_eq_self_iff]
    intro index hindex
    exact decide_eq_true (create_candidateStack (List.mem_range.mp hindex)).1
  rw [analysisStackCandidates, hall, ← List.filterMap_eq_map]
  refine List.filterMap_congr fun index hindex => ?_
  rw [(create_candidateStack (List.mem_range.mp hindex)).2]
  rfl

theorem chooseRetailAnalysisStack_eq (artifact : List UInt8) (profile : ElfParseProfile) :
    chooseRetailAnalysisStack artifact profile =
      ((List.range kRetailAnalysisStackCandidateCount).find? fun index =>
        accepts (parseElf64 artifact profile) (candidateStack index)).map candidateStack := by
  rw [chooseRetailAnalysisStack, analysisStackCandidates_eq, List.find?_map]
  rfl

theorem exists_index_of_choose (h : chooseRetailAnalysisStack artifact profile = some stack) :
    ∃ index < kRetailAnalysisStackCandidateCount, stack = candidateStack index ∧
      accepts (parseElf64 artifact profile) stack = true := by
  rw [chooseRetailAnalysisStack_eq, Option.map_eq_some_iff] at h
  obtain ⟨index, hindex, rfl⟩ := h
  rw [List.find?_range_eq_some] at hindex
  exact ⟨index, List.mem_range.mp hindex.2.1, rfl, hindex.1⟩

section

variable (helf : parseElf64 artifact profile = .ok elf)

include helf

/-- The test against whole segments finds the addresses in common. -/
theorem overlapsLoadSegment_iff :
    overlapsLoadSegment candidate elf = true ↔ SharesAddress candidate elf := by
  rw [overlapsLoadSegment, List.any_eq_true, SharesAddress]
  refine exists_congr fun header => ?_
  rw [mem_loadSegments, and_assoc]
  refine and_congr_right fun hmem => ?_
  split_ifs with hskip
  · simp only [false_iff, not_and, not_exists]
    intro htype x _ hlow hhigh
    rcases hskip with hskip | hzero
    · exact hskip htype
    · rw [hzero, UInt64.toNat_zero] at hhigh
      omega
  · rw [not_or, not_not] at hskip
    have hload : (GuestAddress.mk header.virtualAddress).toNat +
        (GuestSize.mk header.memorySize).toNat ≤ 2 ^ 64 :=
      (parseElf64_load helf header hmem hskip.1).memory
    rw [GuestRange.create_of_le hload, and_iff_right hskip.1]
    exact GuestRange.overlaps_iff

theorem accepts_iff :
    accepts (parseElf64 artifact profile) candidate = true ↔ ¬ SharesAddress candidate elf := by
  rw [helf, accepts, Bool.not_eq_true', ← Bool.not_eq_true, overlapsLoadSegment_iff helf]

/-- There is no stack where every candidate is in the way of a segment. -/
theorem choose_eq_none_iff :
    chooseRetailAnalysisStack artifact profile = none ↔
      ∀ index < kRetailAnalysisStackCandidateCount, SharesAddress (candidateStack index) elf := by
  rw [chooseRetailAnalysisStack_eq, Option.map_eq_none_iff, List.find?_range_eq_none]
  refine forall₂_congr fun index _ => ?_
  rw [Bool.not_eq_true', ← Bool.not_eq_true, accepts_iff helf, not_not]

theorem choose_eq_some_iff :
    chooseRetailAnalysisStack artifact profile = some stack ↔ FirstFree elf stack := by
  have hcount : kRetailAnalysisStackCandidateCount = 256 := rfl
  have hbefore : ∀ {index earlier : ℕ}, index < kRetailAnalysisStackCandidateCount →
      earlier < kRetailAnalysisStackCandidateCount →
        ((candidateStack index).base.toNat < (candidateStack earlier).base.toNat ↔
          earlier < index) := by
    intro index earlier hindex hearlier
    rw [toNat_candidateStack_base, toNat_candidateStack_base]
    omega
  rw [chooseRetailAnalysisStack_eq, Option.map_eq_some_iff]
  simp only [List.find?_range_eq_some, List.mem_range, Bool.not_eq_true',
    ← Bool.not_eq_true (accepts _ _), accepts_iff helf, not_not]
  constructor
  · rintro ⟨index, ⟨hfree, hindex, hearlier⟩, rfl⟩
    exact ⟨⟨index, hindex, rfl⟩, hfree,
      fun earlier hlt hbase => hearlier earlier ((hbefore hindex hlt).mp hbase)⟩
  · rintro ⟨⟨index, hindex, rfl⟩, hfree, hhighest⟩
    refine ⟨index, ⟨hfree, hindex, fun earlier hlt => ?_⟩, rfl⟩
    exact hhighest earlier (hlt.trans hindex) ((hbefore hindex (hlt.trans hindex)).mpr hlt)

end

end Candidates

/-! ### What the loader makes of it -/

section Image

variable {artifact : List UInt8} {profile : ElfParseProfile} {elf : ElfImage} {storage : GuestRange}
  {request : InitialStackRequest}

theorem mem_segment_of_intentOf {header : ProgramHeader} {intent : MappingIntent} {inputSize x : ℕ}
    (hload : LoadSegment inputSize header) (hof : IntentOf header intent) (hx : x ∈ intent.range) :
    header.virtualAddress.toNat ≤ x ∧
    x < header.virtualAddress.toNat + header.memorySize.toNat := by
  have hsizes := hload.sizes
  rw [GuestRange.mem_def, GuestRange.last] at hx
  cases hof with
  | file hbase hsize hpos =>
    rw [hbase, hsize, GuestSize.toNat_mk] at hx
    omega
  | zeroFill hbase hsize hpos =>
    rw [hbase, hsize] at hx
    omega

/-- A stack away from the segments is away from the mappings. -/
theorem firstStackOverlap_of_free (helf : parseElf64 artifact profile = .ok elf)
    {collected : List MappingIntent}
    (hcollected : collectMappings elf.programHeaders = .ok collected)
    (hfree : ¬ SharesAddress storage elf) :
    firstStackOverlap storage (sortIntents collected) = none := by
  rw [firstStackOverlap, Option.map_eq_none_iff, List.find?_eq_none]
  intro intent hintent hover
  rw [mem_sortIntents, mem_collectMappings hcollected] at hintent
  obtain ⟨header, hheader, hof⟩ := hintent
  obtain ⟨x, hstorage, hx⟩ := GuestRange.overlaps_iff.mp hover
  obtain ⟨hmem, htype⟩ := mem_loadSegments.mp hheader
  exact hfree ⟨header, hheader, x,
    hstorage, mem_segment_of_intentOf (parseElf64_load helf header hmem htype) hof hx⟩

/-- A stack is built where there is room from its first byte on. -/
theorem exists_buildInitialStack (hmemory : RequestInMemory request) (hvalid : InputsValid request)
    (haligned : request.storage.base.toNat % 16 = 0) (hsmall : request.storage.size.toNat < 2 ^ 63)
    (hroom : 8 * controlWordCount request +
      (stringBytes request.arguments + stringBytes request.environment) ≤
      request.storage.size.toNat) : ∃ stack, buildInitialStack request = .ok stack := by
  have hfits : HasRoom request :=
    ⟨request.storage.base.toNat, haligned, le_rfl, Nat.add_le_add_left hroom _⟩
  rcases buildInitialStack_cases hmemory
    with ⟨stack, -, hbuild, -⟩ | ⟨-, -, hlarge⟩ | ⟨-, -, hnone⟩ | ⟨-, -, -, hinvalid⟩
  · exact ⟨stack, hbuild⟩
  · omega
  · exact absurd hfits hnone
  · exact absurd hvalid hinvalid

/-- The stack of an analysis is built at every candidate. -/
theorem exists_analysisStack {name : List UInt8} (hname : name.length < 2 ^ 16)
    (hnul : Loader.containsNul name = false) {index : ℕ}
    (hindex : index < kRetailAnalysisStackCandidateCount) :
    ∃ stack, buildInitialStack ⟨candidateStack index, [name], [], []⟩ = .ok stack := by
  have hcount : kRetailAnalysisStackCandidateCount = 256 := rfl
  have hbytes : stringBytes [name] = name.length + 1 := rfl
  have hnone : stringBytes [] = 0 := rfl
  refine exists_buildInitialStack ⟨?_, ?_, ?_, ?_⟩ ⟨?_, ?_, ?_⟩ ?_ ?_ ?_
  · simp
  · simp
  · simp
  · dsimp only
    rw [hbytes, hnone]
    omega
  · simpa using hnul
  · simp
  · simp
  · rw [toNat_candidateStack_base]
    omega
  · rw [toNat_candidateStack_size]
    omega
  · rw [toNat_candidateStack_size, hbytes, hnone, controlWordCount]
    simp only [List.length_cons, List.length_nil]
    omega

/-- The loader has nothing to say against a stack that was chosen. -/
theorem not_stackRefusal {name : String} {stack : GuestRange} {e : GuestImageError}
    (hname : (name.toList.map fun c => UInt8.ofNat c.toNat).length < 2 ^ 16)
    (hnul : Loader.containsNul (name.toList.map fun c => UInt8.ofNat c.toNat) = false)
    (hchoose : chooseRetailAnalysisStack artifact profile = some stack)
    (h : buildGuestImage (analysisRequest name artifact stack profile) = .error e) :
    e.code ≠ .initialStackOverlapsLoadMapping ∧ e.code ≠ .initialStackFailure := by
  obtain ⟨index, hindex, rfl, haccepts⟩ := exists_index_of_choose hchoose
  rw [← not_or]
  intro hcode
  rcases stackRefusal_of_buildGuestImage h hcode
    with ⟨elf, collected, helf, hcollected, hoverlap⟩ | ⟨cause, hcause⟩
  · exact hoverlap (firstStackOverlap_of_free helf hcollected ((accepts_iff helf).mp haccepts))
  · obtain ⟨stack, hstack⟩ := exists_analysisStack hname hnul hindex
    cases hstack.symm.trans hcause

end Image

/-! ### The main results -/

/-- **An analysis has the right stack.** An image on a stack that was chosen is not refused because
of its stack. For a file that the parser accepts the choice is the first candidate away from
every load segment, and there is none only where every candidate meets a segment. -/
theorem chooseRetailAnalysisStack_suits (artifact : List UInt8) (profile : ElfParseProfile) :
    (∀ stack, chooseRetailAnalysisStack artifact profile = some stack →
      ∀ request ∈ [profileRequest artifact stack profile, manifestRequest artifact stack profile],
        ∀ e, buildGuestImage request = .error e →
          e.code ≠ .initialStackOverlapsLoadMapping ∧ e.code ≠ .initialStackFailure) ∧
      ∀ elf, parseElf64 artifact profile = .ok elf →
        (chooseRetailAnalysisStack artifact profile = none ↔
          ∀ index < kRetailAnalysisStackCandidateCount, SharesAddress (candidateStack index) elf) ∧
        ∀ stack, chooseRetailAnalysisStack artifact profile = some stack ↔ FirstFree elf stack := by
  refine ⟨fun stack hchoose request hrequest e he => ?_, fun elf helf =>
    ⟨choose_eq_none_iff helf, fun stack => ?_⟩⟩
  · rw [List.mem_pair] at hrequest
    rcases hrequest with rfl | rfl
    · exact not_stackRefusal (by decide) (by decide) hchoose he
    · exact not_stackRefusal (by decide) (by decide) hchoose he
  · exact choose_eq_some_iff helf

/-- **The profile of an artifact is never refused because of its stack**, except where there is no
place for one. -/
theorem profileRetailArtifact_refusals {host : Host} {artifact : List UInt8}
    {profile : ElfParseProfile} {e : RetailStaticClosureArtifactError}
    (h : profileRetailArtifact host artifact profile = .error e) :
    (e = { code := .planningStackUnavailable } ∧ ∃ elf, parseElf64 artifact profile = .ok elf ∧
        ∀ index < kRetailAnalysisStackCandidateCount, SharesAddress (candidateStack index) elf) ∨
      (∃ cause, e = ⟨.guestImageFailure, some cause, none⟩ ∧
        cause.code ≠ .initialStackOverlapsLoadMapping ∧ cause.code ≠ .initialStackFailure) ∨
      ∃ cause, e = ⟨.profileFailure, none, some cause⟩ := by
  simp only [profileRetailArtifact, bind_eq_error, orRefuse_eq_error, orRefuse_eq_ok,
    mapError_eq_error, mapError_eq_ok] at h
  rcases h with ⟨hnone, rfl⟩ | ⟨stack, hchoose, ⟨cause, hcause, rfl⟩ | ⟨image, -, cause, -, rfl⟩⟩
  · refine .inl ⟨rfl, ?_⟩
    cases helf : parseElf64 artifact profile with
    | error e =>
      rw [chooseRetailAnalysisStack_eq, helf] at hnone
      cases hnone
    | ok elf => exact ⟨elf, rfl, (choose_eq_none_iff helf).mp hnone⟩
  · exact .inr (.inl ⟨cause, rfl, not_stackRefusal (by decide) (by decide) hchoose hcause⟩)
  · exact .inr (.inr ⟨cause, rfl⟩)

end Astraea.Execution
