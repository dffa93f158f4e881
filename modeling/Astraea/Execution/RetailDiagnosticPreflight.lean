import Astraea.Execution.RetailClosureProfile

/-!
# The preflight of the retail diagnostic

`preflight_linux_retail_diagnostic` builds the image of an artifact and tells the first thing that
keeps it from being entered: the loader, an entry that is no code, dynamic metadata, modules it
depends on, relocations, thread-local storage. What it counts, `profile_retail_guest_image` counts
too, in its own way; `preflight_agrees_with_profile` says that the two never tell different things
about an artifact.
-/

namespace Astraea.Execution

open Astraea.Base Astraea.Core Astraea.Loader Astraea.Memory

/-- What keeps an artifact from being entered. -/
inductive LinuxRetailDiagnosticPreflightBoundaryKind where
  | loaderRejected
  | entryNotExecutable
  | sceDynamicMetadataRejected
  | unsupportedDynamicDependencies
  | unsupportedRelocations
  | unsupportedTls
  | readyForNativeEntry
  deriving DecidableEq

/-- An artifact and the stack it is looked at with. -/
structure LinuxRetailDiagnosticPreflightRequest where
  artifactBytes : List UInt8
  stackStorage : GuestRange
  arguments : List (List UInt8)
  environment : List (List UInt8)
  auxiliaryVector : List AuxiliaryVectorEntry

/-- What the preflight says of an artifact. -/
structure LinuxRetailDiagnosticPreflight where
  boundary : LinuxRetailDiagnosticPreflightBoundaryKind
  loaderError : Option GuestImageError := none
  sceDynamicMetadataError : Option SceDynamicMetadataError := none
  dynamicDependencyCount : UInt64 := 0
  relocationCount : UInt64 := 0
  image : Option GuestImage := none
  deriving DecidableEq

/-! ### What is looked at -/

/-- `entry_is_executable`. -/
def entryIsExecutable (image : GuestImage) : Bool :=
  image.mappings.any fun mapping =>
    mapping.range.contains ⟨image.elf.header.entry⟩ && mapping.permissions.has .execute

/-- `generic_dynamic_dependency_count`. -/
def genericDynamicDependencyCount (image : GuestImage) : UInt64 :=
  match image.dynamicStrings with
  | none => 0
  | some strings => UInt64.ofNat strings.needed.length

/-- The lambda `add` of `relocation_count`. -/
def addRelocations (count : UInt64) : Option DynamicRelocationTableDescriptor → UInt64
  | none => count
  | some descriptor =>
    if descriptor.count > u64Max - count then u64Max else count + descriptor.count

/-- `relocation_count`, over the three tables of an image. -/
def imageRelocationCount (image : GuestImage) : UInt64 :=
  [image.generalRelocations.rel, image.generalRelocations.rela, image.pltRelocations].foldl
    addRelocations 0

/-- One turn of the loop over the records of the dynamic table. -/
def countDependency (dependencies : UInt64) (record : SceDynamicRecord) : UInt64 :=
  if record.kind = .neededModule ∨ record.kind = .importLibrary then
    if dependencies ≠ u64Max then dependencies + 1 else dependencies
  else dependencies

/-- The dependencies of an image, those of its dynamic table behind the generic ones. -/
def dependencyCount (host : Host) (image : GuestImage) : Except SceDynamicMetadataError UInt64 :=
  match image.dynamicTable with
  | none => .ok (genericDynamicDependencyCount image)
  | some table => do
    let sce ← buildSceDynamicMetadata host table
    return sce.records.foldl countDependency (genericDynamicDependencyCount image)

/-- What is told of an image. -/
def preflightImage (host : Host) (image : GuestImage) : LinuxRetailDiagnosticPreflight :=
  if entryIsExecutable image = false then { boundary := .entryNotExecutable, image := some image }
  else match dependencyCount host image with
  | .error e =>
    { boundary := .sceDynamicMetadataRejected, sceDynamicMetadataError := some e,
      image := some image }
  | .ok dependencies =>
    if dependencies ≠ 0 then
      { boundary := .unsupportedDynamicDependencies, dynamicDependencyCount := dependencies,
        image := some image }
    else if imageRelocationCount image ≠ 0 then
      { boundary := .unsupportedRelocations, relocationCount := imageRelocationCount image,
        image := some image }
    else if image.tls.isSome = true then { boundary := .unsupportedTls, image := some image }
    else { boundary := .readyForNativeEntry, image := some image }

/-- The request for the image. -/
def preflightImageRequest (request : LinuxRetailDiagnosticPreflightRequest) :
    GuestImageRequest where
  imageBytes := request.artifactBytes
  initialStack :=
    ⟨request.stackStorage, request.arguments, request.environment, request.auxiliaryVector⟩
  elfProfile := .ps5Sce

/-- `preflight_linux_retail_diagnostic`. -/
def preflightLinuxRetailDiagnostic (host : Host) (request : LinuxRetailDiagnosticPreflightRequest) :
    LinuxRetailDiagnosticPreflight :=
  match buildGuestImage (preflightImageRequest request) with
  | .error e => { boundary := .loaderRejected, loaderError := some e }
  | .ok image => preflightImage host image

/-! ### Saturating counts -/

theorem toNat_saturatingAdd (lhs rhs : UInt64) :
    (saturatingAdd lhs rhs).toNat = min (lhs.toNat + rhs.toNat) (2 ^ 64 - 1) := by
  unfold saturatingAdd
  split_ifs with h
  · rw [gt_u64Max_sub_iff] at h
    rw [toNat_u64Max]
    omega
  · rw [gt_u64Max_sub_iff] at h
    rw [UInt64.toNat_add, Nat.mod_eq_of_lt (by omega)]
    omega

/-- A loop that counts some of its records, up to the greatest number. -/
theorem toNat_foldl_saturating {σ τ : Type} {step : σ → τ → σ} {count : σ → UInt64}
    {counts : τ → Bool}
    (hstep : ∀ state record, count (step state record) =
      if counts record = true then saturatingAdd (count state) 1 else count state) (state : σ)
        (records : List τ) :
    (count (records.foldl step state)).toNat =
      min ((count state).toNat + records.countP counts) (2 ^ 64 - 1) := by
  induction records generalizing state with
  | nil =>
    have hlt := (count state).toNat_lt
    rw [List.foldl_nil, List.countP_nil]
    omega
  | cons record records ih =>
    have hone : (1 : UInt64).toNat = 1 := rfl
    rw [List.foldl_cons, ih, hstep, List.countP_cons]
    split_ifs with hcounts
    · rw [toNat_saturatingAdd, hone]
      omega
    · rfl

theorem foldl_keeps {σ τ β : Type} {step : σ → τ → σ} {field : σ → β}
    (hstep : ∀ state record, field (step state record) = field state) (state : σ)
    (records : List τ) :
    field (records.foldl step state) = field state := by
  induction records generalizing state with
  | nil => rfl
  | cons record records ih => rw [List.foldl_cons, ih, hstep]

/-- A record that the preflight counts. -/
def isDependency (record : SceDynamicRecord) : Bool :=
  record.kind == .neededModule || record.kind == .importLibrary

theorem countDependency_eq (count : UInt64) (record : SceDynamicRecord) :
    countDependency count record = if isDependency record = true then saturatingAdd count 1
      else count := by
  have hdependency : isDependency record = true ↔
      record.kind = .neededModule ∨ record.kind = .importLibrary := by
    simp [isDependency]
  rw [countDependency]
  by_cases hkind : record.kind = .neededModule ∨ record.kind = .importLibrary
  · rw [if_pos hkind, if_pos (hdependency.mpr hkind), ← UInt64.toNat_inj, toNat_saturatingAdd]
    have hone : (1 : UInt64).toNat = 1 := rfl
    have hlt := count.toNat_lt
    split_ifs with hmax
    · have hnext := toNat_succ_of_ne_u64Max hmax
      have hbound := (count + 1).toNat_lt
      omega
    · rw [not_not.mp hmax, toNat_u64Max]
      rfl
  · rw [if_neg hkind, if_neg fun h => hkind (hdependency.mp h)]

section

variable (profile : RetailStaticClosureProfile) (record : SceDynamicRecord)

theorem sceNeededModuleCount_countSceRecord :
    (countSceRecord profile record).sceNeededModuleCount =
      if (record.kind == .neededModule) = true then saturatingAdd profile.sceNeededModuleCount 1
      else profile.sceNeededModuleCount := by
  by_cases hkind : record.kind = .neededModule
  · simp only [countSceRecord, hkind, beq_self_eq_true, if_true]
  · rw [if_neg (by simpa using hkind)]
    unfold countSceRecord
    split
    · exact absurd ‹record.kind = .neededModule› hkind
    · rfl
    · split_ifs <;> rfl
    · rfl

theorem sceImportLibraryCount_countSceRecord :
    (countSceRecord profile record).sceImportLibraryCount =
      if (record.kind == .importLibrary) = true then saturatingAdd profile.sceImportLibraryCount 1
      else profile.sceImportLibraryCount := by
  by_cases hkind : record.kind = .importLibrary
  · simp only [countSceRecord, hkind, beq_self_eq_true, if_true]
  · rw [if_neg (by simpa using hkind)]
    unfold countSceRecord
    split
    · rfl
    · exact absurd ‹record.kind = .importLibrary› hkind
    · split_ifs <;> rfl
    · rfl

theorem countSceRecord_keeps :
    (countSceRecord profile record).genericNeededCount = profile.genericNeededCount ∧
      (countSceRecord profile record).tlsPresent = profile.tlsPresent := by
  unfold countSceRecord
  split
  · exact ⟨rfl, rfl⟩
  · exact ⟨rfl, rfl⟩
  · split_ifs <;> exact ⟨rfl, rfl⟩
  · exact ⟨rfl, rfl⟩

end

theorem countLoad_keeps (profile : RetailStaticClosureProfile) (header : ProgramHeader) :
    (countLoad profile header).sceNeededModuleCount = profile.sceNeededModuleCount ∧
      (countLoad profile header).sceImportLibraryCount = profile.sceImportLibraryCount ∧
      (countLoad profile header).tlsPresent = profile.tlsPresent := by
  unfold countLoad
  split_ifs <;> exact ⟨rfl, rfl, rfl⟩

theorem countP_isDependency (records : List SceDynamicRecord) :
    records.countP isDependency = (records.countP fun record => record.kind == .neededModule) +
      records.countP fun record => record.kind == .importLibrary := by
  induction records with
  | nil => rfl
  | cons record records ih =>
    have hone : (if isDependency record = true then 1 else 0) =
      (if (record.kind == .neededModule) = true then 1 else 0) +
        if (record.kind == .importLibrary) = true then 1 else 0 := by
      rw [isDependency]
      cases record.kind <;> rfl
    rw [List.countP_cons, List.countP_cons, List.countP_cons, ih, hone]
    omega

/-! ### The preflight and the profile -/

/-- The request of `run_linux_retail_diagnostic_worker`. -/
def retailDiagnosticRequest (artifact : List UInt8) (stack : GuestRange) :
    LinuxRetailDiagnosticPreflightRequest where
  artifactBytes := artifact
  stackStorage := stack
  arguments := ["astraea-retail-diagnostic".toList.map fun c => UInt8.ofNat c.toNat]
  environment := []
  auxiliaryVector := []

/-- What a profile foretells of the preflight, once it is known if the entry is code. -/
def foretell (executable : Bool) :
    Except RetailStaticClosureArtifactError RetailStaticClosureProfile →
    LinuxRetailDiagnosticPreflight
  | .error e =>
    match e.profileError with
    | none => { boundary := .loaderRejected, loaderError := e.guestImageError }
    | some profileError =>
      if executable = false then { boundary := .entryNotExecutable }
      else
        { boundary := .sceDynamicMetadataRejected,
          sceDynamicMetadataError := profileError.sceDynamicMetadataError }
  | .ok profile =>
    let dependencies := profile.genericNeededCount.toNat + profile.sceNeededModuleCount.toNat +
      profile.sceImportLibraryCount.toNat
    if executable = false then { boundary := .entryNotExecutable }
    else if dependencies ≠ 0 then
      { boundary := .unsupportedDynamicDependencies, dynamicDependencyCount := UInt64.ofNat (min
        dependencies (2 ^ 64 - 1)) }
    else if profile.totalRelocationCount ≠ 0 then
      { boundary := .unsupportedRelocations, relocationCount := profile.totalRelocationCount }
    else if profile.tlsPresent = true then { boundary := .unsupportedTls }
    else { boundary := .readyForNativeEntry }

section Agreement

variable {host : Host} {image : GuestImage}

/-- The loader looks at the stack last: two requests that differ in what is on the stack have images
that do. -/
theorem buildGuestImage_of_stack {request request' : GuestImageRequest}
    {stack stack' : InitialStackImage} (hbytes : request'.imageBytes = request.imageBytes)
    (hprofile : request'.elfProfile = request.elfProfile)
    (hstorage : request'.initialStack.storage = request.initialStack.storage)
    (hstack : buildInitialStack request.initialStack = .ok stack)
    (hstack' : buildInitialStack request'.initialStack = .ok stack') :
    buildGuestImage request' =
      (fun image => { image with initialStack := stack' }) <$> buildGuestImage request := by
  simp only [buildGuestImage, hbytes, hprofile, hstorage, hstack, hstack', map_bind, mapError_ok,
    ok_bind, map_pure]

theorem saturatingAdd_zero (value : UInt64) : saturatingAdd value 0 = value := by
  rw [← UInt64.toNat_inj, toNat_saturatingAdd, UInt64.toNat_zero, Nat.add_zero]
  have hlt := value.toNat_lt
  omega

theorem zero_saturatingAdd (value : UInt64) : saturatingAdd 0 value = value := by
  rw [← UInt64.toNat_inj, toNat_saturatingAdd, UInt64.toNat_zero, Nat.zero_add]
  have hlt := value.toNat_lt
  omega

theorem addRelocations_eq (count : UInt64) (table : Option DynamicRelocationTableDescriptor) :
    addRelocations count table = saturatingAdd count (relocationCount table) := by
  cases table with
  | none => exact (saturatingAdd_zero count).symm
  | some descriptor => rfl

theorem imageRelocationCount_eq (image : GuestImage) :
    imageRelocationCount image =
      saturatingAdd (saturatingAdd (relocationCount image.generalRelocations.rel)
      (relocationCount image.generalRelocations.rela)) (relocationCount image.pltRelocations) := by
  rw [imageRelocationCount, List.foldl_cons, List.foldl_cons, List.foldl_cons, List.foldl_nil,
    addRelocations_eq, addRelocations_eq, addRelocations_eq, zero_saturatingAdd]

/-- What the loop over the records starts with. -/
def countedLoads (image : GuestImage) : RetailStaticClosureProfile :=
  { image.elf.programHeaders.foldl countLoad
    { programHeaderCount := UInt64.ofNat image.elf.programHeaders.length }
    with genericNeededCount :=
    (image.dynamicStrings.map fun strings => UInt64.ofNat strings.needed.length).getD 0 }

/-- The loop over the program headers counts no dependency. -/
theorem countedLoads_fields (image : GuestImage) :
    (countedLoads image).genericNeededCount = genericDynamicDependencyCount image ∧
      (countedLoads image).sceNeededModuleCount = 0 ∧
      (countedLoads image).sceImportLibraryCount = 0 ∧
      (countedLoads image).tlsPresent = false := by
  refine ⟨?_, ?_, ?_, ?_⟩
  · unfold countedLoads genericDynamicDependencyCount
    cases image.dynamicStrings <;> rfl
  · exact foldl_keeps (fun profile header => (countLoad_keeps profile header).1) _ _
  · exact foldl_keeps (fun profile header => (countLoad_keeps profile header).2.1) _ _
  · exact foldl_keeps (fun profile header => (countLoad_keeps profile header).2.2) _ _

/-- What the profile says about dependencies, relocations and thread-local storage. -/
theorem profileRetailGuestImage_counts {profile : RetailStaticClosureProfile}
    (h : profileRetailGuestImage host image = .ok profile) :
    ∃ records, sceRecordsOf host image.dynamicTable = .ok records ∧
      profile.genericNeededCount =
        (records.foldl countSceRecord (countedLoads image)).genericNeededCount ∧
      profile.sceNeededModuleCount =
        (records.foldl countSceRecord (countedLoads image)).sceNeededModuleCount ∧
      profile.sceImportLibraryCount =
        (records.foldl countSceRecord (countedLoads image)).sceImportLibraryCount ∧
      profile.totalRelocationCount = imageRelocationCount image ∧
      profile.tlsPresent = image.tls.isSome := by
  obtain ⟨records, hrecords, h⟩ := bind_eq_ok.mp h
  have hnone : (records.foldl countSceRecord (countedLoads image)).tlsPresent = false :=
    (foldl_keeps (fun profile record => (countSceRecord_keeps profile record).2) _ _).trans
      (countedLoads_fields image).2.2.2
  rw [imageRelocationCount_eq]
  cases htls : image.tls with
  | none =>
    rw [htls] at h
    cases h
    exact ⟨records, hrecords, rfl, rfl, rfl, rfl, hnone⟩
  | some tls =>
    rw [htls] at h
    cases h
    exact ⟨records, hrecords, rfl, rfl, rfl, rfl, rfl⟩

theorem dependencyCount_of_records {records : List SceDynamicRecord}
    (h : sceRecordsOf host image.dynamicTable = .ok records) :
    dependencyCount host image =
      .ok (records.foldl countDependency (genericDynamicDependencyCount image)) := by
  unfold dependencyCount
  unfold sceRecordsOf at h
  cases htable : image.dynamicTable with
  | none =>
    rw [htable] at h
    cases h
    rfl
  | some table =>
    rw [htable] at h
    simp only [bind_eq_ok, mapError_eq_ok, pure_eq_ok] at h
    obtain ⟨sce, hsce, rfl⟩ := h
    simp only [hsce, ok_bind]
    rfl

theorem dependencyCount_of_profile_error {e : RetailStaticClosureProfileError}
    (h : profileRetailGuestImage host image = .error e) :
    ∃ cause, dependencyCount host image = .error cause ∧
      e = { sceDynamicMetadataError := some cause } := by
  rcases bind_eq_error.mp h with hrecords | ⟨records, -, h⟩
  · unfold sceRecordsOf at hrecords
    cases htable : image.dynamicTable with
    | none =>
      rw [htable] at hrecords
      cases hrecords
    | some table =>
      rw [htable] at hrecords
      simp only [bind_eq_error, mapError_eq_error, pure_ne_error, and_false, exists_false, or_false]
        at hrecords
      obtain ⟨cause, hcause, rfl⟩ := hrecords
      refine ⟨cause, ?_, rfl⟩
      unfold dependencyCount
      rw [htable]
      simp only [hcause]
      rfl
  · cases htls : image.tls with
    | none =>
      rw [htls] at h
      cases h
    | some tls =>
      rw [htls] at h
      cases h

/-- What the profile counts are the dependencies of the preflight. -/
theorem dependencyCount_of_profile {profile : RetailStaticClosureProfile}
    (h : profileRetailGuestImage host image = .ok profile) :
    ∃ dependencies, dependencyCount host image = .ok dependencies ∧
      dependencies.toNat = min (profile.genericNeededCount.toNat +
        profile.sceNeededModuleCount.toNat + profile.sceImportLibraryCount.toNat) (2 ^ 64 - 1) := by
  obtain ⟨records, hrecords, hgeneric, hmodules, hlibraries, -, -⟩ :=
    profileRetailGuestImage_counts h
  obtain ⟨hstart, hnoModule, hnoLibrary, -⟩ := countedLoads_fields image
  refine ⟨_, dependencyCount_of_records hrecords, ?_⟩
  have hkept : (records.foldl countSceRecord (countedLoads image)).genericNeededCount =
      genericDynamicDependencyCount image :=
    (foldl_keeps (fun profile record => (countSceRecord_keeps profile record).1) _ _).trans hstart
  have hall : (records.foldl countDependency (genericDynamicDependencyCount image)).toNat =
      min ((genericDynamicDependencyCount image).toNat + records.countP isDependency)
        (2 ^ 64 - 1) :=
    @toNat_foldl_saturating _ _ countDependency id isDependency countDependency_eq _ records
  have hmodule :=
    toNat_foldl_saturating sceNeededModuleCount_countSceRecord (countedLoads image) records
  have hlibrary :=
    toNat_foldl_saturating sceImportLibraryCount_countSceRecord (countedLoads image) records
  rw [hnoModule, UInt64.toNat_zero] at hmodule
  rw [hnoLibrary, UInt64.toNat_zero] at hlibrary
  rw [countP_isDependency] at hall
  rw [hgeneric, hmodules, hlibraries, hkept, hmodule, hlibrary]
  omega

theorem preflightImage_eq_foretell (host : Host) (image : GuestImage) :
    { preflightImage host image with image := none } = foretell (entryIsExecutable image)
      ((profileRetailGuestImage host image).mapError fun e =>
        (⟨.profileFailure, none, some e⟩ : RetailStaticClosureArtifactError)) := by
  cases hprofile : profileRetailGuestImage host image with
  | error e =>
    obtain ⟨cause, hcount, rfl⟩ := dependencyCount_of_profile_error hprofile
    rw [preflightImage, hcount]
    simp only [Except.mapError, foretell]
    split_ifs <;> rfl
  | ok profile =>
    obtain ⟨dependencies, hcount, hsum⟩ := dependencyCount_of_profile hprofile
    obtain ⟨records, -, -, -, -, hrelocations, htls⟩ := profileRetailGuestImage_counts hprofile
    have hzero : dependencies ≠ 0 ↔
      profile.genericNeededCount.toNat + profile.sceNeededModuleCount.toNat +
        profile.sceImportLibraryCount.toNat ≠ 0 := by
      rw [Ne, ← UInt64.toNat_inj, hsum, UInt64.toNat_zero]
      omega
    have hvalue : UInt64.ofNat
        (min (profile.genericNeededCount.toNat + profile.sceNeededModuleCount.toNat +
        profile.sceImportLibraryCount.toNat) (2 ^ 64 - 1)) = dependencies := by
      rw [← hsum, UInt64.ofNat_toNat]
    rw [preflightImage, hcount]
    simp only [mapError_ok, foretell, hzero, hvalue, ← hrelocations, ← htls]
    split_ifs <;> rfl

theorem image_preflightImage (host : Host) (image : GuestImage) :
    (preflightImage host image).image = some image := by
  unfold preflightImage
  cases dependencyCount host image with
  | error e =>
    dsimp only
    split_ifs <;> rfl
  | ok dependencies =>
    dsimp only
    split_ifs <;> rfl

/-- **The preflight and the profile agree** on every artifact that there is a stack for: the
boundary is the one the profile foretells, with its counts and with the errors it would have. -/
theorem preflight_agrees_with_profile (host : Host) {artifact : List UInt8} {stack : GuestRange}
    (hchoose : chooseRetailAnalysisStack artifact .ps5Sce = some stack) :
    { preflightLinuxRetailDiagnostic host (retailDiagnosticRequest artifact stack) with
      image := none } =
      foretell ((preflightLinuxRetailDiagnostic host
        (retailDiagnosticRequest artifact stack)).image.any entryIsExecutable)
        (profileRetailArtifact host artifact .ps5Sce) := by
  obtain ⟨index, hindex, rfl, -⟩ := exists_index_of_choose hchoose
  obtain ⟨profileStack, hprofileStack⟩ := @exists_analysisStack
    ("astraea-retail-profile".toList.map fun c => UInt8.ofNat c.toNat) (by decide)
      (by decide) index hindex
  obtain ⟨diagnosticStack, hdiagnosticStack⟩ := @exists_analysisStack
    ("astraea-retail-diagnostic".toList.map fun c => UInt8.ofNat c.toNat) (by decide)
      (by decide) index hindex
  have hbuilt : buildGuestImage
    (preflightImageRequest (retailDiagnosticRequest artifact (candidateStack index))) =
      (fun image => { image with initialStack := diagnosticStack }) <$>
        buildGuestImage (profileRequest artifact (candidateStack index) .ps5Sce) :=
    buildGuestImage_of_stack rfl rfl rfl hprofileStack hdiagnosticStack
  have hprofile : profileRetailArtifact host artifact .ps5Sce =
      ((buildGuestImage (profileRequest artifact (candidateStack index) .ps5Sce)).mapError fun e =>
        (⟨.guestImageFailure, some e, none⟩ : RetailStaticClosureArtifactError)) >>= fun image =>
        (profileRetailGuestImage host image).mapError fun e => ⟨.profileFailure, none, some e⟩ := by
    rw [profileRetailArtifact, hchoose]
    rfl
  rw [hprofile]
  unfold preflightLinuxRetailDiagnostic
  cases hbuild : buildGuestImage (profileRequest artifact (candidateStack index) .ps5Sce) with
  | error e =>
    rw [hbuilt, hbuild]
    rfl
  | ok image =>
    have hforetold := preflightImage_eq_foretell host { image with initialStack := diagnosticStack }
    have himage := image_preflightImage host { image with initialStack := diagnosticStack }
    rw [hbuilt, hbuild]
    show { preflightImage host { image with initialStack := diagnosticStack } with image := none } =
      foretell ((preflightImage host { image with initialStack := diagnosticStack }).image.any
        entryIsExecutable) _
    rw [himage]
    exact hforetold

end Agreement

/-! ### A dependency and a relocation -/

/-- A file of one segment that can be loaded. Its dynamic table has strings, a record with the given
tag, a relocation of the entry point and one symbol. -/
def closureElf (tag : ℕ) : List UInt8 :=
  [0x7f, 0x45, 0x4c, 0x46, 2, 1, 1] ++ List.replicate 9 0 ++
    wordsBytes [(2, 0xfe10), (2, 62), (4, 1), (8, 0x1000), (8, 64), (8, 0), (4, 0), (2, 64),
      (2, 56), (2, 2), (2, 0), (2, 0), (2, 0)] ++
    wordsBytes [(4, 1), (4, 5), (8, 0), (8, 0x1000), (8, 0x1000), (8, 408), (8, 408),
      (8, 0x1000)] ++
    wordsBytes [(4, 2), (4, 4), (8, 176), (8, 0x10b0), (8, 0x10b0), (8, 160), (8, 160), (8, 8)] ++
    wordsBytes [(8, 5), (8, 0x1150), (8, 10), (8, 8), (8, tag), (8, 1), (8, 7), (8, 0x1158), (8, 8),
      (8, 24), (8, 9), (8, 24), (8, 6), (8, 0x1170), (8, 11), (8, 24), (8, 4), (8, 0x1188), (8, 0),
      (8, 0)] ++
    [0, 0x6d, 0, 0, 0, 0, 0, 0] ++ wordsBytes [(8, 0x1000), (8, 8), (8, 0x1000)] ++
    List.replicate 24 0 ++ wordsBytes [(4, 1), (4, 1), (4, 0), (4, 0)]

/-- The tag of a module that is needed. -/
def neededTag : ℕ := 1

/-- A tag that says nothing about dependencies. -/
def debugTag : ℕ := 21

/-- What the preflight says of such a file on the stack that is chosen for it. -/
def closurePreflight (tag : ℕ) : LinuxRetailDiagnosticPreflight :=
  preflightLinuxRetailDiagnostic .plentiful
    (retailDiagnosticRequest (closureElf tag) (candidateStack 0))

/-- Two files that are loaded: the first is kept from being entered by its dependency, the second by
its relocation, as their profiles foretell. -/
theorem preflight_agrees_with_profile_closure :
    (∃ profile, profileRetailArtifact .plentiful (closureElf neededTag) .ps5Sce = .ok profile ∧
      profile.genericNeededCount = 1 ∧ profile.totalRelocationCount = 1 ∧
      { closurePreflight neededTag with image := none } = foretell true (.ok profile) ∧
      (closurePreflight neededTag).boundary = .unsupportedDynamicDependencies ∧
      (closurePreflight neededTag).dynamicDependencyCount = 1) ∧
    ∃ profile, profileRetailArtifact .plentiful (closureElf debugTag) .ps5Sce = .ok profile ∧
      profile.genericNeededCount = 0 ∧ profile.totalRelocationCount = 1 ∧
      { closurePreflight debugTag with image := none } = foretell true (.ok profile) ∧
      (closurePreflight debugTag).boundary = .unsupportedRelocations ∧
      (closurePreflight debugTag).relocationCount = 1 := by
  have hchooses : ∀ tag ∈ [neededTag, debugTag],
      chooseRetailAnalysisStack (closureElf tag) .ps5Sce = some (candidateStack 0) := by
    intro tag htag
    rw [chooseRetailAnalysisStack_eq]
    rcases List.mem_pair.mp htag with rfl | rfl
    · decide +kernel
    · decide +kernel
  have hagrees : ∀ tag ∈ [neededTag, debugTag], ∀ profile,
      profileRetailArtifact .plentiful (closureElf tag) .ps5Sce = .ok profile →
      (closurePreflight tag).image.any entryIsExecutable = true →
      { closurePreflight tag with image := none } = foretell true (.ok profile) := by
    intro tag htag profile hprofile hexecutable
    have hsame := preflight_agrees_with_profile .plentiful (hchooses tag htag)
    rw [hprofile] at hsame
    exact hsame.trans
      (by rw [show (preflightLinuxRetailDiagnostic _ _).image.any entryIsExecutable = true from
      hexecutable])
  have hneeded : (profileRetailArtifact .plentiful (closureElf neededTag) .ps5Sce).toOption.any
      fun profile => profile.genericNeededCount == 1 && profile.totalRelocationCount == 1 := by
    decide +kernel
  have hdebug : (profileRetailArtifact .plentiful (closureElf debugTag) .ps5Sce).toOption.any
      fun profile => profile.genericNeededCount == 0 && profile.totalRelocationCount == 1 := by
    decide +kernel
  have hfirstSays : (closurePreflight neededTag).boundary = .unsupportedDynamicDependencies ∧
      (closurePreflight neededTag).dynamicDependencyCount = 1 ∧
      (closurePreflight neededTag).image.any entryIsExecutable = true := by
    decide +kernel
  have hsecondSays : (closurePreflight debugTag).boundary = .unsupportedRelocations ∧
      (closurePreflight debugTag).relocationCount = 1 ∧
      (closurePreflight debugTag).image.any entryIsExecutable = true := by
    decide +kernel
  obtain ⟨first, hfirst, hfirstCounts⟩ := exists_of_any hneeded
  obtain ⟨second, hsecond, hsecondCounts⟩ := exists_of_any hdebug
  rw [Bool.and_eq_true, beq_iff_eq, beq_iff_eq] at hfirstCounts hsecondCounts
  refine ⟨⟨first, hfirst, hfirstCounts.1, hfirstCounts.2, ?_, hfirstSays.1, hfirstSays.2.1⟩,
    second, hsecond, hsecondCounts.1, hsecondCounts.2, ?_, hsecondSays.1, hsecondSays.2.1⟩
  · exact hagrees _ List.mem_cons_self first hfirst hfirstSays.2.2
  · exact hagrees _ (List.mem_cons_of_mem _ List.mem_cons_self) second hsecond hsecondSays.2.2

end Astraea.Execution
