import Astraea.Loader.DynamicRelocations
import Astraea.Loader.DynamicSymbols
import Astraea.Loader.InitialStack
import Astraea.Loader.TlsTemplate
import Mathlib.Data.List.Pairwise

/-!
# Guest images

`build_guest_image` turns the bytes of an executable and a request for a stack into an
image: the mappings of its load segments, what its dynamic segment says, its
thread-local template and its initial stack. Segments may overlap as long as they give
every shared address the same initial byte from the same place; `first_mapping_conflict`
decides that on intervals. Host allocation does not fail here.

`buildGuestImage_law` is the law of construction: what the view over an image reads,
and when an overlap is refused.
-/

namespace Astraea.Loader

open Astraea.Base Astraea.Memory

/-- Why an image is refused. -/
inductive GuestImageErrorCode where
  | elfParseFailure
  | mappingFailure
  | initializedImageFailure
  | duplicateDynamicSegment
  | mappingOverlapConflict
  | initialStackOverlapsLoadMapping
  | dynamicParseFailure
  | dynamicMetadataFailure
  | dynamicSymbolFailure
  | dynamicRelocationFailure
  | tlsFailure
  | initialStackFailure
  | hostAllocationFailure
  | hostSizeUnrepresentable
  deriving DecidableEq

/-- The error below that of an image. -/
inductive GuestImageErrorCause where
  | none
  | elf (e : ElfError)
  | mapping (e : MappingError)
  | initializedImage (e : InitializedImageError)
  | dynamic (e : DynamicError)
  | dynamicMetadata (e : DynamicMetadataError)
  | dynamicSymbol (e : DynamicSymbolError)
  | dynamicRelocation (e : DynamicRelocationError)
  | tls (e : TlsTemplateError)
  | initialStack (e : InitialStackError)
  deriving DecidableEq

/-- An image that is refused, with the error below it. -/
structure GuestImageError where
  code : GuestImageErrorCode
  cause : GuestImageErrorCause := .none
  sourceProgramHeaderIndex : Option ℕ := none
  conflictingProgramHeaderIndex : Option ℕ := none
  deriving DecidableEq

/-- A file and the stack it is loaded with. -/
structure GuestImageRequest where
  imageBytes : List UInt8
  initialStack : InitialStackRequest
  elfProfile : ElfParseProfile := .generic
  deriving DecidableEq

/-- A loaded file: its mappings, its tables and its stack. -/
structure GuestImage where
  imageBytes : List UInt8
  elf : ElfImage
  mappings : List MappingIntent
  dynamicTable : Option DynamicTable
  dynamicStrings : Option DynamicStringMetadata
  dynamicSymbols : Option DynamicSymbolTableDescriptor
  generalRelocations : GeneralDynamicRelocationMetadata
  pltRelocations : Option DynamicRelocationTableDescriptor
  tls : Option TlsTemplateDescriptor
  initialStack : InitialStackImage
  deriving DecidableEq

/-! ### Overlaps -/

/-- `initialized_overlap_conflicts`. -/
def initializedOverlapConflicts (lhs rhs : MappingIntent) : Bool :=
  if lhs.range.overlaps rhs.range = false then false
  else if lhs.backing.kind = .anonymous ∨ rhs.backing.kind = .anonymous then true
  else if lhs.backing.kind ≠ rhs.backing.kind then true
  else if lhs.backing.kind = .zeroFill then false
  else
    let overlapBase := max lhs.range.base.value rhs.range.base.value
    let lhsSource := checkedAdd lhs.backing.fileOffset (overlapBase - lhs.range.base.value)
    let rhsSource := checkedAdd rhs.backing.fileOffset (overlapBase - rhs.range.base.value)
    lhsSource.isNone || rhsSource.isNone || lhsSource != rhsSource

/-- The inner loop of `first_mapping_conflict`: the intents after `intent`, as long as they
begin inside it. -/
def firstConflictWith (intent : MappingIntent) : List MappingIntent → Option (ℕ × ℕ)
  | [] => none
  | other :: rest =>
    if intent.range.contains other.range.base = false then none
    else if initializedOverlapConflicts intent other = true then
      some (intent.sourceIndex, other.sourceIndex)
    else firstConflictWith intent rest

/-- `first_mapping_conflict`. -/
def firstMappingConflict : List MappingIntent → Option (ℕ × ℕ)
  | [] => none
  | intent :: rest => (firstConflictWith intent rest).or (firstMappingConflict rest)

/-- `first_stack_overlap`. -/
def firstStackOverlap (stackStorage : GuestRange) (mappings : List MappingIntent) : Option ℕ :=
  (mappings.find? fun mapping => stackStorage.overlaps mapping.range).map MappingIntent.sourceIndex

/-! ### Construction -/

/-- The intents of all load segments, in the order of the program headers. -/
def collectMappings : List ProgramHeader → Except GuestImageError (List MappingIntent)
  | [] => .ok []
  | ph :: phs =>
    if ph.type ≠ kPtLoad then collectMappings phs
    else do
      let intents ← (mappingIntentsFromLoad ph).mapError fun (e : MappingError) =>
        (⟨.mappingFailure, .mapping e, some e.firstSourceIndex, some e.secondSourceIndex⟩ :
          GuestImageError)
      let rest ← collectMappings phs
      return intents ++ rest

/-- The mappings agree with each other. -/
def refuseConflict (mappings : List MappingIntent) : Except GuestImageError Unit :=
  match firstMappingConflict mappings with
  | some (first, second) => .error ⟨.mappingOverlapConflict, .none, some first, some second⟩
  | none => .ok ()

/-- The stack meets no mapping. -/
def refuseStackOverlap (stackStorage : GuestRange) (mappings : List MappingIntent) :
    Except GuestImageError Unit :=
  match firstStackOverlap stackStorage mappings with
  | some index => .error ⟨.initialStackOverlapsLoadMapping, .none, some index, none⟩
  | none => .ok ()

/-- What an image knows from its dynamic segment. -/
structure DynamicParts where
  table : Option DynamicTable := none
  strings : Option DynamicStringMetadata := none
  symbols : Option DynamicSymbolTableDescriptor := none
  general : GeneralDynamicRelocationMetadata := {}
  plt : Option DynamicRelocationTableDescriptor := none
  deriving DecidableEq

/-- The first table with a record in it, in the order in which they are looked at. -/
def firstNonemptyRelocation (general : GeneralDynamicRelocationMetadata)
    (plt : Option DynamicRelocationTableDescriptor) : Option DynamicRelocationTableDescriptor :=
  (general.rel.filter fun table => table.count > 0).or
    ((general.rela.filter fun table => table.count > 0).or
      (plt.filter fun table => table.count > 0))

/-- The part of the construction that reads the dynamic segment. -/
def buildDynamicParts (imageBytes : List UInt8) (segment : ProgramHeader)
    (view : InitializedImageView) :
    Except GuestImageError DynamicParts := do
  let table ← (parseDynamicTable imageBytes segment).mapError fun e =>
    (⟨.dynamicParseFailure, .dynamic e, some segment.index, none⟩ : GuestImageError)
  let strings ← (buildDynamicStringMetadata table).mapError fun e =>
    (⟨.dynamicMetadataFailure, .dynamicMetadata e, some segment.index, none⟩ : GuestImageError)
  let symbols ← (buildDynamicSymbolTableDescriptor table view).mapError fun e =>
    (⟨.dynamicSymbolFailure, .dynamicSymbol e, some segment.index, none⟩ : GuestImageError)
  let general ← (buildGeneralDynamicRelocationMetadata table).mapError fun e =>
    (⟨.dynamicRelocationFailure, .dynamicRelocation e, some segment.index, none⟩ : GuestImageError)
  let plt ← (buildPltDynamicRelocationMetadata table).mapError fun e =>
    (⟨.dynamicRelocationFailure, .dynamicRelocation e, some segment.index, none⟩ : GuestImageError)
  match firstNonemptyRelocation general plt, symbols with
  | some relocation, none =>
    .error ⟨.dynamicRelocationFailure, .dynamicRelocation
      { code := .missingSymbolTable, sourceEntryIndex := relocation.addressSourceEntryIndex,
        tableKind := relocation.kind, guestAddress := relocation.range.base }, some segment.index,
          none⟩
  | _, _ => return ⟨some table, some strings, symbols, general, plt⟩

/-- An image without a dynamic segment has none of its parts. -/
def dynamicPartsOf (imageBytes : List UInt8) (segment : Option ProgramHeader)
    (view : InitializedImageView) :
    Except GuestImageError DynamicParts :=
  match segment with
  | none => .ok {}
  | some segment => buildDynamicParts imageBytes segment view

/-- `build_guest_image`. -/
def buildGuestImage (request : GuestImageRequest) : Except GuestImageError GuestImage := do
  let elf ← (parseElf64 request.imageBytes request.elfProfile).mapError fun e =>
    (⟨.elfParseFailure, .elf e, none, none⟩ : GuestImageError)
  let collected ← collectMappings elf.programHeaders
  let mappings := sortIntents collected
  refuseConflict mappings
  refuseStackOverlap request.initialStack.storage mappings
  let view ← (InitializedImageView.create request.imageBytes mappings).mapError fun e =>
    (⟨.initializedImageFailure, .initializedImage e, none, none⟩ : GuestImageError)
  let dynamicSegment ← elf.programHeaders.foldlM (uniqueSegment kPtDynamic fun ph earlier =>
    (⟨.duplicateDynamicSegment, .none, some ph.index, some earlier.index⟩ : GuestImageError)) none
  let dynamic ← dynamicPartsOf request.imageBytes dynamicSegment view
  let tls ← (buildTlsTemplateDescriptor elf.programHeaders request.imageBytes).mapError
      fun (e : TlsTemplateError) =>
    (⟨.tlsFailure, .tls e, e.sourceProgramHeaderIndex, e.conflictingProgramHeaderIndex⟩ :
      GuestImageError)
  let stack ← (buildInitialStack request.initialStack).mapError fun e =>
    (⟨.initialStackFailure, .initialStack e, none, none⟩ : GuestImageError)
  return ⟨request.imageBytes, elf, mappings, dynamic.table, dynamic.strings, dynamic.symbols,
    dynamic.general, dynamic.plt, tls, stack⟩

/-- `GuestImage::initialized_image_view`. -/
def GuestImage.initializedImageView (image : GuestImage) :
    Except InitializedImageError InitializedImageView :=
  InitializedImageView.create image.imageBytes image.mappings

/-! ### Overlaps of backed intents -/

/-- Two intents give some address different sources. -/
def Conflict (lhs rhs : MappingIntent) : Prop :=
  ∃ x s t, Supplies lhs x s ∧ Supplies rhs x t ∧ s ≠ t

theorem Conflict.symm {lhs rhs : MappingIntent} (h : Conflict lhs rhs) : Conflict rhs lhs := by
  obtain ⟨x, s, t, hs, ht, hne⟩ := h
  exact ⟨x, t, s, ht, hs, hne.symm⟩

variable {intent : MappingIntent} {mappings : List MappingIntent} {phs : List ProgramHeader}
  {ph : ProgramHeader} {e : GuestImageError}

theorem not_conflict_self (intent : MappingIntent) : ¬ Conflict intent intent :=
  fun ⟨_, _, _, hs, ht, hne⟩ => hne (hs.unique ht)

section Conflicts

variable {imageSize : ℕ}

/-- The file position of the overlap's first byte, in one of the intents. -/
theorem checkedAdd_overlapBase (hb : IntentBacked imageSize intent)
    (hkind : intent.backing.kind = .file) {overlapBase : UInt64}
    (hmem : overlapBase.toNat ∈ intent.range) :
    ∃ position, checkedAdd intent.backing.fileOffset (overlapBase - intent.range.base.value) =
      some position ∧
      position.toNat = intent.backing.fileOffset.toNat +
        (overlapBase.toNat - intent.range.base.toNat) := by
  have hle : intent.range.base.value ≤ overlapBase := UInt64.le_iff_toNat_le.mpr hmem.1
  have hsub := UInt64.toNat_sub_of_le _ _ hle
  have hfile := (hb.file hkind).1
  have hlast := hmem.2
  rw [GuestRange.last] at hlast
  have hlt : intent.backing.fileOffset.toNat + (overlapBase - intent.range.base.value).toNat <
      2 ^ 64 := by
    rw [hsub]
    simp only [GuestAddress.toNat] at *
    omega
  refine ⟨_, checkedAdd_of_lt hlt, ?_⟩
  rw [UInt64.toNat_add, Nat.mod_eq_of_lt hlt, hsub]
  rfl

/-- On backed intents the interval test finds exactly the conflicts. -/
theorem initializedOverlapConflicts_iff {lhs rhs : MappingIntent} (hl : IntentBacked imageSize lhs)
    (hr : IntentBacked imageSize rhs) :
    initializedOverlapConflicts lhs rhs = true ↔ Conflict lhs rhs := by
  unfold initializedOverlapConflicts
  split_ifs with hover hanon hkind hzero
  · rw [← Bool.not_eq_true, GuestRange.overlaps_iff] at hover
    refine ⟨nofun, fun ⟨x, s, t, hs, ht, _⟩ => absurd ⟨x, hs.mem, ht.mem⟩ hover⟩
  · exact absurd hanon (not_or.mpr ⟨hl.kind, hr.kind⟩)
  · rw [Bool.not_eq_false, GuestRange.overlaps_iff] at hover
    obtain ⟨x, hxl, hxr⟩ := hover
    obtain ⟨s, hs⟩ := hl.exists_supplies hxl
    obtain ⟨t, ht⟩ := hr.exists_supplies hxr
    exact ⟨fun _ => ⟨x, s, t, hs, ht, fun hst => hkind (hs.kind_eq ht hst)⟩, fun _ => rfl⟩
  · refine ⟨nofun, fun ⟨x, s, t, hs, ht, hne⟩ => absurd ?_ hne⟩
    cases hs with
    | file hk =>
      rw [hzero] at hk
      cases hk
    | zeroFill =>
      cases ht with
      | file hk' =>
        rw [not_not.mp hkind, hk'] at hzero
        cases hzero
      | zeroFill => rfl
  · rw [Bool.not_eq_false, GuestRange.overlaps_iff] at hover
    have hkl : lhs.backing.kind = .file := by
      cases hk : lhs.backing.kind with
      | file => rfl
      | zeroFill => exact absurd hk hzero
      | anonymous => exact absurd hk hl.kind
    have hkr : rhs.backing.kind = .file := by rw [← not_not.mp hkind, hkl]
    obtain ⟨x, hxl, hxr⟩ := hover
    have hmax : (max lhs.range.base.value rhs.range.base.value).toNat =
        max lhs.range.base.toNat rhs.range.base.toNat := toNat_max _ _
    rw [GuestRange.mem_def] at hxl hxr
    have hml : (max lhs.range.base.value rhs.range.base.value).toNat ∈ lhs.range := by
      rw [hmax, GuestRange.mem_def]
      omega
    have hmr : (max lhs.range.base.value rhs.range.base.value).toNat ∈ rhs.range := by
      rw [hmax, GuestRange.mem_def]
      omega
    obtain ⟨p, hp, hp'⟩ := checkedAdd_overlapBase hl hkl hml
    obtain ⟨q, hq, hq'⟩ := checkedAdd_overlapBase hr hkr hmr
    rw [hmax] at hp' hq'
    simp only [hp, hq, Option.isNone_some, Bool.false_or, bne_iff_ne, ne_eq, Option.some.injEq,
      ← UInt64.toNat_inj]
    rw [hp', hq']
    constructor
    · intro hne
      refine ⟨x, _, _, .file hkl hxl, .file hkr hxr, fun heq => hne ?_⟩
      rw [InitialSource.file.injEq] at heq
      omega
    · rintro ⟨y, s, t, hs, ht, hne⟩ heq
      apply hne
      have hyl := hs.mem
      have hyr := ht.mem
      rw [GuestRange.mem_def] at hyl hyr
      rw [hs.unique (.file hkl hs.mem), ht.unique (.file hkr ht.mem), InitialSource.file.injEq]
      omega

variable {rest : List MappingIntent} {indices : ℕ × ℕ}

/-- The inner loop may stop at the first intent that begins outside: the later ones begin
no earlier. -/
theorem firstConflictWith_eq_none (hb : IntentBacked imageSize intent)
    (hrest : ∀ other ∈ rest, IntentBacked imageSize other)
    (hbase : ∀ other ∈ rest, intent.range.base.toNat ≤ other.range.base.toNat)
    (hs : rest.Pairwise fun a b => a.range.base.toNat ≤ b.range.base.toNat)
    (h : firstConflictWith intent rest = none) : ∀ other ∈ rest, ¬ Conflict intent other := by
  induction rest with
  | nil => simp
  | cons first rest ih =>
    rw [List.pairwise_cons] at hs
    rw [firstConflictWith] at h
    split_ifs at h with hout hconf
    · rw [GuestRange.contains_eq_false, GuestRange.mem_def] at hout
      rintro other hother ⟨x, s, t, hsx, htx, -⟩
      have h1 := hsx.mem.2
      have h2 := htx.mem.1
      have h3 := hbase first List.mem_cons_self
      have h4 : first.range.base.toNat ≤ other.range.base.toNat := by
        rcases List.mem_cons.mp hother with rfl | hother
        · exact le_rfl
        · exact hs.1 other hother
      omega
    · rw [initializedOverlapConflicts_iff hb (hrest first List.mem_cons_self)] at hconf
      intro other hother
      rcases List.mem_cons.mp hother with rfl | hother
      · exact hconf
      · exact ih (fun o ho => hrest o (List.mem_cons_of_mem _ ho))
          (fun o ho => hbase o (List.mem_cons_of_mem _ ho))
          hs.2 h other hother

theorem firstMappingConflict_eq_none (hb : ∀ mapping ∈ mappings, IntentBacked imageSize mapping)
    (hs : mappings.Pairwise fun a b => a.range.base.toNat ≤ b.range.base.toNat)
    (h : firstMappingConflict mappings = none) : mappings.Pairwise fun a b => ¬ Conflict a b := by
  induction mappings with
  | nil => exact .nil
  | cons intent rest ih =>
    rw [List.pairwise_cons] at hs
    rw [firstMappingConflict, Option.or_eq_none_iff] at h
    have hrest : ∀ mapping ∈ rest, IntentBacked imageSize mapping :=
      fun m hm => hb m (List.mem_cons_of_mem _ hm)
    refine List.pairwise_cons.mpr ⟨?_, ih hrest hs.2 h.2⟩
    exact firstConflictWith_eq_none (hb intent List.mem_cons_self) hrest hs.1 hs.2 h.1

end Conflicts

/-! ### Segments -/

/-- A load segment gives the byte at `x` a source: the file within its file part, zero after it. -/
inductive SegmentSource (ph : ProgramHeader) (x : ℕ) : InitialSource → Prop
  | file (h1 : ph.virtualAddress.toNat ≤ x) (h2 : x < ph.virtualAddress.toNat + ph.fileSize.toNat) :
      SegmentSource ph x (.file (ph.offset.toNat + (x - ph.virtualAddress.toNat)))
  | zero (h1 : ph.virtualAddress.toNat + ph.fileSize.toNat ≤ x)
      (h2 : x < ph.virtualAddress.toNat + ph.memorySize.toNat) : SegmentSource ph x .zero

/-- The load segments of a list of program headers. -/
def loadSegments (phs : List ProgramHeader) : List ProgramHeader :=
  phs.filter fun ph => ph.type = kPtLoad

theorem mem_loadSegments : ph ∈ loadSegments phs ↔ ph ∈ phs ∧ ph.type = kPtLoad := by
  simp [loadSegments]

theorem mem_collectMappings (h : collectMappings phs = .ok mappings) (intent : MappingIntent) :
    intent ∈ mappings ↔ ∃ ph ∈ loadSegments phs, IntentOf ph intent := by
  induction phs generalizing mappings with
  | nil =>
    cases h
    simp [loadSegments]
  | cons ph phs ih =>
    rw [collectMappings] at h
    split_ifs at h with htype
    · rw [ih h, show loadSegments (ph :: phs) = loadSegments phs from
        List.filter_cons_of_neg (by simpa using htype)]
    · simp only [bind_eq_ok, mapError_eq_ok, pure_eq_ok] at h
      obtain ⟨intents, hintents, rest, hrest, rfl⟩ := h
      rw [List.mem_append, mappingIntentsFromLoad_spec hintents, ih hrest,
        show loadSegments (ph :: phs) = ph :: loadSegments phs from
          List.filter_cons_of_pos (by simpa using htype)]
      simp only [List.mem_cons, exists_eq_or_imp]

/-- The intents of a segment give an address the source the segment gives it. -/
theorem segmentSource_iff {inputSize : ℕ} (hload : LoadSegment inputSize ph) {x : ℕ}
    {source : InitialSource} :
    SegmentSource ph x source ↔ ∃ intent, IntentOf ph intent ∧ Supplies intent x source := by
  have hsizes := hload.sizes
  have hmemory := hload.memory
  constructor
  · rintro (⟨h1, h2⟩ | ⟨h1, h2⟩)
    · have hwrap : (GuestAddress.mk ph.virtualAddress).toNat + (GuestSize.mk ph.fileSize).toNat ≤
          2 ^ 64 := by
        rw [GuestAddress.toNat_mk, GuestSize.toNat_mk]
        omega
      exact ⟨_, @IntentOf.file ph ⟨_, _, hwrap⟩ rfl rfl (by omega), .file rfl ⟨h1, h2⟩⟩
    · have hbase : (ph.virtualAddress + ph.fileSize).toNat =
          ph.virtualAddress.toNat + ph.fileSize.toNat := by
        rw [UInt64.toNat_add, Nat.mod_eq_of_lt (by omega)]
      have hsize : (ph.memorySize - ph.fileSize).toNat = ph.memorySize.toNat - ph.fileSize.toNat :=
        UInt64.toNat_sub_of_le _ _ (UInt64.le_iff_toNat_le.mpr hsizes)
      have hwrap : (GuestAddress.mk (ph.virtualAddress + ph.fileSize)).toNat +
          (GuestSize.mk (ph.memorySize - ph.fileSize)).toNat ≤ 2 ^ 64 := by
        rw [GuestAddress.toNat_mk, GuestSize.toNat_mk, hbase, hsize]
        omega
      refine ⟨_, @IntentOf.zeroFill ph ⟨_, _, hwrap⟩ hbase hsize (by omega), .zeroFill rfl ?_⟩
      rw [GuestRange.mem_def, GuestRange.last]
      dsimp only
      rw [GuestAddress.toNat_mk, GuestSize.toNat_mk, hbase, hsize]
      omega
  · rintro ⟨intent, hof, hs⟩
    cases hof with
    | file hbase hsize hpos =>
      cases hs with
      | file hk hmem =>
        rw [GuestRange.mem_def, GuestRange.last, hbase, hsize, GuestSize.toNat_mk] at hmem
        rw [hbase]
        exact .file hmem.1 hmem.2
      | zeroFill hk => cases hk
    | zeroFill hbase hsize hpos =>
      cases hs with
      | file hk => cases hk
      | zeroFill hk hmem =>
        rw [GuestRange.mem_def, GuestRange.last, hbase, hsize] at hmem
        exact .zero hmem.1 (by omega)

/-! ### The law of construction -/

/-- What the construction of an image has established about it. -/
structure BuiltFrom (request : GuestImageRequest) (image : GuestImage) : Prop where
  bytes : image.imageBytes = request.imageBytes
  elf : parseElf64 request.imageBytes request.elfProfile = .ok image.elf
  mappings : ∃ collected, collectMappings image.elf.programHeaders = .ok collected ∧
    image.mappings = sortIntents collected
  noConflict : firstMappingConflict image.mappings = none
  noStackOverlap : firstStackOverlap request.initialStack.storage image.mappings = none
  view : ∃ view, InitializedImageView.create request.imageBytes image.mappings = .ok view
  stack : buildInitialStack request.initialStack = .ok image.initialStack

@[simp] theorem refuseConflict_eq_ok {u : Unit} :
    refuseConflict mappings = .ok u ↔ firstMappingConflict mappings = none := by
  unfold refuseConflict
  cases firstMappingConflict mappings <;> simp

@[simp] theorem refuseStackOverlap_eq_ok {storage : GuestRange} {mappings : List MappingIntent}
    {u : Unit} :
    refuseStackOverlap storage mappings = .ok u ↔ firstStackOverlap storage mappings = none := by
  unfold refuseStackOverlap
  cases firstStackOverlap storage mappings <;> simp

theorem builtFrom_of_buildGuestImage {request : GuestImageRequest} {image : GuestImage}
    (h : buildGuestImage request = .ok image) : BuiltFrom request image := by
  simp only [buildGuestImage, bind_eq_ok, mapError_eq_ok, refuseConflict_eq_ok,
    refuseStackOverlap_eq_ok, pure_eq_ok] at h
  obtain ⟨elf, helf, collected, hcollected, -, hconflict, -, hstack, view, hview, -, -, -, -, -, -,
    stack, hbuilt, rfl⟩ := h
  exact ⟨rfl, helf, ⟨collected, hcollected, rfl⟩, hconflict, hstack, ⟨view, hview⟩, hbuilt⟩

theorem collectMappings_eq_error (h : collectMappings phs = .error e) :
    e.code = .mappingFailure := by
  induction phs with
  | nil => cases h
  | cons ph phs ih =>
    rw [collectMappings] at h
    split_ifs at h with htype
    · exact ih h
    · simp only [bind_eq_error, mapError_eq_error, pure_ne_error, and_false, exists_false, or_false]
        at h
      rcases h with ⟨_, -, rfl⟩ | ⟨_, -, h⟩
      · rfl
      · exact ih h

theorem uniqueDynamicSegment_eq_error {found : Option ProgramHeader}
    (h : phs.foldlM (uniqueSegment kPtDynamic fun ph earlier => (⟨.duplicateDynamicSegment, .none,
      some ph.index, some earlier.index⟩ : GuestImageError)) found = .error e) :
    e.code = .duplicateDynamicSegment := by
  induction phs generalizing found with
  | nil => cases h
  | cons ph phs ih =>
    rw [List.foldlM_cons, bind_eq_error] at h
    rcases h with h | ⟨_, -, h⟩
    · unfold uniqueSegment at h
      split_ifs at h
      cases found <;> cases h
      rfl
    · exact ih h

/-- What the parts of the dynamic segment refuse an image with. -/
def dynamicCodes : List GuestImageErrorCode :=
  [.dynamicParseFailure, .dynamicMetadataFailure, .dynamicSymbolFailure, .dynamicRelocationFailure]

/-- What the stages after the view refuse an image with. -/
def laterCodes : List GuestImageErrorCode :=
  [.initialStackOverlapsLoadMapping, .duplicateDynamicSegment, .dynamicParseFailure,
    .dynamicMetadataFailure, .dynamicSymbolFailure, .dynamicRelocationFailure, .tlsFailure,
    .initialStackFailure]

variable {view : InitializedImageView}

theorem dynamicPartsOf_eq_error {imageBytes : List UInt8} {segment : Option ProgramHeader}
    (h : dynamicPartsOf imageBytes segment view = .error e) :
    e.code ∈ dynamicCodes := by
  cases segment with
  | none => cases h
  | some segment =>
    simp only [dynamicPartsOf, buildDynamicParts, bind_eq_error, mapError_eq_error] at h
    rcases h with ⟨_, -, rfl⟩ | ⟨_, -,
      ⟨_, -, rfl⟩ | ⟨_, -, ⟨_, -, rfl⟩ | ⟨_, -, ⟨_, -, rfl⟩ | ⟨_, -, ⟨_, -, rfl⟩ | ⟨_, -, h⟩⟩⟩⟩⟩
    case inr.inr.inr.inr.inr =>
      split at h <;> cases h
      simp [dynamicCodes]
    all_goals simp [dynamicCodes]

theorem mem_laterCodes_of_dynamicCodes {code : GuestImageErrorCode} (h : code ∈ dynamicCodes) :
    code ∈ laterCodes := by
  simp only [dynamicCodes, List.mem_cons, List.not_mem_nil, or_false] at h
  rcases h with rfl | rfl | rfl | rfl <;> simp [laterCodes]

section

variable {request : GuestImageRequest} (h : buildGuestImage request = .error e)

include h

/-- The stage that refuses an image shows in the code of the error. -/
theorem buildGuestImage_eq_error :
    e.code = .elfParseFailure ∨ ∃ elf, parseElf64 request.imageBytes request.elfProfile = .ok elf ∧
      (collectMappings elf.programHeaders = .error e ∨
        ∃ collected, collectMappings elf.programHeaders = .ok collected ∧
      ((e.code = .mappingOverlapConflict ∧
        ∃ indices, firstMappingConflict (sortIntents collected) = some indices) ∨
      (e.code = .initializedImageFailure ∧
        ∃ cause, InitializedImageView.create request.imageBytes (sortIntents collected) =
        .error cause) ∨ e.code ∈ laterCodes)) := by
  simp only [buildGuestImage, bind_eq_error, mapError_eq_error, mapError_eq_ok, pure_ne_error,
    and_false, exists_false, or_false] at h
  rcases h with ⟨_, -, rfl⟩ | ⟨elf, helf, h⟩
  · exact .inl rfl
  refine .inr ⟨elf, helf, ?_⟩
  rcases h with h | ⟨collected, hcollected, h⟩
  · exact .inl h
  refine .inr ⟨collected, hcollected, ?_⟩
  rcases h with h | ⟨-, -, h⟩
  · unfold refuseConflict at h
    split at h
    · cases h
      exact .inl ⟨rfl, _, ‹_›⟩
    · cases h
  rcases h with h | ⟨-, -, ⟨cause, hview, rfl⟩ | ⟨view, -, h⟩⟩
  · unfold refuseStackOverlap at h
    split at h <;> cases h
    exact .inr (.inr (by simp [laterCodes]))
  · exact .inr (.inl ⟨rfl, cause, hview⟩)
  refine .inr (.inr ?_)
  rcases h with h | ⟨segment, -, h | ⟨-, -, ⟨_, -, rfl⟩ | ⟨-, -, _, -, rfl⟩⟩⟩
  · rw [uniqueDynamicSegment_eq_error h]
    simp [laterCodes]
  · exact mem_laterCodes_of_dynamicCodes (dynamicPartsOf_eq_error h)
  all_goals simp [laterCodes]

/-- A refusal that blames the stack comes from the overlap with the mappings or from the building of
the stack. -/
theorem stackRefusal_of_buildGuestImage
    (hcode : e.code = .initialStackOverlapsLoadMapping ∨ e.code = .initialStackFailure) :
    (∃ elf collected, parseElf64 request.imageBytes request.elfProfile = .ok elf ∧
        collectMappings elf.programHeaders = .ok collected ∧
        firstStackOverlap request.initialStack.storage (sortIntents collected) ≠ none) ∨
      ∃ cause, buildInitialStack request.initialStack = .error cause := by
  have hother : ∀ code, e.code = code → code ≠ .initialStackOverlapsLoadMapping →
    code ≠ .initialStackFailure →
      False := by
    rintro code rfl hoverlap hfailure
    exact hcode.elim hoverlap hfailure
  simp only [buildGuestImage, bind_eq_error, mapError_eq_error, mapError_eq_ok, pure_ne_error,
    and_false, exists_false, or_false] at h
  rcases h with ⟨_, -, rfl⟩ | ⟨elf, helf, h⟩
  · exact (hother .elfParseFailure rfl (by decide) (by decide)).elim
  rcases h with h | ⟨collected, hcollected, h⟩
  · exact (hother _ (collectMappings_eq_error h) (by decide) (by decide)).elim
  rcases h with h | ⟨-, -, h⟩
  · unfold refuseConflict at h
    split at h <;> cases h
    exact (hother .mappingOverlapConflict rfl (by decide) (by decide)).elim
  rcases h with h | ⟨-, -, h⟩
  · left
    refine ⟨elf, collected, helf, hcollected, fun hnone => ?_⟩
    rw [(@refuseStackOverlap_eq_ok _ _ ()).mpr hnone] at h
    cases h
  rcases h with ⟨_, -, rfl⟩ | ⟨view, -, h⟩
  · exact (hother .initializedImageFailure rfl (by decide) (by decide)).elim
  rcases h with h | ⟨segment, -, h | ⟨-, -, ⟨_, -, rfl⟩ | ⟨-, -, cause, hcause, -⟩⟩⟩
  · exact (hother _ (uniqueDynamicSegment_eq_error h) (by decide) (by decide)).elim
  · have hdynamic := dynamicPartsOf_eq_error h
    rcases hcode with hcode | hcode <;> rw [hcode] at hdynamic <;> simp [dynamicCodes] at hdynamic
  · exact (hother .tlsFailure rfl (by decide) (by decide)).elim
  · exact .inr ⟨cause, hcause⟩

end

/-- What a view over an image says about one address. -/
structure InitializedLaw (image : GuestImage) (view : InitializedImageView)
    (address : GuestAddress) : Prop where
  /-- A byte can be read where a mapping is. -/
  readable : (∃ byte, view.readByte address = .ok byte) ↔
    ∃ mapping ∈ image.mappings, address.toNat ∈ mapping.range
  /-- Mappings are where load segments are. -/
  mapped : (∃ mapping ∈ image.mappings, address.toNat ∈ mapping.range) ↔
    ∃ ph ∈ loadSegments image.elf.programHeaders, ∃ source, SegmentSource ph address.toNat source
  /-- The byte is the one every load segment over the address gives it. -/
  byte : ∀ ph ∈ loadSegments image.elf.programHeaders, ∀ source,
    SegmentSource ph address.toNat source →
    view.readByte address = .ok (source.byte image.imageBytes)
  /-- A byte from the file is in the file. -/
  inFile : ∀ ph ∈ loadSegments image.elf.programHeaders, ∀ offset,
    SegmentSource ph address.toNat (.file offset) →
    offset < image.imageBytes.length
  /-- A read fails only where nothing is mapped. -/
  failure : ∀ e, view.readByte address = .error e → e.code = .unmappedGuestAddress
  /-- The stack is apart from the mappings. -/
  stack : address.toNat ∈ image.initialStack.storage →
    ∀ mapping ∈ image.mappings, address.toNat ∉ mapping.range

section Law

variable {request : GuestImageRequest} {image : GuestImage}

section

variable (h : BuiltFrom request image)

include h

theorem BuiltFrom.loadSegment (hph : ph ∈ loadSegments image.elf.programHeaders) :
    LoadSegment image.imageBytes.length ph := by
  rw [h.bytes]
  obtain ⟨hmem, hload⟩ := mem_loadSegments.mp hph
  exact parseElf64_load h.elf ph hmem hload

theorem BuiltFrom.mem_mappings :
    intent ∈ image.mappings ↔ ∃ ph ∈ loadSegments image.elf.programHeaders, IntentOf ph intent := by
  obtain ⟨collected, hcollected, heq⟩ := h.mappings
  rw [heq, mem_sortIntents, mem_collectMappings hcollected]

theorem BuiltFrom.backed (hmem : intent ∈ image.mappings) :
    IntentBacked image.imageBytes.length intent := by
  obtain ⟨ph, hph, hof⟩ := h.mem_mappings.mp hmem
  exact hof.backed (h.loadSegment hph)

/-- No two mappings of an image disagree about an address. -/
theorem BuiltFrom.not_conflict : ∀ i ∈ image.mappings, ∀ j ∈ image.mappings, ¬ Conflict i j := by
  have hs : image.mappings.Pairwise fun a b => a.range.base.toNat ≤ b.range.base.toNat := by
    obtain ⟨collected, -, heq⟩ := h.mappings
    rw [heq]
    exact pairwise_sortIntents collected
  have hpair := firstMappingConflict_eq_none (fun _ hm => h.backed hm) hs h.noConflict
  have : Std.Symm fun a b => ¬ Conflict a b := ⟨fun _ _ hn hc => hn hc.symm⟩
  exact fun i hi j hj => hpair.forall_of_forall (fun i _ => not_conflict_self i) hi hj

/-- The law holds at every address of an image that was built. -/
theorem BuiltFrom.initializedLaw (hview : image.initializedImageView = .ok view)
    (address : GuestAddress) :
    InitializedLaw image view address := by
  obtain ⟨hbytes, hintents⟩ := InitializedImageView.create_eq_ok hview
  have hmem : ∀ {intent}, intent ∈ view.intents ↔ intent ∈ image.mappings := by
    intro intent
    rw [hintents, mem_sortIntents]
  have hagree : Agree view.intents address.toNat := by
    intro i hi j hj s t hs ht
    by_contra hne
    exact h.not_conflict i (hmem.mp hi) j (hmem.mp hj) ⟨_, s, t, hs, ht, hne⟩
  have hread : ∀ intent ∈ image.mappings, ∀ source, Supplies intent address.toNat source →
      view.readByte address = .ok (source.byte image.imageBytes) := by
    intro intent hi source hs
    rw [← hbytes]
    exact InitializedImageView.readByte_of_supplies hagree (hmem.mpr hi) hs
  have hnone : (¬ ∃ mapping ∈ image.mappings, address.toNat ∈ mapping.range) →
      view.readByte address = .error
        { code := .unmappedGuestAddress, guestAddress := address } := by
    intro hno
    refine InitializedImageView.readByte_of_not_mem fun intent hi hin =>
      hno ⟨intent, hmem.mp hi, hin⟩
  have hmapped : ∀ mapping ∈ image.mappings, address.toNat ∈ mapping.range →
      ∃ source, view.readByte address = .ok source := by
    intro mapping hm hin
    obtain ⟨source, hs⟩ := (h.backed hm).exists_supplies hin
    exact ⟨_, hread mapping hm source hs⟩
  have hsegment : ∀ ph ∈ loadSegments image.elf.programHeaders, ∀ source,
    SegmentSource ph address.toNat source →
      ∃ intent ∈ image.mappings, Supplies intent address.toNat source := by
    intro ph hph source hs
    obtain ⟨intent, hof, hsup⟩ := (segmentSource_iff (h.loadSegment hph)).mp hs
    exact ⟨intent, h.mem_mappings.mpr ⟨ph, hph, hof⟩, hsup⟩
  refine ⟨⟨?_, fun ⟨m, hm, hin⟩ => hmapped m hm hin⟩, ⟨?_, ?_⟩, ?_, ?_, ?_, ?_⟩
  · rintro ⟨byte, hb⟩
    by_contra hno
    rw [hnone hno] at hb
    cases hb
  · rintro ⟨mapping, hm, hin⟩
    obtain ⟨ph, hph, hof⟩ := h.mem_mappings.mp hm
    obtain ⟨source, hs⟩ := (h.backed hm).exists_supplies hin
    exact ⟨ph, hph, source, (segmentSource_iff (h.loadSegment hph)).mpr ⟨mapping, hof, hs⟩⟩
  · rintro ⟨ph, hph, source, hs⟩
    obtain ⟨intent, hi, hsup⟩ := hsegment ph hph source hs
    exact ⟨intent, hi, hsup.mem⟩
  · intro ph hph source hs
    obtain ⟨intent, hi, hsup⟩ := hsegment ph hph source hs
    exact hread intent hi source hsup
  · intro ph hph offset hs
    have hload := h.loadSegment hph
    cases hs with
    | file h1 h2 =>
      have := hload.file (by omega)
      omega
  · intro e he
    by_cases hno : ∃ mapping ∈ image.mappings, address.toNat ∈ mapping.range
    · obtain ⟨m, hm, hin⟩ := hno
      obtain ⟨byte, hb⟩ := hmapped m hm hin
      rw [hb] at he
      cases he
    · rw [hnone hno] at he
      cases he
      rfl
  · intro hst mapping hm hin
    have hover := h.noStackOverlap
    rw [firstStackOverlap, Option.map_eq_none_iff, List.find?_eq_none] at hover
    refine hover mapping hm (GuestRange.overlaps_iff.mpr ⟨address.toNat, ?_, hin⟩)
    rwa [← storage_of_buildInitialStack h.stack]

end

end Law

end Astraea.Loader
