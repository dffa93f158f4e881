import Astraea.App.DependencyManifest

/-!
# What the manifest refuses

An image that `build_guest_image` has built and that is not too long for the manifest is refused
for a reason that can be named (`ManifestCause`), and every image that has such a reason for its
dependencies is. One refusal has no such reason: a relocation table without records, in an image
without a symbol table, which the loader lets through.
-/

namespace Astraea.App

open Astraea.Base Astraea.Core Astraea.Loader Astraea.Memory

/-! ### Reasons -/

/-- The relocation tables of an image, in the order in which they are read. -/
def relocationTables (image : GuestImage) : List DynamicRelocationTableDescriptor :=
  image.generalRelocations.rel.toList ++ image.generalRelocations.rela.toList ++
    image.pltRelocations.toList

/-- The manifest has room for the image. -/
structure WithinLimits (image : GuestImage) : Prop where
  needed : ∀ strings, image.dynamicStrings = some strings →
    strings.needed.length ≤ kMaxManifestRecords
  entries : ∀ table, image.dynamicTable = some table → table.entries.length ≤ kMaxManifestRecords
  symbols : ∀ symbols, image.dynamicSymbols = some symbols →
    symbols.symbolCount.toNat ≤ kMaxManifestRecords
  relocations : ((relocationTables image).map fun table => table.count.toNat).sum ≤
    kMaxManifestRecords

/-- The reference names no dependency: there is no string at its place, an empty one, or one that is
too long. -/
def NamesNothing (view : InitializedImageView) (strings : DynamicStringMetadata)
    (reference : DynamicStringRef) : Prop :=
  ∀ table name, strings.stringTable = some table → name ≠ [] → name.length ≤ 256 →
    ¬ StringInTable view table reference name

/-- Some generic dependency has no name. -/
def BadDependency (image : GuestImage) (view : InitializedImageView) : Prop :=
  ∃ strings, image.dynamicStrings = some strings ∧
    ∃ reference ∈ strings.needed, NamesNothing view strings reference

/-- Some tag that may be said once has two values. -/
def BadSceTags (image : GuestImage) : Prop :=
  ∃ table, image.dynamicTable = some table ∧ SceConflict table

/-- An address in the record of the symbol at `index`. -/
def InSymbol (symbols : DynamicSymbolTableDescriptor) (index : UInt64) (address : GuestAddress) :
    Prop :=
  symbols.range.base.toNat + 24 * index.toNat ≤ address.toNat ∧
    address.toNat < symbols.range.base.toNat + 24 * index.toNat + 24

/-- The symbol has a name that cannot be used: there is no string table, no string at its place, one
that is too long, or one that is no name. -/
def BadName (image : GuestImage) (view : InitializedImageView)
    (symbols : DynamicSymbolTableDescriptor) (symbol : DynamicSymbol) : Prop :=
  symbol.nameOffset ≠ 0 ∧
    ∀ table name, image.dynamicStrings.bind DynamicStringMetadata.stringTable = some table →
    name.length ≤ 256 → StringInTable view table
      ⟨symbol.nameOffset.toUInt64, symbols.symtabSourceEntryIndex⟩ name →
    ¬ ∃ said, SceName name said

/-- Why an image is refused. -/
inductive ManifestCause (image : GuestImage) (view : InitializedImageView) : Prop
  | dependency (h : BadDependency image view)
  | sceTags (h : BadSceTags image)
  | symbol {symbols : DynamicSymbolTableDescriptor} {index : UInt64} {address : GuestAddress}
      (hsymbols : image.dynamicSymbols = some symbols)
        (hindex : index.toNat < symbols.symbolCount.toNat)
      (hmem : InSymbol symbols index address) (hread : ∀ byte, view.readByte address ≠ .ok byte)
  | symbolName {symbols : DynamicSymbolTableDescriptor} {index : UInt64} {symbol : DynamicSymbol}
      (hsymbols : image.dynamicSymbols = some symbols)
        (hsymbol : parseDynamicSymbol symbols index view = .ok symbol)
      (hname : BadName image view symbols symbol)
  | relocation {table : DynamicRelocationTableDescriptor} {index : UInt64} {address : GuestAddress}
      (htable : table ∈ relocationTables image) (hindex : index < table.count)
        (hmem : InRecord table index address)
      (hread : ∀ byte, view.readByte address ≠ .ok byte)
  | relocationSymbol {table : DynamicRelocationTableDescriptor} {index : UInt64}
      {bytes : List UInt8}
      {symbols : DynamicSymbolTableDescriptor} (htable : table ∈ relocationTables image)
        (hindex : index < table.count)
      (hbytes : HoldsRecord table index view bytes) (hsymbols : image.dynamicSymbols = some symbols)
      (hsymbol : symbols.symbolCount ≤ u64At bytes 8 >>> 32)

/-- Where there are relocation tables there is a symbol table. -/
def TablesHaveSymbols (image : GuestImage) : Prop :=
  image.dynamicSymbols.isSome = true ∨ relocationTables image = []

/-! ### What is known of an image -/

/-- What the loader has established, as far as the manifest relies on it. -/
structure Loadable (image : GuestImage) (view : InitializedImageView) : Prop where
  seen : image.initializedImageView = .ok view
  symbols : ∀ symbols, image.dynamicSymbols = some symbols →
    ∃ table, DescriptorSound table view symbols
  sound : ∀ table ∈ relocationTables image, table.Sound
  /-- Without a symbol table there are no records. -/
  records : image.dynamicSymbols = none → ∀ table ∈ relocationTables image, table.count = 0

section Loaded

variable {request : GuestImageRequest} {image : GuestImage} {segment : ProgramHeader}
  {view : InitializedImageView} {parts : DynamicParts} {general : GeneralDynamicRelocationMetadata}
  {plt : Option DynamicRelocationTableDescriptor}

theorem count_of_firstNonemptyRelocation (h : firstNonemptyRelocation general plt = none)
    {table : DynamicRelocationTableDescriptor}
    (hmem : table ∈ general.rel.toList ++ general.rela.toList ++ plt.toList) : table.count = 0 := by
  rw [firstNonemptyRelocation, Option.or_eq_none_iff, Option.or_eq_none_iff] at h
  have hempty : ∀ slot : Option DynamicRelocationTableDescriptor,
    slot.filter (fun table => table.count > 0) = none →
      table ∈ slot.toList → table.count = 0 := by
    intro slot hfilter hslot
    rw [Option.mem_toList] at hslot
    rw [Option.filter_eq_none_iff] at hfilter
    have hcount := hfilter table hslot
    rw [decide_eq_true_eq, gt_iff_lt, UInt64.not_lt] at hcount
    exact UInt64.le_zero_iff.mp hcount
  simp only [List.mem_append] at hmem
  rcases hmem with (hmem | hmem) | hmem
  · exact hempty _ h.1 hmem
  · exact hempty _ h.2.1 hmem
  · exact hempty _ h.2.2 hmem

/-- The parts of an image whose dynamic segment has been read. -/
structure PartsSound (parts : DynamicParts) (view : InitializedImageView) : Prop where
  symbols : ∀ symbols, parts.symbols = some symbols → ∃ table, DescriptorSound table view symbols
  sound : ∀ table ∈ parts.general.rel.toList ++ parts.general.rela.toList ++ parts.plt.toList,
    table.Sound
  records : parts.symbols = none →
    ∀ table ∈ parts.general.rel.toList ++ parts.general.rela.toList ++ parts.plt.toList,
    table.count = 0

theorem partsSound_of_buildDynamicParts {imageBytes : List UInt8}
    (h : buildDynamicParts imageBytes segment view = .ok parts) :
    PartsSound parts view := by
  simp only [buildDynamicParts, bind_eq_ok, mapError_eq_ok] at h
  obtain ⟨table, -, strings, -, symbols, hsymbols, general, hgeneral, plt, hplt, h⟩ := h
  have hsound : ∀ descriptor ∈ general.rel.toList ++ general.rela.toList ++ plt.toList,
      descriptor.Sound := by
    intro descriptor hmem
    simp only [List.mem_append, Option.mem_toList] at hmem
    have hdescribes : Describes table descriptor := by
      rcases hmem with (hrel | hrela) | hplt'
      · exact .inl ⟨general, hgeneral, .inl hrel⟩
      · exact .inl ⟨general, hgeneral, .inr hrela⟩
      · rw [hplt'] at hplt
        exact .inr hplt
    exact hdescribes.sound
  cases hfirst : firstNonemptyRelocation general plt with
  | none =>
    rw [hfirst] at h
    cases h
    refine ⟨?_, hsound, fun _ descriptor hmem => count_of_firstNonemptyRelocation hfirst hmem⟩
    intro found hfound
    replace hfound : symbols = some found := hfound
    rw [hfound] at hsymbols
    exact ⟨table, descriptorSound_of_build hsymbols⟩
  | some relocation =>
    cases symbols with
    | none =>
      rw [hfirst] at h
      cases h
    | some found =>
      rw [hfirst] at h
      cases h
      refine ⟨?_, hsound, fun hnone => (by cases hnone)⟩
      intro other hother
      cases hother
      exact ⟨table, descriptorSound_of_build hsymbols⟩

theorem partsSound_of_dynamicPartsOf {imageBytes : List UInt8} {segment : Option ProgramHeader}
    (h : dynamicPartsOf imageBytes segment view = .ok parts) : PartsSound parts view := by
  cases segment with
  | none =>
    cases h
    exact ⟨fun _ hnone => (by cases hnone), fun _ hmem => (by cases hmem),
      fun _ _ hmem => (by cases hmem)⟩
  | some segment => exact partsSound_of_buildDynamicParts h

/-- **What the loader promises the manifest.** -/
theorem exists_loadable (h : buildGuestImage request = .ok image) :
    ∃ view, Loadable image view := by
  simp only [buildGuestImage, bind_eq_ok, mapError_eq_ok, pure_eq_ok] at h
  obtain ⟨elf, -, collected, -, -, -, -, -, view, hview, segment, -, parts, hparts, tls, -, stack,
    -, rfl⟩ := h
  obtain ⟨hsymbols, hsound, hrecords⟩ := partsSound_of_dynamicPartsOf hparts
  exact ⟨view, hview, hsymbols, hsound, hrecords⟩

end Loaded

/-! ### The stages -/

section Stages

variable {host : Host} {view : InitializedImageView} {image : GuestImage}
  {strings : DynamicStringMetadata} {reference : DynamicStringRef}
  {table : DynamicStringTableDescriptor} {name name' : List UInt8} {fault : ManifestFault}
  {symbols : DynamicSymbolTableDescriptor} {index : UInt64}

theorem readBoundedName_eq_ok_of_host (hhost : ∀ site, host.allocation site = none) :
    readBoundedName host view table reference = .ok name ↔ StringInTable view table reference name ∧
    name.length ≤ 256 := by
  rw [readBoundedName_eq_ok_iff, resolveDynamicString_eq_ok_iff]
  constructor
  · rintro ⟨⟨-, hstring⟩, hlength⟩
    exact ⟨hstring, hlength⟩
  · rintro ⟨hstring, hlength⟩
    exact ⟨⟨⟨hlength.trans (by decide), hhost _⟩, hstring⟩, hlength⟩

theorem StringInTable.unique (h : StringInTable view table reference name)
    (h' : StringInTable view table reference name') (hlength : name.length ≤ 256)
    (hlength' : name'.length ≤ 256) : name = name' := by
  have hread := (@readBoundedName_eq_ok_of_host Host.plentiful view reference table name fun _ =>
    rfl).mpr ⟨h, hlength⟩
  rw [(readBoundedName_eq_ok_of_host fun _ => rfl).mpr ⟨h', hlength'⟩] at hread
  exact (Except.ok.inj hread).symm

theorem ne_missing_of_readBoundedName
    (h : readBoundedName host view table reference = .error fault) :
    fault ≠ .relocationsMissingSymbolTable := by
  rcases leavesWith_readBoundedName _ h with rfl | rfl
  · exact fun h => (by cases h)
  · exact fun h => (by cases h)

section

variable (hhost : ∀ site, host.allocation site = none)

include hhost

/-- A dependency is refused when the reference names nothing. -/
theorem leavesWith_readNeeded :
    LeavesWith (fun fault => NamesNothing view strings reference ∧
      fault ≠ .relocationsMissingSymbolTable)
      (readNeeded host view strings reference) := by
  refine LeavesWith.bind ?_ fun table htable => LeavesWith.bind ?_ fun name hname =>
    LeavesWith.bind ?_ fun _ _ => ?_
  · refine leavesWith_orRefuse fun hnone => ⟨fun table _ htable => ?_, fun h => (by cases h)⟩
    rw [hnone] at htable
    cases htable
  · rw [orRefuse_eq_ok] at htable
    intro fault hfault
    refine ⟨fun other name hother _ hlength hstring => ?_, ne_missing_of_readBoundedName hfault⟩
    rw [htable] at hother
    cases hother
    rw [(readBoundedName_eq_ok_of_host hhost).mpr ⟨hstring, hlength⟩] at hfault
    cases hfault
  · rw [orRefuse_eq_ok] at htable
    refine leavesWith_refuseIf fun hempty =>
      ⟨fun other name' hother hnonempty hlength hstring => ?_, fun h => (by cases h)⟩
    rw [htable] at hother
    cases hother
    obtain ⟨hfound, hfoundLength⟩ := (readBoundedName_eq_ok_of_host hhost).mp hname
    exact hnonempty ((hstring.unique hfound hlength hfoundLength).trans hempty)
  · exact leavesWith_ok _

theorem not_namesNothing_of_readNeeded {row : DynamicStringRef × List UInt8}
    (h : readNeeded host view strings reference = .ok row) :
    ¬ NamesNothing view strings reference := by
  simp only [readNeeded, bind_eq_ok, orRefuse_eq_ok, refuseIf_eq_ok] at h
  obtain ⟨table, htable, name, hname, -, hnonempty, -⟩ := h
  obtain ⟨hstring, hlength⟩ := (readBoundedName_eq_ok_of_host hhost).mp hname
  exact fun hnothing => hnothing table name htable hnonempty hlength hstring

theorem leavesWith_readNeededNames (hlimits : WithinLimits image) :
    LeavesWith (fun fault => BadDependency image view ∧ fault ≠ .relocationsMissingSymbolTable)
      (readNeededNames host view image.dynamicStrings) := by
  cases hstrings : image.dynamicStrings with
  | none => exact leavesWith_ok _
  | some strings =>
    have hlength : ¬ strings.needed.length > kMaxManifestRecords :=
      Nat.not_lt.mpr (hlimits.needed strings hstrings)
    rw [readNeededNames, refuseIf_of_not hlength, ok_bind]
    refine leavesWith_mapM fun reference hmem fault hfault => ?_
    obtain ⟨hnothing, hmissing⟩ := leavesWith_readNeeded hhost fault hfault
    exact ⟨⟨strings, hstrings, reference, hmem, hnothing⟩, hmissing⟩

/-- **The dependencies are read when each of them has a name.** -/
theorem exists_readNeededNames (hlimits : WithinLimits image) :
    (∃ rows, readNeededNames host view image.dynamicStrings = .ok rows) ↔
    ¬ BadDependency image view := by
  constructor
  · rintro ⟨rows, h⟩ ⟨strings, hstrings, reference, hmem, hnothing⟩
    rw [hstrings, readNeededNames, check_bind_eq_ok] at h
    obtain ⟨row, -, hrow⟩ := (mem_of_mapM_eq_ok h.2).1 reference hmem
    exact not_namesNothing_of_readNeeded hhost hrow hnothing
  · intro hgood
    cases hread : readNeededNames host view image.dynamicStrings with
    | ok rows => exact ⟨rows, rfl⟩
    | error fault => exact absurd (leavesWith_readNeededNames hhost hlimits fault hread).1 hgood

theorem leavesWith_readSceRecords (hlimits : WithinLimits image) :
    LeavesWith (fun fault => BadSceTags image ∧ fault ≠ .relocationsMissingSymbolTable)
      (readSceRecords host image.dynamicTable) := by
  cases htable : image.dynamicTable with
  | none => exact leavesWith_ok _
  | some table =>
    have hlength : ¬ table.entries.length > kMaxManifestRecords :=
      Nat.not_lt.mpr (hlimits.entries table htable)
    rw [readSceRecords, refuseIf_of_not hlength, ok_bind]
    refine LeavesWith.bind (leavesWith_mapError fun e he =>
      ⟨⟨table, htable, ?_⟩, fun h => (by cases h)⟩) fun _ _ =>
      leavesWith_ok _
    by_contra hno
    obtain ⟨metadata, hmetadata⟩ := (exists_buildSceDynamicMetadata (hhost _)).mpr hno
    rw [he] at hmetadata
    cases hmetadata

theorem exists_readSceRecords (hlimits : WithinLimits image) :
    (∃ rows, readSceRecords host image.dynamicTable = .ok rows) ↔ ¬ BadSceTags image := by
  constructor
  · rintro ⟨rows, h⟩ ⟨table, htable, hconflict⟩
    rw [htable, readSceRecords, check_bind_eq_ok, bind_eq_ok] at h
    obtain ⟨-, metadata, hmetadata, -⟩ := h
    exact (exists_buildSceDynamicMetadata (hhost _)).mp
      ⟨metadata, mapError_eq_ok.mp hmetadata⟩ hconflict
  · intro hgood
    cases hread : readSceRecords host image.dynamicTable with
    | ok rows => exact ⟨rows, rfl⟩
    | error fault => exact absurd (leavesWith_readSceRecords hhost hlimits fault hread).1 hgood

end

/-- A symbol that cannot be read has a byte that cannot be. -/
theorem exists_unreadable_of_parseDynamicSymbol {dynamic : DynamicTable} {e : DynamicSymbolError}
    (hsound : DescriptorSound dynamic view symbols)
    (hindex : index.toNat < symbols.symbolCount.toNat)
    (h : parseDynamicSymbol symbols index view = .error e) :
    ∃ address, InSymbol symbols index address ∧ ∀ byte, view.readByte address ≠ .ok byte := by
  obtain ⟨range, hbase, hsize, hparse⟩ := hsound.inside index hindex
  by_contra hall
  have hreadable : ∀ address : GuestAddress, address.toNat ∈ range →
      ∃ byte, view.readByte address = .ok byte := by
    intro address hmem
    by_contra hno
    rw [GuestRange.mem_def, GuestRange.last, hbase, hsize] at hmem
    exact hall ⟨address, ⟨hmem.1, hmem.2⟩, fun byte hbyte => hno ⟨byte, hbyte⟩⟩
  obtain ⟨bytes, hbytes, -, -⟩ := InitializedImageView.copyBytes_of_readable hreadable
  rw [hsize] at hbytes
  rw [hparse, hbytes] at h
  cases h

theorem leavesWith_readSymbol (hhost : ∀ site, host.allocation site = none)
    (hload : Loadable image view) (hsymbols : image.dynamicSymbols = some symbols)
    (hindex : index.toNat < symbols.symbolCount.toNat) :
    LeavesWith (fun fault => ManifestCause image view ∧ fault ≠ .relocationsMissingSymbolTable)
      (readSymbol host view image.dynamicStrings symbols index) := by
  obtain ⟨dynamic, hsound⟩ := hload.symbols symbols hsymbols
  refine LeavesWith.bind (leavesWith_mapError fun e he => ?_) fun symbol hsymbol => ?_
  · obtain ⟨address, hmem, hread⟩ := exists_unreadable_of_parseDynamicSymbol hsound hindex he
    exact ⟨.symbol hsymbols hindex hmem hread, fun h => (by cases h)⟩
  rw [mapError_eq_ok] at hsymbol
  refine LeavesWith.bind ?_ fun rawName hraw =>
    LeavesWith.bind (leavesWith_mapError fun e he => ?_) fun _ _ => leavesWith_ok _
  · rw [readSymbolName]
    by_cases hoffset : symbol.nameOffset ≠ 0
    · rw [if_pos hoffset]
      refine LeavesWith.bind (leavesWith_orRefuse fun hnone => ⟨?_, fun h => (by cases h)⟩)
        fun table htable => ?_
      · refine .symbolName hsymbols hsymbol ⟨hoffset, fun table name htable _ _ => ?_⟩
        rw [hnone] at htable
        cases htable
      · rw [orRefuse_eq_ok] at htable
        intro fault hfault
        refine ⟨.symbolName hsymbols hsymbol ⟨hoffset, fun other name hother hlength hstring => ?_⟩,
          ne_missing_of_readBoundedName hfault⟩
        rw [htable] at hother
        cases hother
        rw [(readBoundedName_eq_ok_of_host hhost).mpr ⟨hstring, hlength⟩] at hfault
        cases hfault
    · rw [if_neg hoffset]
      exact leavesWith_ok _
  · have hnothing : ¬ ∃ said, SceName rawName said := by
      rintro ⟨said, hsaid⟩
      have hok : parseSceDynamicSymbolName host rawName = .ok ⟨rawName, said⟩ :=
        parseSceDynamicSymbolName_eq_ok_iff.mpr ⟨rfl, hsaid, hhost _⟩
      rw [he] at hok
      cases hok
    by_cases hoffset : symbol.nameOffset ≠ 0
    · rw [readSymbolName, if_pos hoffset] at hraw
      simp only [bind_eq_ok, orRefuse_eq_ok] at hraw
      obtain ⟨table, htable, hname⟩ := hraw
      obtain ⟨hfound, hfoundLength⟩ := (readBoundedName_eq_ok_of_host hhost).mp hname
      refine ⟨.symbolName hsymbols hsymbol ⟨hoffset, fun other name hother hlength hstring => ?_⟩,
        fun h => (by cases h)⟩
      rw [htable] at hother
      cases hother
      rw [hstring.unique hfound hlength hfoundLength]
      exact hnothing
    · rw [readSymbolName, if_neg hoffset] at hraw
      cases hraw
      exact absurd ⟨none, .plain List.not_mem_nil⟩ hnothing

theorem leavesWith_readSymbols (hhost : ∀ site, host.allocation site = none)
    (hload : Loadable image view) (hlimits : WithinLimits image) :
    LeavesWith (fun fault => ManifestCause image view ∧ fault ≠ .relocationsMissingSymbolTable)
      (readSymbols host view image.dynamicStrings image.dynamicSymbols) := by
  cases hsymbols : image.dynamicSymbols with
  | none => exact leavesWith_ok _
  | some symbols =>
    have hlength : ¬ symbols.symbolCount.toNat > kMaxManifestRecords :=
      Nat.not_lt.mpr (hlimits.symbols symbols hsymbols)
    rw [readSymbols, refuseIf_of_not hlength, ok_bind]
    refine leavesWith_mapM fun index hmem => leavesWith_readSymbol hhost hload hsymbols ?_
    rw [List.mem_range] at hmem
    rwa [toNat_ofNat_of_lt (lt_trans hmem symbols.symbolCount.toNat_lt)]

/-! ### The relocations -/

/-- The faults of the relocations: no symbol table for some relocation table, or a reason. -/
def RelocationFault (image : GuestImage) (view : InitializedImageView) (fault : ManifestFault) :
    Prop :=
  (fault = .relocationsMissingSymbolTable ∧ ¬ TablesHaveSymbols image) ∨
    (ManifestCause image view ∧ fault ≠ .relocationsMissingSymbolTable)

/-- A record that is refused has a byte that cannot be read, or a symbol that the table does not
have. -/
theorem cause_of_parseDynamicRelocation {relocations : DynamicRelocationTableDescriptor}
    {e : DynamicRelocationError} (hload : Loadable image view)
    (htable : relocations ∈ relocationTables image) (hsymbols : image.dynamicSymbols = some symbols)
    (hindex : index < relocations.count)
    (h : parseDynamicRelocation relocations index symbols view = .error e) :
    ManifestCause image view := by
  have hparses := (hload.sound relocations htable).parsesRecords symbols view index
  by_cases hread : ∀ address, InRecord relocations index address →
    ∃ byte, view.readByte address = .ok byte
  · obtain ⟨bytes, hbytes, -, hok⟩ := hparses.readable hindex hread
    refine .relocationSymbol htable hindex hbytes hsymbols ?_
    by_contra hlt
    obtain ⟨relocation, hrelocation, -⟩ := hok (UInt64.not_le.mp hlt)
    rw [h] at hrelocation
    cases hrelocation
  · push Not at hread
    obtain ⟨address, hmem, hbyte⟩ := hread
    exact .relocation htable hindex hmem hbyte

variable {slot : Option DynamicRelocationTableDescriptor} {kind : String}

theorem leavesWith_readTable {total : ℕ} (hload : Loadable image view)
    (htable : ∀ relocations, slot = some relocations → relocations ∈ relocationTables image)
    (hroom : total + (slot.map fun relocations => relocations.count.toNat).getD 0 ≤
      kMaxManifestRecords) :
    LeavesWith (RelocationFault image view)
      (readTable view image.dynamicSymbols total slot kind) := by
  cases slot with
  | none => exact leavesWith_ok _
  | some relocations =>
    rw [Option.map_some, Option.getD_some] at hroom
    have hmem := htable relocations rfl
    have hnot : ¬ (relocations.count.toNat > kMaxManifestRecords ∨
        total > kMaxManifestRecords - relocations.count.toNat) := by
      omega
    rw [readTable, refuseIf_of_not hnot, ok_bind]
    refine LeavesWith.bind (leavesWith_orRefuse fun hnone => .inl ⟨rfl, ?_⟩) fun symbols hsymbols =>
      ?_
    · rintro (hsome | hempty)
      · rw [hnone] at hsome
        cases hsome
      · rw [hempty] at hmem
        cases hmem
    · rw [orRefuse_eq_ok] at hsymbols
      refine leavesWith_mapM fun index hindex =>
        LeavesWith.bind (leavesWith_mapError fun e he => .inr ⟨?_, ?_⟩) fun _ _ =>
        leavesWith_ok _
      · refine cause_of_parseDynamicRelocation hload hmem hsymbols ?_ he
        rw [List.mem_range] at hindex
        rwa [UInt64.lt_iff_toNat_lt, toNat_ofNat_of_lt (lt_trans hindex relocations.count.toNat_lt)]
      · exact fun h => (by cases h)

theorem length_of_readTable {total : ℕ} {known : Option DynamicSymbolTableDescriptor}
    {rows : List (String × DynamicRelocation)}
    (h : readTable view known total slot kind = .ok rows) :
    rows.length = (slot.map fun relocations => relocations.count.toNat).getD 0 := by
  cases slot with
  | none =>
    cases h
    rfl
  | some relocations =>
    simp only [readTable, bind_eq_ok] at h
    obtain ⟨-, -, symbols, -, h⟩ := h
    rw [mapM_eq_ok] at h
    rw [← h.length_eq, List.length_range, Option.map_some, Option.getD_some]

theorem sum_relocationTables (image : GuestImage) :
    ((relocationTables image).map fun table => table.count.toNat).sum =
      (image.generalRelocations.rel.map fun table => table.count.toNat).getD 0 +
        (image.generalRelocations.rela.map fun table => table.count.toNat).getD 0 +
        (image.pltRelocations.map fun table => table.count.toNat).getD 0 := by
  have hslot : ∀ slot : Option DynamicRelocationTableDescriptor,
      (slot.toList.map fun table => table.count.toNat).sum =
        (slot.map fun table => table.count.toNat).getD 0 := by
    intro slot
    cases slot <;> simp
  rw [relocationTables, List.map_append, List.map_append, List.sum_append, List.sum_append, hslot,
    hslot, hslot]

theorem leavesWith_readRelocations (hload : Loadable image view) (hlimits : WithinLimits image) :
    LeavesWith (RelocationFault image view) (readRelocations view image) := by
  have hsum := hlimits.relocations
  rw [sum_relocationTables] at hsum
  refine LeavesWith.bind (leavesWith_readTable hload (fun relocations hslot => ?_) (by omega)) ?_
  · simp [relocationTables, hslot]
  intro rel hrel
  refine LeavesWith.bind (leavesWith_readTable hload (fun relocations hslot => ?_) ?_) ?_
  · simp [relocationTables, hslot]
  · rw [length_of_readTable hrel]
    omega
  intro rela hrela
  refine LeavesWith.bind (leavesWith_readTable hload (fun relocations hslot => ?_) ?_) ?_
  · simp [relocationTables, hslot]
  · rw [length_of_readTable hrel, length_of_readTable hrela]
    omega
  exact fun plt _ => leavesWith_ok _

/-- Without a symbol table the first relocation table is refused, even one without records. -/
theorem readTable_alone (hcount : ∀ relocations, slot = some relocations → relocations.count = 0) :
    readTable view none 0 slot kind = if slot.isSome = true then
      .error .relocationsMissingSymbolTable else .ok [] := by
  cases slot with
  | none => rfl
  | some relocations =>
    have hzero := hcount relocations rfl
    have hnot : ¬ (relocations.count.toNat > kMaxManifestRecords ∨
        0 > kMaxManifestRecords - relocations.count.toNat) := by
      rw [hzero]
      decide
    rw [readTable, refuseIf_of_not hnot, ok_bind]
    rfl

theorem readRelocations_alone (hload : Loadable image view) (h : ¬ TablesHaveSymbols image) :
    readRelocations view image = .error .relocationsMissingSymbolTable := by
  rw [TablesHaveSymbols, not_or, Bool.not_eq_true, Option.isSome_eq_false_iff,
    Option.isNone_iff_eq_none] at h
  obtain ⟨hnone, htables⟩ := h
  have hcount := hload.records hnone
  rw [readRelocations, hnone, readTable_alone fun relocations hslot =>
    hcount relocations (by simp [relocationTables, hslot])]
  cases hrel : image.generalRelocations.rel with
  | some relocations => rfl
  | none =>
    rw [Option.isSome_none, if_neg Bool.false_ne_true, ok_bind, List.length_nil,
      readTable_alone fun relocations hslot =>
        hcount relocations (by simp [relocationTables, hslot])]
    cases hrela : image.generalRelocations.rela with
    | some relocations => rfl
    | none =>
      rw [Option.isSome_none, if_neg Bool.false_ne_true, ok_bind, List.length_nil, Nat.add_zero,
        readTable_alone fun relocations hslot =>
          hcount relocations (by simp [relocationTables, hslot])]
      cases hplt : image.pltRelocations with
      | some relocations => rfl
      | none => exact absurd (by simp [relocationTables, hrel, hrela, hplt]) htables

end Stages

/-! ### The manifest -/

section Manifest

variable {host : Host} {request : GuestImageRequest} {image : GuestImage}
  {view : InitializedImageView} {fault : ManifestFault}

theorem manifestFor_eq_error :
    manifestFor host image = .error fault ↔ readManifest host image = .error fault :=
  map_eq_error

/-- The one refusal that has no reason: relocation tables without records or a symbol table. -/
def RefusedAlone (image : GuestImage) (view : InitializedImageView) : Prop :=
  ¬ TablesHaveSymbols image ∧ ¬ BadDependency image view ∧ ¬ BadSceTags image

section

variable (hhost : ∀ site, host.allocation site = none) (hload : Loadable image view)
  (hlimits : WithinLimits image)

include hhost hload hlimits

/-- The faults of the manifest: the relocations come last. -/
theorem leavesWith_readManifest :
    LeavesWith (fun fault => RefusedAlone image view ∨
      (ManifestCause image view ∧ fault ≠ .relocationsMissingSymbolTable))
      (readManifest host image) := by
  rw [readManifest, hload.seen, mapError_ok, ok_bind]
  refine LeavesWith.bind (fun fault hfault => ?_) fun needed hneeded => ?_
  · obtain ⟨hbad, hmissing⟩ := leavesWith_readNeededNames hhost hlimits fault hfault
    exact .inr ⟨.dependency hbad, hmissing⟩
  refine LeavesWith.bind (fun fault hfault => ?_) fun sce hsce => ?_
  · obtain ⟨hbad, hmissing⟩ := leavesWith_readSceRecords hhost hlimits fault hfault
    exact .inr ⟨.sceTags hbad, hmissing⟩
  refine LeavesWith.bind (fun fault hfault => ?_) fun symbols _ => ?_
  · exact .inr (leavesWith_readSymbols hhost hload hlimits fault hfault)
  refine LeavesWith.bind (fun fault hfault => ?_) fun _ _ => leavesWith_ok _
  rcases leavesWith_readRelocations hload hlimits fault hfault with ⟨-, htables⟩ | hcause
  · have hnames := (exists_readNeededNames hhost hlimits).mp ⟨needed, hneeded⟩
    have hrecords := (exists_readSceRecords hhost hlimits).mp ⟨sce, hsce⟩
    exact .inl ⟨htables, hnames, hrecords⟩
  · exact .inr hcause

theorem readManifest_alone (h : RefusedAlone image view) :
    readManifest host image = .error .relocationsMissingSymbolTable := by
  obtain ⟨htables, hneeded, hsce⟩ := h
  obtain ⟨needed, hneeded⟩ := (exists_readNeededNames hhost hlimits).mpr hneeded
  obtain ⟨sce, hsce⟩ := (exists_readSceRecords hhost hlimits).mpr hsce
  have hnone : image.dynamicSymbols = none := by
    rw [TablesHaveSymbols, not_or, Bool.not_eq_true, Option.isSome_eq_false_iff,
      Option.isNone_iff_eq_none] at htables
    exact htables.1
  rw [readManifest, hload.seen, mapError_ok, ok_bind, hneeded, ok_bind, hsce, ok_bind, hnone,
    readSymbols, ok_bind, readRelocations_alone hload htables]
  rfl

end

/-- **What the manifest refuses.** An image that was built, and that the manifest has room for, is
refused for one of the reasons, and not for a missing symbol table, exactly when its relocation
tables have a symbol table or something that is read before them is refused. -/
theorem manifestFor_refusals (hhost : ∀ site, host.allocation site = none)
    (hbuilt : buildGuestImage request = .ok image) (hview : image.initializedImageView = .ok view)
    (hlimits : WithinLimits image) :
    (∀ fault, manifestFor host image = .error fault →
      ManifestCause image view ∧ fault ≠ .relocationsMissingSymbolTable) ↔
      TablesHaveSymbols image ∨ BadDependency image view ∨ BadSceTags image := by
  obtain ⟨seen, hload⟩ := exists_loadable hbuilt
  cases hload.seen.symm.trans hview
  constructor
  · intro hall
    by_contra hno
    simp only [not_or] at hno
    have hmissing := readManifest_alone hhost hload hlimits hno
    exact (hall _ (manifestFor_eq_error.mpr hmissing)).2 rfl
  · intro hcondition fault hfault
    rcases leavesWith_readManifest hhost hload hlimits fault (manifestFor_eq_error.mp hfault)
      with ⟨h1, h2, h3⟩ | hcause
    · rcases hcondition with h | h | h
      · exact absurd h h1
      · exact absurd h h2
      · exact absurd h h3
    · exact hcause

end Manifest

/-! ### A table without records -/

/-- A file whose dynamic segment describes a table of relocations that is empty, and no symbols. -/
def emptyTableElf : List UInt8 :=
  [0x7f, 0x45, 0x4c, 0x46, 2, 1, 1] ++ List.replicate 9 0 ++
    wordsBytes [(2, 3), (2, 62), (4, 1), (8, 0x1000), (8, 64), (8, 0), (4, 0), (2, 64), (2, 56),
      (2, 2), (2, 0), (2, 0), (2, 0)] ++
    wordsBytes [(4, 1), (4, 5), (8, 0), (8, 0x1000), (8, 0x1000), (8, 240), (8, 240),
      (8, 0x1000)] ++
    wordsBytes [(4, 2), (4, 4), (8, 176), (8, 0x10b0), (8, 0x10b0), (8, 64), (8, 64), (8, 8)] ++
    wordsBytes [(8, 7), (8, 0x1000), (8, 8), (8, 0), (8, 9), (8, 24), (8, 0), (8, 0)]

theorem emptyTableStack_noWrap :
    (⟨0x200000⟩ : GuestAddress).toNat + (⟨0x1000⟩ : GuestSize).toNat ≤ 2 ^ 64 := by
  decide

/-- The request to load the file whose table of relocations is empty. -/
def emptyTableRequest : GuestImageRequest where
  imageBytes := emptyTableElf
  initialStack := ⟨⟨⟨0x200000⟩, ⟨0x1000⟩, emptyTableStack_noWrap⟩, [], [], []⟩

/-- What the loader makes of it. -/
structure EmptyTableImage (image : GuestImage) : Prop where
  strings : image.dynamicStrings = some ⟨none, [], none⟩
  table : image.dynamicTable = some ⟨[⟨7, 0x1000, 0⟩, ⟨8, 0, 1⟩, ⟨9, 24, 2⟩, ⟨0, 0, 3⟩]⟩
  symbols : image.dynamicSymbols = none
  tables : relocationTables image = [⟨.rela, ⟨⟨0x1000⟩, ⟨0⟩, by decide⟩, ⟨24⟩, 0, 0, 1, 2⟩]

theorem exists_emptyTableImage :
    ∃ image, buildGuestImage emptyTableRequest = .ok image ∧ EmptyTableImage image := by
  have hbuild : (buildGuestImage emptyTableRequest).toOption.any (fun image =>
      decide (image.dynamicStrings = some ⟨none, [], none⟩) &&
        decide (image.dynamicTable = some ⟨[⟨7, 0x1000, 0⟩, ⟨8, 0, 1⟩, ⟨9, 24, 2⟩, ⟨0, 0, 3⟩]⟩) &&
        decide (image.dynamicSymbols = none) &&
        decide (relocationTables image = [⟨.rela, ⟨⟨0x1000⟩, ⟨0⟩, by decide⟩, ⟨24⟩, 0, 0, 1, 2⟩])) =
          true := by
    decide +kernel
  obtain ⟨image, himage, hspec⟩ := exists_of_any hbuild
  simp only [Bool.and_eq_true, decide_eq_true_eq, and_assoc] at hspec
  exact ⟨image, himage, hspec.1, hspec.2.1, hspec.2.2.1, hspec.2.2.2⟩

section EmptyTable

variable {image : GuestImage} {view : InitializedImageView}

theorem EmptyTableImage.withinLimits (h : EmptyTableImage image) : WithinLimits image := by
  refine ⟨fun strings hstrings => ?_, fun table htable => ?_, fun symbols hsymbols => ?_, ?_⟩
  · rw [h.strings] at hstrings
    cases hstrings
    decide
  · rw [h.table] at htable
    cases htable
    decide
  · rw [h.symbols] at hsymbols
    cases hsymbols
  · rw [h.tables]
    decide

theorem EmptyTableImage.refusedAlone (h : EmptyTableImage image) : RefusedAlone image view := by
  refine ⟨?_, ?_, ?_⟩
  · rw [TablesHaveSymbols, h.symbols, h.tables]
    simp
  · rintro ⟨strings, hstrings, reference, hmem, -⟩
    rw [h.strings] at hstrings
    cases hstrings
    cases hmem
  · rintro ⟨table, htable, hconflict⟩
    rw [h.table] at htable
    cases htable
    refine absurd hconflict ((@exists_buildSceDynamicMetadata Host.plentiful _ rfl).mp ?_)
    exact ⟨_, rfl⟩

theorem EmptyTableImage.no_cause (h : EmptyTableImage image) : ¬ ManifestCause image view := by
  obtain ⟨-, hdependency, htags⟩ := @EmptyTableImage.refusedAlone image view h
  have hcount : ∀ table ∈ relocationTables image, table.count = 0 := by
    intro table hmem
    rw [h.tables, List.mem_singleton] at hmem
    rw [hmem]
  intro hcause
  cases hcause with
  | dependency hbad => exact hdependency hbad
  | sceTags hbad => exact htags hbad
  | symbol hsymbols =>
    rw [h.symbols] at hsymbols
    cases hsymbols
  | symbolName hsymbols =>
    rw [h.symbols] at hsymbols
    cases hsymbols
  | relocation htable hindex =>
    rw [hcount _ htable] at hindex
    exact absurd hindex UInt64.not_lt_zero
  | relocationSymbol htable hindex =>
    rw [hcount _ htable] at hindex
    exact absurd hindex UInt64.not_lt_zero

end EmptyTable

/-- **The empty table is refused**, for no reason. -/
theorem manifestFor_emptyTable : ∃ (image : GuestImage) (view : InitializedImageView),
    buildGuestImage emptyTableRequest = .ok image ∧ image.initializedImageView = .ok view ∧
    WithinLimits image ∧
      manifestFor Host.plentiful image = .error .relocationsMissingSymbolTable ∧
      ¬ ManifestCause image view := by
  obtain ⟨image, hbuilt, hempty⟩ := exists_emptyTableImage
  obtain ⟨view, hload⟩ := exists_loadable hbuilt
  refine ⟨image, view, hbuilt, hload.seen, hempty.withinLimits, ?_, hempty.no_cause⟩
  exact manifestFor_eq_error.mpr
    (readManifest_alone (fun _ => rfl) hload hempty.withinLimits hempty.refusedAlone)

theorem manifestFor_refusals_emptyTable : ∃ (image : GuestImage) (view : InitializedImageView),
    buildGuestImage emptyTableRequest = .ok image ∧
      ((∀ fault, manifestFor Host.plentiful image = .error fault →
        ManifestCause image view ∧ fault ≠ .relocationsMissingSymbolTable) ↔
        TablesHaveSymbols image ∨ BadDependency image view ∨ BadSceTags image) := by
  obtain ⟨image, hbuilt, hempty⟩ := exists_emptyTableImage
  obtain ⟨view, hload⟩ := exists_loadable hbuilt
  exact ⟨image, view, hbuilt,
    manifestFor_refusals (fun _ => rfl) hbuilt hload.seen hempty.withinLimits⟩

end Astraea.App
