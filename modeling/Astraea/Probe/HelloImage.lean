import Astraea.Execution.PreparedMemory
import Astraea.Loader.StackReadBack
import Astraea.Probe.HelloFixture

/-!
# The hello probe is loaded

The loader and the planner of the memory know nothing of the hello probe. They check its file and
the request for its stack as they check any others.

`probeHello_loadable` says that they accept every fixture: the image is built, its memory is planned
for every page size of a host that divides the one of the fixture, the page of the gates is left
free, and the bytes at the entry point are the program of the probe.
-/

namespace Astraea.Probe

open Astraea.Base Astraea.Execution Astraea.Loader Astraea.Memory

/-! ### The mappings -/

section Mapping

variable {ph : ProgramHeader}

/-- The mapping of a segment all of whose bytes are in the file. -/
def fileMapping (ph : ProgramHeader) (h : ph.virtualAddress.toNat + ph.fileSize.toNat ≤ 2 ^ 64) :
    MappingIntent :=
  ⟨⟨⟨ph.virtualAddress⟩, ⟨ph.fileSize⟩, h⟩, .fromElfFlags ph.flags,
    ⟨.file, ph.offset, ⟨ph.fileSize⟩⟩, ph.index⟩

theorem mappingIntentsFromLoad_fileMapping (htype : ph.type = kPtLoad)
    (hsizes : ph.memorySize = ph.fileSize) (hpos : 0 < ph.fileSize.toNat)
    (h : ph.virtualAddress.toNat + ph.fileSize.toNat ≤ 2 ^ 64) :
    mappingIntentsFromLoad ph = .ok [fileMapping ph h] := by
  have hrange : GuestRange.create ⟨ph.virtualAddress⟩ ⟨ph.fileSize⟩ =
      .ok ⟨⟨ph.virtualAddress⟩, ⟨ph.fileSize⟩, h⟩ :=
    @GuestRange.create_of_le ⟨ph.virtualAddress⟩ ⟨ph.fileSize⟩ h
  have hsame : ¬ ph.fileSize > ph.fileSize := UInt64.lt_irrefl _
  have hgt : ph.fileSize > 0 := UInt64.lt_iff_toNat_lt.mpr hpos
  have hzero : ¬ ph.fileSize = 0 := fun hzero => by
    rw [hzero, UInt64.toNat_zero] at hpos
    exact absurd hpos (Nat.lt_irrefl 0)
  have hfiles : fileIntents ph = .ok [fileMapping ph h] := by
    rw [fileIntents, if_pos hgt, hrange]
    rfl
  have hzeros : zeroFillIntents ph = .ok [] := by
    rw [zeroFillIntents, hsizes, if_neg hsame]
  have hsort : sortIntents ([fileMapping ph h] ++ []) = [fileMapping ph h] :=
    List.mergeSort_singleton _
  simp only [mappingIntentsFromLoad, bind_eq_ok, refuseIf_eq_ok, mapError_eq_ok, hsizes,
    if_neg hzero, pure_eq_ok, not_not]
  exact ⟨(), htype, (), hsame, _, hrange, _, hfiles, _, hzeros, hsort⟩

end Mapping

/-! ### The image -/

/-- The two mappings of the probe: the code may be executed, the message may be read. -/
structure ProbeMappings (guestBase : GuestAddress) (pageSize : UInt64)
    (code message : MappingIntent) : Prop where
  codeBase : code.range.base.toNat = guestBase.toNat
  codeSize : code.range.size.toNat = 48
  codePermissions : code.permissions = .fromElfFlags 0x5
  messageBase : message.range.base.toNat = guestBase.toNat + pageSize.toNat
  messageSize : message.range.size.toNat = 16
  messagePermissions : message.permissions = .fromElfFlags 0x4

/-- What the loader makes of a fixture. -/
structure ProbeImage (guestBase : GuestAddress) (pageSize : UInt64) (fixture : ProbeHelloFixture)
    (image : GuestImage) :
    Prop where
  built : buildGuestImage ⟨fixture.elfBytes, fixture.initialStack, .generic⟩ = .ok image
  entry : image.elf.header.entry = guestBase.value
  segments : ∃ dataOffset : UInt64, dataOffset.toNat = 2 * pageSize.toNat ∧
    image.elf.programHeaders = [codeSegment guestBase.value pageSize,
      messageSegment fixture.dataBase.value pageSize dataOffset]
  mappings : ∃ code message, image.mappings = [code, message] ∧
    ProbeMappings guestBase pageSize code message
  stackStorage : image.initialStack.storage = fixture.initialStack.storage
  stackPointer : image.initialStack.rsp.toNat ∈ fixture.initialStack.storage

section Image

variable {guestBase : GuestAddress} {pageSize : UInt64} {fixture : ProbeHelloFixture}

theorem pageSize_dvd_stackBase (h : FixtureOf guestBase pageSize fixture) :
    pageSize.toNat ∣ fixture.initialStack.storage.base.toNat := by
  rw [h.stackBase]
  exact Nat.dvd_add h.fits.aligned (Nat.dvd_mul_left _ _)

theorem sixteen_dvd_pageSize (h : FixtureFits guestBase pageSize) : 16 ∣ pageSize.toNat := by
  obtain ⟨k, hk⟩ := isPowerOfTwo_iff.mp h.power
  have hlarge := h.large
  rw [hk] at hlarge ⊢
  have hle : 12 ≤ k :=
    (Nat.pow_le_pow_iff_right (by decide : 1 < 2)).mp (show 2 ^ 12 ≤ 2 ^ k from hlarge)
  exact Nat.pow_dvd_pow 2 (show 4 ≤ k by omega)

/-- **The stack is built**, and its pointer lies in the storage. -/
theorem buildInitialStack_probe {storage : GuestRange} (hbase : 16 ∣ storage.base.toNat)
    (hlarge : 4096 ≤ storage.size.toNat) (hsmall : storage.size.toNat < 2 ^ 63)
    (pageSize : UInt64) :
    ∃ stack, buildInitialStack (probeStackRequest storage pageSize) = .ok stack ∧
      stack.storage = storage ∧
      stack.rsp.toNat ∈ storage := by
  have hone : 32 * 1 < 2 ^ 63 := by decide
  have hstrings : stringBytes [probeArgument] + stringBytes [probeVariable] = 32 := by decide
  have hmemory : RequestInMemory (probeStackRequest storage pageSize) :=
    ⟨hone, hone, show 16 * 1 < 2 ^ 63 by decide, hstrings.trans_lt (by decide)⟩
  have hcount : controlWordCount (probeStackRequest storage pageSize) = 9 := rfl
  have hvalid : InputsValid (probeStackRequest storage pageSize) := by
    refine ⟨?_, ?_, ?_⟩
    · change ∀ value ∈ [probeArgument], Loader.containsNul value = false
      decide
    · change ∀ value ∈ [probeVariable], Loader.containsNul value = false
      decide
    · rw [probeStackRequest, List.forall_mem_singleton]
      exact show (6 : UInt64) ≠ 0 by decide
  have hroom : HasRoom (probeStackRequest storage pageSize) := by
    refine ⟨storage.base.toNat, Nat.mod_eq_zero_of_dvd hbase, le_rfl, ?_⟩
    rw [hcount]
    change _ + (8 * 9 + (stringBytes [probeArgument] + stringBytes [probeVariable])) ≤
      storage.base.toNat + storage.size.toNat
    omega
  rcases buildInitialStack_cases hmemory
    with ⟨stack, slack, hbuild, -, -, hshape⟩ | ⟨-, -, hhuge⟩ | ⟨-, -, hnone⟩ |
    ⟨_, -, -, hinvalid⟩
  · have hlow := hshape.low
    have hlast := hshape.last
    have hlength := hshape.length
    rw [hcount] at hlength
    refine ⟨stack, hbuild, storage_of_buildInitialStack hbuild, hlow, ?_⟩
    change stack.rsp.toNat < (probeStackRequest storage pageSize).storage.last
    omega
  · exact absurd hhuge (Nat.not_le.mpr hsmall)
  · exact absurd hroom hnone
  · exact absurd hvalid hinvalid

theorem exists_fileLayout (h : FixtureOf guestBase pageSize fixture) :
    ∃ dataOffset code, FileLayout pageSize dataOffset code ∧
      fixture.elfBytes = fileBytes guestBase.value fixture.dataBase.value pageSize dataOffset code ∧
      code = assemble guestBase.value
        (probeProgram guestBase.value fixture.dataBase.value fixture.gateBase.value) := by
  obtain ⟨dataOffset, hoffset, hfile⟩ := h.file
  rw [h.codeBase] at hfile
  exact ⟨dataOffset, _, ⟨h.fits.large, length_probeCode _ _ _, hoffset⟩, hfile, rfl⟩

/-- Mappings that lie one behind the other give no address two bytes. -/
theorem firstMappingConflict_pair {code message : MappingIntent}
    (h : code.range.last ≤ message.range.base.toNat) :
    firstMappingConflict [code, message] = none := by
  have hapart : code.range.contains message.range.base = false := by
    rw [GuestRange.contains_eq_false, GuestRange.mem_def]
    omega
  rw [firstMappingConflict, firstConflictWith, if_pos hapart]
  rfl

theorem firstStackOverlap_pair {code message : MappingIntent} {storage : GuestRange}
    (hcode : code.range.last ≤ storage.base.toNat)
    (hmessage : message.range.last ≤ storage.base.toNat) :
    firstStackOverlap storage [code, message] = none := by
  have hapart : ∀ {range : GuestRange}, range.last ≤ storage.base.toNat →
      ¬ storage.overlaps range = true := by
    intro range hrange hoverlap
    obtain ⟨x, hx, hx'⟩ := GuestRange.overlaps_iff.mp hoverlap
    rw [GuestRange.mem_def] at hx hx'
    omega
  rw [firstStackOverlap, Option.map_eq_none_iff, List.find?_eq_none, List.forall_mem_cons,
    List.forall_mem_singleton]
  exact ⟨hapart hcode, hapart hmessage⟩

theorem exists_probeMappings (h : FixtureOf guestBase pageSize fixture) (dataOffset : UInt64) :
    ∃ code message, ProbeMappings guestBase pageSize code message ∧
      collectMappings [codeSegment guestBase.value pageSize,
        messageSegment fixture.dataBase.value pageSize dataOffset] =
        .ok [code, message] := by
  have hlarge := h.fits.large
  have hspace := h.fits.space
  have hdata := h.dataBase
  have h48 : (48 : UInt64).toNat = 48 := rfl
  have h16 : (16 : UInt64).toNat = 16 := rfl
  have hcodeSpace : guestBase.value.toNat + (48 : UInt64).toNat ≤ 2 ^ 64 := by
    rw [GuestAddress.toNat] at hspace
    omega
  have hmessageSpace : fixture.dataBase.value.toNat + (16 : UInt64).toNat ≤ 2 ^ 64 := by
    rw [GuestAddress.toNat] at hdata
    omega
  have hcodeIntents :=
    @mappingIntentsFromLoad_fileMapping (codeSegment guestBase.value pageSize) rfl rfl
    (show 0 < (48 : UInt64).toNat by decide) hcodeSpace
  have hmessageIntents := @mappingIntentsFromLoad_fileMapping
    (messageSegment fixture.dataBase.value pageSize dataOffset) rfl rfl
    (show 0 < (16 : UInt64).toNat by decide) hmessageSpace
  have hload : ¬ (codeSegment guestBase.value pageSize).type ≠ kPtLoad := not_not.mpr rfl
  have hload' : ¬ (messageSegment fixture.dataBase.value pageSize dataOffset).type ≠ kPtLoad :=
    not_not.mpr rfl
  refine ⟨fileMapping (codeSegment guestBase.value pageSize) hcodeSpace,
    fileMapping (messageSegment fixture.dataBase.value pageSize dataOffset) hmessageSpace,
      ⟨rfl, rfl, rfl, hdata, rfl, rfl⟩, ?_⟩
  rw [collectMappings, if_neg hload, hcodeIntents, collectMappings, if_neg hload', hmessageIntents]
  rfl

section Mapped

variable {code message : MappingIntent}

section

variable (h : ProbeMappings guestBase pageSize code message)

include h

theorem ProbeMappings.last_code : code.range.last = guestBase.toNat + 48 := by
  rw [GuestRange.last, h.codeBase, h.codeSize]

theorem ProbeMappings.last_message :
    message.range.last = guestBase.toNat + pageSize.toNat + 16 := by
  rw [GuestRange.last, h.messageBase, h.messageSize]

theorem ProbeMappings.sortIntents (hlarge : 4096 ≤ pageSize.toNat) :
    Memory.sortIntents [code, message] = [code, message] := by
  have hcodeBase := h.codeBase
  have hmessageBase := h.messageBase
  refine List.mergeSort_of_pairwise (List.pairwise_pair.mpr ?_)
  rw [Bool.not_eq_true', ← Bool.not_eq_true, mappingIntentLess_iff]
  omega

end

end Mapped

/-- **The image of a fixture is built.** -/
theorem exists_probeImage (h : FixtureOf guestBase pageSize fixture) :
    ∃ image, ProbeImage guestBase pageSize fixture image := by
  obtain ⟨dataOffset, code, hlayout, hbytes, -⟩ := exists_fileLayout h
  have hlarge := h.fits.large
  have hreach := h.fits.reach
  have hstackBase := h.stackBase
  have hstackSize := h.stackSize
  have helf :=
    parseElf64_fileBytes hlayout h.fits.power h.fits.aligned h.fits.space h.fits.reach h.dataBase
  rw [← hbytes] at helf
  obtain ⟨first, second, hmappings, hcollected⟩ := exists_probeMappings h dataOffset
  have hfirst := hmappings.last_code
  have hsecond := hmappings.last_message
  have hmessageBase := hmappings.messageBase
  have hsort := hmappings.sortIntents hlarge
  obtain ⟨collected, hcollected', view, hview⟩ := exists_view_of_parseElf64 helf
  cases hcollected.symm.trans hcollected'
  rw [hsort] at hview
  obtain ⟨stack, hstack, hstorage, hrsp⟩ := @buildInitialStack_probe fixture.initialStack.storage
    (Nat.dvd_trans (sixteen_dvd_pageSize h.fits) (pageSize_dvd_stackBase h)) (by omega)
      (by omega) pageSize
  rw [← h.stack] at hstack
  have hconflict : firstMappingConflict [first, second] = none :=
    firstMappingConflict_pair (by omega)
  have hoverlap : firstStackOverlap fixture.initialStack.storage [first, second] = none :=
    firstStackOverlap_pair (by omega) (by omega)
  have hentry :=
    (@headerFields_fileBytes guestBase.value fixture.dataBase.value _ _ _ hlayout).entry
  rw [← hbytes] at hentry
  let elf : ElfImage := ⟨readElfHeader fixture.elfBytes, [codeSegment guestBase.value pageSize,
    messageSegment fixture.dataBase.value pageSize dataOffset]⟩
  let image : GuestImage :=
    ⟨fixture.elfBytes, elf, [first, second], none, none, none, {}, none, none, stack⟩
  refine ⟨image, ?_, hentry, ⟨dataOffset, hlayout.dataOffset, rfl⟩, ⟨first, second, rfl, hmappings⟩,
    hstorage, hrsp⟩
  simp only [buildGuestImage, bind_eq_ok, mapError_eq_ok, refuseConflict_eq_ok,
    refuseStackOverlap_eq_ok, pure_eq_ok]
  refine ⟨_, helf, _, hcollected, (), ?_, (), ?_, view, ?_, none, rfl, {}, rfl, none, rfl, stack,
    hstack, ?_⟩
  · rw [hsort]
    exact hconflict
  · rw [hsort]
    exact hoverlap
  · rw [hsort]
    exact hview
  · rw [hsort]

end Image

/-! ### The plan of the memory -/

section Plan

variable {guestBase : GuestAddress} {pageSize hostPageSize : UInt64} {fixture : ProbeHelloFixture}
  {image : GuestImage}

theorem le_of_div_eq_div {d a x y : ℕ} (hdvd : d ∣ a) (hle : a ≤ x) (h : x / d = y / d) :
    a ≤ y := by
  rcases Nat.eq_zero_or_pos d with rfl | hpos
  · exact (Nat.eq_zero_of_zero_dvd hdvd).le.trans (Nat.zero_le y)
  · obtain ⟨k, rfl⟩ := hdvd
    have hk : k ≤ x / d := (Nat.le_div_iff_mul_le hpos).mpr ((Nat.mul_comm k d).trans_le hle)
    rw [h, Nat.le_div_iff_mul_le hpos] at hk
    exact (Nat.mul_comm d k).trans_le hk

/-- The request for the memory of an image with two mappings. -/
def planRequest (image : GuestImage) (hostPageSize : UInt64) (h : image.mappings.length = 2) :
    ExecutionMemoryPlanRequest where
  mappings := image.mappings
  stackStorage := image.initialStack.storage
  entryPoint := ⟨image.elf.header.entry⟩
  stackPointer := image.initialStack.rsp
  hostPageSize := hostPageSize
  inMemory := h ▸ (by omega : 2 + 1 ≤ (2 ^ 64 - 1) / 2)

theorem planOf_eq (h : image.mappings.length = 2) :
    planOf image hostPageSize = buildExecutionMemoryPlan (planRequest image hostPageSize h) :=
  dif_pos (planRequest image hostPageSize h).inMemory

/-- Where the pages of the probe are: everything lies before the page of the gates, only the stack
may be written, and what may be executed lies before it. -/
structure PagesApart (guestBase : GuestAddress) (pageSize : UInt64)
    (request : ExecutionMemoryPlanRequest) : Prop where
  below : ∀ page source permissions, PageSource request page source permissions →
    ∃ x < guestBase.toNat + 3 * pageSize.toNat, x / request.hostPageSize.toNat = page
  written : ∀ page, PageAllows request page .write →
    ∃ x ≥ guestBase.toNat + 2 * pageSize.toNat, x / request.hostPageSize.toNat = page
  executed : ∀ page, PageAllows request page .execute →
    ∃ x < guestBase.toNat + 2 * pageSize.toNat, x / request.hostPageSize.toNat = page

theorem pagesApart_planRequest (hfixture : FixtureOf guestBase pageSize fixture)
    (himage : ProbeImage guestBase pageSize fixture image) (hcount : image.mappings.length = 2) :
    PagesApart guestBase pageSize (planRequest image hostPageSize hcount) := by
  have hlarge := hfixture.fits.large
  have hstackBase := hfixture.stackBase
  have hstackSize := hfixture.stackSize
  obtain ⟨code, message, hmappings, hprobe⟩ := himage.mappings
  have hcodeBase := hprobe.codeBase
  have hcodeSize := hprobe.codeSize
  have hmessageBase := hprobe.messageBase
  have hmessageSize := hprobe.messageSize
  have hmem : ∀ {mapping}, mapping ∈ (planRequest image hostPageSize hcount).mappings →
      mapping = code ∨ mapping = message := by
    intro mapping hmem
    change mapping ∈ image.mappings at hmem
    rwa [hmappings, List.mem_cons, List.mem_singleton] at hmem
  have hstack : ∀ {x}, x ∈ (planRequest image hostPageSize hcount).stackStorage →
      guestBase.toNat + 2 * pageSize.toNat ≤ x ∧ x < guestBase.toNat + 3 * pageSize.toNat := by
    intro x hx
    change x ∈ image.initialStack.storage at hx
    rw [himage.stackStorage, GuestRange.mem_def, GuestRange.last] at hx
    omega
  have hmapping : ∀ {mapping x}, mapping ∈ (planRequest image hostPageSize hcount).mappings →
    x ∈ mapping.range →
      x < guestBase.toNat + 2 * pageSize.toNat := by
    intro mapping x hmapping hx
    rw [GuestRange.mem_def, GuestRange.last] at hx
    rcases hmem hmapping with rfl | rfl
    · omega
    · omega
  refine ⟨?_, ?_, ?_⟩
  · rintro page source permissions (⟨hmem, x, hx, hpage⟩ | ⟨x, hx, hpage⟩)
    · have hlt := hmapping hmem hx
      exact ⟨x, by omega, hpage⟩
    · exact ⟨x, (hstack hx).2, hpage⟩
  · rintro page ⟨source, permissions, ⟨hmapped, -⟩ | ⟨x, hx, hpage⟩, hwrite⟩
    · rcases hmem hmapped with rfl | rfl
      · rw [hprobe.codePermissions] at hwrite
        exact absurd hwrite (by decide)
      · rw [hprobe.messagePermissions] at hwrite
        exact absurd hwrite (by decide)
    · exact ⟨x, (hstack hx).1, hpage⟩
  · rintro page ⟨source, permissions, ⟨hmapped, x, hx, hpage⟩ | -, hexecute⟩
    · exact ⟨x, hmapping hmapped hx, hpage⟩
    · exact absurd hexecute (by decide)

/-- **The memory is planned**, for every page size of a host that divides the one of the fixture,
and the page of the gates is left free. -/
theorem exists_plan_probe (hfixture : FixtureOf guestBase pageSize fixture)
    (himage : ProbeImage guestBase pageSize fixture image)
    (hpower : isPowerOfTwo hostPageSize = true) (hdvd : hostPageSize.toNat ∣ pageSize.toNat) :
    ∃ plan, planOf image hostPageSize = .ok plan ∧
      ∀ region ∈ plan.regions, region.range.contains fixture.gateBase = false := by
  have hspace := hfixture.fits.space
  have hgate := hfixture.gateBase
  obtain ⟨code, message, hmappings, hprobe⟩ := himage.mappings
  have hcodeBase := hprobe.codeBase
  have hcodeSize := hprobe.codeSize
  have hcount : image.mappings.length = 2 := by rw [hmappings]; rfl
  have hapart := @pagesApart_planRequest _ _ hostPageSize _ _ hfixture himage hcount
  have hguest : hostPageSize.toNat ∣ guestBase.toNat := hdvd.trans hfixture.fits.aligned
  have hstackPage : hostPageSize.toNat ∣ guestBase.toNat + 2 * pageSize.toNat :=
    Nat.dvd_add hguest (hdvd.mul_left 2)
  have hgatePage : hostPageSize.toNat ∣ guestBase.toNat + 3 * pageSize.toNat :=
    Nat.dvd_add hguest (hdvd.mul_left 3)
  have hfree : ∀ source permissions, ¬ PageSource (planRequest image hostPageSize hcount)
      (fixture.gateBase.toNat / hostPageSize.toNat) source permissions := by
    intro source permissions hsource
    obtain ⟨x, hx, hpage⟩ := hapart.below _ _ _ hsource
    have hle := le_of_div_eq_div hgatePage hgate.ge hpage.symm
    omega
  obtain ⟨plan, hplan⟩ : ∃ plan, buildExecutionMemoryPlan (planRequest image hostPageSize hcount) =
      .ok plan := by
    refine exists_executionMemoryPlan hpower ?_ ⟨_, ?_, hfree⟩ ⟨code, ?_, ?_, ?_⟩ ?_
    · intro page hwrite hexecute
      obtain ⟨x, hx, hpage⟩ := hapart.written page hwrite
      obtain ⟨y, hy, hpage'⟩ := hapart.executed page hexecute
      have hle := le_of_div_eq_div hstackPage hx (hpage.trans hpage'.symm)
      omega
    · exact Nat.div_le_div_right (by omega)
    · change code ∈ image.mappings
      rw [hmappings]
      exact List.mem_cons_self
    · change (GuestAddress.mk image.elf.header.entry).toNat ∈ code.range
      rw [himage.entry, GuestRange.mem_def, GuestRange.last]
      change code.range.base.toNat ≤ guestBase.toNat ∧ guestBase.toNat < _
      omega
    · rw [hprobe.codePermissions]
      decide
    · change image.initialStack.rsp.toNat ∈ image.initialStack.storage
      rw [himage.stackStorage]
      exact himage.stackPointer
  refine ⟨plan, (planOf_eq hcount).trans hplan, ?_⟩
  intro region hregion
  rw [GuestRange.contains_eq_false]
  intro hin
  obtain ⟨source, permissions, hsource⟩ :=
    ((planExact hplan).covered fixture.gateBase.toNat (by omega)).mp ⟨region, hregion, hin⟩
  exact hfree source permissions hsource

end Plan

/-! ### The program in memory -/

section Program

variable {request : GuestImageRequest} {guestBase : GuestAddress} {pageSize : UInt64}
  {fixture : ProbeHelloFixture} {image : GuestImage} {view : InitializedImageView}

theorem readByte_segment (hbuilt : BuiltFrom request image)
    (hview : image.initializedImageView = .ok view) {ph : ProgramHeader}
    (hload : ph ∈ loadSegments image.elf.programHeaders) {data : List UInt8}
    (hlength : data.length = ph.fileSize.toNat)
    (hspace : ph.virtualAddress.toNat + data.length < 2 ^ 64)
    (hslice : slice image.imageBytes ph.offset.toNat data.length = data) :
    ∀ i < data.length, view.readByte ⟨ph.virtualAddress + UInt64.ofNat i⟩ =
      .ok (data.getD i 0) := by
  intro i hi
  have hplace : (GuestAddress.mk (ph.virtualAddress + UInt64.ofNat i)).toNat =
      ph.virtualAddress.toNat + i :=
    toNat_add_ofNat (by omega)
  have hsource : SegmentSource ph (ph.virtualAddress.toNat + i)
      (.file (ph.offset.toNat + (ph.virtualAddress.toNat + i - ph.virtualAddress.toNat))) :=
    .file (Nat.le_add_right _ _) (by omega)
  rw [← hplace] at hsource
  have hbyte := (hbuilt.initializedLaw hview _).byte ph hload _ hsource
  rw [hbyte, InitialSource.byte, hplace, Nat.add_sub_cancel_left, List.getD_eq_getElem?_getD,
    List.getD_eq_getElem?_getD, (slice_eq_iff rfl).mp hslice i hi]

/-- What the loader and the planner of the memory have made of a fixture. -/
structure HelloLoaded (pageSize : UInt64) (fixture : ProbeHelloFixture) (image : GuestImage) :
    Prop where
  built : buildGuestImage ⟨fixture.elfBytes, fixture.initialStack, .generic⟩ = .ok image
  entry : image.elf.header.entry = fixture.codeBase.value
  /-- The memory is planned, and the page of the gates is left free. -/
  planned : ∀ hostPageSize, isPowerOfTwo hostPageSize = true → hostPageSize.toNat ∣ pageSize.toNat →
    ∃ plan, planOf image hostPageSize = .ok plan ∧
      ∀ region ∈ plan.regions, region.range.contains fixture.gateBase = false
  stackFree : image.initialStack.storage.contains fixture.gateBase = false
  /-- What may be executed are the instructions of the probe. -/
  program : ∃ view code, image.initializedImageView = .ok view ∧
    (∀ mapping ∈ image.mappings, mapping.permissions.has .execute = true →
      mapping.range.base = fixture.codeBase ∧ mapping.range.size.toNat = code.length) ∧
    (∀ i < code.length, view.readByte ⟨fixture.codeBase.value + UInt64.ofNat i⟩ =
      .ok (code.getD i 0)) ∧
    (∀ i < kProbeHelloMessage.length,
      view.readByte ⟨fixture.dataBase.value + UInt64.ofNat i⟩ = .ok (kProbeHelloMessage.getD i 0)) ∧
    disassemble fixture.codeBase.value code = some
      [(fixture.codeBase.value, .movRdi fixture.dataBase.value),
        (fixture.codeBase.value + 10, .movRsi (UInt64.ofNat kProbeHelloMessage.length)),
        (fixture.codeBase.value + 20, .call fixture.gateBase.value),
        (fixture.codeBase.value + 25, .cmpRax (UInt64.ofNat kProbeHelloMessage.length)),
        (fixture.codeBase.value + 29, .jne (fixture.codeBase.value + 46)),
        (fixture.codeBase.value + 31, .movRdi 42),
        (fixture.codeBase.value + 41, .call (fixture.gateBase.value + 16)),
        (fixture.codeBase.value + 46, .ud2)]

theorem helloLoaded_of_fixtureOf (hfixture : FixtureOf guestBase pageSize fixture)
    (himage : ProbeImage guestBase pageSize fixture image) :
    HelloLoaded pageSize fixture image := by
  have hlarge := hfixture.fits.large
  have hspace := hfixture.fits.space
  have hgate := hfixture.gateBase
  have hdata := hfixture.dataBase
  have hstackBase := hfixture.stackBase
  have hstackSize := hfixture.stackSize
  obtain ⟨dataOffset, code, hlayout, hbytes, hcode⟩ := exists_fileLayout hfixture
  obtain ⟨dataOffset', hoffset, hsegments⟩ := himage.segments
  cases UInt64.toNat_inj.mp (hoffset.trans hlayout.dataOffset.symm)
  have hbuilt := builtFrom_of_buildGuestImage himage.built
  obtain ⟨view, hview⟩ := hbuilt.view
  rw [← hbuilt.bytes] at hview
  have himageBytes : image.imageBytes =
      fileBytes guestBase.value fixture.dataBase.value pageSize dataOffset code :=
    hbuilt.bytes.trans hbytes
  have hroom : guestBase.value.toNat + 46 < 2 ^ 64 := by
    rw [GuestAddress.toNat] at hspace
    omega
  have hread : ∀ {ph : ProgramHeader} {data : List UInt8},
      ph ∈ [codeSegment guestBase.value pageSize,
        messageSegment fixture.dataBase.value pageSize dataOffset] →
      ph.type = kPtLoad → data.length = ph.fileSize.toNat →
      ph.virtualAddress.toNat + data.length < 2 ^ 64 →
      (ph.offset.toNat, data) ∈
        writeFile guestBase.value fixture.dataBase.value pageSize dataOffset code →
      ∀ i < data.length, view.readByte ⟨ph.virtualAddress + UInt64.ofNat i⟩ =
        .ok (data.getD i 0) := by
    intro ph data hmem htype hlength hfits hwrite
    have hload : ph ∈ loadSegments image.elf.programHeaders := by
      rw [mem_loadSegments, hsegments]
      exact ⟨hmem, htype⟩
    have hslice := slice_fileBytes hlayout hwrite
    rw [← himageBytes] at hslice
    exact readByte_segment hbuilt hview hload hlength hfits hslice
  refine ⟨himage.built, ?_, fun hostPageSize hpower hdvd =>
    exists_plan_probe hfixture himage hpower hdvd, ?_, view, code, hview, ?_, ?_, ?_, ?_⟩
  · rw [himage.entry, hfixture.codeBase]
  · rw [himage.stackStorage, GuestRange.contains_eq_false, GuestRange.mem_def, GuestRange.last]
    omega
  · intro mapping hmem hexecute
    obtain ⟨first, second, hmappings, hprobe⟩ := himage.mappings
    rw [hmappings, List.mem_cons, List.mem_singleton] at hmem
    rcases hmem with rfl | rfl
    · rw [hfixture.codeBase, hlayout.codeSize]
      exact ⟨GuestAddress.toNat_inj.mp hprobe.codeBase, hprobe.codeSize⟩
    · rw [hprobe.messagePermissions] at hexecute
      exact absurd hexecute (by decide)
  · rw [hfixture.codeBase]
    refine hread (@List.mem_cons_self _ (codeSegment guestBase.value pageSize) _) rfl
      hlayout.codeSize ?_ ?_
    · change guestBase.toNat + code.length < 2 ^ 64
      rw [hlayout.codeSize]
      omega
    · simp [writeFile, codeSegment]
  · refine hread (List.mem_cons_of_mem _
      (List.mem_singleton_self (messageSegment fixture.dataBase.value pageSize dataOffset)))
      rfl rfl ?_ ?_
    · change fixture.dataBase.toNat + 16 < 2 ^ 64
      omega
    · simp [writeFile, messageSegment]
  · rw [hfixture.codeBase, hcode]
    have hfits := hfixture.gates
    rw [hfixture.codeBase] at hfits
    rw [disassemble_assemble (hfits.fits hroom), withAddresses_probeProgram]
    rfl

/-- A gate does not lie in the address space, or is more than `2 ^ 31 - 1` bytes from the
instruction behind its call. -/
def GateOutOfReach (gate returnAddress : ℕ) : Prop :=
  2 ^ 64 ≤ gate ∨ (2 ^ 31 - 1 : ℤ) < |(gate : ℤ) - returnAddress|

/-- **The hello probe is loaded**, and does what it should. There is a fixture for exactly the bases
and page sizes that fit; its image is built, the memory is planned without the page of the gates,
and the program is found at the entry point. That a call is out of range is only said where one of
the gates is. -/
theorem probeHello_loadable (guestBase : GuestAddress) (pageSize : UInt64) :
    ((∃ fixture, buildProbeHelloFixture guestBase pageSize = .ok fixture) ↔
      FixtureFits guestBase pageSize) ∧
    (∀ fixture, buildProbeHelloFixture guestBase pageSize = .ok fixture →
      ∃ image, HelloLoaded pageSize fixture image) ∧
    ∀ e, buildProbeHelloFixture guestBase pageSize = .error e → e.code = .relativeCallOutOfRange →
      GateOutOfReach (guestBase.toNat + 3 * pageSize.toNat) (guestBase.toNat + 25) ∨
        GateOutOfReach (guestBase.toNat + 3 * pageSize.toNat + 16) (guestBase.toNat + 46) := by
  refine ⟨exists_fixture_iff, ?_, ?_⟩
  · intro fixture h
    have hfixture := fixtureOf_buildProbeHelloFixture h
    obtain ⟨image, himage⟩ := exists_probeImage hfixture
    exact ⟨image, helloLoaded_of_fixtureOf hfixture himage⟩
  · intro e h hcode
    have hfar := far_of_relativeCallOutOfRange h hcode
    refine .inl (.inr ?_)
    rw [lt_abs]
    push_cast
    omega

/-- With pages of 4096 bytes the probe is loaded at `0x40000000`. -/
theorem probeHello_loadable_at :
    ∃ fixture image, buildProbeHelloFixture ⟨0x40000000⟩ 0x1000 = .ok fixture ∧
      HelloLoaded 0x1000 fixture image := by
  obtain ⟨hfits, hloaded, -⟩ := probeHello_loadable ⟨0x40000000⟩ 0x1000
  obtain ⟨fixture, hfixture⟩ := hfits.mpr ⟨by decide, by decide, by decide, by decide, by decide⟩
  obtain ⟨image, himage⟩ := hloaded fixture hfixture
  exact ⟨fixture, image, hfixture, himage⟩

end Program

end Astraea.Probe
