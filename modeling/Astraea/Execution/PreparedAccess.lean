import Astraea.Execution.GuestMemory
import Astraea.Execution.WindowsMemory

/-!
# Access to prepared memory

A `GuestMemoryAccess` is made of an image and of the memory that a backend prepared. The backends
map every region of their plan at its own address, so no region is where a host maps nothing for a
program. On both hosts the top of the address space is the kernel's. `SparesLastPage` says this of
the calls that map memory, and `PreparedAccess.le_lastPage` what follows for the regions of every
access.
-/

namespace Astraea.Execution

open Astraea.Base Astraea.Memory Astraea.Loader

/-- Where the last page of the address space begins. -/
def lastPage : ℕ := 2 ^ 64 - 0x1000

/-- `mmap` gives a program nothing of the last page of the address space. -/
def LinuxHost.SparesLastPage (host : LinuxHost) : Prop :=
  ∀ address size mapped, host.mmap address size = .ok mapped →
    mapped.toNat + size.toNat ≤ lastPage

/-- Neither does `VirtualAlloc`. -/
def WindowsHost.SparesLastPage (host : WindowsHost) : Prop :=
  ∀ address size type protection, host.virtualAlloc address size type protection ≠ 0 →
    (host.virtualAlloc address size type protection).toNat + size.toNat ≤ lastPage

/-- The access to an image through what was prepared on Linux. -/
def GuestMemoryAccess.ofLinux (image : GuestImage) (prepared : LinuxPreparedMemory) :
    GuestMemoryAccess where
  image := image
  preparedPlan := prepared.plan
  preparedMemoryAvailable := !prepared.mappedRegions.isEmpty

/-- The access to an image through what was prepared on Windows. -/
def GuestMemoryAccess.ofWindows (image : GuestImage) (prepared : WindowsPreparedMemory) :
    GuestMemoryAccess where
  image := image
  preparedPlan := prepared.plan
  preparedMemoryAvailable := !prepared.reservationRanges.isEmpty

/-- The accesses there are: through memory that a backend prepared, or through none. -/
inductive PreparedAccess : GuestMemoryAccess → Prop
  | linux {host : LinuxHost} {counter : UInt64} {loaded image : GuestImage}
      {prepared : LinuxPreparedMemory} {mem : MappedStore} (hspares : host.SparesLastPage)
      (hprepared : (prepareLinuxGuestMemory host counter loaded).1 = .ok (prepared, mem)) :
      PreparedAccess (.ofLinux image prepared)
  | windows {host : WindowsHost} {counter : UInt64} {loaded image : GuestImage}
      {prepared : WindowsPreparedMemory} {mem : MappedStore} (hspares : host.SparesLastPage)
      (hprepared : (prepareWindowsGuestMemory host counter loaded).1 = .ok (prepared, mem)) :
      PreparedAccess (.ofWindows image prepared)
  | unprepared {memory : GuestMemoryAccess} (hnone : memory.preparedMemoryAvailable = false) :
      PreparedAccess memory

/-- Regions that end at or before the last page. -/
def RegionsSpareLastPage (plan : ExecutionMemoryPlan) : Prop :=
  ∀ region ∈ plan.regions, region.range.last ≤ lastPage

/-! ### Linux -/

section Linux

variable {host : LinuxHost} {image : GuestImage} {counter : UInt64}

theorem mmap_of_mapLinuxRegion {region : ExecutionMemoryRegion}
    {state mapped : List GuestRange × MappedStore}
    (h : mapLinuxRegion host state region = .ok mapped) :
    host.mmap region.range.base.value region.range.size.value = .ok region.range.base.value := by
  simp only [mapLinuxRegion, bind_eq_ok, refuseIf_eq_ok, mapError_eq_ok, not_not] at h
  obtain ⟨-, -, base, hmmap, -, hbase, -⟩ := h
  rw [hmmap, hbase]

/-- A preparation that succeeds has mapped every region of its plan. -/
theorem mmap_of_prepareLinuxGuestMemory {prepared : LinuxPreparedMemory} {mem : MappedStore}
    (h : (prepareLinuxGuestMemory host counter image).1 = .ok (prepared, mem)) :
    ∀ region ∈ prepared.plan.regions,
      host.mmap region.range.base.value region.range.size.value = .ok region.range.base.value := by
  rw [prepareLinuxGuestMemory] at h
  split at h
  · cases h
  · next regions loaded hregions =>
    have hplan : prepared.plan = regions.plan := by
      dsimp only at h
      split_ifs at h
      cases h
      rfl
    simp only [prepareLinuxRegions, bind_eq_ok, refuseIf_eq_ok, mapError_eq_ok, pure_eq_ok]
      at hregions
    obtain ⟨-, -, plan, -, mapped, hmapped, mem, -, -, -, hresult⟩ := hregions
    cases hresult
    rw [hplan]
    refine forall_of_foldlM_eq_ok ?_ hmapped
    intro state region next hturn
    exact mmap_of_mapLinuxRegion hturn

theorem LinuxHost.SparesLastPage.prepared (h : host.SparesLastPage) {prepared : LinuxPreparedMemory}
    {mem : MappedStore}
    (hprepared : (prepareLinuxGuestMemory host counter image).1 = .ok (prepared, mem)) :
    RegionsSpareLastPage prepared.plan := by
  intro region hregion
  exact h _ _ _ (mmap_of_prepareLinuxGuestMemory hprepared region hregion)

end Linux

/-! ### Windows -/

section Windows

variable {host : WindowsHost} {image : GuestImage} {counter : UInt64}

/-- A region that is committed is where it was asked for. -/
theorem virtualAlloc_of_commitRegion {region : ExecutionMemoryRegion} {mem committed : MappedStore}
    (h : commitRegion host mem region = .ok committed) : region.range.base.value ≠ 0 ∧
      host.virtualAlloc region.range.base.value region.range.size.value kMemCommit kPageReadWrite =
        region.range.base.value := by
  simp only [commitRegion, bind_eq_ok, refuseIf_eq_ok, not_not] at h
  obtain ⟨-, -, -, hnull, -, hbase, -⟩ := h
  rw [hbase] at hnull
  exact ⟨hnull, hbase⟩

/-- A preparation that succeeds has committed every region of its plan. -/
theorem virtualAlloc_of_prepareWindowsGuestMemory {prepared : WindowsPreparedMemory}
    {mem : MappedStore}
    (h : (prepareWindowsGuestMemory host counter image).1 = .ok (prepared, mem)) :
    ∀ region ∈ prepared.plan.regions, region.range.base.value ≠ 0 ∧
      host.virtualAlloc region.range.base.value region.range.size.value kMemCommit kPageReadWrite =
        region.range.base.value := by
  rw [prepareWindowsGuestMemory] at h
  split at h
  · cases h
  · next regions loaded hregions =>
    have hplan : prepared.plan = regions.plan := by
      dsimp only at h
      split_ifs at h
      cases h
      rfl
    simp only [prepareWindowsRegions, bind_eq_ok, mapError_eq_ok, pure_eq_ok] at hregions
    obtain ⟨plan, -, reservations, -, -, -, committed, hcommitted, mem, -, -, -, hresult⟩ :=
      hregions
    cases hresult
    rw [hplan]
    refine forall_of_foldlM_eq_ok ?_ hcommitted
    intro mem region next hturn
    exact virtualAlloc_of_commitRegion hturn

theorem WindowsHost.SparesLastPage.prepared (h : host.SparesLastPage)
    {prepared : WindowsPreparedMemory} {mem : MappedStore}
    (hprepared : (prepareWindowsGuestMemory host counter image).1 = .ok (prepared, mem)) :
    RegionsSpareLastPage prepared.plan := by
  intro region hregion
  obtain ⟨hnull, hbase⟩ := virtualAlloc_of_prepareWindowsGuestMemory hprepared region hregion
  have hend := h region.range.base.value region.range.size.value kMemCommit kPageReadWrite
    (by rw [hbase]; exact hnull)
  rw [hbase] at hend
  exact hend

end Windows

/-! ### What an access reaches -/

/-- **A range that an access accepts ends before the last page.** -/
theorem PreparedAccess.le_lastPage {memory : GuestMemoryAccess} (h : PreparedAccess memory)
    {address : GuestAddress} {byteCount validated : UInt64} {access : AccessKind}
    (hpos : 0 < byteCount.toNat)
    (hvalid : memory.validate address byteCount access = .ok validated) :
    address.toNat + byteCount.toNat ≤ lastPage := by
  by_cases havail : memory.preparedMemoryAvailable = true
  · have hspared : RegionsSpareLastPage memory.preparedPlan := by
      cases h with
      | linux hspares hprepared => exact hspares.prepared hprepared
      | windows hspares hprepared => exact hspares.prepared hprepared
      | unprepared hnone =>
        rw [hnone] at havail
        cases havail
    obtain ⟨-, hallows⟩ :=
      (GuestMemoryAccess.validate_iff havail hpos).mp ⟨validated, hvalid⟩
    have hlastByte : address.toNat + byteCount.toNat - 1 < address.toNat + byteCount.toNat := by
      omega
    obtain ⟨-, region, hregion, -, -, hend⟩ := hallows _ (by omega) hlastByte
    have hregionEnd := hspared region hregion
    omega
  · rw [Bool.not_eq_true] at havail
    rw [GuestMemoryAccess.validate, havail] at hvalid
    simp [refuseIf] at hvalid

/-! ### An image that is prepared -/

/-- A Linux host that maps what it is asked to below the addresses of the kernel. -/
def userLinux : LinuxHost where
  rawPageSize := 0x1000
  sysconfErrno := 0
  mmap := fun address size =>
    if address.toNat + size.toNat ≤ 0x7ffffffff000 then .ok address else .error 12
  mprotect := fun _ _ _ => none

theorem userLinux_sparesLastPage : userLinux.SparesLastPage := by
  intro address size mapped hmapped
  simp only [userLinux] at hmapped
  split_ifs at hmapped with hbelow
  cases hmapped
  exact hbelow.trans (by decide)

/-- Sixteen bytes of code on the first page that is used. -/
def codeMapping : MappingIntent where
  range := ⟨⟨0x1000⟩, ⟨16⟩, by decide⟩
  permissions := .fromElfFlags 5
  backing := ⟨.zeroFill, 0, ⟨16⟩⟩
  sourceIndex := 0

/-- Four words of data on the next one. -/
def dataMapping : MappingIntent where
  range := ⟨⟨0x2000⟩, ⟨32⟩, by decide⟩
  permissions := .fromElfFlags 6
  backing := ⟨.zeroFill, 0, ⟨32⟩⟩
  sourceIndex := 1

/-- An empty stack of one page. -/
def emptyStack : InitialStackImage where
  storage := stackPage
  usedRange := ⟨⟨0x8ff8⟩, ⟨0⟩, by decide⟩
  rsp := ⟨0x8ff8⟩
  bytes := []

/-- An image of code, data and a stack. -/
def dataImage : GuestImage :=
  { bareImage [codeMapping, dataMapping] emptyStack.storage with
    elf := ⟨⟨0, 0, 2, 62, 1, 0x1000, 0, 0, 0, 64, 56, 0, 0, 0, 0⟩, []⟩
    initialStack := emptyStack }

/-- The request for a plan of code, data and stack. -/
def dataPlanRequest : ExecutionMemoryPlanRequest where
  mappings := [codeMapping, dataMapping]
  stackStorage := emptyStack.storage
  entryPoint := ⟨0x1000⟩
  stackPointer := ⟨0x8ff8⟩
  hostPageSize := 0x1000
  inMemory := by decide

/-- Its plan: a page for the code, one for the data and one for the stack. -/
def dataPlan : ExecutionMemoryPlan where
  hostPageSize := 0x1000
  regions :=
    [⟨lowPage, .fromElfFlags 5, [⟨.mapping, 0⟩]⟩,
      ⟨nextPage, .fromElfFlags 6, [⟨.mapping, 1⟩]⟩,
      ⟨emptyStack.storage, stackPermissions, [⟨.initialStack, 0⟩]⟩]

theorem planOf_dataImage : planOf dataImage 0x1000 = .ok dataPlan := by
  have hcuts : (requestSpans dataPlanRequest).flatMap (fun span => span.firstPage ::
      if span.lastPage < maxPageIndex dataPlanRequest.hostPageSize.toNat then [span.lastPage + 1]
      else []) = [1, 2, 2, 3, 8, 9] := by
    decide +kernel
  have hbuild : buildExecutionMemoryPlan dataPlanRequest = .ok dataPlan := by
    rw [buildExecutionMemoryPlan_eq (by decide), boundaries, hcuts,
      List.mergeSort_of_pairwise (by decide)]
    decide +kernel
  exact hbuild

/-- The bytes of the image, all of them zero. -/
def dataView : InitializedImageView where
  imageBytes := []
  intents := [codeMapping, dataMapping]
  backed := by
    intro intent hintent
    rcases List.mem_pair.mp hintent with rfl | rfl
    · exact ⟨rfl, nofun, nofun⟩
    · exact ⟨rfl, nofun, nofun⟩
  sorted := by decide

theorem initializedImageView_dataImage : dataImage.initializedImageView = .ok dataView := by
  obtain ⟨view, hview⟩ := InitializedImageView.create_of_backed dataView.backed
  obtain ⟨hbytes, hintents⟩ := InitializedImageView.create_eq_ok hview
  have hsorted : sortIntents [codeMapping, dataMapping] = [codeMapping, dataMapping] :=
    List.mergeSort_of_pairwise (by decide)
  have heq : view = dataView := by
    cases view
    cases hbytes
    cases hintents.trans hsorted
    rfl
  exact heq ▸ hview

/-- What a Linux host prepares for it. -/
def dataPrepared : LinuxPreparedMemory where
  plan := dataPlan
  mappedRegions := dataPlan.regions.map ExecutionMemoryRegion.range
  mappingEpoch := 1

theorem prepareLinux_dataImage :
    ∃ mem, (prepareLinuxGuestMemory userLinux 1 dataImage).1 = .ok (dataPrepared, mem) := by
  have hregions : ∃ loaded, prepareLinuxRegions userLinux dataImage = .ok loaded ∧
      loaded.1 = { dataPrepared with mappingEpoch := 0 } := by
    have hrest : (prepareLinuxRegions userLinux dataImage).toOption.any (fun loaded =>
      decide (loaded.1 = { dataPrepared with mappingEpoch := 0 })) = true := by
      have hsize : UInt64.ofNat userLinux.rawPageSize.toNat = 0x1000 := rfl
      rw [prepareLinuxRegions, hsize, planOf_dataImage]
      simp only [loadImage, initializedImageView_dataImage]
      decide +kernel
    obtain ⟨loaded, hloaded, hplan⟩ := exists_of_any hrest
    exact ⟨loaded, hloaded, of_decide_eq_true hplan⟩
  obtain ⟨⟨prepared, mem⟩, hloaded, hprepared⟩ := hregions
  cases hprepared
  refine ⟨mem, ?_⟩
  rw [prepareLinuxGuestMemory, hloaded]
  rfl

end Astraea.Execution
