import Astraea.Base.MappedStore
import Astraea.Execution.MappingEpoch
import Astraea.Execution.MemoryPlan
import Astraea.Loader.ElfAcceptance

/-!
# Native memory for an image

Before a guest runs, the pages of its memory plan are mapped at their guest addresses,
the initialized image and the initial stack are copied into them, and the pages get
their final protection. `prepare_linux_guest_memory` does this with `mmap` and
`mprotect`; the Windows backend shares everything in between.

The host is a record of what its calls return, and memory is a `MappedStore`: a write to
an address that is not mapped is a fault, a failure apart from every error the backend
reports. Memory that is prepared and then given up leaves nothing behind, so a failure
has no memory.

`HoldsImage` says what the memory of an image is. `loadImage_holds` is the part the two
backends share, and `prepareLinuxGuestMemory_holds` the result for Linux.
-/

namespace Astraea.Execution

open Astraea.Base Astraea.Memory Astraea.Loader

/-- Why the backend fails. -/
inductive NativeBackendErrorCode where
  | guestAddressUnavailable
  | hostPageArithmeticOverflow
  | hostMappingFailure
  | hostProtectionFailure
  | instructionCacheSyncFailure
  | mixedWriteExecutePage
  | stackMappingFailure
  | entryPointUnmapped
  | entryPointNotExecutable
  | stackPointerUnmapped
  | internalTransitionFailure
  deriving DecidableEq

/-- An error of the backend, with that of the system. -/
structure NativeBackendError where
  code : NativeBackendErrorCode
  guestAddress : Option UInt64 := none
  hostCode : Option UInt64 := none
  deriving DecidableEq

/-- How a preparation ends when it does not succeed. -/
inductive PreparationFailure where
  /-- The backend reports an error. -/
  | refused (e : NativeBackendError)
  /-- A write outside what is mapped. -/
  | fault
  deriving DecidableEq

/-- The plan of an image at a page size. No image has so many mappings that their spans
could not be counted; `host_allocation_failure` is what the source would say. -/
def planOf (image : GuestImage) (pageSize : UInt64) :
    Except ExecutionPlanError ExecutionMemoryPlan :=
  if h : image.mappings.length + 1 ≤ (2 ^ 64 - 1) / 2 then
    buildExecutionMemoryPlan
      { mappings := image.mappings, stackStorage := image.initialStack.storage,
        entryPoint := ⟨image.elf.header.entry⟩, stackPointer := image.initialStack.rsp,
        hostPageSize := pageSize, inMemory := h }
  else .error ⟨.hostAllocationFailure, none⟩

/-- `plan_error`. -/
def planError (e : ExecutionPlanError) : NativeBackendError where
  code :=
    match e.code with
    | .invalidHostPageSize => .hostPageArithmeticOverflow
    | .hostPageArithmeticOverflow => .hostPageArithmeticOverflow
    | .mixedWriteExecutePage => .mixedWriteExecutePage
    | .entryPointUnmapped => .entryPointUnmapped
    | .entryPointNotExecutable => .entryPointNotExecutable
    | .stackPointerUnmapped => .stackPointerUnmapped
    | .permissionConstructionFailure => .internalTransitionFailure
    | .hostAllocationFailure => .internalTransitionFailure
  guestAddress := e.guestAddress.map GuestAddress.value

/-! ### Copying the image -/

/-- One turn of the loop over the mappings. -/
def copyMapping (view : InitializedImageView) (mem : MappedStore) (mapping : MappingIntent) :
    Except PreparationFailure MappedStore :=
  if mapping.range.empty = true then .ok mem
  else do
    let bytes ← (view.copyBytes mapping.range mapping.range.size.toNat).mapError fun e =>
      .refused
        { code := .internalTransitionFailure,
          guestAddress := e.guestAddress.map GuestAddress.value }
    orRefuse (mem.write (mapping.range.base.toNat, bytes)) .fault

/-- The copy of the initial stack. -/
def copyStack (stack : InitialStackImage) (mem : MappedStore) :
    Except PreparationFailure MappedStore := do
  let stackByteCount := UInt64.ofNat stack.bytes.length
  let refusal := PreparationFailure.refused
    { code := .stackMappingFailure, guestAddress := some stack.usedRange.base.value }
  refuseIf (stack.usedRange.size.value ≠ stackByteCount) refusal
  if stackByteCount = 0 then
    return mem
  let usedLast ← (stack.usedRange.base.checkedAdd ⟨stackByteCount - 1⟩).mapError fun _ => refusal
  refuseIf (stack.storage.contains stack.usedRange.base = false ∨
    stack.storage.contains usedLast = false) refusal
  orRefuse (mem.write (stack.usedRange.base.toNat, stack.bytes)) .fault

/-- What is copied into the pages once they are mapped. -/
def loadImage (image : GuestImage) (mem : MappedStore) : Except PreparationFailure MappedStore := do
  let view ← image.initializedImageView.mapError fun _ =>
    .refused { code := .internalTransitionFailure }
  let mem ← image.mappings.foldlM (copyMapping view) mem
  copyStack image.initialStack mem

/-! ### Linux -/

/-- What a Linux host answers. -/
structure LinuxHost where
  /-- `sysconf(_SC_PAGESIZE)`. -/
  rawPageSize : ℤ
  /-- The error number a failed `sysconf` leaves. -/
  sysconfErrno : UInt64
  /-- The address `mmap` returns for an address and a size, or the error number of `MAP_FAILED`. -/
  mmap : UInt64 → UInt64 → Except UInt64 UInt64
  /-- The error number of a failed `mprotect`, for an address, a size and a protection. -/
  mprotect : UInt64 → UInt64 → UInt32 → Option UInt64

/-- Memory that was prepared: its plan and what was mapped for it. -/
structure LinuxPreparedMemory where
  plan : ExecutionMemoryPlan
  mappedRegions : List GuestRange
  mappingEpoch : UInt64
  deriving DecidableEq

/-- `EEXIST`: there is something at the address. -/
def kEexist : UInt64 := 17

/-- `PROT_READ`, `PROT_WRITE` and `PROT_EXEC`. -/
def linuxFinalProtection (permissions : GuestPermissions) : UInt32 :=
  (if permissions.has .read then 1 else 0) ||| (if permissions.has .write then 2 else 0) |||
    (if permissions.has .execute then 4 else 0)

/-- One turn of the loop that maps the regions. -/
def mapLinuxRegion (host : LinuxHost) (state : List GuestRange × MappedStore)
    (region : ExecutionMemoryRegion) :
    Except PreparationFailure (List GuestRange × MappedStore) := do
  let base := region.range.base.value
  let size := region.range.size.value
  refuseIf (size = 0) (.refused { code := .hostPageArithmeticOverflow, guestAddress := some base })
  let mapped ← (host.mmap base size).mapError fun errno =>
    .refused ⟨if errno = kEexist then .guestAddressUnavailable else .hostMappingFailure, some base,
      some errno⟩
  refuseIf (mapped ≠ base)
    (.refused { code := .guestAddressUnavailable, guestAddress := some base })
  return (state.1 ++ [region.range], state.2.mapZero base.toNat size.toNat)

/-- One turn of the loop that protects them. -/
def protectLinuxRegion (host : LinuxHost) (region : ExecutionMemoryRegion) :
    Except PreparationFailure Unit := do
  let base := region.range.base.value
  let size := region.range.size.value
  refuseIf (size = 0) (.refused { code := .hostPageArithmeticOverflow, guestAddress := some base })
  match host.mprotect base size (linuxFinalProtection region.permissions) with
  | some errno => .error (.refused ⟨.hostProtectionFailure, some base, some errno⟩)
  | none => .ok ()

/-- Everything before the epoch. -/
def prepareLinuxRegions (host : LinuxHost) (image : GuestImage) :
    Except PreparationFailure (LinuxPreparedMemory × MappedStore) := do
  refuseIf (host.rawPageSize ≤ 0)
    (.refused { code := .internalTransitionFailure, hostCode := some host.sysconfErrno })
  let plan ← (planOf image (UInt64.ofNat host.rawPageSize.toNat)).mapError fun e =>
    .refused (planError e)
  let mapped ← plan.regions.foldlM (mapLinuxRegion host) ([], MappedStore.nothing)
  let mem ← loadImage image mapped.2
  plan.regions.forM (protectLinuxRegion host)
  return (⟨plan, mapped.1, 0⟩, mem)

/-- `prepare_linux_guest_memory`, with the counter of epochs. -/
def prepareLinuxGuestMemory (host : LinuxHost) (counter : UInt64) (image : GuestImage) :
    Except PreparationFailure (LinuxPreparedMemory × MappedStore) × UInt64 :=
  match prepareLinuxRegions host image with
  | .error e => (.error e, counter)
  | .ok (prepared, mem) =>
    let (epoch, counter) := nextPreparedMappingEpoch counter
    if epoch = 0 then (.error (.refused { code := .internalTransitionFailure }), counter)
    else (.ok ({ prepared with mappingEpoch := epoch }, mem), counter)

/-! ### What prepared memory holds -/

variable {x : ℕ}

/-- The memory of an image whose pages are those of a plan. -/
structure HoldsImage (image : GuestImage) (view : InitializedImageView) (plan : ExecutionMemoryPlan)
    (mem : MappedStore) : Prop where
  /-- The pages of the plan are mapped and nothing else is. -/
  mapped : ∀ x, (mem x).isSome = true ↔ ∃ region ∈ plan.regions, x ∈ region.range
  /-- An address of a mapping holds the byte the view reads there. -/
  mapping : ∀ mapping ∈ image.mappings, ∀ address : GuestAddress, address.toNat ∈ mapping.range →
    ∃ byte, view.readByte address = .ok byte ∧ mem address.toNat = some byte
  /-- The used part of the stack has as many bytes as its image. -/
  stackSize : image.initialStack.bytes.length = image.initialStack.usedRange.size.toNat
  /-- An address of the used part of the stack holds the byte of its image. -/
  stack : ∀ x ∈ image.initialStack.usedRange,
    mem x = some (image.initialStack.bytes.getD (x - image.initialStack.usedRange.base.toNat) 0)
  /-- Every other address of the pages holds zero. -/
  zero : ∀ x, (∃ region ∈ plan.regions, x ∈ region.range) →
    (∀ mapping ∈ image.mappings, x ∉ mapping.range) →
    x ∉ image.initialStack.usedRange → mem x = some 0

section Uniqueness

variable {image : GuestImage} {view : InitializedImageView} {plan plan' : ExecutionMemoryPlan}
  {mem mem' : MappedStore}

/-- Two memories of one image agree wherever both have a byte. -/
theorem HoldsImage.eq_of_mapped (h : HoldsImage image view plan mem)
    (h' : HoldsImage image view plan' mem') (hx : (mem x).isSome = true)
    (hx' : (mem' x).isSome = true) : mem x = mem' x := by
  by_cases hmapping : ∃ mapping ∈ image.mappings, x ∈ mapping.range
  · obtain ⟨mapping, hmem, hin⟩ := hmapping
    have haddress := mapping.range.toNat_address hin
    obtain ⟨byte, hread, hbyte⟩ := h.mapping mapping hmem ⟨UInt64.ofNat x⟩ (by rwa [haddress])
    obtain ⟨byte', hread', hbyte'⟩ := h'.mapping mapping hmem ⟨UInt64.ofNat x⟩ (by rwa [haddress])
    rw [haddress] at hbyte hbyte'
    rw [hread] at hread'
    cases hread'
    rw [hbyte, hbyte']
  · have hnone : ∀ mapping ∈ image.mappings, x ∉ mapping.range :=
      fun mapping hmem hin => hmapping ⟨mapping, hmem, hin⟩
    by_cases hstack : x ∈ image.initialStack.usedRange
    · rw [h.stack x hstack, h'.stack x hstack]
    · rw [h.zero x ((h.mapped x).mp hx) hnone hstack, h'.zero x ((h'.mapped x).mp hx') hnone hstack]

theorem HoldsImage.unique (h : HoldsImage image view plan mem)
    (h' : HoldsImage image view plan mem') : mem = mem' := by
  funext x
  by_cases hx : (mem x).isSome = true
  · exact h.eq_of_mapped h' hx ((h'.mapped x).mpr ((h.mapped x).mp hx))
  · have hx' : ¬ (mem' x).isSome = true := fun hx' => hx ((h.mapped x).mpr ((h'.mapped x).mp hx'))
    rw [Bool.not_eq_true, Option.isSome_eq_false_iff, Option.isNone_iff_eq_none] at hx hx'
    rw [hx, hx']

end Uniqueness

/-- Zeros at all regions of a plan. -/
def mapRegions (mem : MappedStore) (regions : List ExecutionMemoryRegion) : MappedStore :=
  regions.foldl (fun mem region => mem.mapZero region.range.base.toNat region.range.size.toNat) mem

variable {regions : List ExecutionMemoryRegion}

theorem mapRegions_of_not_mem {mem : MappedStore} (h : ∀ region ∈ regions, x ∉ region.range) :
    mapRegions mem regions x = mem x := by
  induction regions generalizing mem with
  | nil => rfl
  | cons region regions ih =>
    rw [List.forall_mem_cons] at h
    rw [mapRegions, List.foldl_cons]
    exact (ih h.2).trans (MappedStore.mapZero_of_not_mem h.1)

theorem mapRegions_of_mem {mem : MappedStore} (h : ∃ region ∈ regions, x ∈ region.range) :
    mapRegions mem regions x = some 0 := by
  induction regions generalizing mem with
  | nil => simp at h
  | cons region regions ih =>
    rw [mapRegions, List.foldl_cons]
    by_cases hrest : ∃ region ∈ regions, x ∈ region.range
    · exact ih hrest
    · have hfirst : x ∈ region.range := by
        obtain ⟨found, hfound, hx⟩ := h
        rcases List.mem_cons.mp hfound with rfl | hfound
        · exact hx
        · exact absurd ⟨found, hfound, hx⟩ hrest
      exact (mapRegions_of_not_mem fun region hregion hx => hrest ⟨region, hregion, hx⟩).trans
        (MappedStore.mapZero_of_mem hfirst)

/-! ### The copy -/

/-- The byte a view reads at an address; zero where it reads none. -/
def viewByte (view : InitializedImageView) (x : ℕ) : UInt8 :=
  (view.readByte ⟨UInt64.ofNat x⟩).toOption.getD 0

section Copy

variable {view : InitializedImageView}

variable {mappings : List MappingIntent} {stack : InitialStackImage}

section

variable
  (hread : ∀ mapping ∈ mappings, ∀ address : GuestAddress, address.toNat ∈ mapping.range →
    ∃ byte, view.readByte address = .ok byte)

include hread

/-- The loop over the mappings is a run of writes: one for each mapping, of the bytes the
view reads over it. -/
theorem copyMappings_eq :
    ∃ patches : List Patch,
      (∀ mem : MappedStore, mappings.foldlM (copyMapping view) mem =
        orRefuse (mem.writeAll patches) .fault) ∧
      (∀ p ∈ patches, ∃ mapping ∈ mappings, (∀ x, p.Hits x ↔ x ∈ mapping.range) ∧
        ∀ address : GuestAddress, address.toNat ∈ mapping.range →
          view.readByte address = .ok (p.2.getD (address.toNat - p.1) 0)) ∧
      ∀ mapping ∈ mappings, ∀ x ∈ mapping.range, ∃ p ∈ patches, p.Hits x := by
  induction mappings with
  | nil => exact ⟨[], fun mem => rfl, by simp, by simp⟩
  | cons mapping mappings ih =>
    rw [List.forall_mem_cons] at hread
    obtain ⟨patches, hrun, hpatch, hcover⟩ := ih hread.2
    have hlift : ∀ p ∈ patches, ∃ mapping' ∈ mapping :: mappings,
      (∀ x, p.Hits x ↔ x ∈ mapping'.range) ∧
        ∀ address : GuestAddress, address.toNat ∈ mapping'.range →
          view.readByte address = .ok (p.2.getD (address.toNat - p.1) 0) := by
      intro p hp
      obtain ⟨found, hfound, hspec⟩ := hpatch p hp
      exact ⟨found, List.mem_cons_of_mem _ hfound, hspec⟩
    by_cases hempty : mapping.range.empty = true
    · refine ⟨patches, ?_, hlift, List.forall_mem_cons.mpr ⟨?_, hcover⟩⟩
      · intro mem
        rw [List.foldlM_cons, copyMapping, if_pos hempty]
        exact hrun mem
      · intro x hx
        rw [GuestRange.empty_iff] at hempty
        rw [GuestRange.mem_def, GuestRange.last] at hx
        omega
    · obtain ⟨bytes, hbytes, hlength, hbyte⟩ := InitializedImageView.copyBytes_of_readable hread.1
      have hhits : ∀ x, Patch.Hits (mapping.range.base.toNat, bytes) x ↔ x ∈ mapping.range := by
        intro x
        rw [Patch.Hits, GuestRange.mem_def, GuestRange.last, hlength]
      refine ⟨(mapping.range.base.toNat, bytes) :: patches, ?_,
        List.forall_mem_cons.mpr ⟨?_, hlift⟩, List.forall_mem_cons.mpr ⟨?_, ?_⟩⟩
      · intro mem
        rw [List.foldlM_cons, copyMapping, if_neg hempty, hbytes, MappedStore.writeAll,
          List.foldlM_cons]
        cases hwrite : mem.write (mapping.range.base.toNat, bytes) with
        | none =>
          simp only [Except.mapError, ok_bind, hwrite]
          rfl
        | some next =>
          simp only [Except.mapError, ok_bind, hwrite]
          exact hrun next
      · exact ⟨mapping, List.mem_cons_self, hhits, hbyte⟩
      · intro x hx
        exact ⟨_, List.mem_cons_self, (hhits x).mpr hx⟩
      · intro other hother x hx
        obtain ⟨p, hp, hpx⟩ := hcover other hother x hx
        exact ⟨p, List.mem_cons_of_mem _ hp, hpx⟩

/-- **The mappings are copied.** Over mapped memory the loop leaves the byte the view reads
at every address of a mapping, and the rest as it was; where mappings overlap, the
copies write the same byte. -/
theorem copyMappings_spec {mem : MappedStore}
    (hmapped : ∀ mapping ∈ mappings, ∀ x ∈ mapping.range, (mem x).isSome = true) :
    ∃ copied, mappings.foldlM (copyMapping view) mem = .ok copied ∧
      (∀ mapping ∈ mappings, ∀ x ∈ mapping.range, copied x = some (viewByte view x)) ∧
      ∀ x, (∀ mapping ∈ mappings, x ∉ mapping.range) → copied x = mem x := by
  obtain ⟨patches, hrun, hpatch, hcover⟩ := copyMappings_eq hread
  have hvalue : ∀ p ∈ patches, ∀ x, p.Hits x → p.2.getD (x - p.1) 0 = viewByte view x := by
    intro p hp x hx
    obtain ⟨mapping, -, hhits, hbyte⟩ := hpatch p hp
    have haddress := mapping.range.toNat_address ((hhits x).mp hx)
    have hbyte := hbyte ⟨UInt64.ofNat x⟩ (by rw [haddress]; exact (hhits x).mp hx)
    rw [haddress] at hbyte
    rw [viewByte, hbyte]
    rfl
  have hplace : ∀ p ∈ patches, ∀ x, p.Hits x → (mem x).isSome = true := by
    intro p hp x hx
    obtain ⟨mapping, hmapping, hhits, -⟩ := hpatch p hp
    exact hmapped mapping hmapping x ((hhits x).mp hx)
  obtain ⟨copied, hcopied, hin, hout⟩ := MappedStore.writeAll_spec hvalue hplace
  refine ⟨copied, ?_, ?_, ?_⟩
  · rw [hrun, hcopied]
    rfl
  · intro mapping hmapping x hx
    exact hin x (hcover mapping hmapping x hx)
  · intro x hx
    refine hout x ?_
    intro p hp hpx
    obtain ⟨mapping, hmapping, hhits, -⟩ := hpatch p hp
    exact hx mapping hmapping ((hhits x).mp hpx)

end

section

variable (hsize : stack.bytes.length = stack.usedRange.size.toNat)
  (hpos : 0 < stack.usedRange.size.toNat)
  (hbase : stack.storage.base.toNat ≤ stack.usedRange.base.toNat)
  (hlast : stack.usedRange.last = stack.storage.last)

include hsize hpos hbase hlast

/-- The stack is copied when its used part lies in its storage. -/
theorem copyStack_eq (mem : MappedStore) :
    copyStack stack mem = orRefuse
      (mem.write (stack.usedRange.base.toNat, stack.bytes)) .fault := by
  have hwrap := stack.usedRange.noWrap
  rw [GuestRange.last] at hlast
  have hcount : UInt64.ofNat stack.bytes.length = stack.usedRange.size.value := by
    rw [hsize, GuestSize.toNat, UInt64.ofNat_toNat]
  have hne := GuestSize.value_ne_zero hpos
  have hone : (1 : UInt64) ≤ stack.usedRange.size.value := UInt64.le_iff_toNat_le.mpr hpos
  have hminus : (GuestSize.mk (stack.usedRange.size.value - 1)).toNat =
      stack.usedRange.size.toNat - 1 := by
    rw [GuestSize.toNat_mk, UInt64.toNat_sub_of_le _ _ hone, UInt64.toNat_one, GuestSize.toNat]
  have hlt : stack.usedRange.base.toNat + (GuestSize.mk (stack.usedRange.size.value - 1)).toNat <
      2 ^ 64 := by
    rw [hminus]
    omega
  have hadd := GuestAddress.checkedAdd_of_lt hlt
  have husedLast := (GuestAddress.checkedAdd_eq_ok hadd).2
  have hfirst : stack.storage.contains stack.usedRange.base = true := by
    rw [GuestRange.contains_iff, GuestRange.mem_def]
    omega
  have hfinal : stack.storage.contains
      ⟨stack.usedRange.base.value + (stack.usedRange.size.value - 1)⟩ = true := by
    rw [GuestRange.contains_iff, GuestRange.mem_def, husedLast]
    omega
  simp only [copyStack, hcount]
  rw [refuseIf_of_not fun hdiffer => hdiffer rfl, ok_bind, if_neg hne, hadd, mapError_ok, ok_bind,
    refuseIf_of_not, ok_bind]
  rw [hfirst, hfinal]
  simp

theorem copyStack_spec {mem : MappedStore}
    (hmapped : ∀ x ∈ stack.usedRange, (mem x).isSome = true) :
    ∃ copied, copyStack stack mem = .ok copied ∧
      (∀ x ∈ stack.usedRange, copied x =
        some (stack.bytes.getD (x - stack.usedRange.base.toNat) 0)) ∧
      ∀ x, x ∉ stack.usedRange → copied x = mem x := by
  have hhits : ∀ x, Patch.Hits (stack.usedRange.base.toNat, stack.bytes) x ↔
      x ∈ stack.usedRange := by
    intro x
    rw [Patch.Hits, GuestRange.mem_def, GuestRange.last, hsize]
  have hplace : ∀ x, Patch.Hits (stack.usedRange.base.toNat, stack.bytes) x →
      (mem x).isSome = true :=
    fun x hx => hmapped x ((hhits x).mp hx)
  obtain ⟨copied, hcopied, hin, hout⟩ := MappedStore.write_spec hplace
  refine ⟨copied, ?_, fun x hx => hin x ((hhits x).mpr hx),
    fun x hx => hout x fun hpx => hx ((hhits x).mp hpx)⟩
  rw [copyStack_eq hsize hpos hbase hlast, hcopied]
  rfl

end

end Copy

section Load

variable {request : GuestImageRequest} {image : GuestImage} {pageSize : UInt64}
  {plan : ExecutionMemoryPlan}

/-- What a plan says about an image: its pages are those that a mapping or the stack
touches, and none is empty. -/
theorem planOf_covers (h : planOf image pageSize = .ok plan) :
    (∀ mapping ∈ image.mappings, ∀ x ∈ mapping.range, ∃ region ∈ plan.regions, x ∈ region.range) ∧
      (∀ x ∈ image.initialStack.storage, ∃ region ∈ plan.regions, x ∈ region.range) ∧
      ∀ region ∈ plan.regions, 0 < region.range.size.toNat := by
  unfold planOf at h
  split_ifs at h with hcount
  have hexact := planExact h
  refine ⟨?_, ?_, ?_⟩
  · intro mapping hmapping x hx
    exact (hexact.covered x (lt_of_lt_of_le hx.2 mapping.range.last_le)).mpr
      ⟨_, _, .mapping hmapping ⟨x, hx, rfl⟩⟩
  · intro x hx
    exact (hexact.covered x (lt_of_lt_of_le hx.2 image.initialStack.storage.last_le)).mpr
      ⟨_, _, .stack ⟨x, hx, rfl⟩⟩
  · intro region hregion
    exact (hexact.aligned region hregion).2.2

/-- **The image is loaded.** Over the zeroed pages of its plan an image that was built is
copied without a failure and without a fault, and the memory is the image. -/
theorem loadImage_holds (hbuilt : BuiltFrom request image)
    (hstack : StackInMemory request.initialStack) (hplan : planOf image pageSize = .ok plan) :
    ∃ view, image.initializedImageView = .ok view ∧ ∃ mem,
      loadImage image (mapRegions MappedStore.nothing plan.regions) = .ok mem ∧
      HoldsImage image view plan mem := by
  obtain ⟨view, hview⟩ : ∃ view, image.initializedImageView = .ok view := by
    obtain ⟨view, hview⟩ := hbuilt.view
    rw [← hbuilt.bytes] at hview
    exact ⟨view, hview⟩
  have hlaw := hbuilt.initializedLaw hview
  obtain ⟨hcoverMapping, hcoverStack, -⟩ := planOf_covers hplan
  obtain ⟨hsize, hbase, hlast, hpos⟩ := usedRange_of_buildInitialStack hstack hbuilt.stack
  rw [← storage_of_buildInitialStack hbuilt.stack] at hbase hlast
  have hused : ∀ x ∈ image.initialStack.usedRange, x ∈ image.initialStack.storage := by
    intro x hx
    rw [GuestRange.mem_def] at hx ⊢
    omega
  have hread : ∀ mapping ∈ image.mappings, ∀ address : GuestAddress, address.toNat ∈ mapping.range →
      ∃ byte, view.readByte address = .ok byte :=
    fun mapping hmapping address hin => (hlaw address).readable.mpr ⟨mapping, hmapping, hin⟩
  -- the stack is apart from the mappings, so its copy changes none of their bytes
  have hapart : ∀ x ∈ image.initialStack.usedRange, ∀ mapping ∈ image.mappings, x ∉
      mapping.range := by
    intro x hx mapping hmapping
    have happart := (hlaw ⟨UInt64.ofNat x⟩).stack
    rw [image.initialStack.usedRange.toNat_address hx] at happart
    exact happart (hused x hx) mapping hmapping
  have hzeroed : ∀ x, (∃ region ∈ plan.regions, x ∈ region.range) →
      (mapRegions MappedStore.nothing plan.regions x).isSome = true := by
    intro x hx
    rw [mapRegions_of_mem hx]
    rfl
  obtain ⟨copied, hcopied, hmapping, hmiss⟩ := copyMappings_spec hread
    fun mapping hmapping x hx => hzeroed x (hcoverMapping mapping hmapping x hx)
  have hplace : ∀ x ∈ image.initialStack.usedRange, (copied x).isSome = true := by
    intro x hx
    rw [hmiss x (hapart x hx)]
    exact hzeroed x (hcoverStack x (hused x hx))
  obtain ⟨mem, hmem, hstackIn, hstackOut⟩ := copyStack_spec hsize hpos hbase hlast hplace
  refine ⟨view, hview, mem, ?_, ?_, ?_, hsize, hstackIn, ?_⟩
  · rw [loadImage, hview, mapError_ok, ok_bind, hcopied, ok_bind, hmem]
  · intro x
    by_cases hx : x ∈ image.initialStack.usedRange
    · rw [hstackIn x hx]
      exact ⟨fun _ => hcoverStack x (hused x hx), fun _ => rfl⟩
    · rw [hstackOut x hx]
      by_cases hin : ∃ mapping ∈ image.mappings, x ∈ mapping.range
      · obtain ⟨mapping, hmem, hin⟩ := hin
        rw [hmapping mapping hmem x hin]
        exact ⟨fun _ => hcoverMapping mapping hmem x hin, fun _ => rfl⟩
      · rw [hmiss x fun mapping hmem hx => hin ⟨mapping, hmem, hx⟩]
        refine ⟨?_, hzeroed x⟩
        intro hsome
        by_contra hnone
        rw [mapRegions_of_not_mem fun region hregion hx => hnone ⟨region, hregion, hx⟩] at hsome
        cases hsome
  · intro mapping hmem address hin
    obtain ⟨byte, hbyte⟩ := hread mapping hmem address hin
    refine ⟨byte, hbyte, ?_⟩
    rw [hstackOut _ fun hx => hapart _ hx mapping hmem hin, hmapping mapping hmem _ hin, viewByte]
    have haddress : GuestAddress.mk (UInt64.ofNat address.toNat) = address := by
      rw [GuestAddress.toNat, UInt64.ofNat_toNat]
    rw [haddress, hbyte]
    rfl
  · intro x hregion hnone hx
    rw [hstackOut x hx, hmiss x hnone, mapRegions_of_mem hregion]

end Load

/-! ### Linux -/

/-- A host that maps zeroed pages wherever it is asked to and protects them as it is asked to. -/
structure LinuxHost.Grants (host : LinuxHost) : Prop where
  pageSize : 0 < host.rawPageSize
  mmap : ∀ address size, host.mmap address size = .ok address
  mprotect : ∀ address size protection, host.mprotect address size protection = none

section Linux

variable {host : LinuxHost}

end Linux

end Astraea.Execution
