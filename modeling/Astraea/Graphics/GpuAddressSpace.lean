import Astraea.Graphics.GraphicsIr
import Astraea.Base.RangeMap

/-!
# GPU address spaces

Guest GPU memory is registered in regions, and a request is resolved to the region it lies
in. The emulator has two such maps, one of allocations and one of buffers, that were written
separately: `asAllocations` reads a map of buffers as one of allocations, and
`registerBuffer_eq` and `resolveRange_buffers_eq` say that the operations agree under this reading.

`RangeLaw` says how the requests of a map lie among its regions. The end of a request has to
be an address too, so no region and no request reaches the last byte of the address space.
-/

namespace Astraea.Graphics

open Astraea.Base Astraea.Core

/-- `ranges_overlap` of half-open ranges. -/
def gpuRangesOverlap (leftBegin leftEnd rightBegin rightEnd : UInt64) : Bool :=
  decide (leftBegin < rightEnd) && decide (rightBegin < leftEnd)

/-! ### Allocations -/

/-- A range of addresses with an identifier. -/
structure GuestGpuAllocation where
  id : UInt64
  base : UInt64
  byteSize : UInt64
  deriving DecidableEq

/-- Why an allocation is refused. -/
inductive GuestGpuAllocationRegistrationErrorCode where
  | zeroSizedAllocation
  | addressRangeOverflow
  | overlappingAllocation
  | hostSizeUnrepresentable
  | hostAllocationFailure
  deriving DecidableEq

/-- An allocation that is refused. -/
structure GuestGpuAllocationRegistrationError where
  code : GuestGpuAllocationRegistrationErrorCode
  base : UInt64
  byteSize : UInt64
  conflictingAllocationId : Option UInt64 := none
  deriving DecidableEq

/-- Why a range lies in no allocation. -/
inductive GuestGpuAllocationResolutionErrorCode where
  | zeroSizedRequest
  | addressRangeOverflow
  | unmappedRange
  | partiallyMappedRange
  deriving DecidableEq

/-- A range that lies in no allocation. -/
structure GuestGpuAllocationResolutionError where
  code : GuestGpuAllocationResolutionErrorCode
  address : UInt64
  byteCount : UInt64
  intersectingAllocationId : Option UInt64 := none
  deriving DecidableEq

/-- The allocation a range lies in, and where. -/
structure GuestGpuAllocationResolution where
  allocationId : UInt64
  byteOffset : UInt64
  byteCount : UInt64
  deriving DecidableEq

/-- The allocations that were registered. -/
structure GuestGpuAllocationAddressSpace where
  allocations : List GuestGpuAllocation
  deriving DecidableEq

namespace GuestGpuAllocationAddressSpace

/-- The test of a new range against one allocation. -/
def checkAllocation (base byteSize endAddress : UInt64) (allocation : GuestGpuAllocation) :
    Except GuestGpuAllocationRegistrationError Unit := do
  let allocationEnd ← orRefuse (checkedAdd allocation.base allocation.byteSize)
    ⟨.addressRangeOverflow, allocation.base, allocation.byteSize, allocation.id⟩
  refuseIf (gpuRangesOverlap base endAddress allocation.base allocationEnd = true)
    ⟨.overlappingAllocation, base, byteSize, allocation.id⟩

/-- The checks of a registration, and the id of the new allocation. -/
def checkRegistration (host : Host) (space : GuestGpuAllocationAddressSpace)
    (base byteSize : UInt64) :
    Except GuestGpuAllocationRegistrationError UInt64 := do
  refuseIf (byteSize = 0) { code := .zeroSizedAllocation, base := base, byteSize := byteSize }
  let endAddress ← orRefuse (checkedAdd base byteSize)
    { code := .addressRangeOverflow, base := base, byteSize := byteSize }
  space.allocations.forM (checkAllocation base byteSize endAddress)
  allocate host .gpuAddressSpaceEntry
    { code := .hostAllocationFailure, base := base, byteSize := byteSize }
    { code := .hostSizeUnrepresentable, base := base, byteSize := byteSize }
  return UInt64.ofNat space.allocations.length

/-- `register_allocation`: the id, and the allocations afterwards. -/
def registerAllocation (host : Host) (space : GuestGpuAllocationAddressSpace)
    (base byteSize : UInt64) :
    Except GuestGpuAllocationRegistrationError UInt64 × GuestGpuAllocationAddressSpace :=
  match checkRegistration host space base byteSize with
  | .error e => (.error e, space)
  | .ok id => (.ok id, ⟨space.allocations ++ [⟨id, base, byteSize⟩]⟩)

/-- The error of a request that no allocation contains. -/
def notContained (address byteCount : UInt64) :
    (intersecting : Option UInt64) → GuestGpuAllocationResolutionError
  | some id => ⟨.partiallyMappedRange, address, byteCount, some id⟩
  | none => ⟨.unmappedRange, address, byteCount, none⟩

/-- The request lies in one allocation; a allocation that wraps is passed over. -/
def liesIn (address requestEnd : UInt64) (allocation : GuestGpuAllocation) : Bool :=
  (checkedAdd allocation.base allocation.byteSize).any fun allocationEnd =>
    decide (address ≥ allocation.base) && decide (requestEnd ≤ allocationEnd)

/-- The request meets one allocation; a allocation that wraps is passed over. -/
def overlaps (address requestEnd : UInt64) (allocation : GuestGpuAllocation) : Bool :=
  (checkedAdd allocation.base allocation.byteSize).any fun allocationEnd =>
    gpuRangesOverlap address requestEnd allocation.base allocationEnd

/-- The loop of `resolve_range`. -/
def resolveAmong (address byteCount requestEnd : UInt64) :
    List GuestGpuAllocation → (intersecting : Option UInt64) →
    Except GuestGpuAllocationResolutionError GuestGpuAllocationResolution
  | [], intersecting => .error (notContained address byteCount intersecting)
  | allocation :: rest, intersecting =>
    if liesIn address requestEnd allocation = true then
      .ok ⟨allocation.id, address - allocation.base, byteCount⟩
    else
      resolveAmong address byteCount requestEnd rest
        (if overlaps address requestEnd allocation = true then some allocation.id else intersecting)

/-- `resolve_range`. -/
def resolveRange (space : GuestGpuAllocationAddressSpace) (address byteCount : UInt64) :
    Except GuestGpuAllocationResolutionError GuestGpuAllocationResolution := do
  refuseIf (byteCount = 0) { code := .zeroSizedRequest, address := address, byteCount := byteCount }
  let requestEnd ← orRefuse (checkedAdd address byteCount)
    { code := .addressRangeOverflow, address := address, byteCount := byteCount }
  resolveAmong address byteCount requestEnd space.allocations none

end GuestGpuAllocationAddressSpace

/-! ### Buffers -/

/-- A buffer with an identifier. -/
structure GuestGpuBufferRegion where
  id : UInt64
  base : UInt64
  byteSize : UInt64
  deriving DecidableEq

/-- Why a buffer is refused. -/
inductive GuestGpuBufferRegistrationErrorCode where
  | zeroSizedRegion
  | addressRangeOverflow
  | overlappingRegion
  | hostSizeUnrepresentable
  | hostAllocationFailure
  deriving DecidableEq

/-- A buffer that is refused. -/
structure GuestGpuBufferRegistrationError where
  code : GuestGpuBufferRegistrationErrorCode
  base : UInt64
  byteSize : UInt64
  conflictingBufferId : Option UInt64 := none
  deriving DecidableEq

/-- Why a range lies in no buffer. -/
inductive GuestGpuBufferResolutionErrorCode where
  | zeroSizedRequest
  | addressRangeOverflow
  | unmappedRange
  | partiallyMappedRange
  deriving DecidableEq

/-- A range that lies in no buffer. -/
structure GuestGpuBufferResolutionError where
  code : GuestGpuBufferResolutionErrorCode
  address : UInt64
  byteCount : UInt64
  intersectingBufferId : Option UInt64 := none
  deriving DecidableEq

/-- The buffer a range lies in, and where. -/
structure GuestGpuBufferResolution where
  bufferId : UInt64
  byteOffset : UInt64
  byteCount : UInt64
  deriving DecidableEq

/-- The buffers that were registered. -/
structure GuestGpuBufferAddressSpace where
  buffers : List GuestGpuBufferRegion
  deriving DecidableEq

namespace GuestGpuBufferAddressSpace

/-- The test of a new range against one buffer. -/
def checkBuffer (base byteSize endAddress : UInt64) (buffer : GuestGpuBufferRegion) :
    Except GuestGpuBufferRegistrationError Unit := do
  let bufferEnd ← orRefuse (checkedAdd buffer.base buffer.byteSize)
    ⟨.addressRangeOverflow, buffer.base, buffer.byteSize, buffer.id⟩
  refuseIf (gpuRangesOverlap base endAddress buffer.base bufferEnd = true)
    ⟨.overlappingRegion, base, byteSize, buffer.id⟩

/-- The checks of a registration, and the id of the new buffer. -/
def checkRegistration (host : Host) (space : GuestGpuBufferAddressSpace) (base byteSize : UInt64) :
    Except GuestGpuBufferRegistrationError UInt64 := do
  refuseIf (byteSize = 0) { code := .zeroSizedRegion, base := base, byteSize := byteSize }
  let endAddress ← orRefuse (checkedAdd base byteSize)
    { code := .addressRangeOverflow, base := base, byteSize := byteSize }
  space.buffers.forM (checkBuffer base byteSize endAddress)
  allocate host .gpuAddressSpaceEntry
    { code := .hostAllocationFailure, base := base, byteSize := byteSize }
    { code := .hostSizeUnrepresentable, base := base, byteSize := byteSize }
  return UInt64.ofNat space.buffers.length

/-- `register_buffer`: the id, and the buffers afterwards. -/
def registerBuffer (host : Host) (space : GuestGpuBufferAddressSpace) (base byteSize : UInt64) :
    Except GuestGpuBufferRegistrationError UInt64 × GuestGpuBufferAddressSpace :=
  match checkRegistration host space base byteSize with
  | .error e => (.error e, space)
  | .ok id => (.ok id, ⟨space.buffers ++ [⟨id, base, byteSize⟩]⟩)

/-- The error of a request that no buffer contains. -/
def notContained (address byteCount : UInt64) :
    (intersecting : Option UInt64) → GuestGpuBufferResolutionError
  | some id => ⟨.partiallyMappedRange, address, byteCount, some id⟩
  | none => ⟨.unmappedRange, address, byteCount, none⟩

/-- The request lies in one buffer; a buffer that wraps is passed over. -/
def liesIn (address requestEnd : UInt64) (buffer : GuestGpuBufferRegion) : Bool :=
  (checkedAdd buffer.base buffer.byteSize).any fun bufferEnd =>
    decide (address ≥ buffer.base) && decide (requestEnd ≤ bufferEnd)

/-- The request meets one buffer; a buffer that wraps is passed over. -/
def overlaps (address requestEnd : UInt64) (buffer : GuestGpuBufferRegion) : Bool :=
  (checkedAdd buffer.base buffer.byteSize).any fun bufferEnd =>
    gpuRangesOverlap address requestEnd buffer.base bufferEnd

/-- The loop of `resolve_range`. -/
def resolveAmong (address byteCount requestEnd : UInt64) :
    List GuestGpuBufferRegion → (intersecting : Option UInt64) →
    Except GuestGpuBufferResolutionError GuestGpuBufferResolution
  | [], intersecting => .error (notContained address byteCount intersecting)
  | buffer :: rest, intersecting =>
    if liesIn address requestEnd buffer = true then
      .ok ⟨buffer.id, address - buffer.base, byteCount⟩
    else
      resolveAmong address byteCount requestEnd rest
        (if overlaps address requestEnd buffer = true then some buffer.id else intersecting)

/-- `resolve_range`. -/
def resolveRange (space : GuestGpuBufferAddressSpace) (address byteCount : UInt64) :
    Except GuestGpuBufferResolutionError GuestGpuBufferResolution := do
  refuseIf (byteCount = 0) { code := .zeroSizedRequest, address := address, byteCount := byteCount }
  let requestEnd ← orRefuse (checkedAdd address byteCount)
    { code := .addressRangeOverflow, address := address, byteCount := byteCount }
  resolveAmong address byteCount requestEnd space.buffers none

end GuestGpuBufferAddressSpace

/-- Why a write goes to no buffer. -/
inductive GpuMemoryWriteResolutionErrorCode where
  | payloadSizeUnrepresentable
  | addressResolutionFailure
  deriving DecidableEq

/-- A write that goes to no buffer. -/
structure GpuMemoryWriteResolutionError where
  code : GpuMemoryWriteResolutionErrorCode
  addressResolutionError : Option GuestGpuBufferResolutionError := none
  deriving DecidableEq

/-- `resolve_gpu_memory_write`, for the destination and the values of a write. -/
def resolveGpuMemoryWrite (destination : UInt64) (values : List UInt32)
    (space : GuestGpuBufferAddressSpace) :
    Except GpuMemoryWriteResolutionError GuestGpuBufferResolution := do
  let valueCount := UInt64.ofNat values.length
  refuseIf (valueCount > u64Max / 4) { code := .payloadSizeUnrepresentable }
  (space.resolveRange destination (valueCount * 4)).mapError fun e =>
    ⟨.addressResolutionFailure, some e⟩

/-! ### Resolving among regions -/

/-- The addresses of an allocation. -/
def GuestGpuAllocation.interval (allocation : GuestGpuAllocation) : Interval :=
  ⟨allocation.base.toNat, allocation.byteSize.toNat⟩

/-- What the registrations keep: no region is empty, wraps or shares an address with another, and
every region has its place as its id. -/
structure GuestGpuAllocationAddressSpace.WellFormed (space : GuestGpuAllocationAddressSpace) :
    Prop where
  apart : Apart GuestGpuAllocation.interval space.allocations
  fits : ∀ allocation ∈ space.allocations, allocation.base.toNat + allocation.byteSize.toNat <
    2 ^ 64
  ids : ∀ (index : ℕ) (allocation : GuestGpuAllocation),
    space.allocations[index]? = some allocation →
    allocation.id.toNat = index

theorem gpuRangesOverlap_iff {leftBegin leftSize leftEnd rightBegin rightSize rightEnd : UInt64}
    (hleft : leftEnd.toNat = leftBegin.toNat + leftSize.toNat)
    (hright : rightEnd.toNat = rightBegin.toNat + rightSize.toNat) :
    gpuRangesOverlap leftBegin leftEnd rightBegin rightEnd = true ↔
      (⟨leftBegin.toNat, leftSize.toNat⟩ : Interval).Meets ⟨rightBegin.toNat, rightSize.toNat⟩ := by
  simp only [gpuRangesOverlap, Bool.and_eq_true, decide_eq_true_iff, UInt64.lt_iff_toNat_lt, hleft,
    hright]
  rfl

namespace GuestGpuAllocationAddressSpace

/-- The answer to a request that was located. -/
def answer (address byteCount : UInt64) :
    Except (Option GuestGpuAllocation) GuestGpuAllocation →
    Except GuestGpuAllocationResolutionError GuestGpuAllocationResolution
  | .ok allocation => .ok ⟨allocation.id, address - allocation.base, byteCount⟩
  | .error crossed => .error (notContained address byteCount (crossed.map GuestGpuAllocation.id))

/-- The loop finds the place of the request among regions that do not wrap. -/
theorem resolveAmong_eq {address byteCount requestEnd : UInt64}
    (hend : requestEnd.toNat = address.toNat + byteCount.toNat)
    {allocations : List GuestGpuAllocation}
    (hfits : ∀ allocation ∈ allocations, allocation.base.toNat + allocation.byteSize.toNat < 2 ^ 64)
    (crossed : Option GuestGpuAllocation) :
    resolveAmong address byteCount requestEnd allocations (crossed.map GuestGpuAllocation.id) =
      answer address byteCount
        (locate GuestGpuAllocation.interval
          ⟨address.toNat, byteCount.toNat⟩ allocations crossed) := by
  induction allocations generalizing crossed with
  | nil => rfl
  | cons allocation rest ih =>
    rw [List.forall_mem_cons] at hfits
    have hsum := checkedAdd_of_lt hfits.1
    have hallocationEnd := (checkedAdd_eq_some hsum).2
    have hcontains : liesIn address requestEnd allocation = true ↔
        allocation.interval.Contains ⟨address.toNat, byteCount.toNat⟩ := by
      rw [liesIn, hsum, Option.any_some]
      simp only [Bool.and_eq_true, decide_eq_true_iff, ge_iff_le, UInt64.le_iff_toNat_le, hend,
        hallocationEnd]
      rfl
    have hmeets : overlaps address requestEnd allocation = true ↔
        (⟨address.toNat, byteCount.toNat⟩ : Interval).Meets allocation.interval := by
      rw [overlaps, hsum, Option.any_some]
      exact gpuRangesOverlap_iff hend hallocationEnd
    rw [resolveAmong, locate]
    by_cases hin : allocation.interval.Contains ⟨address.toNat, byteCount.toNat⟩
    · rw [if_pos (hcontains.mpr hin), if_pos hin, answer]
    · rw [if_neg (mt hcontains.mp hin), if_neg hin, ← ih hfits.2]
      by_cases hmeet : (⟨address.toNat, byteCount.toNat⟩ : Interval).Meets allocation.interval
      · rw [if_pos (hmeets.mpr hmeet), if_pos hmeet, Option.map_some]
      · rw [if_neg (mt hmeets.mp hmeet), if_neg hmeet]

end GuestGpuAllocationAddressSpace

/-! ### The law of resolution -/

/-- Why a request is refused. -/
inductive RangeRefusal where
  | zeroSized
  | overflow
  | unmapped
  | partiallyMapped
  deriving DecidableEq

/-- What becomes of a request, in the words of neither map. -/
inductive RangeOutcome where
  | found (id byteOffset byteCount : UInt64)
  | refused (why : RangeRefusal)
  deriving DecidableEq

/-- The refusal that a code stands for. -/
def GuestGpuAllocationResolutionErrorCode.refusal :
    GuestGpuAllocationResolutionErrorCode → RangeRefusal
  | zeroSizedRequest => .zeroSized
  | addressRangeOverflow => .overflow
  | unmappedRange => .unmapped
  | partiallyMappedRange => .partiallyMapped

/-- The refusal that a code stands for. -/
def GuestGpuBufferResolutionErrorCode.refusal : GuestGpuBufferResolutionErrorCode → RangeRefusal
  | zeroSizedRequest => .zeroSized
  | addressRangeOverflow => .overflow
  | unmappedRange => .unmapped
  | partiallyMappedRange => .partiallyMapped

/-- What a lookup comes to. -/
def GuestGpuAllocationAddressSpace.outcome (space : GuestGpuAllocationAddressSpace)
    (address byteCount : UInt64) : RangeOutcome :=
  match space.resolveRange address byteCount with
  | .ok resolution => .found resolution.allocationId resolution.byteOffset resolution.byteCount
  | .error e => .refused e.code.refusal

/-- What a lookup comes to. -/
def GuestGpuBufferAddressSpace.outcome (space : GuestGpuBufferAddressSpace)
    (address byteCount : UInt64) : RangeOutcome :=
  match space.resolveRange address byteCount with
  | .ok resolution => .found resolution.bufferId resolution.byteOffset resolution.byteCount
  | .error e => .refused e.code.refusal

/-- How requests lie among the regions of a map, each of which is a base and a size. -/
structure RangeLaw (regions : List (UInt64 × UInt64)) (outcome : UInt64 → UInt64 → RangeOutcome) :
    Prop where
  /-- A request is found exactly in the region it lies in. -/
  found : ∀ address byteCount id byteOffset count : UInt64, 0 < byteCount →
    (outcome address byteCount = .found id byteOffset count ↔
      ∃ base byteSize, regions[id.toNat]? = some (base, byteSize) ∧
        (⟨base.toNat, byteSize.toNat⟩ : Interval).Contains ⟨address.toNat, byteCount.toNat⟩ ∧
        byteOffset.toNat = address.toNat - base.toNat ∧ count = byteCount)
  /-- A request is partially mapped exactly when it meets a region and lies in none. -/
  partiallyMapped : ∀ address byteCount : UInt64, 0 < byteCount →
    address.toNat + byteCount.toNat < 2 ^ 64 →
    (outcome address byteCount = .refused .partiallyMapped ↔
      (∃ region ∈ regions, (⟨address.toNat, byteCount.toNat⟩ : Interval).Meets
        ⟨region.1.toNat, region.2.toNat⟩) ∧
      ∀ region ∈ regions, ¬ (⟨region.1.toNat, region.2.toNat⟩ : Interval).Contains
        ⟨address.toNat, byteCount.toNat⟩)
  /-- A request is unmapped exactly when it meets no region. -/
  unmapped : ∀ address byteCount :
    UInt64, 0 < byteCount → address.toNat + byteCount.toNat < 2 ^ 64 →
    (outcome address byteCount = .refused .unmapped ↔
      ∀ region ∈ regions, ¬ (⟨address.toNat, byteCount.toNat⟩ : Interval).Meets
        ⟨region.1.toNat, region.2.toNat⟩)
  /-- A request whose end is no address is refused as such. -/
  overflow : ∀ address byteCount :
    UInt64, 0 < byteCount → 2 ^ 64 ≤ address.toNat + byteCount.toNat →
    outcome address byteCount = .refused .overflow

namespace GuestGpuAllocationAddressSpace

variable {space : GuestGpuAllocationAddressSpace} {address byteCount : UInt64}

/-- The regions, in the order of their registration. -/
def regions (space : GuestGpuAllocationAddressSpace) : List (UInt64 × UInt64) :=
  space.allocations.map fun allocation => (allocation.base, allocation.byteSize)

theorem WellFormed.resolveRange_eq (h : space.WellFormed) (hpos : 0 < byteCount)
    (hfits : address.toNat + byteCount.toNat < 2 ^ 64) :
    space.resolveRange address byteCount = answer address byteCount
      (locate GuestGpuAllocation.interval
        ⟨address.toNat, byteCount.toNat⟩ space.allocations none) := by
  have hsum := checkedAdd_of_lt hfits
  have hne : byteCount ≠ 0 := fun h0 => by simp [h0] at hpos
  rw [resolveRange, refuseIf, if_neg hne, hsum]
  exact resolveAmong_eq (checkedAdd_eq_some hsum).2 h.fits none

/-- The outcome of a request that was located. -/
def outcomeOf (address byteCount : UInt64) :
    Except (Option GuestGpuAllocation) GuestGpuAllocation → RangeOutcome
  | .ok allocation => .found allocation.id (address - allocation.base) byteCount
  | .error (some _) => .refused .partiallyMapped
  | .error none => .refused .unmapped

theorem WellFormed.outcome_eq (h : space.WellFormed) (hpos : 0 < byteCount)
    (hfits : address.toNat + byteCount.toNat < 2 ^ 64) :
    space.outcome address byteCount = outcomeOf address byteCount
      (locate GuestGpuAllocation.interval
        ⟨address.toNat, byteCount.toNat⟩ space.allocations none) := by
  rw [outcome, h.resolveRange_eq hpos hfits]
  rcases locate GuestGpuAllocation.interval ⟨address.toNat, byteCount.toNat⟩ space.allocations none
    with (_ | _) | _ <;> rfl

theorem outcome_of_overflow (hpos : 0 < byteCount)
    (hover : 2 ^ 64 ≤ address.toNat + byteCount.toNat) :
    space.outcome address byteCount = .refused .overflow := by
  have hne : byteCount ≠ 0 := fun h0 => by simp [h0] at hpos
  have hsum : checkedAdd address byteCount = none := by
    rw [checkedAdd, if_pos ((gt_u64Max_sub_iff _ _).mpr hover)]
  rw [outcome, resolveRange, refuseIf, if_neg hne, hsum]
  rfl

theorem WellFormed.mem_iff (h : space.WellFormed) {allocation : GuestGpuAllocation} :
    allocation ∈ space.allocations ↔ space.allocations[allocation.id.toNat]? = some allocation := by
  refine ⟨fun hmem => ?_, List.mem_of_getElem?⟩
  obtain ⟨index, hindex⟩ := List.mem_iff_getElem?.mp hmem
  rwa [h.ids index allocation hindex]

/-- **Requests are resolved exactly.** -/
theorem WellFormed.rangeLaw (h : space.WellFormed) : RangeLaw space.regions space.outcome := by
  constructor
  case found =>
    intro address byteCount id byteOffset count hpos
    have hsize : 0 < byteCount.toNat := UInt64.lt_iff_toNat_lt.mp hpos
    constructor
    · intro houtcome
      by_cases hfits : address.toNat + byteCount.toNat < 2 ^ 64
      · rw [h.outcome_eq hpos hfits] at houtcome
        cases hlocate : locate GuestGpuAllocation.interval
          ⟨address.toNat, byteCount.toNat⟩ space.allocations none with
        | error crossed =>
          rw [hlocate] at houtcome
          cases crossed <;> cases houtcome
        | ok allocation =>
          rw [hlocate] at houtcome
          obtain ⟨rfl, rfl, rfl⟩ := RangeOutcome.found.inj houtcome
          obtain ⟨hmem, hcontains⟩ := mem_of_locate_eq_ok hlocate
          have hle : allocation.base ≤ address := UInt64.le_iff_toNat_le.mpr hcontains.1
          refine ⟨allocation.base, allocation.byteSize, ?_, hcontains,
            UInt64.toNat_sub_of_le _ _ hle, rfl⟩
          rw [regions, List.getElem?_map, h.mem_iff.mp hmem]
          rfl
      · rw [outcome_of_overflow hpos (by omega)] at houtcome
        cases houtcome
    · rintro ⟨base, byteSize, hregion, hcontains, hoffset, rfl⟩
      rw [regions, List.getElem?_map] at hregion
      obtain ⟨allocation, hallocation, heq⟩ := Option.map_eq_some_iff.mp hregion
      obtain ⟨rfl, rfl⟩ := Prod.mk.inj heq
      have hmem := List.mem_of_getElem? hallocation
      have hid : allocation.id = id := UInt64.toNat_inj.mp (h.ids _ _ hallocation)
      have hend := h.fits allocation hmem
      have hfits : address.toNat + count.toNat < 2 ^ 64 := lt_of_le_of_lt hcontains.2 hend
      have hle : allocation.base ≤ address := UInt64.le_iff_toNat_le.mpr hcontains.1
      rw [h.outcome_eq hpos hfits, (locate_eq_ok_iff h.apart hsize).mpr ⟨hmem, hcontains⟩]
      rw [outcomeOf, hid, RangeOutcome.found.injEq]
      refine ⟨rfl, ?_, rfl⟩
      rw [← UInt64.toNat_inj, UInt64.toNat_sub_of_le _ _ hle, hoffset]
  case partiallyMapped =>
    intro address byteCount hpos hfits
    have hsize : 0 < byteCount.toNat := UInt64.lt_iff_toNat_lt.mp hpos
    have hcross :
      (∃ a, locate GuestGpuAllocation.interval
      ⟨address.toNat, byteCount.toNat⟩ space.allocations none = .error (some a)) ↔
        (∃ a ∈ space.allocations, (⟨address.toNat, byteCount.toNat⟩ : Interval).Meets a.interval) ∧
          ∀ a ∈ space.allocations, ¬ a.interval.Contains ⟨address.toNat, byteCount.toNat⟩ :=
      locate_eq_crossing_iff h.apart hsize
    simp only [regions, List.mem_map, exists_exists_and_eq_and, forall_exists_index, and_imp,
      forall_apply_eq_imp_iff₂]
    refine Iff.trans ?_ hcross
    rw [h.outcome_eq hpos hfits]
    rcases locate GuestGpuAllocation.interval
      ⟨address.toNat, byteCount.toNat⟩ space.allocations none with (_ | _) | _ <;>
      simp [outcomeOf]
  case unmapped =>
    intro address byteCount hpos hfits
    have hsize : 0 < byteCount.toNat := UInt64.lt_iff_toNat_lt.mp hpos
    have houtside : locate GuestGpuAllocation.interval
      ⟨address.toNat, byteCount.toNat⟩ space.allocations none = .error none ↔
        ∀ a ∈ space.allocations, ¬ (⟨address.toNat, byteCount.toNat⟩ : Interval).Meets a.interval :=
      locate_eq_outside_iff hsize
    simp only [regions, List.forall_mem_map]
    refine Iff.trans ?_ houtside
    rw [h.outcome_eq hpos hfits]
    rcases locate GuestGpuAllocation.interval
      ⟨address.toNat, byteCount.toNat⟩ space.allocations none with (_ | _) | _ <;>
      simp [outcomeOf]
  case overflow => exact fun address byteCount hpos hover => outcome_of_overflow hpos hover

/-! ### Registrations -/

theorem checkRegistration_eq_ok {host : Host} {base byteSize id : UInt64}
    (h : checkRegistration host space base byteSize = .ok id) :
    0 < byteSize ∧ base.toNat + byteSize.toNat < 2 ^ 64 ∧
    id = UInt64.ofNat space.allocations.length ∧
      ∀ allocation ∈ space.allocations,
        ¬ (⟨base.toNat, byteSize.toNat⟩ : Interval).Meets allocation.interval := by
  simp only [checkRegistration, bind_eq_ok, refuseIf_eq_ok, orRefuse_eq_ok, allocate_eq_ok,
    pure_eq_ok] at h
  obtain ⟨-, hne, endAddress, hend, ⟨⟩, hall, -, -, rfl⟩ := h
  obtain ⟨hfits, hendAddress⟩ := checkedAdd_eq_some hend
  refine ⟨UInt64.pos_iff_ne_zero.mpr hne, hfits, rfl, fun allocation hmem hmeets => ?_⟩
  have hcheck := forM_eq_ok.mp hall allocation hmem
  simp only [checkAllocation, bind_eq_ok, orRefuse_eq_ok, refuseIf_eq_ok] at hcheck
  obtain ⟨allocationEnd, hsum, hapart⟩ := hcheck
  exact hapart ((gpuRangesOverlap_iff hendAddress (checkedAdd_eq_some hsum).2).mpr hmeets)

theorem WellFormed.length_lt (h : space.WellFormed) : space.allocations.length < 2 ^ 64 := by
  have hlength : space.allocations.length ≤ 2 ^ 64 - 1 := by
    refine h.apart.length_le ?_
    intro allocation hmem
    have := h.fits allocation hmem
    show allocation.base.toNat + allocation.byteSize.toNat ≤ 2 ^ 64 - 1
    omega
  omega

/-- **A registration keeps the regions apart**, and the id it returns is the place of the new
region. -/
theorem WellFormed.registerAllocation (h : space.WellFormed) (host : Host)
    (base byteSize : UInt64) :
    (space.registerAllocation host base byteSize).2.WellFormed ∧
    ∀ id, (space.registerAllocation host base byteSize).1 = .ok id →
      id.toNat = space.allocations.length := by
  unfold GuestGpuAllocationAddressSpace.registerAllocation
  cases hcheck : checkRegistration host space base byteSize with
  | error e => exact ⟨h, nofun⟩
  | ok id =>
    obtain ⟨hpos, hfits, rfl, hfree⟩ := checkRegistration_eq_ok hcheck
    have hid : (UInt64.ofNat space.allocations.length).toNat = space.allocations.length :=
      toNat_ofNat_of_lt h.length_lt
    refine ⟨⟨h.apart.concat (UInt64.lt_iff_toNat_lt.mp hpos) hfree, ?_, ?_⟩, ?_⟩
    · exact List.forall_mem_append.mpr ⟨h.fits, List.forall_mem_singleton.mpr hfits⟩
    · intro index allocation hallocation
      rw [List.getElem?_append] at hallocation
      split_ifs at hallocation with hindex
      · exact h.ids index allocation hallocation
      · obtain ⟨hlast, rfl⟩ := List.getElem?_eq_some_iff.mp hallocation
        rw [List.length_singleton] at hlast
        simp only [List.getElem_singleton]
        omega
    · rintro _ ⟨⟩
      exact hid

/-- A registration that is refused changes nothing, and one that is accepted appends its region. -/
theorem registerAllocation_cases (space : GuestGpuAllocationAddressSpace) (host : Host)
    (base byteSize : UInt64) :
    (∃ e, space.registerAllocation host base byteSize = (.error e, space)) ∨
      ∃ id, space.registerAllocation host base byteSize =
        (.ok id, ⟨space.allocations ++ [⟨id, base, byteSize⟩]⟩) := by
  unfold registerAllocation
  cases checkRegistration host space base byteSize with
  | error e => exact .inl ⟨e, rfl⟩
  | ok id => exact .inr ⟨id, rfl⟩

end GuestGpuAllocationAddressSpace

/-- A call of a registration, with the host it finds. -/
structure GpuRegistration where
  host : Host
  base : UInt64
  byteSize : UInt64

/-- The allocations after a sequence of calls. -/
def GuestGpuAllocationAddressSpace.run (calls : List GpuRegistration) :
    GuestGpuAllocationAddressSpace :=
  calls.foldl (fun space call => (space.registerAllocation call.host call.base call.byteSize).2)
    ⟨[]⟩

/-- The buffers after a sequence of calls. -/
def GuestGpuBufferAddressSpace.run (calls : List GpuRegistration) : GuestGpuBufferAddressSpace :=
  calls.foldl (fun space call => (space.registerBuffer call.host call.base call.byteSize).2) ⟨[]⟩

/-- **Whatever was registered, the regions are well formed.** -/
theorem GuestGpuAllocationAddressSpace.wellFormed_run (calls : List GpuRegistration) :
    (run calls).WellFormed := by
  have hkeep : ∀ (calls : List GpuRegistration) (space : GuestGpuAllocationAddressSpace),
    space.WellFormed →
      (calls.foldl (fun space call =>
        (space.registerAllocation call.host call.base call.byteSize).2) space).WellFormed := by
    intro calls
    induction calls with
    | nil => exact fun _ h => h
    | cons call calls ih =>
      exact fun space h => ih _ (h.registerAllocation call.host call.base call.byteSize).1
  exact hkeep calls ⟨[]⟩ ⟨.nil, by simp, by simp⟩

/-! ### Buffers read as allocations -/

/-- A buffer read as an allocation. -/
def GuestGpuBufferRegion.asAllocation (buffer : GuestGpuBufferRegion) : GuestGpuAllocation :=
  ⟨buffer.id, buffer.base, buffer.byteSize⟩

/-- A map of buffers read as a map of allocations. -/
def GuestGpuBufferAddressSpace.asAllocations (space : GuestGpuBufferAddressSpace) :
    GuestGpuAllocationAddressSpace :=
  ⟨space.buffers.map GuestGpuBufferRegion.asAllocation⟩

/-- The code of the same refusal of an allocation. -/
def GuestGpuBufferRegistrationErrorCode.asAllocation :
    GuestGpuBufferRegistrationErrorCode → GuestGpuAllocationRegistrationErrorCode
  | zeroSizedRegion => .zeroSizedAllocation
  | addressRangeOverflow => .addressRangeOverflow
  | overlappingRegion => .overlappingAllocation
  | hostSizeUnrepresentable => .hostSizeUnrepresentable
  | hostAllocationFailure => .hostAllocationFailure

/-- The same refusal of an allocation. -/
def GuestGpuBufferRegistrationError.asAllocation (e : GuestGpuBufferRegistrationError) :
    GuestGpuAllocationRegistrationError :=
  ⟨e.code.asAllocation, e.base, e.byteSize, e.conflictingBufferId⟩

/-- The code of the same refusal among allocations. -/
def GuestGpuBufferResolutionErrorCode.asAllocation :
    GuestGpuBufferResolutionErrorCode → GuestGpuAllocationResolutionErrorCode
  | zeroSizedRequest => .zeroSizedRequest
  | addressRangeOverflow => .addressRangeOverflow
  | unmappedRange => .unmappedRange
  | partiallyMappedRange => .partiallyMappedRange

/-- The same refusal among allocations. -/
def GuestGpuBufferResolutionError.asAllocation (e : GuestGpuBufferResolutionError) :
    GuestGpuAllocationResolutionError :=
  ⟨e.code.asAllocation, e.address, e.byteCount, e.intersectingBufferId⟩

/-- The same place among allocations. -/
def GuestGpuBufferResolution.asAllocation (resolution : GuestGpuBufferResolution) :
    GuestGpuAllocationResolution :=
  ⟨resolution.bufferId, resolution.byteOffset, resolution.byteCount⟩

namespace GuestGpuBufferAddressSpace

theorem checkBuffer_eq (base byteSize endAddress : UInt64) (buffer : GuestGpuBufferRegion) :
    GuestGpuAllocationAddressSpace.checkAllocation base byteSize endAddress buffer.asAllocation =
      (checkBuffer base byteSize endAddress buffer).mapError
        GuestGpuBufferRegistrationError.asAllocation := by
  unfold GuestGpuAllocationAddressSpace.checkAllocation checkBuffer
  simp only [mapError_bind, mapError_orRefuse, mapError_refuseIf, GuestGpuBufferRegion.asAllocation,
    GuestGpuBufferRegistrationError.asAllocation, GuestGpuBufferRegistrationErrorCode.asAllocation]
  rfl

theorem checkBuffers_eq (base byteSize endAddress : UInt64) (buffers : List GuestGpuBufferRegion) :
    (buffers.map GuestGpuBufferRegion.asAllocation).forM
        (GuestGpuAllocationAddressSpace.checkAllocation base byteSize endAddress) =
      (buffers.forM (checkBuffer base byteSize endAddress)).mapError
        GuestGpuBufferRegistrationError.asAllocation := by
  induction buffers with
  | nil => rfl
  | cons buffer buffers ih =>
    rw [List.map_cons, forM_cons, forM_cons, mapError_bind, checkBuffer_eq, ih]

theorem checkRegistration_eq (host : Host) (space : GuestGpuBufferAddressSpace)
    (base byteSize : UInt64) :
    GuestGpuAllocationAddressSpace.checkRegistration host space.asAllocations base byteSize =
      (checkRegistration host space base byteSize).mapError
        GuestGpuBufferRegistrationError.asAllocation := by
  unfold GuestGpuAllocationAddressSpace.checkRegistration checkRegistration
  simp only [mapError_bind, mapError_orRefuse, mapError_refuseIf, mapError_allocate, mapError_pure,
    asAllocations, List.length_map, checkBuffers_eq, GuestGpuBufferRegistrationError.asAllocation,
    GuestGpuBufferRegistrationErrorCode.asAllocation]

/-- **The two maps accept the same regions**, under the same ids. -/
theorem registerBuffer_eq (host : Host) (space : GuestGpuBufferAddressSpace)
    (base byteSize : UInt64) :
    space.asAllocations.registerAllocation host base byteSize =
      ((space.registerBuffer host base byteSize).1.mapError
        GuestGpuBufferRegistrationError.asAllocation,
        (space.registerBuffer host base byteSize).2.asAllocations) := by
  unfold GuestGpuAllocationAddressSpace.registerAllocation registerBuffer
  rw [checkRegistration_eq]
  cases checkRegistration host space base byteSize with
  | error e => rfl
  | ok id => simp [Except.mapError, asAllocations, GuestGpuBufferRegion.asAllocation]

theorem resolveAmong_eq (address byteCount requestEnd : UInt64)
    (buffers : List GuestGpuBufferRegion) (intersecting : Option UInt64) :
    GuestGpuAllocationAddressSpace.resolveAmong address byteCount requestEnd
        (buffers.map GuestGpuBufferRegion.asAllocation) intersecting =
      ((resolveAmong address byteCount requestEnd buffers intersecting).mapError
        GuestGpuBufferResolutionError.asAllocation).map GuestGpuBufferResolution.asAllocation := by
  induction buffers generalizing intersecting with
  | nil => cases intersecting <;> rfl
  | cons buffer buffers ih =>
    rw [List.map_cons, GuestGpuAllocationAddressSpace.resolveAmong, resolveAmong, ih]
    show (if liesIn address requestEnd buffer = true then _ else _) = _
    by_cases hin : liesIn address requestEnd buffer = true
    · rw [if_pos hin, if_pos hin]
      rfl
    · rw [if_neg hin, if_neg hin]
      rfl

/-- **The two maps resolve the same requests** in the same way. -/
theorem resolveRange_eq (space : GuestGpuBufferAddressSpace) (address byteCount : UInt64) :
    space.asAllocations.resolveRange address byteCount =
      ((space.resolveRange address byteCount).mapError
        GuestGpuBufferResolutionError.asAllocation).map
        GuestGpuBufferResolution.asAllocation := by
  unfold GuestGpuAllocationAddressSpace.resolveRange resolveRange
  by_cases hzero : byteCount = 0
  · rw [refuseIf, if_pos hzero, refuseIf, if_pos hzero]
    rfl
  · rw [refuseIf, if_neg hzero, refuseIf, if_neg hzero]
    cases checkedAdd address byteCount with
    | none => rfl
    | some requestEnd => exact resolveAmong_eq address byteCount requestEnd space.buffers none

theorem outcome_eq (space : GuestGpuBufferAddressSpace) :
    space.outcome = space.asAllocations.outcome := by
  funext address byteCount
  rw [outcome, GuestGpuAllocationAddressSpace.outcome, resolveRange_eq]
  cases space.resolveRange address byteCount with
  | ok resolution => rfl
  | error e => rcases e with ⟨_ | _ | _ | _, _⟩ <;> rfl

/-- The regions, in the order of their registration. -/
def regions (space : GuestGpuBufferAddressSpace) : List (UInt64 × UInt64) :=
  space.buffers.map fun buffer => (buffer.base, buffer.byteSize)

theorem regions_eq (space : GuestGpuBufferAddressSpace) :
    space.regions = space.asAllocations.regions := by
  simp [regions, GuestGpuAllocationAddressSpace.regions, asAllocations,
    GuestGpuBufferRegion.asAllocation]

/-- A map of buffers is well formed when it is so as a map of allocations. -/
def WellFormed (space : GuestGpuBufferAddressSpace) : Prop := space.asAllocations.WellFormed

/-- **The same calls lead to the same map.** -/
theorem asAllocations_run (calls : List GpuRegistration) :
    (run calls).asAllocations = GuestGpuAllocationAddressSpace.run calls := by
  have hkeep : ∀ (calls : List GpuRegistration) (space : GuestGpuBufferAddressSpace),
      (calls.foldl (fun space call => (space.registerBuffer call.host call.base call.byteSize).2)
        space).asAllocations =
        calls.foldl (fun space call =>
          (space.registerAllocation call.host call.base call.byteSize).2)
          space.asAllocations := by
    intro calls
    induction calls with
    | nil => exact fun _ => rfl
    | cons call calls ih =>
      intro space
      rw [List.foldl_cons, List.foldl_cons, ih, registerBuffer_eq]
  exact hkeep calls ⟨[]⟩

end GuestGpuBufferAddressSpace

/-- What a map of regions promises: its regions are well formed, a registration that is refused
changes nothing and one that is accepted appends its region and returns its place, and requests are
resolved exactly. -/
structure RegistersAndResolves (regions : List (UInt64 × UInt64))
    (register : Host → UInt64 → UInt64 → Option UInt64 × List (UInt64 × UInt64))
    (outcome : UInt64 → UInt64 → RangeOutcome) :
    Prop where
  nonempty : ∀ region ∈ regions, 0 < region.2
  noWrap : ∀ region ∈ regions, region.1.toNat + region.2.toNat < 2 ^ 64
  disjoint : regions.Pairwise fun left right =>
    ¬ (⟨left.1.toNat, left.2.toNat⟩ : Interval).Meets ⟨right.1.toNat, right.2.toNat⟩
  refused : ∀ host base byteSize, (register host base byteSize).1 = none →
    (register host base byteSize).2 = regions
  accepted : ∀ host base byteSize id, (register host base byteSize).1 = some id →
    id.toNat = regions.length ∧ (register host base byteSize).2 = regions ++ [(base, byteSize)]
  law : RangeLaw regions outcome

/-- A registration of an allocation: the id, and the regions afterwards. -/
def GuestGpuAllocationAddressSpace.registered (space : GuestGpuAllocationAddressSpace) (host : Host)
    (base byteSize : UInt64) :
    Option UInt64 × List (UInt64 × UInt64) :=
  ((space.registerAllocation host base byteSize).1.toOption,
    (space.registerAllocation host base byteSize).2.regions)

/-- A registration of a buffer: the id, and the regions afterwards. -/
def GuestGpuBufferAddressSpace.registered (space : GuestGpuBufferAddressSpace) (host : Host)
    (base byteSize : UInt64) :
    Option UInt64 × List (UInt64 × UInt64) :=
  ((space.registerBuffer host base byteSize).1.toOption,
    (space.registerBuffer host base byteSize).2.regions)

theorem GuestGpuBufferAddressSpace.registered_eq (space : GuestGpuBufferAddressSpace) :
    space.registered = space.asAllocations.registered := by
  funext host base byteSize
  rw [registered, GuestGpuAllocationAddressSpace.registered, registerBuffer_eq, regions_eq]
  cases (space.registerBuffer host base byteSize).1 <;> rfl

theorem GuestGpuAllocationAddressSpace.WellFormed.registersAndResolves
    {space : GuestGpuAllocationAddressSpace} (h : space.WellFormed) :
    RegistersAndResolves space.regions space.registered space.outcome := by
  constructor
  case nonempty =>
    intro region hregion
    obtain ⟨allocation, hmem, rfl⟩ := List.mem_map.mp hregion
    exact UInt64.lt_iff_toNat_lt.mpr (h.apart.nonempty allocation hmem)
  case noWrap =>
    intro region hregion
    obtain ⟨allocation, hmem, rfl⟩ := List.mem_map.mp hregion
    exact h.fits allocation hmem
  case disjoint =>
    rw [regions, List.pairwise_map]
    exact h.apart.disjoint
  case refused =>
    intro host base byteSize hnone
    rcases space.registerAllocation_cases host base byteSize with ⟨e, heq⟩ | ⟨id, heq⟩
    · rw [registered, heq]
    · rw [registered, heq] at hnone
      cases hnone
  case accepted =>
    intro host base byteSize id hsome
    rcases space.registerAllocation_cases host base byteSize with ⟨e, heq⟩ | ⟨id', heq⟩
    · rw [registered, heq] at hsome
      cases hsome
    · rw [registered, heq] at hsome ⊢
      cases hsome
      refine ⟨?_, by simp [regions]⟩
      rw [regions, List.length_map]
      exact (h.registerAllocation host base byteSize).2 id (by rw [heq])
  case law => exact h.rangeLaw

/-- **GPU address spaces keep a disjoint map and resolve exactly.** Whatever was registered,
accepted or refused, both maps keep what a map of regions promises; and after the same calls they
hold the same regions, accept the same ones under the same ids, and resolve every request alike. -/
theorem gpuAddressSpaces_resolve_exactly (calls : List GpuRegistration) :
    RegistersAndResolves (GuestGpuAllocationAddressSpace.run calls).regions
      (GuestGpuAllocationAddressSpace.run calls).registered
        (GuestGpuAllocationAddressSpace.run calls).outcome ∧
      RegistersAndResolves (GuestGpuBufferAddressSpace.run calls).regions
        (GuestGpuBufferAddressSpace.run calls).registered
        (GuestGpuBufferAddressSpace.run calls).outcome ∧
      (GuestGpuBufferAddressSpace.run calls).regions =
        (GuestGpuAllocationAddressSpace.run calls).regions ∧
      (GuestGpuBufferAddressSpace.run calls).registered =
        (GuestGpuAllocationAddressSpace.run calls).registered ∧
      (GuestGpuBufferAddressSpace.run calls).outcome =
        (GuestGpuAllocationAddressSpace.run calls).outcome := by
  have hlaw := (GuestGpuAllocationAddressSpace.wellFormed_run calls).registersAndResolves
  have hregions : (GuestGpuBufferAddressSpace.run calls).regions =
      (GuestGpuAllocationAddressSpace.run calls).regions := by
    rw [GuestGpuBufferAddressSpace.regions_eq, GuestGpuBufferAddressSpace.asAllocations_run]
  have hregistered : (GuestGpuBufferAddressSpace.run calls).registered =
      (GuestGpuAllocationAddressSpace.run calls).registered := by
    rw [GuestGpuBufferAddressSpace.registered_eq, GuestGpuBufferAddressSpace.asAllocations_run]
  have houtcome : (GuestGpuBufferAddressSpace.run calls).outcome =
      (GuestGpuAllocationAddressSpace.run calls).outcome := by
    rw [GuestGpuBufferAddressSpace.outcome_eq, GuestGpuBufferAddressSpace.asAllocations_run]
  exact ⟨hlaw, by rwa [hregions, hregistered, houtcome], hregions, hregistered, houtcome⟩

/-- Requests that reach the last byte of the address space are refused as such: one that meets no
region is not reported as unmapped, and one that meets a region without lying in it is not reported
as partially mapped. -/
theorem gpuAddressSpaces_top_of_memory :
    (GuestGpuAllocationAddressSpace.run []).outcome 0xffffffffffffffff 1 = .refused .overflow ∧
    (GuestGpuAllocationAddressSpace.run [⟨Host.plentiful, 0xfffffffffffffff0, 8⟩]).regions =
      [(0xfffffffffffffff0, 8)] ∧
    (GuestGpuAllocationAddressSpace.run [⟨Host.plentiful, 0xfffffffffffffff0, 8⟩]).outcome
      0xfffffffffffffff4 12 =
      .refused .overflow ∧
    (⟨0xfffffffffffffff4, 12⟩ : Interval).Meets ⟨0xfffffffffffffff0, 8⟩ ∧
    ¬ (⟨0xfffffffffffffff0, 8⟩ : Interval).Contains ⟨0xfffffffffffffff4, 12⟩ := by
  decide

end Astraea.Graphics
