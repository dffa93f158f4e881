import Astraea.Base.KeySort
import Astraea.Core.HostAllocation
import Astraea.Execution.Hle
import Astraea.Loader.GuestImage

/-!
# The registry of functions and the region of gates

`HleRegistry::create` takes the functions of the host, no two with the same id. A region of gates
is a range of guest addresses with a gate every sixteen bytes; `build_synthetic_gate_region` finds
a place for it that nothing else has, and binds some of the gates to functions, none of them to
two. An address of the region is a gate if it is a multiple of sixteen behind the base:
`recognize_slot` and `slot_address` are the two directions of that, and `GateRegionBuilt` is what
the rest can rely on.
-/

namespace Astraea.Execution

open Astraea.Base Astraea.Core Astraea.Memory Astraea.Loader

/-- The bytes from one gate to the next. -/
def kSyntheticGateStride : UInt64 := 16

/-- The most arguments of a call through a gate. -/
def kMaxSyntheticGateArguments : UInt8 := 6

/-- Why a setup is refused. -/
inductive HleSetupErrorCode where
  | invalidFunctionId
  | invalidFunctionName
  | invalidArgumentCount
  | duplicateFunctionId
  | duplicateFunctionName
  | invalidGateSlotCount
  | gateSlotOutOfBounds
  | duplicateGateBinding
  | unknownFunction
  | gateRangeOverflow
  | gateRegionOverlap
  | hostSizeUnrepresentable
  | hostAllocationFailure
  deriving DecidableEq

/-- A setup that is refused. -/
structure HleSetupError where
  code : HleSetupErrorCode
  functionId : Option HleFunctionId := none
  gateSlot : Option UInt32 := none
  guestAddress : Option UInt64 := none
  deriving DecidableEq

/-! ### The registry -/

/-- What is asked of one function. -/
def checkDescriptor (descriptor : HleFunctionDescriptor) : Except HleSetupError Unit := do
  refuseIf (descriptor.id.value = 0) { code := .invalidFunctionId, functionId := descriptor.id }
  refuseIf (descriptor.canonicalName.isEmpty = true)
    { code := .invalidFunctionName, functionId := descriptor.id }
  refuseIf (descriptor.argumentCount > kMaxSyntheticGateArguments)
    { code := .invalidArgumentCount, functionId := descriptor.id }

/-- The loops over the pairs of functions. -/
def compareDescriptors : List HleFunctionDescriptor → Except HleSetupError Unit
  | [] => .ok ()
  | descriptor :: later => do
    later.forM fun other => do
      refuseIf (descriptor.id = other.id)
        { code := .duplicateFunctionId, functionId := descriptor.id }
      refuseIf (descriptor.canonicalName = other.canonicalName)
        { code := .duplicateFunctionName, functionId := other.id }
    compareDescriptors later

/-- `HleRegistry::create`. -/
def HleRegistry.create (descriptors : List HleFunctionDescriptor) :
    Except HleSetupError HleRegistry := do
  descriptors.forM checkDescriptor
  compareDescriptors descriptors
  return ⟨sortByKey (fun a b => decide (a ≤ b)) (fun descriptor => descriptor.id.value) descriptors⟩

/-! ### Gates -/

section Gates

variable (region : SyntheticGateRegion)

/-- `SyntheticGateRegion::recognize_slot`. -/
def SyntheticGateRegion.recognizeSlot (instructionPointer : GuestAddress) : Option UInt32 :=
  if region.range.contains instructionPointer = false then none
  else
    let offset := instructionPointer.value - region.range.base.value
    if offset % kSyntheticGateStride ≠ 0 then none
    else
      let slot := offset / kSyntheticGateStride
      if slot ≥ region.slotCount.toUInt64 then none else some slot.toUInt32

/-- `SyntheticGateRegion::slot_address`. -/
def SyntheticGateRegion.slotAddress (slot : UInt32) : Option GuestAddress :=
  if slot ≥ region.slotCount then none
  else (region.range.base.checkedAdd ⟨slot.toUInt64 * kSyntheticGateStride⟩).toOption

end Gates

/-- `overlaps_image`. -/
def overlapsImage (gateRange : GuestRange) (image : GuestImage)
    (additionalReservedRanges : List GuestRange) : Bool :=
  image.mappings.any (fun mapping => gateRange.overlaps mapping.range) ||
    gateRange.overlaps image.initialStack.storage ||
    additionalReservedRanges.any fun reserved => gateRange.overlaps reserved

/-- The loop over the bindings: each is checked, and compared with all that come later. -/
def checkGateBindings (registry : HleRegistry) (slotCount : UInt32) :
    List GateBinding → Except HleSetupError Unit
  | [] => .ok ()
  | binding :: later => do
    refuseIf (binding.slot ≥ slotCount)
      { code := .gateSlotOutOfBounds, functionId := binding.functionId, gateSlot := binding.slot }
    refuseIf ((registry.find binding.functionId).isNone = true)
      { code := .unknownFunction, functionId := binding.functionId, gateSlot := binding.slot }
    later.forM fun other =>
      refuseIf (binding.slot = other.slot)
        { code := .duplicateGateBinding, functionId := other.functionId, gateSlot := binding.slot }
    checkGateBindings registry slotCount later

/-- `build_synthetic_gate_region`. The number of bytes is always a size of the host. -/
def buildSyntheticGateRegion (host : Host) (registry : HleRegistry) (base : GuestAddress)
    (slotCount : UInt32) (bindings : List GateBinding) (image : GuestImage)
    (additionalReservedRanges : List GuestRange) :
    Except HleSetupError SyntheticGateRegion := do
  refuseIf (slotCount = 0) { code := .invalidGateSlotCount, guestAddress := base.value }
  let byteCount := slotCount.toUInt64 * kSyntheticGateStride
  let gateRange ← (GuestRange.create base ⟨byteCount⟩).mapError fun _ =>
    ({ code := .gateRangeOverflow, guestAddress := base.value } : HleSetupError)
  refuseIf (overlapsImage gateRange image additionalReservedRanges = true)
    { code := .gateRegionOverlap, guestAddress := base.value }
  checkGateBindings registry slotCount bindings
  allocate host .gateRegion { code := .hostAllocationFailure } { code := .hostSizeUnrepresentable }
  return ⟨gateRange, slotCount, sortByKey (fun a b => decide (a ≤ b)) GateBinding.slot bindings⟩

/-! ### What a registry is -/

section Registry

variable {descriptors : List HleFunctionDescriptor} {registry : HleRegistry} {id : HleFunctionId}
  {descriptor : HleFunctionDescriptor}

/-- The functions of a registry: none without an id, a name, or with too many arguments, and no two
with one id or one name. -/
structure HleRegistry.WellFormed (registry : HleRegistry) : Prop where
  descriptor : ∀ descriptor ∈ registry.descriptors, descriptor.id.value ≠ 0 ∧
    descriptor.canonicalName ≠ [] ∧
    descriptor.argumentCount ≤ kMaxSyntheticGateArguments
  ids : (registry.descriptors.map HleFunctionDescriptor.id).Nodup
  names : (registry.descriptors.map HleFunctionDescriptor.canonicalName).Nodup

theorem compareDescriptors_eq_ok (h : compareDescriptors descriptors = .ok ()) :
    descriptors.Pairwise fun a b => a.id ≠ b.id ∧ a.canonicalName ≠ b.canonicalName := by
  induction descriptors with
  | nil => exact List.Pairwise.nil
  | cons descriptor later ih =>
    rw [compareDescriptors, bind_eq_ok] at h
    obtain ⟨_, hlater, hrest⟩ := h
    refine List.pairwise_cons.mpr ⟨fun other hother => ?_, ih hrest⟩
    have hturn := forM_eq_ok.mp hlater other hother
    simp only [bind_eq_ok, refuseIf_eq_ok] at hturn
    obtain ⟨-, hid, hname⟩ := hturn
    exact ⟨hid, hname⟩

/-- **A registry is well formed**, and has the functions it was made of. -/
theorem HleRegistry.create_eq_ok (h : HleRegistry.create descriptors = .ok registry) :
    registry.WellFormed ∧ registry.descriptors.Perm descriptors := by
  simp only [HleRegistry.create, bind_eq_ok, pure_eq_ok] at h
  obtain ⟨_, hchecked, _, hcompared, rfl⟩ := h
  have hperm := sortByKey_perm
    (fun a b : UInt32 => decide (a ≤ b)) (fun descriptor => descriptor.id.value) descriptors
  have hpairs := compareDescriptors_eq_ok hcompared
  refine ⟨⟨fun descriptor hmem => ?_, ?_, ?_⟩, hperm⟩
  · have hdescriptor := forM_eq_ok.mp hchecked descriptor (hperm.mem_iff.mp hmem)
    simp only [checkDescriptor, bind_eq_ok, refuseIf_eq_ok, List.isEmpty_iff] at hdescriptor
    obtain ⟨-, hid, -, hname, hcount⟩ := hdescriptor
    exact ⟨hid, hname, UInt8.not_lt.mp hcount⟩
  · rw [(hperm.map _).nodup_iff, List.Nodup, List.pairwise_map]
    exact hpairs.imp And.left
  · rw [(hperm.map _).nodup_iff, List.Nodup, List.pairwise_map]
    exact hpairs.imp And.right

theorem HleRegistry.WellFormed.find_eq_some (h : registry.WellFormed) :
    registry.find id = some descriptor ↔ descriptor ∈ registry.descriptors ∧ descriptor.id = id :=
  find?_key_eq_some h.ids

end Registry

/-! ### What a region is -/

/-- What a region of gates promises: a gate every sixteen bytes, bindings of different gates of its
own, each to a function of the registry, and no address that the image or another reserved range
has. -/
structure GateRegionBuilt (registry : HleRegistry) (image : GuestImage) (reserved : List GuestRange)
    (region : SyntheticGateRegion) : Prop where
  size : region.range.size.toNat = region.slotCount.toNat * 16
  positive : 0 < region.slotCount.toNat
  inside : ∀ binding ∈ region.bindings, binding.slot < region.slotCount
  known : ∀ binding ∈ region.bindings, ∃ descriptor, registry.find binding.functionId =
    some descriptor
  slots : (region.bindings.map GateBinding.slot).Nodup
  apart : ∀ x ∈ region.range, (∀ mapping ∈ image.mappings, x ∉ mapping.range) ∧
    x ∉ image.initialStack.storage ∧
    ∀ range ∈ reserved, x ∉ range

section Region

variable {registry : HleRegistry} {image : GuestImage} {reserved : List GuestRange}
  {region : SyntheticGateRegion} {bindings : List GateBinding} {slotCount slot : UInt32}
  {address : GuestAddress}

theorem checkGateBindings_eq_ok (h : checkGateBindings registry slotCount bindings = .ok ()) :
    (∀ binding ∈ bindings, binding.slot < slotCount ∧
      ∃ descriptor, registry.find binding.functionId = some descriptor) ∧
      bindings.Pairwise fun a b => a.slot ≠ b.slot := by
  induction bindings with
  | nil => exact ⟨fun _ hmem => absurd hmem List.not_mem_nil, List.Pairwise.nil⟩
  | cons binding later ih =>
    simp only [checkGateBindings, bind_eq_ok, refuseIf_eq_ok, Option.isNone_iff_eq_none] at h
    obtain ⟨-, hslot, -, hknown, _, hlater, hrest⟩ := h
    obtain ⟨hall, hpairs⟩ := ih hrest
    refine ⟨List.forall_mem_cons.mpr
      ⟨⟨UInt32.not_le.mp hslot, Option.ne_none_iff_exists'.mp hknown⟩, hall⟩, ?_⟩
    refine List.pairwise_cons.mpr ⟨fun other hother => ?_, hpairs⟩
    exact refuseIf_eq_ok.mp (forM_eq_ok.mp hlater other hother)

theorem overlapsImage_eq_false {range : GuestRange}
    (h : ¬ overlapsImage range image reserved = true) {x : ℕ} (hx : x ∈ range) :
    (∀ mapping ∈ image.mappings, x ∉ mapping.range) ∧ x ∉ image.initialStack.storage ∧
    ∀ range ∈ reserved, x ∉ range := by
  simp only [overlapsImage, Bool.or_eq_true, List.any_eq_true, GuestRange.overlaps_iff, not_or,
    not_exists, not_and] at h
  obtain ⟨⟨hmappings, hstack⟩, hreserved⟩ := h
  exact ⟨fun mapping hmem => hmappings mapping hmem x hx, hstack x hx,
    fun other hmem => hreserved other hmem x hx⟩

theorem toNat_gateOffset (slot : UInt32) :
    (slot.toUInt64 * kSyntheticGateStride).toNat = slot.toNat * 16 := by
  have hslot := slot.toNat_lt
  have hstride : kSyntheticGateStride.toNat = 16 := rfl
  rw [toNat_mul_of_lt (by rw [hstride, UInt32.toNat_toUInt64]; omega), hstride,
    UInt32.toNat_toUInt64]

/-- **A region that was built keeps what it promises.** -/
theorem gateRegionBuilt_of_build {host : Host} {base : GuestAddress}
    (h : buildSyntheticGateRegion host registry base slotCount bindings image reserved =
    .ok region) :
    GateRegionBuilt registry image reserved region ∧ region.range.base = base ∧
    region.slotCount = slotCount ∧
      region.bindings.Perm bindings := by
  simp only [buildSyntheticGateRegion, bind_eq_ok, refuseIf_eq_ok, mapError_eq_ok, pure_eq_ok] at h
  obtain ⟨-, hcount, range, hrange, -, hoverlap, _, hbindings, -, -, rfl⟩ := h
  obtain ⟨hbase, hsize⟩ := GuestRange.create_eq_ok hrange
  obtain ⟨hall, hpairs⟩ := checkGateBindings_eq_ok hbindings
  have hperm := sortByKey_perm (fun a b : UInt32 => decide (a ≤ b)) GateBinding.slot bindings
  refine ⟨⟨?_, ?_, ?_, ?_, ?_, fun x hx => overlapsImage_eq_false hoverlap hx⟩, hbase, rfl, hperm⟩
  · rw [hsize, GuestSize.toNat_mk, toNat_gateOffset]
  · exact Nat.pos_of_ne_zero fun hzero => hcount (UInt32.toNat_inj.mp hzero)
  · exact fun binding hmem => (hall binding (hperm.mem_iff.mp hmem)).1
  · exact fun binding hmem => (hall binding (hperm.mem_iff.mp hmem)).2
  · rw [(hperm.map _).nodup_iff, List.Nodup, List.pairwise_map]
    exact hpairs

section

variable (h : GateRegionBuilt registry image reserved region)

include h

theorem GateRegionBuilt.slotAddress_eq_some :
    region.slotAddress slot = some address ↔
      slot < region.slotCount ∧ address.toNat = region.range.base.toNat + slot.toNat * 16 := by
  have hwrap := region.range.noWrap
  rw [h.size] at hwrap
  rw [SyntheticGateRegion.slotAddress]
  by_cases hslot : slot ≥ region.slotCount
  · rw [if_pos hslot]
    exact ⟨fun hnone => (by cases hnone), fun hlt => absurd hlt.1 (UInt32.not_lt.mpr hslot)⟩
  · rw [if_neg hslot]
    have hlt : slot < region.slotCount := UInt32.not_le.mp hslot
    have hnat := UInt32.lt_iff_toNat_lt.mp hlt
    have hadd : region.range.base.checkedAdd ⟨slot.toUInt64 * kSyntheticGateStride⟩ =
        .ok ⟨region.range.base.value + slot.toUInt64 * kSyntheticGateStride⟩ := by
      apply GuestAddress.checkedAdd_of_lt
      rw [GuestSize.toNat_mk, toNat_gateOffset]
      omega
    obtain ⟨-, haddress⟩ := GuestAddress.checkedAdd_eq_ok hadd
    rw [GuestSize.toNat_mk, toNat_gateOffset] at haddress
    rw [hadd]
    constructor
    · intro hsome
      cases hsome
      exact ⟨hlt, haddress⟩
    · rintro ⟨-, hsame⟩
      exact congrArg some (GuestAddress.toNat_inj.mp (haddress.trans hsame.symm))

/-- **A gate is recognized by its address**, and nothing else is. -/
theorem GateRegionBuilt.recognizeSlot_eq_some :
    region.recognizeSlot address = some slot ↔ region.slotAddress slot = some address := by
  have hcount := region.slotCount.toNat_lt
  rw [h.slotAddress_eq_some, SyntheticGateRegion.recognizeSlot]
  have hstride : kSyntheticGateStride.toNat = 16 := rfl
  by_cases hin : region.range.contains address = false
  · rw [if_pos hin]
    refine ⟨fun hnone => (by cases hnone), ?_⟩
    rintro ⟨hlt, haddress⟩
    rw [UInt32.lt_iff_toNat_lt] at hlt
    refine absurd ?_ (GuestRange.contains_eq_false.mp hin)
    rw [GuestRange.mem_def, GuestRange.last, h.size]
    omega
  · rw [if_neg hin]
    rw [Bool.not_eq_false, GuestRange.contains_iff, GuestRange.mem_def, GuestRange.last, h.size]
      at hin
    have hoffset : (address.value - region.range.base.value).toNat =
        address.toNat - region.range.base.toNat :=
      UInt64.toNat_sub_of_le _ _ (UInt64.le_iff_toNat_le.mpr hin.1)
    have hslotNat : ((address.value - region.range.base.value) / kSyntheticGateStride).toNat =
        (address.toNat - region.range.base.toNat) / 16 := by
      rw [UInt64.toNat_div, hoffset, hstride]
    have hmod : (address.value - region.range.base.value) % kSyntheticGateStride = 0 ↔
        (address.toNat - region.range.base.toNat) % 16 = 0 := by
      rw [← UInt64.toNat_inj, UInt64.toNat_mod, hoffset, hstride]
      rfl
    dsimp only
    by_cases hgate : (address.toNat - region.range.base.toNat) % 16 = 0
    · rw [if_neg (not_not.mpr (hmod.mpr hgate)), if_neg (UInt64.not_le.mpr (by
        rw [UInt64.lt_iff_toNat_lt, hslotNat, UInt32.toNat_toUInt64]
        omega)), Option.some.injEq, ← UInt32.toNat_inj, UInt64.toNat_toUInt32, hslotNat,
        Nat.mod_eq_of_lt (by omega), UInt32.lt_iff_toNat_lt]
      omega
    · rw [if_pos fun hzero => hgate (hmod.mp hzero)]
      refine ⟨fun hnone => (by cases hnone), ?_⟩
      rintro ⟨-, haddress⟩
      refine absurd ?_ hgate
      rw [haddress, Nat.add_sub_cancel_left, Nat.mul_mod_left]

theorem GateRegionBuilt.bindingForSlot_eq_some {binding : GateBinding} :
    region.bindingForSlot slot = some binding ↔ binding ∈ region.bindings ∧ binding.slot = slot :=
  find?_key_eq_some h.slots

end

end Region

end Astraea.Execution
