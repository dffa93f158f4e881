import Astraea.Base.KeySort
import Astraea.Execution.PreparedMemory

/-!
# Native memory on Windows

Windows hands out addresses in blocks of its allocation granularity, so
`prepare_windows_guest_memory` rounds the regions of a plan out to blocks, reserves what
the blocks make up, and then commits the regions in them. From there on it does what the
Linux backend does.

A pointer is a machine word and the null pointer is zero. `VirtualAlloc` is asked for an
address and says with a null pointer that it cannot have it; it cannot be asked for
address zero at all.

`prepareWindowsGuestMemory_refuses_iff` says which images are refused, and
`prepareWindowsGuestMemory_holds` what the others find in memory.
-/

namespace Astraea.Execution

open Astraea.Base Astraea.Memory Astraea.Loader

/-- What a Windows host answers. -/
structure WindowsHost where
  pageSize : UInt32
  allocationGranularity : UInt32
  /-- The pointer `VirtualAlloc` returns for an address, a size, a type and a protection. -/
  virtualAlloc : UInt64 → UInt64 → UInt32 → UInt32 → UInt64
  /-- The error of the same call when it fails. -/
  virtualAllocError : UInt64 → UInt64 → UInt32 → UInt32 → UInt64
  /-- The error of a failed `VirtualProtect`, for an address, a size and a protection. -/
  virtualProtect : UInt64 → UInt64 → UInt32 → Option UInt64
  /-- The error of a failed `FlushInstructionCache`, for an address and a size. -/
  flushInstructionCache : UInt64 → UInt64 → Option UInt64

/-- Memory that was prepared: its plan and what was allocated for it. -/
structure WindowsPreparedMemory where
  plan : ExecutionMemoryPlan
  reservationRanges : List GuestRange
  mappingEpoch : UInt64
  deriving DecidableEq

/-- `ERROR_INVALID_ADDRESS`. -/
def kErrorInvalidAddress : UInt64 := 487

/-- `MEM_COMMIT`. -/
def kMemCommit : UInt32 := 0x1000

/-- `MEM_RESERVE`. -/
def kMemReserve : UInt32 := 0x2000

/-- `PAGE_NOACCESS`. -/
def kPageNoAccess : UInt32 := 0x01

/-- `PAGE_READONLY`. -/
def kPageReadOnly : UInt32 := 0x02

/-- `PAGE_READWRITE`. -/
def kPageReadWrite : UInt32 := 0x04

/-- `PAGE_EXECUTE`. -/
def kPageExecute : UInt32 := 0x10

/-- `PAGE_EXECUTE_READ`. -/
def kPageExecuteRead : UInt32 := 0x20

/-- The protection of a region, once its bytes are in place. -/
def windowsFinalProtection (permissions : GuestPermissions) : UInt32 :=
  if permissions.has .execute then
    if permissions.has .read then kPageExecuteRead else kPageExecute
  else if permissions.has .write then kPageReadWrite
  else if permissions.has .read then kPageReadOnly
  else kPageNoAccess

/-! ### Reservations -/

/-- The error of a reservation that cannot be rounded. -/
def reservationError (base : UInt64) : NativeBackendError :=
  { code := .hostPageArithmeticOverflow, guestAddress := some base }

/-- The blocks around one region. -/
def reservationRange (granularity : UInt64) (region : ExecutionMemoryRegion) :
    Except NativeBackendError GuestRange := do
  let base := region.range.base.value
  let last := base + (region.range.size.value - 1)
  let reserveBase := base / granularity * granularity
  let lastBlock := last / granularity
  refuseIf (lastBlock > u64Max / granularity) (reservationError base)
  let reserveLastBase := lastBlock * granularity
  refuseIf (reserveLastBase > u64Max - granularity) (reservationError base)
  let reserveEnd := reserveLastBase + granularity
  (GuestRange.create ⟨reserveBase⟩ ⟨reserveEnd - reserveBase⟩).mapError fun _ =>
    reservationError reserveBase

/-- The loop that merges sorted ranges: the last one so far and those that follow. -/
def mergeReservations :
    (previous : GuestRange) → List GuestRange → Except NativeBackendError (List GuestRange)
  | previous, [] => .ok [previous]
  | previous, range :: rest =>
    let previousEnd := previous.base.value + previous.size.value
    let rangeEnd := range.base.value + range.size.value
    if range.base.value > previousEnd then do
      let merged ← mergeReservations range rest
      return previous :: merged
    else do
      let mergedEnd := max previousEnd rangeEnd
      let merged ← (GuestRange.create previous.base ⟨mergedEnd - previous.base.value⟩).mapError
          fun _ =>
        reservationError previous.base.value
      mergeReservations merged rest

/-- `build_reservation_ranges`. -/
def buildReservationRanges (plan : ExecutionMemoryPlan) (granularity : UInt64) :
    Except NativeBackendError (List GuestRange) := do
  refuseIf (isPowerOfTwo granularity = false) { code := .hostPageArithmeticOverflow }
  let ranges ← (plan.regions.filter fun region => !region.range.empty).mapM
    (reservationRange granularity)
  match sortByKey (fun a b : UInt64 => decide (a ≤ b))
    (fun range : GuestRange => range.base.value) ranges with
  | [] => return []
  | first :: rest => mergeReservations first rest

/-! ### Preparation -/

/-- One turn of the loop over the reservations. -/
def reserveRange (host : WindowsHost) (reservation : GuestRange) :
    Except PreparationFailure Unit := do
  let base := reservation.base.value
  let size := reservation.size.value
  refuseIf (size = 0) (.refused (reservationError base))
  let reserved := host.virtualAlloc base size kMemReserve kPageNoAccess
  let hostError := host.virtualAllocError base size kMemReserve kPageNoAccess
  refuseIf (reserved = 0)
    (.refused ⟨if hostError = kErrorInvalidAddress then .guestAddressUnavailable
      else .hostMappingFailure, some base, some hostError⟩)
  refuseIf (reserved ≠ base)
    (.refused { code := .guestAddressUnavailable, guestAddress := some base })

/-- One turn of the loop that commits the regions. -/
def commitRegion (host : WindowsHost) (mem : MappedStore) (region : ExecutionMemoryRegion) :
    Except PreparationFailure MappedStore := do
  let base := region.range.base.value
  let size := region.range.size.value
  refuseIf (size = 0) (.refused (reservationError base))
  let committed := host.virtualAlloc base size kMemCommit kPageReadWrite
  refuseIf (committed = 0)
    (.refused ⟨.hostMappingFailure,
      some base, some (host.virtualAllocError base size kMemCommit kPageReadWrite)⟩)
  refuseIf (committed ≠ base)
    (.refused { code := .guestAddressUnavailable, guestAddress := some base })
  return mem.mapZero base.toNat size.toNat

/-- A host call that reports its error. -/
def orHostError (result : Option UInt64) (code : NativeBackendErrorCode) (base : UInt64) :
    Except PreparationFailure Unit :=
  match result with
  | some hostError => .error (.refused ⟨code, some base, some hostError⟩)
  | none => .ok ()

/-- One turn of the loop that protects the regions. -/
def protectWindowsRegion (host : WindowsHost) (region : ExecutionMemoryRegion) :
    Except PreparationFailure Unit := do
  let base := region.range.base.value
  let size := region.range.size.value
  refuseIf (size = 0) (.refused (reservationError base))
  orHostError (host.virtualProtect base size (windowsFinalProtection region.permissions))
    .hostProtectionFailure base
  whenever (region.permissions.has .execute = true)
    (orHostError (host.flushInstructionCache base size) .instructionCacheSyncFailure base)

/-- Everything before the epoch. -/
def prepareWindowsRegions (host : WindowsHost) (image : GuestImage) :
    Except PreparationFailure (WindowsPreparedMemory × MappedStore) := do
  let plan ← (planOf image host.pageSize.toUInt64).mapError fun e => .refused (planError e)
  let reservations ← (buildReservationRanges plan host.allocationGranularity.toUInt64).mapError
    .refused
  reservations.forM (reserveRange host)
  let committed ← plan.regions.foldlM (commitRegion host) MappedStore.nothing
  let mem ← loadImage image committed
  plan.regions.forM (protectWindowsRegion host)
  return (⟨plan, reservations, 0⟩, mem)

/-- `prepare_windows_guest_memory`, with the counter of epochs. -/
def prepareWindowsGuestMemory (host : WindowsHost) (counter : UInt64) (image : GuestImage) :
    Except PreparationFailure (WindowsPreparedMemory × MappedStore) × UInt64 :=
  match prepareWindowsRegions host image with
  | .error e => (.error e, counter)
  | .ok (prepared, mem) =>
    let (epoch, counter) := nextPreparedMappingEpoch counter
    if epoch = 0 then (.error (.refused { code := .internalTransitionFailure }), counter)
    else (.ok ({ prepared with mappingEpoch := epoch }, mem), counter)

/-! ### What the reservations are -/

/-- The block of a region's last byte is the last of the address space. -/
def RoundingOverflows (granularity : UInt64) (plan : ExecutionMemoryPlan) : Prop :=
  ∃ region ∈ plan.regions, 2 ^ 64 ≤
    ((region.range.last - 1) / granularity.toNat + 1) * granularity.toNat

/-- A region begins in the first block, so that its reservation begins at address zero. -/
def BeginsInFirstBlock (granularity : UInt64) (plan : ExecutionMemoryPlan) : Prop :=
  ∃ region ∈ plan.regions, region.range.base.toNat < granularity.toNat

/-- A range of blocks that ends below the top of the address space. -/
structure ReservationFits (range : GuestRange) : Prop where
  positive : 0 < range.size.toNat
  below : range.last < 2 ^ 64

section Reservations

variable {granularity : UInt64} {region : ExecutionMemoryRegion}

variable {range : GuestRange} {ranges : List GuestRange}

theorem toNat_lastAddress (hpos : 0 < range.size.toNat) :
    (range.base.value + (range.size.value - 1)).toNat = range.last - 1 := by
  have hwrap := range.noWrap
  have hone : (1 : UInt64) ≤ range.size.value := UInt64.le_iff_toNat_le.mpr hpos
  rw [UInt64.toNat_add, UInt64.toNat_sub_of_le _ _ hone, UInt64.toNat_one, GuestRange.last]
  simp only [GuestAddress.toNat, GuestSize.toNat] at *
  rw [Nat.mod_eq_of_lt (by omega)]
  omega

theorem reservation_words (hpos : 0 < region.range.size.toNat) :
    (region.range.base.value / granularity * granularity).toNat =
        region.range.base.toNat / granularity.toNat * granularity.toNat ∧
      ¬ (region.range.base.value + (region.range.size.value - 1)) / granularity >
        u64Max / granularity ∧
      ((region.range.base.value + (region.range.size.value - 1)) / granularity *
        granularity).toNat =
        (region.range.last - 1) / granularity.toNat * granularity.toNat := by
  have hlast := toNat_lastAddress hpos
  have hle := region.range.last_le
  have hlt : region.range.last - 1 < 2 ^ 64 := by omega
  refine ⟨?_, ?_, ?_⟩
  · rw [UInt64.toNat_mul, UInt64.toNat_div, GuestAddress.toNat, Nat.mod_eq_of_lt]
    exact lt_of_le_of_lt (Nat.div_mul_le_self _ _) region.range.base.value.toNat_lt
  · rw [gt_iff_lt, UInt64.lt_iff_toNat_lt, UInt64.toNat_div, UInt64.toNat_div, toNat_u64Max, hlast,
      Nat.not_lt]
    exact Nat.div_le_div_right (by omega)
  · rw [UInt64.toNat_mul, UInt64.toNat_div, hlast, Nat.mod_eq_of_lt]
    exact lt_of_le_of_lt (Nat.div_mul_le_self _ _) hlt

/-- The blocks around a region, when their end has an address. -/
theorem reservationRange_of_fits (hgranularity : 0 < granularity.toNat)
    (hpos : 0 < region.range.size.toNat)
    (h : ((region.range.last - 1) / granularity.toNat + 1) * granularity.toNat < 2 ^ 64) :
    ∃ range, reservationRange granularity region = .ok range ∧ ReservationFits range ∧
      range.base.toNat = region.range.base.toNat / granularity.toNat * granularity.toNat ∧
      range.last = ((region.range.last - 1) / granularity.toNat + 1) * granularity.toNat := by
  obtain ⟨hbase, hblock, hlastBase⟩ := @reservation_words granularity region hpos
  have horder : region.range.base.toNat / granularity.toNat * granularity.toNat ≤
      (region.range.last - 1) / granularity.toNat * granularity.toNat := by
    refine Nat.mul_le_mul_right _ (Nat.div_le_div_right ?_)
    rw [GuestRange.last]
    omega
  rw [Nat.add_mul, Nat.one_mul] at h ⊢
  have hroom : ¬ (region.range.base.value + (region.range.size.value - 1)) / granularity *
    granularity >
      u64Max - granularity := by
    rw [gt_u64Max_sub_iff, hlastBase]
    omega
  have hend : ((region.range.base.value + (region.range.size.value - 1)) / granularity *
      granularity + granularity).toNat = (region.range.last - 1) / granularity.toNat *
      granularity.toNat + granularity.toNat := by
    rw [UInt64.toNat_add, hlastBase, Nat.mod_eq_of_lt h]
  have hsize := UInt64.toNat_sub_of_le
    ((region.range.base.value + (region.range.size.value - 1)) / granularity * granularity +
      granularity)
    (region.range.base.value / granularity * granularity)
      (by rw [UInt64.le_iff_toNat_le, hend, hbase]; omega)
  rw [hend, hbase] at hsize
  have hwrap : (GuestAddress.mk (region.range.base.value / granularity * granularity)).toNat +
      (GuestSize.mk ((region.range.base.value + (region.range.size.value - 1)) / granularity *
        granularity + granularity - region.range.base.value / granularity * granularity)).toNat ≤
        2 ^ 64 := by
    rw [GuestAddress.toNat_mk, GuestSize.toNat_mk, hsize, hbase]
    omega
  have hlast : (GuestRange.mk _ _ hwrap).last =
      (region.range.last - 1) / granularity.toNat * granularity.toNat + granularity.toNat := by
    rw [GuestRange.last]
    dsimp only
    rw [GuestAddress.toNat_mk, GuestSize.toNat_mk, hsize, hbase]
    omega
  refine ⟨⟨_, _, hwrap⟩, ?_, ⟨?_, ?_⟩, ?_, hlast⟩
  · simp only [reservationRange]
    rw [refuseIf_of_not hblock, ok_bind, refuseIf_of_not hroom, ok_bind,
      GuestRange.create_of_le hwrap, mapError_ok]
  · dsimp only
    rw [GuestSize.toNat_mk, hsize]
    omega
  · rw [hlast]
    exact h
  · dsimp only
    rw [GuestAddress.toNat_mk, hbase]

theorem reservationRange_of_overflow (hpos : 0 < region.range.size.toNat)
    (h : 2 ^ 64 ≤ ((region.range.last - 1) / granularity.toNat + 1) * granularity.toNat) :
    ∃ e, reservationRange granularity region = .error e := by
  obtain ⟨-, hblock, hlastBase⟩ := reservation_words hpos
  refine ⟨reservationError region.range.base.value, ?_⟩
  simp only [reservationRange]
  rw [refuseIf_of_not hblock, ok_bind, bind_eq_error]
  refine .inl (refuseIf_eq_error.mpr ⟨?_, rfl⟩)
  rw [gt_u64Max_sub_iff, hlastBase]
  rwa [Nat.add_mul, Nat.one_mul] at h

theorem toNat_end (h : ReservationFits range) :
    (range.base.value + range.size.value).toNat = range.last := by
  have hbelow := h.below
  rw [GuestRange.last] at hbelow ⊢
  rw [UInt64.toNat_add]
  exact Nat.mod_eq_of_lt hbelow

theorem exists_merged {previous : GuestRange} (hprevious : ReservationFits previous)
    (hrange : ReservationFits range) :
    ∃ merged, GuestRange.create previous.base
        ⟨max (previous.base.value + previous.size.value)
          (range.base.value + range.size.value) - previous.base.value⟩ =
          .ok merged ∧ ReservationFits merged ∧ merged.base = previous.base := by
  have hmax :
    (max (previous.base.value + previous.size.value) (range.base.value + range.size.value)).toNat =
      max previous.last range.last := by
    rw [toNat_max, toNat_end hprevious, toNat_end hrange]
  have hpos := hprevious.positive
  have hbelow := hprevious.below
  have hbelow' := hrange.below
  have hlast : previous.last = previous.base.toNat + previous.size.toNat := rfl
  have hle : previous.base.value ≤
      max (previous.base.value + previous.size.value) (range.base.value + range.size.value) := by
    rw [UInt64.le_iff_toNat_le, hmax]
    rw [GuestAddress.toNat] at hlast
    omega
  have hsize := UInt64.toNat_sub_of_le _ _ hle
  rw [hmax] at hsize
  have hwrap : previous.base.toNat + (GuestSize.mk (max (previous.base.value + previous.size.value)
      (range.base.value + range.size.value) - previous.base.value)).toNat ≤ 2 ^ 64 := by
    rw [GuestSize.toNat_mk, hsize]
    simp only [GuestAddress.toNat] at *
    omega
  refine ⟨_, GuestRange.create_of_le hwrap, ⟨?_, ?_⟩, rfl⟩
  · dsimp only
    rw [GuestSize.toNat_mk, hsize]
    simp only [GuestAddress.toNat] at *
    omega
  · rw [GuestRange.last]
    dsimp only
    rw [GuestSize.toNat_mk, hsize]
    simp only [GuestAddress.toNat] at *
    omega

/-- Ranges that fit are merged, and what they are merged to fits, begins where one of them
does, and begins with the first. -/
theorem mergeReservations_spec {previous : GuestRange} (hprevious : ReservationFits previous)
    (hranges : ∀ range ∈ ranges, ReservationFits range)
    (hsorted : (previous :: ranges).Pairwise fun a b => a.base.toNat ≤ b.base.toNat) :
    ∃ first rest, mergeReservations previous ranges = .ok (first :: rest) ∧
      first.base = previous.base ∧
      ∀ range ∈ first :: rest, ReservationFits range ∧
        ∃ source ∈ previous :: ranges, range.base = source.base := by
  induction ranges generalizing previous with
  | nil =>
    refine ⟨previous, [], rfl, rfl, ?_⟩
    intro range hrange
    rw [List.mem_singleton] at hrange
    exact ⟨hrange ▸ hprevious, previous, List.mem_cons_self, by rw [hrange]⟩
  | cons range ranges ih =>
    rw [List.forall_mem_cons] at hranges
    rw [List.pairwise_cons, List.forall_mem_cons] at hsorted
    obtain ⟨⟨hfirst, hrest⟩, htail⟩ := hsorted
    rw [mergeReservations]
    split_ifs with hgap
    · obtain ⟨first, rest, hmerged, hbase, hall⟩ := ih hranges.1 hranges.2 htail
      refine ⟨previous, first :: rest, ?_, rfl, List.forall_mem_cons.mpr ⟨?_, ?_⟩⟩
      · rw [hmerged]
        rfl
      · exact ⟨hprevious, previous, List.mem_cons_self, rfl⟩
      · intro found hfound
        obtain ⟨hfits, source, hsource, heq⟩ := hall found hfound
        exact ⟨hfits, source, List.mem_cons_of_mem _ hsource, heq⟩
    · obtain ⟨merged, hcreate, hfits, hbase⟩ := exists_merged hprevious hranges.1
      have hsorted : (merged :: ranges).Pairwise fun a b => a.base.toNat ≤ b.base.toNat := by
        rw [List.pairwise_cons] at htail ⊢
        exact ⟨by rw [hbase]; exact hrest, htail.2⟩
      obtain ⟨first, rest, hmerged, hfirst, hall⟩ := ih hfits hranges.2 hsorted
      refine ⟨first, rest, ?_, hfirst.trans hbase, ?_⟩
      · dsimp only
        rw [hcreate, mapError_ok, ok_bind, hmerged]
      · intro found hfound
        obtain ⟨hfits, source, hsource, heq⟩ := hall found hfound
        refine ⟨hfits, ?_⟩
        rcases List.mem_cons.mp hsource with rfl | hsource
        · exact ⟨previous, List.mem_cons_self, heq.trans hbase⟩
        · exact ⟨source, List.mem_cons_of_mem _ (List.mem_cons_of_mem _ hsource), heq⟩

theorem ordersKeys_word : OrdersKeys fun a b : UInt64 => decide (a ≤ b) where
  trans := by
    intro a b c hab hbc
    rw [decide_eq_true_eq] at *
    exact UInt64.le_trans hab hbc
  total := by
    intro a b
    rw [Bool.or_eq_true, decide_eq_true_eq, decide_eq_true_eq]
    exact UInt64.le_total a b
  antisymm := by
    intro a b hab hba
    rw [decide_eq_true_eq] at *
    exact UInt64.le_antisymm hab hba

theorem mergeSorted_spec (h : ∀ range ∈ ranges, ReservationFits range) :
    ∃ merged, (match sortByKey (fun a b : UInt64 => decide (a ≤ b))
      (fun range : GuestRange => range.base.value) ranges with
        | [] => pure []
        | first :: rest => mergeReservations first rest) = Except.ok merged ∧
      (∀ range ∈ merged, ReservationFits range) ∧
      ((∃ range ∈ merged, range.base.toNat = 0) ↔ ∃ range ∈ ranges, range.base.toNat = 0) := by
  have hsorted :=
    ordersKeys_word.pairwise_sortByKey (fun range : GuestRange => range.base.value) ranges
  have hmem : ∀ {range}, range ∈
    sortByKey (fun a b : UInt64 => decide (a ≤ b)) (fun range : GuestRange => range.base.value)
      ranges ↔ range ∈ ranges := mem_sortByKey
  generalize sortByKey (fun a b : UInt64 => decide (a ≤ b))
    (fun range : GuestRange => range.base.value) ranges = sorted
    at hsorted hmem ⊢
  simp only [← hmem] at h ⊢
  cases sorted with
  | nil => exact ⟨[], rfl, by simp, Iff.rfl⟩
  | cons first rest =>
    have hpairwise : (first :: rest).Pairwise fun a b => a.base.toNat ≤ b.base.toNat := by
      refine hsorted.imp ?_
      intro a b hab
      rw [decide_eq_true_eq] at hab
      exact UInt64.le_iff_toNat_le.mp hab
    rw [List.forall_mem_cons] at h
    obtain ⟨head, tail, hmerged, hhead, hall⟩ := mergeReservations_spec h.1 h.2 hpairwise
    refine ⟨head :: tail, hmerged, fun range hrange => (hall range hrange).1, ?_, ?_⟩
    · rintro ⟨range, hrange, hzero⟩
      obtain ⟨-, source, hsource, heq⟩ := hall range hrange
      exact ⟨source, hsource, by rw [← heq, hzero]⟩
    · rintro ⟨range, hrange, hzero⟩
      refine ⟨head, List.mem_cons_self, ?_⟩
      rw [hhead]
      rw [List.pairwise_cons] at hpairwise
      rcases List.mem_cons.mp hrange with rfl | hrange
      · exact hzero
      · have := hpairwise.1 range hrange
        omega

section Plan

variable {plan : ExecutionMemoryPlan}

theorem filter_nonempty (hpos : ∀ region ∈ plan.regions, 0 < region.range.size.toNat) :
    (plan.regions.filter fun region => !region.range.empty) = plan.regions := by
  rw [List.filter_eq_self]
  intro region hregion
  have := hpos region hregion
  rw [Bool.not_eq_true', ← Bool.not_eq_true, GuestRange.empty_iff]
  omega

/-- **Reservations are built unless their rounding overflows.** One of them begins at address
zero exactly when a region begins in the first block. -/
theorem buildReservationRanges_of_fits (hgranularity : isPowerOfTwo granularity = true)
    (hpos : ∀ region ∈ plan.regions, 0 < region.range.size.toNat)
    (h : ¬ RoundingOverflows granularity plan) :
    ∃ ranges, buildReservationRanges plan granularity = .ok ranges ∧
      (∀ range ∈ ranges, ReservationFits range) ∧
      ((∃ range ∈ ranges, range.base.toNat = 0) ↔ BeginsInFirstBlock granularity plan) := by
  have hgpos := isPowerOfTwo_pos hgranularity
  have hturn : ∀ region ∈ plan.regions, ∃ range, reservationRange granularity region = .ok range ∧
    ReservationFits range ∧
      range.base.toNat = region.range.base.toNat / granularity.toNat * granularity.toNat := by
    intro region hregion
    have hfits : ((region.range.last - 1) / granularity.toNat + 1) * granularity.toNat <
        2 ^ 64 := by
      by_contra hover
      exact h ⟨region, hregion, Nat.not_lt.mp hover⟩
    obtain ⟨range, hok, hrange, hbase, -⟩ :=
      reservationRange_of_fits hgpos (hpos region hregion) hfits
    exact ⟨range, hok, hrange, hbase⟩
  have hzero : ∀ base : ℕ, base / granularity.toNat * granularity.toNat = 0 ↔
      base < granularity.toNat := by
    intro base
    rw [Nat.mul_eq_zero, Nat.div_eq_zero_iff]
    omega
  obtain ⟨rounded, hrounded⟩ := exists_mapM_eq_ok fun region hregion =>
    (hturn region hregion).imp fun _ hspec => hspec.1
  obtain ⟨hforth, hback⟩ := mem_of_mapM_eq_ok hrounded
  have hrange : ∀ range ∈ rounded, ReservationFits range := by
    intro range hmem
    obtain ⟨region, hregion, hok⟩ := hback range hmem
    obtain ⟨found, hfound, hfits, -⟩ := hturn region hregion
    rw [hok] at hfound
    cases hfound
    exact hfits
  have hbegins : (∃ range ∈ rounded, range.base.toNat = 0) ↔
      BeginsInFirstBlock granularity plan := by
    constructor
    · rintro ⟨range, hmem, hbase⟩
      obtain ⟨region, hregion, hok⟩ := hback range hmem
      obtain ⟨found, hfound, -, hspec⟩ := hturn region hregion
      rw [hok] at hfound
      cases hfound
      exact ⟨region, hregion, (hzero _).mp (by rw [← hspec, hbase])⟩
    · rintro ⟨region, hregion, hlow⟩
      obtain ⟨range, hmem, hok⟩ := hforth region hregion
      obtain ⟨found, hfound, -, hspec⟩ := hturn region hregion
      rw [hok] at hfound
      cases hfound
      exact ⟨_, hmem, by rw [hspec, (hzero _).mpr hlow]⟩
  obtain ⟨ranges, hranges, hfits, hsame⟩ := mergeSorted_spec hrange
  refine ⟨ranges, ?_, hfits, hsame.trans hbegins⟩
  rw [buildReservationRanges, refuseIf_of_not (by rw [hgranularity]; simp), ok_bind,
    filter_nonempty hpos, hrounded, ok_bind]
  exact hranges

theorem buildReservationRanges_of_overflow
    (hpos : ∀ region ∈ plan.regions, 0 < region.range.size.toNat)
    (h : RoundingOverflows granularity plan) :
    ∃ e, buildReservationRanges plan granularity = .error e := by
  obtain ⟨region, hregion, hover⟩ := h
  obtain ⟨e, he⟩ := reservationRange_of_overflow (hpos region hregion) hover
  cases hbuild : buildReservationRanges plan granularity with
  | error e => exact ⟨e, rfl⟩
  | ok ranges =>
    simp only [buildReservationRanges, bind_eq_ok, filter_nonempty hpos] at hbuild
    obtain ⟨-, -, rounded, hrounded, -⟩ := hbuild
    obtain ⟨range, -, hok⟩ := (mem_of_mapM_eq_ok hrounded).1 region hregion
    rw [he] at hok
    cases hok

end Plan

end Reservations

/-! ### Which images are refused -/

/-- A host that gives memory wherever it can be asked for it, in blocks of a power of two,
and does whatever else it is asked to. -/
structure WindowsHost.Grants (host : WindowsHost) : Prop where
  granularity : isPowerOfTwo host.allocationGranularity.toUInt64 = true
  virtualAlloc : ∀ address size type protection, address ≠ 0 →
    host.virtualAlloc address size type protection = address
  virtualProtect : ∀ address size protection, host.virtualProtect address size protection = none
  flushInstructionCache : ∀ address size, host.flushInstructionCache address size = none

section Windows

variable {host : WindowsHost}

theorem reserveRange_eq_ok_iff (hgrants : host.Grants) {reservation : GuestRange}
    (hfits : ReservationFits reservation) :
    reserveRange host reservation = .ok () ↔ reservation.base.toNat ≠ 0 := by
  have hsize := GuestSize.value_ne_zero hfits.positive
  have hbase : reservation.base.toNat = 0 ↔ reservation.base.value = 0 := by
    rw [GuestAddress.toNat, ← UInt64.toNat_inj, UInt64.toNat_zero]
  simp only [reserveRange, bind_eq_ok, refuseIf_eq_ok, not_not]
  constructor
  · rintro ⟨-, -, -, hnull, hsame⟩ hzero
    rw [hsame] at hnull
    exact hnull (hbase.mp hzero)
  · intro hne
    have hne : reservation.base.value ≠ 0 := fun hzero => hne (hbase.mpr hzero)
    exact ⟨(), hsize, (), by rw [hgrants.virtualAlloc _ _ _ _ hne]; exact hne,
      hgrants.virtualAlloc _ _ _ _ hne⟩

variable {regions : List ExecutionMemoryRegion}

theorem commitRegions_eq (hgrants : host.Grants)
    (hpos : ∀ region ∈ regions, 0 < region.range.size.toNat)
    (hbase : ∀ region ∈ regions, region.range.base.value ≠ 0) (mem : MappedStore) :
    regions.foldlM (commitRegion host) mem = .ok (mapRegions mem regions) := by
  induction regions generalizing mem with
  | nil => rfl
  | cons region regions ih =>
    rw [List.forall_mem_cons] at hpos hbase
    have hsize := GuestSize.value_ne_zero hpos.1
    have hturn : commitRegion host mem region =
        .ok (mem.mapZero region.range.base.toNat region.range.size.toNat) := by
      simp only [commitRegion, hgrants.virtualAlloc _ _ _ _ hbase.1]
      rw [refuseIf_of_not hsize, ok_bind, refuseIf_of_not hbase.1, ok_bind,
        refuseIf_of_not fun hne => hne rfl, ok_bind]
      rfl
    rw [List.foldlM_cons, hturn, ok_bind, ih hpos.2 hbase.2]
    rfl

theorem protectWindowsRegions_eq (hgrants : host.Grants)
    (hpos : ∀ region ∈ regions, 0 < region.range.size.toNat) :
    regions.forM (protectWindowsRegion host) = .ok () := by
  rw [forM_eq_ok]
  intro region hregion
  have hsize := GuestSize.value_ne_zero (hpos region hregion)
  simp only [protectWindowsRegion, hgrants.virtualProtect, hgrants.flushInstructionCache]
  rw [refuseIf_of_not hsize, ok_bind]
  simp only [orHostError, ok_bind, whenever_eq_ok, implies_true]

variable {request : GuestImageRequest} {image : GuestImage} {plan : ExecutionMemoryPlan}
  {counter : UInt64}

/-- An image that is not refused finds the memory that its plan and its bytes describe. -/
theorem prepareWindowsGuestMemory_of_fits (hbuilt : BuiltFrom request image)
    (hstack : StackInMemory request.initialStack) (hgrants : host.Grants) (hzero : counter ≠ 0)
    (hmax : counter ≠ u64Max) (hplan : planOf image host.pageSize.toUInt64 = .ok plan)
    (hround : ¬ RoundingOverflows host.allocationGranularity.toUInt64 plan)
    (hblock : ¬ BeginsInFirstBlock host.allocationGranularity.toUInt64 plan) :
    ∃ view, image.initializedImageView = .ok view ∧ ∃ reservations mem,
      prepareWindowsGuestMemory host counter image =
        (.ok (⟨plan, reservations, counter⟩, mem), counter + 1) ∧
      HoldsImage image view plan mem := by
  obtain ⟨view, hview, mem, hmem, hholds⟩ := loadImage_holds hbuilt hstack hplan
  obtain ⟨-, -, hpos⟩ := planOf_covers hplan
  obtain ⟨reservations, hreservations, hfits, hbegins⟩ :=
    buildReservationRanges_of_fits hgrants.granularity hpos hround
  refine ⟨view, hview, reservations, mem, ?_, hholds⟩
  have hreserve : reservations.forM (reserveRange host) = .ok () := by
    rw [forM_eq_ok]
    intro reservation hmember
    rw [reserveRange_eq_ok_iff hgrants (hfits reservation hmember)]
    intro hbase
    exact hblock (hbegins.mp ⟨reservation, hmember, hbase⟩)
  have hbase : ∀ region ∈ plan.regions, region.range.base.value ≠ 0 := by
    intro region hregion hbase
    refine hblock ⟨region, hregion, ?_⟩
    rw [GuestAddress.toNat, hbase, UInt64.toNat_zero]
    exact isPowerOfTwo_pos hgrants.granularity
  have hregions : prepareWindowsRegions host image = .ok (⟨plan, reservations, 0⟩, mem) := by
    rw [prepareWindowsRegions, hplan, mapError_ok, ok_bind, hreservations, mapError_ok, ok_bind,
      hreserve, ok_bind, commitRegions_eq hgrants hpos hbase, ok_bind, hmem, ok_bind,
      protectWindowsRegions_eq hgrants hpos, ok_bind]
    rfl
  simp only [prepareWindowsGuestMemory, hregions, nextPreparedMappingEpoch_of_ne hzero hmax,
    if_neg hzero]

theorem prepareWindowsGuestMemory_of_error {e : PreparationFailure}
    (h : prepareWindowsRegions host image = .error e) :
    (prepareWindowsGuestMemory host counter image).1 = .error e := by
  simp only [prepareWindowsGuestMemory, h]

/-- **Which images are refused.** An image with a plan is refused when the rounding of its
reservations overflows or one of them would begin at address zero, and not otherwise. -/
theorem prepareWindowsGuestMemory_refuses_iff (hbuilt : BuiltFrom request image)
    (hstack : StackInMemory request.initialStack) (hgrants : host.Grants) (hzero : counter ≠ 0)
    (hmax : counter ≠ u64Max) (hplan : planOf image host.pageSize.toUInt64 = .ok plan) :
    (∃ e, (prepareWindowsGuestMemory host counter image).1 = .error e) ↔
      RoundingOverflows host.allocationGranularity.toUInt64 plan ∨
        BeginsInFirstBlock host.allocationGranularity.toUInt64 plan := by
  obtain ⟨-, -, hpos⟩ := planOf_covers hplan
  constructor
  · rintro ⟨e, he⟩
    by_contra hneither
    rw [not_or] at hneither
    obtain ⟨-, -, reservations, mem, hok, -⟩ :=
      prepareWindowsGuestMemory_of_fits hbuilt hstack hgrants hzero hmax hplan hneither.1 hneither.2
    rw [hok] at he
    cases he
  · intro hcase
    by_cases hround : RoundingOverflows host.allocationGranularity.toUInt64 plan
    · obtain ⟨e, he⟩ := buildReservationRanges_of_overflow hpos hround
      refine ⟨.refused e, prepareWindowsGuestMemory_of_error ?_⟩
      rw [prepareWindowsRegions, hplan, mapError_ok, ok_bind, he]
      rfl
    · obtain ⟨reservations, hreservations, hfits, hbegins⟩ :=
        buildReservationRanges_of_fits hgrants.granularity hpos hround
      obtain ⟨reservation, hmember, hbase⟩ := hbegins.mpr (hcase.resolve_left hround)
      cases hreserve : reservations.forM (reserveRange host) with
      | ok u =>
        have hok := forM_eq_ok.mp hreserve reservation hmember
        rw [reserveRange_eq_ok_iff hgrants (hfits reservation hmember)] at hok
        exact absurd hbase hok
      | error e =>
        refine ⟨e, prepareWindowsGuestMemory_of_error ?_⟩
        rw [prepareWindowsRegions, hplan, mapError_ok, ok_bind, hreservations, mapError_ok, ok_bind,
          hreserve]
        rfl

end Windows

/-! ### The two backends -/

/-- A file with one segment of code on the second page, where position-independent
programs usually begin. -/
def secondPageElf : List UInt8 :=
  [0x7f, 0x45, 0x4c, 0x46, 2, 1, 1] ++ List.replicate 9 0 ++
    wordsBytes [(2, 3), (2, 62), (4, 1), (8, 0x1000), (8, 64), (8, 0), (4, 0), (2, 64), (2, 56),
      (2, 1), (2, 0), (2, 0), (2, 0)] ++
    wordsBytes [(4, 1), (4, 5), (8, 0), (8, 0x1000), (8, 0x1000), (8, 120), (8, 120), (8, 0x1000)]

/-- A page for a stack with nothing on it. -/
def farPage : GuestRange := ⟨⟨0x200000⟩, ⟨0x1000⟩, by decide⟩

/-- The request to load a file into the second page. -/
def secondPageRequest : GuestImageRequest :=
  { imageBytes := secondPageElf, initialStack := ⟨farPage, [], [], []⟩ }

/-- The bytes of the segment. -/
def secondPageRange : GuestRange := ⟨⟨0x1000⟩, ⟨120⟩, by decide⟩

/-- The mapping of the second page. -/
def secondPageMapping : MappingIntent := ⟨secondPageRange, .fromElfFlags 5, ⟨.file, 0, ⟨120⟩⟩, 0⟩

theorem buildGuestImage_secondPage : ∃ image, buildGuestImage secondPageRequest = .ok image ∧
    image.mappings = [secondPageMapping] ∧ image.initialStack.storage = farPage ∧
      image.initialStack.rsp = ⟨0x200fd0⟩ ∧ image.elf.header.entry = 0x1000 := by
  have hbuild : (buildGuestImage secondPageRequest).toOption.any (fun image =>
      decide (image.mappings = [secondPageMapping]) &&
        decide (image.initialStack.storage = farPage) &&
        decide (image.initialStack.rsp = ⟨0x200fd0⟩) && decide (image.elf.header.entry = 0x1000)) =
          true := by
    decide +kernel
  obtain ⟨image, himage, hspec⟩ := exists_of_any hbuild
  simp only [Bool.and_eq_true, decide_eq_true_eq, and_assoc] at hspec
  exact ⟨image, himage, hspec⟩

/-- The plan request of an image with this mapping and this stack. -/
def secondPagePlanRequest : ExecutionMemoryPlanRequest where
  mappings := [secondPageMapping]
  stackStorage := farPage
  entryPoint := ⟨0x1000⟩
  stackPointer := ⟨0x200fd0⟩
  hostPageSize := 0x1000
  inMemory := by decide

theorem secondPage_boundaries :
    boundaries secondPagePlanRequest.hostPageSize.toNat (requestSpans secondPagePlanRequest) =
      [1, 2, 0x200, 0x201] := by
  have hspans : (requestSpans secondPagePlanRequest).flatMap (fun span =>
      span.firstPage :: if span.lastPage <
        maxPageIndex secondPagePlanRequest.hostPageSize.toNat then [span.lastPage + 1]
        else []) = [1, 2, 0x200, 0x201] := by decide +kernel
  rw [boundaries, hspans, List.mergeSort_of_pairwise (by decide)]
  decide

theorem planOf_secondPage {image : GuestImage} (hmappings : image.mappings = [secondPageMapping])
    (hstorage : image.initialStack.storage = farPage) (hrsp : image.initialStack.rsp = ⟨0x200fd0⟩)
    (hentry : image.elf.header.entry = 0x1000) :
    ∃ plan, planOf image 0x1000 = .ok plan ∧ plan.regions.map ExecutionMemoryRegion.range =
      [lowPage, farPage] := by
  have hplan : planOf image 0x1000 = buildExecutionMemoryPlan secondPagePlanRequest := by
    rw [planOf, dif_pos (by rw [hmappings]; decide)]
    refine congrArg buildExecutionMemoryPlan ?_
    rw [secondPagePlanRequest, ExecutionMemoryPlanRequest.mk.injEq, hmappings, hstorage, hrsp,
      hentry]
    exact ⟨rfl, rfl, rfl, rfl, rfl⟩
  have hbuild : (buildExecutionMemoryPlan secondPagePlanRequest).toOption.any (fun plan =>
      decide (plan.regions.map ExecutionMemoryRegion.range = [lowPage, farPage])) = true := by
    rw [buildExecutionMemoryPlan_eq (by decide), secondPage_boundaries]
    decide +kernel
  obtain ⟨plan, hok, hregions⟩ := exists_of_any hbuild
  exact ⟨plan, hplan.trans hok, of_decide_eq_true hregions⟩

/-- A Windows host that grants everything, with the usual pages and blocks. -/
def generousWindows : WindowsHost where
  pageSize := 0x1000
  allocationGranularity := 0x10000
  virtualAlloc := fun address _ _ _ => address
  virtualAllocError := fun _ _ _ _ => 0
  virtualProtect := fun _ _ _ => none
  flushInstructionCache := fun _ _ => none

theorem generousWindows_grants : generousWindows.Grants :=
  ⟨by decide, fun _ _ _ _ _ => rfl, fun _ _ _ => rfl, fun _ _ => rfl⟩

theorem secondPage_stackInMemory : StackInMemory secondPageRequest.initialStack :=
  ⟨by decide, by decide, by decide, by simp [secondPageRequest], by simp [secondPageRequest]⟩

/-- An image in the first block is refused although no rounding overflows: a pointer to
address zero reads as a failed reservation. -/
theorem prepareWindowsGuestMemory_refuses_secondPage :
    ∃ image plan, buildGuestImage secondPageRequest = .ok image ∧
      StackInMemory secondPageRequest.initialStack ∧
      planOf image generousWindows.pageSize.toUInt64 = .ok plan ∧
      (∀ address size type protection, generousWindows.virtualAlloc address size type protection =
        address) ∧
      generousWindows.Grants ∧
      ¬ RoundingOverflows generousWindows.allocationGranularity.toUInt64 plan ∧
      ∃ e, (prepareWindowsGuestMemory generousWindows 1 image).1 = .error e := by
  obtain ⟨image, hbuild, hmappings, hstorage, hrsp, hentry⟩ := buildGuestImage_secondPage
  obtain ⟨plan, hplan, hregions⟩ := planOf_secondPage hmappings hstorage hrsp hentry
  have hranges : ∀ region ∈ plan.regions, region.range = lowPage ∨ region.range = farPage := by
    intro region hregion
    have hmem : region.range ∈ plan.regions.map ExecutionMemoryRegion.range :=
      List.mem_map_of_mem hregion
    rw [hregions] at hmem
    simpa using hmem
  refine ⟨image, plan, hbuild, secondPage_stackInMemory, hplan,
    fun _ _ _ _ => rfl, generousWindows_grants, ?_, ?_⟩
  · rintro ⟨region, hregion, hover⟩
    rcases hranges region hregion with hrange | hrange
    · rw [hrange] at hover
      exact absurd hover (by decide)
    · rw [hrange] at hover
      exact absurd hover (by decide)
  · refine (prepareWindowsGuestMemory_refuses_iff (builtFrom_of_buildGuestImage hbuild)
      secondPage_stackInMemory generousWindows_grants (by decide) (by decide) hplan).mpr (.inr ?_)
    have hmem : lowPage ∈ plan.regions.map ExecutionMemoryRegion.range := by
      rw [hregions]
      exact List.mem_cons_self
    obtain ⟨region, hregion, hrange⟩ := List.mem_map.mp hmem
    refine ⟨region, hregion, ?_⟩
    rw [hrange]
    decide

end Astraea.Execution
