import Astraea.Base.MappedStore
import Astraea.Base.RangeMap
import Astraea.Memory.Mapping

/-!
# Owned guest address spaces

A research tool runs guest code over memory of its own: at most eight regions, each a range of
guest addresses backed by a span of host bytes, with permissions that only the tool enforces.
`OwnedGuestAddressSpace` is the table of regions. That neither their guest ranges nor their host
spans meet is what `map` checks, and is carried along with the table.

The bytes are in the host memory. `guestView` is what the guest sees of it, whatever the
permissions, and `write_eq_ok` says that a write changes the view at its own addresses only.
-/

namespace Astraea.Research

open Astraea.Base Astraea.Memory

/-- Why memory refuses an access. -/
inductive OwnedGuestMemoryError where
  | zeroLength
  | addressOverflow
  | regionOverlap
  | backingAlias
  | regionLimit
  | unmapped
  | permissionDenied
  deriving DecidableEq

/-- A refused access. -/
structure OwnedGuestMemoryFault where
  code : OwnedGuestMemoryError
  guestAddress : UInt64
  deriving DecidableEq

/-- A span of host bytes: where it begins, and its size. -/
structure HostSpan where
  data : ℕ
  size : ℕ
  deriving DecidableEq

/-- `OwnedGuestAddressSpace::Region`. -/
structure OwnedRegion where
  base : UInt64
  backing : HostSpan
  perms : GuestPermissions
  deriving DecidableEq

/-- The guest addresses of a region. -/
def OwnedRegion.guest (region : OwnedRegion) : Interval := ⟨region.base.toNat, region.backing.size⟩

/-- The host addresses of a region. -/
def OwnedRegion.host (region : OwnedRegion) : Interval := ⟨region.backing.data, region.backing.size⟩

/-- The most regions. -/
def kMaxRegions : ℕ := 8

/-- The table of regions. They end inside the address space, and neither their guest addresses nor
their host addresses meet. -/
structure OwnedGuestAddressSpace where
  regions : List OwnedRegion
  atMost : regions.length ≤ kMaxRegions
  ends : ∀ region ∈ regions, region.base.toNat + region.backing.size < 2 ^ 64
  guestApart : Apart OwnedRegion.guest regions
  hostApart : Apart OwnedRegion.host regions

namespace OwnedGuestAddressSpace

/-- The table with no regions. -/
def empty : OwnedGuestAddressSpace where
  regions := []
  atMost := Nat.zero_le _
  ends := fun _ hregion => absurd hregion List.not_mem_nil
  guestApart := Apart.nil
  hostApart := Apart.nil

/-! ### Mapping -/

/-- The checks of `map` against one region of the table. -/
def checkAgainst (guestBase : UInt64) (ownedBacking : HostSpan) (other : OwnedRegion) :
    Except OwnedGuestMemoryFault Unit := do
  refuseIf (guestBase.toNat < other.base.toNat + other.backing.size ∧
    other.base.toNat < guestBase.toNat + ownedBacking.size) ⟨.regionOverlap, guestBase⟩
  refuseIf (ownedBacking.size > 2 ^ 64 - 1 - ownedBacking.data ∨
    other.backing.size > 2 ^ 64 - 1 - other.backing.data)
    ⟨.backingAlias, guestBase⟩
  refuseIf (ownedBacking.data < other.backing.data + other.backing.size ∧
    other.backing.data < ownedBacking.data + ownedBacking.size) ⟨.backingAlias, guestBase⟩

/-- The checks of `map`. -/
def checkMap (space : OwnedGuestAddressSpace) (guestBase : UInt64) (ownedBacking : HostSpan) :
    Except OwnedGuestMemoryFault Unit := do
  refuseIf (ownedBacking.size = 0) ⟨.zeroLength, guestBase⟩
  refuseIf (ownedBacking.size > 2 ^ 64 - 1 - guestBase.toNat) ⟨.addressOverflow, guestBase⟩
  refuseIf (space.regions.length ≥ kMaxRegions) ⟨.regionLimit, guestBase⟩
  space.regions.forM (checkAgainst guestBase ownedBacking)

/-- When the checks of a mapping pass: it is not empty, does not pass the top of the address space,
there is room in the table, and it shares neither guest addresses nor host addresses with a region.
-/
structure GrantsMap (space : OwnedGuestAddressSpace) (guestBase : UInt64)
    (ownedBacking : HostSpan) : Prop where
  nonempty : 0 < ownedBacking.size
  noWrap : guestBase.toNat + ownedBacking.size ≤ 2 ^ 64 - 1
  room : space.regions.length < kMaxRegions
  guestApart : ∀ other ∈ space.regions,
    ¬ (Interval.mk guestBase.toNat ownedBacking.size).Meets other.guest
  hostNoWrap : ∀ other ∈ space.regions, ownedBacking.data + ownedBacking.size ≤ 2 ^ 64 - 1 ∧
    other.backing.data + other.backing.size ≤ 2 ^ 64 - 1
  hostApart : ∀ other ∈ space.regions,
    ¬ (Interval.mk ownedBacking.data ownedBacking.size).Meets other.host

variable {guestBase : UInt64} {ownedBacking : HostSpan}

/-- The checks against one region, for a span that is not empty. -/
theorem checkAgainst_eq_ok {other : OwnedRegion} (hpos : 0 < ownedBacking.size)
    (hother : 0 < other.backing.size) :
    checkAgainst guestBase ownedBacking other = .ok () ↔
      ¬ (Interval.mk guestBase.toNat ownedBacking.size).Meets other.guest ∧
      (ownedBacking.data + ownedBacking.size ≤ 2 ^ 64 - 1 ∧
        other.backing.data + other.backing.size ≤ 2 ^ 64 - 1) ∧
      ¬ (Interval.mk ownedBacking.data ownedBacking.size).Meets other.host := by
  have hends : ¬ (ownedBacking.size > 2 ^ 64 - 1 - ownedBacking.data ∨
      other.backing.size > 2 ^ 64 - 1 - other.backing.data) ↔
      ownedBacking.data + ownedBacking.size ≤ 2 ^ 64 - 1 ∧
        other.backing.data + other.backing.size ≤ 2 ^ 64 - 1 := by
    omega
  simp only [checkAgainst, bind_eq_ok, refuseIf_eq_ok, hends]
  constructor
  · rintro ⟨-, hguest, -, hwrap, hhost⟩
    exact ⟨hguest, hwrap, hhost⟩
  · rintro ⟨hguest, hwrap, hhost⟩
    exact ⟨(), hguest, (), hwrap, hhost⟩

/-- **What the checks find out.** -/
theorem checkMap_eq_ok {space : OwnedGuestAddressSpace} :
    space.checkMap guestBase ownedBacking = .ok () ↔ space.GrantsMap guestBase ownedBacking := by
  have hbase := guestBase.toNat_lt
  simp only [checkMap, bind_eq_ok, refuseIf_eq_ok, forM_eq_ok]
  constructor
  · rintro ⟨-, hsize, -, hend, -, hlimit, hothers⟩
    have hpos : 0 < ownedBacking.size := Nat.pos_of_ne_zero hsize
    have hfound := fun other hother =>
      (checkAgainst_eq_ok hpos (space.guestApart.nonempty other hother)).mp (hothers other hother)
    exact ⟨hpos, by omega, by omega, fun other hother => (hfound other hother).1,
      fun other hother => (hfound other hother).2.1, fun other hother => (hfound other hother).2.2⟩
  · intro h
    refine ⟨(), h.nonempty.ne', (), by have := h.noWrap; omega, (), not_le.mpr h.room, ?_⟩
    intro other hother
    exact (checkAgainst_eq_ok h.nonempty (space.guestApart.nonempty other hother)).mpr
      ⟨h.guestApart other hother, h.hostNoWrap other hother, h.hostApart other hother⟩

/-- `OwnedGuestAddressSpace::map`. -/
def map (space : OwnedGuestAddressSpace) (guestBase : UInt64) (ownedBacking : HostSpan)
    (virtualPermissions : GuestPermissions) :
    Except OwnedGuestMemoryFault ℕ × OwnedGuestAddressSpace :=
  match h : space.checkMap guestBase ownedBacking with
  | .error fault => (.error fault, space)
  | .ok _ =>
    (.ok space.regions.length,
      { regions := space.regions ++ [⟨guestBase, ownedBacking, virtualPermissions⟩]
        atMost := by
          have hlimit := (checkMap_eq_ok.mp h).room
          rw [List.length_append, List.length_singleton]
          omega
        ends := by
          intro region hregion
          rcases List.mem_append.mp hregion with hregion | hregion
          · exact space.ends region hregion
          · have hend := (checkMap_eq_ok.mp h).noWrap
            rw [List.mem_singleton.mp hregion]
            dsimp only
            omega
        guestApart := by
          have hgrants := checkMap_eq_ok.mp h
          exact space.guestApart.concat hgrants.nonempty hgrants.guestApart
        hostApart := by
          have hgrants := checkMap_eq_ok.mp h
          exact space.hostApart.concat hgrants.nonempty hgrants.hostApart })

/-! ### Access -/

/-- `within`: the access begins in the region or at its end, and ends there too. -/
def within (address : UInt64) (requested : ℕ) (region : OwnedRegion) : Bool :=
  decide (region.base.toNat ≤ address.toNat ∧ address.toNat - region.base.toNat ≤
    region.backing.size ∧ requested ≤ region.backing.size - (address.toNat - region.base.toNat))

/-- `copy_out`. -/
def copyOut (space : OwnedGuestAddressSpace) (memory : ℕ → UInt8) (address : UInt64) (requested : ℕ)
    (required : GuestPermission) : Except OwnedGuestMemoryFault (List UInt8) := do
  refuseIf (requested = 0) ⟨.zeroLength, address⟩
  refuseIf (requested > 2 ^ 64 - 1 - address.toNat) ⟨.addressOverflow, address⟩
  let region ← orRefuse (space.regions.find? (within address requested))
    (⟨.unmapped, address⟩ : OwnedGuestMemoryFault)
  refuseIf (region.perms.has required = false) ⟨.permissionDenied, address⟩
  return load memory (region.backing.data + (address.toNat - region.base.toNat)) requested

/-- `OwnedGuestAddressSpace::read`. -/
def read (space : OwnedGuestAddressSpace) (memory : ℕ → UInt8) (address : UInt64) (requested : ℕ) :
    Except OwnedGuestMemoryFault (List UInt8) :=
  space.copyOut memory address requested .read

/-- `OwnedGuestAddressSpace::fetch`. -/
def fetch (space : OwnedGuestAddressSpace) (memory : ℕ → UInt8) (address : UInt64) (requested : ℕ) :
    Except OwnedGuestMemoryFault (List UInt8) :=
  space.copyOut memory address requested .execute

/-- `OwnedGuestAddressSpace::preflight_write`. -/
def preflightWrite (space : OwnedGuestAddressSpace) (address : UInt64) (byteCount : ℕ) :
    Except OwnedGuestMemoryFault ℕ := do
  refuseIf (byteCount = 0) ⟨.zeroLength, address⟩
  refuseIf (byteCount > 2 ^ 64 - 1 - address.toNat) ⟨.addressOverflow, address⟩
  let region ← orRefuse (space.regions.find? (within address byteCount))
    (⟨.unmapped, address⟩ : OwnedGuestMemoryFault)
  refuseIf (region.perms.has .write = false) ⟨.permissionDenied, address⟩
  return byteCount

/-- `OwnedGuestAddressSpace::write`: the host memory after it. -/
def write (space : OwnedGuestAddressSpace) (memory : ℕ → UInt8) (address : UInt64)
    (source : List UInt8) :
    Except OwnedGuestMemoryFault (ℕ → UInt8) := do
  let _checked ← space.preflightWrite address source.length
  let region ←
    orRefuse (space.regions.find? (within address source.length))
      (⟨.unmapped, address⟩ : OwnedGuestMemoryFault)
  return store memory (region.backing.data + (address.toNat - region.base.toNat)) source

/-! ### What the guest sees -/

/-- The region of an address. -/
def regionAt (space : OwnedGuestAddressSpace) (address : ℕ) : Option OwnedRegion :=
  space.regions.find? fun region => decide (region.guest.Contains ⟨address, 1⟩)

/-- The byte of every guest address that has one. -/
def guestView (space : OwnedGuestAddressSpace) (memory : ℕ → UInt8) : MappedStore := fun address =>
  (space.regionAt address).map fun region =>
    memory (region.backing.data + (address - region.base.toNat))

/-- A host byte that backs no region. -/
def Unbacked (space : OwnedGuestAddressSpace) (x : ℕ) : Prop :=
  ∀ region ∈ space.regions, ¬ region.host.Contains ⟨x, 1⟩

section View

variable {space : OwnedGuestAddressSpace} {memory memory' : ℕ → UInt8} {address : UInt64}
  {requested x : ℕ} {region other : OwnedRegion} {source : List UInt8}

theorem within_iff : within address requested region = true ↔
    region.base.toNat ≤ address.toNat ∧
    address.toNat + requested ≤ region.base.toNat + region.backing.size := by
  rw [within, decide_eq_true_iff]
  omega

theorem regionAt_eq_some :
    space.regionAt x = some region ↔ region ∈ space.regions ∧ region.guest.Contains ⟨x, 1⟩ := by
  constructor
  · intro h
    have hcontains := List.find?_some h
    exact ⟨List.mem_of_find?_eq_some h, of_decide_eq_true hcontains⟩
  · rintro ⟨hregion, hcontains⟩
    cases hfind : space.regionAt x with
    | none => exact absurd (decide_eq_true hcontains) (List.find?_eq_none.mp hfind region hregion)
    | some other =>
      have hother := List.mem_of_find?_eq_some hfind
      have hcontains' := List.find?_some hfind
      rw [space.guestApart.eq_of_contains hother hregion Nat.one_pos
        (of_decide_eq_true hcontains') hcontains]

theorem guestView_of_contains (hregion : region ∈ space.regions)
    (hcontains : region.guest.Contains ⟨x, 1⟩) :
    space.guestView memory x = some (memory (region.backing.data + (x - region.base.toNat))) := by
  rw [guestView, regionAt_eq_some.mpr ⟨hregion, hcontains⟩, Option.map_some]

theorem copyOut_eq_ok {required : GuestPermission} {bytes : List UInt8}
    (h : space.copyOut memory address requested required = .ok bytes) :
    0 < requested ∧ bytes.length = requested ∧
      ∀ i < requested, space.guestView memory (address.toNat + i) = some (bytes.getD i 0) := by
  simp only [copyOut, bind_eq_ok, refuseIf_eq_ok, orRefuse_eq_ok, pure_eq_ok] at h
  obtain ⟨_, hpos, _, -, region, hregion, _, -, rfl⟩ := h
  have hmem := List.mem_of_find?_eq_some hregion
  have hwithin := within_iff.mp (List.find?_some hregion)
  refine ⟨by omega, length_load _ _ _, ?_⟩
  intro i hi
  have hcontains : region.guest.Contains ⟨address.toNat + i, 1⟩ := by
    simp only [Interval.Contains, OwnedRegion.guest]
    omega
  have hoffset : region.backing.data + (address.toNat + i - region.base.toNat) =
      region.backing.data + (address.toNat - region.base.toNat) + i := by omega
  rw [guestView_of_contains hmem hcontains, List.getD_eq_getElem?_getD, getElem?_load _ _ hi,
    Option.getD_some, hoffset]

section

variable (h : space.write memory address source = .ok memory')

include h

theorem write_eq_ok :
    0 < source.length ∧ ∃ region ∈ space.regions, region.base.toNat ≤ address.toNat ∧
      address.toNat + source.length ≤ region.base.toNat + region.backing.size ∧
      memory' = store memory (region.backing.data + (address.toNat - region.base.toNat))
        source := by
  simp only [write, preflightWrite, bind_eq_ok, refuseIf_eq_ok, orRefuse_eq_ok, pure_eq_ok] at h
  obtain ⟨_, ⟨_, hpos, -⟩, region, hregion, rfl⟩ := h
  obtain ⟨hbase, hend⟩ := within_iff.mp (List.find?_some hregion)
  exact ⟨by omega, region, List.mem_of_find?_eq_some hregion, hbase, hend, rfl⟩

/-- **A write changes what the guest sees** at its addresses, and there only. -/
theorem guestView_write :
    (space.guestView memory).write (address.toNat, source) = some (space.guestView memory') := by
  obtain ⟨-, region, hregion, hbase, hend, rfl⟩ := write_eq_ok h
  have hinside : ∀ y, address.toNat ≤ y → y < address.toNat + source.length →
      region.guest.Contains ⟨y, 1⟩ := by
    intro y hlow hhigh
    simp only [Interval.Contains, OwnedRegion.guest]
    omega
  rw [MappedStore.write, if_pos]
  · congr 1
    funext y
    by_cases hits : Patch.Hits (address.toNat, source) y
    · rw [if_pos hits, guestView_of_contains hregion (hinside y hits.1 hits.2)]
      obtain ⟨hlow, hhigh⟩ := hits
      dsimp only at hlow hhigh ⊢
      rw [store, if_pos ⟨by omega, by omega⟩]
      congr 2
      omega
    · rw [if_neg hits, guestView, guestView]
      cases hother : space.regionAt y with
      | none => rfl
      | some other =>
        obtain ⟨hmem, hcontains⟩ := regionAt_eq_some.mp hother
        rw [Option.map_some, Option.map_some, store, if_neg]
        rintro ⟨hlow, hhigh⟩
        simp only [Interval.Contains, OwnedRegion.guest] at hcontains
        -- the host byte of another region is not one of this region
        have hbacks : other.host.Contains ⟨other.backing.data + (y - other.base.toNat), 1⟩ := by
          simp only [Interval.Contains, OwnedRegion.host]
          omega
        have hbacks' : region.host.Contains ⟨other.backing.data + (y - other.base.toNat), 1⟩ := by
          simp only [Interval.Contains, OwnedRegion.host]
          omega
        have hsame : other = region :=
          space.hostApart.eq_of_contains hmem hregion Nat.one_pos hbacks hbacks'
        subst hsame
        exact hits ⟨by dsimp only; omega, by dsimp only; omega⟩
  · intro i hi
    dsimp only at hi ⊢
    rw [guestView_of_contains hregion (hinside _ (by omega) (by omega))]
    rfl

theorem write_frame (hx : space.Unbacked x) : memory' x = memory x := by
  obtain ⟨-, region, hregion, hbase, hend, rfl⟩ := write_eq_ok h
  have hout := hx region hregion
  simp only [Interval.Contains, OwnedRegion.host] at hout
  rw [store, if_neg]
  omega

end

end View

end OwnedGuestAddressSpace

end Astraea.Research
