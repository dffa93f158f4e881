import Astraea.Base.Check
import Astraea.Base.KeySort
import Mathlib.Algebra.Group.Int.Defs

/-!
# The policy of byte accesses

The pages of a research engine are coarser than the segments of an image, so the permissions of the
segments are kept apart from the pages: a policy is a list of regions of guest bytes with flags.
They are sorted, and no two of them meet. An access may go across regions that touch, where every
one of its bytes may be accessed.

`GuestRegionPolicy.check_allowed_iff` says which accesses are allowed. The tool is written in
Python, so that a caller may hand over a value of any type. `PythonValue` has those that the checks
tell apart.
-/

namespace Astraea.Research

open Astraea.Base

/-- A value that is handed over. -/
inductive PythonValue where
  | int (value : ℤ)
  | bool (value : Bool)
  | bytes (value : List UInt8)
  | str (value : String)
  | other
  deriving DecidableEq

/-- The number of an `int`. A `bool` is none. -/
def PythonValue.int? : PythonValue → Option ℤ
  | .int value => some value
  | _ => none

/-- `U64_LIMIT`. -/
def u64Limit : ℤ := 2 ^ 64

/-- `PAGE_BYTES`. -/
def pageBytes : ℕ := 4096

/-- `MAX_REGIONS`. -/
def maxRegions : ℕ := 64

/-- `MAX_POLICY_PAGES`. -/
def maxPolicyPages : ℤ := 4096

/-- `MAX_ACCESS_BYTES`. -/
def maxAccessBytes : ℕ := 64

/-- `MAX_INSTRUCTION_BYTES`. -/
def maxInstructionBytes : ℕ := 15

/-- A region: its bytes and what may be done with them. -/
structure GuestRegion where
  start : ℤ
  /-- `end`, the first address behind the region. -/
  endExclusive : ℤ
  flags : ℤ
  name : String := "source"
  deriving DecidableEq

/-- The byte is in the region. -/
def GuestRegion.Contains (region : GuestRegion) (x : ℤ) : Prop :=
  region.start ≤ x ∧ x < region.endExclusive

/-- The flags of the region include this one. -/
def GuestRegion.Permits (region : GuestRegion) (flag : ℕ) : Prop := region.flags.toNat &&& flag ≠ 0

instance (region : GuestRegion) (flag : ℕ) : Decidable (region.Permits flag) :=
  inferInstanceAs (Decidable (_ ≠ _))

/-- If an access is allowed, and why not. -/
structure GuestAccessDecision where
  allowed : Bool
  reason : String
  address : PythonValue
  size : PythonValue
  kind : String
  crossedRegionBoundary : Bool := false
  deriving DecidableEq

/-- The regions of a source. They end inside the address space, and they are in order. -/
structure GuestRegionPolicy where
  regions : List GuestRegion
  extents : ∀ region ∈ regions, 0 ≤ region.start ∧ region.start < region.endExclusive ∧
    region.endExclusive ≤ u64Limit
  inOrder : regions.Pairwise fun a b => a.endExclusive ≤ b.start

/-! ### Building a policy -/

/-- The order of the pairs of start and end. -/
def extentLe (a b : ℤ × ℤ) : Bool := decide (a.1 < b.1 ∨ a.1 = b.1 ∧ a.2 ≤ b.2)

/-- The loop of `GuestRegionPolicy.__init__`. -/
def checkGuestRegions : (previousEnd pageUpperBound : ℤ) → List GuestRegion → Except String Unit
  | _, _, [] => .ok ()
  | previousEnd, pageUpperBound, region :: regions => do
    refuseIf (¬ (0 ≤ region.start ∧ region.start < region.endExclusive ∧
      region.endExclusive ≤ u64Limit) ∨ ¬ (0 ≤ region.flags ∧ region.flags ≤ 7) ∨ region.name = "" ∨
      region.name.length > 64)
      "invalid_guest_region_extent_or_permissions"
    refuseIf (region.start < previousEnd) "overlapping_original_guest_regions"
    let pageUpperBound :=
      pageUpperBound + ((region.endExclusive - 1) / pageBytes - region.start / pageBytes + 1)
    refuseIf (pageUpperBound > maxPolicyPages) "source_guest_page_limit_exceeded"
    checkGuestRegions region.endExclusive pageUpperBound regions

theorem checkGuestRegions_eq_ok {previousEnd pageUpperBound : ℤ} {regions : List GuestRegion}
    {u : Unit} (h : checkGuestRegions previousEnd pageUpperBound regions = .ok u) :
    (∀ region ∈ regions, 0 ≤ region.start ∧ region.start < region.endExclusive ∧
      region.endExclusive ≤ u64Limit) ∧
      (regions.Pairwise fun a b => a.endExclusive ≤ b.start) ∧
      ∀ region ∈ regions, previousEnd ≤ region.start := by
  induction regions generalizing previousEnd pageUpperBound with
  | nil => simp
  | cons region regions ih =>
    rw [checkGuestRegions] at h
    simp only [bind_eq_ok, refuseIf_eq_ok] at h
    obtain ⟨-, hvalid, -, hprevious, -, -, hrest⟩ := h
    rw [not_or, not_not] at hvalid
    rw [not_lt] at hprevious
    obtain ⟨hextents, hpairs, hbehind⟩ := ih hrest
    refine ⟨List.forall_mem_cons.mpr ⟨hvalid.1, hextents⟩, List.pairwise_cons.mpr ⟨hbehind, hpairs⟩,
      List.forall_mem_cons.mpr ⟨hprevious, fun other hother => ?_⟩⟩
    have hother := hbehind other hother
    omega

/-- `GuestRegionPolicy.__init__`. -/
def GuestRegionPolicy.create (incoming : List GuestRegion) : Except String GuestRegionPolicy :=
  if incoming = [] ∨ incoming.length > maxRegions then .error "invalid_guest_region_count"
  else
    match h : checkGuestRegions (-1) 0
      (sortByKey extentLe (fun region => (region.start, region.endExclusive)) incoming) with
    | .error reason => .error reason
    | .ok _ => .ok ⟨_, (checkGuestRegions_eq_ok h).1, (checkGuestRegions_eq_ok h).2.1⟩

/-! ### Checking an access -/

/-- The flag of a kind of access, and how many bytes it has at most. -/
def accessKind? : String → Option (ℕ × ℕ)
  | "read" => some (4, maxAccessBytes)
  | "write" => some (2, maxAccessBytes)
  | "execute" => some (1, maxInstructionBytes)
  | _ => none

/-- The loop of `check`: whether the access is allowed, the reason, and whether it crosses a
boundary. -/
def walkRegions (flag : ℕ) (stop : ℤ) :
    List GuestRegion → (cursor : ℤ) → (traversed : ℕ) → Bool × String × Bool
  | [], _, _ => (false, "unmapped_guest_byte_gap", false)
  | region :: regions, cursor, traversed =>
    if region.endExclusive ≤ cursor then walkRegions flag stop regions cursor traversed
    else if region.start > cursor then (false, "unmapped_guest_byte_gap", false)
    else if ¬ region.Permits flag then (false, "permission_denied", false)
    else
      let cursor := min stop region.endExclusive
      if cursor = stop then (true, "allowed", decide (traversed + 1 > 1))
      else walkRegions flag stop regions cursor (traversed + 1)

/-- `GuestRegionPolicy.check`. -/
def GuestRegionPolicy.check (policy : GuestRegionPolicy) (kind : String)
    (address size : PythonValue) : GuestAccessDecision :=
  let refused (reason : String) : GuestAccessDecision := ⟨false, reason, address, size, kind, false⟩
  match accessKind? kind with
  | none => refused "unknown_guest_access_kind"
  | some (flag, maximum) =>
    match address.int? with
    | none => refused "invalid_guest_address"
    | some start =>
      if ¬ (0 ≤ start ∧ start < u64Limit) then refused "invalid_guest_address"
      else
        match size.int? with
        | none => refused "invalid_guest_access_size"
        | some count =>
          if ¬ (0 < count ∧ count ≤ maximum) then refused "invalid_guest_access_size"
          else if count > u64Limit - start then refused "guest_address_overflow"
          else
            let (allowed, reason, crossed) :=
              walkRegions flag (start + count) policy.regions start 0
            ⟨allowed, reason, address, size, kind, crossed⟩

section Check

variable {flag : ℕ} {stop cursor : ℤ} {regions : List GuestRegion}

/-- **The walk comes through where every byte may be accessed.** It goes along the regions in order,
so that the first region it has not passed is the only one that can have the byte at the cursor. -/
theorem walkRegions_iff (hextents : ∀ region ∈ regions, region.start < region.endExclusive)
    (hpairs : regions.Pairwise fun a b => a.endExclusive ≤ b.start) (hcursor : cursor < stop)
    (traversed : ℕ) :
    (walkRegions flag stop regions cursor traversed).1 = true ↔
      ∀ x, cursor ≤ x → x < stop → ∃ region ∈ regions, region.Contains x ∧ region.Permits flag := by
  induction regions generalizing cursor traversed with
  | nil =>
    refine iff_of_false Bool.false_ne_true fun hall => ?_
    obtain ⟨region, hregion, -⟩ := hall cursor le_rfl hcursor
    cases hregion
  | cons region regions ih =>
    rw [List.forall_mem_cons] at hextents
    rw [List.pairwise_cons] at hpairs
    -- a byte before the end of the region is in none behind it
    have hbehind : ∀ x, x < region.endExclusive → ¬ ∃ other ∈ regions, other.Contains x ∧
        other.Permits flag := by
      rintro x hx ⟨other, hother, ⟨hstart, -⟩, -⟩
      have := hpairs.1 other hother
      omega
    rw [walkRegions]
    split_ifs with hpassed hgap hpermits
    · rw [ih hextents.2 hpairs.2 hcursor]
      refine forall_congr' fun x => forall_congr' fun hlow => forall_congr' fun _ => ?_
      rw [List.exists_mem_cons_iff]
      refine (or_iff_right ?_).symm
      rintro ⟨⟨-, hend⟩, -⟩
      omega
    · refine iff_of_false not_false fun hall => ?_
      have hfirst := hall cursor le_rfl hcursor
      rw [List.exists_mem_cons_iff] at hfirst
      rcases hfirst with ⟨⟨hstart, -⟩, -⟩ | hlater
      · omega
      · exact hbehind cursor (by omega) hlater
    · dsimp only
      split_ifs with hstop
      · exact iff_of_true rfl fun x hlow hhigh =>
          ⟨region, List.mem_cons_self, ⟨by omega, by omega⟩, hpermits⟩
      · have hnext : min stop region.endExclusive = region.endExclusive := by omega
        rw [hnext, ih hextents.2 hpairs.2 (by omega)]
        constructor
        · intro hall x hlow hhigh
          rw [List.exists_mem_cons_iff]
          by_cases hx : x < region.endExclusive
          · exact .inl ⟨⟨by omega, hx⟩, hpermits⟩
          · exact .inr (hall x (by omega) hhigh)
        · intro hall x hlow hhigh
          have hx := hall x (by omega) hhigh
          rw [List.exists_mem_cons_iff] at hx
          refine hx.resolve_left ?_
          rintro ⟨⟨-, hend⟩, -⟩
          omega
    · refine iff_of_false not_false fun hall => ?_
      have hfirst := hall cursor le_rfl hcursor
      rw [List.exists_mem_cons_iff] at hfirst
      rcases hfirst with ⟨-, hother⟩ | hlater
      · exact hpermits hother
      · exact hbehind cursor (by omega) hlater

/-- **Which accesses are allowed**: those of a known kind with at least one byte and at most as many
as the kind may have, that do not pass the top of the address space, and each of whose bytes is in a
region that permits them. -/
theorem GuestRegionPolicy.check_allowed_iff (policy : GuestRegionPolicy) (kind : String)
    (address size : PythonValue) :
    (policy.check kind address size).allowed = true ↔
      ∃ flag maximum start count, accessKind? kind = some (flag, maximum) ∧ address = .int start ∧
        size = .int count ∧
        0 < count ∧ count ≤ maximum ∧ start + count ≤ 2 ^ 64 ∧
        ∀ x, start ≤ x → x < start + count → ∃ region ∈ policy.regions, region.Contains x ∧
          region.Permits flag := by
  have hint : ∀ (value : PythonValue) (n : ℤ), value.int? = some n ↔ value = .int n := by
    intro value n
    cases value <;> simp [PythonValue.int?]
  have hextents : ∀ region ∈ policy.regions, region.start < region.endExclusive :=
      fun region hregion =>
    (policy.extents region hregion).2.1
  unfold check
  cases hkind : accessKind? kind with
  | none => simp
  | some limits =>
    obtain ⟨flag, maximum⟩ := limits
    dsimp only
    cases hstart : address.int? with
    | none =>
      refine iff_of_false Bool.false_ne_true ?_
      rintro ⟨_, _, start, _, -, rfl, -⟩
      cases hstart
    | some start =>
      obtain rfl := (hint address start).mp hstart
      dsimp only
      cases hcount : size.int? with
      | none =>
        refine iff_of_false ?_ ?_
        · split_ifs <;> exact not_false
        · rintro ⟨_, _, _, count, -, -, rfl, -⟩
          cases hcount
      | some count =>
        obtain rfl := (hint size count).mp hcount
        have hlimits :
          (∃ flag' maximum' start' count', some (flag, maximum) = some (flag', maximum') ∧
          PythonValue.int start = .int start' ∧ PythonValue.int count = .int count' ∧ 0 < count' ∧
          count' ≤ (maximum' : ℕ) ∧ start' + count' ≤ 2 ^ 64 ∧
          ∀ x, start' ≤ x → x < start' + count' → ∃ region ∈ policy.regions, region.Contains x ∧
          region.Permits flag') ↔
            0 < count ∧ count ≤ maximum ∧ start + count ≤ 2 ^ 64 ∧
              ∀ x, start ≤ x → x < start + count →
              ∃ region ∈ policy.regions, region.Contains x ∧ region.Permits flag := by
          constructor
          · rintro ⟨_, _, _, _, hsame, hstart', hcount', hrest⟩
            cases hsame
            cases hstart'
            cases hcount'
            exact hrest
          · intro hrest
            exact ⟨_, _, _, _, rfl, rfl, rfl, hrest⟩
        rw [hlimits]
        have hfirst : 0 < count → (∀ x, start ≤ x → x < start + count →
            ∃ region ∈ policy.regions, region.Contains x ∧ region.Permits flag) → 0 ≤ start ∧
              start < u64Limit := by
          intro hpos hall
          obtain ⟨region, hregion, ⟨hlow, hhigh⟩, -⟩ := hall start le_rfl (by omega)
          have hextent := policy.extents region hregion
          omega
        have hlimit : u64Limit = 2 ^ 64 := rfl
        dsimp only
        split_ifs with haddress hsize hoverflow
        · exact iff_of_false not_false fun hrest => by omega
        · have hwalk := @walkRegions_iff flag _ _ _ hextents policy.inOrder (show start <
            start + count by omega) 0
          dsimp only
          rw [hwalk]
          constructor
          · intro hall
            exact ⟨hsize.1, hsize.2, by omega, hall⟩
          · rintro ⟨-, -, -, hall⟩
            exact hall
        · exact iff_of_false not_false fun hrest => hsize ⟨hrest.1, hrest.2.1⟩
        · exact iff_of_false not_false fun hrest => haddress (hfirst hrest.1 hrest.2.2.2)

end Check

end Astraea.Research
