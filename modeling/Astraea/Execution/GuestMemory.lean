import Astraea.Base.ByteStore
import Astraea.Base.Walk
import Astraea.Execution.MemoryPlan
import Astraea.Loader.GuestImage

/-!
# Access to guest memory

`GuestMemoryAccess` lets the host read and write guest memory at guest addresses. Before
it touches a byte, `validate` walks over the requested range: at every stop it takes the
farthest end of a mapping (or the stack) that allows the access and the farthest end of a
prepared region that does, and goes on from whichever comes first.

The walk is an instance of `Base.walk`: `validate_exact` says it accepts exactly the
ranges all of whose bytes are allowed twice, and stops at the first byte that is not.
-/

namespace Astraea.Execution

open Astraea.Base Astraea.Memory Astraea.Loader

/-- Why an access is refused. -/
inductive GuestMemoryErrorCode where
  | preparedMemoryUnavailable
  | guestMemoryUnmapped
  | guestMemoryPermissionDenied
  | guestMemoryRangeOverflow
  | hostSizeUnrepresentable
  | unterminatedString
  | hostAllocationFailure
  deriving DecidableEq

/-- A refused access: the code, and the first byte that is refused. -/
structure GuestMemoryError where
  code : GuestMemoryErrorCode
  hasGuestAddress : Bool := false
  guestAddress : UInt64 := 0
  deriving DecidableEq

/-- What is asked for: to read or to write. -/
inductive AccessKind where
  | read
  | write
  deriving DecidableEq

/-- The permission an access needs. -/
def AccessKind.permission : AccessKind → GuestPermission
  | .read => .read
  | .write => .write

/-- The right to access the memory of an image through the plan it was prepared with. -/
structure GuestMemoryAccess where
  image : GuestImage
  preparedPlan : ExecutionMemoryPlan
  preparedMemoryAvailable : Bool

/-- One range that may hold the cursor, against the farthest reach so far and whether a range
was met that does not allow the access. -/
def coverageStep (cursor : GuestAddress) (found : UInt64 × Bool) (piece : GuestRange × Bool) :
    UInt64 × Bool :=
  if piece.1.contains cursor = false then found
  else if piece.2 = false then (found.1, true)
  else (max found.1 (piece.1.size.value - (cursor.value - piece.1.base.value)), found.2)

/-- The loop over ranges that may hold the cursor: the bytes left in the farthest one that
allows the access, and whether one was met that does not. -/
def coverage (cursor : GuestAddress) (pieces : List (GuestRange × Bool)) : UInt64 × Bool :=
  pieces.foldl (coverageStep cursor) (0, false)

/-- The mappings as pieces, with `mapping_allows`. -/
def mappingPieces (image : GuestImage) (access : AccessKind) : List (GuestRange × Bool) :=
  image.mappings.map fun mapping => (mapping.range, mapping.permissions.has access.permission)

/-- The prepared regions as pieces. -/
def regionPieces (plan : ExecutionMemoryPlan) (access : AccessKind) : List (GuestRange × Bool) :=
  plan.regions.map fun region => (region.range, region.permissions.has access.permission)

/-- One stop of the walk: how far the image and the plan both allow the access. -/
def GuestMemoryAccess.probe (memory : GuestMemoryAccess) (access : AccessKind)
    (cursor : GuestAddress) :
    Except GuestMemoryError UInt64 := do
  let (mapped, deniedByMapping) := coverage cursor (mappingPieces memory.image access)
  let storage := memory.image.initialStack.storage
  let bestCoverage :=
    if storage.contains cursor = true then
      max mapped (storage.size.value - (cursor.value - storage.base.value))
    else mapped
  refuseIf (bestCoverage = 0)
    ⟨if deniedByMapping then .guestMemoryPermissionDenied else .guestMemoryUnmapped, true,
      cursor.value⟩
  let (preparedCoverage, deniedByRegion) :=
    coverage cursor (regionPieces memory.preparedPlan access)
  refuseIf (preparedCoverage = 0)
    ⟨if deniedByRegion then .guestMemoryPermissionDenied else .preparedMemoryUnavailable, true,
      cursor.value⟩
  return min bestCoverage preparedCoverage

variable {cursor address : GuestAddress} {x : ℕ}

variable {reach validated byteCount : UInt64}

theorem GuestMemoryAccess.probe_pos {memory : GuestMemoryAccess} {access : AccessKind}
    (h : memory.probe access cursor = .ok reach) :
    0 < reach.toNat := by
  simp only [probe, bind_eq_ok, refuseIf_eq_ok, pure_eq_ok] at h
  obtain ⟨-, h1, -, h2, rfl⟩ := h
  rw [← UInt64.toNat_inj, UInt64.toNat_zero] at h1 h2
  rw [toNat_min]
  omega

/-- The loop of `validate`. -/
def GuestMemoryAccess.validateLoop (memory : GuestMemoryAccess) (access : AccessKind)
    (cursor remaining : UInt64) :
    Except GuestMemoryError Unit :=
  if _hremaining : remaining = 0 then .ok ()
  else
    match _hprobe : memory.probe access ⟨cursor⟩ with
    | .error e => .error e
    | .ok reach =>
      let chunk := min remaining reach
      if remaining - chunk = 0 then .ok ()
      else if cursor > u64Max - chunk then .error ⟨.guestMemoryRangeOverflow, true, cursor⟩
      else validateLoop memory access (cursor + chunk) (remaining - chunk)
termination_by remaining.toNat
decreasing_by
  have hreach := probe_pos _hprobe
  have hne : remaining.toNat ≠ 0 := fun h0 => absurd (UInt64.toNat_inj.mp h0) _hremaining
  rw [UInt64.toNat_sub_of_le _ _ (UInt64.le_iff_toNat_le.mpr (by rw [toNat_min]; omega)), toNat_min]
  omega

/-- `GuestMemoryAccess::validate`. -/
def GuestMemoryAccess.validate (memory : GuestMemoryAccess) (address : GuestAddress)
    (byteCount : UInt64) (access : AccessKind) : Except GuestMemoryError UInt64 := do
  refuseIf (memory.preparedMemoryAvailable = false) { code := .preparedMemoryUnavailable }
  if byteCount = 0 then
    return 0
  refuseIf (address.value > u64Max - (byteCount - 1))
    ⟨.guestMemoryRangeOverflow, true, address.value⟩
  memory.validateLoop access address.value byteCount
  return byteCount

/-- `GuestMemoryAccess::read` of `count` bytes, over the bytes guest memory holds. -/
def GuestMemoryAccess.read (memory : GuestMemoryAccess) (bytes : ℕ → UInt8) (address : GuestAddress)
    (count : ℕ) :
    Except GuestMemoryError (List UInt8) := do
  let _validated ← memory.validate address (UInt64.ofNat count) .read
  return load bytes address.toNat count

/-- `GuestMemoryAccess::write`: what guest memory holds afterwards. -/
def GuestMemoryAccess.write (memory : GuestMemoryAccess) (bytes : ℕ → UInt8)
    (address : GuestAddress) (input : List UInt8) : Except GuestMemoryError (ℕ → UInt8) := do
  let _validated ← memory.validate address (UInt64.ofNat input.length) .write
  return store bytes address.toNat input

/-- `GuestMemoryAccess::preflight_write`. -/
def GuestMemoryAccess.preflightWrite (memory : GuestMemoryAccess) (address : GuestAddress)
    (byteCount : ℕ) :
    Except GuestMemoryError UInt64 :=
  memory.validate address (UInt64.ofNat byteCount) .write

theorem GuestMemoryAccess.write_of_preflightWrite {memory : GuestMemoryAccess} {input : List UInt8}
    (h : memory.preflightWrite address input.length = .ok validated) (bytes : ℕ → UInt8) :
    memory.write bytes address input = .ok (store bytes address.toNat input) := by
  unfold preflightWrite at h
  rw [write, h]
  rfl

/-- The application of a patch of eight bytes: validate the target, write it, and report `result`.
-/
def GuestMemoryAccess.applyPatch {β : Type} (memory : GuestMemoryAccess) (target : GuestAddress)
    (input : Vector UInt8 8) (result : β) (bytes : ℕ → UInt8) :
    Except GuestMemoryError β × (ℕ → UInt8) :=
  match memory.preflightWrite target 8 with
  | .error e => (.error e, bytes)
  | .ok _ =>
    match memory.write bytes target input.toList with
    | .error e => (.error e, bytes)
    | .ok written => (.ok result, written)

theorem GuestMemoryAccess.applyPatch_of_preflightWrite {β : Type} {memory : GuestMemoryAccess}
    {target : GuestAddress} (h : memory.preflightWrite target 8 = .ok validated)
    (input : Vector UInt8 8) (result : β) (bytes : ℕ → UInt8) :
    memory.applyPatch target input result bytes =
      (.ok result, store bytes target.toNat input.toList) := by
  have hwrite : memory.write bytes target input.toList =
      .ok (store bytes target.toNat input.toList) :=
    write_of_preflightWrite (by rwa [Vector.length_toList]) bytes
  unfold applyPatch
  rw [h]
  simp only [hwrite]

/-- `GuestMemoryAccess::is_exact_executable_address`. -/
def GuestMemoryAccess.isExactExecutableAddress (memory : GuestMemoryAccess)
    (address : GuestAddress) : Bool :=
  memory.preparedMemoryAvailable &&
    memory.image.mappings.any
      (fun mapping => mapping.permissions.has .execute && mapping.range.contains address) &&
    memory.preparedPlan.regions.any fun region =>
      region.permissions.has .execute && region.range.contains address

/-- Access to guest memory together with the epoch of the mapping behind it. -/
structure MappedGuestMemory extends GuestMemoryAccess where
  preparedEpoch : UInt64

/-- `GuestMemoryAccess::current_mapping_epoch`. -/
def MappedGuestMemory.currentMappingEpoch (memory : MappedGuestMemory) : UInt64 :=
  if memory.preparedMemoryAvailable = true ∧ memory.preparedPlan.regions ≠ [] then
    memory.preparedEpoch else 0

/-! ### What is allowed -/

/-- A mapping with the permission, or the stack, holds the byte. -/
def GuestMemoryAccess.ImageAllows (memory : GuestMemoryAccess) (access : AccessKind) (x : ℕ) :
    Prop :=
  (∃ mapping ∈ memory.image.mappings, mapping.permissions.has access.permission = true ∧
    x ∈ mapping.range) ∨
    x ∈ memory.image.initialStack.storage

/-- A prepared region with the permission holds the byte. -/
def GuestMemoryAccess.PlanAllows (memory : GuestMemoryAccess) (access : AccessKind) (x : ℕ) :
    Prop :=
  ∃ region ∈ memory.preparedPlan.regions, region.permissions.has access.permission = true ∧
    x ∈ region.range

/-- The image and the plan both allow the access. -/
def GuestMemoryAccess.Allows (memory : GuestMemoryAccess) (access : AccessKind) (x : ℕ) : Prop :=
  memory.ImageAllows access x ∧ memory.PlanAllows access x

/-- Some piece that allows the access holds the byte. -/
def PiecesAllow (pieces : List (GuestRange × Bool)) (x : ℕ) : Prop :=
  ∃ range, (range, true) ∈ pieces ∧ x ∈ range

theorem piecesAllow_mappingPieces {image : GuestImage} {access : AccessKind} :
    PiecesAllow (mappingPieces image access) x ↔
      ∃ mapping ∈ image.mappings, mapping.permissions.has access.permission = true ∧
        x ∈ mapping.range := by
  simp only [PiecesAllow, mappingPieces, List.mem_map, Prod.mk.injEq]
  constructor
  · rintro ⟨range, ⟨mapping, hm, rfl, hallows⟩, hx⟩
    exact ⟨mapping, hm, hallows, hx⟩
  · rintro ⟨mapping, hm, hallows, hx⟩
    exact ⟨mapping.range, ⟨mapping, hm, rfl, hallows⟩, hx⟩

theorem piecesAllow_regionPieces {memory : GuestMemoryAccess} {access : AccessKind} :
    PiecesAllow (regionPieces memory.preparedPlan access) x ↔ memory.PlanAllows access x := by
  simp only [PiecesAllow, regionPieces, GuestMemoryAccess.PlanAllows, List.mem_map, Prod.mk.injEq]
  constructor
  · rintro ⟨range, ⟨region, hr, rfl, hallows⟩, hx⟩
    exact ⟨region, hr, hallows, hx⟩
  · rintro ⟨region, hr, hallows, hx⟩
    exact ⟨region.range, ⟨region, hr, rfl, hallows⟩, hx⟩

/-! ### Coverage -/

/-- `best` is the number of bytes from the cursor on that one allowing range holds, or zero
when no allowing range holds the cursor. -/
structure Covers (Good : ℕ → Prop) (cursor best : ℕ) : Prop where
  reach : ∀ y, cursor ≤ y → y < cursor + best → Good y
  none : best = 0 → ¬ Good cursor

/-- The fold bounds every allowing range that holds the cursor, and its result is one of them. -/
theorem foldl_coverageStep (cursor : GuestAddress) (pieces : List (GuestRange × Bool))
    (found : UInt64 × Bool) :
    (∀ range, (range, true) ∈ pieces → cursor.toNat ∈ range →
        range.last - cursor.toNat ≤ (pieces.foldl (coverageStep cursor) found).1.toNat) ∧
      found.1.toNat ≤ (pieces.foldl (coverageStep cursor) found).1.toNat ∧
      ((pieces.foldl (coverageStep cursor) found).1.toNat = found.1.toNat ∨
        ∃ range, (range, true) ∈ pieces ∧ cursor.toNat ∈ range ∧
          (pieces.foldl (coverageStep cursor) found).1.toNat = range.last - cursor.toNat) := by
  induction pieces generalizing found with
  | nil => simp
  | cons piece pieces ih =>
    obtain ⟨range, allows⟩ := piece
    rw [List.foldl_cons]
    obtain ⟨hall, hle, hfrom⟩ := ih (coverageStep cursor found (range, allows))
    by_cases hin : allows = true ∧ cursor.toNat ∈ range
    · obtain ⟨rfl, hin⟩ := hin
      have hstep : (coverageStep cursor found (range, true)).1.toNat =
          max found.1.toNat (range.last - cursor.toNat) := by
        rw [coverageStep, if_neg (by rw [GuestRange.contains_iff.mpr hin]; exact nofun),
          if_neg nofun, toNat_max, GuestRange.toNat_size_sub hin]
      rw [hstep] at hle hfrom
      refine ⟨fun r hr hmem => ?_, by omega, ?_⟩
      · rcases List.mem_cons.mp hr with heq | hr
        · cases heq
          omega
        · exact hall r hr hmem
      · rcases hfrom with hfrom | ⟨r, hr, h⟩
        · by_cases hbest : range.last - cursor.toNat ≤ found.1.toNat
          · exact .inl (by omega)
          · exact .inr ⟨range, List.mem_cons_self, hin, by omega⟩
        · exact .inr ⟨r, List.mem_cons_of_mem _ hr, h⟩
    · have hstep : (coverageStep cursor found (range, allows)).1 = found.1 := by
        unfold coverageStep
        split_ifs with hout hdenied
        · rfl
        · rfl
        · rw [Bool.not_eq_false] at hdenied
          rw [Bool.not_eq_false, GuestRange.contains_iff] at hout
          exact absurd ⟨hdenied, hout⟩ hin
      rw [hstep] at hle hfrom
      refine ⟨fun r hr hmem => ?_, hle,
        hfrom.imp_right fun ⟨r, hr, h⟩ => ⟨r, List.mem_cons_of_mem _ hr, h⟩⟩
      rcases List.mem_cons.mp hr with heq | hr
      · cases heq
        exact absurd ⟨rfl, hmem⟩ hin
      · exact hall r hr hmem

theorem covers_coverage (cursor : GuestAddress) (pieces : List (GuestRange × Bool)) :
    Covers (PiecesAllow pieces) cursor.toNat (coverage cursor pieces).1.toNat := by
  obtain ⟨hall, -, hfrom⟩ := foldl_coverageStep cursor pieces (0, false)
  rw [UInt64.toNat_zero] at hfrom
  refine ⟨fun y h1 h2 => ?_, ?_⟩
  · rcases hfrom with hfrom | ⟨range, hr, hmem, hbest⟩
    · rw [coverage, hfrom] at h2
      omega
    · rw [coverage, hbest] at h2
      exact ⟨range, hr, by rw [GuestRange.mem_def] at *; omega⟩
  · rintro hzero ⟨range, hr, hmem⟩
    have := hall range hr hmem
    rw [coverage] at hzero
    have := hmem.2
    omega

/-! ### The walk -/

section Walk

variable {memory : GuestMemoryAccess} {access : AccessKind}

/-- The reach of the image, mappings and stack together. -/
theorem covers_image (memory : GuestMemoryAccess) (access : AccessKind) (cursor : GuestAddress) :
    Covers (memory.ImageAllows access) cursor.toNat
      (if memory.image.initialStack.storage.contains cursor = true then
        max (coverage cursor (mappingPieces memory.image access)).1
          (memory.image.initialStack.storage.size.value -
            (cursor.value - memory.image.initialStack.storage.base.value))
      else (coverage cursor (mappingPieces memory.image access)).1).toNat := by
  obtain ⟨hreach, hnone⟩ := covers_coverage cursor (mappingPieces memory.image access)
  simp only [piecesAllow_mappingPieces] at hreach hnone
  split_ifs with hstack
  · rw [GuestRange.contains_iff] at hstack
    have hlast := hstack.2
    rw [toNat_max, GuestRange.toNat_size_sub hstack]
    refine ⟨fun y h1 h2 => ?_, fun hzero => by omega⟩
    by_cases hy : y < cursor.toNat + (coverage cursor (mappingPieces memory.image access)).1.toNat
    · exact .inl (hreach y h1 hy)
    · refine .inr ?_
      rw [GuestRange.mem_def] at *
      omega
  · rw [GuestRange.contains_iff] at hstack
    exact ⟨fun y h1 h2 => .inl (hreach y h1 h2), fun hzero => not_or.mpr ⟨hnone hzero, hstack⟩⟩

theorem GuestMemoryAccess.probe_eq_ok (h : memory.probe access cursor = .ok reach) :
    ∀ y, cursor.toNat ≤ y → y < cursor.toNat + reach.toNat → memory.Allows access y := by
  simp only [probe, bind_eq_ok, refuseIf_eq_ok, pure_eq_ok] at h
  obtain ⟨-, -, -, -, rfl⟩ := h
  intro y h1 h2
  rw [toNat_min] at h2
  refine ⟨(covers_image memory access cursor).reach y h1 (by omega), ?_⟩
  exact piecesAllow_regionPieces.mp ((covers_coverage cursor _).reach y h1 (by omega))

theorem GuestMemoryAccess.probe_eq_error {e : GuestMemoryError}
    (h : memory.probe access cursor = .error e) :
    ¬ memory.Allows access cursor.toNat ∧ e.hasGuestAddress = true ∧ e.guestAddress = cursor.value ∧
      e.code ≠ .guestMemoryRangeOverflow := by
  simp only [probe, bind_eq_error, refuseIf_eq_error, pure_ne_error, and_false, exists_false,
    or_false] at h
  rcases h with ⟨hzero, rfl⟩ | ⟨-, -, hzero, rfl⟩
  · refine ⟨fun hallows => ?_, rfl, rfl, by dsimp only; split_ifs <;> decide⟩
    exact (covers_image memory access cursor).none (by rw [hzero]; rfl) hallows.1
  · refine ⟨fun hallows => ?_, rfl, rfl, by dsimp only; split_ifs <;> decide⟩
    exact (covers_coverage cursor _).none (by rw [hzero]; rfl)
      (piecesAllow_regionPieces.mpr hallows.2)

/-- The probe at a natural number; above the address space there is nothing. -/
def GuestMemoryAccess.probeAt (memory : GuestMemoryAccess) (access : AccessKind) (x : ℕ) :
    Except GuestMemoryError ℕ :=
  if x < 2 ^ 64 then (memory.probe access ⟨UInt64.ofNat x⟩).map UInt64.toNat
  else .error { code := .guestMemoryUnmapped }

theorem GuestMemoryAccess.Allows.lt (h : memory.Allows access x) : x < 2 ^ 64 := by
  obtain ⟨-, region, -, -, hmem⟩ := h
  exact lt_of_lt_of_le hmem.2 region.range.last_le

theorem probes_probeAt (memory : GuestMemoryAccess) (access : AccessKind) :
    Probes (memory.probeAt access) (memory.Allows access) := by
  refine ⟨fun {x k} h => ?_, fun {x e} h => ?_⟩
  · unfold GuestMemoryAccess.probeAt at h
    split_ifs at h with hx
    cases hp : memory.probe access ⟨UInt64.ofNat x⟩ with
    | error e =>
      rw [hp] at h
      cases h
    | ok reach =>
      rw [hp] at h
      cases h
      refine ⟨GuestMemoryAccess.probe_pos hp, ?_⟩
      have := GuestMemoryAccess.probe_eq_ok hp
      rwa [GuestAddress.toNat_mk, toNat_ofNat_of_lt hx] at this
  · unfold GuestMemoryAccess.probeAt at h
    split_ifs at h with hx
    · cases hp : memory.probe access ⟨UInt64.ofNat x⟩ with
      | error e' =>
        have := (GuestMemoryAccess.probe_eq_error hp).1
        rwa [GuestAddress.toNat_mk, toNat_ofNat_of_lt hx] at this
      | ok reach =>
        rw [hp] at h
        cases h
    · exact fun hallows => hx hallows.lt

/-- The loop is the walk: within the address space it never overflows. -/
theorem GuestMemoryAccess.validateLoop_eq_walk (memory : GuestMemoryAccess) (access : AccessKind)
    (cursor remaining : UInt64) (hwrap : cursor.toNat + remaining.toNat ≤ 2 ^ 64) :
    memory.validateLoop access cursor remaining =
      walk (memory.probeAt access) cursor.toNat remaining.toNat := by
  induction hn : remaining.toNat using Nat.strong_induction_on generalizing cursor remaining with
  | _ n ih =>
    subst hn
    rw [validateLoop, walk]
    by_cases hzero : remaining = 0
    · rw [dif_pos hzero, hzero, UInt64.toNat_zero, if_pos rfl]
    · have hpos : remaining.toNat ≠ 0 := fun h0 => hzero (UInt64.toNat_inj.mp h0)
      rw [dif_neg hzero, if_neg hpos, probeAt, if_pos cursor.toNat_lt, UInt64.ofNat_toNat]
      cases hp : memory.probe access ⟨cursor⟩ with
      | error e => rfl
      | ok reach =>
        have hreach := probe_pos hp
        have hmin : (min remaining reach).toNat = min remaining.toNat reach.toNat := toNat_min _ _
        have hsub : (remaining - min remaining reach).toNat =
            remaining.toNat - min remaining.toNat reach.toNat := by
          rw [UInt64.toNat_sub_of_le _ _ (UInt64.le_iff_toNat_le.mpr (by rw [hmin]; omega)), hmin]
        have hmax : max 1 reach.toNat = reach.toNat := by omega
        simp only [Except.map, hmax]
        by_cases hlast : remaining - min remaining reach = 0
        · have := congrArg UInt64.toNat hlast
          rw [hsub, UInt64.toNat_zero] at this
          rw [if_pos hlast, show remaining.toNat - reach.toNat = 0 by omega, walk, if_pos rfl]
        · have hne : remaining.toNat - min remaining.toNat reach.toNat ≠ 0 := by
            rw [← hsub]
            exact fun h0 => hlast (UInt64.toNat_inj.mp h0)
          have hadd : (cursor + min remaining reach).toNat = cursor.toNat + reach.toNat := by
            rw [UInt64.toNat_add, hmin, Nat.mod_eq_of_lt (by omega)]
            omega
          rw [if_neg hlast, if_neg (by rw [gt_u64Max_sub_iff, hmin]; omega),
            ih _ (by rw [hsub]; omega) _ _ (by rw [hadd, hsub]; omega) rfl, hadd, hsub]
          congr 1
          omega

end Walk

/-! ### Validation -/

/-- Every byte of a range is allowed. -/
def GuestMemoryAccess.AllowsRange (memory : GuestMemoryAccess) (access : AccessKind)
    (address byteCount : ℕ) : Prop :=
  ∀ x, address ≤ x → x < address + byteCount → memory.Allows access x

section

variable {access : AccessKind} {memory : GuestMemoryAccess}
  (havail : memory.preparedMemoryAvailable = true) (hpos : 0 < byteCount.toNat)

include havail hpos

/-- What is left of `validate` for a range that is not empty, over prepared memory. -/
theorem GuestMemoryAccess.validate_eq :
    memory.validate address byteCount access =
      if address.toNat + byteCount.toNat ≤ 2 ^ 64 then
        (walk (memory.probeAt access) address.toNat byteCount.toNat).map fun _ => byteCount
      else .error ⟨.guestMemoryRangeOverflow, true, address.value⟩ := by
  have hne : byteCount ≠ 0 := by
    rintro rfl
    exact absurd hpos (by decide)
  have hone : (1 : UInt64) ≤ byteCount := UInt64.le_iff_toNat_le.mpr hpos
  have hover : address.value > u64Max - (byteCount - 1) ↔
      ¬ address.toNat + byteCount.toNat ≤ 2 ^ 64 := by
    rw [gt_u64Max_sub_iff, UInt64.toNat_sub_of_le _ _ hone, UInt64.toNat_one, GuestAddress.toNat]
    omega
  have hready : refuseIf (memory.preparedMemoryAvailable = false)
      ({ code := .preparedMemoryUnavailable } : GuestMemoryError) = .ok () := by simp [havail]
  unfold validate
  rw [hready]
  show (if byteCount = 0 then _ else _) = _
  rw [if_neg hne]
  split_ifs with hwrap
  · rw [(refuseIf_eq_ok (u := ())).mpr fun h => hover.mp h hwrap]
    show (memory.validateLoop access address.value byteCount >>= fun _ => _) = _
    rw [validateLoop_eq_walk memory access address.value byteCount hwrap]
    show (walk (memory.probeAt access) address.toNat byteCount.toNat >>= fun _ => _) = _
    cases walk (memory.probeAt access) address.toNat byteCount.toNat <;> rfl
  · rw [refuseIf_eq_error.mpr ⟨hover.mpr hwrap, rfl⟩]
    rfl

theorem GuestMemoryAccess.validate_iff :
    (∃ n, memory.validate address byteCount access = .ok n) ↔
      address.toNat + byteCount.toNat ≤ 2 ^ 64 ∧
      memory.AllowsRange access address.toNat byteCount.toNat := by
  rw [validate_eq havail hpos]
  split_ifs with hwrap
  · rw [AllowsRange, ← walk_eq_ok_iff (probes_probeAt memory access), and_iff_right hwrap]
    cases walk (memory.probeAt access) address.toNat byteCount.toNat <;> simp [Except.map]
  · exact ⟨nofun, fun h => absurd h.1 hwrap⟩

end

/-- **Validation is exact.** A range is accepted when it does not wrap and every byte of it is
allowed; otherwise the error names the first byte that is not, and never an overflow
inside the range. -/
theorem GuestMemoryAccess.validate_exact (memory : GuestMemoryAccess)
    (havail : memory.preparedMemoryAvailable = true) (access : AccessKind) (address : GuestAddress)
    (byteCount : UInt64) (hpos : 0 < byteCount.toNat) :
    ((∃ n, memory.validate address byteCount access = .ok n) ↔
      address.toNat + byteCount.toNat ≤ 2 ^ 64 ∧
      memory.AllowsRange access address.toNat byteCount.toNat) ∧
    ∀ e, memory.validate address byteCount access = .error e →
      address.toNat + byteCount.toNat ≤ 2 ^ 64 →
      e.code ≠ .guestMemoryRangeOverflow ∧ e.hasGuestAddress = true ∧
        address.toNat ≤ e.guestAddress.toNat ∧
        e.guestAddress.toNat < address.toNat + byteCount.toNat ∧
        ¬ memory.Allows access e.guestAddress.toNat ∧
        ∀ x, address.toNat ≤ x → x < e.guestAddress.toNat → memory.Allows access x := by
  refine ⟨validate_iff havail hpos, fun e he hwrap => ?_⟩
  rw [validate_eq havail hpos, if_pos hwrap] at he
  cases hw : walk (memory.probeAt access) address.toNat byteCount.toNat with
  | ok u =>
    rw [hw] at he
    cases he
  | error e' =>
    rw [hw] at he
    cases he
    obtain ⟨x, hprobe, h1, h2, hbad, hgood⟩ :=
      exists_of_walk_eq_error (probes_probeAt memory access) hw
    have hx : x < 2 ^ 64 := by omega
    rw [probeAt, if_pos hx] at hprobe
    cases hp : memory.probe access ⟨UInt64.ofNat x⟩ with
    | ok reach =>
      rw [hp] at hprobe
      cases hprobe
    | error e'' =>
      rw [hp] at hprobe
      cases hprobe
      obtain ⟨-, haddr, hvalue, hcode⟩ := probe_eq_error hp
      rw [hvalue, toNat_ofNat_of_lt hx]
      exact ⟨hcode, haddr, h1, h2, hbad, hgood⟩

/-- An image of which nothing but the mappings and the stack matters. -/
def bareImage (mappings : List MappingIntent) (storage : GuestRange) : GuestImage where
  imageBytes := []
  elf := ⟨⟨0, 0, 2, 62, 1, 0, 0, 0, 0, 64, 56, 0, 0, 0, 0⟩, []⟩
  mappings := mappings
  dynamicTable := none
  dynamicStrings := none
  dynamicSymbols := none
  generalRelocations := {}
  pltRelocations := none
  tls := none
  initialStack := ⟨storage, storage, storage.base, []⟩

/-- Two readable pages, of which the first is prepared. -/
def halfPrepared : GuestMemoryAccess where
  image := bareImage
    [⟨⟨⟨0x1000⟩, ⟨0x2000⟩, by decide⟩, GuestPermissions.only .read, ⟨.zeroFill, 0, ⟨0x2000⟩⟩, 0⟩]
    noBytes
  preparedPlan := ⟨0x1000, [⟨lowPage, GuestPermissions.only .read, []⟩]⟩
  preparedMemoryAvailable := true

/-- A read over the end of the prepared page stops at the first byte after it. -/
theorem validate_halfPrepared :
    ∃ e, halfPrepared.validate ⟨0x1fff⟩ 2 .read = .error e ∧ e.guestAddress = 0x2000 := by
  have hspec := GuestMemoryAccess.validate_exact halfPrepared rfl .read ⟨0x1fff⟩ 2 (by decide)
  cases hv : halfPrepared.validate ⟨0x1fff⟩ 2 .read with
  | ok n =>
    obtain ⟨-, region, hregion, -, hmem⟩ := (hspec.1.mp ⟨n, hv⟩).2 0x2000 (by decide) (by decide)
    cases List.mem_singleton.mp hregion
    exact absurd hmem (by decide)
  | error e =>
    obtain ⟨-, -, h1, h2, hbad, -⟩ := hspec.2 e hv (by decide)
    refine ⟨e, rfl, UInt64.toNat_inj.mp ?_⟩
    by_contra hne
    have hfirst : e.guestAddress.toNat = 0x1fff := by
      change 0x1fff ≤ _ at h1
      change _ < 0x1fff + 2 at h2
      change ¬ _ = 0x2000 at hne
      omega
    rw [hfirst] at hbad
    exact hbad ⟨.inl ⟨_, List.mem_singleton_self _, by decide, by decide⟩, _,
      List.mem_singleton_self _, by decide, by decide⟩

/-! ### The plan of an image -/

section PlanOfImage

variable {image : GuestImage} {request : ExecutionMemoryPlanRequest} {plan : ExecutionMemoryPlan}

theorem stackPermissions_has (access : AccessKind) :
    stackPermissions.has access.permission = true := by
  cases access <;> decide

/-- Whatever the image allows, the plan built from it allows. -/
theorem planAllows_of_imageAllows (hmappings : request.mappings = image.mappings)
    (hstack : request.stackStorage = image.initialStack.storage)
    (hplan : buildExecutionMemoryPlan request = .ok plan) {access : AccessKind}
    (h : (GuestMemoryAccess.mk image plan true).ImageAllows access x) :
    (GuestMemoryAccess.mk image plan true).PlanAllows access x := by
  have hexact := planExact hplan
  have hsource : ∃ source permissions,
    PageSource request (x / request.hostPageSize.toNat) source permissions ∧
      permissions.has access.permission = true := by
    rcases h with ⟨mapping, hm, hallows, hx⟩ | hx
    · exact ⟨_, _, .mapping (hmappings ▸ hm) ⟨x, hx, rfl⟩, hallows⟩
    · exact ⟨_, _, .stack ⟨x, hstack ▸ hx, rfl⟩, stackPermissions_has access⟩
  have hx : x < 2 ^ 64 := by
    rcases h with ⟨mapping, -, -, hx⟩ | hx
    · exact lt_of_lt_of_le hx.2 mapping.range.last_le
    · exact lt_of_lt_of_le hx.2 image.initialStack.storage.last_le
  obtain ⟨source, permissions, hpage, -⟩ := id hsource
  obtain ⟨region, hregion, hxr⟩ := (hexact.covered x hx).mpr ⟨source, permissions, hpage⟩
  exact ⟨region, hregion, (hexact.permissions region hregion x hxr _).mpr hsource, hxr⟩

/-- **The plan covers what the image promises.** Over a plan built from the image, a range is
accepted exactly when the image allows every byte of it. -/
theorem validate_iff_imageAllows (image : GuestImage) (request : ExecutionMemoryPlanRequest)
    (plan : ExecutionMemoryPlan) (hmappings : request.mappings = image.mappings)
    (hstack : request.stackStorage = image.initialStack.storage)
    (hplan : buildExecutionMemoryPlan request = .ok plan) (access : AccessKind)
    (address : GuestAddress) (byteCount : UInt64) (hpos : 0 < byteCount.toNat)
    (hwrap : address.toNat + byteCount.toNat ≤ 2 ^ 64) :
    (∃ n, (GuestMemoryAccess.mk image plan true).validate address byteCount access = .ok n) ↔
      ∀ x, address.toNat ≤ x → x < address.toNat + byteCount.toNat →
        (GuestMemoryAccess.mk image plan true).ImageAllows access x := by
  rw [GuestMemoryAccess.validate_iff rfl hpos, and_iff_right hwrap]
  constructor
  · exact fun h x h1 h2 => (h x h1 h2).1
  · exact fun h x h1 h2 => ⟨h x h1 h2, planAllows_of_imageAllows hmappings hstack hplan (h x h1 h2)⟩

/-- Half a page of code, and a stack apart from it. -/
def codeAndStack : ExecutionMemoryPlanRequest where
  mappings := [⟨⟨⟨0x1000⟩, ⟨0x800⟩, by decide⟩, ⟨5, by decide⟩, ⟨.zeroFill, 0, ⟨0x800⟩⟩, 0⟩]
  stackStorage := ⟨⟨0x3000⟩, ⟨0x1000⟩, by decide⟩
  entryPoint := ⟨0x1000⟩
  stackPointer := ⟨0x3800⟩
  hostPageSize := 0x1000
  inMemory := by decide

theorem validate_codeAndStack : ∃ plan, buildExecutionMemoryPlan codeAndStack = .ok plan ∧
    ∃ n, (GuestMemoryAccess.mk (bareImage codeAndStack.mappings codeAndStack.stackStorage) plan
      true).validate
      ⟨0x1000⟩ 0x800 .read = .ok n := by
  have hcuts : (requestSpans codeAndStack).flatMap (fun span => span.firstPage ::
      if span.lastPage < maxPageIndex codeAndStack.hostPageSize.toNat then [span.lastPage + 1]
        else []) = [1, 2, 3, 4] := by
    decide
  have hbuild : ∃ plan, buildExecutionMemoryPlan codeAndStack = .ok plan := by
    rw [buildExecutionMemoryPlan_eq (by decide), boundaries, hcuts,
      List.mergeSort_of_pairwise (by decide)]
    exact ⟨_, rfl⟩
  obtain ⟨plan, hplan⟩ := hbuild
  refine ⟨plan, hplan,
    (validate_iff_imageAllows _ _ _ rfl rfl hplan .read ⟨0x1000⟩ 0x800 (by decide) (by decide)).mpr
    ?_⟩
  exact fun x h1 h2 => .inl ⟨_, List.mem_singleton_self _, by decide, h1, h2⟩

end PlanOfImage

/-! ### Owned writes -/

/-- **An owned write is a valid write.** The range does not wrap, each of its bytes is one the
guest may write, lies in a prepared region that is writable and not executable and in no
mapping that is not writable, and `validate` accepts it. -/
theorem guestWriteOwnedByPlan_sound (plan : ExecutionMemoryPlan) (mappings : List MappingIntent)
    (stack : GuestRange) (target : GuestAddress) (byteCount : UInt64)
    (h : guestWriteOwnedByPlan plan mappings stack target byteCount = true) :
    target.toNat + byteCount.toNat ≤ 2 ^ 64 ∧
    (∀ x, target.toNat ≤ x → x < target.toNat + byteCount.toNat →
      ((∃ mapping ∈ mappings, mapping.permissions.has .write = true ∧ x ∈ mapping.range) ∨
        x ∈ stack) ∧
      (∃ region ∈ plan.regions, region.permissions.has .write = true ∧
        region.permissions.has .execute = false ∧ x ∈ region.range) ∧
      ∀ mapping ∈ mappings, mapping.permissions.has .write = false → x ∉ mapping.range) ∧
    ∀ image : GuestImage, image.mappings = mappings → image.initialStack.storage = stack →
      ∃ n, (GuestMemoryAccess.mk image plan true).validate target byteCount .write = .ok n := by
  obtain ⟨hpos, hwrap, ⟨howned, hnone⟩, region, hregion, hwithin, hwrite, hexecute⟩ :=
    guestWriteOwnedByPlan_eq_true h
  have hinside : ∀ {range : GuestRange}, fullyWithin target.value byteCount range = true →
      ∀ x, target.toNat ≤ x → x < target.toNat + byteCount.toNat → x ∈ range := by
    intro range hin x h1 h2
    obtain ⟨h3, h4⟩ := fullyWithin_iff.mp hin
    rw [GuestRange.mem_def]
    rw [GuestAddress.toNat] at h1 h2
    omega
  have hguest : ∀ x, target.toNat ≤ x → x < target.toNat + byteCount.toNat →
      (∃ mapping ∈ mappings, mapping.permissions.has .write = true ∧ x ∈ mapping.range) ∨
        x ∈ stack := by
    intro x h1 h2
    rcases howned with hstack | ⟨mapping, hm, hin, hallows⟩
    · exact .inr (hinside hstack x h1 h2)
    · exact .inl ⟨mapping, hm, hallows, hinside hin x h1 h2⟩
  refine ⟨hwrap.le, fun x h1 h2 =>
    ⟨hguest x h1 h2, ⟨region, hregion, hwrite, hexecute, hinside hwithin x h1 h2⟩,
      fun mapping hm hno => ?_⟩, ?_⟩
  · exact not_mem_of_intersects_eq_false hwrap (hnone mapping hm hno) h1 h2
  · rintro image rfl rfl
    refine (GuestMemoryAccess.validate_iff rfl hpos).mpr
      ⟨hwrap.le, fun x h1 h2 => ⟨hguest x h1 h2, ?_⟩⟩
    exact ⟨region, hregion, hwrite, hinside hwithin x h1 h2⟩

/-- A write of the last eight bytes of the stack, next to a page of code. -/
theorem guestWriteOwnedByPlan_stack_top :
    ∃ n, (GuestMemoryAccess.mk
      (bareImage [⟨⟨⟨0x1000⟩, ⟨0x1000⟩, by decide⟩, ⟨GuestPermission.execute.mask, by decide⟩,
        ⟨.zeroFill, 0, ⟨0x1000⟩⟩, 0⟩] ⟨⟨0x2000⟩, ⟨0x1000⟩, by decide⟩)
      ⟨0x1000, [⟨⟨⟨0x1000⟩, ⟨0x1000⟩, by decide⟩, ⟨GuestPermission.execute.mask, by decide⟩, []⟩,
        ⟨⟨⟨0x2000⟩, ⟨0x1000⟩, by decide⟩, stackPermissions, []⟩]⟩ true).validate ⟨0x2ff8⟩ 8 .write =
          .ok n :=
  (guestWriteOwnedByPlan_sound _ _ _ ⟨0x2ff8⟩ 8 (by decide)).2.2 _ rfl rfl

end Astraea.Execution
