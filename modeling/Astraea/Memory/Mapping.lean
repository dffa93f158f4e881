import Astraea.Loader.Elf64
import Astraea.Memory.GuestAddress

/-!
# Mapping intents

A load segment of the file becomes at most two mapping intents: one for the bytes
that come from the file, one for the zero bytes after them. An intent is a guest
range with permissions, the source of its bytes, and the program header it is from.
`mappingIntentsFromLoad_spec` says which intents a segment gives.
-/

namespace Astraea.Memory

open Astraea.Base Astraea.Loader

/-! ### Permissions -/

/-- What can be permitted. -/
inductive GuestPermission where
  | read
  | write
  | execute
  deriving DecidableEq

/-- The position of a permission's bit. -/
def GuestPermission.bit : GuestPermission → ℕ
  | .read => 0
  | .write => 1
  | .execute => 2

/-- The value of a permission in a mask. -/
def GuestPermission.mask (permission : GuestPermission) : UInt8 := UInt8.ofNat (2 ^ permission.bit)

/-- A set of permissions. No bit beyond the three can be set. -/
structure GuestPermissions where
  bits : UInt8
  known : bits.toNat < 8
  deriving DecidableEq

/-- One permission alone. -/
def GuestPermissions.only (permission : GuestPermission) : GuestPermissions :=
  ⟨permission.mask, by cases permission <;> decide⟩

variable {bits : UInt8}

/-- The mask of unknown bits meets exactly the masks with a bit beyond the three. -/
theorem and_unknown_eq_zero : bits &&& 0xf8 = 0 ↔ bits.toNat < 8 := by
  have hall : ∀ n < 256, n &&& 0xf8 = 0 ↔ n < 8 := by decide +kernel
  rw [← UInt8.toNat_inj, UInt8.toNat_and]
  exact hall _ bits.toNat_lt

/-- `GuestPermissions::checked_from_bits`: a mask with an unknown bit is refused. -/
def GuestPermissions.checkedFromBits (bits : UInt8) : Option GuestPermissions :=
  if h : bits &&& 0xf8 ≠ 0 then none
  else some ⟨bits, and_unknown_eq_zero.mp (not_not.mp h)⟩

/-- `GuestPermissions::from_elf_flags`. -/
def GuestPermissions.fromElfFlags (flags : UInt32) : GuestPermissions where
  bits :=
    (if flags &&& 0x4 ≠ 0 then GuestPermission.read.mask else 0) |||
    (if flags &&& 0x2 ≠ 0 then GuestPermission.write.mask else 0) |||
    (if flags &&& 0x1 ≠ 0 then GuestPermission.execute.mask else 0)
  known := by split_ifs <;> decide

/-- `GuestPermissions::has`. -/
def GuestPermissions.has (permissions : GuestPermissions) (permission : GuestPermission) : Bool :=
  permissions.bits &&& permission.mask != 0

variable {permission : GuestPermission}

theorem and_mask_ne_zero :
    bits &&& permission.mask ≠ 0 ↔ bits.toNat.testBit permission.bit = true := by
  rw [← and_two_pow_ne_zero, Ne, ← UInt8.toNat_inj, UInt8.toNat_and, UInt8.toNat_zero]
  have hmask : permission.mask.toNat = 2 ^ permission.bit := by cases permission <;> rfl
  rw [hmask]

theorem GuestPermissions.has_iff {permissions : GuestPermissions} :
    permissions.has permission = true ↔ permissions.bits.toNat.testBit permission.bit = true := by
  rw [has, bne_iff_ne, and_mask_ne_zero]

theorem GuestPermissions.checkedFromBits_of_lt (h : bits.toNat < 8) :
    checkedFromBits bits = some ⟨bits, h⟩ := by
  unfold checkedFromBits
  rw [dif_neg]
  exact not_not.mpr (and_unknown_eq_zero.mpr h)

/-! ### Intents -/

/-- What a mapping is filled from. -/
inductive MappingBackingKind where
  | file
  | zeroFill
  | anonymous
  deriving DecidableEq

/-- Where the bytes of an intent come from. -/
structure MappingBacking where
  kind : MappingBackingKind
  fileOffset : UInt64
  byteCount : GuestSize
  deriving DecidableEq

/-- A mapping that is to be made: its range, its permissions and what fills it. -/
structure MappingIntent where
  range : GuestRange
  permissions : GuestPermissions
  backing : MappingBacking
  /-- The program header the intent is from. -/
  sourceIndex : ℕ
  deriving DecidableEq

/-- Why a mapping is refused. -/
inductive MappingErrorCode where
  | notLoadSegment
  | invalidLoadSizes
  | guestRangeOverflow
  | addressAdditionOverflow
  | mappingOverlapConflict
  deriving DecidableEq

/-- A mapping that is refused, with the segment it is about. -/
structure MappingError where
  code : MappingErrorCode
  firstSourceIndex : ℕ
  secondSourceIndex : ℕ
  deriving DecidableEq

/-- The order of the enumeration. -/
def MappingBackingKind.rank : MappingBackingKind → ℕ
  | .file => 0
  | .zeroFill => 1
  | .anonymous => 2

/-- `mapping_intent_less`: by base, size, program header and kind of backing. -/
def mappingIntentLess (lhs rhs : MappingIntent) : Bool :=
  if lhs.range.base ≠ rhs.range.base then decide (lhs.range.base.value < rhs.range.base.value)
  else if lhs.range.size ≠ rhs.range.size then decide (lhs.range.size.value < rhs.range.size.value)
  else if lhs.sourceIndex ≠ rhs.sourceIndex then decide (lhs.sourceIndex < rhs.sourceIndex)
  else decide (lhs.backing.kind.rank < rhs.backing.kind.rank)

/-- `std::sort` by `mapping_intent_less`. The order of intents that compare equal is
not specified there; here it is the order they came in. -/
def sortIntents (intents : List MappingIntent) : List MappingIntent :=
  intents.mergeSort fun lhs rhs => !mappingIntentLess rhs lhs

/-- The intent for the bytes of a segment that come from the file, when there are any. -/
def fileIntents (ph : ProgramHeader) : Except MappingError (List MappingIntent) :=
  if ph.fileSize > 0 then do
    let fileRange ← (GuestRange.create ⟨ph.virtualAddress⟩ ⟨ph.fileSize⟩).mapError fun _ =>
      (⟨.guestRangeOverflow, ph.index, 0⟩ : MappingError)
    return [⟨fileRange, .fromElfFlags ph.flags, ⟨.file, ph.offset, ⟨ph.fileSize⟩⟩, ph.index⟩]
  else .ok []

/-- The intent for the zero bytes after them, when there are any. -/
def zeroFillIntents (ph : ProgramHeader) : Except MappingError (List MappingIntent) :=
  if ph.memorySize > ph.fileSize then do
    let zeroSize := ph.memorySize - ph.fileSize
    let zeroBase ← (GuestAddress.checkedAdd ⟨ph.virtualAddress⟩ ⟨ph.fileSize⟩).mapError fun _ =>
      (⟨.addressAdditionOverflow, ph.index, 0⟩ : MappingError)
    let zeroRange ← (GuestRange.create zeroBase ⟨zeroSize⟩).mapError fun _ =>
      (⟨.guestRangeOverflow, ph.index, 0⟩ : MappingError)
    return [⟨zeroRange, .fromElfFlags ph.flags, ⟨.zeroFill, 0, ⟨zeroSize⟩⟩, ph.index⟩]
  else .ok []

/-- `mapping_intents_from_load`. -/
def mappingIntentsFromLoad (ph : ProgramHeader) : Except MappingError (List MappingIntent) := do
  refuseIf (ph.type ≠ kPtLoad) ⟨.notLoadSegment, ph.index, 0⟩
  refuseIf (ph.fileSize > ph.memorySize) ⟨.invalidLoadSizes, ph.index, 0⟩
  if ph.memorySize = 0 then
    return []
  let _fullRange ← (GuestRange.create ⟨ph.virtualAddress⟩ ⟨ph.memorySize⟩).mapError fun _ =>
    (⟨.guestRangeOverflow, ph.index, 0⟩ : MappingError)
  let files ← fileIntents ph
  let zeros ← zeroFillIntents ph
  return sortIntents (files ++ zeros)

/-! ### Sorting -/

theorem mappingIntentLess_iff {lhs rhs : MappingIntent} :
    mappingIntentLess lhs rhs = true ↔
      lhs.range.base.toNat < rhs.range.base.toNat ∨ lhs.range.base.toNat = rhs.range.base.toNat ∧
        (lhs.range.size.toNat < rhs.range.size.toNat ∨ lhs.range.size.toNat = rhs.range.size.toNat ∧
          (lhs.sourceIndex < rhs.sourceIndex ∨ lhs.sourceIndex = rhs.sourceIndex ∧
            lhs.backing.kind.rank < rhs.backing.kind.rank)) := by
  unfold mappingIntentLess
  simp only [ne_eq, ← GuestAddress.toNat_inj, ← GuestSize.toNat_inj]
  split_ifs <;> simp only [decide_eq_true_eq, UInt64.lt_iff_toNat_lt, GuestAddress.toNat,
    GuestSize.toNat] at * <;> omega

theorem pairwise_sortIntents (intents : List MappingIntent) :
    (sortIntents intents).Pairwise fun a b => a.range.base.toNat ≤ b.range.base.toNat := by
  have hsorted : (sortIntents intents).Pairwise fun a b => (!mappingIntentLess b a) = true := by
    apply List.pairwise_mergeSort
    · intro a b c hab hbc
      simp only [Bool.not_eq_true', ← Bool.not_eq_true, mappingIntentLess_iff] at *
      omega
    · intro a b
      simp only [Bool.or_eq_true, Bool.not_eq_true', ← Bool.not_eq_true, mappingIntentLess_iff]
      omega
  refine hsorted.imp fun {a b} h => ?_
  rw [Bool.not_eq_true', ← Bool.not_eq_true, mappingIntentLess_iff] at h
  omega

variable {intents : List MappingIntent} {ph : ProgramHeader}

variable {intent : MappingIntent}

theorem mem_sortIntents : intent ∈ sortIntents intents ↔ intent ∈ intents := List.mem_mergeSort

/-! ### The intents of a load segment -/

/-- The intents a load segment stands for: its file bytes, when it has any, and the zero
bytes after them, when there is room. -/
inductive IntentOf (ph : ProgramHeader) : MappingIntent → Prop
  /-- The part that comes from the file. -/
  | file {range : GuestRange} (hbase : range.base.toNat = ph.virtualAddress.toNat)
      (hsize : range.size = ⟨ph.fileSize⟩) (hpos : 0 < ph.fileSize.toNat) :
      IntentOf ph ⟨range, .fromElfFlags ph.flags, ⟨.file, ph.offset, range.size⟩, ph.index⟩
  /-- The part that is zero. -/
  | zeroFill {range : GuestRange}
      (hbase : range.base.toNat = ph.virtualAddress.toNat + ph.fileSize.toNat)
      (hsize : range.size.toNat = ph.memorySize.toNat - ph.fileSize.toNat)
      (hpos : ph.fileSize.toNat < ph.memorySize.toNat) :
      IntentOf ph ⟨range, .fromElfFlags ph.flags, ⟨.zeroFill, 0, range.size⟩, ph.index⟩

theorem mem_fileIntents (h : fileIntents ph = .ok intents) (intent : MappingIntent) :
    intent ∈ intents ↔ IntentOf ph intent ∧ intent.backing.kind = .file := by
  unfold fileIntents at h
  split_ifs at h with hpos
  · simp only [bind_eq_ok, pure_eq_ok, mapError_eq_ok] at h
    obtain ⟨range, hrange, rfl⟩ := h
    obtain ⟨hbase, hsize⟩ := GuestRange.create_eq_ok hrange
    rw [List.mem_singleton]
    constructor
    · rintro rfl
      rw [← hsize]
      exact ⟨.file (by rw [hbase, GuestAddress.toNat_mk]) hsize (UInt64.lt_iff_toNat_lt.mp hpos),
        rfl⟩
    · rintro ⟨hof, hkind⟩
      cases hof with
      | @file range' hbase' hsize' hpos' =>
        have : range' = range :=
          GuestRange.ext_toNat (by rw [hbase', hbase, GuestAddress.toNat_mk])
            (by rw [hsize', hsize])
        rw [this, hsize]
      | zeroFill => cases hkind
  · cases h
    simp only [List.not_mem_nil, false_iff, not_and]
    rintro (⟨hbase, hsize, hpos'⟩ | ⟨hbase, hsize, hpos'⟩)
    · rw [gt_iff_lt, UInt64.lt_iff_toNat_lt, UInt64.toNat_zero] at hpos
      exact absurd hpos' hpos
    · intro hkind
      cases hkind

theorem mem_zeroFillIntents (h : zeroFillIntents ph = .ok intents) (intent : MappingIntent) :
    intent ∈ intents ↔ IntentOf ph intent ∧ intent.backing.kind = .zeroFill := by
  unfold zeroFillIntents at h
  split_ifs at h with hpos
  · simp only [bind_eq_ok, pure_eq_ok, mapError_eq_ok] at h
    obtain ⟨base, hadd, range, hrange, rfl⟩ := h
    obtain ⟨hbase, hsize⟩ := GuestRange.create_eq_ok hrange
    have hadd := (GuestAddress.checkedAdd_eq_ok hadd).2
    have hlt := UInt64.lt_iff_toNat_lt.mp hpos
    have hsub : (ph.memorySize - ph.fileSize).toNat = ph.memorySize.toNat - ph.fileSize.toNat :=
      UInt64.toNat_sub_of_le _ _ (UInt64.le_of_lt hpos)
    rw [List.mem_singleton]
    constructor
    · rintro rfl
      rw [← hsize]
      exact ⟨.zeroFill (by rw [hbase, hadd]; rfl) (by rw [hsize, GuestSize.toNat_mk, hsub]) hlt,
        rfl⟩
    · rintro ⟨hof, hkind⟩
      cases hof with
      | file => cases hkind
      | @zeroFill range' hbase' hsize' hpos' =>
        have : range' = range :=
          GuestRange.ext_toNat (by rw [hbase', hbase, hadd]; rfl)
            (by rw [hsize', hsize, GuestSize.toNat_mk, hsub])
        rw [this, hsize]
  · cases h
    simp only [List.not_mem_nil, false_iff, not_and]
    rintro (⟨hbase, hsize, hpos'⟩ | ⟨hbase, hsize, hpos'⟩)
    · intro hkind
      cases hkind
    · exact absurd (UInt64.lt_iff_toNat_lt.mpr hpos') hpos

theorem IntentOf.kind (h : IntentOf ph intent) :
    intent.backing.kind = .file ∨ intent.backing.kind = .zeroFill := by
  cases h
  · exact .inl rfl
  · exact .inr rfl

/-- **A load segment becomes exactly its intents.** -/
theorem mappingIntentsFromLoad_spec (h : mappingIntentsFromLoad ph = .ok intents)
    (intent : MappingIntent) :
    intent ∈ intents ↔ IntentOf ph intent := by
  unfold mappingIntentsFromLoad at h
  simp only [bind_eq_ok, refuseIf_eq_ok] at h
  obtain ⟨-, -, -, hsizes, h⟩ := h
  rw [gt_iff_lt, UInt64.lt_iff_toNat_lt] at hsizes
  split_ifs at h with hzero
  · rw [pure_eq_ok] at h
    subst h
    have h0 : ph.memorySize.toNat = 0 := by rw [hzero, UInt64.toNat_zero]
    simp only [List.not_mem_nil, false_iff]
    rintro (⟨hbase, hsize, hpos⟩ | ⟨hbase, hsize, hpos⟩) <;> omega
  · simp only [bind_eq_ok, pure_eq_ok] at h
    obtain ⟨-, -, files, hfiles, zeros, hzeros, rfl⟩ := h
    rw [mem_sortIntents, List.mem_append, mem_fileIntents hfiles, mem_zeroFillIntents hzeros,
      ← and_or_left, and_iff_left_iff_imp]
    exact IntentOf.kind

end Astraea.Memory
