import Mathlib.Data.List.Chain
import Astraea.Base.Batch
import Astraea.Core.HostAllocation
import Astraea.Execution.PreparedAccess

/-!
# Batches of relative relocations

A relative relocation puts the sum of a load bias and an addend into an eight-byte target.
`apply_owned_relative_batch` builds every patch again and compares, validates the targets, sorts
them to compare neighbours, and then writes them one after another, reading each one back.

The comparison of neighbours adds the width to the lower target in a machine word. The sum would
wrap for a target at the very top of the address space, where two patches for one target would go
unseen; but no host prepares memory there, so that no such target passes the check before it.
-/

namespace Astraea.Execution

open Astraea.Base Astraea.Core Astraea.Memory Astraea.Loader

/-! ### One patch -/

/-- The type of a relative relocation. -/
def kOwnedX8664RelativeType : UInt32 := 8

/-- Why no patch can be made of a relocation. -/
inductive OwnedRelativePatchErrorCode where
  | unsupportedTableKind
  | unsupportedRelocationType
  | symbolIndexNotZero
  | missingRelaAddend
  | targetRangeOverflow
  | relocatedValueOverflow
  deriving DecidableEq

/-- A relocation that no patch can be made of. -/
structure OwnedRelativePatchError where
  code : OwnedRelativePatchErrorCode
  rawRelocationType : UInt32
  deriving DecidableEq

/-- A relative relocation: its place and the value to be written. -/
structure OwnedRelativePatch where
  target : GuestAddress
  loadBias : GuestAddress
  rawAddend : Int64
  relocatedValue : GuestAddress
  bytes : Vector UInt8 8
  deriving DecidableEq

/-- The sum of the load bias and the addend; a negative addend is subtracted by its magnitude. -/
def relocatedValue (base : UInt64) (addend : Int64) : Option UInt64 :=
  if 0 ≤ addend then
    let positive := addend.toUInt64
    if base > u64Max - positive then none else some (base + positive)
  else
    let magnitude := (-(addend + 1)).toUInt64 + 1
    if base < magnitude then none else some (base - magnitude)

/-- `build_owned_x86_64_relative_patch`. -/
def buildOwnedX8664RelativePatch (relocation : DynamicRelocation) (loadBias : GuestAddress) :
    Except OwnedRelativePatchError OwnedRelativePatch := do
  let type := relocation.relocationType
  refuseIf (relocation.tableKind ≠ .rela) ⟨.unsupportedTableKind, type⟩
  refuseIf (type ≠ kOwnedX8664RelativeType) ⟨.unsupportedRelocationType, type⟩
  refuseIf (relocation.symbolIndex ≠ 0) ⟨.symbolIndexNotZero, type⟩
  let addend ← orRefuse relocation.addend ⟨.missingRelaAddend, type⟩
  let _target ← (GuestRange.create relocation.target ⟨8⟩).mapError fun _ =>
    (⟨.targetRangeOverflow, type⟩ : OwnedRelativePatchError)
  let value ← orRefuse (relocatedValue loadBias.value addend) ⟨.relocatedValueOverflow, type⟩
  return ⟨relocation.target, loadBias, addend, ⟨value⟩, le64Bytes value⟩

/-- What an applied batch did. -/
structure OwnedRelativeApplyResult where
  target : GuestAddress
  relocatedValue : GuestAddress
  deriving DecidableEq

/-- `apply_owned_relative_patch`, and what guest memory holds afterwards. -/
def applyOwnedRelativePatch (memory : GuestMemoryAccess) (patch : OwnedRelativePatch)
    (bytes : ℕ → UInt8) :
    Except GuestMemoryError OwnedRelativeApplyResult × (ℕ → UInt8) :=
  memory.applyPatch patch.target patch.bytes ⟨patch.target, patch.relocatedValue⟩ bytes

/-! ### A batch -/

/-- Why a batch of relocations is refused. -/
inductive OwnedRelativeBatchErrorCode where
  | tooManyPatches
  | invalidPatchEncoding
  | conflictingTarget
  | preflightFailure
  | applyFailure
  | readbackFailure
  | readbackMismatch
  | hostAllocationFailure
  deriving DecidableEq

/-- A refused batch, with the patches it is about. -/
structure OwnedRelativeBatchError where
  code : OwnedRelativeBatchErrorCode
  patchIndex : ℕ
  conflictingPatchIndex : Option ℕ := none
  appliedCount : ℕ := 0
  memoryError : Option GuestMemoryError := none
  deriving DecidableEq

/-- The most patches of a batch. -/
def kMaximumPatches : ℕ := 4096

/-- A target to be compared with its neighbours, and the index of its patch. -/
structure RelativeTarget where
  base : UInt64
  index : ℕ
  deriving DecidableEq

/-- The record the patch would have been built from. -/
def canonicalRecord (patch : OwnedRelativePatch) (index : ℕ) : DynamicRelocation where
  tableKind := .rela
  tableIndex := UInt64.ofNat index
  target := patch.target
  rawInfo := kOwnedX8664RelativeType.toUInt64
  symbolIndex := 0
  relocationType := kOwnedX8664RelativeType
  addend := some patch.rawAddend

section Batch

variable (memory : GuestMemoryAccess)

/-- One turn of the loop that validates the patches, over what guest memory holds. -/
def checkRelativePatch (bytes : ℕ → UInt8) (place : OwnedRelativePatch × ℕ) :
    Except OwnedRelativeBatchError Unit := do
  let patch := place.1
  refuseIf (buildOwnedX8664RelativePatch (canonicalRecord patch place.2) patch.loadBias ≠ .ok patch)
    { code := .invalidPatchEncoding, patchIndex := place.2 }
  let _writable ← (memory.preflightWrite patch.target 8).mapError fun e =>
    ({ code := .preflightFailure, patchIndex := place.2, memoryError := some e } :
      OwnedRelativeBatchError)
  let _readable ← (memory.read bytes patch.target 8).mapError fun e =>
    ({ code := .preflightFailure, patchIndex := place.2, memoryError := some e } :
      OwnedRelativeBatchError)

/-- The targets in ascending order. -/
def orderedTargets (patches : List OwnedRelativePatch) : List RelativeTarget :=
  (patches.zipIdx.map fun place => (⟨place.1.target.value, place.2⟩ : RelativeTarget)).mergeSort
    fun lhs rhs => decide (lhs.base ≤ rhs.base)

/-- The loop over neighbours. -/
def compareNeighbours : List RelativeTarget → Except OwnedRelativeBatchError Unit
  | lower :: upper :: rest => do
    refuseIf (upper.base < lower.base + 8)
      { code := .conflictingTarget, patchIndex := upper.index,
        conflictingPatchIndex := some lower.index }
    compareNeighbours (upper :: rest)
  | _ => .ok ()

/-- Everything that is checked before the first write. -/
def checkRelativeBatch (host : Host) (patches : List OwnedRelativePatch) (bytes : ℕ → UInt8) :
    Except OwnedRelativeBatchError Unit := do
  refuseIf (patches.length > kMaximumPatches)
    { code := .tooManyPatches, patchIndex := patches.length }
  allocate host .relativeBatch { code := .hostAllocationFailure, patchIndex := 0 }
    { code := .hostAllocationFailure, patchIndex := 0 }
  patches.zipIdx.forM (checkRelativePatch memory bytes)
  compareNeighbours (orderedTargets patches)

/-- How a write can fail. -/
inductive RelativeWriteError where
  | apply (e : GuestMemoryError)
  | readback (e : GuestMemoryError)
  | mismatch

/-- One turn of the loop that writes: apply the patch and read it back. -/
def writeRelativePatch (patch : OwnedRelativePatch) (bytes : ℕ → UInt8) :
    Except RelativeWriteError OwnedRelativeApplyResult × (ℕ → UInt8) :=
  match applyOwnedRelativePatch memory patch bytes with
  | (.error e, bytes) => (.error (.apply e), bytes)
  | (.ok result, bytes) =>
    match memory.read bytes patch.target 8 with
    | .error e => (.error (.readback e), bytes)
    | .ok observed => if observed ≠ patch.bytes.toList then (.error .mismatch,
        bytes) else (.ok result, bytes)

/-- The error for a write that failed. -/
def relativeWriteFailure (failed : ℕ × RelativeWriteError) : OwnedRelativeBatchError :=
  match failed.2 with
  | .apply e =>
    { code := .applyFailure, patchIndex := failed.1, appliedCount := failed.1,
      memoryError := some e }
  | .readback e =>
    { code := .readbackFailure, patchIndex := failed.1, appliedCount := failed.1 + 1,
      memoryError := some e }
  | .mismatch => { code := .readbackMismatch, patchIndex := failed.1, appliedCount := failed.1 + 1 }

/-- `apply_owned_relative_batch`, and what guest memory holds afterwards. -/
def applyOwnedRelativeBatch (host : Host) (patches : List OwnedRelativePatch) (bytes : ℕ → UInt8) :
    Except OwnedRelativeBatchError (List OwnedRelativeApplyResult) × (ℕ → UInt8) :=
  match checkRelativeBatch memory host patches bytes with
  | .error e => (.error e, bytes)
  | .ok () =>
    let applied := batchFrom (writeRelativePatch memory) 0 patches bytes
    (applied.1.mapError relativeWriteFailure, applied.2)

end Batch

/-! ### The value of a patch -/

/-- A signed word from the unsigned word with the same bits. -/
theorem toInt_eq_toNat_toUInt64 (addend : Int64) :
    addend.toInt = if 2 * addend.toUInt64.toNat < 2 ^ 64 then (addend.toUInt64.toNat : ℤ)
      else addend.toUInt64.toNat - 2 ^ 64 :=
  BitVec.toInt_eq_toNat_cond addend.toBitVec

/-- **The relocated value is the load bias plus the addend**, and is refused where that is no
address. -/
theorem relocatedValue_eq_some {base value : UInt64} {addend : Int64}
    (h : relocatedValue base addend = some value) :
    (value.toNat : ℤ) = base.toNat + addend.toInt := by
  have hbase := base.toNat_lt
  have haddend := addend.toUInt64.toNat_lt
  have hsigned := toInt_eq_toNat_toUInt64 addend
  have hsign : 0 ≤ addend ↔ 0 ≤ addend.toInt := by rw [Int64.le_iff_toInt_le, Int64.toInt_zero]
  simp only [relocatedValue] at h
  split_ifs at h with hnonneg hover hunder
  · cases h
    rw [hsign, hsigned] at hnonneg
    rw [gt_u64Max_sub_iff] at hover
    rw [UInt64.toNat_add, hsigned]
    split_ifs at hnonneg ⊢ with hlt <;> omega
  · cases h
    rw [hsign, hsigned] at hnonneg
    have hmagnitude : ((-(addend + 1)).toUInt64 + 1).toNat = 2 ^ 64 - addend.toUInt64.toNat := by
      have hone : (1 : Int64).toUInt64.toNat = 1 := rfl
      rw [UInt64.toNat_add, Int64.toUInt64_neg, UInt64.toNat_neg, Int64.toUInt64_add,
        UInt64.toNat_add, hone, UInt64.toNat_one]
      show ((2 ^ 64 - (addend.toUInt64.toNat + 1) % 2 ^ 64) % 2 ^ 64 + 1) % 2 ^ 64 = _
      split_ifs at hnonneg with hlt <;> omega
    rw [UInt64.lt_iff_toNat_lt, hmagnitude] at hunder
    rw [UInt64.toNat_sub_of_le _ _ (UInt64.le_iff_toNat_le.mpr (by rw [hmagnitude]; omega)),
      hmagnitude, hsigned]
    split_ifs at hnonneg ⊢ with hlt <;> omega

/-! ### What the checks establish -/

/-- The bytes of a patch and where they go. -/
def OwnedRelativePatch.toPatch (patch : OwnedRelativePatch) : Patch :=
  (patch.target.toNat, patch.bytes.toList)

/-- What is reported for a patch. -/
def OwnedRelativePatch.applied (patch : OwnedRelativePatch) : OwnedRelativeApplyResult :=
  ⟨patch.target, patch.relocatedValue⟩

variable {patch : OwnedRelativePatch} {patches : List OwnedRelativePatch}

theorem OwnedRelativePatch.hits_toPatch {x : ℕ} :
    patch.toPatch.Hits x ↔ patch.target.toNat ≤ x ∧ x < patch.target.toNat + 8 := by
  simp [Patch.Hits, OwnedRelativePatch.toPatch]

/-- A patch that was built again and found the same. -/
structure CanonicalPatch (patch : OwnedRelativePatch) : Prop where
  fits : patch.target.toNat + 8 ≤ 2 ^ 64
  value : (leValue patch.bytes.toList : ℤ) = patch.loadBias.toNat + patch.rawAddend.toInt

theorem canonicalPatch_of_build {index : ℕ}
    (h : buildOwnedX8664RelativePatch (canonicalRecord patch index) patch.loadBias = .ok patch) :
    CanonicalPatch patch := by
  simp only [buildOwnedX8664RelativePatch, bind_eq_ok, refuseIf_eq_ok, mapError_eq_ok,
    orRefuse_eq_ok, pure_eq_ok] at h
  obtain ⟨-, -, -, -, -, -, addend, haddend, range, hrange, value, hvalue, hpatch⟩ := h
  cases haddend
  constructor
  · obtain ⟨hbase, hsize⟩ := GuestRange.create_eq_ok hrange
    have hwrap := range.noWrap
    rw [hbase, hsize] at hwrap
    exact hwrap
  · have hbytes : patch.bytes = le64Bytes value := by rw [← hpatch]
    rw [hbytes, toList_le64Bytes, leValue_leBytes_of_lt (by exact value.toNat_lt),
      relocatedValue_eq_some hvalue]
    rfl

/-- What the checks of a batch establish, but for the comparison of the targets. -/
structure CheckedPatches (memory : GuestMemoryAccess) (patches : List OwnedRelativePatch) :
    Prop where
  canonical : ∀ patch ∈ patches, CanonicalPatch patch
  writable : ∀ patch ∈ patches, ∃ validated, memory.preflightWrite patch.target 8 = .ok validated
  readable : ∀ patch ∈ patches, ∃ validated, memory.validate patch.target 8 .read = .ok validated

theorem checkedPatches_of_forM {memory : GuestMemoryAccess} {bytes : ℕ → UInt8}
    (h : patches.zipIdx.forM (checkRelativePatch memory bytes) = .ok ()) :
    CheckedPatches memory patches := by
  have hturns : ∀ patch ∈ patches, CanonicalPatch patch ∧
    (∃ validated, memory.preflightWrite patch.target 8 = .ok validated) ∧
      ∃ validated, memory.validate patch.target 8 .read = .ok validated := by
    intro patch hpatch
    obtain ⟨index, hindex⟩ := List.mem_iff_getElem?.mp hpatch
    have hturn := forM_zipIdx_eq_ok.mp h index patch hindex
    simp only [checkRelativePatch, GuestMemoryAccess.read, bind_eq_ok, refuseIf_eq_ok,
      mapError_eq_ok, not_not] at hturn
    obtain ⟨-, hbuild, validated, hwritable, _, ⟨validated', hreadable, -⟩, -⟩ := hturn
    exact ⟨canonicalPatch_of_build hbuild, ⟨validated, hwritable⟩, validated', hreadable⟩
  exact ⟨fun patch hpatch => (hturns patch hpatch).1, fun patch hpatch => (hturns patch hpatch).2.1,
    fun patch hpatch => (hturns patch hpatch).2.2⟩

/-- A patch that may be written and read is written, and read back as it is. -/
theorem writeRelativePatch_of_checked {memory : GuestMemoryAccess} {validated validated' : UInt64}
    (hwritable : memory.preflightWrite patch.target 8 = .ok validated)
    (hreadable : memory.validate patch.target 8 .read = .ok validated') (bytes : ℕ → UInt8) :
    writeRelativePatch memory patch bytes =
      (.ok patch.applied, store bytes patch.toPatch.1 patch.toPatch.2) := by
  have hstored : load (store bytes patch.target.toNat patch.bytes.toList) patch.target.toNat 8 =
      patch.bytes.toList := by
    have hload : load (storeAll bytes [patch.toPatch]) patch.toPatch.1 patch.toPatch.2.length =
        patch.toPatch.2 :=
      load_storeAll (List.pairwise_singleton _ _) (List.mem_singleton_self _) bytes
    rwa [OwnedRelativePatch.toPatch, Vector.length_toList] at hload
  have hread : memory.read (store bytes patch.target.toNat patch.bytes.toList) patch.target 8 =
      .ok patch.bytes.toList := by
    unfold GuestMemoryAccess.read
    rw [show UInt64.ofNat 8 = 8 from rfl, hreadable]
    exact congrArg Except.ok hstored
  unfold writeRelativePatch applyOwnedRelativePatch
  rw [GuestMemoryAccess.applyPatch_of_preflightWrite hwritable]
  simp only [hread]
  rw [if_neg (not_not.mpr rfl)]
  rfl

/-- **A batch is refused before the first write, or goes through to the end.** -/
theorem applyOwnedRelativeBatch_cases (memory : GuestMemoryAccess) (host : Host)
    (patches : List OwnedRelativePatch) (bytes : ℕ → UInt8) :
    (∃ e, applyOwnedRelativeBatch memory host patches bytes = (.error e, bytes)) ∨
    CheckedPatches memory patches ∧ compareNeighbours (orderedTargets patches) = .ok () ∧
      applyOwnedRelativeBatch memory host patches bytes =
        (.ok (patches.map OwnedRelativePatch.applied),
          storeAll bytes (patches.map OwnedRelativePatch.toPatch)) := by
  unfold applyOwnedRelativeBatch
  cases hcheck : checkRelativeBatch memory host patches bytes with
  | error e => exact .inl ⟨e, rfl⟩
  | ok u =>
    simp only [checkRelativeBatch, bind_eq_ok] at hcheck
    obtain ⟨-, -, -, -, ⟨⟩, hpatches, hneighbours⟩ := hcheck
    have hchecked := checkedPatches_of_forM hpatches
    have hstep : ∀ patch ∈ patches, ∀ bytes, writeRelativePatch memory patch bytes =
        (.ok patch.applied, store bytes patch.toPatch.1 patch.toPatch.2) := by
      intro patch hpatch bytes
      obtain ⟨validated, hwritable⟩ := hchecked.writable patch hpatch
      obtain ⟨validated', hreadable⟩ := hchecked.readable patch hpatch
      exact writeRelativePatch_of_checked hwritable hreadable bytes
    have hbatch := batchFrom_of_forall hstep 0 bytes
    refine .inr ⟨hchecked, hneighbours, ?_⟩
    simp only [hbatch, storeAll_map]
    rfl

/-! ### Neighbours -/

/-- Two targets of eight bytes that are apart. -/
def TargetsApart (base other : UInt64) : Prop :=
  base.toNat + 8 ≤ other.toNat ∨ other.toNat + 8 ≤ base.toNat

/-- Sorted targets whose ends do not wrap are apart when neighbours are, by induction on the
targets. -/
theorem pairwise_of_compareNeighbours {targets : List RelativeTarget}
    (h : compareNeighbours targets = .ok ())
    (hsorted : targets.Pairwise fun lower upper => lower.base.toNat ≤ upper.base.toNat)
    (hends : ∀ target ∈ targets, target.base.toNat + 8 < 2 ^ 64) :
    targets.Pairwise fun lower upper => lower.base.toNat + 8 ≤ upper.base.toNat := by
  induction targets with
  | nil => exact List.Pairwise.nil
  | cons lower targets ih =>
    cases targets with
    | nil => exact List.pairwise_singleton _ _
    | cons upper rest =>
      simp only [compareNeighbours, bind_eq_ok, refuseIf_eq_ok] at h
      obtain ⟨-, hneighbour, hrest⟩ := h
      rw [List.pairwise_cons] at hsorted
      rw [List.forall_mem_cons] at hends
      have hlater := ih hrest hsorted.2 hends.2
      have hupper : lower.base.toNat + 8 ≤ upper.base.toNat := by
        have hend := hends.1
        have hwidth : (8 : UInt64).toNat = 8 := rfl
        rw [UInt64.lt_iff_toNat_lt, UInt64.toNat_add, hwidth] at hneighbour
        omega
      rw [List.pairwise_cons]
      refine ⟨?_, hlater⟩
      intro target htarget
      rcases List.mem_cons.mp htarget with rfl | htarget
      · exact hupper
      · have hnext := (List.pairwise_cons.mp hlater).1 target htarget
        omega

theorem map_base_orderedTargets_perm (patches : List OwnedRelativePatch) :
    ((orderedTargets patches).map RelativeTarget.base).Perm
      (patches.map fun patch => patch.target.value) := by
  refine ((List.mergeSort_perm _ _).map _).trans ?_
  rw [List.map_map]
  have hfst : patches.map (fun patch => patch.target.value) =
      (patches.zipIdx.map Prod.fst).map fun patch =>
        patch.target.value := by rw [List.zipIdx_map_fst]
  rw [hfst, List.map_map]
  exact List.Perm.refl _

theorem orderedTargets_sorted (patches : List OwnedRelativePatch) :
    (orderedTargets patches).Pairwise fun lower upper => lower.base.toNat ≤ upper.base.toNat := by
  have hsorted : (orderedTargets patches).Pairwise fun lhs rhs =>
      decide (lhs.base ≤ rhs.base) = true := by
    refine List.pairwise_mergeSort ?_ ?_ _
    · intro a b c hab hbc
      simp only [decide_eq_true_eq, UInt64.le_iff_toNat_le] at *
      omega
    · intro a b
      simp only [Bool.or_eq_true, decide_eq_true_eq, UInt64.le_iff_toNat_le]
      omega
  refine hsorted.imp ?_
  intro lower upper hle
  rwa [decide_eq_true_eq, UInt64.le_iff_toNat_le] at hle

/-- **Targets that were compared are apart** when none ends at the top. -/
theorem disjoint_of_compareNeighbours (h : compareNeighbours (orderedTargets patches) = .ok ())
    (hends : ∀ patch ∈ patches, patch.target.toNat + 8 < 2 ^ 64) :
    (patches.map OwnedRelativePatch.toPatch).Pairwise Patch.Disjoint := by
  have hperm := map_base_orderedTargets_perm patches
  have hends' : ∀ target ∈ orderedTargets patches, target.base.toNat + 8 < 2 ^ 64 := by
    intro target htarget
    have hmem := hperm.mem_iff.mp (List.mem_map_of_mem htarget)
    obtain ⟨patch, hpatch, hvalue⟩ := List.mem_map.mp hmem
    rw [← hvalue]
    exact hends patch hpatch
  have hordered := pairwise_of_compareNeighbours h (orderedTargets_sorted patches) hends'
  have hbases : ((orderedTargets patches).map RelativeTarget.base).Pairwise TargetsApart :=
    List.pairwise_map.mpr (hordered.imp fun hle => .inl hle)
  have hvalues := (hperm.pairwise_iff fun hapart => Or.symm hapart).mp hbases
  rw [List.pairwise_map] at hvalues ⊢
  refine hvalues.imp ?_
  intro patch other hapart x hx
  rw [OwnedRelativePatch.hits_toPatch, OwnedRelativePatch.hits_toPatch] at hx
  change patch.target.toNat + 8 ≤ other.target.toNat ∨
    other.target.toNat + 8 ≤ patch.target.toNat at hapart
  omega

/-! ### The batch -/

/-- What a batch of relative relocations is for: the targets are apart, each holds its load bias
plus its addend, and no other byte has changed. -/
structure Relocated (patches : List OwnedRelativePatch) (before after : ℕ → UInt8) : Prop where
  disjoint : (patches.map OwnedRelativePatch.toPatch).Pairwise Patch.Disjoint
  holds : ∀ patch ∈ patches, (leValue (load after patch.target.toNat 8) : ℤ) =
    patch.loadBias.toNat + patch.rawAddend.toInt
  frame : ∀ x, (∀ patch ∈ patches, ¬ (patch.target.toNat ≤ x ∧ x < patch.target.toNat + 8)) →
    after x = before x

/-- **A batch that succeeds has relocated.** On every memory that a host prepared, and for every
list of patches, the targets of a batch that succeeds are apart, each holds its own value, and
nothing else has changed; a batch that is refused has changed nothing. -/
theorem relativeBatch_relocates (host : Host) {memory : GuestMemoryAccess}
    (hprepared : PreparedAccess memory) (patches : List OwnedRelativePatch) (bytes : ℕ → UInt8) :
    (∀ results, (applyOwnedRelativeBatch memory host patches bytes).1 = .ok results →
      Relocated patches bytes (applyOwnedRelativeBatch memory host patches bytes).2) ∧
    ∀ e, (applyOwnedRelativeBatch memory host patches bytes).1 = .error e →
      (applyOwnedRelativeBatch memory host patches bytes).2 = bytes := by
  rcases applyOwnedRelativeBatch_cases memory host patches bytes with
    ⟨e, hresult⟩ | ⟨hchecked, hneighbours, hresult⟩
  · rw [hresult]
    exact ⟨nofun, fun _ _ => rfl⟩
  · rw [hresult]
    refine ⟨fun results _ => ?_, nofun⟩
    have hends : ∀ patch ∈ patches, patch.target.toNat + 8 < 2 ^ 64 := by
      intro patch hpatch
      obtain ⟨validated, hwritable⟩ := hchecked.writable patch hpatch
      exact (hprepared.le_lastPage (by decide) hwritable).trans_lt (by decide)
    have hdisjoint := disjoint_of_compareNeighbours hneighbours hends
    have hwritten := written_storeAll hdisjoint bytes
    refine ⟨hdisjoint, ?_, ?_⟩
    · intro patch hpatch
      have hload := hwritten.holds patch.toPatch (List.mem_map_of_mem hpatch)
      rw [OwnedRelativePatch.toPatch, Vector.length_toList] at hload
      rw [hload, (hchecked.canonical patch hpatch).value]
    · intro x hx
      refine hwritten.frame x ?_
      intro p hp
      obtain ⟨patch, hpatch, rfl⟩ := List.mem_map.mp hp
      rw [OwnedRelativePatch.hits_toPatch]
      exact hx patch hpatch

/-- Three words of data to relocate, not in the order of their targets, one with a negative addend.
-/
def dataPatches : List OwnedRelativePatch :=
  [⟨⟨0x2010⟩, ⟨0x1000⟩, 8, ⟨0x1008⟩, le64Bytes 0x1008⟩,
    ⟨⟨0x2000⟩, ⟨0x3000⟩, -0x1000, ⟨0x2000⟩, le64Bytes 0x2000⟩,
    ⟨⟨0x2008⟩, ⟨0x1000⟩, 0, ⟨0x1000⟩, le64Bytes 0x1000⟩]

theorem checkRelativeBatch_dataPatches :
    checkRelativeBatch (.ofLinux dataImage dataPrepared) Host.plentiful dataPatches (fun _ => 0) =
      .ok () := by
  have hordered : orderedTargets dataPatches = [⟨0x2000, 1⟩, ⟨0x2008, 2⟩, ⟨0x2010, 0⟩] := by
    have hplaces : dataPatches.zipIdx.map
        (fun place => (⟨place.1.target.value, place.2⟩ : RelativeTarget)) =
          [⟨0x2010, 0⟩, ⟨0x2000, 1⟩, ⟨0x2008, 2⟩] := rfl
    rw [orderedTargets, hplaces]
    simp [List.mergeSort, List.MergeSort.Internal.splitInTwo]
  unfold checkRelativeBatch
  rw [hordered]
  decide +kernel

/-- A batch of three patches, over memory that Linux prepared: two of the targets touch. -/
theorem relativeBatch_relocates_dataPatches :
    (applyOwnedRelativeBatch (.ofLinux dataImage dataPrepared) Host.plentiful dataPatches
        fun _ => 0).1 = .ok (dataPatches.map OwnedRelativePatch.applied) ∧
      Relocated dataPatches (fun _ => 0)
        (applyOwnedRelativeBatch (.ofLinux dataImage dataPrepared) Host.plentiful dataPatches
          fun _ => 0).2 := by
  obtain ⟨mem, hprepared⟩ := prepareLinux_dataImage
  have hok : (applyOwnedRelativeBatch (.ofLinux dataImage dataPrepared) Host.plentiful dataPatches
      fun _ => 0).1 = .ok (dataPatches.map OwnedRelativePatch.applied) := by
    rw [applyOwnedRelativeBatch, checkRelativeBatch_dataPatches]
    decide +kernel
  exact ⟨hok, (relativeBatch_relocates Host.plentiful (.linux userLinux_sparesLastPage hprepared)
    dataPatches fun _ => 0).1 _ hok⟩

end Astraea.Execution
