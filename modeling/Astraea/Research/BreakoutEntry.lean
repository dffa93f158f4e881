import Astraea.Loader.GuestImage
import Astraea.Research.OwnedCpuFlags

/-!
# The pinned entry

Before the tool runs a program, it looks at the first two instructions of its entry: `AND RSP, -16`
and a relative `CALL`. `interpret_pinned_breakout_entry` knows these two encodings and no other. It
works on the bytes of the image, without a decoder and without an address space, and says what the
two instructions come to, or which of its checks refused them.

Its flags and its branch target are found with other arithmetic than that of the owned interpreter.
`flagsAfterAnd_eq` and `signedRelativeTarget_eq` say that they are the same.
-/

namespace Astraea.Research

open Astraea.Base Astraea.Memory Astraea.Loader Astraea.Execution

/-! ### The initial context -/

/-- The flags at the entry. -/
def kSyntheticInitialRflags : UInt64 := 2

/-- `make_synthetic_initial_context`. -/
def makeSyntheticInitialContext (image : GuestImage) : GuestCpuContext :=
  { rsp := image.initialStack.rsp.value, rip := image.elf.header.entry,
    rflags := kSyntheticInitialRflags }

/-! ### Parts of the interpreter -/

/-- `source_is_executable`: one executable mapping has both the first and the last byte. -/
def sourceIsExecutable (image : GuestImage) (address byteCount : UInt64) : Bool :=
  if byteCount = 0 ∨ address > u64Max - (byteCount - 1) then false
  else
    let last := address + byteCount - 1
    image.mappings.any fun mapping =>
      mapping.permissions.has .execute && mapping.range.contains ⟨address⟩ &&
        mapping.range.contains ⟨last⟩

/-- `std::popcount` of an `unsigned`. -/
def popcount (value : UInt32) : ℕ := (List.range 32).countP fun i => value.toNat.testBit i

/-- `flags_after_and`. -/
def flagsAfterAnd (value : UInt64) : UInt64 :=
  let parityEven := popcount (value &&& 0xff).toUInt32 &&& 1 = 0
  (if parityEven then (1 : UInt64) <<< 2 else 0) |||
    (if value = 0 then (1 : UInt64) <<< 6 else 0) |||
    (if value &&& ((1 : UInt64) <<< 63) ≠ 0 then (1 : UInt64) <<< 7 else 0)

/-- `signed_relative_target`. -/
def signedRelativeTarget (nextRip : UInt64) (displacement : Int32) : Option UInt64 :=
  let delta := displacement.toInt64
  if delta < 0 then
    let magnitude := (-delta).toUInt64
    if nextRip < magnitude then none else some (nextRip - magnitude)
  else
    let magnitude := delta.toUInt64
    if nextRip > u64Max - magnitude then none else some (nextRip + magnitude)

/-- The flags that evidence tells of. -/
def kFlagMask : UInt64 :=
  (1 : UInt64) <<< 0 ||| (1 : UInt64) <<< 2 ||| (1 : UInt64) <<< 6 ||| (1 : UInt64) <<< 7 |||
    (1 : UInt64) <<< 11

/-- `AND RSP, -16`. -/
def kAndRsp : List UInt8 := [0x48, 0x83, 0xe4, 0xf0]

/-! ### The interpreter -/

/-- Why a research run stopped. -/
inductive BreakoutEntryStopError where
  | unavailableSourceBytes
  | unexpectedEntryEncoding
  | incorrectSyntheticContext
  | entryAddressOverflow
  | invalidGuestStack
  | targetAddressOverflow
  | targetNotExecutable
  | targetSourceUnavailable
  deriving DecidableEq

/-- What a step of a research run was seen to do. -/
structure BreakoutEntryStepEvidence where
  context : GuestCpuContext
  entryRip : UInt64
  initialRsp : UInt64
  returnRip : UInt64
  branchTarget : UInt64
  guestStackWriteAddress : UInt64
  guestStackReturnWord : List UInt8
  sourceInstructionBytes : List UInt8
  firstUninterpretedByte : UInt8
  knownRflagsMask : UInt64
  knownRflagsValue : UInt64
  interpretedInstructions : ℕ
  deriving DecidableEq

/-- The first part of `interpret_pinned_breakout_entry`: the bytes of the two instructions, and the
checks of the initial context. -/
def readPinnedEntry (image : GuestImage) :
    Except BreakoutEntryStopError (InitializedImageView × List UInt8) := do
  let entry := image.elf.header.entry
  refuseIf (sourceIsExecutable image entry 9 = false) .unavailableSourceBytes
  let sourceView ← image.initializedImageView.mapError fun _ =>
    BreakoutEntryStopError.unavailableSourceBytes
  let entrySpan ← (GuestRange.create ⟨entry⟩ ⟨9⟩).mapError fun _ =>
    BreakoutEntryStopError.unavailableSourceBytes
  let bytes ← (sourceView.copyBytes entrySpan 9).mapError fun _ =>
    BreakoutEntryStopError.unavailableSourceBytes
  refuseIf (bytes.take 4 ≠ kAndRsp ∨ bytes.getD 4 0 ≠ 0xe8) .unexpectedEntryEncoding
  let context := makeSyntheticInitialContext image
  refuseIf (context.rip ≠ entry ∨ context.rsp ≠ image.initialStack.rsp.value)
    .incorrectSyntheticContext
  refuseIf (entry > u64Max - 9) .entryAddressOverflow
  return (sourceView, bytes)

/-- The context after the `AND`. -/
def contextAfterAnd (context : GuestCpuContext) (entry : UInt64) : GuestCpuContext :=
  let rsp := context.rsp &&& ~~~0xf
  { context with
    rsp := rsp, rflags := (context.rflags &&& ~~~kFlagMask) ||| flagsAfterAnd rsp,
    rip := entry + 4 }

/-- `interpret_pinned_breakout_entry`. Nothing is committed before the target and the return slot
are checked. -/
def interpretPinnedBreakoutEntry (image : GuestImage) :
    Except BreakoutEntryStopError BreakoutEntryStepEvidence := do
  let (sourceView, bytes) ← readPinnedEntry image
  let entry := image.elf.header.entry
  let initial := makeSyntheticInitialContext image
  let returnRip := entry + 9
  let context := contextAfterAnd initial entry
  let displacement := (u32At bytes 5).toInt32
  let target ← orRefuse (signedRelativeTarget returnRip displacement)
    BreakoutEntryStopError.targetAddressOverflow
  refuseIf (sourceIsExecutable image target 1 = false) .targetNotExecutable
  let _probed ← (sourceView.readByte ⟨target⟩).mapError fun _ =>
    BreakoutEntryStopError.targetSourceUnavailable
  refuseIf (context.rsp < 8) .invalidGuestStack
  let returnSlot := context.rsp - 8
  refuseIf (image.initialStack.storage.contains ⟨returnSlot⟩ = false ∨
    image.initialStack.storage.contains ⟨returnSlot + 7⟩ = false) .invalidGuestStack
  let returnWord := leBytes 8 returnRip.toNat
  let nextByte ← (sourceView.readByte ⟨target⟩).mapError fun _ =>
    BreakoutEntryStopError.targetSourceUnavailable
  return {
    context := { context with rsp := returnSlot, rip := target }
    entryRip := entry
    initialRsp := initial.rsp
    returnRip := returnRip
    branchTarget := target
    guestStackWriteAddress := returnSlot
    guestStackReturnWord := returnWord
    sourceInstructionBytes := bytes
    firstUninterpretedByte := nextByte
    knownRflagsMask := kFlagMask
    knownRflagsValue := flagsAfterAnd context.rsp
    interpretedInstructions := 2 }

/-! ### The same arithmetic -/

section Arithmetic

variable {value nextRip : UInt64} {displacement : Int32}

theorem kFlagMask_eq : kFlagMask = kDefinedLogicFlags := by decide

theorem popcount_lowByte :
    popcount (value &&& 0xff).toUInt32 = (List.range 8).countP fun i => value.toNat.testBit i := by
  have hlow : (value &&& 0xff).toUInt32.toNat = value.toNat % 2 ^ 8 := by
    have hmask : (value &&& 0xff).toNat = value.toNat % 2 ^ 8 := by
      rw [UInt64.toNat_and]
      exact Nat.and_two_pow_sub_one_eq_mod value.toNat 8
    rw [UInt64.toNat_toUInt32, hmask]
    omega
  have hrange : List.range 32 = List.range 8 ++ (List.range 24).map (8 + ·) := @List.range_add 8 24
  rw [popcount, hlow, hrange, List.countP_append]
  have hhigh : ((List.range 24).map (8 + ·)).countP (fun i => (value.toNat % 2 ^ 8).testBit i) =
      0 := by
    rw [List.countP_eq_zero]
    intro i hi
    obtain ⟨j, -, rfl⟩ := List.mem_map.mp hi
    rw [Nat.testBit_mod_two_pow]
    simp
  rw [hhigh, Nat.add_zero]
  refine List.countP_congr fun i hi => ?_
  rw [Nat.testBit_mod_two_pow, decide_eq_true (List.mem_range.mp hi), Bool.true_and]

theorem flagsAfterAnd_eq : flagsAfterAnd value = logicAndFlags value := by
  have hparity : popcount (value &&& 0xff).toUInt32 &&& 1 = 0 ↔ evenParity value = true := by
    rw [popcount_lowByte, Nat.and_one_is_mod, evenParity, beq_iff_eq]
  rw [flagsAfterAnd, logicAndFlags]
  simp only [hparity]
  rfl

theorem signedRelativeTarget_eq :
    signedRelativeTarget nextRip displacement = addSigned nextRip displacement.toInt64 := by
  have hmagnitude : (-(displacement.toInt64 + 1)).toUInt64 + 1 =
      (-displacement.toInt64).toUInt64 := by
    rw [← UInt64.toBitVec_inj]
    change -(displacement.toInt64.toBitVec + 1) + 1 = -displacement.toInt64.toBitVec
    rw [BitVec.neg_add, BitVec.sub_add_cancel]
  rw [signedRelativeTarget, addSigned]
  simp only [hmagnitude]
  by_cases hneg : displacement.toInt64 < 0
  · rw [if_pos hneg, if_neg (Int64.not_le.mpr hneg)]
  · rw [if_neg hneg, if_pos (Int64.not_lt.mp hneg)]

end Arithmetic

/-! ### What the interpreter found -/

section Found

variable {image : GuestImage} {address byteCount : UInt64}

/-- An executable mapping from the first byte to the last. -/
theorem sourceIsExecutable_iff (hpos : 0 < byteCount.toNat) :
    sourceIsExecutable image address byteCount = true ↔
    address.toNat + byteCount.toNat ≤ 2 ^ 64 ∧
    ∃ mapping ∈ image.mappings, mapping.permissions.has .execute = true ∧
      ∀ x, address.toNat ≤ x → x < address.toNat + byteCount.toNat → x ∈ mapping.range := by
  have haddress := address.toNat_lt
  have hone : (1 : UInt64) ≤ byteCount := by
    rw [UInt64.le_iff_toNat_le]
    exact hpos
  have hpred : (byteCount - 1).toNat = byteCount.toNat - 1 := UInt64.toNat_sub_of_le _ _ hone
  have hzero : byteCount ≠ 0 := by
    rintro rfl
    exact absurd hpos (lt_irrefl 0)
  rw [sourceIsExecutable]
  by_cases hend : address > u64Max - (byteCount - 1)
  · rw [if_pos (.inr hend)]
    rw [gt_u64Max_sub_iff, hpred] at hend
    simp only [Bool.false_eq_true, false_iff, not_and]
    omega
  · rw [if_neg (not_or.mpr ⟨hzero, hend⟩)]
    rw [gt_u64Max_sub_iff, hpred] at hend
    have hlast : (address + byteCount - 1).toNat = address.toNat + byteCount.toNat - 1 := by
      rw [UInt64.toNat_sub, UInt64.toNat_add, UInt64.toNat_one]
      have := byteCount.toNat_lt
      omega
    simp only [List.any_eq_true, Bool.and_eq_true, GuestRange.contains_iff, GuestAddress.toNat,
      hlast, GuestRange.mem_def]
    constructor
    · rintro ⟨mapping, hmapping, ⟨hexecute, hfirst⟩, hfinal⟩
      refine ⟨by omega, mapping, hmapping, hexecute, ?_⟩
      intro x hlow hhigh
      omega
    · rintro ⟨-, mapping, hmapping, hexecute, hall⟩
      exact ⟨mapping, hmapping, ⟨hexecute, hall _ le_rfl (by omega)⟩, hall _ (by omega) (by omega)⟩

/-- The two instructions are at the entry, in one executable mapping. -/
structure PinnedEntry (image : GuestImage) (view : InitializedImageView) (rel : List UInt8) :
    Prop where
  source : image.initializedImageView = .ok view
  relLength : rel.length = 4
  noWrap : image.elf.header.entry.toNat + 9 < 2 ^ 64
  code : ∃ mapping ∈ image.mappings, mapping.permissions.has .execute = true ∧
    ∀ i < 9, image.elf.header.entry.toNat + i ∈ mapping.range ∧
      view.readByte ⟨image.elf.header.entry + UInt64.ofNat i⟩ =
        .ok ((kAndRsp ++ 0xe8 :: rel).getD i 0)

variable {bytes : List UInt8} {code : BreakoutEntryStopError}

theorem eq_pinned_of_take (hlength : bytes.length = 9) (htake : bytes.take 4 = kAndRsp)
    (hcall : bytes.getD 4 0 = 0xe8) :
    ∃ rel, rel.length = 4 ∧ bytes = kAndRsp ++ 0xe8 :: rel := by
  refine ⟨bytes.drop 5, by rw [List.length_drop]; omega, ?_⟩
  have hdrop : bytes.drop 4 = 0xe8 :: bytes.drop 5 := by
    rw [List.drop_eq_getElem_cons (by omega), ← hcall, List.getD_eq_getElem _ _ (by omega)]
  rw [← htake, ← hdrop, List.take_append_drop]

theorem readPinnedEntry_eq_ok {view : InitializedImageView}
    (h : readPinnedEntry image = .ok (view, bytes)) :
    ∃ rel, PinnedEntry image view rel ∧ bytes = kAndRsp ++ 0xe8 :: rel := by
  simp only [readPinnedEntry, bind_eq_ok, refuseIf_eq_ok, mapError_eq_ok, pure_eq_ok, Prod.mk.injEq]
    at h
  obtain ⟨_, hexecutable, found, hview, range, hrange, copied, hcopied, _, hencoding, _, -, _, hend,
    rfl, rfl⟩ := h
  rw [gt_u64Max_sub_iff] at hend
  rw [Bool.not_eq_false, sourceIsExecutable_iff (by decide)] at hexecutable
  rw [not_or, not_not, not_not] at hencoding
  obtain ⟨hbase, hsize⟩ := GuestRange.create_eq_ok hrange
  obtain ⟨-, hlength, hread⟩ := InitializedImageView.copyBytes_eq_ok hcopied
  obtain ⟨-, mapping, hmapping, hexecute, hall⟩ := hexecutable
  have hnine : ((9 : UInt64)).toNat = 9 := rfl
  have hbase' : range.base.toNat =
    image.elf.header.entry.toNat := by rw [hbase, GuestAddress.toNat_mk]
  have hsize' : range.size.toNat = 9 := by rw [hsize]; rfl
  rw [hnine] at hend hall
  obtain ⟨rel, hrel, rfl⟩ := eq_pinned_of_take (hlength.trans hsize') hencoding.1 hencoding.2
  refine ⟨rel, ⟨hview, hrel, by omega, mapping, hmapping, hexecute, ?_⟩, rfl⟩
  intro i hi
  have haddress : (GuestAddress.mk (image.elf.header.entry + UInt64.ofNat i)).toNat =
      image.elf.header.entry.toNat + i := by
    rw [GuestAddress.toNat_mk, UInt64.toNat_add, toNat_ofNat_of_lt (by omega)]
    omega
  refine ⟨hall _ (by omega) (by omega), ?_⟩
  rw [hread _ (by rw [GuestRange.mem_def, GuestRange.last]; omega), haddress, hbase',
    Nat.add_sub_cancel_left]

/-- The displacement of the `CALL` is in the bytes after the first five. -/
theorem u32At_pinned (rel : List UInt8) : u32At (kAndRsp ++ 0xe8 :: rel) 5 = u32At rel 0 := rfl

/-- The eight bytes below an address are in the stack storage. -/
def StoresBelow (storage : GuestRange) (rsp : UInt64) : Prop :=
  8 ≤ rsp.toNat ∧ storage.base.toNat + 8 ≤ rsp.toNat ∧ rsp.toNat ≤ storage.last

theorem storesBelow_iff {storage : GuestRange} {rsp : UInt64} : StoresBelow storage rsp ↔
    ¬ rsp < 8 ∧ ¬ (storage.contains ⟨rsp - 8⟩ = false ∨
      storage.contains ⟨rsp - 8 + 7⟩ = false) := by
  have hrsp := rsp.toNat_lt
  have height : ((8 : UInt64)).toNat = 8 := rfl
  have hseven : ((7 : UInt64)).toNat = 7 := rfl
  rw [StoresBelow, UInt64.not_lt, UInt64.le_iff_toNat_le, height]
  refine and_congr_right fun hle => ?_
  have hslot : (rsp - 8).toNat = rsp.toNat - 8 :=
    UInt64.toNat_sub_of_le _ _ (UInt64.le_iff_toNat_le.mpr hle)
  have hlast : (rsp - 8 + 7).toNat = rsp.toNat - 1 := by
    rw [UInt64.toNat_add, hslot, hseven]
    omega
  simp only [not_or, Bool.not_eq_false, GuestRange.contains_iff, GuestAddress.toNat, hslot, hlast,
    GuestRange.mem_def]
  omega

/-- The context after the `AND` at the entry. -/
def entryAfterAnd (image : GuestImage) : GuestCpuContext :=
  contextAfterAnd (makeSyntheticInitialContext image) image.elf.header.entry

/-- What is checked of the `CALL` before it is committed. -/
structure PinnedCall (image : GuestImage) (view : InitializedImageView) (rel : List UInt8)
    (target : UInt64) : Prop where
  branch : signedRelativeTarget (image.elf.header.entry + 9) (u32At rel 0).toInt32 = some target
  executable : sourceIsExecutable image target 1 = true
  readable : ∃ byte, view.readByte ⟨target⟩ = .ok byte
  stack : StoresBelow image.initialStack.storage (entryAfterAnd image).rsp

/-- An entry that is accepted: the call passes its checks, and the evidence says what it comes to.
-/
theorem interpretPinnedBreakoutEntry_eq_ok {evidence : BreakoutEntryStepEvidence}
    (h : interpretPinnedBreakoutEntry image = .ok evidence) :
    ∃ view rel target, PinnedEntry image view rel ∧ PinnedCall image view rel target ∧
      evidence.context = { entryAfterAnd image with
        rsp := (entryAfterAnd image).rsp - 8, rip := target } ∧
      evidence.guestStackWriteAddress = (entryAfterAnd image).rsp - 8 ∧
      evidence.guestStackReturnWord = wordBytes (image.elf.header.entry + 9) ∧
      evidence.knownRflagsMask = kFlagMask ∧
      evidence.knownRflagsValue = flagsAfterAnd (entryAfterAnd image).rsp := by
  simp only [interpretPinnedBreakoutEntry, bind_eq_ok, refuseIf_eq_ok, orRefuse_eq_ok,
    mapError_eq_ok, pure_eq_ok] at h
  obtain ⟨⟨view, bytes⟩, hread, target, htarget, _, hexecutable, byte, hbyte, _, hrsp, _, hslot, -,
    -, rfl⟩ := h
  obtain ⟨rel, hentry, rfl⟩ := readPinnedEntry_eq_ok hread
  rw [u32At_pinned] at htarget
  rw [Bool.not_eq_false] at hexecutable
  exact ⟨view, rel, target, hentry,
    ⟨htarget, hexecutable, ⟨byte, hbyte⟩, storesBelow_iff.mpr ⟨hrsp, hslot⟩⟩, rfl, rfl, rfl, rfl,
    rfl⟩

/-- The refusals of the `CALL` that are about its target and the stack. -/
inductive CallRefused (image : GuestImage) (rel : List UInt8) : BreakoutEntryStopError → Prop
  | overflow (h : signedRelativeTarget (image.elf.header.entry + 9) (u32At rel 0).toInt32 = none) :
      CallRefused image rel .targetAddressOverflow
  | notExecutable {target : UInt64}
      (htarget : signedRelativeTarget (image.elf.header.entry + 9) (u32At rel 0).toInt32 =
        some target)
      (h : sourceIsExecutable image target 1 = false) : CallRefused image rel .targetNotExecutable
  | stack (h : ¬ StoresBelow image.initialStack.storage (entryAfterAnd image).rsp) :
      CallRefused image rel .invalidGuestStack

theorem readPinnedEntry_eq_error (h : readPinnedEntry image = .error code) :
    code ∈ [.unavailableSourceBytes, .unexpectedEntryEncoding, .incorrectSyntheticContext,
      .entryAddressOverflow] := by
  simp only [readPinnedEntry, bind_eq_error, refuseIf_eq_error, mapError_eq_error, pure_ne_error,
    and_false, exists_false, or_false] at h
  rcases h with ⟨-, rfl⟩ | ⟨_, -,
    ⟨_, -, rfl⟩ | ⟨_, -, ⟨_, -, rfl⟩ | ⟨_, -,
    ⟨_, -, rfl⟩ | ⟨_, -, ⟨-, rfl⟩ | ⟨_, -, ⟨-, rfl⟩ | ⟨_, -, -, rfl⟩⟩⟩⟩⟩⟩ <;> simp

/-- An entry that is refused for its target or for the stack has the two instructions. -/
theorem interpretPinnedBreakoutEntry_eq_error (h : interpretPinnedBreakoutEntry image = .error code)
    (hcode : code ∈ [.targetAddressOverflow, .targetNotExecutable, .invalidGuestStack]) :
    ∃ view rel, PinnedEntry image view rel ∧ CallRefused image rel code := by
  simp only [interpretPinnedBreakoutEntry, bind_eq_error, refuseIf_eq_error, orRefuse_eq_error,
    mapError_eq_error, refuseIf_eq_ok, orRefuse_eq_ok, mapError_eq_ok, pure_ne_error, and_false,
    exists_false, or_false] at h
  rcases h with h | ⟨⟨view, bytes⟩, hread, h⟩
  · have hother := readPinnedEntry_eq_error h
    simp only [List.mem_cons, List.not_mem_nil, or_false] at hcode hother
    rcases hcode with rfl | rfl | rfl <;> simp at hother
  · obtain ⟨rel, hentry, rfl⟩ := readPinnedEntry_eq_ok hread
    refine ⟨view, rel, hentry, ?_⟩
    rw [u32At_pinned] at h
    rcases h with ⟨hnone, rfl⟩ | ⟨target, htarget,
      ⟨hexecutable, rfl⟩ | ⟨_, -,
      ⟨_, -, rfl⟩ | ⟨_, -, ⟨hrsp, rfl⟩ | ⟨_, hrsp, ⟨hslot, rfl⟩ | ⟨_, -, _, -, rfl⟩⟩⟩⟩⟩
    · exact .overflow hnone
    · exact .notExecutable htarget hexecutable
    · simp at hcode
    · exact .stack fun hstores => (storesBelow_iff.mp hstores).1 hrsp
    · exact .stack fun hstores => (storesBelow_iff.mp hstores).2 hslot
    · simp at hcode

end Found

end Astraea.Research
