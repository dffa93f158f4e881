import Astraea.Base.Borrow
import Astraea.Base.Check
import Astraea.Base.LittleEndian
import Astraea.Base.Word
import Mathlib.Algebra.BigOperators.Group.List.Basic

/-!
# The code of the hello probe

The hello probe is a program of eight instructions: it writes a message through a gate, compares
what the gate returns with the length of the message, and leaves through a second gate with 42.
Where the comparison fails, or the second gate comes back, it runs into a `UD2`. `build_probe_code`
puts the instructions into bytes. The calls are relative, so that a gate may be too far away.

The encodings are also decoded here. `disassemble_assemble` says that instructions that fit their
encodings are read back from their bytes, and `buildProbeCode_eq_ok_iff` that the emitter assembles
`probeProgram` exactly if both gates are in reach.
-/

namespace Astraea.Probe

open Astraea.Base

/-! ### The instructions -/

/-- The instructions of the probe. Targets are addresses. -/
inductive ProbeInstruction where
  | movRdi (value : UInt64)
  | movRsi (value : UInt64)
  | call (target : UInt64)
  | cmpRax (value : UInt64)
  | jne (target : UInt64)
  | ud2
  deriving DecidableEq

namespace ProbeInstruction

/-- How many bytes the encoding has. -/
def size : ProbeInstruction → ℕ
  | movRdi _ => 10
  | movRsi _ => 10
  | call _ => 5
  | cmpRax _ => 4
  | jne _ => 2
  | ud2 => 2

/-- How far a target is from the instruction behind the one at an address. -/
def distance (address target : UInt64) (size : ℕ) : ℤ := target.toNat - (address.toNat + size)

/-- The encoding at an address. -/
def encode (address : UInt64) : ProbeInstruction → List UInt8
  | movRdi value => [0x48, 0xbf] ++ leBytes 8 value.toNat
  | movRsi value => [0x48, 0xbe] ++ leBytes 8 value.toNat
  | call target => [0xe8] ++ leBytes 4 (distance address target 5 % 2 ^ 32).toNat
  | cmpRax value => [0x48, 0x83, 0xf8] ++ leBytes 1 value.toNat
  | jne target => [0x75] ++ leBytes 1 (distance address target 2 % 2 ^ 8).toNat
  | ud2 => [0x0f, 0x0b]

/-- The operand has room in the encoding. -/
def Fits (address : UInt64) : ProbeInstruction → Prop
  | call target => SignedFits 32 (distance address target 5)
  | cmpRax value => value.toNat < 2 ^ 7
  | jne target => SignedFits 8 (distance address target 2)
  | _ => True

/-- The instruction in front of some bytes, with its size. A relative target is counted from the
instruction behind. -/
def decode (address : UInt64) (bytes : List UInt8) : Option (ProbeInstruction × ℕ) :=
  if bytes.take 2 = [0x48, 0xbf] ∧ 10 ≤ bytes.length then some (movRdi (u64At bytes 2), 10)
  else if bytes.take 2 = [0x48, 0xbe] ∧ 10 ≤ bytes.length then some (movRsi (u64At bytes 2), 10)
  else if bytes.take 1 = [0xe8] ∧ 5 ≤ bytes.length then
    some (call (UInt64.ofInt (address.toNat + 5 + signedOf 32 (leAt 4 bytes 1))), 5)
  else if bytes.take 3 = [0x48, 0x83, 0xf8] ∧ 4 ≤ bytes.length then
    some (cmpRax (UInt64.ofInt (signedOf 8 (leAt 1 bytes 3))), 4)
  else if bytes.take 1 = [0x75] ∧ 2 ≤ bytes.length then
    some (jne (UInt64.ofInt (address.toNat + 2 + signedOf 8 (leAt 1 bytes 1))), 2)
  else if bytes.take 2 = [0x0f, 0x0b] then some (ud2, 2)
  else none

end ProbeInstruction

/-- Instructions one behind the other, with their addresses. -/
def withAddresses : (address : UInt64) → List ProbeInstruction → List (UInt64 × ProbeInstruction)
  | _, [] => []
  | address, instruction :: program =>
    (address, instruction) :: withAddresses (address + UInt64.ofNat instruction.size) program

/-- Their bytes. -/
def assemble : (address : UInt64) → List ProbeInstruction → List UInt8
  | _, [] => []
  | address, instruction :: program =>
    instruction.encode address ++ assemble (address + UInt64.ofNat instruction.size) program

/-- The instructions that bytes are read as, with their addresses; at most `fuel` of them. -/
def disassembleFrom :
    (fuel : ℕ) → (address : UInt64) → List UInt8 → Option (List (UInt64 × ProbeInstruction))
  | _, _, [] => some []
  | 0, _, _ :: _ => none
  | fuel + 1, address, byte :: bytes => do
    let (instruction, size) ← ProbeInstruction.decode address (byte :: bytes)
    let program ← disassembleFrom fuel (address + UInt64.ofNat size) ((byte :: bytes).drop size)
    return (address, instruction) :: program

/-- The instructions that bytes are read as, all of them. -/
def disassemble (address : UInt64) (bytes : List UInt8) :
    Option (List (UInt64 × ProbeInstruction)) :=
  disassembleFrom bytes.length address bytes

/-! ### Reading back -/

section ReadBack

variable {address value target : UInt64} {rest : List UInt8}

theorem leAt_append_leBytes {width word : ℕ} (before rest : List UInt8) (h : word < 256 ^ width) :
    leAt width (before ++ (leBytes width word ++ rest)) before.length = word := by
  rw [leAt_append rfl, leAt_zero_leBytes_append h]

theorem u64At_append_leBytes (before rest : List UInt8) (value : UInt64) :
    u64At (before ++ (leBytes 8 value.toNat ++ rest)) before.length = value := by
  rw [u64At_eq_iff, leAt_append_leBytes before rest value.toNat_lt]

theorem ofInt_toNat (value : UInt64) : UInt64.ofInt value.toNat = value := by
  have hlt := value.toNat_lt
  rw [UInt64.ofInt, Int.emod_eq_of_lt (by omega) (by omega), Int.toNat_natCast, UInt64.ofNat_toNat]

theorem ofInt_distance {width : ℕ} (size : ℕ) (hwidth : 0 < width)
    (h : SignedFits width (ProbeInstruction.distance address target size)) :
    UInt64.ofInt (address.toNat + size +
      signedOf width (ProbeInstruction.distance address target size % 2 ^ width).toNat) =
        target := by
  rw [signedOf_emod hwidth h, ProbeInstruction.distance, add_sub_cancel, ofInt_toNat]

theorem ProbeInstruction.length_encode (address : UInt64) (instruction : ProbeInstruction) :
    (instruction.encode address).length = instruction.size := by
  cases instruction <;> simp [encode, size]

theorem toNat_emod_lt (d : ℤ) {width bits : ℕ} (h : 256 ^ width = 2 ^ bits) :
    (d % 2 ^ bits).toNat < 256 ^ width := by
  have hpos : (0 : ℤ) < ((2 ^ bits : ℕ) : ℤ) := Int.natCast_pos.mpr (Nat.two_pow_pos bits)
  have hlt := Int.emod_lt_of_pos d hpos
  rw [Int.natCast_pow, Nat.cast_ofNat] at hlt hpos
  rw [h, Int.toNat_lt (Int.emod_nonneg d (ne_of_gt hpos)), Int.natCast_pow]
  exact hlt

/-- **An instruction that fits is read back** from its encoding. -/
theorem ProbeInstruction.decode_encode {instruction : ProbeInstruction}
    (h : instruction.Fits address) (rest : List UInt8) :
    decode address (instruction.encode address ++ rest) = some (instruction, instruction.size) := by
  cases instruction with
  | movRdi value =>
    have hword := u64At_append_leBytes [0x48, 0xbf] rest value
    rw [encode, List.append_assoc, decode, if_pos ⟨rfl, by simp⟩]
    exact congrArg (fun value => some (movRdi value, 10)) hword
  | movRsi value =>
    have hword := u64At_append_leBytes [0x48, 0xbe] rest value
    rw [encode, List.append_assoc, decode, if_neg (by simp), if_pos ⟨rfl, by simp⟩]
    exact congrArg (fun value => some (movRsi value, 10)) hword
  | call target =>
    have hword := leAt_append_leBytes [0xe8] rest
      (toNat_emod_lt (distance address target 5) (show 256 ^ 4 = 2 ^ 32 by decide))
    rw [encode, List.append_assoc, decode, if_neg (by simp), if_neg (by simp),
      if_pos ⟨rfl, by simp⟩]
    rw [List.length_singleton] at hword
    rw [hword]
    exact congrArg (fun target => some (call target, 5)) (ofInt_distance 5 (by decide) h)
  | cmpRax value =>
    have hword := leAt_append_leBytes [0x48, 0x83, 0xf8] rest
      (show value.toNat < 256 ^ 1 from lt_trans h (by decide))
    rw [encode, List.append_assoc, decode, if_neg (by simp), if_neg (by simp), if_neg (by simp),
      if_pos ⟨rfl, by simp⟩]
    have hsigned : signedOf 8 value.toNat = value.toNat := if_pos h
    change leAt 1 _ 3 = _ at hword
    rw [hword, hsigned, ofInt_toNat]
    rfl
  | jne target =>
    have hword := leAt_append_leBytes [0x75] rest
      (toNat_emod_lt (distance address target 2) (show 256 ^ 1 = 2 ^ 8 by decide))
    rw [encode, List.append_assoc, decode, if_neg (by simp), if_neg (by simp), if_neg (by simp),
      if_neg (by simp), if_pos ⟨rfl, by simp⟩]
    rw [List.length_singleton] at hword
    rw [hword]
    exact congrArg (fun target => some (jne target, 2)) (ofInt_distance 2 (by decide) h)
  | ud2 =>
    rw [encode, decode, if_neg (by simp), if_neg (by simp), if_neg (by simp), if_neg (by simp),
      if_neg (by simp), if_pos (by simp)]
    rfl

theorem disassembleFrom_assemble {fuel : ℕ} {program : List ProbeInstruction}
    (h : ∀ placed ∈ withAddresses address program, placed.2.Fits placed.1)
    (hfuel : program.length ≤ fuel) :
    disassembleFrom fuel address (assemble address program) =
      some (withAddresses address program) := by
  induction program generalizing address fuel with
  | nil => cases fuel <;> rfl
  | cons instruction program ih =>
    rw [withAddresses, List.forall_mem_cons] at h
    rw [withAddresses, assemble]
    have hlength := instruction.length_encode address
    cases fuel with
    | zero => exact absurd hfuel (Nat.not_succ_le_zero _)
    | succ fuel =>
      have hdecode := ProbeInstruction.decode_encode h.1
        (assemble (address + UInt64.ofNat instruction.size) program)
      have hdrop :
        (instruction.encode address ++
        assemble (address + UInt64.ofNat instruction.size) program).drop
          instruction.size = assemble (address + UInt64.ofNat instruction.size) program := by
        rw [← hlength, List.drop_left]
      have hrest := ih h.2 (Nat.le_of_succ_le_succ hfuel)
      cases hbytes : instruction.encode address ++
        assemble (address + UInt64.ofNat instruction.size) program with
      | nil =>
        rw [hbytes] at hdecode
        cases hdecode
      | cons byte bytes =>
        rw [hbytes] at hdecode hdrop
        rw [disassembleFrom, hdecode, Option.bind_eq_bind, Option.bind_some]
        dsimp only
        rw [hdrop, hrest]
        rfl

theorem length_assemble (address : UInt64) (program : List ProbeInstruction) :
    (assemble address program).length = (program.map ProbeInstruction.size).sum := by
  induction program generalizing address with
  | nil => rfl
  | cons instruction program ih =>
    rw [assemble, List.length_append, instruction.length_encode, ih, List.map_cons, List.sum_cons]

theorem length_le_assemble (address : UInt64) (program : List ProbeInstruction) :
    program.length ≤ (assemble address program).length := by
  have hpos : ∀ size ∈ program.map ProbeInstruction.size, 1 ≤ size := by
    rintro size hsize
    obtain ⟨instruction, -, rfl⟩ := List.mem_map.mp hsize
    cases instruction <;> exact Nat.succ_pos _
  rw [length_assemble, ← List.length_map (f := ProbeInstruction.size)]
  exact List.length_le_sum_of_one_le _ hpos

/-- **Instructions are read back** from their bytes, if all of them fit. -/
theorem disassemble_assemble {program : List ProbeInstruction}
    (h : ∀ placed ∈ withAddresses address program, placed.2.Fits placed.1) :
    disassemble address (assemble address program) = some (withAddresses address program) :=
  disassembleFrom_assemble h (length_le_assemble address program)

end ReadBack

/-! ### The emitter -/

/-- `kProbeHelloMessage`, in ASCII. -/
def kProbeHelloMessage : List UInt8 :=
  ['H', 'e', 'l', 'l', 'o', ' ', 'f', 'r', 'o', 'm', ' ', 'g', 'u', 'e', 's', 't'].map fun c =>
    UInt8.ofNat c.toNat

/-- The bytes from one gate to the next. -/
def kSyntheticGateStride : UInt64 := 16

/-- Why a fixture cannot be built. -/
inductive ProbeHelloErrorCode where
  | invalidPageSize
  | unalignedGuestBase
  | guestAddressOverflow
  | relativeCallOutOfRange
  | hostSizeUnrepresentable
  | hostAllocationFailure
  deriving DecidableEq

/-- A fixture that cannot be built. -/
structure ProbeHelloError where
  code : ProbeHelloErrorCode
  hasGuestAddress : Bool := false
  guestAddress : UInt64 := 0
  deriving DecidableEq

/-- `append_u32`. -/
def appendU32 (bytes : List UInt8) (value : ℕ) : List UInt8 := bytes ++ leBytes 4 value

/-- `append_u64`. -/
def appendU64 (bytes : List UInt8) (value : UInt64) : List UInt8 := bytes ++ leBytes 8 value.toNat

/-- `append_mov_rdi_imm64`. -/
def appendMovRdiImm64 (code : List UInt8) (value : UInt64) : List UInt8 :=
  appendU64 (code ++ [0x48, 0xbf]) value

/-- `append_mov_rsi_imm64`. -/
def appendMovRsiImm64 (code : List UInt8) (value : UInt64) : List UInt8 :=
  appendU64 (code ++ [0x48, 0xbe]) value

/-- The operand of a call: how far the target is from the next instruction, if that has 32 bits. -/
def relativeTo (nextRip target : UInt64) : Option ℤ :=
  if target ≥ nextRip then
    let distance := target - nextRip
    if distance > 0x7fffffff then none else some distance.toNat
  else
    let distance := nextRip - target
    let minMagnitude := (1 : UInt64) <<< 31
    if distance > minMagnitude then none
    else if distance = minMagnitude then some (-2 ^ 31)
    else some (-distance.toNat)

/-- `append_call_rel32`. -/
def appendCallRel32 (code : List UInt8) (codeBase target : UInt64) : Option (List UInt8) :=
  let codeSize := UInt64.ofNat code.length
  if codeBase > u64Max - codeSize - 5 then none
  else do
    let relative ← relativeTo (codeBase + codeSize + 5) target
    -- the cast to an unsigned word wraps
    return appendU32 (code ++ [0xe8]) (relative % 2 ^ 32).toNat

/-- `build_probe_code`. -/
def buildProbeCode (codeBase dataBase gateBase : UInt64) : Except ProbeHelloError (List UInt8) := do
  let messageSize := UInt64.ofNat kProbeHelloMessage.length
  let code := appendMovRsiImm64 (appendMovRdiImm64 [] dataBase) messageSize
  let code ← orRefuse (appendCallRel32 code codeBase gateBase)
    (⟨.relativeCallOutOfRange, true, gateBase⟩ : ProbeHelloError)
  let code := code ++ [0x48, 0x83, 0xf8, messageSize.toUInt8]
  let branchOffset := code.length
  let code := appendMovRdiImm64 (code ++ [0x75, 0]) 42
  let exitGate := gateBase + kSyntheticGateStride
  refuseIf (exitGate < gateBase) ⟨.relativeCallOutOfRange, true, gateBase⟩
  let code ← orRefuse (appendCallRel32 code codeBase exitGate)
    (⟨.relativeCallOutOfRange, true, gateBase⟩ : ProbeHelloError)
  let failureOffset := code.length
  let branchNext := branchOffset + 2
  let branchDistance := failureOffset - branchNext
  refuseIf (branchDistance > 2 ^ 7 - 1) { code := .relativeCallOutOfRange }
  return code.set (branchOffset + 1) (UInt8.ofNat branchDistance) ++ [0x0f, 0x0b]

/-- The program of the probe. -/
def probeProgram (codeBase dataBase gateBase : UInt64) : List ProbeInstruction :=
  [.movRdi dataBase, .movRsi (UInt64.ofNat kProbeHelloMessage.length), .call gateBase,
    .cmpRax (UInt64.ofNat kProbeHelloMessage.length), .jne (codeBase + 46), .movRdi 42,
    .call (gateBase + kSyntheticGateStride), .ud2]

section Emitter

variable {code : List UInt8} {codeBase dataBase gateBase nextRip target : UInt64}

/-- The operand of a call is the distance, if that fits. -/
theorem relativeTo_eq_some_iff {relative : ℤ} :
    relativeTo nextRip target = some relative ↔
      SignedFits 32 (target.toNat - nextRip.toNat) ∧ relative = target.toNat - nextRip.toNat := by
  have hlimit : (0x7fffffff : UInt64).toNat = 2 ^ 31 - 1 := rfl
  have hmagnitude : ((1 : UInt64) <<< 31).toNat = 2 ^ 31 := by decide
  unfold relativeTo SignedFits
  dsimp only
  by_cases hforward : nextRip ≤ target
  · have hsub := UInt64.toNat_sub_of_le _ _ hforward
    have hle := UInt64.le_iff_toNat_le.mp hforward
    rw [if_pos hforward]
    split_ifs with hfar
    · rw [gt_iff_lt, UInt64.lt_iff_toNat_lt, hlimit, hsub] at hfar
      refine iff_of_false not_false ?_
      omega
    · rw [gt_iff_lt, UInt64.lt_iff_toNat_lt, hlimit, hsub] at hfar
      rw [Option.some.injEq, hsub]
      omega
  · have hbackward := UInt64.lt_iff_toNat_lt.mp (UInt64.not_le.mp hforward)
    have hsub := UInt64.toNat_sub_of_le _ _ (UInt64.le_of_lt (UInt64.not_le.mp hforward))
    rw [if_neg hforward]
    split_ifs with hfar hedge
    · rw [gt_iff_lt, UInt64.lt_iff_toNat_lt, hmagnitude, hsub] at hfar
      refine iff_of_false not_false ?_
      omega
    · rw [← UInt64.toNat_inj, hmagnitude, hsub] at hedge
      rw [Option.some.injEq]
      omega
    · rw [gt_iff_lt, UInt64.lt_iff_toNat_lt, hmagnitude, hsub] at hfar
      rw [Option.some.injEq, hsub]
      omega

theorem toNat_add_ofNat {n : ℕ} (h : codeBase.toNat + n < 2 ^ 64) :
    (codeBase + UInt64.ofNat n).toNat = codeBase.toNat + n := by
  rw [UInt64.toNat_add, toNat_ofNat_of_lt (by omega), Nat.mod_eq_of_lt h]

/-- A call is appended as its encoding, if the target is in reach. -/
theorem appendCallRel32_eq_some_iff {after : List UInt8}
    (h : codeBase.toNat + code.length + 5 < 2 ^ 64) :
    appendCallRel32 code codeBase target = some after ↔
      (ProbeInstruction.call target).Fits (codeBase + UInt64.ofNat code.length) ∧
        after = code ++ (ProbeInstruction.call target).encode
          (codeBase + UInt64.ofNat code.length) := by
  have h5 : (5 : UInt64).toNat = 5 := rfl
  have hsize : (UInt64.ofNat code.length).toNat = code.length := toNat_ofNat_of_lt (by omega)
  have hplace := @toNat_add_ofNat codeBase code.length (by omega)
  have hnext : (codeBase + UInt64.ofNat code.length + 5).toNat =
      codeBase.toNat + code.length + 5 := by
    rw [UInt64.toNat_add, hplace, h5, Nat.mod_eq_of_lt h]
  have hsizeLe : UInt64.ofNat code.length ≤ u64Max := by
    rw [UInt64.le_iff_toNat_le, hsize, toNat_u64Max]
    omega
  have hfree : (u64Max - UInt64.ofNat code.length).toNat = 2 ^ 64 - 1 - code.length := by
    rw [UInt64.toNat_sub_of_le _ _ hsizeLe, hsize, toNat_u64Max]
  have hroom : ¬ codeBase > u64Max - UInt64.ofNat code.length - 5 := by
    have hle : (5 : UInt64) ≤ u64Max - UInt64.ofNat code.length := by
      rw [UInt64.le_iff_toNat_le, hfree, h5]
      omega
    rw [gt_iff_lt, UInt64.lt_iff_toNat_lt, UInt64.toNat_sub_of_le _ _ hle, hfree, h5]
    omega
  have hdistance : ProbeInstruction.distance (codeBase + UInt64.ofNat code.length) target 5 =
      target.toNat - (codeBase + UInt64.ofNat code.length + 5).toNat := by
    rw [ProbeInstruction.distance, hplace, hnext]
    push_cast
    omega
  rw [appendCallRel32, if_neg hroom, Option.bind_eq_bind, Option.bind_eq_some_iff,
    ProbeInstruction.Fits, hdistance]
  constructor
  · rintro ⟨relative, hrelative, hafter⟩
    obtain ⟨hfits, rfl⟩ := relativeTo_eq_some_iff.mp hrelative
    refine ⟨hfits, ?_⟩
    rw [ProbeInstruction.encode, hdistance, ← List.append_assoc]
    exact (Option.some.inj hafter).symm
  · rintro ⟨hfits, rfl⟩
    refine ⟨_, relativeTo_eq_some_iff.mpr ⟨hfits, rfl⟩, ?_⟩
    rw [ProbeInstruction.encode, hdistance, ← List.append_assoc]
    rfl

theorem add_ofNat_add_ofNat (address : UInt64) (m n : ℕ) :
    address + UInt64.ofNat m + UInt64.ofNat n = address + UInt64.ofNat (m + n) := by
  rw [UInt64.add_assoc, ← UInt64.ofNat_add]

/-- The instructions of the program with their addresses. -/
theorem withAddresses_probeProgram (codeBase dataBase gateBase : UInt64) :
    withAddresses codeBase (probeProgram codeBase dataBase gateBase) =
      [(codeBase, .movRdi dataBase), (codeBase + 10, .movRsi 16), (codeBase + 20, .call gateBase),
        (codeBase + 25, .cmpRax 16), (codeBase + 29, .jne (codeBase + 46)),
          (codeBase + 31, .movRdi 42),
        (codeBase + 41, .call (gateBase + 16)), (codeBase + 46, .ud2)] := by
  simp only [probeProgram, withAddresses, ProbeInstruction.size, add_ofNat_add_ofNat]
  rfl

/-- The branch goes over the two instructions behind it. -/
theorem distance_branch (hroom : codeBase.toNat + 46 < 2 ^ 64) :
    ProbeInstruction.distance (codeBase + UInt64.ofNat 29) (codeBase + 46) 2 = 15 := by
  have h29 := @toNat_add_ofNat codeBase 29 (by omega)
  have h46 := @toNat_add_ofNat codeBase 46 hroom
  change (codeBase + 46).toNat = _ at h46
  rw [ProbeInstruction.distance, h29, h46]
  push_cast
  omega

/-- The two calls of the program are in reach of their gates. -/
structure GatesInReach (codeBase gateBase : UInt64) : Prop where
  write : (ProbeInstruction.call gateBase).Fits (codeBase + UInt64.ofNat 20)
  exit : (ProbeInstruction.call (gateBase + kSyntheticGateStride)).Fits (codeBase + UInt64.ofNat 41)
  stride : gateBase.toNat + 16 < 2 ^ 64

/-- With its gates in reach every instruction of the program fits. -/
theorem GatesInReach.fits (h : GatesInReach codeBase gateBase)
    (hroom : codeBase.toNat + 46 < 2 ^ 64) :
    ∀ placed ∈ withAddresses codeBase (probeProgram codeBase dataBase gateBase),
      placed.2.Fits placed.1 := by
  have hjne : (ProbeInstruction.jne (codeBase + 46)).Fits (codeBase + UInt64.ofNat 29) := by
    rw [ProbeInstruction.Fits, distance_branch hroom]
    exact ⟨by decide, by decide⟩
  have hcmp : (ProbeInstruction.cmpRax 16).Fits (codeBase + 25) :=
    show (16 : UInt64).toNat < 2 ^ 7 by decide
  rw [withAddresses_probeProgram]
  simp only [List.forall_mem_cons, List.not_mem_nil, false_imp_iff, implies_true, and_true]
  exact ⟨trivial, trivial, h.write, hcmp, hjne, trivial, h.exit, trivial⟩

/-- The bytes of the program, with the displacement of the branch. -/
theorem assemble_probeProgram (hroom : codeBase.toNat + 46 < 2 ^ 64) (dataBase gateBase : UInt64) :
    assemble codeBase (probeProgram codeBase dataBase gateBase) =
      appendMovRsiImm64 (appendMovRdiImm64 [] dataBase) 16 ++
        (ProbeInstruction.call gateBase).encode (codeBase + UInt64.ofNat 20) ++
          [0x48, 0x83, 0xf8, 16] ++
        (0x75 :: 15 :: (appendMovRdiImm64 [] 42 ++
          (ProbeInstruction.call (gateBase + kSyntheticGateStride)).encode
            (codeBase + UInt64.ofNat 41))) ++
        [0x0f, 0x0b] := by
  have hmessage : leBytes 8 (UInt64.ofNat kProbeHelloMessage.length).toNat =
    leBytes 8 (16 : UInt64).toNat := rfl
  have hcompare : leBytes 1 (UInt64.ofNat kProbeHelloMessage.length).toNat = [16] := by decide
  have hbranch : leBytes 1 ((15 : ℤ) % 2 ^ 8).toNat = [15] := by decide
  simp only [probeProgram, assemble, ProbeInstruction.size, add_ofNat_add_ofNat,
    ProbeInstruction.encode, distance_branch hroom, hmessage, hcompare, hbranch, appendMovRsiImm64,
    appendMovRdiImm64, appendU64]
  simp only [List.nil_append, List.append_assoc, List.cons_append, List.append_nil, Nat.reduceAdd]

theorem set_append_cons_cons {before rest : List UInt8} {i : ℕ} (h : before.length + 1 = i)
    (first second byte : UInt8) :
    (before ++ first :: second :: rest).set i byte = before ++ first :: byte :: rest := by
  subst h
  rw [List.set_append_right _ _ (Nat.le_add_right _ _), Nat.add_sub_cancel_left]
  rfl

theorem length_encode_call (target address : UInt64) :
    ((ProbeInstruction.call target).encode address).length = 5 :=
  (ProbeInstruction.call target).length_encode address

/-- What is behind the comparison, before the branch has its displacement. -/
theorem appendExit_eq_some_iff {middle after : List UInt8} (hmiddle : middle.length = 29)
    (hroom : codeBase.toNat + 46 < 2 ^ 64) :
    appendCallRel32 (appendMovRdiImm64 (middle ++ [0x75, 0]) 42) codeBase target = some after ↔
      (ProbeInstruction.call target).Fits (codeBase + UInt64.ofNat 41) ∧
        after = middle ++ 0x75 :: 0 :: (appendMovRdiImm64 [] 42 ++
          (ProbeInstruction.call target).encode (codeBase + UInt64.ofNat 41)) := by
  have hlength : (appendMovRdiImm64 (middle ++ [0x75, 0]) 42).length = 41 := by
    simp [appendMovRdiImm64, appendU64, hmiddle]
  have hsplit : ∀ rest, appendMovRdiImm64 (middle ++ [0x75, 0]) 42 ++ rest =
      middle ++ 0x75 :: 0 :: (appendMovRdiImm64 [] 42 ++ rest) := by
    intro rest
    simp [appendMovRdiImm64, appendU64]
  rw [appendCallRel32_eq_some_iff (by omega), hlength, hsplit]

theorem length_probeCode (codeBase dataBase gateBase : UInt64) :
    (assemble codeBase (probeProgram codeBase dataBase gateBase)).length = 48 := by
  rw [length_assemble]
  rfl

/-- **The emitter assembles the program**, exactly if both gates are in reach. -/
theorem buildProbeCode_eq_ok_iff (hroom : codeBase.toNat + 46 < 2 ^ 64) :
    buildProbeCode codeBase dataBase gateBase = .ok code ↔
      GatesInReach codeBase gateBase ∧
      code = assemble codeBase (probeProgram codeBase dataBase gateBase) := by
  have hfront : (appendMovRsiImm64 (appendMovRdiImm64 [] dataBase) 16).length = 20 := by
    simp [appendMovRsiImm64, appendMovRdiImm64, appendU64]
  have hwrite : ∀ after, appendCallRel32
    (appendMovRsiImm64 (appendMovRdiImm64 [] dataBase) 16) codeBase gateBase = some after ↔
      (ProbeInstruction.call gateBase).Fits (codeBase + UInt64.ofNat 20) ∧
        after = appendMovRsiImm64 (appendMovRdiImm64 [] dataBase) 16 ++
          (ProbeInstruction.call gateBase).encode (codeBase + UInt64.ofNat 20) := by
    intro after
    rw [appendCallRel32_eq_some_iff (by omega), hfront]
  have hstride : ¬ gateBase + kSyntheticGateStride < gateBase ↔ gateBase.toNat + 16 < 2 ^ 64 := by
    have hgate := gateBase.toNat_lt
    have h16 : kSyntheticGateStride.toNat = 16 := rfl
    rw [UInt64.lt_iff_toNat_lt, UInt64.toNat_add, h16]
    omega
  have hmiddle : (appendMovRsiImm64 (appendMovRdiImm64 [] dataBase) 16 ++
      (ProbeInstruction.call gateBase).encode (codeBase + UInt64.ofNat 20) ++
        [0x48, 0x83, 0xf8, 16]).length = 29 := by
    rw [List.length_append, List.length_append, hfront, length_encode_call]
    rfl
  have hmessage : UInt64.ofNat kProbeHelloMessage.length = 16 := rfl
  have hlow : (16 : UInt64).toUInt8 = 16 := rfl
  rw [assemble_probeProgram hroom]
  generalize hall : appendMovRsiImm64 (appendMovRdiImm64 [] dataBase) 16 ++
    (ProbeInstruction.call gateBase).encode (codeBase + UInt64.ofNat 20) ++ [0x48, 0x83, 0xf8, 16] =
      middle at hmiddle
  have hafter :
      (middle ++ 0x75 :: 0 ::
      (appendMovRdiImm64 [] 42 ++ (ProbeInstruction.call (gateBase + kSyntheticGateStride)).encode
      (codeBase + UInt64.ofNat 41))).length - (middle.length + 2) = 15 := by
    simp [appendMovRdiImm64, appendU64, length_encode_call]
  simp only [buildProbeCode, bind_eq_ok, orRefuse_eq_ok, refuseIf_eq_ok, pure_eq_ok, hmessage, hlow,
    hwrite]
  constructor
  · rintro ⟨_, ⟨hwriteFits, rfl⟩, -, hnowrap, after, hexit, -, -, rfl⟩
    rw [hall] at hexit ⊢
    obtain ⟨hexitFits, rfl⟩ := (appendExit_eq_some_iff hmiddle hroom).mp hexit
    rw [hafter, set_append_cons_cons rfl]
    exact ⟨⟨hwriteFits, hexitFits, hstride.mp hnowrap⟩, rfl⟩
  · rintro ⟨⟨hwriteFits, hexitFits, hnowrap⟩, rfl⟩
    have hexit := (appendExit_eq_some_iff hmiddle hroom).mpr ⟨hexitFits, rfl⟩
    rw [← hall] at hexit hafter
    refine ⟨_, ⟨hwriteFits, rfl⟩, (), hstride.mpr hnowrap, _, hexit, (), ?_, ?_⟩
    · rw [hafter]
      decide
    · rw [hafter, set_append_cons_cons rfl, hall]
      rfl

/-- **Why there is no code**: a gate is out of reach. -/
theorem buildProbeCode_eq_error {e : ProbeHelloError} (hroom : codeBase.toNat + 46 < 2 ^ 64)
    (h : buildProbeCode codeBase dataBase gateBase = .error e) :
    ¬ GatesInReach codeBase gateBase := by
  intro hreach
  rw [(buildProbeCode_eq_ok_iff hroom).mpr ⟨hreach, rfl⟩] at h
  cases h

end Emitter

end Astraea.Probe
