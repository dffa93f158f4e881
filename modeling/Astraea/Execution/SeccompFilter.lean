import Astraea.Base.Bpf
import Astraea.Execution.GuestMemory

/-!
# The filter on syscalls

Before a guest is entered, its thread gets a seccomp filter, a program for the kernel that
`install_guest_executable_syscall_filter` writes out: eleven instructions for each range of guest
code, which trap a syscall whose instruction pointer is in the range, and behind them the policy for
the syscalls of the host. The instructions compare 64-bit addresses by their halves and jump over
each other by counts.

`SyscallPolicy` says what the filter is for, and `seccompFilter_decides` that it is what the
instructions do, whatever the ranges are and whatever the kernel asks about.
-/

namespace Astraea.Execution

open Astraea.Base Astraea.Base.Bpf Astraea.Loader Astraea.Memory

/-! ### Errors -/

/-- The members of `NativeBackendErrorCode` that entering a guest gives. -/
inductive GuestEntryErrorCode where
  | guestAddressUnavailable
  | hostPageArithmeticOverflow
  | hostMappingFailure
  | hostProtectionFailure
  | tlsRuntimeLayoutUnsupported
  | nestedExecutionUnsupported
  | recoverySetupFailure
  | invalidGuestContext
  | invalidRegisteredSyscallTrap
  | syscallInterceptionSetupFailure
  | syscallInterceptionMetadataFailure
  | internalTransitionFailure
  deriving DecidableEq

/-- A `NativeBackendError` of entering a guest. -/
structure GuestEntryError where
  code : GuestEntryErrorCode
  guestAddress : Option UInt64 := none
  hostCode : Option UInt64 := none
  deriving DecidableEq

/-! ### Ranges -/

/-- A range of instruction pointers whose syscalls are trapped. -/
structure SignalRange where
  base : UInt64
  size : UInt64
  deriving DecidableEq

/-- `range_contains`. -/
def rangeContains (range : SignalRange) (address : UInt64) : Bool :=
  if range.size = 0 ∨ address < range.base then false else address - range.base < range.size

/-- `build_executable_ranges`. -/
def buildExecutableRanges (image : GuestImage) : List SignalRange :=
  (image.mappings.filter fun mapping =>
    mapping.permissions.has .execute && !mapping.range.empty).map fun mapping =>
    ⟨mapping.range.base.value, mapping.range.size.value⟩

/-- `build_seccomp_instruction_pointer_ranges`: one byte more at the end of each. -/
def buildSeccompInstructionPointerRanges :
    List SignalRange → Except GuestEntryError (List SignalRange)
  | [] => return []
  | executable :: executables => do
    refuseIf (executable.size = 0xffffffffffffffff ∨
      executable.base > 0xffffffffffffffff - executable.size)
      { code := .syscallInterceptionSetupFailure, guestAddress := executable.base }
    let ranges ← buildSeccompInstructionPointerRanges executables
    return ⟨executable.base, executable.size + 1⟩ :: ranges

/-! ### What the kernel asks about -/

/-- `seccomp_data`. -/
structure SeccompData where
  nr : Int32
  arch : UInt32
  instructionPointer : UInt64
  args : Vector UInt64 6
  deriving DecidableEq

/-- Its size in bytes. -/
def kSeccompDataSize : ℕ := 64

/-- The lower half of a word, which comes first. -/
def lowWord (value : UInt64) : UInt32 := (value &&& 0xffffffff).toUInt32

/-- The upper half of a value. -/
def highWord (value : UInt64) : UInt32 := (value >>> 32).toUInt32

/-- The word of the data at an offset. -/
def SeccompData.word (data : SeccompData) (offset : UInt32) : Option UInt32 :=
  if offset.toNat % 4 ≠ 0 then none
  else match offset.toNat / 4 with
  | 0 => some data.nr.toUInt32
  | 1 => some data.arch
  | 2 => some (lowWord data.instructionPointer)
  | 3 => some (highWord data.instructionPointer)
  | index + 4 =>
    data.args.toArray[index / 2]?.map fun arg => if index % 2 = 0 then lowWord arg else highWord arg

/-! ### The filter -/

/-- `SECCOMP_RET_TRAP`. -/
def kSeccompRetTrap : UInt32 := 0x00030000

/-- `SECCOMP_RET_ERRNO`. -/
def kSeccompRetErrno : UInt32 := 0x00050000

/-- `SECCOMP_RET_ALLOW`. -/
def kSeccompRetAllow : UInt32 := 0x7fff0000

/-- `EPERM`. -/
def kEperm : UInt32 := 1

/-- `E2BIG`. -/
def kE2big : UInt64 := 7

/-- `AUDIT_ARCH_X86_64`. -/
def kAuditArchX8664 : UInt32 := 0xc000003e

/-- The bit in the number of a syscall of the x32 interface. -/
def kX32SyscallBit : UInt32 := 0x40000000

/-- Where the data of a filter has the number of the syscall. -/
def kNrOffset : UInt32 := 0

/-- Where it has the architecture. -/
def kArchOffset : UInt32 := 4

/-- Where it has the lower half of the instruction pointer. -/
def kIpLowOffset : UInt32 := 8

/-- Where the data of a filter has the upper half of the instruction pointer. -/
def kIpHighOffset : UInt32 := kIpLowOffset + 4

/-- The verdict on a syscall that the host may not make. -/
def kRefuseHostSyscall : UInt32 := kSeccompRetErrno ||| kEperm

/-- `kDeniedOutsideGuestIp`: open, openat, openat2, creat, socket, socketpair, connect, bind,
listen, accept, accept4, execve, execveat and ptrace. -/
def kDeniedOutsideGuestIp : List UInt32 :=
  [2, 257, 437, 85, 41, 53, 42, 49, 50, 43, 288, 59, 322, 101]

/-- The instructions for a range. -/
def kInstructionsPerRange : ℕ := 11

/-- The instructions besides those of the ranges. -/
def kTrailingInstructions : ℕ := 3 + 3 + 3 + 1 + 2 * kDeniedOutsideGuestIp.length

/-- The most instructions that are built. -/
def kMaxProgramLength : ℕ := 65535

/-- The instructions for a range, from its last address on. -/
def upperBlock (last : UInt64) : List SockFilter := [
  bpfStatement kLoadAbsoluteWord kIpHighOffset,
  bpfJump kJumpGreater (highWord last) 4 0,
  bpfJump kJumpEqual (highWord last) 0 2,
  bpfStatement kLoadAbsoluteWord kIpLowOffset,
  bpfJump kJumpGreater (lowWord last) 1 0,
  bpfStatement kReturnConstant kSeccompRetTrap]

/-- The instructions for a range, by its first and its last address. -/
def rangeBlock (base last : UInt64) : List SockFilter := [
  bpfStatement kLoadAbsoluteWord kIpHighOffset,
  bpfJump kJumpGreater (highWord base) 3 0,
  bpfJump kJumpEqual (highWord base) 0 8,
  bpfStatement kLoadAbsoluteWord kIpLowOffset,
  bpfJump kJumpGreaterEqual (lowWord base) 0 6] ++ upperBlock last

/-- The loop over the ranges. -/
def rangeBlocks : List SignalRange → Except GuestEntryError (List SockFilter)
  | [] => return []
  | range :: ranges => do
    refuseIf (range.size = 0 ∨ range.base > 0xffffffffffffffff - (range.size - 1))
      { code := .syscallInterceptionSetupFailure, guestAddress := range.base }
    let blocks ← rangeBlocks ranges
    return rangeBlock range.base (range.base + (range.size - 1)) ++ blocks

/-- What is not native to the host is refused. -/
def archGuard : List SockFilter := [
  bpfStatement kLoadAbsoluteWord kArchOffset,
  bpfJump kJumpEqual kAuditArchX8664 1 0,
  bpfStatement kReturnConstant kRefuseHostSyscall]

/-- So is the x32 convention, which a bit of the number tells. -/
def x32Guard : List SockFilter := [
  bpfStatement kLoadAbsoluteWord kNrOffset,
  bpfJump kJumpGreaterEqual kX32SyscallBit 0 1,
  bpfStatement kReturnConstant kRefuseHostSyscall]

/-- So are the numbers that older kernels take for it. -/
def legacyAliasGuard : List SockFilter := [
  bpfJump kJumpGreaterEqual 512 0 2,
  bpfJump kJumpGreaterEqual 548 1 0,
  bpfStatement kReturnConstant kRefuseHostSyscall]

/-- The instructions that refuse a syscall. -/
def denyBlock (syscallNumber : UInt32) : List SockFilter := [
  bpfJump kJumpEqual syscallNumber 0 1,
  bpfStatement kReturnConstant (kSeccompRetErrno ||| kEperm)]

/-- The instructions behind those for the ranges, but for the last one. -/
def hostBlocks : List SockFilter :=
  archGuard ++ (x32Guard ++ (legacyAliasGuard ++ kDeniedOutsideGuestIp.flatMap denyBlock))

/-- What the system says to the two calls that install a filter. -/
structure SeccompKernel where
  setNoNewPrivs : Except UInt64 Unit
  setModeFilter : List SockFilter → Except UInt64 Unit

/-- A setup that fails with an error of the system. -/
def setupError (errno : UInt64) : GuestEntryError :=
  { code := .syscallInterceptionSetupFailure, hostCode := errno }

/-- `install_guest_executable_syscall_filter`: the filter that is installed. -/
def installGuestExecutableSyscallFilter (kernel : SeccompKernel)
    (seccompInstructionRanges : List SignalRange) :
    Except GuestEntryError (List SockFilter) := do
  refuseIf (seccompInstructionRanges.isEmpty = true) { code := .syscallInterceptionSetupFailure }
  refuseIf (seccompInstructionRanges.length >
    (kMaxProgramLength - kTrailingInstructions) / kInstructionsPerRange)
    (setupError kE2big)
  let blocks ← rangeBlocks seccompInstructionRanges
  let program := blocks ++ hostBlocks ++ [bpfStatement kReturnConstant kSeccompRetAllow]
  kernel.setNoNewPrivs.mapError setupError
  (kernel.setModeFilter program).mapError setupError
  return program

/-! ### The policy -/

/-- `exact_executable_contains`. -/
def exactExecutableContains (image : GuestImage) (address : UInt64) : Bool :=
  image.mappings.any fun mapping =>
    mapping.permissions.has .execute && mapping.range.contains ⟨address⟩

/-- The policy for what is not trapped: the host's own convention passes, but for the numbers that
are denied. -/
def hostPolicy (data : SeccompData) : UInt32 :=
  if data.arch = kAuditArchX8664 ∧ data.nr.toUInt32 < kX32SyscallBit ∧
      ¬ (512 ≤ data.nr.toUInt32 ∧ data.nr.toUInt32 < 548) ∧
        data.nr.toUInt32 ∉ kDeniedOutsideGuestIp then kSeccompRetAllow
  else kRefuseHostSyscall

/-- The policy for a thread with some ranges. -/
def filterPolicy (ranges : List SignalRange) (data : SeccompData) : UInt32 :=
  if ∃ range ∈ ranges, rangeContains range data.instructionPointer = true then kSeccompRetTrap
    else hostPolicy data

/-- **What the filter is for.** A syscall traps if it is at an address of guest code or right behind
one, wherever the kernel says it is; all others are subject to the policy of the host. -/
def SyscallPolicy (image : GuestImage) (data : SeccompData) : UInt32 :=
  if exactExecutableContains image data.instructionPointer = true ∨
      data.instructionPointer ≠ 0 ∧
        exactExecutableContains image (data.instructionPointer - 1) = true then kSeccompRetTrap
  else hostPolicy data

/-! ### Halves of words -/

theorem toNat_lowWord (value : UInt64) : (lowWord value).toNat = value.toNat % 2 ^ 32 := by
  have hmask : (0xffffffff : UInt64).toNat = 2 ^ 32 - 1 := rfl
  rw [lowWord, UInt64.toNat_toUInt32, UInt64.toNat_and, hmask, Nat.and_two_pow_sub_one_eq_mod,
    Nat.mod_mod]

theorem toNat_highWord (value : UInt64) : (highWord value).toNat = value.toNat / 2 ^ 32 := by
  have hshift : (32 : UInt64).toNat % 64 = 32 := rfl
  have hlt := value.toNat_lt
  rw [highWord, UInt64.toNat_toUInt32, UInt64.toNat_shiftRight, hshift, Nat.shiftRight_eq_div_pow]
  omega

theorem toNat_le_iff_words (a b : UInt64) :
    a.toNat ≤ b.toNat ↔ highWord b > highWord a ∨ highWord b = highWord a ∧
    lowWord b ≥ lowWord a := by
  simp only [gt_iff_lt, ge_iff_le, UInt32.lt_iff_toNat_lt, UInt32.le_iff_toNat_le,
    ← UInt32.toNat_inj, toNat_lowWord, toNat_highWord]
  omega

variable {range : SignalRange} {address : UInt64}

theorem rangeContains_iff :
    rangeContains range address = true ↔
      range.base.toNat ≤ address.toNat ∧ address.toNat < range.base.toNat + range.size.toNat := by
  rw [rangeContains]
  split_ifs with h
  · simp only [← UInt64.toNat_inj, UInt64.lt_iff_toNat_lt] at h
    simp only [false_iff, not_and, not_lt]
    have hzero : (0 : UInt64).toNat = 0 := rfl
    omega
  · simp only [not_or, UInt64.lt_iff_toNat_lt, not_lt] at h
    have hsub : (address - range.base).toNat = address.toNat - range.base.toNat :=
      UInt64.toNat_sub_of_le _ _ (UInt64.le_iff_toNat_le.mpr h.2)
    rw [decide_eq_true_eq, UInt64.lt_iff_toNat_lt, hsub]
    omega

/-! ### The blocks -/

section Blocks

variable {data : SeccompData}

theorem word_ipHigh : data.word kIpHighOffset = some (highWord data.instructionPointer) := rfl
theorem word_ipLow : data.word kIpLowOffset = some (lowWord data.instructionPointer) := rfl
theorem word_arch : data.word kArchOffset = some data.arch := rfl
theorem word_nr : data.word kNrOffset = some data.nr.toUInt32 := rfl

theorem run_upper {high low : UInt32} (hhigh : data.word kIpHighOffset = some high)
    (hlow : data.word kIpLowOffset = some low) (last : UInt64) (accumulator : UInt32) :
    ∃ accumulator', ∀ rest,
      run data.word (upperBlock last ++ rest) 0 accumulator =
        (if highWord last > high ∨ highWord last = high ∧ lowWord last ≥ low then
          some kSeccompRetTrap else none).or
          (run data.word rest 0 accumulator') := by
  have hcompare : ¬ (highWord last > high ∨ highWord last = high ∧ lowWord last ≥ low) ↔
      high > highWord last ∨ high = highWord last ∧ low > lowWord last := by
    simp only [gt_iff_lt, ge_iff_le, UInt32.lt_iff_toNat_lt, UInt32.le_iff_toNat_le,
      ← UInt32.toNat_inj]
    omega
  refine ⟨if high > highWord last then high else low, fun rest => ?_⟩
  by_cases hgreater : high > highWord last
  · rw [if_neg (hcompare.mpr (.inl hgreater))]
    simp [upperBlock, run_load hhigh, hgreater]
  · by_cases hequal : high = highWord last
    · by_cases hlast : low > lowWord last
      · rw [if_neg (hcompare.mpr (.inr ⟨hequal, hlast⟩))]
        simp [upperBlock, run_load hhigh, run_load hlow, hequal, hlast]
      · rw [if_pos (by by_contra h; rcases hcompare.mp h with h | h <;> tauto)]
        simp [upperBlock, run_load hhigh, run_load hlow, hequal, hlast]
    · rw [if_pos (by by_contra h; rcases hcompare.mp h with h | h <;> tauto)]
      simp [upperBlock, run_load hhigh, hgreater, hequal]

/-- The instructions for a range compare the halves of its ends. -/
theorem decides_rangeBlock (data : SeccompData) (base last : UInt64) :
    Decides data.word (fun _ => True) (rangeBlock base last)
      (if base.toNat ≤ data.instructionPointer.toNat ∧ data.instructionPointer.toNat ≤
        last.toNat then some kSeccompRetTrap else none) (fun _ => True) := by
  intro accumulator _
  simp only [toNat_le_iff_words]
  generalize hhigh : highWord data.instructionPointer = high
  generalize hlow : lowWord data.instructionPointer = low
  have hloadHigh : data.word kIpHighOffset = some high := word_ipHigh.trans (congrArg some hhigh)
  have hloadLow : data.word kIpLowOffset = some low := word_ipLow.trans (congrArg some hlow)
  by_cases hlower : high > highWord base ∨ high = highWord base ∧ low ≥ lowWord base
  · obtain ⟨accumulator', hupper⟩ :=
      run_upper hloadHigh hloadLow last (if high > highWord base then high else low)
    refine ⟨accumulator', fun _ => trivial, fun rest => ?_⟩
    simp only [hlower, true_and]
    rw [← hupper rest]
    rcases hlower with hgreater | ⟨hequal, hlow⟩
    · simp [rangeBlock, run_load hloadHigh, hgreater]
    · simp [rangeBlock, run_load hloadHigh, run_load hloadLow, hequal, hlow]
  · refine ⟨if high = highWord base then low else high, fun _ => trivial, fun rest => ?_⟩
    rw [if_neg (fun h => hlower h.1)]
    simp only [not_or, not_and] at hlower
    by_cases hequal : high = highWord base
    · simp [rangeBlock, upperBlock, run_load hloadHigh, run_load hloadLow, hlower.2 hequal, hequal]
    · simp [rangeBlock, upperBlock, run_load hloadHigh, hlower.1, hequal]

variable {blocks : List SockFilter}

theorem rangeBlocks_eq_ok {ranges : List SignalRange} (h : rangeBlocks ranges = .ok blocks) :
    blocks = ranges.flatMap (fun range => rangeBlock range.base (range.base + (range.size - 1))) ∧
      ∀ range ∈ ranges, 0 < range.size.toNat ∧ range.base.toNat + range.size.toNat ≤ 2 ^ 64 := by
  induction ranges generalizing blocks with
  | nil =>
    rw [rangeBlocks, pure_eq_ok] at h
    exact ⟨h.symm, fun range hrange => by cases hrange⟩
  | cons range ranges ih =>
    simp only [rangeBlocks, bind_eq_ok, refuseIf_eq_ok, pure_eq_ok, not_or] at h
    obtain ⟨-, ⟨hsize, hfits⟩, rest, hrest, rfl⟩ := h
    obtain ⟨rfl, hall⟩ := ih hrest
    refine ⟨rfl, List.forall_mem_cons.mpr ⟨?_, hall⟩⟩
    have hmax : (0xffffffffffffffff : UInt64).toNat = 2 ^ 64 - 1 := rfl
    have hone : (1 : UInt64).toNat = 1 := rfl
    have hpositive : 0 < range.size.toNat :=
      Nat.pos_of_ne_zero fun hzero => hsize (UInt64.toNat_inj.mp hzero)
    have hbefore : (range.size - 1).toNat = range.size.toNat - 1 :=
      UInt64.toNat_sub_of_le _ _ (UInt64.le_iff_toNat_le.mpr (by omega))
    have hlt := (range.size - 1).toNat_lt
    have hroom : (0xffffffffffffffff - (range.size - 1)).toNat =
        2 ^ 64 - 1 - (range.size.toNat - 1) := by
      rw [UInt64.toNat_sub_of_le _ _ (UInt64.le_iff_toNat_le.mpr (by omega)), hmax, hbefore]
    rw [gt_iff_lt, UInt64.lt_iff_toNat_lt, hroom] at hfits
    omega

theorem decides_range (data : SeccompData) (hpositive : 0 < range.size.toNat)
    (hfits : range.base.toNat + range.size.toNat ≤ 2 ^ 64) :
    Decides data.word (fun _ => True) (rangeBlock range.base (range.base + (range.size - 1)))
      (if rangeContains range data.instructionPointer = true then some kSeccompRetTrap else none)
        (fun _ => True) := by
  have hone : (1 : UInt64).toNat = 1 := rfl
  have hbefore : (range.size - 1).toNat = range.size.toNat - 1 :=
    UInt64.toNat_sub_of_le _ _ (UInt64.le_iff_toNat_le.mpr (by omega))
  have hlast : (range.base + (range.size - 1)).toNat =
      range.base.toNat + (range.size.toNat - 1) := by
    rw [UInt64.toNat_add, hbefore]
    omega
  have hblock := decides_rangeBlock data range.base (range.base + (range.size - 1))
  have hsame : (range.base.toNat ≤ data.instructionPointer.toNat ∧
      data.instructionPointer.toNat ≤ (range.base + (range.size - 1)).toNat) ↔
        rangeContains range data.instructionPointer = true := by
    rw [hlast, rangeContains_iff]
    omega
  simp only [hsame] at hblock
  exact hblock

theorem decides_archGuard (data : SeccompData) :
    Decides data.word (fun _ => True) archGuard
      (if data.arch = kAuditArchX8664 then none else some kRefuseHostSyscall) (fun _ => True) := by
  intro accumulator _
  refine ⟨data.arch, fun _ => trivial, fun rest => ?_⟩
  by_cases harch : data.arch = kAuditArchX8664
  · simp [archGuard, run_load word_arch, harch]
  · simp [archGuard, run_load word_arch, harch]

theorem decides_x32Guard (data : SeccompData) :
    Decides data.word (fun _ => True) x32Guard
      (if data.nr.toUInt32 ≥ kX32SyscallBit then some kRefuseHostSyscall else none)
        (· = data.nr.toUInt32) := by
  intro accumulator _
  refine ⟨data.nr.toUInt32, fun _ => rfl, fun rest => ?_⟩
  by_cases hbit : data.nr.toUInt32 ≥ kX32SyscallBit
  · simp [x32Guard, run_load word_nr, hbit]
  · simp [x32Guard, run_load word_nr, hbit]

theorem decides_legacyAliasGuard (data : SeccompData) (number : UInt32) :
    Decides data.word (· = number) legacyAliasGuard
      (if 512 ≤ number ∧ number < 548 then some kRefuseHostSyscall else none) (· = number) := by
  rintro accumulator rfl
  refine ⟨accumulator, fun _ => rfl, fun rest => ?_⟩
  by_cases hlower : accumulator ≥ 512
  · by_cases hupper : accumulator ≥ 548
    · have hnot : ¬ accumulator < 548 := fun h => absurd hupper (UInt32.not_le.mpr h)
      simp [legacyAliasGuard, hlower, hupper, hnot]
    · have hlt : accumulator < 548 := UInt32.not_le.mp hupper
      simp [legacyAliasGuard, hlower, hupper, hlt]
  · simp [legacyAliasGuard, hlower]

theorem decides_denyBlock (data : SeccompData) (number syscallNumber : UInt32) :
    Decides data.word (· = number) (denyBlock syscallNumber)
      (if number = syscallNumber then some kRefuseHostSyscall else none) (· = number) := by
  rintro accumulator rfl
  refine ⟨accumulator, fun _ => rfl, fun rest => ?_⟩
  by_cases hequal : accumulator = syscallNumber
  · simp [denyBlock, hequal, kRefuseHostSyscall]
  · simp [denyBlock, hequal]

theorem findSome?_ite {α β : Type} (p : α → Prop) [DecidablePred p] (xs : List α) (b : β) :
    xs.findSome? (fun x => if p x then some b else none) = if ∃ x ∈ xs, p x then some b
      else none := by
  induction xs with
  | nil => simp
  | cons x xs ih =>
    rw [List.findSome?_cons]
    by_cases hx : p x
    · simp [hx]
    · simp [hx, ih]

theorem decides_return (data : SeccompData) (action : UInt32) (pre : UInt32 → Prop) :
    Decides data.word pre [bpfStatement kReturnConstant action] (some action) (fun _ => True) := by
  intro accumulator _
  exact ⟨accumulator, fun _ => trivial, fun rest => rfl⟩

theorem or_refusals (p q r s : Prop) [Decidable p] [Decidable q] [Decidable r] [Decidable s]
    (refuse allow : UInt32) :
    ((if p then none else some refuse).or ((if q then some refuse else none).or
      ((if r then some refuse else none).or (if s then some refuse else none)))).or (some allow) =
        some (if p ∧ ¬ q ∧ ¬ r ∧ ¬ s then allow else refuse) := by
  by_cases hp : p
  · by_cases hq : q
    · simp [hp, hq]
    · by_cases hr : r
      · simp [hp, hq, hr]
      · by_cases hs : s
        · simp [hp, hq, hr, hs]
        · simp [hp, hq, hr, hs]
  · simp [hp]

theorem decides_hostBlocks (data : SeccompData) :
    Decides data.word (fun _ => True)
      (hostBlocks ++ [bpfStatement kReturnConstant kSeccompRetAllow]) (some (hostPolicy data))
      (fun _ => True) := by
  have hdeny := Decides.flatMap fun syscallNumber (_ : syscallNumber ∈ kDeniedOutsideGuestIp) =>
    decides_denyBlock data data.nr.toUInt32 syscallNumber
  have hblocks := (((decides_archGuard data).append ((decides_x32Guard data).append
    ((decides_legacyAliasGuard data data.nr.toUInt32).append hdeny)))).append
      (decides_return data kSeccompRetAllow _)
  have hdenied : (∃ syscallNumber ∈ kDeniedOutsideGuestIp, data.nr.toUInt32 = syscallNumber) ↔
      data.nr.toUInt32 ∈ kDeniedOutsideGuestIp := exists_eq_right'
  rw [findSome?_ite, or_refusals] at hblocks
  simp only [hdenied, ge_iff_le, UInt32.not_le] at hblocks
  exact hblocks

theorem decides_program (data : SeccompData) {ranges : List SignalRange}
    (hblocks : rangeBlocks ranges = .ok blocks) :
    run data.word (blocks ++ hostBlocks ++ [bpfStatement kReturnConstant kSeccompRetAllow]) 0 0 =
      some (filterPolicy ranges data) := by
  obtain ⟨rfl, hall⟩ := rangeBlocks_eq_ok hblocks
  have hranges := Decides.flatMap fun range hrange =>
    decides_range data (hall range hrange).1 (hall range hrange).2
  have hprogram := hranges.append (decides_hostBlocks data)
  rw [findSome?_ite, ← List.append_assoc] at hprogram
  rw [filterPolicy]
  split_ifs at hprogram ⊢ with htrap
  · exact hprogram.run_eq
  · exact hprogram.run_eq

theorem wellFormed_program {ranges : List SignalRange} (hblocks : rangeBlocks ranges = .ok blocks) :
    WellFormed kSeccompDataSize
      (blocks ++ hostBlocks ++ [bpfStatement kReturnConstant kSeccompRetAllow]) := by
  obtain ⟨rfl, -⟩ := rangeBlocks_eq_ok hblocks
  refine ⟨⟨_, _, rfl, ?_⟩, ?_⟩
  · refine (JumpsWithin.flatMap fun range _ => ?_).append ?_
    · simp [JumpsWithin, rangeBlock, upperBlock, bpfJump, bpfStatement]
    · simp [JumpsWithin, hostBlocks, archGuard, x32Guard, legacyAliasGuard, denyBlock,
        kDeniedOutsideGuestIp, bpfJump, bpfStatement]
  · have hrange : ∀ range ∈ ranges, ∀ instruction ∈
      rangeBlock range.base (range.base + (range.size - 1)),
        Known kSeccompDataSize instruction := by
      intro range _
      simp [rangeBlock, upperBlock, Known, bpfStatement, bpfJump, kSeccompDataSize, kIpHighOffset,
        kIpLowOffset]
    have hhost : ∀ instruction ∈ hostBlocks ++ [bpfStatement kReturnConstant kSeccompRetAllow],
        Known kSeccompDataSize instruction := by decide
    intro instruction hinstruction
    rw [List.append_assoc, List.mem_append, List.mem_flatMap] at hinstruction
    rcases hinstruction with ⟨range, hmem, hinstruction⟩ | hinstruction
    · exact hrange range hmem instruction hinstruction
    · exact hhost instruction hinstruction

theorem length_program {ranges : List SignalRange} (hblocks : rangeBlocks ranges = .ok blocks) :
    (blocks ++ hostBlocks ++ [bpfStatement kReturnConstant kSeccompRetAllow]).length =
      kInstructionsPerRange * ranges.length + kTrailingInstructions := by
  obtain ⟨rfl, -⟩ := rangeBlocks_eq_ok hblocks
  have hrange : ∀ range ∈ ranges, (rangeBlock range.base (range.base + (range.size - 1))).length =
      kInstructionsPerRange :=
    fun range _ => rfl
  have hhost : hostBlocks.length + 1 = kTrailingInstructions := by decide
  rw [List.length_append, List.length_append, List.length_flatMap, List.length_singleton,
    List.map_congr_left hrange, List.map_const', List.sum_replicate_nat, Nat.add_assoc, hhost,
    Nat.mul_comm]

end Blocks

/-! ### The filter of an image -/

section Filter

variable {image : GuestImage} {kernel : SeccompKernel} {executables ranges : List SignalRange}
  {program : List SockFilter}

theorem exactExecutableContains_iff :
    exactExecutableContains image address = true ↔
      ∃ mapping ∈ image.mappings, mapping.permissions.has .execute = true ∧
        address.toNat ∈ mapping.range := by
  simp only [exactExecutableContains, List.any_eq_true, Bool.and_eq_true, GuestRange.contains_iff,
    GuestAddress.toNat_mk]

theorem mem_buildExecutableRanges :
    range ∈ buildExecutableRanges image ↔
    ∃ mapping ∈ image.mappings, mapping.permissions.has .execute = true ∧
      0 < mapping.range.size.toNat ∧
      range = ⟨mapping.range.base.value, mapping.range.size.value⟩ := by
  simp only [buildExecutableRanges, List.mem_map, List.mem_filter, Bool.and_eq_true,
    Bool.not_eq_true']
  constructor
  · rintro ⟨mapping, ⟨hmem, hexecute, hsize⟩, rfl⟩
    rw [← Bool.not_eq_true, GuestRange.empty_iff] at hsize
    exact ⟨mapping, hmem, hexecute, Nat.pos_of_ne_zero hsize, rfl⟩
  · rintro ⟨mapping, hmem, hexecute, hsize, rfl⟩
    refine ⟨mapping, ⟨hmem, hexecute, ?_⟩, rfl⟩
    rw [← Bool.not_eq_true, GuestRange.empty_iff]
    exact hsize.ne'

/-- Each range has become longer by one, and still ends below the top. -/
theorem buildSeccompInstructionPointerRanges_eq_ok
    (h : buildSeccompInstructionPointerRanges executables = .ok ranges) :
    ranges = executables.map (fun executable => ⟨executable.base, executable.size + 1⟩) ∧
      ∀ executable ∈ executables, executable.base.toNat + executable.size.toNat < 2 ^ 64 ∧
        (executable.size + 1).toNat = executable.size.toNat + 1 := by
  induction executables generalizing ranges with
  | nil =>
    rw [buildSeccompInstructionPointerRanges, pure_eq_ok] at h
    exact ⟨h.symm, fun executable hexecutable => by cases hexecutable⟩
  | cons executable executables ih =>
    simp only [buildSeccompInstructionPointerRanges, bind_eq_ok, refuseIf_eq_ok, pure_eq_ok, not_or]
      at h
    obtain ⟨-, ⟨hsize, hfits⟩, rest, hrest, rfl⟩ := h
    obtain ⟨rfl, hall⟩ := ih hrest
    refine ⟨rfl, List.forall_mem_cons.mpr ⟨?_, hall⟩⟩
    have hmax : (0xffffffffffffffff : UInt64).toNat = 2 ^ 64 - 1 := rfl
    have hone : (1 : UInt64).toNat = 1 := rfl
    have hlt := executable.size.toNat_lt
    have hne : executable.size.toNat ≠ 2 ^ 64 - 1 := fun h => hsize (UInt64.toNat_inj.mp h)
    have hroom : (0xffffffffffffffff - executable.size).toNat =
        2 ^ 64 - 1 - executable.size.toNat := by
      rw [UInt64.toNat_sub_of_le _ _ (UInt64.le_iff_toNat_le.mpr (by omega)), hmax]
    rw [gt_iff_lt, UInt64.lt_iff_toNat_lt, hroom] at hfits
    rw [UInt64.toNat_add, hone]
    omega

theorem lt_of_code
    (hranges : buildSeccompInstructionPointerRanges (buildExecutableRanges image) = .ok ranges)
    (hcode : exactExecutableContains image address = true) :
    address.toNat + 1 < 2 ^ 64 := by
  obtain ⟨mapping, hmapping, hexecute, hmem⟩ := exactExecutableContains_iff.mp hcode
  rw [GuestRange.mem_def, GuestRange.last] at hmem
  have hexecutable := mem_buildExecutableRanges.mpr ⟨mapping, hmapping, hexecute, by omega, rfl⟩
  have hend := ((buildSeccompInstructionPointerRanges_eq_ok hranges).2 _ hexecutable).1
  have hlast : mapping.range.base.toNat + mapping.range.size.toNat < 2 ^ 64 := hend
  omega

/-- What the ranges hold: the addresses of guest code and those right behind one. -/
theorem exists_range_iff
    (hranges : buildSeccompInstructionPointerRanges (buildExecutableRanges image) = .ok ranges)
    (address : UInt64) :
    (∃ range ∈ ranges, rangeContains range address = true) ↔
      exactExecutableContains image address = true ∨
        address ≠ 0 ∧ exactExecutableContains image (address - 1) = true := by
  obtain ⟨rfl, hall⟩ := buildSeccompInstructionPointerRanges_eq_ok hranges
  have hone : (1 : UInt64).toNat = 1 := rfl
  have hbefore : address ≠ 0 → (address - 1).toNat = address.toNat - 1 := by
    intro hne
    have hpositive : address.toNat ≠ 0 := fun hzero => hne (UInt64.toNat_inj.mp hzero)
    exact UInt64.toNat_sub_of_le _ _ (UInt64.le_iff_toNat_le.mpr (by omega))
  simp only [exactExecutableContains_iff]
  constructor
  · rintro ⟨range, hrange, hcontains⟩
    obtain ⟨executable, hexecutable, rfl⟩ := List.mem_map.mp hrange
    obtain ⟨mapping, hmapping, hexecute, hsize, rfl⟩ := mem_buildExecutableRanges.mp hexecutable
    obtain ⟨hlower, hupper⟩ := rangeContains_iff.mp hcontains
    rw [(hall _ hexecutable).2] at hupper
    dsimp only at hlower hupper
    by_cases hin : address.toNat < mapping.range.base.toNat + mapping.range.size.toNat
    · exact .inl ⟨mapping, hmapping, hexecute, hlower, hin⟩
    · have hne : address ≠ 0 := by
        rintro rfl
        rw [UInt64.toNat_zero] at hin
        omega
      refine .inr ⟨hne, mapping, hmapping, hexecute, ?_⟩
      rw [GuestRange.mem_def, GuestRange.last, hbefore hne]
      simp only [GuestAddress.toNat, GuestSize.toNat] at hin hsize hlower hupper ⊢
      omega
  · -- the range of a mapping holds what is in the mapping, and the address behind it
    have hrange : ∀ mapping ∈ image.mappings, mapping.permissions.has .execute = true →
      0 < mapping.range.size.toNat →
        mapping.range.base.toNat ≤ address.toNat → address.toNat ≤ mapping.range.last →
        ∃ range ∈ (buildExecutableRanges image).map
          (fun executable => ⟨executable.base, executable.size + 1⟩),
          rangeContains range address = true := by
      intro mapping hmapping hexecute hsize hlower hupper
      have hexecutable := mem_buildExecutableRanges.mpr ⟨mapping, hmapping, hexecute, hsize, rfl⟩
      refine ⟨_, List.mem_map_of_mem hexecutable, rangeContains_iff.mpr ⟨hlower, ?_⟩⟩
      rw [(hall _ hexecutable).2]
      exact Nat.lt_succ_of_le hupper
    rintro (⟨mapping, hmapping, hexecute, hmem⟩ | ⟨hne, mapping, hmapping, hexecute, hmem⟩)
    · rw [GuestRange.mem_def, GuestRange.last] at hmem
      exact hrange mapping hmapping hexecute (by omega) hmem.1 (by rw [GuestRange.last]; omega)
    · rw [GuestRange.mem_def, GuestRange.last, hbefore hne] at hmem
      exact hrange mapping hmapping hexecute (by omega) (by omega) (by rw [GuestRange.last]; omega)

theorem installGuestExecutableSyscallFilter_eq_ok
    (h : installGuestExecutableSyscallFilter kernel ranges = .ok program) :
    ranges.length ≤ (kMaxProgramLength - kTrailingInstructions) / kInstructionsPerRange ∧
      ∃ blocks, rangeBlocks ranges = .ok blocks ∧
        program = blocks ++ hostBlocks ++ [bpfStatement kReturnConstant kSeccompRetAllow] := by
  simp only [installGuestExecutableSyscallFilter, bind_eq_ok, refuseIf_eq_ok, pure_eq_ok, not_lt,
    gt_iff_lt] at h
  obtain ⟨-, -, -, hlength, blocks, hblocks, -, -, -, -, rfl⟩ := h
  exact ⟨hlength, blocks, hblocks, rfl⟩

/-- Whatever the kernel asks about, the filter gives the verdict of the policy. -/
theorem run_installed
    (hranges : buildSeccompInstructionPointerRanges (buildExecutableRanges image) = .ok ranges)
    (hinstalled : installGuestExecutableSyscallFilter kernel ranges = .ok program)
    (data : SeccompData) :
    run data.word program 0 0 = some (SyscallPolicy image data) := by
  obtain ⟨-, blocks, hblocks, rfl⟩ := installGuestExecutableSyscallFilter_eq_ok hinstalled
  rw [decides_program data hblocks, filterPolicy, SyscallPolicy]
  simp only [exists_range_iff hranges]

/-- **The filter does what it is for.** Where one is installed for an image, it is well formed, it
has eleven instructions for each range and fits the word that tells its length, and whatever syscall
the kernel asks about, it gives the verdict of the policy. -/
theorem seccompFilter_decides
    (hranges : buildSeccompInstructionPointerRanges (buildExecutableRanges image) = .ok ranges)
    (hinstalled : installGuestExecutableSyscallFilter kernel ranges = .ok program) :
    WellFormed kSeccompDataSize program ∧
      program.length = kInstructionsPerRange * ranges.length + kTrailingInstructions ∧
      program.length ≤ kMaxProgramLength ∧
      ∀ data : SeccompData, run data.word program 0 0 = some (SyscallPolicy image data) := by
  obtain ⟨hranges', blocks, hblocks, hprogram⟩ :=
    installGuestExecutableSyscallFilter_eq_ok hinstalled
  have hlength : program.length =
      kInstructionsPerRange * ranges.length + kTrailingInstructions := by
    rw [hprogram]
    exact length_program hblocks
  refine ⟨?_, hlength, ?_, run_installed hranges hinstalled⟩
  · rw [hprogram]
    exact wellFormed_program hblocks
  · have hfits : kInstructionsPerRange *
        ((kMaxProgramLength - kTrailingInstructions) / kInstructionsPerRange) +
          kTrailingInstructions ≤ kMaxProgramLength := by decide
    rw [hlength]
    exact (Nat.add_le_add_right (Nat.mul_le_mul_left _ hranges') _).trans hfits

/-- Two pages of code apart from each other. -/
def twoCodePages : GuestImage :=
  bareImage
    (codeAndStack.mappings ++
      [⟨⟨⟨0x5000⟩, ⟨0x10⟩, by decide⟩, .fromElfFlags 5, ⟨.zeroFill, 0, ⟨0x10⟩⟩, 1⟩])
    stackPage

/-- What the kernel says of a syscall of the host's convention. -/
def syscallFrom (instructionPointer : UInt64) (number : Int32) : SeccompData :=
  ⟨number, kAuditArchX8664, instructionPointer, Vector.replicate 6 0⟩

/-- The filter of two pages of code: whatever its number, a syscall right behind one of them is
trapped; elsewhere a read is allowed and the opening of a file refused. -/
theorem seccompFilter_decides_example :
    ∃ ranges program,
      buildSeccompInstructionPointerRanges (buildExecutableRanges twoCodePages) = .ok ranges ∧
      installGuestExecutableSyscallFilter ⟨.ok (), fun _ => .ok ()⟩ ranges = .ok program ∧
      WellFormed kSeccompDataSize program ∧
      program.length = 2 * kInstructionsPerRange + kTrailingInstructions ∧
      (∀ number, run (syscallFrom 0x1800 number).word program 0 0 = some kSeccompRetTrap ∧
        run (syscallFrom 0x5010 number).word program 0 0 = some kSeccompRetTrap) ∧
      run (syscallFrom 0x9000 0).word program 0 0 = some kSeccompRetAllow ∧
      run (syscallFrom 0x9000 2).word program 0 0 = some kRefuseHostSyscall := by
  have hranges : buildSeccompInstructionPointerRanges (buildExecutableRanges twoCodePages) =
      .ok [⟨0x1000, 0x801⟩, ⟨0x5000, 0x11⟩] := by rfl
  obtain ⟨program, hprogram⟩ : ∃ program, installGuestExecutableSyscallFilter
      ⟨.ok (), fun _ => .ok ()⟩ [⟨0x1000, 0x801⟩, ⟨0x5000, 0x11⟩] = .ok program := ⟨_, rfl⟩
  obtain ⟨hwell, hlength, -, hrun⟩ := seccompFilter_decides hranges hprogram
  have htraps : ∀ instructionPointer number, instructionPointer ≠ 0 →
      exactExecutableContains twoCodePages (instructionPointer - 1) = true →
      run (syscallFrom instructionPointer number).word program 0 0 = some kSeccompRetTrap := by
    intro instructionPointer number hne hcode
    rw [hrun, SyscallPolicy, if_pos (.inr ⟨hne, hcode⟩)]
  refine ⟨_, program, hranges, hprogram, hwell, hlength, fun number => ⟨?_, ?_⟩, ?_, ?_⟩
  · exact htraps _ number (by decide) (by decide)
  · exact htraps _ number (by decide) (by decide)
  · rw [hrun]
    decide
  · rw [hrun]
    decide

end Filter

end Astraea.Execution
