import Astraea.Execution.Hle
import Astraea.Research.OwnedGuestAddressSpace

/-!
# Owned CPU steps

The tool executes a handful of x86-64 instructions on a guest CPU context and an owned address
space. Instructions are decoded by a library; a `ZydisDecoder` is what the tool sees of it, a
function from the bytes of an instruction to what they decode to.

`step_owned_x86_64` decodes one instruction, checks its operands on a copy of the context and
makes its store, if it has one, last. `run_owned_x86_64` fetches, decodes and steps until its
budget is used up or an instruction is refused, and keeps a record of each step in a span of the
caller.
-/

namespace Astraea.Research

open Astraea.Base Astraea.Execution

/-! ### The decoder -/

/-- `ZydisMnemonic`, as far as the tool tells them apart. -/
inductive ZydisMnemonic where
  | and
  | call
  | jmp
  | mov
  | push
  | ret
  | sub
  | syscall
  | other (id : UInt32)
  deriving DecidableEq

/-- `ZydisRegister`, as far as the tool tells them apart. -/
inductive ZydisRegister where
  | none
  | rax
  | rbx
  | rcx
  | rdx
  | rsi
  | rdi
  | rbp
  | rsp
  | r8
  | r9
  | r10
  | r11
  | r12
  | r13
  | r14
  | r15
  | rip
  | ds
  | ss
  | other (id : UInt32)
  deriving DecidableEq

/-- What an operand is. -/
inductive ZydisOperandType where
  | unused
  | register
  | memory
  | pointer
  | immediate
  deriving DecidableEq

/-- The memory part of an operand. -/
structure ZydisOperandMemory where
  segment : ZydisRegister := .none
  base : ZydisRegister := .none
  index : ZydisRegister := .none
  scale : UInt8 := 0
  hasDisplacement : Bool := false
  displacement : Int64 := 0
  deriving DecidableEq

/-- `ZydisDecodedOperand`: the fields the tool reads, zero where they are not the operand's. -/
structure ZydisDecodedOperand where
  type : ZydisOperandType := .unused
  size : UInt16 := 0
  reg : ZydisRegister := .none
  mem : ZydisOperandMemory := {}
  isRelative : Bool := false
  imm : Int64 := 0
  deriving DecidableEq

/-- `ZydisDecodedInstruction`, with its operands. -/
structure ZydisDecodedInstruction where
  mnemonic : ZydisMnemonic
  length : UInt8
  operandCountVisible : UInt8
  operands : List ZydisDecodedOperand
  deriving DecidableEq

/-- An operand. The array of operands is cleared before the decoder fills it. -/
def ZydisDecodedInstruction.op (insn : ZydisDecodedInstruction) (index : ℕ) : ZydisDecodedOperand :=
  insn.operands.getD index {}

/-- The decoder: whether it can be set up, and what the bytes of an instruction decode to. -/
structure ZydisDecoder where
  init : Bool
  decodeFull : List UInt8 → Option ZydisDecodedInstruction

/-- The longest instruction. -/
def kX86MaximumInstructionBytes : ℕ := 15

/-- `DecodedSourceInstruction`, without the facts about its static dependencies. -/
structure DecodedSourceInstruction where
  rip : UInt64
  length : UInt8
  bytes : List UInt8
  mnemonic : ZydisMnemonic
  deriving DecidableEq

/-! ### Outcomes -/

/-- Why an instruction is not executed. -/
inductive OwnedCpuStepStopCode where
  | decodeRefused
  | contextMismatch
  | unsupportedInstruction
  | unsupportedOperand
  | unresolvedControlTransfer
  | addressOverflow
  | guestMemoryRefused
  deriving DecidableEq

/-- An instruction that is not executed, and where. -/
structure OwnedCpuStepStop where
  code : OwnedCpuStepStopCode
  guestRip : UInt64
  memoryFault : Option OwnedGuestMemoryFault
  deriving DecidableEq

/-- What an executed instruction has done. -/
structure OwnedCpuStepCommit where
  nextRip : UInt64
  guestWrites : ℕ
  guestWriteAddress : Option UInt64
  guestWriteSize : ℕ
  guestWriteBytes : List UInt8
  deriving DecidableEq

/-! ### Arithmetic -/

/-- The carry flag. -/
def kCF : UInt64 := 1

/-- The parity flag. -/
def kPF : UInt64 := (1 : UInt64) <<< 2

/-- The auxiliary carry flag. -/
def kAF : UInt64 := (1 : UInt64) <<< 4

/-- The zero flag. -/
def kZF : UInt64 := (1 : UInt64) <<< 6

/-- The sign flag. -/
def kSF : UInt64 := (1 : UInt64) <<< 7

/-- The overflow flag. -/
def kOF : UInt64 := (1 : UInt64) <<< 11

/-- The flags that arithmetic sets. -/
def kArithmeticFlags : UInt64 := kCF ||| kPF ||| kAF ||| kZF ||| kSF ||| kOF

/-- The flags that a logic operation defines. -/
def kDefinedLogicFlags : UInt64 := kCF ||| kPF ||| kZF ||| kSF ||| kOF

/-- A register of the context, to be read and to be written. -/
structure RegisterSlot where
  read : GuestCpuContext → UInt64
  write : GuestCpuContext → UInt64 → GuestCpuContext

/-- `register_slot`. -/
def registerSlot : ZydisRegister → Option RegisterSlot
  | .rax => some ⟨fun cpu => cpu.rax, fun cpu value => { cpu with rax := value }⟩
  | .rbx => some ⟨fun cpu => cpu.rbx, fun cpu value => { cpu with rbx := value }⟩
  | .rcx => some ⟨fun cpu => cpu.rcx, fun cpu value => { cpu with rcx := value }⟩
  | .rdx => some ⟨fun cpu => cpu.rdx, fun cpu value => { cpu with rdx := value }⟩
  | .rsi => some ⟨fun cpu => cpu.rsi, fun cpu value => { cpu with rsi := value }⟩
  | .rdi => some ⟨fun cpu => cpu.rdi, fun cpu value => { cpu with rdi := value }⟩
  | .rbp => some ⟨fun cpu => cpu.rbp, fun cpu value => { cpu with rbp := value }⟩
  | .rsp => some ⟨fun cpu => cpu.rsp, fun cpu value => { cpu with rsp := value }⟩
  | .r8 => some ⟨fun cpu => cpu.r8, fun cpu value => { cpu with r8 := value }⟩
  | .r9 => some ⟨fun cpu => cpu.r9, fun cpu value => { cpu with r9 := value }⟩
  | .r10 => some ⟨fun cpu => cpu.r10, fun cpu value => { cpu with r10 := value }⟩
  | .r11 => some ⟨fun cpu => cpu.r11, fun cpu value => { cpu with r11 := value }⟩
  | .r12 => some ⟨fun cpu => cpu.r12, fun cpu value => { cpu with r12 := value }⟩
  | .r13 => some ⟨fun cpu => cpu.r13, fun cpu value => { cpu with r13 := value }⟩
  | .r14 => some ⟨fun cpu => cpu.r14, fun cpu value => { cpu with r14 := value }⟩
  | .r15 => some ⟨fun cpu => cpu.r15, fun cpu value => { cpu with r15 := value }⟩
  | _ => none

/-- `add_signed`. -/
def addSigned (base : UInt64) (delta : Int64) : Option UInt64 :=
  if delta ≥ 0 then
    let shift := delta.toUInt64
    if base > u64Max - shift then none else some (base + shift)
  else
    let magnitude := (-(delta + 1)).toUInt64 + 1
    if base < magnitude then none else some (base - magnitude)

/-- The parity flag is set where the low byte has an even number of ones. -/
def evenParity (value : UInt64) : Bool :=
  ((List.range 8).countP fun i => value.toNat.testBit i) % 2 == 0

/-- `subtraction_flags`. -/
def subtractionFlags (lhs rhs result : UInt64) : UInt64 :=
  (if lhs < rhs then kCF else 0) ||| (if evenParity result = true then kPF else 0) |||
    (if (lhs ^^^ rhs ^^^ result) &&& 0x10 ≠ 0 then kAF else 0) |||
      (if result = 0 then kZF else 0) |||
    (if result &&& ((1 : UInt64) <<< 63) ≠ 0 then kSF else 0) |||
    (if (lhs ^^^ rhs) &&& (lhs ^^^ result) &&& ((1 : UInt64) <<< 63) ≠ 0 then kOF else 0)

/-- `logic_and_flags`. -/
def logicAndFlags (value : UInt64) : UInt64 :=
  (if evenParity value = true then kPF else 0) ||| (if value = 0 then kZF else 0) |||
    (if value &&& ((1 : UInt64) <<< 63) ≠ 0 then kSF else 0)

/-- `word_bytes`. -/
def wordBytes (value : UInt64) : List UInt8 := leBytes 8 value.toNat

/-- `owned_cpu_memory_address`. -/
def ownedCpuMemoryAddress (cpu : GuestCpuContext) (operand : ZydisDecodedOperand)
    (nextRip : UInt64) : Option UInt64 :=
  if operand.type ≠ .memory ∨ operand.mem.index ≠ .none ∨
    (operand.mem.scale ≠ 0 ∧ operand.mem.scale ≠ 1) ∨
      (operand.mem.segment ≠ .none ∧ operand.mem.segment ≠ .ds ∧ operand.mem.segment ≠ .ss) then
        none
  else do
    let base ← if operand.mem.base = .rip then some nextRip
      else (registerSlot operand.mem.base).map fun reg => reg.read cpu
    addSigned base (if operand.mem.hasDisplacement = true then operand.mem.displacement else 0)

/-! ### One step -/

/-- What an instruction is about to do: the context after it, where it goes, and its store. -/
structure PendingStep where
  cpu : GuestCpuContext
  committedRip : UInt64
  guestWrite : Option (UInt64 × UInt64)
  deriving DecidableEq

section Forms

variable (space : OwnedGuestAddressSpace) (memory : ℕ → UInt8) (cpu : GuestCpuContext)
  (insn : ZydisDecodedInstruction) (next : UInt64)

/-- A refusal at the instruction of the context. -/
def refusal (code : OwnedCpuStepStopCode) : OwnedCpuStepStop := ⟨code, cpu.rip, none⟩

/-- A relative `CALL`: its target can be fetched from, and the address after it goes to the stack.
-/
def callForm : Except OwnedCpuStepStop PendingStep := do
  let target ← orRefuse (addSigned next (insn.op 0).imm) (refusal cpu .addressOverflow)
  refuseIf ((space.fetch memory target 1).toOption.isNone = true ∨ cpu.rsp < 8)
    (refusal cpu .unresolvedControlTransfer)
  return ⟨{ cpu with rsp := cpu.rsp - 8 }, target, some (cpu.rsp - 8, next)⟩

/-- `PUSH r64`. The value of `RSP` that is pushed is the one before. -/
def pushForm : Except OwnedCpuStepStop PendingStep := do
  let src ← orRefuse (registerSlot (insn.op 0).reg) (refusal cpu .unsupportedOperand)
  refuseIf (cpu.rsp < 8) (refusal cpu .unsupportedOperand)
  return ⟨{ cpu with rsp := cpu.rsp - 8 }, next, some (cpu.rsp - 8, src.read cpu)⟩

/-- `MOV r64, r64`. -/
def movRegisterForm : Except OwnedCpuStepStop PendingStep := do
  let dst ← orRefuse (registerSlot (insn.op 0).reg) (refusal cpu .unsupportedOperand)
  let src ← orRefuse (registerSlot (insn.op 1).reg) (refusal cpu .unsupportedOperand)
  return ⟨dst.write cpu (src.read cpu), next, none⟩

/-- `AND r64, imm`. -/
def andForm : Except OwnedCpuStepStop PendingStep := do
  let slot ← orRefuse (registerSlot (insn.op 0).reg) (refusal cpu .unsupportedOperand)
  let result := slot.read cpu &&& (insn.op 1).imm.toUInt64
  return ⟨{ slot.write cpu result with
    rflags := (cpu.rflags &&& ~~~kDefinedLogicFlags) ||| logicAndFlags result }, next, none⟩

/-- `SUB r64, imm`. The stack pointer is not taken below zero. -/
def subForm : Except OwnedCpuStepStop PendingStep := do
  let slot ← orRefuse (registerSlot (insn.op 0).reg) (refusal cpu .unsupportedOperand)
  let lhs := slot.read cpu
  let rhs := (insn.op 1).imm.toUInt64
  refuseIf ((insn.op 0).reg = .rsp ∧ rhs > lhs) (refusal cpu .unsupportedOperand)
  return ⟨{ slot.write cpu (lhs - rhs) with
    rflags := (cpu.rflags &&& ~~~kArithmeticFlags) ||| subtractionFlags lhs rhs (lhs - rhs) }, next,
      none⟩

/-- `MOV qword [base + disp], imm`. -/
def movStoreForm : Except OwnedCpuStepStop PendingStep := do
  let address ← orRefuse (ownedCpuMemoryAddress cpu (insn.op 0) next)
    (refusal cpu .unsupportedOperand)
  return ⟨cpu, next, some (address, (insn.op 1).imm.toUInt64)⟩

/-- A `CALL` that may be followed: five bytes, with a relative immediate. -/
def isDirectCall (record : DecodedSourceInstruction) : Prop :=
  insn.operandCountVisible = 1 ∧ (insn.op 0).type = .immediate ∧ (insn.op 0).isRelative = true ∧
    record.length = 5 ∧ record.bytes.getD 0 0 = 0xe8

instance (record : DecodedSourceInstruction) : Decidable (isDirectCall insn record) :=
  inferInstanceAs (Decidable (_ ∧ _))

/-- The instruction, by its form. -/
def pendingStep (record : DecodedSourceInstruction) : Except OwnedCpuStepStop PendingStep := do
  refuseIf (insn.mnemonic = .jmp ∨ insn.mnemonic = .ret ∨ insn.mnemonic = .syscall ∨
    (insn.mnemonic = .call ∧ ¬ isDirectCall insn record)) (refusal cpu .unresolvedControlTransfer)
  if insn.mnemonic = .call ∧ isDirectCall insn record then callForm space memory cpu insn next
  else if insn.mnemonic = .push ∧ insn.operandCountVisible = 1 ∧ (insn.op 0).type = .register ∧
    (insn.op 0).size = 64 then
    pushForm cpu insn next
  else if insn.mnemonic = .mov ∧ insn.operandCountVisible = 2 ∧ (insn.op 0).type = .register ∧
      (insn.op 1).type = .register ∧ (insn.op 0).size = 64 ∧ (insn.op 1).size = 64 then
    movRegisterForm cpu insn next
  else if insn.mnemonic = .and ∧ insn.operandCountVisible = 2 ∧ (insn.op 0).type = .register ∧
    (insn.op 0).size = 64 ∧
      (insn.op 1).type = .immediate then
    andForm cpu insn next
  else if insn.mnemonic = .sub ∧ insn.operandCountVisible = 2 ∧ (insn.op 0).type = .register ∧
    (insn.op 0).size = 64 ∧
      (insn.op 1).type = .immediate then
    subForm cpu insn next
  else if insn.mnemonic = .mov ∧ insn.operandCountVisible = 2 ∧ (insn.op 0).type = .memory ∧
      (insn.op 1).type = .immediate ∧ (insn.op 0).size = 64 then
    movStoreForm cpu insn next
  else .error (refusal cpu .unsupportedInstruction)

end Forms

section Step

variable (decoder : ZydisDecoder) (space : OwnedGuestAddressSpace)

/-- `step_owned_x86_64`, up to its store. -/
def decodeStep (record : DecodedSourceInstruction) (cpu : GuestCpuContext) (memory : ℕ → UInt8) :
    Except OwnedCpuStepStop (UInt64 × PendingStep) := do
  refuseIf (record.rip ≠ cpu.rip) (refusal cpu .contextMismatch)
  refuseIf (record.length = 0 ∨ record.length.toNat > kX86MaximumInstructionBytes ∨
    decoder.init = false)
    (refusal cpu .decodeRefused)
  let insn ← orRefuse (decoder.decodeFull (record.bytes.take record.length.toNat))
    (refusal cpu .decodeRefused)
  refuseIf (insn.length ≠ record.length ∨ insn.mnemonic ≠ record.mnemonic)
    (refusal cpu .decodeRefused)
  refuseIf (record.rip > u64Max - insn.length.toUInt64) (refusal cpu .addressOverflow)
  let next := record.rip + insn.length.toUInt64
  let pending ← pendingStep space memory cpu insn next record
  return (next, pending)

/-- `step_owned_x86_64`: its outcome, and the context and the host memory it leaves. -/
def stepOwnedX8664 (record : DecodedSourceInstruction) (cpu : GuestCpuContext)
    (memory : ℕ → UInt8) :
    Except OwnedCpuStepStop OwnedCpuStepCommit × GuestCpuContext × (ℕ → UInt8) :=
  match decodeStep decoder space record cpu memory with
  | .error stop => (.error stop, cpu, memory)
  | .ok (next, pending) =>
    match pending.guestWrite with
    | none => (.ok ⟨next, 0, none, 0, List.replicate 8 0⟩,
        { pending.cpu with rip := pending.committedRip }, memory)
    | some (address, value) =>
      match space.write memory address (wordBytes value) with
      | .error fault => (.error ⟨.guestMemoryRefused, cpu.rip, some fault⟩, cpu, memory)
      | .ok written =>
        (.ok ⟨next, 1, some address, 8, wordBytes value⟩,
          { pending.cpu with rip := pending.committedRip }, written)

end Step

/-! ### Runs -/

/-- The most instructions of a run. -/
def kC1MaxOwnedRunInstructions : ℕ := 4096

/-- Why a run ended. -/
inductive OwnedCpuRunStopCode where
  | invalidBudget
  | budgetExhausted
  | fetchRefused
  | invalidEncoding
  | stepRefused
  deriving DecidableEq

/-- A step of a run. -/
structure OwnedCpuTraceStep where
  beforeRip : UInt64
  afterRip : UInt64
  afterContext : GuestCpuContext
  guestWriteAddress : Option UInt64
  guestWriteSize : ℕ
  guestWriteBytes : List UInt8
  deriving DecidableEq

/-- The steps of a run, and why it ended. -/
structure OwnedCpuRunReport where
  retiredInstructions : ℕ := 0
  guestWrites : ℕ := 0
  traceSteps : ℕ := 0
  stop : OwnedCpuRunStopCode := .invalidBudget
  stopRip : UInt64 := 0
  memoryFault : Option OwnedGuestMemoryFault := none
  stepStop : Option OwnedCpuStepStop := none
  deriving DecidableEq

/-- All that a run changes: the context, the host memory, the span of the caller and the report. -/
structure OwnedRun where
  cpu : GuestCpuContext
  memory : ℕ → UInt8
  trace : List OwnedCpuTraceStep
  report : OwnedCpuRunReport

section Runs

variable (decoder : ZydisDecoder) (space : OwnedGuestAddressSpace)

/-- The bytes at the instruction pointer, one at a time, up to the first that cannot be fetched. -/
def fetchBytes (memory : ℕ → UInt8) (rip : UInt64) :
    (remaining n : ℕ) → List UInt8 × Option OwnedGuestMemoryFault
  | 0, _ => ([], none)
  | remaining + 1, n =>
    if rip > u64Max - UInt64.ofNat n then ([], some ⟨.addressOverflow, rip⟩)
    else
      match space.fetch memory (rip + UInt64.ofNat n) 1 with
      | .error fault => ([], some fault)
      | .ok fetched =>
        let rest := fetchBytes memory rip remaining (n + 1)
        (fetched ++ rest.1, rest.2)

/-- One instruction is fetched and decoded, or the run stops. -/
def fetchInstruction (cpu : GuestCpuContext) (memory : ℕ → UInt8) :
    Except (OwnedCpuRunStopCode × Option OwnedGuestMemoryFault) DecodedSourceInstruction := do
  let fetched := fetchBytes space memory cpu.rip kX86MaximumInstructionBytes 0
  let bytes := fetched.1
  let fetchFault := fetched.2
  refuseIf (bytes.length = 0) (.fetchRefused, fetchFault)
  let refused := (if fetchFault.isSome = true then OwnedCpuRunStopCode.fetchRefused
    else .invalidEncoding, fetchFault)
  let instruction ← orRefuse (decoder.decodeFull bytes) refused
  refuseIf (instruction.length = 0 ∨ instruction.length.toNat > bytes.length ∨
    instruction.length.toNat > kX86MaximumInstructionBytes) refused
  return {
    rip := cpu.rip
    length := instruction.length
    bytes := bytes.take instruction.length.toNat ++
      List.replicate (kX86MaximumInstructionBytes - instruction.length.toNat) 0
    mnemonic := instruction.mnemonic }

/-- The record of a step. -/
def traceStep (beforeRip : UInt64) (cpu : GuestCpuContext) (committed : OwnedCpuStepCommit) :
    OwnedCpuTraceStep where
  beforeRip := beforeRip
  afterRip := cpu.rip
  afterContext := cpu
  guestWriteAddress := committed.guestWriteAddress
  guestWriteSize := committed.guestWriteSize
  guestWriteBytes := committed.guestWriteBytes

/-- The run after a step that was committed. Nothing is recorded in an empty span. -/
def OwnedRun.retire (run : OwnedRun) (record : DecodedSourceInstruction)
    (committed : OwnedCpuStepCommit) (cpu : GuestCpuContext) (memory : ℕ → UInt8) : OwnedRun where
  cpu := cpu
  memory := memory
  trace := if run.trace.isEmpty = true then run.trace
    else run.trace.set run.report.traceSteps (traceStep record.rip cpu committed)
  report := { run.report with
    traceSteps :=
      if run.trace.isEmpty = true then run.report.traceSteps else run.report.traceSteps + 1
    retiredInstructions := run.report.retiredInstructions + 1
    guestWrites := run.report.guestWrites + committed.guestWrites
    stopRip := run.cpu.rip }

/-- The loop of `run_owned_x86_64`, by the budget that is left. -/
def runOwnedRounds : (remaining : ℕ) → OwnedRun → OwnedRun
  | 0, run => { run with
      report := { run.report with stop := .budgetExhausted, stopRip := run.cpu.rip } }
  | remaining + 1, run =>
    match fetchInstruction decoder space run.cpu run.memory with
    | .error (stop, fault) =>
      { run with report := { run.report with
        stop := stop, stopRip := run.cpu.rip, memoryFault := fault } }
    | .ok record =>
      match stepOwnedX8664 decoder space record run.cpu run.memory with
      | (.error stop, cpu, memory) =>
        { run with
          cpu := cpu
          memory := memory
          report := { run.report with
            stop := .stepRefused, stopRip := run.cpu.rip, stepStop := some stop } }
      | (.ok committed, cpu, memory) =>
        runOwnedRounds remaining (run.retire record committed cpu memory)

/-- `run_owned_x86_64`. -/
def runOwnedX8664 (cpu : GuestCpuContext) (memory : ℕ → UInt8) (instructionBudget : ℕ)
    (trace : List OwnedCpuTraceStep) :
    OwnedRun :=
  let report : OwnedCpuRunReport := { stopRip := cpu.rip }
  if instructionBudget = 0 ∨ instructionBudget > kC1MaxOwnedRunInstructions ∨
      (¬ trace.isEmpty = true ∧ trace.length < instructionBudget) then ⟨cpu, memory, trace, report⟩
  else if decoder.init = false then ⟨cpu, memory, trace, { report with stop := .invalidEncoding }⟩
  else runOwnedRounds decoder space instructionBudget ⟨cpu, memory, trace, report⟩

end Runs

end Astraea.Research
