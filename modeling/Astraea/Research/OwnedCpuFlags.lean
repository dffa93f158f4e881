import Astraea.Base.Borrow
import Astraea.Research.OwnedCpuStep

/-!
# Flags of the owned interpreter

`SUB r64, imm` and `AND r64, imm` set flags, which the interpreter finds with exclusive ors and
masks. `subtractionFlags_bits` and `logicAndFlags_bits` say what these come to bit by bit, and
`subAndFlags_architectural` what a step that retires leaves in the context.
-/

namespace Astraea.Research

open Astraea.Base Astraea.Execution

/-! ### Bits of words -/

/-- A bit of a word. -/
def bitOf (value : UInt64) (i : ℕ) : Bool := value.toNat.testBit i

section Bits

variable {a b value : UInt64} {i : ℕ}

@[simp] theorem bitOf_or : bitOf (a ||| b) i = (bitOf a i || bitOf b i) := by
  rw [bitOf, UInt64.toNat_or, Nat.testBit_or, bitOf, bitOf]

@[simp] theorem bitOf_and : bitOf (a &&& b) i = (bitOf a i && bitOf b i) := by
  rw [bitOf, UInt64.toNat_and, Nat.testBit_and, bitOf, bitOf]

@[simp] theorem bitOf_zero : bitOf 0 i = false := Nat.zero_testBit i

theorem bitOf_not (hi : i < 64) : bitOf (~~~a) i = !bitOf a i := by
  have hnot : UInt64.size - 1 - a.toNat = 2 ^ 64 - (a.toNat + 1) := by
    rw [Nat.sub_sub, Nat.add_comm, show UInt64.size = 2 ^ 64 from rfl]
  rw [bitOf, bitOf, UInt64.toNat_not, hnot, Nat.testBit_two_pow_sub_succ a.toNat_lt,
    decide_eq_true hi, Bool.true_and]

theorem bitOf_of_le (hi : 64 ≤ i) : bitOf value i = false :=
  Nat.testBit_lt_two_pow (lt_of_lt_of_le value.toNat_lt (Nat.pow_le_pow_right Nat.two_pos hi))

variable {flag : UInt64}

/-- A flag that is set on a condition has that condition as its one bit. -/
theorem bitOf_flag {k : ℕ} (hflag : flag.toNat = 2 ^ k) (p : Prop) [Decidable p] :
    bitOf (if p then flag else 0) i = (decide p && decide (k = i)) := by
  by_cases hp : p
  · rw [if_pos hp, bitOf, hflag, Nat.testBit_two_pow, decide_eq_true hp, Bool.true_and]
  · rw [if_neg hp, bitOf_zero, decide_eq_false hp, Bool.false_and]

theorem and_flag_ne_zero {k : ℕ} (hflag : flag.toNat = 2 ^ k) :
    value &&& flag ≠ 0 ↔ bitOf value k = true := by
  rw [ne_eq, ← UInt64.toNat_inj, UInt64.toNat_and, hflag, bitOf]
  exact and_two_pow_ne_zero

end Bits

/-! ### What the flags say -/

/-- The low byte has an even number of ones. -/
def EvenOnes (value : UInt64) : Prop :=
  Even ((Finset.range 8).filter fun i => bitOf value i = true).card

theorem evenParity_iff {value : UInt64} : evenParity value = true ↔ EvenOnes value := by
  have hcard : ((Finset.range 8).filter fun i => bitOf value i = true).card =
      ((List.range 8).filter fun i => decide (bitOf value i = true)).length := rfl
  rw [evenParity, beq_iff_eq, EvenOnes, Nat.even_iff, List.countP_eq_length_filter, hcard]
  rw [List.filter_congr fun i _ =>
    (Bool.decide_eq_true : decide (bitOf value i = true) = bitOf value i)]
  rfl

/-- The status flags of `RFLAGS` after an instruction, and that its other bits are as before. -/
structure FlagsSet (before after : UInt64) (carry parity auxiliary zero sign overflow : Prop) :
    Prop where
  carry : bitOf after 0 = true ↔ carry
  parity : bitOf after 2 = true ↔ parity
  auxiliary : bitOf after 4 = true ↔ auxiliary
  zero : bitOf after 6 = true ↔ zero
  sign : bitOf after 7 = true ↔ sign
  overflow : bitOf after 11 = true ↔ overflow
  others : ∀ i, i ∉ [0, 2, 4, 6, 7, 11] → bitOf after i = bitOf before i

section Flags

variable {lhs rhs result : UInt64} {i : ℕ}

theorem toNat_flags :
    kCF.toNat = 2 ^ 0 ∧ kPF.toNat = 2 ^ 2 ∧ kAF.toNat = 2 ^ 4 ∧ kZF.toNat = 2 ^ 6 ∧
    kSF.toNat = 2 ^ 7 ∧
    kOF.toNat = 2 ^ 11 := by decide

theorem subtractionFlags_bits : bitOf (subtractionFlags lhs rhs result) i =
    (decide (lhs < rhs) && decide (0 = i) || decide (evenParity result = true) && decide (2 = i) ||
      bitOf (lhs ^^^ rhs ^^^ result) 4 && decide (4 = i) || decide (result = 0) && decide (6 = i) ||
      bitOf result 63 && decide (7 = i) || bitOf ((lhs ^^^ rhs) &&& (lhs ^^^ result)) 63 &&
        decide (11 = i)) := by
  obtain ⟨hcf, hpf, haf, hzf, hsf, hof⟩ := toNat_flags
  have hnibble : ((0x10 : UInt64)).toNat = 2 ^ 4 := rfl
  have hsign : ((1 : UInt64) <<< 63).toNat = 2 ^ 63 := rfl
  simp only [subtractionFlags, bitOf_or, bitOf_flag hcf, bitOf_flag hpf, bitOf_flag haf,
    bitOf_flag hzf, bitOf_flag hsf, bitOf_flag hof, and_flag_ne_zero hnibble,
    and_flag_ne_zero hsign, Bool.decide_eq_true]

theorem logicAndFlags_bits : bitOf (logicAndFlags result) i =
    (decide (evenParity result = true) && decide (2 = i) || decide (result = 0) && decide (6 = i) ||
      bitOf result 63 && decide (7 = i)) := by
  obtain ⟨-, hpf, -, hzf, hsf, -⟩ := toNat_flags
  have hsign : ((1 : UInt64) <<< 63).toNat = 2 ^ 63 := rfl
  simp only [logicAndFlags, bitOf_or, bitOf_flag hpf, bitOf_flag hzf, bitOf_flag hsf,
    and_flag_ne_zero hsign, Bool.decide_eq_true]

theorem masks_bits : bitOf kArithmeticFlags i = decide (i ∈ [0, 2, 4, 6, 7, 11]) ∧
    bitOf kDefinedLogicFlags i = decide (i ∈ [0, 2, 6, 7, 11]) := by
  obtain ⟨hcf, hpf, haf, hzf, hsf, hof⟩ := toNat_flags
  have hbit : ∀ {k : ℕ} {flag : UInt64}, flag.toNat = 2 ^ k → bitOf flag i = decide (i = k) := by
    intro k flag hflag
    rw [bitOf, hflag, Nat.testBit_two_pow]
    exact decide_eq_decide.mpr eq_comm
  simp only [kArithmeticFlags, kDefinedLogicFlags, bitOf_or, hbit hcf, hbit hpf, hbit haf, hbit hzf,
    hbit hsf, hbit hof, List.mem_cons, List.not_mem_nil, or_false, Bool.decide_or, Bool.or_assoc,
    and_self]

theorem toNat_difference (lhs rhs : UInt64) : (lhs - rhs).toNat = wrapSub 64 lhs.toNat rhs.toNat :=
  UInt64.toNat_sub ..

theorem signed_eq (value : UInt64) : value.toInt64.toInt = signedOf 64 value.toNat := by
  change value.toBitVec.toInt = _
  rw [BitVec.toInt_eq_toNat_cond, signedOf]
  change (if 2 * value.toNat < 2 ^ 64 then (value.toNat : ℤ)
    else value.toNat - ((2 ^ 64 : ℕ) : ℤ)) = _
  have hiff : 2 * value.toNat < 2 ^ 64 ↔ value.toNat < 2 ^ 63 := by omega
  simp only [hiff]
  rfl

/-- **The flags of a subtraction.** -/
theorem flagsSet_sub (before lhs rhs : UInt64) :
    FlagsSet before ((before &&& ~~~kArithmeticFlags) ||| subtractionFlags lhs rhs (lhs - rhs))
      (lhs.toNat < rhs.toNat) (EvenOnes (lhs - rhs)) (lhs.toNat % 16 < rhs.toNat % 16)
        (lhs - rhs = 0)
      ((lhs - rhs).toInt64.toInt < 0)
      (¬ (-2 ^ 63 ≤ lhs.toInt64.toInt - rhs.toInt64.toInt ∧
        lhs.toInt64.toInt - rhs.toInt64.toInt < 2 ^ 63)) := by
  have hmask : ∀ i, i ∈ [0, 2, 4, 6, 7, 11] → bitOf (before &&& ~~~kArithmeticFlags) i = false := by
    intro i hi
    have hlt : i < 64 := by
      simp only [List.mem_cons, List.not_mem_nil, or_false] at hi
      omega
    rw [bitOf_and, bitOf_not hlt, masks_bits.1, decide_eq_true hi, Bool.not_true, Bool.and_false]
  have hsign : ∀ value : UInt64, bitOf value 63 = decide (value.toInt64.toInt < 0) := by
    intro value
    rw [signed_eq, bitOf]
    exact testBit_sign (by decide) value.toNat_lt
  have hoverflow : bitOf ((lhs ^^^ rhs) &&& (lhs ^^^ (lhs - rhs))) 63 = true ↔
      ¬ SignedFits 64 (signedOf 64 lhs.toNat - signedOf 64 rhs.toNat) := by
    rw [bitOf, UInt64.toNat_and, UInt64.toNat_xor, UInt64.toNat_xor, toNat_difference]
    exact testBit_overflow (by decide) lhs.toNat_lt rhs.toNat_lt
  have hborrow : bitOf (lhs ^^^ rhs ^^^ (lhs - rhs)) 4 = borrowsFrom 4 lhs.toNat rhs.toNat := by
    rw [bitOf, UInt64.toNat_xor, UInt64.toNat_xor, toNat_difference]
    exact testBit_xor_wrapSub rhs.toNat_lt (by decide)
  refine ⟨?_, ?_, ?_, ?_, ?_, ?_, ?_⟩
  · rw [bitOf_or, hmask 0 (by decide), subtractionFlags_bits]
    simp [UInt64.lt_iff_toNat_lt]
  · rw [bitOf_or, hmask 2 (by decide), subtractionFlags_bits, ← evenParity_iff]
    simp
  · rw [bitOf_or, hmask 4 (by decide), subtractionFlags_bits, hborrow]
    simp [borrowsFrom]
  · rw [bitOf_or, hmask 6 (by decide), subtractionFlags_bits]
    simp
  · rw [bitOf_or, hmask 7 (by decide), subtractionFlags_bits, hsign]
    simp
  · rw [signed_eq, signed_eq]
    refine Iff.trans ?_ hoverflow
    rw [bitOf_or, hmask 11 (by decide), subtractionFlags_bits]
    simp
  · intro i hi
    have hnot : ∀ k ∈ [0, 2, 4, 6, 7, 11], ¬ k = i := fun k hk heq => hi (heq ▸ hk)
    rw [bitOf_or, subtractionFlags_bits]
    simp only [List.forall_mem_cons, List.not_mem_nil, false_implies, implies_true, and_true]
      at hnot
    obtain ⟨h0, h2, h4, h6, h7, h11⟩ := hnot
    rcases Nat.lt_or_ge i 64 with hlt | hge
    · rw [bitOf_and, bitOf_not hlt, masks_bits.1, decide_eq_false hi]
      simp [h0, h2, h4, h6, h7, h11]
    · rw [bitOf_and, bitOf_of_le hge, bitOf_of_le hge]
      simp [h0, h2, h4, h6, h7, h11]

/-- **The flags of a logical and.** -/
theorem flagsSet_and (before result : UInt64) :
    FlagsSet before ((before &&& ~~~kDefinedLogicFlags) ||| logicAndFlags result) False
      (EvenOnes result)
      (bitOf before 4 = true) (result = 0) (result.toInt64.toInt < 0) False := by
  have hsign : bitOf result 63 = decide (result.toInt64.toInt < 0) := by
    rw [signed_eq, bitOf]
    exact testBit_sign (by decide) result.toNat_lt
  have hmask : ∀ i < 64, bitOf (before &&& ~~~kDefinedLogicFlags) i =
      (bitOf before i && !decide (i ∈ [0, 2, 6, 7, 11])) := by
    intro i hi
    rw [bitOf_and, bitOf_not hi, masks_bits.2]
  refine ⟨?_, ?_, ?_, ?_, ?_, ?_, ?_⟩
  · rw [bitOf_or, hmask 0 (by decide), logicAndFlags_bits]
    simp
  · rw [bitOf_or, hmask 2 (by decide), logicAndFlags_bits, ← evenParity_iff]
    simp
  · rw [bitOf_or, hmask 4 (by decide), logicAndFlags_bits]
    simp
  · rw [bitOf_or, hmask 6 (by decide), logicAndFlags_bits]
    simp
  · rw [bitOf_or, hmask 7 (by decide), logicAndFlags_bits, hsign]
    simp
  · rw [bitOf_or, hmask 11 (by decide), logicAndFlags_bits]
    simp
  · intro i hi
    have hnot : ∀ k ∈ [0, 2, 4, 6, 7, 11], ¬ k = i := fun k hk heq => hi (heq ▸ hk)
    simp only [List.forall_mem_cons, List.not_mem_nil, false_implies, implies_true, and_true]
      at hnot
    obtain ⟨-, h2, -, h6, h7, -⟩ := hnot
    rw [bitOf_or, logicAndFlags_bits]
    rcases Nat.lt_or_ge i 64 with hlt | hge
    · have hout : i ∉ [0, 2, 6, 7, 11] := by
        simp only [List.mem_cons, List.not_mem_nil, or_false] at hi ⊢
        omega
      rw [hmask i hlt, decide_eq_false hout]
      simp [h2, h6, h7]
    · rw [bitOf_and, bitOf_of_le hge, bitOf_of_le hge]
      simp [h2, h6, h7]

end Flags

/-! ### Registers -/

section Registers

variable {reg reg' : ZydisRegister} {slot slot' : RegisterSlot}

/-- A register holds what was written to it, and `RIP`, `RFLAGS` and the segment bases are not such
a register. -/
theorem registerSlot_write (h : registerSlot reg = some slot) (cpu : GuestCpuContext)
    (value : UInt64) :
    slot.read (slot.write cpu value) = value ∧ (slot.write cpu value).rip = cpu.rip ∧
      (slot.write cpu value).rflags = cpu.rflags ∧ (slot.write cpu value).fsBase = cpu.fsBase ∧
      (slot.write cpu value).gsBase = cpu.gsBase := by
  cases reg <;> cases h <;> exact ⟨rfl, rfl, rfl, rfl, rfl⟩

theorem registerSlot_other (h : registerSlot reg = some slot) (h' : registerSlot reg' = some slot')
    (hne : reg' ≠ reg) (cpu : GuestCpuContext) (value : UInt64) :
    slot'.read (slot.write cpu value) = slot'.read cpu := by
  cases reg <;> cases h <;> cases reg' <;> cases h' <;> first | rfl | exact absurd rfl hne

theorem registerSlot_read (h : registerSlot reg = some slot) (cpu : GuestCpuContext)
    (rip rflags : UInt64) :
    slot.read { cpu with rip := rip, rflags := rflags } = slot.read cpu := by
  cases reg <;> cases h <;> rfl

end Registers

/-! ### Steps -/

/-- An instruction on a 64-bit register and an immediate value. -/
def IsRegisterImmediate (insn : ZydisDecodedInstruction) : Prop :=
  insn.operandCountVisible = 2 ∧ (insn.op 0).type = .register ∧ (insn.op 0).size = 64 ∧
    (insn.op 1).type = .immediate

/-- What a step on a register and an immediate value leaves: the register holds the result, and no
other register, no segment base and no byte of memory has changed. -/
structure RegisterStep (reg : ZydisRegister) (slot : RegisterSlot) (result : UInt64) (next : UInt64)
    (cpu cpu' : GuestCpuContext) (memory memory' : ℕ → UInt8) : Prop where
  result : slot.read cpu' = result
  rip : cpu'.rip = next
  others : ∀ reg' slot', registerSlot reg' = some slot' → reg' ≠ reg →
    slot'.read cpu' = slot'.read cpu
  fsBase : cpu'.fsBase = cpu.fsBase
  gsBase : cpu'.gsBase = cpu.gsBase
  memory : memory' = memory

section Step

variable {decoder : ZydisDecoder} {space : OwnedGuestAddressSpace}
  {record : DecodedSourceInstruction} {cpu cpu' : GuestCpuContext} {memory memory' : ℕ → UInt8}
  {insn : ZydisDecodedInstruction} {committed : OwnedCpuStepCommit}

/-- A context with one register, `RIP` and `RFLAGS` written. -/
theorem registerStep_of_slot {reg : ZydisRegister} {slot : RegisterSlot}
    (hslot : registerSlot reg = some slot) (result next rflags : UInt64) :
    RegisterStep reg slot result next cpu { slot.write cpu result with
      rflags := rflags, rip := next } memory memory := by
  obtain ⟨hread, -, -, hfs, hgs⟩ := registerSlot_write hslot cpu result
  refine ⟨?_, rfl, ?_, hfs, hgs, rfl⟩
  · exact (registerSlot_read hslot (slot.write cpu result) next rflags).trans hread
  · intro reg' slot' hslot' hne
    exact (registerSlot_read hslot' (slot.write cpu result) next rflags).trans
      (registerSlot_other hslot hslot' hne cpu result)

/-- The checks of a step before it looks at the operands. -/
theorem decodeStep_eq
    (hdecode : decoder.decodeFull (record.bytes.take record.length.toNat) = some insn)
    (next : UInt64) (pending : PendingStep) :
    decodeStep decoder space record cpu memory = .ok (next, pending) →
      next = cpu.rip + record.length.toUInt64 ∧
        pendingStep space memory cpu insn next record = .ok pending := by
  intro h
  simp only [decodeStep, bind_eq_ok, refuseIf_eq_ok, orRefuse_eq_ok, pure_eq_ok, Prod.mk.injEq] at h
  obtain ⟨_, hrip, _, -, found, hfound, _, hsame, _, -, pending', hpending, hnext, rfl⟩ := h
  rw [hdecode] at hfound
  cases hfound
  rw [not_or, not_not, not_not] at hsame
  rw [not_not] at hrip
  rw [hsame.1, hrip] at hnext hpending
  exact ⟨hnext.symm, hnext ▸ hpending⟩

/-- A step whose form has no store is what the form says. -/
theorem stepOwnedX8664_of_form
    (hdecode : decoder.decodeFull (record.bytes.take record.length.toNat) = some insn)
    (hstore : ∀ next pending, pendingStep space memory cpu insn next record = .ok pending →
      pending.guestWrite = none)
    (h : stepOwnedX8664 decoder space record cpu memory = (.ok committed, cpu', memory')) :
    ∃ pending, pendingStep space memory cpu insn (cpu.rip + record.length.toUInt64) record =
      .ok pending ∧
      cpu' = { pending.cpu with rip := pending.committedRip } ∧ memory' = memory := by
  rw [stepOwnedX8664] at h
  cases hstep : decodeStep decoder space record cpu memory with
  | error stop =>
    rw [hstep] at h
    cases h
  | ok decoded =>
    obtain ⟨next, pending⟩ := decoded
    obtain ⟨rfl, hpending⟩ := decodeStep_eq hdecode next pending hstep
    rw [hstep] at h
    dsimp only at h
    rw [hstore _ _ hpending] at h
    cases h
    exact ⟨pending, hpending, rfl, rfl⟩

theorem pendingStep_sub (hmnemonic : insn.mnemonic = .sub) (hform : IsRegisterImmediate insn)
    (next : UInt64) :
    pendingStep space memory cpu insn next record = subForm cpu insn next := by
  obtain ⟨hcount, htype, hsize, hvalue⟩ := hform
  simp [pendingStep, hmnemonic, hcount, htype, hsize, hvalue, refuseIf]
  rfl

theorem pendingStep_and (hmnemonic : insn.mnemonic = .and) (hform : IsRegisterImmediate insn)
    (next : UInt64) :
    pendingStep space memory cpu insn next record = andForm cpu insn next := by
  obtain ⟨hcount, htype, hsize, hvalue⟩ := hform
  simp [pendingStep, hmnemonic, hcount, htype, hsize, hvalue, refuseIf]
  rfl

variable {next : UInt64} {pending : PendingStep}

theorem subForm_eq_ok :
    subForm cpu insn next = .ok pending ↔
    ∃ slot, registerSlot (insn.op 0).reg = some slot ∧
      ¬ ((insn.op 0).reg = .rsp ∧ slot.read cpu < (insn.op 1).imm.toUInt64) ∧
      pending = ⟨{ slot.write cpu (slot.read cpu - (insn.op 1).imm.toUInt64) with
        rflags := (cpu.rflags &&& ~~~kArithmeticFlags) |||
          subtractionFlags (slot.read cpu) (insn.op 1).imm.toUInt64
          (slot.read cpu - (insn.op 1).imm.toUInt64) }, next, none⟩ := by
  simp only [subForm, bind_eq_ok, refuseIf_eq_ok, orRefuse_eq_ok, pure_eq_ok]
  constructor
  · rintro ⟨slot, hslot, _, hrefused, rfl⟩
    exact ⟨slot, hslot, hrefused, rfl⟩
  · rintro ⟨slot, hslot, hrefused, rfl⟩
    exact ⟨slot, hslot, (), hrefused, rfl⟩

theorem andForm_eq_ok :
    andForm cpu insn next = .ok pending ↔
    ∃ slot, registerSlot (insn.op 0).reg = some slot ∧
      pending = ⟨{ slot.write cpu (slot.read cpu &&& (insn.op 1).imm.toUInt64) with
        rflags := (cpu.rflags &&& ~~~kDefinedLogicFlags) |||
          logicAndFlags (slot.read cpu &&& (insn.op 1).imm.toUInt64) },
        next, none⟩ := by
  simp only [andForm, bind_eq_ok, orRefuse_eq_ok, pure_eq_ok]
  constructor
  · rintro ⟨slot, hslot, rfl⟩
    exact ⟨slot, hslot, rfl⟩
  · rintro ⟨slot, hslot, rfl⟩
    exact ⟨slot, hslot, rfl⟩

/-- What is checked before the operands: the record is for the instruction pointer, and decodes
again to what it says. -/
structure Redecodes (decoder : ZydisDecoder) (record : DecodedSourceInstruction)
    (cpu : GuestCpuContext) (insn : ZydisDecodedInstruction) : Prop where
  rip : record.rip = cpu.rip
  length : record.length ≠ 0 ∧ record.length.toNat ≤ kX86MaximumInstructionBytes
  init : decoder.init = true
  same : insn.length = record.length ∧ insn.mnemonic = record.mnemonic
  next : record.rip ≤ u64Max - insn.length.toUInt64

section

variable (hdecode : decoder.decodeFull (record.bytes.take record.length.toNat) = some insn)
  (h : Redecodes decoder record cpu insn)

include hdecode h

/-- A record that decodes again passes the checks before its form. -/
theorem decodeStep_of_redecodes :
    decodeStep decoder space record cpu memory =
      (pendingStep space memory cpu insn (record.rip + insn.length.toUInt64) record).map
        fun pending => (record.rip + insn.length.toUInt64, pending) := by
  have hlength : ¬ (record.length = 0 ∨ record.length.toNat > kX86MaximumInstructionBytes ∨
      decoder.init = false) := by
    rw [h.init]
    simp only [Bool.true_eq_false, or_false, not_or, gt_iff_lt, not_lt]
    exact h.length
  rw [decodeStep, refuseIf_of_not (not_not.mpr h.rip), ok_bind, refuseIf_of_not hlength, ok_bind,
    hdecode]
  simp only [orRefuse, ok_bind]
  rw [refuseIf_of_not (by rw [not_or, not_not, not_not]; exact h.same), ok_bind,
    refuseIf_of_not (UInt64.not_lt.mpr h.next), ok_bind]
  cases pendingStep space memory cpu insn (record.rip + insn.length.toUInt64) record <;> rfl

theorem stepOwnedX8664_of_redecodes
    (hform : ∃ pending, pendingStep space memory cpu insn (record.rip + insn.length.toUInt64)
      record = .ok pending ∧ pending.guestWrite = none) :
    ∃ committed cpu' memory', stepOwnedX8664 decoder space record cpu memory =
      (.ok committed, cpu', memory') := by
  obtain ⟨pending, hpending, hstore⟩ := hform
  rw [stepOwnedX8664, decodeStep_of_redecodes hdecode h, hpending]
  dsimp only [Except.map]
  rw [hstore]
  exact ⟨_, _, _, rfl⟩

end

end Step

/-- **The flags of `SUB` and `AND` are architectural.** After a `SUB` that retires the register
holds the wrapped difference, and the status flags are the borrow, the parity of the low byte, the
borrow out of bit 3, zero, the sign, and the overflow of the signed difference. After an `AND`
they are those of the result, with `AF` as it was. Nothing else changes but `RIP`. A `SUB` retires
for all operands, unless it would take `RSP` below zero, and then it is refused. -/
theorem subAndFlags_architectural (decoder : ZydisDecoder) (space : OwnedGuestAddressSpace)
    (record : DecodedSourceInstruction) (cpu : GuestCpuContext) (memory : ℕ → UInt8)
    (insn : ZydisDecodedInstruction)
    (hdecode : decoder.decodeFull (record.bytes.take record.length.toNat) = some insn)
    (hform : IsRegisterImmediate insn) :
    (insn.mnemonic = .sub →
      (∀ committed cpu' memory', stepOwnedX8664 decoder space record cpu memory =
        (.ok committed, cpu', memory') →
        ∃ slot, registerSlot (insn.op 0).reg = some slot ∧
          let a := slot.read cpu
          let b := (insn.op 1).imm.toUInt64
          ¬ ((insn.op 0).reg = .rsp ∧ b > a) ∧
          RegisterStep (insn.op 0).reg slot (a - b)
            (cpu.rip + record.length.toUInt64) cpu cpu' memory memory' ∧
          FlagsSet cpu.rflags cpu'.rflags (a.toNat < b.toNat) (EvenOnes (a - b))
            (a.toNat % 16 < b.toNat % 16) (a - b = 0)
            ((a - b).toInt64.toInt < 0)
            (¬ (-2 ^ 63 ≤ a.toInt64.toInt - b.toInt64.toInt ∧
              a.toInt64.toInt - b.toInt64.toInt < 2 ^ 63))) ∧
      (Redecodes decoder record cpu insn → ∀ slot, registerSlot (insn.op 0).reg = some slot →
        ((∃ committed cpu' memory', stepOwnedX8664 decoder space record cpu memory =
          (.ok committed, cpu', memory')) ↔
          ¬ ((insn.op 0).reg = .rsp ∧ (insn.op 1).imm.toUInt64 > slot.read cpu)))) ∧
    (insn.mnemonic = .and →
      (∀ committed cpu' memory',
        stepOwnedX8664 decoder space record cpu memory = (.ok committed, cpu', memory') →
        ∃ slot, registerSlot (insn.op 0).reg = some slot ∧
          let result := slot.read cpu &&& (insn.op 1).imm.toUInt64
          RegisterStep (insn.op 0).reg slot result (cpu.rip + record.length.toUInt64) cpu cpu'
            memory memory' ∧
          FlagsSet cpu.rflags cpu'.rflags False (EvenOnes result) (bitOf cpu.rflags 4 = true)
            (result = 0) (result.toInt64.toInt < 0) False) ∧
      (Redecodes decoder record cpu insn → ∀ slot, registerSlot (insn.op 0).reg = some slot →
        ∃ committed cpu' memory', stepOwnedX8664 decoder space record cpu memory =
          (.ok committed, cpu', memory'))) := by
  refine ⟨fun hmnemonic => ⟨?_, ?_⟩, fun hmnemonic => ⟨?_, ?_⟩⟩
  · intro committed cpu' memory' hstep
    have hstore : ∀ next pending, pendingStep space memory cpu insn next record = .ok pending →
        pending.guestWrite = none := by
      intro next pending hpending
      rw [pendingStep_sub hmnemonic hform, subForm_eq_ok] at hpending
      obtain ⟨slot, -, -, rfl⟩ := hpending
      rfl
    obtain ⟨pending, hpending, rfl, rfl⟩ := stepOwnedX8664_of_form hdecode hstore hstep
    rw [pendingStep_sub hmnemonic hform, subForm_eq_ok] at hpending
    obtain ⟨slot, hslot, hrefused, rfl⟩ := hpending
    exact ⟨slot, hslot, hrefused, registerStep_of_slot hslot _ _ _, flagsSet_sub _ _ _⟩
  · intro hredecodes slot hslot
    constructor
    · rintro ⟨committed, cpu', memory', hstep⟩ hrefused
      rw [stepOwnedX8664] at hstep
      cases hdecoded : decodeStep decoder space record cpu memory with
      | error stop =>
        rw [hdecoded] at hstep
        cases hstep
      | ok decoded =>
        obtain ⟨next, pending⟩ := decoded
        obtain ⟨-, hpending⟩ := decodeStep_eq hdecode next pending hdecoded
        rw [pendingStep_sub hmnemonic hform, subForm_eq_ok] at hpending
        obtain ⟨slot', hslot', hgranted, -⟩ := hpending
        rw [hslot] at hslot'
        cases hslot'
        exact hgranted hrefused
    · intro hgranted
      refine stepOwnedX8664_of_redecodes hdecode hredecodes ?_
      rw [pendingStep_sub hmnemonic hform]
      exact ⟨_, subForm_eq_ok.mpr ⟨slot, hslot, hgranted, rfl⟩, rfl⟩
  · intro committed cpu' memory' hstep
    have hstore : ∀ next pending, pendingStep space memory cpu insn next record = .ok pending →
        pending.guestWrite = none := by
      intro next pending hpending
      rw [pendingStep_and hmnemonic hform, andForm_eq_ok] at hpending
      obtain ⟨slot, -, rfl⟩ := hpending
      rfl
    obtain ⟨pending, hpending, rfl, rfl⟩ := stepOwnedX8664_of_form hdecode hstore hstep
    rw [pendingStep_and hmnemonic hform, andForm_eq_ok] at hpending
    obtain ⟨slot, hslot, rfl⟩ := hpending
    exact ⟨slot, hslot, registerStep_of_slot hslot _ _ _, flagsSet_and _ _⟩
  · intro hredecodes slot hslot
    refine stepOwnedX8664_of_redecodes hdecode hredecodes ?_
    rw [pendingStep_and hmnemonic hform]
    exact ⟨_, andForm_eq_ok.mpr ⟨slot, hslot, rfl⟩, rfl⟩

/-- A decoder of `SUB RAX, 1` and `AND RSP, -16`. -/
def flagsDecoder : ZydisDecoder where
  init := true
  decodeFull
    | 0x48 :: 0x83 :: 0xe8 :: 0x01 :: _ =>
      some ⟨.sub, 4, 2, [{ type := .register, size := 64, reg := .rax },
        { type := .immediate, imm := 1 }]⟩
    | 0x48 :: 0x83 :: 0xe4 :: 0xf0 :: _ =>
      some ⟨.and, 4, 2, [{ type := .register, size := 64, reg := .rsp },
        { type := .immediate, imm := -16 }]⟩
    | _ => none

/-- `SUB RAX, 1` at `0x1000`. -/
def subRecord : DecodedSourceInstruction := ⟨0x1000, 4, [0x48, 0x83, 0xe8, 0x01], .sub⟩

/-- `AND RSP, -16` at `0x1004`. -/
def andRecord : DecodedSourceInstruction := ⟨0x1004, 4, [0x48, 0x83, 0xe4, 0xf0], .and⟩

/-- One is taken from the least signed number: the difference overflows, and a borrow goes through
the low digit only. A stack pointer that is then aligned to 16 clears carry and overflow, and keeps
the auxiliary flag the difference has set. -/
theorem subAndFlags_overflow_align :
    (∃ committed cpu' memory',
      stepOwnedX8664 flagsDecoder .empty subRecord { rax := 0x8000000000000000, rip := 0x1000 }
        (fun _ => 0) = (.ok committed, cpu', memory') ∧
      cpu'.rax = 0x7fffffffffffffff ∧ cpu'.rip = 0x1004 ∧
      FlagsSet 0 cpu'.rflags False True True False False True) ∧
    ∃ committed cpu' memory',
      stepOwnedX8664 flagsDecoder .empty andRecord
        { rsp := 0x80000000000000f8, rip := 0x1004, rflags := 0x815 } (fun _ => 0) =
          (.ok committed, cpu', memory') ∧
      cpu'.rsp = 0x80000000000000f0 ∧ cpu'.rip = 0x1008 ∧
      FlagsSet 0x815 cpu'.rflags False True True False True False := by
  obtain ⟨hsub, -⟩ := subAndFlags_architectural flagsDecoder .empty subRecord
    { rax := 0x8000000000000000, rip := 0x1000 } (fun _ => 0)
    ⟨.sub, 4, 2, [{ type := .register, size := 64, reg := .rax }, { type := .immediate, imm := 1 }]⟩
    rfl ⟨rfl, rfl, rfl, rfl⟩
  obtain ⟨-, hand⟩ := subAndFlags_architectural flagsDecoder .empty andRecord
    { rsp := 0x80000000000000f8, rip := 0x1004, rflags := 0x815 } (fun _ => 0)
    ⟨.and, 4, 2, [{ type := .register, size := 64, reg := .rsp },
      { type := .immediate, imm := -16 }]⟩
    rfl ⟨rfl, rfl, rfl, rfl⟩
  constructor
  · obtain ⟨heffect, hretires⟩ := hsub rfl
    obtain ⟨committed, cpu', memory', hstep⟩ :=
      (hretires ⟨rfl, by decide, rfl, by decide, by decide⟩ _ rfl).mpr (by decide)
    obtain ⟨slot, hslot, -, hregisters, hflags⟩ := heffect committed cpu' memory' hstep
    cases hslot
    refine ⟨committed, cpu', memory', hstep, hregisters.result, hregisters.rip, ?_⟩
    refine ⟨hflags.carry.trans ?_, hflags.parity.trans ?_, hflags.auxiliary.trans ?_,
      hflags.zero.trans ?_, hflags.sign.trans ?_, hflags.overflow.trans ?_, hflags.others⟩
    · exact iff_of_false (by decide) id
    · exact iff_of_true (by rw [← evenParity_iff]; decide) trivial
    · exact iff_of_true (by decide) trivial
    · exact iff_of_false (by decide) id
    · exact iff_of_false (by decide) id
    · exact iff_of_true (by decide) trivial
  · obtain ⟨heffect, hretires⟩ := hand rfl
    obtain ⟨committed, cpu', memory', hstep⟩ :=
      hretires ⟨rfl, by decide, rfl, by decide, by decide⟩ _ rfl
    obtain ⟨slot, hslot, hregisters, hflags⟩ := heffect committed cpu' memory' hstep
    cases hslot
    refine ⟨committed, cpu', memory', hstep, hregisters.result, hregisters.rip, ?_⟩
    refine ⟨hflags.carry, hflags.parity.trans ?_, hflags.auxiliary.trans ?_, hflags.zero.trans ?_,
      hflags.sign.trans ?_, hflags.overflow, hflags.others⟩
    · exact iff_of_true (by rw [← evenParity_iff]; decide) trivial
    · exact iff_of_true (by decide) trivial
    · exact iff_of_false (by decide) id
    · exact iff_of_true (by decide) trivial

end Astraea.Research
