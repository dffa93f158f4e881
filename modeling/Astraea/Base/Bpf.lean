import Mathlib.Data.List.Basic
import Mathlib.Data.Option.Basic

/-!
# Packet filters

Programs of the classic packet filter machine: an accumulator, words of the data at fixed offsets,
jumps that only go forward, and a constant to return. A program is read as blocks that follow one
another. A block gives a verdict, or the run comes to its end and goes on with the next block: that
is what `Decides` says, with an assertion about the accumulator before the block and one behind it.
The rules put blocks together, and `Decides.run_eq` reads the verdict of a program off its blocks.

`WellFormed` is what can be told of a program from its instructions alone: it ends by returning, no
jump leaves it, and every word it loads is in the data.
-/

namespace Astraea.Base

/-- `sock_filter`. -/
structure SockFilter where
  code : UInt16
  jt : UInt8
  jf : UInt8
  k : UInt32
  deriving DecidableEq

namespace Bpf

/-- `BPF_LD | BPF_W | BPF_ABS`. -/
def kLoadAbsoluteWord : UInt16 := 0x20

/-- `BPF_JMP | BPF_JEQ | BPF_K`. -/
def kJumpEqual : UInt16 := 0x15

/-- `BPF_JMP | BPF_JGT | BPF_K`. -/
def kJumpGreater : UInt16 := 0x25

/-- `BPF_JMP | BPF_JGE | BPF_K`. -/
def kJumpGreaterEqual : UInt16 := 0x35

/-- `BPF_RET | BPF_K`. -/
def kReturnConstant : UInt16 := 0x06

/-- What a jump finds, if the instruction is one. -/
def test (instruction : SockFilter) (accumulator : UInt32) : Option Bool :=
  if instruction.code = kJumpEqual then some (decide (accumulator = instruction.k))
  else if instruction.code = kJumpGreater then some (decide (accumulator > instruction.k))
  else if instruction.code = kJumpGreaterEqual then some (decide (accumulator ≥ instruction.k))
  else none

/-- The run of a program behind the instructions that are skipped. There is no verdict where an
instruction is unknown, where a word is not in the data, and at the end of the program. -/
def run (data : UInt32 → Option UInt32) :
    (program : List SockFilter) → (skip : ℕ) → (accumulator : UInt32) → Option UInt32
  | [], _, _ => none
  | _ :: program, skip + 1, accumulator => run data program skip accumulator
  | instruction :: program, 0, accumulator =>
    if instruction.code = kReturnConstant then some instruction.k
    else if instruction.code = kLoadAbsoluteWord then
      (data instruction.k).bind fun word => run data program 0 word
    else (test instruction accumulator).bind fun taken =>
      run data program (if taken = true then instruction.jt.toNat
        else instruction.jf.toNat) accumulator

/-! ### Instructions -/

section Run

variable {data : UInt32 → Option UInt32} {program rest : List SockFilter} {skip : ℕ}
  {accumulator k word : UInt32} {jt jf : UInt8}

/-- `bpf_statement`. -/
def bpfStatement (code : UInt16) (value : UInt32) : SockFilter := ⟨code, 0, 0, value⟩

/-- `bpf_jump`. -/
def bpfJump (code : UInt16) (value : UInt32) (jumpTrue jumpFalse : UInt8) : SockFilter :=
  ⟨code, jumpTrue, jumpFalse, value⟩

@[simp] theorem run_skip_succ (instruction : SockFilter) :
    run data (instruction :: program) (skip + 1) accumulator = run data program skip accumulator :=
      rfl

@[simp] theorem run_return :
    run data (bpfStatement kReturnConstant k :: program) 0 accumulator = some k :=
  rfl

theorem run_load (h : data k = some word) :
    run data (bpfStatement kLoadAbsoluteWord k :: program) 0 accumulator =
      run data program 0 word := by
  have hreturn : kLoadAbsoluteWord ≠ kReturnConstant := by decide
  have hcode : (bpfStatement kLoadAbsoluteWord k).code = kLoadAbsoluteWord := rfl
  have hword : data (bpfStatement kLoadAbsoluteWord k).k = some word := h
  rw [run, hcode, if_neg hreturn, if_pos rfl, hword]
  rfl

theorem run_jump {code : UInt16} {taken : Prop} [Decidable taken] (hreturn : code ≠ kReturnConstant)
    (hload : code ≠ kLoadAbsoluteWord)
    (htest : test (bpfJump code k jt jf) accumulator = some (decide taken)) :
    run data (bpfJump code k jt jf :: program) 0 accumulator =
      run data program (if taken then jt.toNat else jf.toNat) accumulator := by
  have hcode : (bpfJump code k jt jf).code = code := rfl
  rw [run, hcode, if_neg hreturn, if_neg hload, htest]
  simp only [Option.bind_some, decide_eq_true_eq]
  rfl

@[simp] theorem run_jumpEqual :
    run data (bpfJump kJumpEqual k jt jf :: program) 0 accumulator =
      run data program (if accumulator = k then jt.toNat else jf.toNat) accumulator :=
  run_jump (by decide) (by decide) rfl

@[simp] theorem run_jumpGreater :
    run data (bpfJump kJumpGreater k jt jf :: program) 0 accumulator =
      run data program (if accumulator > k then jt.toNat else jf.toNat) accumulator :=
  run_jump (by decide) (by decide) rfl

@[simp] theorem run_jumpGreaterEqual :
    run data (bpfJump kJumpGreaterEqual k jt jf :: program) 0 accumulator =
      run data program (if accumulator ≥ k then jt.toNat else jf.toNat) accumulator :=
  run_jump (by decide) (by decide) rfl

/-! ### Blocks -/

/-- From an accumulator with `pre` the block gives the verdict; where there is none, the run comes
to its end, with `post`. -/
def Decides (data : UInt32 → Option UInt32) (pre : UInt32 → Prop) (block : List SockFilter)
    (verdict : Option UInt32) (post : UInt32 → Prop) : Prop :=
  ∀ accumulator, pre accumulator → ∃ accumulator', (verdict = none → post accumulator') ∧
    ∀ rest, run data (block ++ rest) 0 accumulator = verdict.or (run data rest 0 accumulator')

variable {pre post : UInt32 → Prop} {block block' : List SockFilter}
  {verdict verdict' : Option UInt32}

theorem Decides.nil : Decides data pre [] none pre := fun accumulator haccumulator =>
  ⟨accumulator, fun _ => haccumulator, fun _ => rfl⟩

theorem Decides.append {middle : UInt32 → Prop} (h : Decides data pre block verdict middle)
    (h' : Decides data middle block' verdict' post) :
    Decides data pre (block ++ block') (verdict.or verdict') post := by
  intro accumulator haccumulator
  obtain ⟨accumulator', hmiddle, hrun⟩ := h accumulator haccumulator
  cases verdict with
  | some action =>
    refine ⟨accumulator', ?_, fun rest => ?_⟩
    · intro hnone
      cases hnone
    · rw [List.append_assoc, hrun]
      rfl
  | none =>
    obtain ⟨accumulator'', hpost, hrun'⟩ := h' accumulator' (hmiddle rfl)
    refine ⟨accumulator'', hpost, fun rest => ?_⟩
    rw [List.append_assoc, hrun]
    exact hrun' rest

/-- Of a list of blocks that keep an assertion, the first verdict counts. -/
theorem Decides.flatMap {α : Type} {blockOf : α → List SockFilter} {verdictOf : α → Option UInt32}
    {xs : List α} (h : ∀ x ∈ xs, Decides data pre (blockOf x) (verdictOf x) pre) :
    Decides data pre (xs.flatMap blockOf) (xs.findSome? verdictOf) pre := by
  induction xs with
  | nil => exact .nil
  | cons x xs ih =>
    rw [List.forall_mem_cons] at h
    have hall := h.1.append (ih h.2)
    rw [List.flatMap_cons, List.findSome?_cons]
    cases hverdict : verdictOf x with
    | none =>
      rw [hverdict] at hall
      exact hall
    | some action =>
      rw [hverdict] at hall
      exact hall

theorem Decides.run_eq {action : UInt32}
    (h : Decides data (fun _ => True) block (some action) post) :
    run data block 0 0 = some action := by
  obtain ⟨accumulator', -, hrun⟩ := h 0 trivial
  have hblock := hrun []
  rwa [List.append_nil] at hblock

end Run

/-! ### Programs that are well formed -/

/-- The jumps of a block stay in it, or go to its end. -/
def JumpsWithin : List SockFilter → Prop
  | [] => True
  | instruction :: rest =>
    instruction.jt.toNat ≤ rest.length ∧ instruction.jf.toNat ≤ rest.length ∧ JumpsWithin rest

/-- The instruction is known, and what it loads is a word of data of a size. -/
def Known (size : ℕ) (instruction : SockFilter) : Prop :=
  instruction.code ∈ [kJumpEqual, kJumpGreater, kJumpGreaterEqual, kReturnConstant] ∨
    instruction.code = kLoadAbsoluteWord ∧ 4 ∣ instruction.k.toNat ∧ instruction.k.toNat + 4 ≤ size

instance (size : ℕ) (instruction : SockFilter) : Decidable (Known size instruction) :=
  inferInstanceAs (Decidable (_ ∨ _))

/-- The program ends with an instruction that returns, its instructions are known, and no jump
leaves it. -/
structure WellFormed (size : ℕ) (program : List SockFilter) : Prop where
  ends : ∃ body k, program = body ++ [bpfStatement kReturnConstant k] ∧ JumpsWithin body
  known : ∀ instruction ∈ program, Known size instruction

section WellFormed

variable {block block' : List SockFilter}

theorem JumpsWithin.append (h : JumpsWithin block) (h' : JumpsWithin block') :
    JumpsWithin (block ++ block') := by
  induction block with
  | nil => exact h'
  | cons instruction block ih =>
    obtain ⟨htrue, hfalse, hrest⟩ := h
    have hlength : block.length ≤ (block ++ block').length := by
      rw [List.length_append]
      omega
    exact ⟨Nat.le_trans htrue hlength, Nat.le_trans hfalse hlength, ih hrest⟩

theorem JumpsWithin.flatMap {α : Type} {blockOf : α → List SockFilter} {xs : List α}
    (h : ∀ x ∈ xs, JumpsWithin (blockOf x)) : JumpsWithin (xs.flatMap blockOf) := by
  induction xs with
  | nil => trivial
  | cons x xs ih =>
    rw [List.forall_mem_cons] at h
    rw [List.flatMap_cons]
    exact h.1.append (ih h.2)

end WellFormed

end Bpf

end Astraea.Base
