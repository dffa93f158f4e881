import Mathlib.Algebra.Order.Group.Nat
import Mathlib.Data.List.Nodup
import Mathlib.Data.List.Perm.Subperm
import Mathlib.Data.Option.Basic

/-!
# SPIR-V modules

A SPIR-V module is a list of words: five words of header, and then instructions. The first word
of an instruction has the number of its words in the upper half and its opcode in the lower one.
`parseModule` takes the words apart; `WellFormed` says what the ids of a module have to be: each
is the result of one instruction, stands behind it, and is less than the bound in the header.

The numbers of the opcodes and of the other enumerants come from the header files of the
standard, and are a parameter here.
-/

namespace Astraea.Spirv

/-! ### Enumerants -/

/-- The instructions of straight-line compute shaders. -/
inductive Op where
  | opNop
  | opMemoryModel
  | opEntryPoint
  | opExecutionMode
  | opCapability
  | opTypeVoid
  | opTypeInt
  | opTypeFloat
  | opTypeRuntimeArray
  | opTypeStruct
  | opTypePointer
  | opTypeFunction
  | opConstant
  | opFunction
  | opFunctionEnd
  | opVariable
  | opLoad
  | opStore
  | opAccessChain
  | opDecorate
  | opMemberDecorate
  | opBitcast
  | opIAdd
  | opFAdd
  | opLabel
  | opReturn
  deriving DecidableEq

/-- Every instruction. -/
def Op.all : List Op :=
  [.opNop, .opMemoryModel, .opEntryPoint, .opExecutionMode, .opCapability, .opTypeVoid, .opTypeInt,
    .opTypeFloat, .opTypeRuntimeArray, .opTypeStruct, .opTypePointer, .opTypeFunction, .opConstant,
    .opFunction, .opFunctionEnd, .opVariable, .opLoad, .opStore, .opAccessChain, .opDecorate,
    .opMemberDecorate, .opBitcast, .opIAdd, .opFAdd, .opLabel, .opReturn]

theorem Op.mem_all (op : Op) : op ∈ Op.all := by cases op <;> decide

/-- The decorations that are used. -/
inductive Decoration where
  | block
  | arrayStride
  | builtIn
  | binding
  | descriptorSet
  | offset
  deriving DecidableEq

/-- The storage classes that are used. -/
inductive StorageClass where
  | input
  | storageBuffer
  deriving DecidableEq

/-- The numbers the enumerants have in a module. -/
structure Enumerants where
  op : Op → UInt32
  decoration : Decoration → UInt32
  storageClass : StorageClass → UInt32
  capabilityShader : UInt32
  addressingModelLogical : UInt32
  memoryModelGLSL450 : UInt32
  executionModelGLCompute : UInt32
  executionModeLocalSize : UInt32
  builtInLocalInvocationIndex : UInt32
  functionControlNone : UInt32

/-- The numbers can be told apart, and opcodes fit in the lower half of a word. -/
structure Enumerants.Lawful (e : Enumerants) : Prop where
  op_injective : Function.Injective e.op
  op_lt : ∀ op, (e.op op).toNat < 2 ^ 16
  decoration_injective : Function.Injective e.decoration
  storageClass_injective : Function.Injective e.storageClass

/-- The instruction with an opcode. -/
def Enumerants.opOf (e : Enumerants) (number : UInt32) : Option Op :=
  Op.all.find? fun op => e.op op == number

theorem Enumerants.Lawful.opOf_op {e : Enumerants} (h : e.Lawful) (op : Op) :
    e.opOf (e.op op) = some op := by
  rw [Enumerants.opOf]
  cases hfind : Op.all.find? fun other => e.op other == e.op op with
  | none => exact absurd (List.find?_eq_none.mp hfind op op.mem_all) (by simp)
  | some other =>
    have hother := List.find?_some hfind
    rw [beq_iff_eq] at hother
    rw [h.op_injective hother]

/-! ### Instructions -/

/-- An instruction: its opcode and its operands. -/
structure Instruction where
  op : Op
  operands : List UInt32
  deriving DecidableEq

/-- The words of an instruction. -/
def Instruction.words (e : Enumerants) (i : Instruction) : List UInt32 :=
  (UInt32.ofNat (i.operands.length + 1) <<< 16 ||| e.op i.op) :: i.operands

/-- The instructions that a list of words is, where there are at most `fuel`. -/
def parseInstructions (e : Enumerants) : (fuel : ℕ) → List UInt32 → Option (List Instruction)
  | _, [] => some []
  | 0, _ :: _ => none
  | fuel + 1, first :: words => do
    let wordCount := (first >>> 16).toNat
    guard (0 < wordCount ∧ wordCount - 1 ≤ words.length)
    let op ← e.opOf (first &&& 0xffff)
    let rest ← parseInstructions e fuel (words.drop (wordCount - 1))
    return ⟨op, words.take (wordCount - 1)⟩ :: rest

/-- The number of an instruction's words fits in the upper half of a word. -/
def Instruction.Short (i : Instruction) : Prop := i.operands.length + 1 < 2 ^ 16

section Parse

variable {e : Enumerants} {op : Op} {i : Instruction} {instructions : List Instruction}

theorem firstWord_halves (h : e.Lawful) (op : Op) {wordCount : ℕ} (hcount : wordCount < 2 ^ 16) :
    ((UInt32.ofNat wordCount <<< 16 ||| e.op op) >>> 16).toNat = wordCount ∧
    (UInt32.ofNat wordCount <<< 16 ||| e.op op) &&& 0xffff = e.op op := by
  have hop := h.op_lt op
  have hword : (UInt32.ofNat wordCount <<< 16 ||| e.op op).toNat =
      wordCount * 2 ^ 16 + (e.op op).toNat := by
    rw [UInt32.toNat_or, UInt32.toNat_shiftLeft, UInt32.toNat_ofNat']
    have hshift : (wordCount % 2 ^ 32) <<< (UInt32.toNat 16 % 32) % 2 ^ 32 = wordCount <<< 16 := by
      rw [show UInt32.toNat 16 % 32 = 16 from rfl,
        Nat.mod_eq_of_lt (show wordCount < 2 ^ 32 by omega), Nat.shiftLeft_eq]
      omega
    rw [hshift, ← Nat.shiftLeft_add_eq_or_of_lt hop, Nat.shiftLeft_eq]
  constructor
  · rw [UInt32.toNat_shiftRight, hword, show UInt32.toNat 16 % 32 = 16 from rfl,
      Nat.shiftRight_eq_div_pow]
    omega
  · rw [← UInt32.toNat_inj, UInt32.toNat_and, hword]
    have hmask := Nat.and_two_pow_sub_one_eq_mod (wordCount * 2 ^ 16 + (e.op op).toNat) 16
    rw [show UInt32.toNat 0xffff = 2 ^ 16 - 1 from rfl, hmask]
    omega

/-- **Instructions are read back from their words**, which they cover without a gap. -/
theorem parseInstructions_flatMap_words (h : e.Lawful) (hshort : ∀ i ∈ instructions, i.Short)
    {fuel : ℕ} (hfuel : instructions.length ≤ fuel) :
    parseInstructions e fuel (instructions.flatMap (Instruction.words e)) = some instructions := by
  induction instructions generalizing fuel with
  | nil =>
    cases fuel <;> rfl
  | cons i instructions ih =>
    cases fuel with
    | zero => exact absurd hfuel (by simp)
    | succ fuel =>
      obtain ⟨hcount, hop⟩ := firstWord_halves h i.op (hshort i List.mem_cons_self)
      rw [List.flatMap_cons, Instruction.words, List.cons_append, parseInstructions]
      rw [hcount, hop, h.opOf_op]
      have hrest :=
        ih (fun j hj => hshort j (List.mem_cons_of_mem _ hj)) (Nat.le_of_succ_le_succ hfuel)
      have hguard : (guard (0 < i.operands.length + 1 ∧ i.operands.length + 1 - 1 ≤
          (i.operands ++ instructions.flatMap (Instruction.words e)).length) : Option Unit) =
            some () := by
        rw [List.length_append]
        exact if_pos ⟨by omega, by omega⟩
      rw [hguard, Nat.add_sub_cancel, List.drop_left, List.take_left]
      simp [hrest]

end Parse

/-! ### Ids -/

/-- Where the result id stands among the operands. -/
def Op.resultPosition : Op → Option ℕ
  | .opTypeVoid | .opTypeInt | .opTypeFloat | .opTypeRuntimeArray | .opTypeStruct | .opTypePointer
  | .opTypeFunction | .opLabel => some 0
  | .opConstant | .opFunction | .opVariable | .opLoad | .opAccessChain | .opBitcast | .opIAdd
  | .opFAdd => some 1
  | .opNop | .opMemoryModel | .opEntryPoint | .opExecutionMode | .opCapability | .opFunctionEnd
  | .opStore | .opDecorate | .opMemberDecorate | .opReturn => none

/-- The id an instruction defines. -/
def Instruction.resultId? (i : Instruction) : Option UInt32 :=
  i.op.resultPosition.bind fun position => i.operands[position]?

/-- A word of a string that has the final zero byte. -/
def endsString (word : UInt32) : Bool :=
  word &&& 0xff == 0 || word &&& 0xff00 == 0 || word &&& 0xff0000 == 0 || word &&& 0xff000000 == 0

/-- The operands behind a string. -/
def operandsAfterString : List UInt32 → List UInt32
  | [] => []
  | word :: operands => if endsString word = true then operands else operandsAfterString operands

/-- The ids an instruction uses. -/
def Instruction.usedIds (i : Instruction) : List UInt32 :=
  match i.op with
  | .opEntryPoint => (i.operands.drop 1).take 1 ++ operandsAfterString (i.operands.drop 2)
  | .opExecutionMode | .opDecorate | .opMemberDecorate | .opConstant => i.operands.take 1
  | .opTypeRuntimeArray | .opTypeStruct | .opTypeFunction => i.operands.drop 1
  | .opTypePointer => i.operands.drop 2
  | .opFunction | .opVariable => i.operands.take 1 ++ i.operands.drop 3
  | .opLoad => i.operands.take 1 ++ (i.operands.drop 2).take 1
  | .opStore => i.operands.take 2
  | .opAccessChain | .opBitcast | .opIAdd | .opFAdd => i.operands.take 1 ++ i.operands.drop 2
  | .opNop | .opMemoryModel | .opCapability | .opTypeVoid | .opTypeInt | .opTypeFloat
  | .opFunctionEnd | .opLabel | .opReturn => []

/-- The instructions at the start of a module that speak about ids defined behind them. -/
def Op.refersAhead : Op → Bool
  | .opEntryPoint | .opExecutionMode | .opDecorate | .opMemberDecorate => true
  | _ => false

/-- The ids that instructions define, in order. -/
def resultIds (instructions : List Instruction) : List UInt32 :=
  instructions.filterMap Instruction.resultId?

/-- Every id that is used is known, or defined by an instruction before. -/
def DefinedBeforeUse (known : List UInt32) (instructions : List Instruction) : Prop :=
  ∀ before i after, instructions = before ++ i :: after → i.op.refersAhead = false →
    ∀ id ∈ i.usedIds, id ∈ known ∨ id ∈ resultIds before

section Ids

variable {known known' : List UInt32} {i : Instruction}
  {instructions instructions' : List Instruction}

@[simp] theorem resultIds_nil : resultIds [] = [] := rfl

theorem resultIds_append :
    resultIds (instructions ++ instructions') = resultIds instructions ++ resultIds instructions' :=
  List.filterMap_append

theorem definedBeforeUse_nil (known : List UInt32) : DefinedBeforeUse known [] := by
  intro before i after heq
  exact absurd heq (by simp)

/-- Instructions behind others may use what those define. -/
theorem DefinedBeforeUse.append (h : DefinedBeforeUse known instructions)
    (h' : DefinedBeforeUse (known ++ resultIds instructions) instructions') :
    DefinedBeforeUse known (instructions ++ instructions') := by
  intro before i after heq hahead id hid
  rcases List.append_eq_append_iff.mp heq with ⟨middle, rfl, hafter⟩ | ⟨middle, hbefore, hafter⟩
  · rw [resultIds_append, List.mem_append, ← or_assoc, ← List.mem_append]
    exact h' middle i after hafter hahead id hid
  · cases middle with
    | nil =>
      rw [List.append_nil] at hbefore
      subst hbefore
      rw [← List.mem_append]
      rcases h' [] i after hafter.symm hahead id hid with hknown | hnothing
      · exact hknown
      · cases hnothing
    | cons first middle =>
      rw [List.cons_append, List.cons.injEq] at hafter
      obtain ⟨rfl, -⟩ := hafter
      exact h before i middle hbefore hahead id hid

theorem definedBeforeUse_singleton (h : i.op.refersAhead = false → ∀ id ∈ i.usedIds, id ∈ known) :
    DefinedBeforeUse known [i] := by
  intro before j after heq hahead id hid
  cases before with
  | nil =>
    rw [List.nil_append, List.cons.injEq] at heq
    obtain ⟨rfl, -⟩ := heq
    exact .inl (h hahead id hid)
  | cons first before =>
    rw [List.cons_append, List.cons.injEq] at heq
    exact absurd heq.2 (by simp)

theorem definedBeforeUse_of_known
    (h : ∀ i ∈ instructions, i.op.refersAhead = false → ∀ id ∈ i.usedIds, id ∈ known) :
    DefinedBeforeUse known instructions := by
  intro before i after heq hahead id hid
  exact .inl (h i (by rw [heq]; exact List.mem_append_right _ List.mem_cons_self) hahead id hid)

theorem definedBeforeUse_cons (h : i.op.refersAhead = false → ∀ id ∈ i.usedIds, id ∈ known)
    (h' : DefinedBeforeUse (known ++ resultIds [i]) instructions) :
    DefinedBeforeUse known (i :: instructions) :=
  (definedBeforeUse_singleton h).append h'

/-- An instruction that does not speak about ids behind it uses ids of the instructions before it.
-/
theorem DefinedBeforeUse.used_mem (h : DefinedBeforeUse [] instructions) (hi : i ∈ instructions)
    (hahead : i.op.refersAhead = false) : ∀ id ∈ i.usedIds, id ∈ resultIds instructions := by
  intro id hid
  obtain ⟨before, after, rfl⟩ := List.append_of_mem hi
  rcases h before i after rfl hahead id hid with hnothing | hbefore
  · cases hnothing
  · rw [resultIds_append]
    exact List.mem_append_left _ hbefore

theorem DefinedBeforeUse.mono (h : DefinedBeforeUse known instructions) (hsub : known ⊆ known') :
    DefinedBeforeUse known' instructions := by
  intro before i after heq hahead id hid
  exact (h before i after heq hahead id hid).imp_left fun hknown => hsub hknown

end Ids

/-! ### Modules -/

/-- The first word of every module. -/
def magicNumber : UInt32 := 0x07230203

/-- A module: its bound and its instructions. -/
structure Module where
  version : UInt32
  generator : UInt32
  bound : UInt32
  instructions : List Instruction
  deriving DecidableEq

/-- The module that a list of words is. -/
def parseModule (e : Enumerants) : List UInt32 → Option Module
  | magic :: version :: generator :: bound :: schema :: words => do
    guard (magic = magicNumber ∧ schema = 0)
    let instructions ← parseInstructions e words.length words
    return ⟨version, generator, bound, instructions⟩
  | _ => none

/-- The ids of a module are what they have to be. -/
structure Module.WellFormed (m : Module) : Prop where
  definedOnce : (resultIds m.instructions).Nodup
  defined : ∀ i ∈ m.instructions, ∀ id ∈ i.usedIds, id ∈ resultIds m.instructions
  definedBeforeUse : DefinedBeforeUse [] m.instructions
  bounded : ∀ id ∈ resultIds m.instructions, 0 < id ∧ id < m.bound

theorem length_le_length_flatMap_words (e : Enumerants) (instructions : List Instruction) :
    instructions.length ≤ (instructions.flatMap (Instruction.words e)).length := by
  induction instructions with
  | nil => exact le_rfl
  | cons i instructions ih =>
    rw [List.flatMap_cons, List.length_append, List.length_cons, Instruction.words,
      List.length_cons]
    omega

/-- **A module is read back from its header and its instructions.** -/
theorem parseModule_words {e : Enumerants} (h : e.Lawful) (version generator bound : UInt32)
    {instructions : List Instruction} (hshort : ∀ i ∈ instructions, i.Short) :
    parseModule e ([magicNumber, version, generator, bound, 0] ++
      instructions.flatMap (Instruction.words e)) =
      some ⟨version, generator, bound, instructions⟩ := by
  have hparse :=
    parseInstructions_flatMap_words h hshort (length_le_length_flatMap_words e instructions)
  rw [List.cons_append, List.cons_append, List.cons_append, List.cons_append, List.cons_append,
    List.nil_append, parseModule, hparse]
  rfl

/-- **A module has fewer ids than its bound says.** -/
theorem Module.WellFormed.length_lt {m : Module} (h : m.WellFormed) :
    resultIds m.instructions = [] ∨ (resultIds m.instructions).length < m.bound.toNat := by
  rcases hids : resultIds m.instructions with _ | ⟨first, rest⟩
  · exact .inl rfl
  · refine .inr ?_
    rw [← hids]
    have hbound : ∀ id ∈ resultIds m.instructions, 0 < id.toNat ∧ id.toNat < m.bound.toNat := by
      intro id hid
      obtain ⟨hpos, hlt⟩ := h.bounded id hid
      exact ⟨UInt32.lt_iff_toNat_lt.mp hpos, UInt32.lt_iff_toNat_lt.mp hlt⟩
    have hnodup : ((resultIds m.instructions).map UInt32.toNat).Nodup :=
      h.definedOnce.map fun _ _ heq => UInt32.toNat_inj.mp heq
    have hsub : (resultIds m.instructions).map UInt32.toNat ⊆
        List.range' 1 (m.bound.toNat - 1) := by
      intro number hnumber
      obtain ⟨id, hid, rfl⟩ := List.mem_map.mp hnumber
      have := hbound id hid
      rw [List.mem_range'_1]
      omega
    have hlength := (hnodup.subperm hsub).length_le
    rw [List.length_map, List.length_range'] at hlength
    have := hbound first (by rw [hids]; exact List.mem_cons_self)
    omega

end Astraea.Spirv
