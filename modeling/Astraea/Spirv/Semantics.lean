import Astraea.Spirv.Binary
import Mathlib.Data.List.Perm.Basic
import Mathlib.Logic.Function.Basic

/-!
# What a SPIR-V module does

A straight-line compute shader over one storage buffer of words. The instructions in front of
the function declare types, constants and the variables, and say by decorations which variable
is the buffer, where the parts of the buffer lie, and which variable has the index of the
invocation. `invoke` executes the function once; a load or a store that does not hit a word of
the buffer gets nowhere, and neither does an operand of the wrong type. `dispatch` executes it
for one index after another.

What a sum of two floating-point numbers is depends on the device, and is a parameter.
-/

namespace Astraea.Spirv

/-! ### Types and values -/

/-- A type, by the ids of its parts. -/
inductive Ty where
  | void
  | int (width signedness : UInt32)
  | float (width : UInt32)
  | runtimeArray (element : UInt32)
  | struct (members : List UInt32)
  | pointer (storageClass pointee : UInt32)
  | function (returnType : UInt32) (parameters : List UInt32)
  deriving DecidableEq

/-- What a pointer points to: the index of the invocation, or a byte of the buffer. -/
inductive Place where
  | invocationIndex
  | buffer (address : ℕ)
  deriving DecidableEq

/-- The values of an invocation. -/
inductive Value where
  | word (bits : UInt32)
  | real (bits : UInt32)
  | pointer (pointee : UInt32) (place : Place)
  deriving DecidableEq

/-- A decoration of an id, or of a member of a structure. -/
structure Annotation where
  target : UInt32
  member : Option UInt32
  decoration : UInt32
  operands : List UInt32
  deriving DecidableEq

/-- What is declared in front of the functions. -/
structure Globals where
  entryPoint : Option UInt32 := none
  localSize : Option (List UInt32) := none
  annotations : List Annotation := []
  types : UInt32 → Option Ty := fun _ => none
  values : UInt32 → Option Value := fun _ => none

section Globals

variable (e : Enumerants) (g : Globals)

/-- With one more type. -/
def Globals.declareType (id : UInt32) (type : Ty) : Globals :=
  { g with types := Function.update g.types id (some type) }

/-- With one more value. -/
def Globals.declareValue (id : UInt32) (value : Value) : Globals :=
  { g with values := Function.update g.values id (some value) }

/-- With one more decoration. -/
def Globals.annotate (entry : Annotation) : Globals :=
  { g with annotations := g.annotations ++ [entry] }

/-- The operand of a decoration that has one. -/
def Globals.annotated (target : UInt32) (member : Option UInt32) (decoration : Decoration) :
    Option UInt32 :=
  match g.annotations.find? fun annotation =>
      annotation.target == target && annotation.member == member &&
        annotation.decoration == e.decoration decoration with
  | some ⟨_, _, _, [operand]⟩ => some operand
  | _ => none

/-- The type of words. -/
def Globals.IsWord (type : UInt32) : Prop := g.types type = some (.int 32 0)

/-- The type of single-precision numbers. -/
def Globals.IsReal (type : UInt32) : Prop := g.types type = some (.float 32)

instance (type : UInt32) : Decidable (g.IsWord type) := inferInstanceAs (Decidable (_ = _))
instance (type : UInt32) : Decidable (g.IsReal type) := inferInstanceAs (Decidable (_ = _))

/-- The value of a type that has these bits. -/
def Globals.valueOf (type bits : UInt32) : Option Value :=
  if g.IsWord type then some (.word bits) else if g.IsReal type then some (.real bits) else none

/-- The bits of a value of a type. -/
def Globals.bitsOf (type : UInt32) : Value → Option UInt32
  | .word bits => if g.IsWord type then some bits else none
  | .real bits => if g.IsReal type then some bits else none
  | .pointer _ _ => none

/-- What a variable stands for: the buffer bound to a descriptor set and a binding, or the index
of the invocation. -/
def Globals.variablePlace (bound : UInt32 × UInt32) (variableId storageClass : UInt32) :
    Option Place :=
  if storageClass = e.storageClass .storageBuffer then
    if g.annotated e variableId none .descriptorSet = some bound.1 ∧
      g.annotated e variableId none .binding = some bound.2
    then some (.buffer 0) else none
  else if storageClass = e.storageClass .input then
    if g.annotated e variableId none .builtIn = some e.builtInLocalInvocationIndex then
      some .invocationIndex else none
  else none

/-- An instruction in front of the functions. -/
def declare (bound : UInt32 × UInt32) (g : Globals) (i : Instruction) : Option Globals :=
  match i.op, i.operands with
  | .opCapability, [_] => some g
  | .opMemoryModel, [_, _] => some g
  | .opEntryPoint, model :: function :: _ =>
    if model = e.executionModelGLCompute then some { g with entryPoint := some function }
      else some g
  | .opExecutionMode, _ :: mode :: operands =>
    if mode = e.executionModeLocalSize then some { g with localSize := some operands } else some g
  | .opDecorate, target :: decoration :: operands =>
    some (g.annotate ⟨target, none, decoration, operands⟩)
  | .opMemberDecorate, target :: member :: decoration :: operands =>
    some (g.annotate ⟨target, some member, decoration, operands⟩)
  | .opTypeVoid, [result] => some (g.declareType result .void)
  | .opTypeInt, [result, width, signedness] => some (g.declareType result (.int width signedness))
  | .opTypeFloat, [result, width] => some (g.declareType result (.float width))
  | .opTypeRuntimeArray, [result, element] => some (g.declareType result (.runtimeArray element))
  | .opTypeStruct, result :: members => some (g.declareType result (.struct members))
  | .opTypePointer, [result, storageClass, pointee] =>
    some (g.declareType result (.pointer storageClass pointee))
  | .opTypeFunction, result :: returnType :: parameters =>
    some (g.declareType result (.function returnType parameters))
  | .opConstant, [type, result, bits] => (g.valueOf type bits).map (g.declareValue result)
  | .opVariable, [type, result, storageClass] =>
    match g.types type with
    | some (.pointer storageClass' pointee) =>
      if storageClass' = storageClass then
        (g.variablePlace e bound result storageClass).map fun place =>
          g.declareValue result (.pointer pointee place)
      else none
    | _ => none
  | _, _ => none

end Globals

/-! ### Executing the function -/

/-- Where an invocation is: the values of the ids, and the buffer. -/
structure Frame where
  values : UInt32 → Option Value
  memory : List UInt32

section Execute

variable (e : Enumerants) (fAdd : UInt32 → UInt32 → UInt32) (g : Globals) (index : UInt32)

/-- With the value of one more identifier. -/
def Frame.define (frame : Frame) (id : UInt32) (value : Value) : Frame :=
  { frame with values := Function.update frame.values id (some value) }

/-- The word an id stands for. -/
def Frame.word (frame : Frame) (id : UInt32) : Option UInt32 :=
  match frame.values id with
  | some (.word bits) => some bits
  | _ => none

/-- The number an id stands for. -/
def Frame.real (frame : Frame) (id : UInt32) : Option UInt32 :=
  match frame.values id with
  | some (.real bits) => some bits
  | _ => none

/-- The pointer an id stands for. -/
def Frame.pointer (frame : Frame) (id : UInt32) : Option (UInt32 × Place) :=
  match frame.values id with
  | some (.pointer pointee place) => some (pointee, place)
  | _ => none

/-- The word at a place. -/
def readPlace (memory : List UInt32) : Place → Option UInt32
  | .invocationIndex => some index
  | .buffer address => if address % 4 = 0 then memory[address / 4]? else none

/-- The buffer with a word written. -/
def writePlace (memory : List UInt32) (bits : UInt32) : Place → Option (List UInt32)
  | .invocationIndex => none
  | .buffer address =>
    if address % 4 = 0 ∧ address / 4 < memory.length then some (memory.set (address / 4) bits)
      else none

/-- The part of a composite that indices lead to: its type and its address. -/
def partAt : (type : UInt32) → (address : ℕ) → (indices : List UInt32) → Option (UInt32 × ℕ)
  | type, address, [] => some (type, address)
  | type, address, index :: indices =>
    match g.types type with
    | some (.struct members) => do
      let member ← members[index.toNat]?
      let offset ← g.annotated e type (some index) .offset
      partAt member (address + offset.toNat) indices
    | some (.runtimeArray element) => do
      let stride ← g.annotated e type none .arrayStride
      partAt element (address + index.toNat * stride.toNat) indices
    | _ => none

/-- An instruction of the function. -/
def execute (frame : Frame) (i : Instruction) : Option Frame :=
  match i.op, i.operands with
  | .opNop, [] => some frame
  | .opLabel, [_] => some frame
  | .opLoad, [type, result, pointer] => do
    let (pointee, place) ← frame.pointer pointer
    guard (pointee = type)
    let bits ← readPlace index frame.memory place
    let value ← g.valueOf type bits
    return frame.define result value
  | .opStore, [pointer, object] => do
    let (pointee, place) ← frame.pointer pointer
    let value ← frame.values object
    let bits ← g.bitsOf pointee value
    let memory ← writePlace frame.memory bits place
    return { frame with memory := memory }
  | .opAccessChain, [type, result, base, index0, index1] => do
    let (pointee, place) ← frame.pointer base
    let index0 ← frame.word index0
    let index1 ← frame.word index1
    match place with
    | .invocationIndex => none
    | .buffer address => do
      let (part, address) ← partAt e g pointee address [index0, index1]
      guard (g.types type = some (.pointer (e.storageClass .storageBuffer) part))
      return frame.define result (.pointer part (.buffer address))
  | .opIAdd, [type, result, left, right] => do
    let left ← frame.word left
    let right ← frame.word right
    guard (g.IsWord type)
    return frame.define result (.word (left + right))
  | .opFAdd, [type, result, left, right] => do
    let left ← frame.real left
    let right ← frame.real right
    guard (g.IsReal type)
    return frame.define result (.real (fAdd left right))
  | .opBitcast, [type, result, operand] => do
    let value ← frame.values operand
    let bits ← match value with
      | .word bits => some bits
      | .real bits => some bits
      | .pointer _ _ => none
    let value ← g.valueOf type bits
    return frame.define result value
  | _, _ => none

/-- The instructions of the function up to its end, which leaves the buffer. -/
def runFunction : List Instruction → Frame → Option (List UInt32)
  | [], _ => none
  | i :: instructions, frame =>
    if i.op = .opReturn then some frame.memory
      else (execute e fAdd g index frame i).bind (runFunction instructions)

end Execute

/-! ### Invocations -/

section Invoke

variable (e : Enumerants) (fAdd : UInt32 → UInt32 → UInt32) (bound : UInt32 × UInt32)
  (instructions : List Instruction)

/-- What is in front of the first function. -/
def globalInstructions : List Instruction := instructions.takeWhile fun i => i.op != .opFunction

/-- What is behind the start of a function. -/
def functionInstructions (function : UInt32) : List Instruction :=
  (instructions.dropWhile fun i => !(i.op == .opFunction && i.operands[1]? == some function)).tail

/-- The globals of a module. -/
def globalsOf : Option Globals := (globalInstructions instructions).foldlM (declare e bound) {}

/-- One invocation of the entry point, for the buffer that is bound. -/
def invoke (memory : List UInt32) (index : UInt32) : Option (List UInt32) := do
  let g ← globalsOf e bound instructions
  let function ← g.entryPoint
  runFunction e fAdd g index (functionInstructions instructions function) ⟨g.values, memory⟩

/-- One invocation after another. -/
def dispatch (indices : List UInt32) (memory : List UInt32) : Option (List UInt32) :=
  indices.foldlM (invoke e fAdd bound instructions) memory

end Invoke

/-! ### Single instructions -/

section Single

variable {e : Enumerants} {fAdd : UInt32 → UInt32 → UInt32} {g : Globals} {index : UInt32}
  {frame : Frame} {type result left right operand pointer object a b bits : UInt32} {position : ℕ}

@[simp] theorem Frame.define_memory (id : UInt32) (value : Value) :
    (frame.define id value).memory = frame.memory :=
  rfl

@[simp] theorem Frame.define_self (id : UInt32) (value : Value) :
    (frame.define id value).values id = some value :=
  Function.update_self ..

theorem Frame.define_of_ne {id other : UInt32} (h : other ≠ id) (value : Value) :
    (frame.define id value).values other = frame.values other :=
  Function.update_of_ne h ..

theorem Globals.IsReal.not_isWord (h : g.IsReal type) : ¬ g.IsWord type := by
  intro hword
  rw [Globals.IsWord, h] at hword
  cases hword

theorem Globals.IsWord.valueOf (h : g.IsWord type) (bits : UInt32) :
    g.valueOf type bits = some (.word bits) :=
  if_pos h

theorem Globals.IsReal.valueOf (h : g.IsReal type) (bits : UInt32) :
    g.valueOf type bits = some (.real bits) := by
  rw [Globals.valueOf, if_neg h.not_isWord, if_pos h]

theorem execute_iAdd (hleft : frame.values left = some (.word a))
    (hright : frame.values right = some (.word b)) (htype : g.IsWord type) :
    execute e fAdd g index frame ⟨.opIAdd, [type, result, left, right]⟩ =
      some (frame.define result (.word (a + b))) := by
  simp [execute, Frame.word, hleft, hright, htype]

theorem execute_fAdd (hleft : frame.values left = some (.real a))
    (hright : frame.values right = some (.real b)) (htype : g.IsReal type) :
    execute e fAdd g index frame ⟨.opFAdd, [type, result, left, right]⟩ =
      some (frame.define result (.real (fAdd a b))) := by
  simp [execute, Frame.real, hleft, hright, htype]

theorem execute_bitcast_word (hoperand : frame.values operand = some (.word bits))
    (htype : g.IsReal type) :
    execute e fAdd g index frame ⟨.opBitcast, [type, result, operand]⟩ =
      some (frame.define result (.real bits)) := by
  simp [execute, hoperand, htype.valueOf]

theorem execute_bitcast_real (hoperand : frame.values operand = some (.real bits))
    (htype : g.IsWord type) :
    execute e fAdd g index frame ⟨.opBitcast, [type, result, operand]⟩ =
      some (frame.define result (.word bits)) := by
  simp [execute, hoperand, htype.valueOf]

theorem execute_load_index (hpointer : frame.values pointer = some (.pointer type .invocationIndex))
    (htype : g.IsWord type) :
    execute e fAdd g index frame ⟨.opLoad, [type, result, pointer]⟩ =
      some (frame.define result (.word index)) := by
  simp [execute, Frame.pointer, hpointer, readPlace, htype.valueOf]

theorem execute_load_buffer
    (hpointer : frame.values pointer = some (.pointer type (.buffer (position * 4))))
    (htype : g.IsWord type) (hread : frame.memory[position]? = some bits) :
    execute e fAdd g index frame ⟨.opLoad, [type, result, pointer]⟩ =
      some (frame.define result (.word bits)) := by
  simp [execute, Frame.pointer, hpointer, readPlace, htype.valueOf, hread]

theorem execute_store_buffer
    (hpointer : frame.values pointer = some (.pointer type (.buffer (position * 4))))
    (hobject : frame.values object = some (.word bits)) (htype : g.IsWord type)
    (hposition : position < frame.memory.length) :
    execute e fAdd g index frame ⟨.opStore, [pointer, object]⟩ =
      some { frame with memory := frame.memory.set position bits } := by
  simp [execute, Frame.pointer, hpointer, hobject, Globals.bitsOf, htype, writePlace, hposition]

/-- An element of the array in a structure with this array alone. -/
theorem execute_accessChain {base arrayType element stride offset first second : UInt32}
    {structType : UInt32} {address : ℕ}
    (hbase : frame.values base = some (.pointer structType (.buffer address)))
    (hfirst : frame.values first = some (.word 0))
    (hsecond : frame.values second = some (.word bits))
    (hstruct : g.types structType = some (.struct [arrayType]))
    (hoffset : g.annotated e structType (some 0) .offset = some offset)
    (harray : g.types arrayType = some (.runtimeArray element))
    (hstride : g.annotated e arrayType none .arrayStride = some stride)
    (htype : g.types type = some (.pointer (e.storageClass .storageBuffer) element)) :
    execute e fAdd g index frame ⟨.opAccessChain, [type, result, base, first, second]⟩ =
      some (frame.define result
        (.pointer element (.buffer (address + offset.toNat + bits.toNat * stride.toNat)))) := by
  simp [execute, Frame.pointer, Frame.word, hbase, hfirst, hsecond, partAt, hstruct, hoffset,
    harray, hstride, htype]

end Single

/-! ### Running straight on -/

section Straight

variable {e : Enumerants} {fAdd : UInt32 → UInt32 → UInt32} {g : Globals} {index : UInt32}
  {frame frame' : Frame} {instructions rest : List Instruction}

theorem runFunction_append (h : instructions.foldlM (execute e fAdd g index) frame = some frame') :
    runFunction e fAdd g index (instructions ++ rest) frame =
      runFunction e fAdd g index rest frame' := by
  induction instructions generalizing frame with
  | nil =>
    rw [List.foldlM_nil] at h
    cases h
    rfl
  | cons i instructions ih =>
    rw [List.foldlM_cons] at h
    obtain ⟨middle, hfirst, hlater⟩ := Option.bind_eq_some_iff.mp h
    have hop : i.op ≠ .opReturn := by
      intro hop
      obtain ⟨op, operands⟩ := i
      cases hop
      simp [execute] at hfirst
    rw [List.cons_append, runFunction, if_neg hop, hfirst, Option.bind_some]
    exact ih hlater

theorem runFunction_return (h : instructions.foldlM (execute e fAdd g index) frame = some frame') :
    runFunction e fAdd g index (instructions ++ ⟨.opReturn, []⟩ :: rest) frame =
      some frame'.memory := by
  rw [runFunction_append h, runFunction, if_pos rfl]

end Straight

/-! ### Invocations that share nothing -/

section Owners

variable {α ι : Type} [DecidableEq ι] {run : List α → ι → Option (List α)} {owner : ℕ → ι}
  {start goal : List α}

/-- Steps of which each rewrites its own positions, from what they are at the start to what they
are to be, and nothing else, reach the goal together in every order. -/
theorem foldlM_of_owners {order : List ι}
    (hrun : ∀ memory, ∀ i ∈ order, memory.length = start.length →
      (∀ p, owner p = i → memory[p]? = start[p]?) → ∃ memory', run memory i = some memory' ∧
    memory'.length = start.length ∧ ∀ p, memory'[p]? = if owner p = i then goal[p]? else memory[p]?)
    (hlength : goal.length = start.length) (hnodup : order.Nodup)
      (hall : ∀ p < start.length, owner p ∈ order) :
    order.foldlM run start = some goal := by
  -- the positions of the indices that are still to come are as at the start, the others are done
  have hfrom : ∀ (rest : List ι) (memory : List α),
    rest ⊆ order → rest.Nodup → memory.length = start.length →
      (∀ p, memory[p]? = if owner p ∈ rest then start[p]? else goal[p]?) →
        rest.foldlM run memory = some goal := by
    intro rest
    induction rest with
    | nil =>
      intro memory _ _ _ hmemory
      rw [List.foldlM_nil, Option.pure_def, Option.some.injEq]
      apply List.ext_getElem?
      intro p
      rw [hmemory p, if_neg List.not_mem_nil]
    | cons i rest ih =>
      intro memory hsub hnodup hmemoryLength hmemory
      obtain ⟨hfirst, hrest⟩ := List.nodup_cons.mp hnodup
      obtain ⟨hi, hsub⟩ := List.cons_subset.mp hsub
      obtain ⟨memory', hstep, hlength', hmemory'⟩ := hrun memory i hi hmemoryLength (by
        intro p hp
        rw [hmemory p, if_pos (by rw [hp]; exact List.mem_cons_self)])
      rw [List.foldlM_cons, hstep]
      refine ih memory' hsub hrest hlength' ?_
      intro p
      rw [hmemory' p]
      by_cases hp : owner p = i
      · rw [if_pos hp, if_neg (by rwa [hp])]
      · rw [if_neg hp, hmemory p]
        simp only [List.mem_cons, hp, false_or]
  refine hfrom order start (List.Subset.refl order) hnodup rfl ?_
  intro p
  by_cases hp : p < start.length
  · rw [if_pos (hall p hp)]
  · rw [List.getElem?_eq_none (by omega), List.getElem?_eq_none (by omega), ite_self]

end Owners

end Astraea.Spirv
