import Astraea.Graphics.ShaderIr

/-!
# Executing scalar operations

A wave has one set of scalar registers, the condition and execution masks, and one
condition bit. `execute_shader_scalar_operation` executes the two scalar moves; it writes
nothing before it has checked both operands. Branch conditions are evaluated over the same
state.
-/

namespace Astraea.Graphics

open Astraea.Base

/-- The number of scalar registers. -/
def kShaderScalarGprCount : ℕ := 106

/-- The scalar registers of a wave. -/
structure ShaderScalarState where
  sgprs : Vector UInt32 kShaderScalarGprCount
  vcc : UInt64
  m0 : UInt32
  exec : UInt64
  scc : Bool
  deriving DecidableEq

/-- How wide a write is. -/
inductive ShaderScalarWriteWidth where
  | bits32
  | bits64
  deriving DecidableEq

/-- What an operation wrote to scalar registers. -/
structure ShaderScalarExecutionEffect where
  width : ShaderScalarWriteWidth
  firstDestinationSgpr : UInt8
  writtenValues : Vector UInt32 2
  deriving DecidableEq

/-- Why an operation is not executed. -/
inductive ShaderScalarExecutionErrorCode where
  | unsupportedOperation
  | invalidSgprIndex
  | invalidSgprPair
  deriving DecidableEq

/-- The operand that an error is about. -/
inductive ShaderScalarExecutionOperandRole where
  | none
  | source
  | destination
  deriving DecidableEq

/-- An operation that is not executed, with the operand it is about. -/
structure ShaderScalarExecutionError where
  code : ShaderScalarExecutionErrorCode
  role : ShaderScalarExecutionOperandRole := .none
  sgprIndex : UInt16 := 0
  deriving DecidableEq

/-- `valid_sgpr`. -/
def validSgpr (index : UInt8) : Bool := decide (index.toNat < kShaderScalarGprCount)

/-- `valid_sgpr_pair`. -/
def validSgprPair (firstIndex : UInt8) : Bool :=
  firstIndex.toNat % 2 == 0 && decide (firstIndex.toNat + 1 < kShaderScalarGprCount)

/-- A scalar register; the index has been checked. -/
def ShaderScalarState.sgpr (state : ShaderScalarState) (index : ℕ) : UInt32 :=
  state.sgprs.toArray.getD index 0

/-- A scalar register written; the index has been checked. -/
def ShaderScalarState.setSgpr (state : ShaderScalarState) (index : ℕ) (value : UInt32) :
    ShaderScalarState :=
  { state with sgprs := state.sgprs.setIfInBounds index value }

/-- The special sources. -/
def readSpecialScalarSource32 (kind : ShaderIrSpecialScalarSourceKind32)
    (state : ShaderScalarState) : UInt32 :=
  match kind with
  | .vccLo => (state.vcc &&& 0xffffffff).toUInt32
  | .vccHi => (state.vcc >>> 32).toUInt32
  | .m0 => state.m0
  | .nullRegister => 0
  | .execLo => (state.exec &&& 0xffffffff).toUInt32
  | .execHi => (state.exec >>> 32).toUInt32

/-- `read_scalar_source32`. -/
def readScalarSource32 (source : ShaderIrScalarSource32) (state : ShaderScalarState) :
    Except ShaderScalarExecutionError UInt32 :=
  match source with
  | .sgpr register => do
    refuseIf (validSgpr register.index = false) ⟨.invalidSgprIndex, .source,
      register.index.toUInt16⟩
    return state.sgpr register.index.toNat
  | .special kind => .ok (readSpecialScalarSource32 kind state)
  | .inlineInteger value => .ok value.toUInt32
  | .literal bits => .ok bits

/-- `S_MOV_B32`. -/
def executeScalarMove32 (destination : ShaderIrSgpr) (source : ShaderIrScalarSource32)
    (state : ShaderScalarState) :
    Except ShaderScalarExecutionError (ShaderScalarExecutionEffect × ShaderScalarState) := do
  refuseIf (validSgpr destination.index = false) ⟨.invalidSgprIndex, .destination,
    destination.index.toUInt16⟩
  let value ← readScalarSource32 source state
  return (⟨.bits32, destination.index, #v[value, 0]⟩, state.setSgpr destination.index.toNat value)

/-- `S_MOV_B64`: both words are read before either is written. -/
def executeScalarMove64 (destination source : ShaderIrSgprPair) (state : ShaderScalarState) :
    Except ShaderScalarExecutionError (ShaderScalarExecutionEffect × ShaderScalarState) := do
  refuseIf (validSgprPair destination.firstIndex = false)
    ⟨.invalidSgprPair, .destination, destination.firstIndex.toUInt16⟩
  refuseIf (validSgprPair source.firstIndex = false)
    ⟨.invalidSgprPair, .source, source.firstIndex.toUInt16⟩
  let low := state.sgpr source.firstIndex.toNat
  let high := state.sgpr (source.firstIndex.toNat + 1)
  let first := destination.firstIndex.toNat
  return (⟨.bits64, destination.firstIndex, #v[low, high]⟩,
    (state.setSgpr first low).setSgpr (first + 1) high)

/-- `execute_shader_scalar_operation`. -/
def executeShaderScalarOperation (operation : ShaderIrOperation) (state : ShaderScalarState) :
    Except ShaderScalarExecutionError (ShaderScalarExecutionEffect × ShaderScalarState) :=
  match operation with
  | .scalarMove32 destination source => executeScalarMove32 destination source state
  | .scalarMove64 destination source => executeScalarMove64 destination source state
  | _ => .error { code := .unsupportedOperation }

/-! ### Branch conditions -/

/-- If a branch is taken, and where it goes. -/
structure ShaderBranchDecision where
  condition : ShaderIrBranchCondition
  taken : Bool
  deriving DecidableEq

/-- `evaluate_shader_branch_condition`. -/
def evaluateShaderBranchCondition (condition : ShaderIrBranchCondition)
    (state : ShaderScalarState) :
    ShaderBranchDecision where
  condition := condition
  taken := match condition with
    | .sccZero => !state.scc
    | .sccOne => state.scc
    | .vccZero => state.vcc == 0
    | .vccNonzero => state.vcc != 0
    | .execZero => state.exec == 0
    | .execNonzero => state.exec != 0

end Astraea.Graphics
