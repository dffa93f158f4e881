import Astraea.Graphics.ShaderScalarExecution

/-!
# Executing vector operations and exports

A vector register has one value for each lane of the wave, and the execution mask says
which lanes take part. A move copies the active lanes. `V_ADD_F32` is executed only where
the sum of the two numbers is exact: both are normal, and so is their sum, which needs no
rounding. An export records what the lanes hold.
-/

namespace Astraea.Graphics

open Astraea.Base

/-- The number of vector registers. -/
def kShaderVectorGprCount : ℕ := 256

/-- The most lanes of a wave. -/
def kShaderMaxWaveLaneCount : ℕ := 64

/-- The sizes a wave can have. -/
inductive ShaderWaveSize where
  | unspecified
  | wave32
  | wave64
  deriving DecidableEq

/-- The value of a register in every lane. -/
abbrev ShaderLanes := Vector UInt32 kShaderMaxWaveLaneCount

/-- The vector registers of a wave. -/
structure ShaderVectorState where
  waveSize : ShaderWaveSize
  vgprs : Vector ShaderLanes kShaderVectorGprCount
  deriving DecidableEq

/-- What a move wrote to vector registers. -/
structure ShaderVectorMove32Effect where
  waveSize : ShaderWaveSize
  destinationVgpr : UInt8
  sourceVgpr : UInt8
  activeLaneMask : UInt64
  writtenValues : ShaderLanes
  deriving DecidableEq

/-- What a sum wrote to vector registers. -/
structure ShaderVectorAddF32Effect where
  waveSize : ShaderWaveSize
  destinationVgpr : UInt8
  source0Vgpr : UInt8
  source1Vgpr : UInt8
  activeLaneMask : UInt64
  writtenValues : ShaderLanes
  deriving DecidableEq

/-- Why an operation is not executed. -/
inductive ShaderVectorExecutionErrorCode where
  | unsupportedOperation
  | invalidWaveSize
  | unsupportedF32Case
  deriving DecidableEq

/-- An operation that is not executed, with the lane it is about. -/
structure ShaderVectorExecutionError where
  code : ShaderVectorExecutionErrorCode
  laneIndex : Option ℕ := none
  deriving DecidableEq

/-! ### Exact sums -/

/-- The parts of a normal number. -/
structure NormalF32 where
  negative : Bool
  exponent : UInt8
  significand : UInt32
  deriving DecidableEq

/-- `decode_normal_f32`. -/
def decodeNormalF32 (bits : UInt32) : Option NormalF32 :=
  let exponent := (bits >>> 23 &&& 0xff).toUInt8
  if exponent = 0 ∨ exponent = 0xff then none
  else some ⟨bits &&& 0x80000000 != 0, exponent, 0x00800000 ||| (bits &&& 0x007fffff)⟩

/-- `bit_length`. -/
def bitLength (value : ℕ) : ℕ := if value = 0 then 0 else bitLength (value >>> 1) + 1
termination_by value
decreasing_by
  rw [Nat.shiftRight_eq_div_pow]
  omega

/-- The significand of a magnitude, brought to 24 bits, and the exponent that goes with it. -/
def normalizeMagnitude (magnitude : ℕ) (exponent : ℤ) : Option (ℕ × ℤ) :=
  let length := bitLength magnitude
  if length = 0 then none
  else if length > 24 then
    let discardCount := length - 24
    if magnitude &&& (1 <<< discardCount - 1) ≠ 0 then none
    else some (magnitude >>> discardCount, exponent + discardCount)
  else some (magnitude <<< (24 - length), exponent - (24 - length : ℕ))

/-- The value of a significand moved up by `shift` and signed. -/
def NormalF32.signedMagnitude (number : NormalF32) (shift : ℕ) : ℤ :=
  let magnitude : ℤ := (number.significand.toNat <<< shift : ℕ)
  if number.negative = true then -magnitude else magnitude

/-- `exact_normal_f32_sum`. No number here has more than 49 bits. -/
def exactNormalF32Sum (leftBits rightBits : UInt32) : Option UInt32 := do
  let left ← decodeNormalF32 leftBits
  let right ← decodeNormalF32 rightBits
  let minimumExponent := min left.exponent right.exponent
  let leftShift := (left.exponent - minimumExponent).toNat
  let rightShift := (right.exponent - minimumExponent).toNat
  guard (leftShift ≤ 24 ∧ rightShift ≤ 24)
  let signedSum := left.signedMagnitude leftShift + right.signedMagnitude rightShift
  guard (signedSum ≠ 0)
  let (significand, exponent) ← normalizeMagnitude signedSum.natAbs minimumExponent.toNat
  guard (0 < exponent ∧ exponent < 0xff)
  guard (0x00800000 ≤ significand ∧ significand ≤ 0x00ffffff)
  return (if signedSum < 0 then (0x80000000 : UInt32) else 0) |||
    (UInt32.ofNat exponent.toNat <<< 23) |||
    (UInt32.ofNat significand &&& 0x007fffff)

/-! ### Lanes -/

/-- A vector register. -/
def ShaderVectorState.vgpr (state : ShaderVectorState) (register : ShaderIrVgpr) : ShaderLanes :=
  state.vgprs.get ⟨register.index.toNat, register.index.toNat_lt⟩

/-- The lanes of the wave, and which of them the mask `exec` makes active. -/
def activeLanes (waveSize : ShaderWaveSize) (exec : UInt64) : Option (ℕ × UInt64) :=
  match waveSize with
  | .wave32 => some (32, exec &&& 0xffffffff)
  | .wave64 => some (64, exec)
  | .unspecified => none

/-- A lane takes part. -/
def laneActive (laneCount : ℕ) (activeLaneMask : UInt64) (lane : Fin kShaderMaxWaveLaneCount) :
    Bool :=
  decide (lane.val < laneCount) && activeLaneMask &&& (1 <<< UInt64.ofNat lane.val) != 0

/-- The register with the active lanes written. -/
def ShaderVectorState.setLanes (state : ShaderVectorState) (register : ShaderIrVgpr)
    (active : Fin kShaderMaxWaveLaneCount → Bool) (values : ShaderLanes) : ShaderVectorState :=
  let lanes : ShaderLanes := Vector.ofFn fun lane =>
    if active lane = true then values.get lane else (state.vgpr register).get lane
  { state with vgprs := state.vgprs.setIfInBounds register.index.toNat lanes }

/-- The active lanes of a register, and zero in the others. -/
def ShaderVectorState.readLanes (state : ShaderVectorState) (register : ShaderIrVgpr)
    (active : Fin kShaderMaxWaveLaneCount → Bool) : ShaderLanes :=
  Vector.ofFn fun lane => if active lane = true then (state.vgpr register).get lane else 0

/-! ### Operations -/

/-- `execute_shader_vector_move32_operation`. -/
def executeShaderVectorMove32Operation (operation : ShaderIrOperation)
    (scalarState : ShaderScalarState) (vectorState : ShaderVectorState) :
    Except ShaderVectorExecutionError ShaderVectorMove32Effect × ShaderVectorState :=
  match operation with
  | .vectorMove32 destination source =>
    match activeLanes vectorState.waveSize scalarState.exec with
    | none => (.error { code := .invalidWaveSize }, vectorState)
    | some (laneCount, activeLaneMask) =>
      let active := laneActive laneCount activeLaneMask
      let writtenValues := vectorState.readLanes source active
      (.ok ⟨vectorState.waveSize, destination.index, source.index, activeLaneMask, writtenValues⟩,
        vectorState.setLanes destination active writtenValues)
  | _ => (.error { code := .unsupportedOperation }, vectorState)

/-- The first loop of `V_ADD_F32`: the sums of the active lanes, or the first lane that has none. -/
def addLanes (active : Fin kShaderMaxWaveLaneCount → Bool) (source0 source1 : ShaderLanes) :
    List (Fin kShaderMaxWaveLaneCount) → ShaderLanes → Except ShaderVectorExecutionError ShaderLanes
  | [], writtenValues => .ok writtenValues
  | lane :: lanes, writtenValues =>
    if active lane = false then addLanes active source0 source1 lanes writtenValues
    else
      match exactNormalF32Sum (source0.get lane) (source1.get lane) with
      | none => .error ⟨.unsupportedF32Case, some lane.val⟩
      | some sum => addLanes active source0 source1 lanes (writtenValues.set lane.val sum)

/-- `execute_shader_vector_add_f32_exact_operation`: every sum is there before one is written. -/
def executeShaderVectorAddF32ExactOperation (operation : ShaderIrOperation)
    (scalarState : ShaderScalarState) (vectorState : ShaderVectorState) :
    Except ShaderVectorExecutionError ShaderVectorAddF32Effect × ShaderVectorState :=
  match operation with
  | .vectorAddF32 destination source0 source1 =>
    match activeLanes vectorState.waveSize scalarState.exec with
    | none => (.error { code := .invalidWaveSize }, vectorState)
    | some (laneCount, activeLaneMask) =>
      let active := laneActive laneCount activeLaneMask
      match addLanes active (vectorState.vgpr source0) (vectorState.vgpr source1)
        ((List.finRange kShaderMaxWaveLaneCount).take laneCount) (Vector.replicate _ 0) with
      | .error e => (.error e, vectorState)
      | .ok writtenValues =>
        (.ok ⟨vectorState.waveSize, destination.index, source0.index, source1.index, activeLaneMask,
          writtenValues⟩, vectorState.setLanes destination active writtenValues)
  | _ => (.error { code := .unsupportedOperation }, vectorState)

/-! ### Exports -/

/-- The values that an export hands on. -/
structure ShaderExportCaptureEffect where
  waveSize : ShaderWaveSize
  targetKind : ShaderIrExportTargetKind
  targetIndex : UInt8
  enableMask : UInt8
  compressed : Bool
  done : Bool
  validMask : Bool
  activeLaneMask : UInt64
  sourceValues : Vector ShaderLanes 4
  deriving DecidableEq

/-- Why an export is not captured. -/
inductive ShaderExportCaptureErrorCode where
  | unsupportedOperation
  | invalidWaveSize
  deriving DecidableEq

/-- An export that is not captured. -/
structure ShaderExportCaptureError where
  code : ShaderExportCaptureErrorCode
  deriving DecidableEq

/-- `capture_shader_export_operation`. -/
def captureShaderExportOperation (operation : ShaderIrOperation) (scalarState : ShaderScalarState)
    (vectorState : ShaderVectorState) : Except ShaderExportCaptureError ShaderExportCaptureEffect :=
  match operation with
  | .exporting fields =>
    match activeLanes vectorState.waveSize scalarState.exec with
    | none => .error ⟨.invalidWaveSize⟩
    | some (laneCount, activeLaneMask) => .ok {
        waveSize := vectorState.waveSize
        targetKind := fields.targetKind
        targetIndex := fields.targetIndex
        enableMask := fields.enableMask
        compressed := fields.compressed
        done := fields.done
        validMask := fields.validMask
        activeLaneMask := activeLaneMask
        sourceValues := fields.sources.map fun source =>
          vectorState.readLanes source (laneActive laneCount activeLaneMask) }
  | _ => .error ⟨.unsupportedOperation⟩

end Astraea.Graphics
