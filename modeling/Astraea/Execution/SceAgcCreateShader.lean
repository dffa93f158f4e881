import Astraea.Execution.GuestMemory
import Astraea.Execution.Hle
import Astraea.Graphics.AgcShaderBinary

/-!
# Planning `sceAgcCreateShader`

The guest passes the addresses of an output slot, of a shader header and of a shader text.
`plan_sce_agc_create_shader` reads the sizes from the front of the header, then header and
text whole, and parses them. It reads guest memory and writes nothing.

`CreatedFrom` says what a plan holds: the bytes guest memory held at the two addresses.
-/

namespace Astraea.Execution

open Astraea.Base Astraea.Core Astraea.Memory Astraea.Graphics

/-- The function that creates a shader. -/
def kSceAgcCreateShaderHleId : HleFunctionId := ⟨3⟩

/-- What a call of `sceAgcCreateShader` asks for. -/
structure SceAgcCreateShaderRequest where
  outputPointerAddress : GuestAddress
  shaderHeaderAddress : GuestAddress
  shaderTextAddress : GuestAddress
  deriving DecidableEq

/-- A request whose memory can be accessed. -/
structure SceAgcCreateShaderPlan where
  request : SceAgcCreateShaderRequest
  shader : AgcShaderBinary
  deriving DecidableEq

/-- Why a call cannot be planned. -/
inductive SceAgcCreateShaderPlanErrorCode where
  | unexpectedFunction
  | nullShaderHeader
  | nullShaderText
  | declaredHeaderSizeTooSmall
  | declaredShaderTextSizeTooSmall
  | hostSizeUnrepresentable
  | hostAllocationFailure
  | guestMemoryFailure
  | invalidShaderBinary
  deriving DecidableEq

/-- A call that cannot be planned. -/
structure SceAgcCreateShaderPlanError where
  code : SceAgcCreateShaderPlanErrorCode
  functionId : Option HleFunctionId := none
  guestAddress : Option GuestAddress := none
  guestMemoryError : Option GuestMemoryError := none
  shaderBinaryError : Option AgcShaderBinaryError := none
  deriving DecidableEq

/-- `memory_error`. -/
def createShaderMemoryError (detail : GuestMemoryError) : SceAgcCreateShaderPlanError where
  code := .guestMemoryFailure
  functionId := kSceAgcCreateShaderHleId
  guestAddress := if detail.hasGuestAddress = true then some ⟨detail.guestAddress⟩ else none
  guestMemoryError := detail

/-- `shader_error`. -/
def createShaderBinaryError (detail : AgcShaderBinaryError) : SceAgcCreateShaderPlanError where
  code := .invalidShaderBinary
  functionId := kSceAgcCreateShaderHleId
  shaderBinaryError := detail

/-- The addresses a call asks about. -/
def createShaderRequest (call : HleCall) : SceAgcCreateShaderRequest :=
  ⟨⟨call.argument 0⟩, ⟨call.argument 1⟩, ⟨call.argument 2⟩⟩

/-- `plan_sce_agc_create_shader`, over the bytes guest memory holds. -/
def planSceAgcCreateShader (host : Host) (call : HleCall) (memory : GuestMemoryAccess)
    (bytes : ℕ → UInt8) :
    Except SceAgcCreateShaderPlanError SceAgcCreateShaderPlan := do
  refuseIf (call.functionId ≠ kSceAgcCreateShaderHleId)
    { code := .unexpectedFunction, functionId := call.functionId }
  let request := createShaderRequest call
  refuseIf (request.shaderHeaderAddress.value = 0)
    { code := .nullShaderHeader, functionId := call.functionId,
      guestAddress := request.shaderHeaderAddress }
  refuseIf (request.shaderTextAddress.value = 0)
    { code := .nullShaderText, functionId := call.functionId,
      guestAddress := request.shaderTextAddress }
  let headerPrefix ← (memory.read bytes request.shaderHeaderAddress kAgcHeaderMinimumSize).mapError
    createShaderMemoryError
  let declaredHeaderSize := u32At headerPrefix kAgcHeaderSizeOffset
  let declaredShaderTextSize := u32At headerPrefix kAgcShaderTextSizeOffset
  refuseIf (declaredHeaderSize.toNat < kAgcHeaderMinimumSize)
    { code := .declaredHeaderSizeTooSmall, functionId := call.functionId,
      guestAddress := request.shaderHeaderAddress }
  refuseIf (declaredShaderTextSize.toNat < kAgcShaderTextTrailerSize)
    { code := .declaredShaderTextSizeTooSmall, functionId := call.functionId,
      guestAddress := request.shaderTextAddress }
  allocate host .createShaderBuffers
    { code := .hostAllocationFailure, functionId := call.functionId }
    { code := .hostSizeUnrepresentable, functionId := call.functionId }
  let shaderHeader ← (memory.read bytes request.shaderHeaderAddress
    declaredHeaderSize.toNat).mapError createShaderMemoryError
  let shaderText ← (memory.read bytes request.shaderTextAddress
    declaredShaderTextSize.toNat).mapError createShaderMemoryError
  let shader ← (parseAgcShaderBinary host shaderHeader shaderText).mapError createShaderBinaryError
  return ⟨request, shader⟩

/-! ### What a plan holds -/

variable {memory : GuestMemoryAccess} {bytes : ℕ → UInt8} {address : GuestAddress}

theorem GuestMemoryAccess.read_eq_ok {count : ℕ} {data : List UInt8}
    (h : memory.read bytes address count = .ok data) :
    data = load bytes address.toNat count ∧
    ∃ n, memory.validate address (UInt64.ofNat count) .read = .ok n := by
  simp only [read, bind_eq_ok, pure_eq_ok] at h
  obtain ⟨n, hvalid, rfl⟩ := h
  exact ⟨rfl, n, hvalid⟩

theorem GuestMemoryAccess.noWrap_of_validate {byteCount n : UInt64} {access : AccessKind}
    (h : memory.validate address byteCount access = .ok n) :
    address.toNat + byteCount.toNat ≤ 2 ^ 64 := by
  by_cases hpos : 0 < byteCount.toNat
  · refine ((validate_iff ?_ hpos).mp ⟨n, h⟩).1
    simp only [validate, bind_eq_ok, refuseIf_eq_ok] at h
    obtain ⟨-, havail, -⟩ := h
    simpa using havail
  · have := address.toNat_lt
    omega

/-- A plan for the guest memory `bytes`: header and text are what memory held at the addresses
of the call. -/
structure CreatedFrom (call : HleCall) (bytes : ℕ → UInt8) (plan : SceAgcCreateShaderPlan) :
    Prop where
  request : plan.request = createShaderRequest call
  parsed : ParsedFrom
    (load bytes plan.request.shaderHeaderAddress.toNat plan.shader.declaredHeaderSize.toNat)
    (load bytes plan.request.shaderTextAddress.toNat plan.shader.declaredShaderTextSize.toNat)
      plan.shader
  headerSize : plan.shader.declaredHeaderSize =
    u32At (load bytes plan.request.shaderHeaderAddress.toNat kAgcHeaderMinimumSize)
      kAgcHeaderSizeOffset
  textSize : plan.shader.declaredShaderTextSize =
    u32At (load bytes plan.request.shaderHeaderAddress.toNat kAgcHeaderMinimumSize)
      kAgcShaderTextSizeOffset
  headerNoWrap : plan.request.shaderHeaderAddress.toNat + plan.shader.declaredHeaderSize.toNat ≤
    2 ^ 64
  textNoWrap : plan.request.shaderTextAddress.toNat + plan.shader.declaredShaderTextSize.toNat ≤
    2 ^ 64

theorem createdFrom_of_plan {host : Host} {call : HleCall} {plan : SceAgcCreateShaderPlan}
    (h : planSceAgcCreateShader host call memory bytes = .ok plan) :
    CreatedFrom call bytes plan := by
  simp only [planSceAgcCreateShader, bind_eq_ok, refuseIf_eq_ok, mapError_eq_ok, allocate_eq_ok,
    pure_eq_ok] at h
  obtain ⟨-, -, -, -, -, -, headerPrefix, hprefix, -, -, -, -, -, -, header, hheader, text, htext,
    shader, hshader, rfl⟩ := h
  obtain ⟨rfl, -⟩ := GuestMemoryAccess.read_eq_ok hprefix
  obtain ⟨hheader, _, hvalid⟩ := GuestMemoryAccess.read_eq_ok hheader
  obtain ⟨htext, _, hvalid'⟩ := GuestMemoryAccess.read_eq_ok htext
  have hparsed := parseAgcShaderBinary_eq_ok hshader
  have hsize := hparsed.headerSize
  have hsize' := hparsed.textSize
  rw [hheader, length_load] at hsize
  rw [htext, length_load] at hsize'
  have hword : ∀ n : UInt32, (UInt64.ofNat n.toNat).toNat = n.toNat := fun n =>
    toNat_ofNat_of_lt (lt_trans n.toNat_lt (by decide))
  have hwrap := GuestMemoryAccess.noWrap_of_validate hvalid
  have hwrap' := GuestMemoryAccess.noWrap_of_validate hvalid'
  rw [hword] at hwrap hwrap'
  refine ⟨rfl, ?_, UInt32.toNat_inj.mp hsize, UInt32.toNat_inj.mp hsize', ?_, ?_⟩
  · dsimp only
    rw [hsize, hsize', ← hheader, ← htext]
    exact hparsed
  · dsimp only
    rw [hsize]
    exact hwrap
  · dsimp only
    rw [hsize']
    exact hwrap'

end Astraea.Execution
