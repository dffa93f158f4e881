import Astraea.Execution.FirstRasterSubmission
import Astraea.Execution.SceAgcCreateShader

/-!
# Capturing a submission

`plan_sce_agc_driver_submit_dcb` reads what a guest submits: a description of 16 bytes, which names
the words of a command buffer and how many there are, and then these words. Nothing is changed and
nothing is decoded; the planners of submissions work on what was captured.

`CapturedFrom` says that a capture is what guest memory held.
-/

namespace Astraea.Execution

open Astraea.Base Astraea.Core Astraea.Memory Astraea.Graphics

/-- The function that submits a command buffer. -/
def kSceAgcDriverSubmitDcbHleId : HleFunctionId := ⟨4⟩

/-- The bytes of a description. -/
def kSceAgcDcbSubmitDescriptionSize : ℕ := 16

/-- The most words that can be submitted. -/
def kSceAgcDcbSupportedMaximumWordCount : UInt32 := 0x000fffff

/-- Where the description has the address of the words. -/
def kWordsPointerOffset : ℕ := 0x00

/-- Where it has their number. -/
def kWordCountOffset : ℕ := 0x08

/-- Where it has its flag. -/
def kFlagOffset : ℕ := 0x0c

/-- Where its padding starts. -/
def kPaddingOffset : ℕ := 0x0d

/-- The bytes of a word. -/
def kCommandWordBytes : UInt64 := 4

/-- A submission with everything that was captured of it. -/
structure SceAgcDcbCapture extends SceAgcDcbSubmission where
  submitDescriptionAddress : GuestAddress
  commandWordsAddress : GuestAddress
  wordCount : UInt32
  rawSubmitDescription : List UInt8
  opaquePadding : List UInt8
  deriving DecidableEq

/-- Why a submission cannot be planned. -/
inductive SceAgcDriverSubmitDcbPlanErrorCode where
  | unexpectedFunction
  | nullSubmitDescription
  | nullCommandWords
  | wordCountExceedsSupportedProfile
  | hostSizeUnrepresentable
  | hostAllocationFailure
  | guestMemoryFailure
  deriving DecidableEq

/-- A submission that cannot be planned. -/
structure SceAgcDriverSubmitDcbPlanError where
  code : SceAgcDriverSubmitDcbPlanErrorCode
  functionId : Option HleFunctionId := none
  guestAddress : Option GuestAddress := none
  guestMemoryError : Option GuestMemoryError := none
  deriving DecidableEq

/-- `memory_error`. -/
def submitDcbMemoryError (detail : GuestMemoryError) : SceAgcDriverSubmitDcbPlanError where
  code := .guestMemoryFailure
  functionId := kSceAgcDriverSubmitDcbHleId
  guestAddress := if detail.hasGuestAddress = true then some ⟨detail.guestAddress⟩ else none
  guestMemoryError := detail

/-- `command_byte_count`, on a host whose sizes have 64 bits. -/
def commandByteCount (wordCount : UInt32) : Option UInt64 :=
  let raw := wordCount.toUInt64
  if raw > u64Max / kCommandWordBytes then none else some (raw * kCommandWordBytes)

/-- The command bytes; where there are none, guest memory is not looked at. -/
def readCommandBytes (memory : GuestMemoryAccess) (bytes : ℕ → UInt8) (wordsAddress : GuestAddress)
    (byteCount : UInt64) :
    Except SceAgcDriverSubmitDcbPlanError (List UInt8) :=
  if byteCount ≠ 0 then
    (memory.read bytes wordsAddress byteCount.toNat).mapError submitDcbMemoryError else .ok []

/-- `plan_sce_agc_driver_submit_dcb`, over the bytes guest memory holds. -/
def planSceAgcDriverSubmitDcb (host : Host) (call : HleCall) (memory : GuestMemoryAccess)
    (bytes : ℕ → UInt8) : Except SceAgcDriverSubmitDcbPlanError SceAgcDcbCapture := do
  refuseIf (call.functionId ≠ kSceAgcDriverSubmitDcbHleId)
    { code := .unexpectedFunction, functionId := call.functionId }
  let descriptionAddress : GuestAddress := ⟨call.argument 0⟩
  refuseIf (descriptionAddress.value = 0)
    { code := .nullSubmitDescription, functionId := call.functionId,
      guestAddress := descriptionAddress }
  let descriptor ← (memory.read bytes descriptionAddress kSceAgcDcbSubmitDescriptionSize).mapError
    submitDcbMemoryError
  let wordsAddress : GuestAddress := ⟨u64At descriptor kWordsPointerOffset⟩
  let wordCount := u32At descriptor kWordCountOffset
  let planError (code : SceAgcDriverSubmitDcbPlanErrorCode) : SceAgcDriverSubmitDcbPlanError :=
    { code := code, functionId := call.functionId, guestAddress := wordsAddress }
  refuseIf (wordCount > kSceAgcDcbSupportedMaximumWordCount)
    (planError .wordCountExceedsSupportedProfile)
  let byteCount ← orRefuse (commandByteCount wordCount) (planError .hostSizeUnrepresentable)
  refuseIf (wordCount ≠ 0 ∧ wordsAddress.value = 0) (planError .nullCommandWords)
  allocate host .submitDcbBytes (planError .hostAllocationFailure)
    (planError .hostSizeUnrepresentable)
  let commandBytes ← readCommandBytes memory bytes wordsAddress byteCount
  return {
    flag := u8At descriptor kFlagOffset
    commandBufferBytes := commandBytes
    submitDescriptionAddress := descriptionAddress
    commandWordsAddress := wordsAddress
    wordCount := wordCount
    rawSubmitDescription := descriptor
    opaquePadding := descriptor.drop kPaddingOffset }

/-! ### What a capture holds -/

/-- The word at an address of guest memory. -/
def guestWord (bytes : ℕ → UInt8) (address : ℕ) : UInt32 :=
  UInt32.ofNat (leValue (load bytes address 4))

/-- A capture of guest memory: the description is what memory held at the address of the call, and
the command buffer is what it held where the description says. -/
structure CapturedFrom (call : HleCall) (bytes : ℕ → UInt8) (capture : SceAgcDcbCapture) :
    Prop where
  descriptionAddress : capture.submitDescriptionAddress = ⟨call.argument 0⟩
  description : capture.rawSubmitDescription =
    load bytes capture.submitDescriptionAddress.toNat kSceAgcDcbSubmitDescriptionSize
  wordsAddress : capture.commandWordsAddress.value =
    u64At capture.rawSubmitDescription kWordsPointerOffset
  wordCount : capture.wordCount = u32At capture.rawSubmitDescription kWordCountOffset
  flag : capture.flag = u8At capture.rawSubmitDescription kFlagOffset
  commandBytes : capture.commandBufferBytes =
    load bytes capture.commandWordsAddress.toNat (capture.wordCount.toNat * 4)

variable {byteCount : UInt64} {memory : GuestMemoryAccess} {bytes : ℕ → UInt8} {call : HleCall}
  {capture : SceAgcDcbCapture}

theorem toNat_of_commandByteCount {wordCount : UInt32}
    (h : commandByteCount wordCount = some byteCount) : byteCount.toNat = wordCount.toNat * 4 := by
  unfold commandByteCount at h
  dsimp only at h
  split at h
  · cases h
  · have hlt := wordCount.toNat_lt
    rw [← Option.some.inj h, UInt64.toNat_mul, UInt32.toNat_toUInt64]
    exact Nat.mod_eq_of_lt (by rw [show kCommandWordBytes.toNat = 4 from rfl]; omega)

theorem readCommandBytes_eq_ok {wordsAddress : GuestAddress} {commandBytes : List UInt8}
    (h : readCommandBytes memory bytes wordsAddress byteCount = .ok commandBytes) :
    commandBytes = load bytes wordsAddress.toNat byteCount.toNat := by
  unfold readCommandBytes at h
  split at h
  · rw [mapError_eq_ok] at h
    exact (GuestMemoryAccess.read_eq_ok h).1
  · rename_i hzero
    rw [not_not] at hzero
    rw [hzero, ← Except.ok.inj h]
    rfl

theorem capturedFrom_of_plan {host : Host}
    (h : planSceAgcDriverSubmitDcb host call memory bytes = .ok capture) :
    CapturedFrom call bytes capture := by
  simp only [planSceAgcDriverSubmitDcb, bind_eq_ok, refuseIf_eq_ok, mapError_eq_ok, orRefuse_eq_ok,
    pure_eq_ok] at h
  obtain ⟨_, -, _, -, descriptor, hdescriptor, _, -, byteCount, hcount, _, -, _, -, commandBytes,
    hcommand, rfl⟩ := h
  obtain ⟨rfl, -⟩ := GuestMemoryAccess.read_eq_ok hdescriptor
  refine ⟨rfl, rfl, rfl, rfl, rfl, ?_⟩
  rw [readCommandBytes_eq_ok hcommand, toNat_of_commandByteCount hcount]

/-- A word of the captured buffer is a word of guest memory. -/
theorem CapturedFrom.word (h : CapturedFrom call bytes capture) {index : ℕ}
    (hindex : (index + 1) * 4 ≤ capture.commandBufferBytes.length) :
    readLittleEndianWord capture.commandBufferBytes index =
      guestWord bytes (capture.commandWordsAddress.toNat + index * 4) := by
  rw [h.commandBytes, length_load] at hindex
  rw [readLittleEndianWord, u32At, guestWord, leAt, h.commandBytes]
  congr 2
  apply List.ext_getElem
  · rw [List.length_take, List.length_drop, length_load, length_load, kPacketWordBytes]
    omega
  · intro i _ hi
    rw [length_load] at hi
    simp [load, kPacketWordBytes, Nat.add_assoc]

end Astraea.Execution
