import Astraea.Base.Check
import Astraea.Base.LittleEndian
import Astraea.Memory.GuestAddress

/-!
# The initial stack

`build_initial_stack` lays out what a program finds on its stack when it starts: from
the stack pointer up the argument count, the argument and environment pointers, the
auxiliary vector, and at the very top of the storage the strings they point to.

Strings are lists of bytes. Counts of objects in host memory are natural numbers; the
sizes computed from them are machine words, checked as the source checks them.
-/

namespace Astraea.Loader

open Astraea.Base Astraea.Memory

/-- A type and a value. -/
structure AuxiliaryVectorEntry where
  type : UInt64
  value : UInt64
  deriving DecidableEq

/-- What is to be put onto a stack. -/
structure InitialStackRequest where
  storage : GuestRange
  arguments : List (List UInt8)
  environment : List (List UInt8)
  auxiliaryVector : List AuxiliaryVectorEntry
  deriving DecidableEq

/-- Why a stack is refused. -/
inductive InitialStackErrorCode where
  | embeddedNul
  | auxvContainsTerminator
  | layoutSizeOverflow
  | stackTooSmall
  | hostSizeUnrepresentable
  | guestAddressOverflow
  | hostAllocationFailure
  deriving DecidableEq

/-- The input that an error is about. -/
inductive InitialStackInputKind where
  | argument
  | environment
  | auxiliaryVector
  deriving DecidableEq

/-- A stack that is refused, with the input it is about. -/
structure InitialStackError where
  code : InitialStackErrorCode
  inputKind : Option InitialStackInputKind := none
  inputIndex : Option ℕ := none
  deriving DecidableEq

/-- A stack: its bytes and its pointer. -/
structure InitialStackImage where
  storage : GuestRange
  usedRange : GuestRange
  rsp : GuestAddress
  bytes : List UInt8
  deriving DecidableEq

/-- `contains_nul`. -/
def containsNul (value : List UInt8) : Bool := value.contains 0

/-- `bytes` with `data` written at `offset`. -/
def writeAt (bytes : List UInt8) (offset : ℕ) (data : List UInt8) : List UInt8 :=
  bytes.take offset ++ data ++ bytes.drop (offset + data.length)

/-- `write_u64`. -/
def writeU64 (bytes : List UInt8) (offset : ℕ) (value : UInt64) : List UInt8 :=
  writeAt bytes offset (leBytes 8 value.toNat)

/-- The loop that adds up the sizes of the strings with their terminators. -/
def addStringSizes (informationSize : UInt64) (strings : List (List UInt8)) : Option UInt64 :=
  strings.foldlM (fun size value => do
    let terminated ← checkedAdd (UInt64.ofNat value.length) 1
    checkedAdd size terminated) informationSize

/-- The size of everything below the strings. -/
def controlSize (argumentCount environmentCount auxCount : UInt64) : Option UInt64 := do
  let argumentPointerBytes ← checkedMultiply argumentCount 8
  let environmentPointerBytes ← checkedMultiply environmentCount 8
  let auxCountWithTerminator ← checkedAdd auxCount 1
  let auxBytes ← checkedMultiply auxCountWithTerminator 16
  [argumentPointerBytes, 8, environmentPointerBytes, 8, auxBytes].foldlM checkedAdd 8

/-- `address_at`. -/
def addressAt (base : GuestAddress) (offset : UInt64) : Except InitialStackError GuestAddress :=
  (base.checkedAdd ⟨offset⟩).mapError fun _ => { code := .guestAddressOverflow }

/-- Where the layout puts the stack pointer and the strings, as offsets into the storage. -/
structure StackLayout where
  alignedRsp : UInt64
  rspOffset : UInt64
  informationStart : UInt64
  deriving DecidableEq

/-- The checks of the inputs and the placement of the two ends. -/
def layOut (request : InitialStackRequest) : Except InitialStackError StackLayout := do
  (List.range request.arguments.length).forM fun i =>
    refuseIf (containsNul (request.arguments.getD i []) = true)
      ⟨.embeddedNul, some .argument, some i⟩
  (List.range request.environment.length).forM fun i =>
    refuseIf (containsNul (request.environment.getD i []) = true)
      ⟨.embeddedNul, some .environment, some i⟩
  (List.range request.auxiliaryVector.length).forM fun i =>
    refuseIf ((request.auxiliaryVector.getD i ⟨1, 0⟩).type = 0)
      ⟨.auxvContainsTerminator, some .auxiliaryVector, some i⟩
  let argumentSize ← orRefuse (addStringSizes 0 request.arguments)
    ({ code := .layoutSizeOverflow } : InitialStackError)
  let informationSize ← orRefuse (addStringSizes argumentSize request.environment)
    ({ code := .layoutSizeOverflow } : InitialStackError)
  let control ← orRefuse
    (controlSize (UInt64.ofNat request.arguments.length) (UInt64.ofNat request.environment.length)
      (UInt64.ofNat request.auxiliaryVector.length))
    ({ code := .layoutSizeOverflow } : InitialStackError)
  let capacity := request.storage.size.value
  refuseIf (informationSize > capacity) { code := .stackTooSmall }
  let informationStart := capacity - informationSize
  refuseIf (control > informationStart) { code := .stackTooSmall }
  let maxRspOffset := informationStart - control
  let maxRsp ← addressAt request.storage.base maxRspOffset
  let alignedRsp := maxRsp.value &&& ~~~(15 : UInt64)
  refuseIf (alignedRsp < request.storage.base.value) { code := .stackTooSmall }
  let rspOffset := alignedRsp - request.storage.base.value
  refuseIf (rspOffset > maxRspOffset) { code := .stackTooSmall }
  return ⟨alignedRsp, rspOffset, informationStart⟩

/-- The state while the strings are copied: the bytes, the cursor and the addresses so far. -/
structure StringCopy where
  bytes : List UInt8
  cursor : ℕ
  addresses : List GuestAddress
  deriving DecidableEq

/-- `copy_string`. -/
def copyString (base : GuestAddress) (state : StringCopy) (value : List UInt8) :
    Except InitialStackError StringCopy := do
  let address ← addressAt base (UInt64.ofNat state.cursor)
  return ⟨writeAt state.bytes state.cursor (value ++ [0]), state.cursor + (value.length + 1),
    state.addresses ++ [address]⟩

/-- The words of the control area, from the stack pointer up. -/
def controlWords (request : InitialStackRequest) (arguments environment : List GuestAddress) :
    List UInt64 :=
  [UInt64.ofNat request.arguments.length] ++ arguments.map GuestAddress.value ++ [0] ++
    environment.map GuestAddress.value ++ [0] ++
    request.auxiliaryVector.flatMap (fun entry => [entry.type, entry.value]) ++ [0, 0]

/-- The writes of the control words, one after the other. -/
def writeWords (bytes : List UInt8) : (offset : ℕ) → List UInt64 → List UInt8
  | _, [] => bytes
  | offset, word :: words => writeWords (writeU64 bytes offset word) (offset + 8) words

/-- `build_initial_stack`. -/
def buildInitialStack (request : InitialStackRequest) :
    Except InitialStackError InitialStackImage := do
  let layout ← layOut request
  let usedSize := request.storage.size.value - layout.rspOffset
  -- the limit is `max_size` of a vector of bytes
  refuseIf (usedSize.toNat > 2 ^ 63 - 1) { code := .hostSizeUnrepresentable }
  let usedRange ← (GuestRange.create ⟨layout.alignedRsp⟩ ⟨usedSize⟩).mapError fun _ =>
    ({ code := .guestAddressOverflow } : InitialStackError)
  let informationOffset := (layout.informationStart - layout.rspOffset).toNat
  let arguments ← request.arguments.foldlM (copyString usedRange.base)
    ⟨List.replicate usedSize.toNat 0, informationOffset, []⟩
  let environment ← request.environment.foldlM (copyString usedRange.base)
    ⟨arguments.bytes, arguments.cursor, []⟩
  return ⟨request.storage, usedRange, ⟨layout.alignedRsp⟩,
    writeWords environment.bytes 0 (controlWords request arguments.addresses environment.addresses)⟩

variable {request : InitialStackRequest}

variable {stack : InitialStackImage} {strings : List (List UInt8)} {offset : ℕ}

theorem storage_of_buildInitialStack (h : buildInitialStack request = .ok stack) :
    stack.storage = request.storage := by
  suffices hall : ∀ stack, buildInitialStack request = .ok stack →
      stack.storage = request.storage from hall stack h
  unfold buildInitialStack
  repeat refine forall_bind_eq_ok fun _ => ?_
  rintro stack ⟨⟩
  rfl

/-! ### The layout fits the storage -/

/-- The vectors and strings of a request are objects in host memory. -/
structure StackInMemory (request : InitialStackRequest) : Prop where
  arguments : request.arguments.length < 2 ^ 64
  environment : request.environment.length < 2 ^ 64
  auxiliaryVector : request.auxiliaryVector.length < 2 ^ 64
  argumentStrings : ∀ value ∈ request.arguments, value.length < 2 ^ 64
  environmentStrings : ∀ value ∈ request.environment, value.length < 2 ^ 64

/-- The bytes that strings take with their terminators. -/
def stringBytes (strings : List (List UInt8)) : ℕ := (strings.map fun value => value.length + 1).sum

theorem stringBytes_cons (value : List UInt8) (strings : List (List UInt8)) :
    stringBytes (value :: strings) = value.length + 1 + stringBytes strings := rfl

theorem addStringSizes_eq_some {start total : UInt64}
    (hsmall : ∀ value ∈ strings, value.length < 2 ^ 64)
    (h : addStringSizes start strings = some total) :
    total.toNat = start.toNat + stringBytes strings := by
  induction strings generalizing start with
  | nil =>
    cases h
    rfl
  | cons value strings ih =>
    rw [List.forall_mem_cons] at hsmall
    simp only [addStringSizes, List.foldlM_cons, Option.bind_eq_bind, Option.bind_eq_some_iff] at h
    obtain ⟨next, ⟨terminated, hterminated, hnext⟩, h⟩ := h
    have hterminated := (checkedAdd_eq_some hterminated).2
    rw [toNat_ofNat_of_lt hsmall.1, UInt64.toNat_one] at hterminated
    have hnext := (checkedAdd_eq_some hnext).2
    rw [ih hsmall.2 h, stringBytes_cons]
    omega

theorem controlSize_eq_some {argumentCount environmentCount auxCount control : UInt64}
    (h : controlSize argumentCount environmentCount auxCount = some control) :
    control.toNat = 8 * (argumentCount.toNat + environmentCount.toNat + 2 * auxCount.toNat +
      5) := by
  simp only [controlSize, List.foldlM_cons, List.foldlM_nil, Option.bind_eq_bind,
    Option.bind_eq_some_iff, Option.pure_def, Option.some.injEq] at h
  obtain ⟨arguments, harguments, environment, henvironment, aux, haux, auxBytes, hauxBytes, a, ha,
    b, hb, c, hc, d, hd, e, he, rfl⟩ := h
  have harguments := checkedMultiply_eq_some harguments
  have henvironment := checkedMultiply_eq_some henvironment
  have haux := (checkedAdd_eq_some haux).2
  have hauxBytes := checkedMultiply_eq_some hauxBytes
  have ha := (checkedAdd_eq_some ha).2
  have hb := (checkedAdd_eq_some hb).2
  have hc := (checkedAdd_eq_some hc).2
  have hd := (checkedAdd_eq_some hd).2
  have he := (checkedAdd_eq_some he).2
  have h1 : (1 : UInt64).toNat = 1 := rfl
  have h8 : (8 : UInt64).toNat = 8 := rfl
  have h16 : (16 : UInt64).toNat = 16 := rfl
  rw [h8] at harguments henvironment ha hb hd
  rw [h1] at haux
  rw [h16] at hauxBytes
  omega

/-- The words of the control area. -/
def controlWordCount (request : InitialStackRequest) : ℕ :=
  request.arguments.length + request.environment.length + 2 * request.auxiliaryVector.length + 5

/-- The control area and the strings lie one above the other in the storage. -/
structure LayoutFits (request : InitialStackRequest) (layout : StackLayout) : Prop where
  rsp : layout.alignedRsp.toNat = request.storage.base.toNat + layout.rspOffset.toNat
  control : layout.rspOffset.toNat + 8 * controlWordCount request ≤ layout.informationStart.toNat
  information : layout.informationStart.toNat +
    (stringBytes request.arguments + stringBytes request.environment) =
    request.storage.size.toNat

theorem layOut_fits {layout : StackLayout} (hmemory : StackInMemory request)
    (h : layOut request = .ok layout) :
    LayoutFits request layout := by
  simp only [layOut, bind_eq_ok, refuseIf_eq_ok, orRefuse_eq_ok, pure_eq_ok] at h
  obtain ⟨_, -, _, -, _, -, argumentSize, hargument, informationSize, hinformation, control,
    hcontrol, -, hcapacity, -, hroom, maxRsp, hmax, -, hlow, -, hhigh, rfl⟩ := h
  have hargument := addStringSizes_eq_some hmemory.argumentStrings hargument
  have hinformation := addStringSizes_eq_some hmemory.environmentStrings hinformation
  have hcontrol := controlSize_eq_some hcontrol
  rw [toNat_ofNat_of_lt hmemory.arguments, toNat_ofNat_of_lt hmemory.environment,
    toNat_ofNat_of_lt hmemory.auxiliaryVector] at hcontrol
  rw [UInt64.toNat_zero] at hargument
  have hcapacity := UInt64.not_lt.mp hcapacity
  have hroom := UInt64.not_lt.mp hroom
  have hlow := UInt64.not_lt.mp hlow
  have hhigh := UInt64.le_iff_toNat_le.mp (UInt64.not_lt.mp hhigh)
  have hstart := UInt64.toNat_sub_of_le _ _ hcapacity
  rw [UInt64.toNat_sub_of_le _ _ hroom] at hhigh
  have hoffset := UInt64.toNat_sub_of_le _ _ hlow
  have hcapacity := UInt64.le_iff_toNat_le.mp hcapacity
  have hroom := UInt64.le_iff_toNat_le.mp hroom
  have hlow := UInt64.le_iff_toNat_le.mp hlow
  refine ⟨?_, ?_, ?_⟩
  · dsimp only
    rw [hoffset, GuestAddress.toNat]
    omega
  · dsimp only
    rw [controlWordCount]
    omega
  · dsimp only
    rw [hstart, GuestSize.toNat]
    omega

theorem length_writeAt {bytes data : List UInt8} (h : offset + data.length ≤ bytes.length) :
    (writeAt bytes offset data).length = bytes.length := by
  simp only [writeAt, List.length_append, List.length_take, List.length_drop]
  omega

theorem length_writeWords {words : List UInt64} {bytes : List UInt8}
    (h : offset + 8 * words.length ≤ bytes.length) :
    (writeWords bytes offset words).length = bytes.length := by
  induction words generalizing bytes offset with
  | nil => rfl
  | cons word words ih =>
    rw [List.length_cons] at h
    have hword : (writeU64 bytes offset word).length = bytes.length :=
      length_writeAt (by rw [length_leBytes]; omega)
    rw [writeWords, ih (by rw [hword]; omega), hword]

/-- The loop that copies strings stays inside the bytes it is given. -/
theorem copyStrings_spec {base : GuestAddress} {state result : StringCopy}
    (hroom : state.cursor + stringBytes strings ≤ state.bytes.length)
    (h : strings.foldlM (copyString base) state = .ok result) :
    result.bytes.length = state.bytes.length ∧ result.cursor = state.cursor + stringBytes strings ∧
      result.addresses.length = state.addresses.length + strings.length := by
  induction strings generalizing state with
  | nil =>
    cases h
    exact ⟨rfl, rfl, rfl⟩
  | cons value strings ih =>
    rw [stringBytes_cons] at hroom
    simp only [List.foldlM_cons, copyString, bind_eq_ok, pure_eq_ok] at h
    obtain ⟨next, ⟨address, -, rfl⟩, h⟩ := h
    have hlength : (writeAt state.bytes state.cursor (value ++ [0])).length = state.bytes.length :=
      length_writeAt (by rw [List.length_append, List.length_singleton]; omega)
    obtain ⟨hbytes, hcursor, haddresses⟩ := ih (by dsimp only; rw [hlength]; omega) h
    dsimp only at hbytes hcursor haddresses
    rw [List.length_append, List.length_singleton] at haddresses
    rw [stringBytes_cons, List.length_cons]
    exact ⟨hbytes.trans hlength, by omega, by omega⟩

theorem length_controlWords {arguments environment : List GuestAddress}
    (harguments : arguments.length = request.arguments.length)
    (henvironment : environment.length = request.environment.length) :
    (controlWords request arguments environment).length = controlWordCount request := by
  have haux : (request.auxiliaryVector.flatMap fun entry => [entry.type, entry.value]).length =
      2 * request.auxiliaryVector.length := by
    induction request.auxiliaryVector with
    | nil => rfl
    | cons entry entries ih =>
      simp only [List.flatMap_cons, List.length_append, ih, List.length_cons, List.length_nil]
      omega
  simp only [controlWords, List.length_append, List.length_map, List.length_cons, List.length_nil,
    haux, harguments, henvironment, controlWordCount]
  omega

/-- **The stack image fits its storage.** The used range is the upper end of the storage,
from the stack pointer on, and there is a byte for each of its addresses. -/
theorem usedRange_of_buildInitialStack (hmemory : StackInMemory request)
    (h : buildInitialStack request = .ok stack) :
    stack.bytes.length = stack.usedRange.size.toNat ∧
    request.storage.base.toNat ≤ stack.usedRange.base.toNat ∧
      stack.usedRange.last = request.storage.last ∧ 0 < stack.usedRange.size.toNat := by
  simp only [buildInitialStack, bind_eq_ok, refuseIf_eq_ok, mapError_eq_ok, pure_eq_ok] at h
  obtain ⟨layout, hlayout, -, -, usedRange, hused, arguments, harguments, environment, henvironment,
    rfl⟩ := h
  have hfits := layOut_fits hmemory hlayout
  obtain ⟨hbase, hsize⟩ := GuestRange.create_eq_ok hused
  have hinformation := hfits.information
  have hcontrol := hfits.control
  have hrsp := hfits.rsp
  have hle : layout.rspOffset ≤ request.storage.size.value := by
    rw [UInt64.le_iff_toNat_le]
    rw [GuestSize.toNat] at hinformation
    omega
  have hle' : layout.rspOffset ≤ layout.informationStart := by
    rw [UInt64.le_iff_toNat_le]
    omega
  have husedSize := UInt64.toNat_sub_of_le _ _ hle
  have hoffset := UInt64.toNat_sub_of_le _ _ hle'
  rw [GuestSize.toNat] at hinformation
  obtain ⟨hargumentBytes, hargumentCursor, hargumentAddresses⟩ := copyStrings_spec
    (by dsimp only; rw [List.length_replicate, husedSize, hoffset]; omega) harguments
  dsimp only at hargumentBytes hargumentCursor hargumentAddresses
  rw [List.length_replicate, husedSize] at hargumentBytes
  rw [hoffset] at hargumentCursor
  obtain ⟨henvironmentBytes, -, henvironmentAddresses⟩ := copyStrings_spec
    (by dsimp only; rw [hargumentBytes, hargumentCursor]; omega) henvironment
  dsimp only at henvironmentBytes henvironmentAddresses
  rw [List.length_nil, Nat.zero_add] at hargumentAddresses henvironmentAddresses
  have hpos : 0 < controlWordCount request := by
    rw [controlWordCount]
    omega
  have hbase' : usedRange.base.toNat = request.storage.base.toNat + layout.rspOffset.toNat := by
    rw [hbase, GuestAddress.toNat_mk, hrsp]
  have hsize' : usedRange.size.toNat =
      request.storage.size.value.toNat - layout.rspOffset.toNat := by
    rw [hsize, GuestSize.toNat_mk, husedSize]
  refine ⟨?_, by dsimp only; omega, ?_, by dsimp only; omega⟩
  · dsimp only
    rw [hsize', length_writeWords, henvironmentBytes, hargumentBytes]
    rw [length_controlWords hargumentAddresses henvironmentAddresses, henvironmentBytes,
      hargumentBytes]
    omega
  · dsimp only
    rw [GuestRange.last, GuestRange.last, hbase', hsize', GuestSize.toNat]
    omega

end Astraea.Loader
