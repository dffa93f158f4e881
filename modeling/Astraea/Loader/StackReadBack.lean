import Astraea.Loader.InitialStack

/-!
# Reading the initial stack back

A program that starts finds the argument count where its stack pointer is, above it the
pointers, and follows them to strings that end in zero. `readStack` is this walk, and on a stack
that has been built it gives the arguments, the environment and the auxiliary vector of the
request. The bytes of the stack are the control words, zeros, and the strings, one after the
other; the proof builds this list once and reads everything from it.
-/

namespace Astraea.Loader

open Astraea.Base Astraea.Memory

/-! ### The walk -/

/-- The 64-bit word at an index from the stack pointer. -/
def InitialStackImage.word (stack : InitialStackImage) (i : ℕ) : UInt64 := u64At stack.bytes (8 * i)

/-- The string that a pointer leads to: the bytes up to the first zero. -/
def InitialStackImage.string (stack : InitialStackImage) (pointer : UInt64) : List UInt8 :=
  (stack.bytes.drop (pointer.toNat - stack.rsp.toNat)).takeWhile (· != 0)

/-- The words from an index up to the first null; at most `remaining` are left. -/
def InitialStackImage.wordsUntilNull (stack : InitialStackImage) : (remaining i : ℕ) → List UInt64
  | 0, _ => []
  | remaining + 1, i =>
    if stack.word i = 0 then [] else stack.word i :: stack.wordsUntilNull remaining (i + 1)

/-- The auxiliary entries from an index up to the first of type null; at most `remaining` are left.
-/
def InitialStackImage.auxiliaryEntries (stack : InitialStackImage) :
    (remaining i : ℕ) → List AuxiliaryVectorEntry
  | 0, _ => []
  | remaining + 1, i =>
    if stack.word i = 0 then []
      else ⟨stack.word i, stack.word (i + 1)⟩ :: stack.auxiliaryEntries remaining (i + 2)

/-- What a program reads from the stack pointer up: the arguments, the environment, and the
auxiliary vector. -/
def readStack (stack : InitialStackImage) :
    List (List UInt8) × List (List UInt8) × List AuxiliaryVectorEntry :=
  let argumentCount := (stack.word 0).toNat
  let arguments := (List.range argumentCount).map fun i => stack.word (1 + i)
  let environment := stack.wordsUntilNull stack.bytes.length (argumentCount + 2)
  let auxiliary :=
    stack.auxiliaryEntries stack.bytes.length (argumentCount + 2 + environment.length + 1)
  (arguments.map stack.string, environment.map stack.string, auxiliary)

/-! ### The bytes of the stack -/

/-- Strings with their terminators, one after the other. -/
def terminated (strings : List (List UInt8)) : List UInt8 :=
  strings.flatMap fun value => value ++ [0]

/-- Words in the order of their bytes. -/
def wordBytes (words : List UInt64) : List UInt8 := words.flatMap fun word => leBytes 8 word.toNat

/-- Where the strings begin that are laid out from `start` on. -/
def stringStarts : (start : ℕ) → List (List UInt8) → List ℕ
  | _, [] => []
  | start, value :: strings => start :: stringStarts (start + (value.length + 1)) strings

section Bytes

variable {before after data : List UInt8} {strings more : List (List UInt8)} {words : List UInt64}
  {start n m : ℕ}

theorem length_terminated (strings : List (List UInt8)) :
    (terminated strings).length = stringBytes strings := by
  induction strings with
  | nil => rfl
  | cons value strings ih =>
    rw [terminated, List.flatMap_cons, List.length_append, List.length_append,
      List.length_singleton, stringBytes_cons, ← ih]
    rfl

theorem terminated_append : terminated (strings ++ more) = terminated strings ++ terminated more :=
  List.flatMap_append

theorem length_wordBytes (words : List UInt64) : (wordBytes words).length = 8 * words.length := by
  induction words with
  | nil => rfl
  | cons word words ih =>
    rw [wordBytes, List.flatMap_cons, List.length_append, length_leBytes, List.length_cons]
    rw [wordBytes] at ih
    omega

theorem length_stringStarts (start : ℕ) (strings : List (List UInt8)) :
    (stringStarts start strings).length = strings.length := by
  induction strings generalizing start with
  | nil => rfl
  | cons value strings ih => rw [stringStarts, List.length_cons, List.length_cons, ih]

theorem writeAt_append (before after : List UInt8) {middle : List UInt8}
    (h : middle.length = data.length) :
    writeAt (before ++ (middle ++ after)) before.length data = before ++ (data ++ after) := by
  rw [writeAt, List.take_left, ← h, List.drop_length_add_append, List.drop_left, List.append_assoc]

/-- The loop over the strings fills zeros with them and gives their addresses. -/
theorem copyStrings_eq {base : GuestAddress} {addresses : List GuestAddress}
    (hroom : stringBytes strings ≤ n)
    (hspace : base.toNat + before.length + stringBytes strings ≤ 2 ^ 64) :
    strings.foldlM (copyString base) ⟨before ++ List.replicate n 0, before.length, addresses⟩ =
      .ok ⟨before ++ terminated strings ++ List.replicate (n - stringBytes strings) 0,
        before.length + stringBytes strings,
        addresses ++ (stringStarts before.length strings).map fun start =>
          ⟨base.value + UInt64.ofNat start⟩⟩ := by
  induction strings generalizing before n addresses with
  | nil =>
    rw [List.foldlM_nil, terminated, List.flatMap_nil, List.append_nil, stringStarts, List.map_nil,
      List.append_nil]
    rfl
  | cons value strings ih =>
    rw [stringBytes_cons] at hroom hspace
    have hsmall : (UInt64.ofNat before.length).toNat = before.length := toNat_ofNat_of_lt (by omega)
    have hadd : base.checkedAdd ⟨UInt64.ofNat before.length⟩ =
        .ok ⟨base.value + UInt64.ofNat before.length⟩ := by
      apply GuestAddress.checkedAdd_of_lt
      rw [GuestSize.toNat_mk, hsmall]
      omega
    have hsplit : List.replicate n (0 : UInt8) =
        List.replicate (value.length + 1) 0 ++ List.replicate (n - (value.length + 1)) 0 := by
      rw [List.replicate_append_replicate, Nat.add_sub_cancel' (by omega)]
    have hmiddle : (List.replicate (value.length + 1) (0 : UInt8)).length =
        (value ++ [0]).length := by
      rw [List.length_replicate, List.length_append, List.length_singleton]
    have hwrite : writeAt (before ++ List.replicate n 0) before.length (value ++ [0]) =
        before ++ (value ++ [0]) ++ List.replicate (n - (value.length + 1)) 0 := by
      rw [hsplit, writeAt_append before _ hmiddle, ← List.append_assoc before]
    have hlength : (before ++ (value ++ [0])).length = before.length + (value.length + 1) := by
      rw [List.length_append, List.length_append, List.length_singleton]
    have hrest := @ih (before ++ (value ++ [0])) (n - (value.length + 1))
      (addresses ++ [⟨base.value + UInt64.ofNat before.length⟩]) (by omega) (by rw [hlength]; omega)
    rw [hlength] at hrest
    rw [List.foldlM_cons, copyString, addressAt, hadd, mapError_ok]
    dsimp only [bind, Except.bind, pure, Except.pure]
    rw [hwrite, hrest, stringBytes_cons, stringStarts, List.map_cons, terminated, terminated,
      List.flatMap_cons]
    congr 2
    · rw [List.append_assoc before, Nat.sub_sub]
    · omega
    · rw [List.append_assoc, List.singleton_append]

theorem writeWords_eq (before after : List UInt8) (words : List UInt64) (m : ℕ) :
    writeWords (before ++ (List.replicate (8 * words.length + m) 0 ++ after)) before.length words =
      before ++ (wordBytes words ++ (List.replicate m 0 ++ after)) := by
  induction words generalizing before with
  | nil =>
    rw [List.length_nil, Nat.mul_zero, Nat.zero_add]
    rfl
  | cons word words ih =>
    have hsplit : List.replicate (8 * (word :: words).length + m) (0 : UInt8) ++ after =
        List.replicate 8 0 ++ (List.replicate (8 * words.length + m) 0 ++ after) := by
      rw [← List.append_assoc, List.replicate_append_replicate, List.length_cons]
      congr 2
      omega
    have hword : (List.replicate 8 (0 : UInt8)).length = (leBytes 8 word.toNat).length := by
      rw [List.length_replicate, length_leBytes]
    have hlength : before.length + 8 = (before ++ leBytes 8 word.toNat).length := by
      rw [List.length_append, length_leBytes]
    rw [writeWords, writeU64, hsplit, writeAt_append before _ hword, hlength,
      ← List.append_assoc before, ih, wordBytes, wordBytes, List.flatMap_cons, List.append_assoc,
      List.append_assoc]

end Bytes

/-! ### The placement -/

/-- The inputs are well formed: strings without zeros, and no auxiliary entry that would end the
vector. -/
structure InputsValid (request : InitialStackRequest) : Prop where
  arguments : ∀ value ∈ request.arguments, containsNul value = false
  environment : ∀ value ∈ request.environment, containsNul value = false
  auxiliaryVector : ∀ entry ∈ request.auxiliaryVector, entry.type ≠ 0

/-- A stack pointer that is a multiple of 16 and has room above it, inside the storage, for the
control words and the strings. -/
def HasRoom (request : InitialStackRequest) : Prop :=
  ∃ rsp, rsp % 16 = 0 ∧ request.storage.base.toNat ≤ rsp ∧
    rsp + (8 * controlWordCount request +
      (stringBytes request.arguments + stringBytes request.environment)) ≤
      request.storage.base.toNat + request.storage.size.toNat

variable {value : List UInt8} {pointer : GuestAddress}

/-- A request is an object in host memory: its vectors are within the limits of their types, and its
strings take fewer bytes than there are addresses. -/
structure RequestInMemory (request : InitialStackRequest) : Prop where
  arguments : 32 * request.arguments.length < 2 ^ 63
  environment : 32 * request.environment.length < 2 ^ 63
  auxiliaryVector : 16 * request.auxiliaryVector.length < 2 ^ 63
  strings : stringBytes request.arguments + stringBytes request.environment < 2 ^ 64

section Place

variable {request : InitialStackRequest} {strings : List (List UInt8)} {start : UInt64}
  {layout : StackLayout}

theorem length_lt_stringBytes (h : value ∈ strings) : value.length < stringBytes strings := by
  induction strings with
  | nil => exact absurd h List.not_mem_nil
  | cons first strings ih =>
    rw [stringBytes_cons]
    rcases List.mem_cons.mp h with rfl | h
    · omega
    · have := ih h
      omega

theorem RequestInMemory.stackInMemory (h : RequestInMemory request) : StackInMemory request := by
  have hstrings := h.strings
  refine ⟨by have := h.arguments; omega, by have := h.environment; omega, by
    have := h.auxiliaryVector; omega, ?_, ?_⟩
  · intro value hvalue
    have := length_lt_stringBytes hvalue
    omega
  · intro value hvalue
    have := length_lt_stringBytes hvalue
    omega

theorem addStringSizes_cons (start : UInt64) (value : List UInt8) (strings : List (List UInt8)) :
    addStringSizes start (value :: strings) =
      (checkedAdd (UInt64.ofNat value.length) 1).bind fun size =>
        (checkedAdd start size).bind fun next => addStringSizes next strings := by
  simp only [addStringSizes, List.foldlM_cons, Option.bind_eq_bind, Option.bind_assoc]

theorem exists_addStringSizes (h : start.toNat + stringBytes strings < 2 ^ 64) :
    ∃ total, addStringSizes start strings = some total := by
  induction strings generalizing start with
  | nil => exact ⟨start, rfl⟩
  | cons value strings ih =>
    rw [stringBytes_cons] at h
    have hlength : (UInt64.ofNat value.length).toNat = value.length := toNat_ofNat_of_lt (by omega)
    obtain ⟨size, hsize, hsizeNat⟩ := @exists_checkedAdd (UInt64.ofNat value.length) 1 (by
      rw [hlength, UInt64.toNat_one]; omega)
    rw [hlength, UInt64.toNat_one] at hsizeNat
    obtain ⟨next, hnext, hnextNat⟩ := @exists_checkedAdd start size (by omega)
    obtain ⟨total, htotal⟩ := @ih next (by omega)
    exact ⟨total, by rw [addStringSizes_cons, hsize, Option.bind_some, hnext, Option.bind_some,
      htotal]⟩

theorem exists_foldlM_checkedAdd {terms : List UInt64}
    (h : start.toNat + (terms.map UInt64.toNat).sum < 2 ^ 64) :
    ∃ total, terms.foldlM checkedAdd start = some total := by
  induction terms generalizing start with
  | nil => exact ⟨start, rfl⟩
  | cons term terms ih =>
    rw [List.map_cons, List.sum_cons] at h
    obtain ⟨next, hnext, hnextNat⟩ := @exists_checkedAdd start term (by omega)
    obtain ⟨total, htotal⟩ := @ih next (by omega)
    exact ⟨total, by rw [List.foldlM_cons, hnext, Option.bind_eq_bind, Option.bind_some, htotal]⟩

theorem controlSize_of
    {argumentCount environmentCount auxCount argumentBytes environmentBytes aux auxBytes control :
      UInt64} (hargument : checkedMultiply argumentCount 8 = some argumentBytes)
    (henvironment : checkedMultiply environmentCount 8 = some environmentBytes)
    (haux : checkedAdd auxCount 1 = some aux) (hauxBytes : checkedMultiply aux 16 = some auxBytes)
    (hsum : [argumentBytes, 8, environmentBytes, 8, auxBytes].foldlM checkedAdd 8 = some control) :
    controlSize argumentCount environmentCount auxCount = some control := by
  simp only [controlSize, Option.bind_eq_bind, Option.bind_eq_some_iff]
  exact ⟨argumentBytes, hargument, environmentBytes, henvironment, aux, haux, auxBytes, hauxBytes,
    hsum⟩

/-- Counts of objects that fit in memory have a size of their control words. -/
theorem exists_controlSize {argumentCount environmentCount auxCount : UInt64}
    (h : 8 * (argumentCount.toNat + environmentCount.toNat + 2 * auxCount.toNat + 5) < 2 ^ 64) :
    ∃ control, controlSize argumentCount environmentCount auxCount = some control := by
  have h1 : (1 : UInt64).toNat = 1 := rfl
  have h8 : (8 : UInt64).toNat = 8 := rfl
  have h16 : (16 : UInt64).toNat = 16 := rfl
  obtain ⟨arguments, harguments, hargumentsNat⟩ :=
    @exists_checkedMultiply argumentCount 8 (by rw [h8]; omega)
  obtain ⟨environment, henvironment, henvironmentNat⟩ :=
    @exists_checkedMultiply environmentCount 8 (by rw [h8]; omega)
  obtain ⟨aux, haux, hauxNat⟩ := @exists_checkedAdd auxCount 1 (by rw [h1]; omega)
  obtain ⟨auxBytes, hauxBytes, hauxBytesNat⟩ :=
    @exists_checkedMultiply aux 16 (by rw [hauxNat, h1, h16]; omega)
  have hsum : (8 : UInt64).toNat + ([arguments, 8, environment, 8, auxBytes].map UInt64.toNat).sum <
      2 ^ 64 := by
    simp only [List.map_cons, List.map_nil, List.sum_cons, List.sum_nil]
    rw [hargumentsNat, henvironmentNat, hauxBytesNat, hauxNat, h1, h8, h16]
    omega
  obtain ⟨control, hcontrol⟩ := exists_foldlM_checkedAdd hsum
  exact ⟨control, controlSize_of harguments henvironment haux hauxBytes hcontrol⟩

/-- The three loops over the inputs. -/
def checkInputs (request : InitialStackRequest) : Except InitialStackError Unit := do
  (List.range request.arguments.length).forM fun i =>
    refuseIf (containsNul (request.arguments.getD i []) = true)
      ⟨.embeddedNul, some .argument, some i⟩
  (List.range request.environment.length).forM fun i =>
    refuseIf (containsNul (request.environment.getD i []) = true)
      ⟨.embeddedNul, some .environment, some i⟩
  (List.range request.auxiliaryVector.length).forM fun i =>
    refuseIf ((request.auxiliaryVector.getD i ⟨1, 0⟩).type = 0)
      ⟨.auxvContainsTerminator, some .auxiliaryVector, some i⟩

/-- The placement of the two ends, for a storage, a size of the strings and a size of the control
words. -/
def place (storage : GuestRange) (informationSize control : UInt64) :
    Except InitialStackError StackLayout := do
  refuseIf (informationSize > storage.size.value) { code := .stackTooSmall }
  refuseIf (control > storage.size.value - informationSize) { code := .stackTooSmall }
  let maxRsp ← addressAt storage.base (storage.size.value - informationSize - control)
  refuseIf (maxRsp.value &&& ~~~(15 : UInt64) < storage.base.value) { code := .stackTooSmall }
  refuseIf ((maxRsp.value &&& ~~~(15 : UInt64)) - storage.base.value >
    storage.size.value - informationSize - control)
    { code := .stackTooSmall }
  return ⟨maxRsp.value &&& ~~~(15 : UInt64),
    (maxRsp.value &&& ~~~(15 : UInt64)) - storage.base.value, storage.size.value - informationSize⟩

/-- With sizes that fit in memory the layout is the check of the inputs and the placement. -/
theorem layOut_eq (hmemory : RequestInMemory request) :
    ∃ informationSize control : UInt64,
      informationSize.toNat = stringBytes request.arguments + stringBytes request.environment ∧
      control.toNat = 8 * controlWordCount request ∧
      layOut request = (do checkInputs request; place request.storage informationSize control) := by
  have hstack := hmemory.stackInMemory
  have hstrings := hmemory.strings
  obtain ⟨argumentSize, hargument⟩ :=
    @exists_addStringSizes request.arguments 0 (by rw [UInt64.toNat_zero]; omega)
  have hargumentSize := addStringSizes_eq_some hstack.argumentStrings hargument
  rw [UInt64.toNat_zero, Nat.zero_add] at hargumentSize
  obtain ⟨informationSize, hinformation⟩ :=
    @exists_addStringSizes request.environment argumentSize (by rw [hargumentSize]; omega)
  have hinformationSize := addStringSizes_eq_some hstack.environmentStrings hinformation
  have hcounts : (UInt64.ofNat request.arguments.length).toNat = request.arguments.length ∧
      (UInt64.ofNat request.environment.length).toNat = request.environment.length ∧
      (UInt64.ofNat request.auxiliaryVector.length).toNat = request.auxiliaryVector.length :=
    ⟨toNat_ofNat_of_lt hstack.arguments, toNat_ofNat_of_lt hstack.environment,
      toNat_ofNat_of_lt hstack.auxiliaryVector⟩
  obtain ⟨control, hcontrol⟩ := @exists_controlSize (UInt64.ofNat request.arguments.length)
    (UInt64.ofNat request.environment.length) (UInt64.ofNat request.auxiliaryVector.length) (by
      rw [hcounts.1, hcounts.2.1, hcounts.2.2]
      have h1 := hmemory.arguments
      have h2 := hmemory.environment
      have h3 := hmemory.auxiliaryVector
      omega)
  have hcontrolSize := controlSize_eq_some hcontrol
  rw [hcounts.1, hcounts.2.1, hcounts.2.2] at hcontrolSize
  refine ⟨informationSize, control, by rw [hinformationSize, hargumentSize], hcontrolSize, ?_⟩
  have horRefuse : ∀ value : UInt64,
      orRefuse (some value) ({ code := .layoutSizeOverflow } : InitialStackError) = .ok value :=
        fun value => rfl
  simp only [layOut, checkInputs, place, bind_assoc, hargument, horRefuse, ok_bind, hinformation,
    hcontrol]

/-- The checks of the inputs pass exactly when the inputs are well formed. -/
theorem checkInputs_eq_ok : checkInputs request = .ok () ↔ InputsValid request := by
  constructor
  · intro h
    simp only [checkInputs, bind_eq_ok] at h
    obtain ⟨⟨⟩, harguments, ⟨⟩, henvironment, hauxiliary⟩ := h
    simp only [forM_eq_ok, refuseIf_eq_ok, List.mem_range, Bool.not_eq_true]
      at harguments henvironment hauxiliary
    refine ⟨?_, ?_, ?_⟩
    · intro value hvalue
      obtain ⟨i, hi, rfl⟩ := List.mem_iff_getElem.mp hvalue
      rw [← List.getD_eq_getElem _ [] hi]
      exact harguments i hi
    · intro value hvalue
      obtain ⟨i, hi, rfl⟩ := List.mem_iff_getElem.mp hvalue
      rw [← List.getD_eq_getElem _ [] hi]
      exact henvironment i hi
    · intro entry hentry
      obtain ⟨i, hi, rfl⟩ := List.mem_iff_getElem.mp hentry
      rw [← List.getD_eq_getElem _ ⟨1, 0⟩ hi]
      exact hauxiliary i hi
  · intro hvalid
    simp only [checkInputs, bind_eq_ok]
    refine ⟨(), forM_eq_ok.mpr ?_, (), forM_eq_ok.mpr ?_, forM_eq_ok.mpr ?_⟩
    · intro i hi
      rw [refuseIf_eq_ok, List.getD_eq_getElem _ [] (List.mem_range.mp hi), Bool.not_eq_true]
      exact hvalid.arguments _ (List.getElem_mem _)
    · intro i hi
      rw [refuseIf_eq_ok, List.getD_eq_getElem _ [] (List.mem_range.mp hi), Bool.not_eq_true]
      exact hvalid.environment _ (List.getElem_mem _)
    · intro i hi
      rw [refuseIf_eq_ok, List.getD_eq_getElem _ ⟨1, 0⟩ (List.mem_range.mp hi)]
      exact hvalid.auxiliaryVector _ (List.getElem_mem _)

theorem code_of_checkInputs {e : InitialStackError} (h : checkInputs request = .error e) :
    e.code = .embeddedNul ∨ e.code = .auxvContainsTerminator := by
  simp only [checkInputs, bind_eq_error, forM_eq_error, refuseIf_eq_error] at h
  rcases h with ⟨_, _, _, -, -, -, rfl⟩ | ⟨_, -,
    ⟨_, _, _, -, -, -, rfl⟩ | ⟨_, -, _, _, _, -, -, -, rfl⟩⟩
  · exact .inl rfl
  · exact .inl rfl
  · exact .inr rfl

/-- Masking the low four bits away aligns down to sixteen. -/
theorem toNat_and_not_fifteen (value : UInt64) :
    (value &&& ~~~(15 : UInt64)).toNat = value.toNat / 16 * 16 := by
  have hmask : (~~~(15 : UInt64)).toNat = (2 ^ 60 - 1) <<< 4 := by decide
  have h16 : (2 : ℕ) ^ 4 = 16 := by decide
  have h := @and_highMask value.toNat 60 4 value.toNat_lt
  rw [h16] at h
  rw [UInt64.toNat_and, hmask, h]

/-- What a placement that was made is like. -/
structure Placed (storage : GuestRange) (informationSize control : ℕ) (layout : StackLayout) :
    Prop where
  aligned : layout.alignedRsp.toNat % 16 = 0
  rsp : layout.alignedRsp.toNat = storage.base.toNat + layout.rspOffset.toNat
  control : layout.rspOffset.toNat + control ≤ layout.informationStart.toNat
  information : layout.informationStart.toNat + informationSize = storage.size.toNat

/-- The placement takes the highest aligned stack pointer that leaves room, and fails only when
there is none. -/
theorem place_spec (storage : GuestRange) (informationSize control : UInt64)
    (hcontrol : 0 < control.toNat) :
    (∃ layout, place storage informationSize control = .ok layout ∧
        Placed storage informationSize.toNat control.toNat layout) ∨
      place storage informationSize control = .error { code := .stackTooSmall } ∧
        ¬ ∃ rsp, rsp % 16 = 0 ∧ storage.base.toNat ≤ rsp ∧
          rsp + (control.toNat + informationSize.toNat) ≤
            storage.base.toNat + storage.size.toNat := by
  have hwrap := storage.noWrap
  by_cases hinformation : informationSize > storage.size.value
  · right
    constructor
    · rw [place, refuseIf, if_pos hinformation]
      rfl
    · rintro ⟨rsp, -, hlow, hhigh⟩
      rw [gt_iff_lt, UInt64.lt_iff_toNat_lt] at hinformation
      rw [GuestSize.toNat] at hhigh
      omega
  have hinformationLe := UInt64.not_lt.mp hinformation
  have hstart := UInt64.toNat_sub_of_le _ _ hinformationLe
  rw [UInt64.le_iff_toNat_le] at hinformationLe
  by_cases hroom : control > storage.size.value - informationSize
  · right
    constructor
    · rw [place, refuseIf_of_not hinformation, ok_bind, refuseIf, if_pos hroom]
      rfl
    · rintro ⟨rsp, -, hlow, hhigh⟩
      rw [gt_iff_lt, UInt64.lt_iff_toNat_lt, hstart] at hroom
      rw [GuestSize.toNat] at hhigh
      omega
  have hroomLe := UInt64.not_lt.mp hroom
  have hoffset := UInt64.toNat_sub_of_le _ _ hroomLe
  rw [UInt64.le_iff_toNat_le] at hroomLe
  rw [GuestSize.toNat] at hwrap
  have hmax : addressAt storage.base (storage.size.value - informationSize - control) =
      .ok ⟨storage.base.value + (storage.size.value - informationSize - control)⟩ := by
    rw [addressAt, GuestAddress.checkedAdd_of_lt, mapError_ok]
    rw [GuestSize.toNat_mk]
    omega
  have hmaxNat : (storage.base.value + (storage.size.value - informationSize - control)).toNat =
      storage.base.toNat + (storage.size.value - informationSize - control).toNat := by
    rw [UInt64.toNat_add, Nat.mod_eq_of_lt, GuestAddress.toNat]
    rw [GuestAddress.toNat] at hwrap
    omega
  generalize storage.base.value + (storage.size.value - informationSize - control) =
    maxRsp at hmax hmaxNat
  have halign := toNat_and_not_fifteen maxRsp
  generalize haligned : maxRsp &&& ~~~(15 : UInt64) = alignedRsp at halign
  have hbase : storage.base.value.toNat = storage.base.toNat := rfl
  by_cases hlow : alignedRsp < storage.base.value
  · right
    constructor
    · rw [place, refuseIf_of_not hinformation, ok_bind, refuseIf_of_not hroom, ok_bind, hmax,
        ok_bind, haligned, refuseIf, if_pos hlow]
      rfl
    · rintro ⟨rsp, hrsp, hle, hhigh⟩
      rw [UInt64.lt_iff_toNat_lt, halign, hmaxNat, hoffset, hstart, hbase] at hlow
      rw [GuestSize.toNat] at hhigh
      omega
  have hlowLe := UInt64.not_lt.mp hlow
  have hrspOffset := UInt64.toNat_sub_of_le _ _ hlowLe
  rw [UInt64.le_iff_toNat_le] at hlowLe
  rw [halign, hbase] at hrspOffset hlowLe
  have hhigh : ¬ alignedRsp - storage.base.value >
      storage.size.value - informationSize - control := by
    rw [gt_iff_lt, UInt64.lt_iff_toNat_lt, hrspOffset, hmaxNat]
    omega
  left
  refine ⟨⟨alignedRsp, alignedRsp - storage.base.value, storage.size.value - informationSize⟩, ?_,
    ?_, ?_, ?_, ?_⟩
  · rw [place, refuseIf_of_not hinformation, ok_bind, refuseIf_of_not hroom, ok_bind, hmax, ok_bind,
      haligned, refuseIf_of_not hlow, ok_bind, refuseIf_of_not hhigh, ok_bind]
    rfl
  · dsimp only
    rw [halign]
    omega
  · dsimp only
    rw [hrspOffset, halign]
    omega
  · dsimp only
    rw [hrspOffset, hstart, hmaxNat, hoffset, hstart]
    omega
  · dsimp only
    rw [hstart, GuestSize.toNat]
    omega

end Place

/-! ### The image -/

/-- The addresses of strings that are laid out from `start` bytes above the stack pointer on. -/
def stringPointers (rsp : GuestAddress) (start : ℕ) (strings : List (List UInt8)) :
    List GuestAddress :=
  (stringStarts start strings).map fun start => ⟨rsp.value + UInt64.ofNat start⟩

/-- The words from the stack pointer up, with `slack` bytes between them and the strings. -/
def shapeWords (request : InitialStackRequest) (rsp : GuestAddress) (slack : ℕ) : List UInt64 :=
  controlWords request (stringPointers rsp (8 * controlWordCount request + slack) request.arguments)
    (stringPointers rsp (8 * controlWordCount request + slack + stringBytes request.arguments)
      request.environment)

/-- The bytes of a stack that has been built: the control words, `slack` zeros, and the strings. -/
structure StackShape (request : InitialStackRequest) (stack : InitialStackImage) (slack : ℕ) :
    Prop where
  aligned : stack.rsp.toNat % 16 = 0
  base : stack.usedRange.base = stack.rsp
  size : stack.usedRange.size.toNat = stack.bytes.length
  low : request.storage.base.toNat ≤ stack.rsp.toNat
  last : stack.rsp.toNat + stack.bytes.length = request.storage.last
  bytes : stack.bytes = wordBytes (shapeWords request stack.rsp slack) ++
    (List.replicate slack 0 ++ terminated (request.arguments ++ request.environment))

section Image

variable {request : InitialStackRequest} {stack : InitialStackImage} {layout : StackLayout}
  {slack : ℕ}

theorem length_stringPointers (rsp : GuestAddress) (start : ℕ) (strings : List (List UInt8)) :
    (stringPointers rsp start strings).length = strings.length := by
  rw [stringPointers, List.length_map, length_stringStarts]

theorem length_shapeWords (request : InitialStackRequest) (rsp : GuestAddress) (slack : ℕ) :
    (shapeWords request rsp slack).length = controlWordCount request :=
  length_controlWords (length_stringPointers _ _ _) (length_stringPointers _ _ _)

/-- The two loops over the strings leave zeros below them and give their addresses. -/
theorem copyBoth_eq {rsp : GuestAddress} {arguments environment : List (List UInt8)}
    {offset size : ℕ} (hsize : size = offset + (stringBytes arguments + stringBytes environment))
    (hspace : rsp.toNat + size ≤ 2 ^ 64) :
    ∃ copied, arguments.foldlM (copyString rsp) ⟨List.replicate size 0, offset, []⟩ = .ok copied ∧
      copied.addresses = stringPointers rsp offset arguments ∧
      ∃ cursor, environment.foldlM (copyString rsp) ⟨copied.bytes, copied.cursor, []⟩ =
        .ok ⟨List.replicate offset 0 ++ terminated (arguments ++ environment), cursor,
          stringPointers rsp (offset + stringBytes arguments) environment⟩ := by
  have hzeros : List.replicate size (0 : UInt8) =
      List.replicate offset 0 ++ List.replicate
        (stringBytes arguments + stringBytes environment) 0 := by
    rw [List.replicate_append_replicate, hsize]
  have hlength : (List.replicate offset (0 : UInt8) ++ terminated arguments).length =
      offset + stringBytes arguments := by
    rw [List.length_append, List.length_replicate, length_terminated]
  have harguments := @copyStrings_eq (List.replicate offset 0) arguments _ rsp []
    (Nat.le_add_right (stringBytes arguments) (stringBytes environment))
      (by rw [List.length_replicate]; omega)
  have henvironment := @copyStrings_eq (List.replicate offset 0 ++ terminated arguments) environment
    _ rsp [] le_rfl (by rw [hlength]; omega)
  rw [← hzeros, List.length_replicate, Nat.add_sub_cancel_left, List.nil_append] at harguments
  rw [hlength, Nat.sub_self, List.replicate_zero, List.append_nil, List.nil_append,
    List.append_assoc (List.replicate offset 0) (terminated arguments) (terminated environment),
      ← terminated_append]
    at henvironment
  exact ⟨_, harguments, rfl, _, henvironment⟩

/-- A placement that was made is filled in, unless the host has no vector of that size. -/
theorem buildInitialStack_of_placed (hlayout : layOut request = .ok layout)
    (hplaced : Placed request.storage
      (stringBytes request.arguments + stringBytes request.environment)
      (8 * controlWordCount request) layout) :
    (∃ stack slack, buildInitialStack request = .ok stack ∧ StackShape request stack slack) ∨
      buildInitialStack request = .error { code := .hostSizeUnrepresentable } ∧
        2 ^ 63 ≤ request.storage.size.toNat := by
  have hinformation := hplaced.information
  have hcontrol := hplaced.control
  have hrsp := hplaced.rsp
  have hwrap := request.storage.noWrap
  have hsize : request.storage.size.value.toNat = request.storage.size.toNat := rfl
  have hle : layout.rspOffset ≤ request.storage.size.value := by
    rw [UInt64.le_iff_toNat_le]
    omega
  have hle' : layout.rspOffset ≤ layout.informationStart := by
    rw [UInt64.le_iff_toNat_le]
    omega
  have husedSize := UInt64.toNat_sub_of_le _ _ hle
  have hoffset := UInt64.toNat_sub_of_le _ _ hle'
  rw [hsize] at husedSize
  by_cases hmax : (request.storage.size.value - layout.rspOffset).toNat > 2 ^ 63 - 1
  · right
    refine ⟨?_, by omega⟩
    rw [buildInitialStack, hlayout, ok_bind]
    dsimp only
    rw [refuseIf, if_pos hmax]
    rfl
  left
  obtain ⟨usedRange, hcreate⟩ : ∃ usedRange,
      GuestRange.create ⟨layout.alignedRsp⟩ ⟨request.storage.size.value - layout.rspOffset⟩ =
        .ok usedRange :=
    ⟨_, GuestRange.create_of_le (by rw [GuestAddress.toNat_mk, GuestSize.toNat_mk]; omega)⟩
  obtain ⟨hbase, hused⟩ := GuestRange.create_eq_ok hcreate
  obtain ⟨copied, harguments, haddresses, cursor, henvironment⟩ :=
    @copyBoth_eq ⟨layout.alignedRsp⟩ request.arguments
    request.environment (layout.informationStart - layout.rspOffset).toNat
    (request.storage.size.value - layout.rspOffset).toNat (by omega)
      (by rw [GuestAddress.toNat_mk]; omega)
  rw [← hbase] at harguments henvironment haddresses
  set offset := (layout.informationStart - layout.rspOffset).toNat
  set environmentPointers :=
    stringPointers usedRange.base (offset + stringBytes request.arguments) request.environment
    with hpointers
  refine ⟨⟨request.storage, usedRange, ⟨layout.alignedRsp⟩,
      writeWords
        (List.replicate offset 0 ++ terminated (request.arguments ++ request.environment)) 0
        (controlWords request copied.addresses environmentPointers)⟩,
    offset - 8 * controlWordCount request, ?_, ?_⟩
  · rw [buildInitialStack, hlayout, ok_bind]
    dsimp only
    rw [refuseIf_of_not hmax, ok_bind, hcreate, mapError_ok, ok_bind, harguments, ok_bind,
      henvironment, ok_bind]
    rfl
  have hoffsetSplit : 8 * controlWordCount request + (offset - 8 * controlWordCount request) =
    offset := by omega
  have hwords : (controlWords request copied.addresses environmentPointers).length =
      controlWordCount request := by
    apply length_controlWords
    · rw [haddresses, length_stringPointers]
    · rw [hpointers, length_stringPointers]
  have hbytes := writeWords_eq [] (terminated (request.arguments ++ request.environment))
    (controlWords request copied.addresses environmentPointers)
      (offset - 8 * controlWordCount request)
  rw [List.nil_append, List.nil_append, List.length_nil, hwords, hoffsetSplit] at hbytes
  have hlength : (wordBytes (controlWords request copied.addresses environmentPointers) ++
      (List.replicate (offset - 8 * controlWordCount request) 0 ++
        terminated (request.arguments ++ request.environment))).length =
      (request.storage.size.value - layout.rspOffset).toNat := by
    rw [List.length_append, List.length_append, length_wordBytes, hwords, List.length_replicate,
      terminated_append, List.length_append, length_terminated, length_terminated]
    omega
  refine ⟨hplaced.aligned, hbase, ?_, ?_, ?_, ?_⟩
  · dsimp only
    rw [hbytes, hlength, hused, GuestSize.toNat_mk]
  · dsimp only
    rw [GuestAddress.toNat_mk layout.alignedRsp]
    omega
  · dsimp only
    rw [hbytes, hlength, GuestAddress.toNat_mk layout.alignedRsp, GuestRange.last]
    omega
  · dsimp only
    rw [hbytes, shapeWords, hoffsetSplit, haddresses, hpointers, hbase]

/-- **What building a stack comes to.** -/
theorem buildInitialStack_cases (hmemory : RequestInMemory request) :
    (∃ stack slack, buildInitialStack request = .ok stack ∧ InputsValid request ∧ HasRoom request ∧
        StackShape request stack slack) ∨
      (buildInitialStack request = .error { code := .hostSizeUnrepresentable } ∧ HasRoom request ∧
        2 ^ 63 ≤ request.storage.size.toNat) ∨
      (buildInitialStack request = .error { code := .stackTooSmall } ∧ InputsValid request ∧
        ¬ HasRoom request) ∨
      ∃ e, buildInitialStack request = .error e ∧
        (e.code = .embeddedNul ∨ e.code = .auxvContainsTerminator) ∧
        ¬ InputsValid request := by
  obtain ⟨informationSize, control, hinformation, hcontrol, hlayOut⟩ := layOut_eq hmemory
  cases hcheck : checkInputs request with
  | error e =>
    right; right; right
    refine ⟨e, ?_, code_of_checkInputs hcheck, ?_⟩
    · rw [buildInitialStack, hlayOut, hcheck]
      rfl
    · intro hvalid
      rw [checkInputs_eq_ok.mpr hvalid] at hcheck
      cases hcheck
  | ok u =>
    have hvalid : InputsValid request := checkInputs_eq_ok.mp hcheck
    rw [hcheck, ok_bind] at hlayOut
    rcases place_spec request.storage informationSize control
      (by rw [hcontrol, controlWordCount]; omega) with
      ⟨layout, hplace, hplaced⟩ | ⟨hplace, hroom⟩
    · rw [hplace] at hlayOut
      rw [hinformation, hcontrol] at hplaced
      have hroom : HasRoom request := by
        have h1 := hplaced.rsp
        have h2 := hplaced.control
        have h3 := hplaced.information
        exact ⟨layout.alignedRsp.toNat, hplaced.aligned, by omega, by omega⟩
      rcases buildInitialStack_of_placed hlayOut hplaced
        with ⟨stack, slack, hbuild, hshape⟩ | ⟨hbuild, hlarge⟩
      · exact .inl ⟨stack, slack, hbuild, hvalid, hroom, hshape⟩
      · exact .inr (.inl ⟨hbuild, hroom, hlarge⟩)
    · right; right; left
      rw [hplace] at hlayOut
      rw [hinformation, hcontrol] at hroom
      refine ⟨?_, hvalid, hroom⟩
      rw [buildInitialStack, hlayOut]
      rfl

end Image

/-! ### The strings -/

/-- A pointer leads to a string of the used range: above the control words the bytes of the value
and a zero. -/
structure InitialStackImage.Holds (stack : InitialStackImage) (control : ℕ) (pointer : GuestAddress)
    (value : List UInt8) : Prop where
  above : stack.rsp.toNat + control ≤ pointer.toNat
  inside : pointer.toNat + (value.length + 1) ≤ stack.usedRange.last
  bytes : (stack.bytes.drop (pointer.toNat - stack.rsp.toNat)).take (value.length + 1) =
    value ++ [0]

/-- The address is one of the bytes of the string, its terminator among them. -/
def InString (address : ℕ) (string : GuestAddress × List UInt8) : Prop :=
  string.1.toNat ≤ address ∧ address < string.1.toNat + (string.2.length + 1)

section Strings

variable {stack : InitialStackImage} {rsp : GuestAddress} {strings more : List (List UInt8)}
  {start control : ℕ}

theorem stringStarts_append (start : ℕ) (strings more : List (List UInt8)) :
    stringStarts start (strings ++ more) = stringStarts start strings ++
      stringStarts (start + stringBytes strings) more := by
  induction strings generalizing start with
  | nil => rfl
  | cons value strings ih =>
    rw [List.cons_append, stringStarts, stringStarts, ih, stringBytes_cons, List.cons_append,
      Nat.add_assoc]

theorem stringPointers_append (rsp : GuestAddress) (start : ℕ) (strings more : List (List UInt8)) :
    stringPointers rsp start (strings ++ more) =
      stringPointers rsp start strings ++ stringPointers rsp
        (start + stringBytes strings) more := by
  rw [stringPointers, stringStarts_append, List.map_append]
  rfl

theorem stringPointers_cons (rsp : GuestAddress) (start : ℕ) (value : List UInt8)
    (strings : List (List UInt8)) :
    stringPointers rsp start (value :: strings) =
      ⟨rsp.value + UInt64.ofNat start⟩ :: stringPointers rsp (start + (value.length + 1)) strings :=
        rfl

theorem toNat_stringPointer (h : rsp.toNat + start < 2 ^ 64) :
    (GuestAddress.mk (rsp.value + UInt64.ofNat start)).toNat = rsp.toNat + start := by
  have hstart : (UInt64.ofNat start).toNat = start := toNat_ofNat_of_lt (by omega)
  rw [GuestAddress.toNat] at h
  rw [GuestAddress.toNat_mk, UInt64.toNat_add, hstart, Nat.mod_eq_of_lt h, GuestAddress.toNat]

theorem terminated_cons (value : List UInt8) (strings : List (List UInt8)) :
    terminated (value :: strings) = value ++ ([0] ++ terminated strings) := by
  rw [terminated, List.flatMap_cons, List.append_assoc]
  rfl

/-- Where the bytes end in strings, the pointers lead to them. -/
theorem holds_stringPointers (hbytes : stack.bytes.drop start = terminated strings)
    (hlast : stack.usedRange.last = stack.rsp.toNat + stack.bytes.length)
    (hspace : stack.rsp.toNat + stack.bytes.length ≤ 2 ^ 64) (hcontrol : control ≤ start)
    (hstart : start ≤ stack.bytes.length) :
    List.Forall₂ (stack.Holds control) (stringPointers stack.rsp start strings) strings := by
  induction strings generalizing start with
  | nil => exact List.Forall₂.nil
  | cons value strings ih =>
    have hlength := congrArg List.length hbytes
    rw [List.length_drop, length_terminated, stringBytes_cons] at hlength
    have hpointer := @toNat_stringPointer stack.rsp start (by omega)
    rw [terminated_cons, ← List.append_assoc] at hbytes
    have hfirst : (value ++ [0]).length =
      value.length + 1 := by rw [List.length_append, List.length_singleton]
    rw [stringPointers_cons]
    refine List.Forall₂.cons ⟨?_, ?_, ?_⟩ (ih ?_ (by omega) (by omega))
    · omega
    · omega
    · rw [hpointer, Nat.add_sub_cancel_left, hbytes, ← hfirst, List.take_left]
    · rw [← List.drop_drop, hbytes, ← hfirst, List.drop_left]

/-- What a pointer leads to is the value, when the value has no zero in it. -/
theorem InitialStackImage.Holds.string_eq (h : stack.Holds control pointer value)
    (hvalue : containsNul value = false) :
    stack.string pointer.value = value := by
  have hsplit :=
    List.take_append_drop (value.length + 1) (stack.bytes.drop (pointer.toNat - stack.rsp.toNat))
  rw [h.bytes, List.append_assoc] at hsplit
  rw [InitialStackImage.string]
  rw [GuestAddress.toNat] at hsplit
  rw [← hsplit, List.takeWhile_append_of_pos]
  · rw [List.singleton_append, List.takeWhile_cons_of_neg (by decide), List.append_nil]
  · intro byte hbyte
    rw [bne_iff_ne]
    rintro rfl
    rw [containsNul, List.contains_eq_mem, decide_eq_false_iff_not] at hvalue
    exact hvalue hbyte

theorem pairwise_stringPointers (hspace : rsp.toNat + start + stringBytes strings ≤ 2 ^ 64) :
    (∀ string ∈ (stringPointers rsp start strings).zip strings,
      rsp.toNat + start ≤ string.1.toNat) ∧
      ((stringPointers rsp start strings).zip strings).Pairwise fun lower upper =>
        lower.1.toNat + (lower.2.length + 1) ≤ upper.1.toNat := by
  induction strings generalizing start with
  | nil => exact ⟨by intro string hstring; exact absurd hstring List.not_mem_nil, List.Pairwise.nil⟩
  | cons value strings ih =>
    rw [stringBytes_cons] at hspace
    have hpointer := @toNat_stringPointer rsp start (by omega)
    obtain ⟨hlow, hpairwise⟩ := @ih (start + (value.length + 1)) (by omega)
    rw [stringPointers_cons, List.zip_cons_cons]
    constructor
    · intro string hstring
      rcases List.mem_cons.mp hstring with rfl | hstring
      · exact hpointer.ge
      · have := hlow string hstring
        omega
    · refine List.Pairwise.cons ?_ hpairwise
      intro string hstring
      have := hlow string hstring
      dsimp only
      omega

theorem exists_inString {i : ℕ} (hspace : rsp.toNat + start + stringBytes strings ≤ 2 ^ 64)
    (hlow : start ≤ i) (hhigh : i < start + stringBytes strings) :
    ∃ string ∈ (stringPointers rsp start strings).zip strings, InString (rsp.toNat + i) string := by
  induction strings generalizing start with
  | nil =>
    have hnil : stringBytes ([] : List (List UInt8)) = 0 := rfl
    omega
  | cons value strings ih =>
    rw [stringBytes_cons] at hspace hhigh
    have hpointer := @toNat_stringPointer rsp start (by omega)
    rw [stringPointers_cons, List.zip_cons_cons]
    by_cases hhere : i < start + (value.length + 1)
    · refine ⟨_, List.mem_cons_self, ?_, ?_⟩
      · dsimp only
        omega
      · dsimp only
        omega
    · obtain ⟨string, hstring, hin⟩ :=
        @ih (start + (value.length + 1)) (by omega) (by omega) (by omega)
      exact ⟨string, List.mem_cons_of_mem _ hstring, hin⟩

end Strings

/-! ### The words -/

section Words

variable {stack : InitialStackImage} {words rest : List UInt64}
  {entries : List AuxiliaryVectorEntry} {i remaining : ℕ}

variable {word : UInt64}

theorem word_of_getElem? {more : List UInt8} (hbytes : stack.bytes = wordBytes words ++ more)
    (h : words[i]? = some word) :
    stack.word i = word := by
  obtain ⟨hi, rfl⟩ := List.getElem?_eq_some_iff.mp h
  have hsplit : stack.bytes = wordBytes (words.take i) ++ (leBytes 8 words[i].toNat ++
      (wordBytes (words.drop (i + 1)) ++ more)) := by
    rw [hbytes, ← List.append_assoc (leBytes 8 _), ← List.append_assoc]
    congr 1
    have hcons : wordBytes (words[i] :: words.drop (i + 1)) =
        leBytes 8 words[i].toNat ++ wordBytes (words.drop (i + 1)) :=
      List.flatMap_cons
    rw [← hcons, List.getElem_cons_drop, wordBytes, wordBytes, wordBytes, ← List.flatMap_append,
      List.take_append_drop]
  have hbefore : (wordBytes (words.take i)).length = 8 * i := by
    rw [length_wordBytes, List.length_take_of_le hi.le]
  rw [InitialStackImage.word, u64At_eq_iff, hsplit, leAt_append hbefore, leAt_zero_leBytes_append]
  exact words[i].toNat_lt

theorem getElem?_of_drop (h : words.drop i = word :: rest) :
    words[i]? = some word ∧ words.drop (i + 1) = rest := by
  constructor
  · have := congrArg (fun list => list[0]?) h
    rwa [List.getElem?_drop, Nat.add_zero] at this
  · rw [← List.drop_drop, h]
    rfl

theorem map_word_range {taken : List UInt64}
    (hword : ∀ k word, words[k]? = some word → stack.word k = word)
    (h : words.drop i = taken ++ rest) :
    (List.range taken.length).map (fun k => stack.word (i + k)) = taken := by
  apply List.ext_getElem
  · rw [List.length_map, List.length_range]
  · intro k hk hk'
    rw [List.getElem_map, List.getElem_range]
    apply hword
    rw [← List.getElem?_drop, h, List.getElem?_append_left hk', List.getElem?_eq_getElem hk']

theorem wordsUntilNull_eq {taken : List UInt64}
    (hword : ∀ k word, words[k]? = some word → stack.word k = word)
    (h : words.drop i = taken ++ 0 :: rest) (hne : ∀ word ∈ taken, word ≠ 0)
    (hremaining : taken.length < remaining) :
    stack.wordsUntilNull remaining i = taken := by
  induction taken generalizing remaining i with
  | nil =>
    obtain ⟨remaining, rfl⟩ := Nat.exists_eq_add_of_lt hremaining
    rw [InitialStackImage.wordsUntilNull, if_pos (hword i 0 (getElem?_of_drop h).1)]
  | cons word taken ih =>
    rw [List.cons_append] at h
    obtain ⟨hhere, hnext⟩ := getElem?_of_drop h
    rw [List.forall_mem_cons] at hne
    rw [List.length_cons] at hremaining
    obtain ⟨remaining, rfl⟩ : ∃ n, remaining = n + 1 := ⟨remaining - 1, by omega⟩
    rw [InitialStackImage.wordsUntilNull, hword i word hhere, if_neg hne.1,
      ih hnext hne.2 (by omega)]

theorem auxiliaryEntries_eq (hword : ∀ k word, words[k]? = some word → stack.word k = word)
    (h : words.drop i = entries.flatMap (fun entry => [entry.type, entry.value]) ++ 0 :: rest)
    (hne : ∀ entry ∈ entries, entry.type ≠ 0) (hremaining : entries.length < remaining) :
    stack.auxiliaryEntries remaining i = entries := by
  induction entries generalizing remaining i with
  | nil =>
    obtain ⟨remaining, rfl⟩ := Nat.exists_eq_add_of_lt hremaining
    rw [InitialStackImage.auxiliaryEntries, if_pos (hword i 0 (getElem?_of_drop h).1)]
  | cons entry entries ih =>
    simp only [List.flatMap_cons, List.cons_append, List.nil_append] at h
    obtain ⟨htype, hnext⟩ := getElem?_of_drop h
    obtain ⟨hvalue, hafter⟩ := getElem?_of_drop hnext
    rw [List.forall_mem_cons] at hne
    rw [List.length_cons] at hremaining
    obtain ⟨remaining, rfl⟩ : ∃ n, remaining = n + 1 := ⟨remaining - 1, by omega⟩
    rw [InitialStackImage.auxiliaryEntries, hword i _ htype, if_neg hne.1, hword (i + 1) _ hvalue,
      ih hafter hne.2 (by omega)]

end Words

/-! ### Reading back -/

/-- A stack from which the request is read back. -/
structure ReadsBack (request : InitialStackRequest) (stack : InitialStackImage) : Prop where
  aligned : stack.rsp.toNat % 16 = 0
  base : stack.usedRange.base = stack.rsp
  inStorage : request.storage.base.toNat ≤ stack.rsp.toNat
  last : stack.usedRange.last = request.storage.last
  size : stack.bytes.length = stack.usedRange.size.toNat
  /-- The walk from the stack pointer finds what was asked for. -/
  reads : readStack stack = (request.arguments, request.environment, request.auxiliaryVector)
  /-- The control words, the strings they point to, and zeros. -/
  layout : ∃ argumentPointers environmentPointers : List GuestAddress,
    argumentPointers.length = request.arguments.length ∧
      environmentPointers.length = request.environment.length ∧
    (List.range (controlWordCount request)).map stack.word =
      [UInt64.ofNat request.arguments.length] ++ argumentPointers.map GuestAddress.value ++ [0] ++
        environmentPointers.map GuestAddress.value ++ [0] ++
        request.auxiliaryVector.flatMap (fun entry => [entry.type, entry.value]) ++ [0, 0] ∧
    List.Forall₂ (stack.Holds (8 * controlWordCount request))
      (argumentPointers ++ environmentPointers)
      (request.arguments ++ request.environment) ∧
    (((argumentPointers ++ environmentPointers).zip
      (request.arguments ++ request.environment)).Pairwise fun lower upper =>
      lower.1.toNat + (lower.2.length + 1) ≤ upper.1.toNat) ∧
    ∀ i, 8 * controlWordCount request ≤ i → i < stack.bytes.length →
      (∀ string ∈ (argumentPointers ++ environmentPointers).zip
        (request.arguments ++ request.environment), ¬ InString (stack.rsp.toNat + i) string) →
        stack.bytes.getD i 0 = 0

section ReadBack

variable {request : InitialStackRequest} {stack : InitialStackImage} {slack : ℕ}

/-- The pointers of a stack to its strings, those of the environment after those of the arguments.
-/
def allPointers (request : InitialStackRequest) (rsp : GuestAddress) (slack : ℕ) :
    List GuestAddress :=
  stringPointers rsp (8 * controlWordCount request + slack)
    (request.arguments ++ request.environment)

theorem allPointers_eq (request : InitialStackRequest) (rsp : GuestAddress) (slack : ℕ) :
    allPointers request rsp slack =
      stringPointers rsp (8 * controlWordCount request + slack) request.arguments ++
        stringPointers rsp (8 * controlWordCount request + slack + stringBytes request.arguments)
          request.environment :=
  stringPointers_append _ _ _ _

section

variable (h : StackShape request stack slack)

include h

theorem StackShape.word :
    ∀ k word, (shapeWords request stack.rsp slack)[k]? = some word → stack.word k = word := by
  intro k word hk
  exact word_of_getElem? h.bytes hk

theorem StackShape.length :
    stack.bytes.length = 8 * controlWordCount request + slack +
      stringBytes (request.arguments ++ request.environment) := by
  rw [h.bytes, List.length_append, List.length_append, length_wordBytes, length_shapeWords,
    List.length_replicate, length_terminated, Nat.add_assoc]

theorem StackShape.drop :
    stack.bytes.drop (8 * controlWordCount request + slack) =
      terminated (request.arguments ++ request.environment) := by
  have hbefore : (wordBytes (shapeWords request stack.rsp slack) ++ List.replicate slack 0).length =
      8 * controlWordCount request + slack := by
    rw [List.length_append, length_wordBytes, length_shapeWords, List.length_replicate]
  rw [h.bytes, ← List.append_assoc, List.drop_left' hbefore]

theorem StackShape.usedRange_last :
    stack.usedRange.last = stack.rsp.toNat + stack.bytes.length := by
  rw [GuestRange.last, h.base, h.size]

theorem StackShape.space :
    stack.rsp.toNat + (8 * controlWordCount request + slack) +
      stringBytes (request.arguments ++ request.environment) ≤
      2 ^ 64 := by
  have hlast := h.last
  have hlength := h.length
  have hle := request.storage.last_le
  omega

theorem StackShape.holds :
    List.Forall₂ (stack.Holds (8 * controlWordCount request)) (allPointers request stack.rsp slack)
      (request.arguments ++ request.environment) := by
  have hspace := h.space
  have hlength := h.length
  exact holds_stringPointers h.drop h.usedRange_last (by omega) (by omega) (by omega)

end

variable {pointers : List GuestAddress}

theorem map_string_eq {control : ℕ} {strings : List (List UInt8)}
    (h : List.Forall₂ (stack.Holds control) pointers strings)
    (hvalid : ∀ value ∈ strings, containsNul value = false) :
    (pointers.map GuestAddress.value).map stack.string = strings := by
  induction h with
  | nil => rfl
  | cons hfirst _ ih =>
    rw [List.forall_mem_cons] at hvalid
    rw [List.map_cons, List.map_cons, hfirst.string_eq hvalid.1, ih hvalid.2]

theorem InitialStackImage.Holds.ne_zero {control : ℕ} (h : stack.Holds control pointer value)
    (hcontrol : 0 < control) : pointer.value ≠ 0 := by
  intro hzero
  have habove := h.above
  rw [GuestAddress.toNat, GuestAddress.toNat, hzero, UInt64.toNat_zero] at habove
  omega

theorem forall_value_ne_zero {control : ℕ} {strings : List (List UInt8)}
    (h : List.Forall₂ (stack.Holds control) pointers strings) (hcontrol : 0 < control) :
    ∀ word ∈ pointers.map GuestAddress.value, word ≠ 0 := by
  induction h with
  | nil => exact fun word hword => absurd hword List.not_mem_nil
  | cons hfirst _ ih =>
    rw [List.map_cons, List.forall_mem_cons]
    exact ⟨hfirst.ne_zero hcontrol, ih⟩

theorem forall₂_append_of_length {control : ℕ} {pointers' : List GuestAddress}
    {strings strings' : List (List UInt8)} (hlength : pointers.length = strings.length)
    (h : List.Forall₂ (stack.Holds control) (pointers ++ pointers') (strings ++ strings')) :
    List.Forall₂ (stack.Holds control) pointers strings ∧
    List.Forall₂ (stack.Holds control) pointers' strings' := by
  have htake := List.forall₂_take strings.length h
  have hdrop := List.forall₂_drop strings.length h
  rw [List.take_left' hlength, List.take_left' rfl] at htake
  rw [List.drop_left' hlength, List.drop_left' rfl] at hdrop
  exact ⟨htake, hdrop⟩

/-- **The walk gives the request back.** -/
theorem StackShape.reads (h : StackShape request stack slack) (hmemory : RequestInMemory request)
    (hvalid : InputsValid request) :
    readStack stack = (request.arguments, request.environment, request.auxiliaryVector) := by
  have hall := h.holds
  have hword := h.word
  rw [allPointers_eq] at hall
  rw [shapeWords] at hword
  have hlength := h.length
  have hargumentCount :=
    length_stringPointers stack.rsp (8 * controlWordCount request + slack) request.arguments
  generalize stringPointers stack.rsp (8 * controlWordCount request + slack) request.arguments =
    argumentPointers at *
  have henvironmentCount := length_stringPointers stack.rsp
    (8 * controlWordCount request + slack + stringBytes request.arguments) request.environment
  generalize stringPointers stack.rsp
    (8 * controlWordCount request + slack + stringBytes request.arguments)
    request.environment = environmentPointers at *
  obtain ⟨harguments, henvironment⟩ := forall₂_append_of_length hargumentCount hall
  have hcontrol : 0 < 8 * controlWordCount request := by
    rw [controlWordCount]
    omega
  set auxiliary :=
    request.auxiliaryVector.flatMap fun entry => [entry.type, entry.value] with hauxiliary
  have hwords : controlWords request argumentPointers environmentPointers =
      UInt64.ofNat request.arguments.length :: (argumentPointers.map GuestAddress.value ++
        0 :: (environmentPointers.map GuestAddress.value ++ 0 :: (auxiliary ++ 0 :: [0]))) := by
    simp only [controlWords, hauxiliary, List.append_assoc, List.cons_append, List.nil_append]
  set words := controlWords request argumentPointers environmentPointers
  have hcount : (stack.word 0).toNat = request.arguments.length := by
    rw [hword 0 (UInt64.ofNat request.arguments.length) (by rw [hwords]; rfl)]
    exact toNat_ofNat_of_lt hmemory.stackInMemory.arguments
  have hdropArguments : words.drop 1 = argumentPointers.map GuestAddress.value ++
      0 :: (environmentPointers.map GuestAddress.value ++ 0 :: (auxiliary ++ 0 :: [0])) := by
    rw [hwords]
    rfl
  have hdropEnvironment : words.drop (request.arguments.length + 2) =
      environmentPointers.map GuestAddress.value ++ 0 :: (auxiliary ++ 0 :: [0]) := by
    have hsplit : request.arguments.length + 2 =
        1 + ((argumentPointers.map GuestAddress.value).length + 1) := by
      rw [List.length_map, hargumentCount]
      omega
    rw [hsplit, ← List.drop_drop, hdropArguments, List.drop_length_add_append]
    rfl
  have hdropAuxiliary : words.drop (request.arguments.length + 2 + environmentPointers.length + 1) =
      auxiliary ++ 0 :: [0] := by
    have hsplit : request.arguments.length + 2 + environmentPointers.length + 1 =
        request.arguments.length + 2 +
          ((environmentPointers.map GuestAddress.value).length + 1) := by
      rw [List.length_map, Nat.add_assoc]
    rw [hsplit, ← List.drop_drop, hdropEnvironment, List.drop_length_add_append]
    rfl
  have hreadArguments := map_word_range hword hdropArguments
  rw [List.length_map, hargumentCount] at hreadArguments
  have hreadEnvironment : stack.wordsUntilNull stack.bytes.length (request.arguments.length + 2) =
      environmentPointers.map GuestAddress.value := by
    apply wordsUntilNull_eq hword hdropEnvironment
    · exact forall_value_ne_zero henvironment hcontrol
    · rw [List.length_map, henvironmentCount, hlength, controlWordCount]
      omega
  have hreadAuxiliary : stack.auxiliaryEntries stack.bytes.length
      (request.arguments.length + 2 + environmentPointers.length + 1) =
        request.auxiliaryVector := by
    apply auxiliaryEntries_eq hword hdropAuxiliary hvalid.auxiliaryVector
    rw [hlength, controlWordCount]
    omega
  rw [readStack]
  rw [hcount, hreadArguments, hreadEnvironment, List.length_map, hreadAuxiliary,
    map_string_eq harguments hvalid.arguments, map_string_eq henvironment hvalid.environment]

/-- The bytes between the control words and the strings are zero, and there are no others. -/
theorem StackShape.getD_eq_zero (h : StackShape request stack slack) {i : ℕ}
    (hlow : 8 * controlWordCount request ≤ i) (hhigh : i < stack.bytes.length)
    (hout : ∀ string ∈ (allPointers request stack.rsp slack).zip
      (request.arguments ++ request.environment), ¬ InString (stack.rsp.toNat + i) string) :
      stack.bytes.getD i 0 = 0 := by
  have hwords : (wordBytes (shapeWords request stack.rsp slack)).length =
      8 * controlWordCount request := by
    rw [length_wordBytes, length_shapeWords]
  by_cases hslack : i < 8 * controlWordCount request + slack
  · have hinside : i - 8 * controlWordCount request <
        (List.replicate slack (0 : UInt8)).length := by
      rw [List.length_replicate]
      omega
    rw [h.bytes, List.getD_append_right _ _ _ _ (by omega), hwords,
      List.getD_append _ _ _ _ hinside, List.getD_eq_getElem _ _ hinside, List.getElem_replicate]
  · have hlength := h.length
    obtain ⟨string, hstring, hin⟩ := @exists_inString stack.rsp _ _ i h.space (by omega) (by omega)
    exact absurd hin (hout string hstring)

/-- **A stack that has been built reads back as the request.** -/
theorem StackShape.readsBack (h : StackShape request stack slack)
    (hmemory : RequestInMemory request) (hvalid : InputsValid request) :
    ReadsBack request stack := by
  have hpointers := allPointers_eq request stack.rsp slack
  have hholds := h.holds
  have hzero := fun i => @StackShape.getD_eq_zero _ _ _ h i
  have hpairwise := (pairwise_stringPointers h.space).2
  rw [← allPointers] at hpairwise
  rw [hpointers] at hholds hzero hpairwise
  have hread := @map_word_range stack (shapeWords request stack.rsp slack) [] 0 _ h.word
    (List.append_nil _).symm
  rw [List.drop_zero, length_shapeWords] at hread
  simp only [Nat.zero_add] at hread
  refine ⟨h.aligned, h.base, h.low, ?_, h.size.symm, h.reads hmemory hvalid, ?_⟩
  · rw [h.usedRange_last, h.last]
  · exact ⟨_, _, length_stringPointers _ _ _, length_stringPointers _ _ _, hread, hholds, hpairwise,
      hzero⟩

end ReadBack

/-- **The initial stack.** A stack that is built reads back as its request. `stack_too_small` is the
answer exactly to inputs that are well formed and have no room at an aligned stack pointer, and no
address of the layout overflows. -/
theorem initialStack_readsBack (request : InitialStackRequest) (hmemory : RequestInMemory request) :
    (∀ stack, buildInitialStack request = .ok stack → ReadsBack request stack) ∧
      ((∃ e, buildInitialStack request = .error e ∧ e.code = .stackTooSmall) ↔
        InputsValid request ∧ ¬ HasRoom request) ∧
      ∀ e, buildInitialStack request = .error e → e.code ≠ .guestAddressOverflow := by
  rcases buildInitialStack_cases hmemory
    with ⟨stack, slack, hbuild, hvalid, hroom, hshape⟩ | ⟨hbuild, hroom, -⟩ |
    ⟨hbuild, hvalid, hroom⟩ | ⟨e, hbuild, hcode, hvalid⟩
  · refine ⟨?_, ⟨?_, ?_⟩, ?_⟩
    · intro other hother
      rw [hbuild] at hother
      cases hother
      exact hshape.readsBack hmemory hvalid
    · rintro ⟨e, he, -⟩
      rw [hbuild] at he
      cases he
    · rintro ⟨-, hnone⟩
      exact absurd hroom hnone
    · intro e he
      rw [hbuild] at he
      cases he
  · refine ⟨?_, ⟨?_, ?_⟩, ?_⟩
    · intro stack hstack
      rw [hbuild] at hstack
      cases hstack
    · rintro ⟨e, he, hcode⟩
      rw [hbuild] at he
      cases he
      cases hcode
    · rintro ⟨-, hnone⟩
      exact absurd hroom hnone
    · intro e he hcode
      rw [hbuild] at he
      cases he
      cases hcode
  · refine ⟨?_, ⟨?_, ?_⟩, ?_⟩
    · intro stack hstack
      rw [hbuild] at hstack
      cases hstack
    · intro _
      exact ⟨hvalid, hroom⟩
    · intro _
      exact ⟨_, hbuild, rfl⟩
    · intro e he hcode
      rw [hbuild] at he
      cases he
      cases hcode
  · refine ⟨?_, ⟨?_, ?_⟩, ?_⟩
    · intro stack hstack
      rw [hbuild] at hstack
      cases hstack
    · rintro ⟨e', he', hcode'⟩
      rw [hbuild] at he'
      cases he'
      rw [hcode'] at hcode
      rcases hcode with hcode | hcode <;> cases hcode
    · rintro ⟨hinputs, -⟩
      exact absurd hinputs hvalid
    · intro e' he' hcode'
      rw [hbuild] at he'
      cases he'
      rw [hcode'] at hcode
      rcases hcode with hcode | hcode <;> cases hcode

/-- Two arguments, a variable and an auxiliary entry, over a storage that is not aligned. -/
def sampleStackRequest : InitialStackRequest :=
  { storage := ⟨⟨0x10003⟩, ⟨0x100⟩, by decide⟩
    arguments := [[0x61, 0x62], []]
    environment := [[0x41, 0x3d, 0x31]]
    auxiliaryVector := [⟨6, 4096⟩] }

theorem initialStack_readsBack_sample :
    ∃ stack, buildInitialStack sampleStackRequest = .ok stack ∧
      ReadsBack sampleStackRequest stack := by
  have hsome : (buildInitialStack sampleStackRequest).toOption.isSome = true := by decide +kernel
  cases hbuild : buildInitialStack sampleStackRequest with
  | error e =>
    rw [hbuild] at hsome
    cases hsome
  | ok stack =>
    exact ⟨stack, rfl,
      (initialStack_readsBack sampleStackRequest ⟨by decide, by decide, by decide, by decide⟩).1
      stack hbuild⟩

/-- An argument with a zero in it is refused for the zero, however small the storage is. -/
theorem initialStack_embeddedNul_noRoom :
    ¬ ∀ request, RequestInMemory request →
      ((∃ e, buildInitialStack request = .error e ∧ e.code = .stackTooSmall) ↔
        ¬ HasRoom request) := by
  intro hall
  have hiff :=
    hall ⟨⟨⟨0⟩, ⟨0⟩, by decide⟩, [[0]], [], []⟩ ⟨by decide, by decide, by decide, by decide⟩
  have hroom : ¬ HasRoom ⟨⟨⟨0⟩, ⟨0⟩, by decide⟩, [[0]], [], []⟩ := by
    rintro ⟨rsp, -, -, hhigh⟩
    exact absurd (lt_of_lt_of_le (by decide) (le_trans (Nat.le_add_left _ rsp) hhigh))
      (Nat.not_lt_zero 0)
  obtain ⟨e, he, hcode⟩ := hiff.mpr hroom
  have hbuild : buildInitialStack ⟨⟨⟨0⟩, ⟨0⟩, by decide⟩, [[0]], [], []⟩ =
      .error ⟨.embeddedNul, some .argument, some 0⟩ := by decide +kernel
  rw [hbuild] at he
  cases he
  cases hcode

end Astraea.Loader
