import Astraea.Base.Overwrite
import Astraea.Execution.GuestWorkerWire

/-!
# The sealed artifact

The controller hands the bytes of an artifact to its worker in a file that is in memory only.
`prepare_linux_artifact` writes them and seals the file; the worker finds it as its descriptor 3,
and `read_linux_sealed_worker_artifact` checks the seals and reads it back. Both are loops: a call
may move fewer bytes than asked for, or be interrupted.

`sealedArtifact_handOff` says that what is read is what was given, however the calls are answered,
and whatever others do to the file before the worker looks at it and between its calls.

The answers of the system are parameters. They are finitely many; where they run out, the call does
not return.
-/

namespace Astraea.Execution

open Astraea.Base

/-! ### Memory files -/

/-- `F_SEAL_SEAL`: no more seals. -/
def kSealSeal : UInt32 := 0x1

/-- `F_SEAL_SHRINK`: no cutting. -/
def kSealShrink : UInt32 := 0x2

/-- `F_SEAL_GROW`: no growing. -/
def kSealGrow : UInt32 := 0x4

/-- `F_SEAL_WRITE`: no writing. -/
def kSealWrite : UInt32 := 0x8

/-- `kRequiredSeals`. -/
def kRequiredSeals : UInt32 := kSealWrite ||| kSealGrow ||| kSealShrink ||| kSealSeal

/-- A file of `memfd_create`, with the seals on it. -/
structure MemFile where
  bytes : List UInt8
  seals : UInt32
  deriving DecidableEq

/-- What can be done to a file by whoever has a descriptor of it. -/
inductive MemFileOperation where
  | write (offset : ℕ) (data : List UInt8)
  | truncate (size : ℕ)
  | addSeals (seals : UInt32)
  deriving DecidableEq

namespace MemFile

/-- The file has all the seals of a mask. -/
def isSealed (file : MemFile) (mask : UInt32) : Bool := file.seals &&& mask == mask

/-- The bytes with as many zeros behind them as make up a size, or cut to it. -/
def resize (bytes : List UInt8) (size : ℕ) : List UInt8 :=
  bytes.take size ++ List.replicate (size - bytes.length) 0

/-- An operation, which is refused where a seal forbids it. -/
def apply (file : MemFile) : MemFileOperation → MemFile
  | .write offset data =>
    if file.isSealed kSealWrite = true then file
    else if file.bytes.length < offset + data.length ∧ file.isSealed kSealGrow = true then file
    else
      let resized := resize file.bytes (max file.bytes.length (offset + data.length))
      { file with bytes := overwrite resized offset data }
  | .truncate size =>
    if size < file.bytes.length ∧ file.isSealed kSealShrink = true then file
    else if file.bytes.length < size ∧ file.isSealed kSealGrow = true then file
    else { file with bytes := resize file.bytes size }
  | .addSeals seals =>
    if file.isSealed kSealSeal = true then file else { file with seals := file.seals ||| seals }

/-- The file at each of the calls that look at it: before a call, others have operated on it. -/
def atCall (file : MemFile) (others : ℕ → List MemFileOperation) : ℕ → MemFile
  | 0 => (others 0).foldl apply file
  | call + 1 => (others (call + 1)).foldl apply (file.atCall others call)

end MemFile

/-! ### Loops over calls -/

/-- `EINTR`: the call was interrupted. -/
def kEintr : Int64 := 4

/-- `EIO`: nothing was moved. -/
def kEio : Int64 := 5

/-- `EOVERFLOW`: there is too much to move. -/
def kEoverflow : Int64 := 75

/-- `std::numeric_limits<off_t>::max()`, and that of `ssize_t`. -/
def kOffsetMax : ℕ := 2 ^ 63 - 1

/-- How the system answers a call that moves bytes: it fails, or moves as many as it likes, if not
more than asked for. -/
inductive TransferAnswer where
  | failed (errno : Int64)
  | moved (count : ℕ)
  deriving DecidableEq

section Transfer

variable {σ ε : Type}

/-- The loop of `pwrite` and that of `pread`: so many bytes are asked for of those that are left,
and `move` is what a call does. There is no result where the system leaves a call without an answer.
-/
def transferAll (size : ℕ) (asked : ℕ → ℕ) (move : (offset count : ℕ) → σ → σ)
    (failed : Int64 → ε) :
    List TransferAnswer → (offset : ℕ) → σ → Option (Except ε σ)
  | [], offset, state => if offset < size then none else some (.ok state)
  | answer :: answers, offset, state =>
    if offset < size then
      match answer with
      | .failed errno =>
        if errno = kEintr then transferAll size asked move failed answers offset state
          else some (.error (failed errno))
      | .moved count =>
        let count := min count (asked (size - offset))
        if count = 0 then some (.error (failed kEio))
        else transferAll size asked move failed answers (offset + count) (move offset count state)
    else some (.ok state)

/-- The calls move all of so many bytes, with some interruptions. -/
def Suffice (asked : ℕ → ℕ) : List TransferAnswer → (left : ℕ) → Prop
  | [], left => left = 0
  | answer :: answers, left =>
    left = 0 ∨
      match answer with
      | .failed errno => errno = kEintr ∧ Suffice asked answers left
      | .moved count =>
        min count (asked left) ≠ 0 ∧ Suffice asked answers (left - min count (asked left))

variable {size offset : ℕ} {asked : ℕ → ℕ} {move : (offset count : ℕ) → σ → σ} {failed : Int64 → ε}
  {answers : List TransferAnswer} {state last : σ}

theorem transferAll_keeps (inv : ℕ → σ → Prop) (hasked : ∀ left, asked left ≤ left)
    (hmove : ∀ offset count state, offset + count ≤ size → inv offset state →
      inv (offset + count) (move offset count state)) (hoffset : offset ≤ size)
    (hstate : inv offset state)
    (h : transferAll size asked move failed answers offset state = some (.ok last)) :
    inv size last := by
  induction answers generalizing offset state with
  | nil =>
    unfold transferAll at h
    split_ifs at h with hleft
    cases h
    rwa [← le_antisymm hoffset (not_lt.mp hleft)]
  | cons answer answers ih =>
    unfold transferAll at h
    split_ifs at h with hleft
    · cases answer with
      | failed errno =>
        dsimp only at h
        split_ifs at h with hinterrupted
        · exact ih hoffset hstate h
        · cases h
      | moved count =>
        dsimp only at h
        split_ifs at h with hzero
        · cases h
        · have hcount : min count (asked (size - offset)) ≤ size - offset :=
            (Nat.min_le_right _ _).trans (hasked _)
          have hfits : offset + min count (asked (size - offset)) ≤ size := by omega
          exact ih hfits (hmove offset _ state hfits hstate) h
    · cases h
      rwa [← le_antisymm hoffset (not_lt.mp hleft)]

theorem exists_transferAll (h : Suffice asked answers (size - offset)) (state : σ) :
    ∃ last, transferAll size asked move failed answers offset state = some (.ok last) := by
  induction answers generalizing offset state with
  | nil =>
    rw [Suffice] at h
    exact ⟨state, by unfold transferAll; rw [if_neg (by omega)]⟩
  | cons answer answers ih =>
    unfold transferAll
    split_ifs with hleft
    · rcases h with hzero | hanswer
      · omega
      · cases answer with
        | failed errno =>
          obtain ⟨hinterrupted, hrest⟩ := hanswer
          dsimp only
          rw [if_pos hinterrupted]
          exact ih hrest state
        | moved count =>
          obtain ⟨hsome, hrest⟩ := hanswer
          dsimp only
          rw [if_neg hsome]
          rw [Nat.sub_sub] at hrest
          exact ih hrest _
    · exact ⟨state, rfl⟩

end Transfer

/-! ### The controller's side -/

/-- The answers of the system to `prepare_linux_artifact`. -/
structure PrepareKernel where
  memfdCreate : Except Int64 Unit
  ftruncate : Except Int64 Unit
  pwrite : List TransferAnswer
  addSeals : Except Int64 Unit
  getSeals : Except Int64 Unit

/-- The artifact could not be prepared. -/
def preparationError (errno : Int64) : GuestWorkerProcessSessionError :=
  { code := .artifactPreparationFailure, platformError := errno }

/-- A `pwrite` asks for no more than an `ssize_t` can tell. -/
def pwriteChunk (remaining : ℕ) : ℕ := min remaining kOffsetMax

/-- A new file of the size of the artifact. -/
def createArtifact (kernel : PrepareKernel) (bytes : List UInt8) :
    Except GuestWorkerProcessSessionError MemFile := do
  refuseIf (bytes.isEmpty = true) { code := .invalidConfig }
  refuseIf (bytes.length > kOffsetMax) (preparationError kEoverflow)
  kernel.memfdCreate.mapError preparationError
  kernel.ftruncate.mapError preparationError
  return (MemFile.mk [] 0).apply (.truncate bytes.length)

/-- The loop that writes the artifact. -/
def writeArtifact (kernel : PrepareKernel) (bytes : List UInt8) (file : MemFile) :
    Option (Except GuestWorkerProcessSessionError MemFile) :=
  transferAll bytes.length pwriteChunk
    (fun offset count file => file.apply (.write offset (slice bytes offset count)))
    preparationError kernel.pwrite 0 file

/-- The seals are put on the file, and looked for. -/
def sealArtifact (kernel : PrepareKernel) (file : MemFile) :
    Except GuestWorkerProcessSessionError MemFile := do
  kernel.addSeals.mapError preparationError
  let file := file.apply (.addSeals kRequiredSeals)
  kernel.getSeals.mapError preparationError
  refuseIf (file.seals &&& kRequiredSeals ≠ kRequiredSeals) (preparationError kEio)
  return file

/-- `prepare_linux_artifact`. -/
def prepareLinuxArtifact (kernel : PrepareKernel) (bytes : List UInt8) :
    Option (Except GuestWorkerProcessSessionError MemFile) :=
  match createArtifact kernel bytes with
  | .error e => some (.error e)
  | .ok file => (writeArtifact kernel bytes file).map fun written => written >>= sealArtifact kernel

/-! ### The worker's side -/

/-- Why an artifact was not read. -/
inductive LinuxWorkerArtifactErrorCode where
  | unsupportedPlatform
  | invalidSizeLimit
  | descriptorUnavailable
  | sealQueryFailure
  | missingRequiredSeals
  | metadataFailure
  | emptyArtifact
  | artifactTooLarge
  | readFailure
  | closeFailure
  | hostAllocationFailure
  deriving DecidableEq

/-- An artifact that was not read. -/
structure LinuxWorkerArtifactError where
  code : LinuxWorkerArtifactErrorCode
  platformError : Int64 := 0
  observedSize : UInt64 := 0
  deriving DecidableEq

/-- The answers of the system to `read_linux_sealed_worker_artifact`; `fstat` tells if the file is a
regular one. -/
structure ReadKernel where
  getFd : Except Int64 Unit
  getSeals : Except Int64 Unit
  fstat : Except Int64 Bool
  pread : List TransferAnswer
  close : Except Int64 Unit

/-- What is checked before the read: the size of the artifact. The first two calls that look at the
file get its seals and its size. -/
def checkArtifact (kernel : ReadKernel) (maxArtifactBytes : ℕ) (file : ℕ → MemFile) :
    Except LinuxWorkerArtifactError ℕ := do
  refuseIf (maxArtifactBytes = 0) { code := .invalidSizeLimit }
  kernel.getFd.mapError fun errno => { code := .descriptorUnavailable, platformError := errno }
  kernel.getSeals.mapError fun errno => { code := .sealQueryFailure, platformError := errno }
  refuseIf ((file 0).seals &&& kRequiredSeals ≠ kRequiredSeals) { code := .missingRequiredSeals }
  let isRegular ← kernel.fstat.mapError fun errno =>
    { code := .metadataFailure, platformError := errno }
  refuseIf (isRegular = false) { code := .metadataFailure }
  let size := (file 1).bytes.length
  refuseIf (size = 0) { code := .emptyArtifact }
  refuseIf (size > maxArtifactBytes)
    { code := .artifactTooLarge, observedSize := UInt64.ofNat size }
  return size

/-- The vector that is read into, and the number of calls that have looked at the file. -/
structure ReadBuffer where
  bytes : List UInt8
  calls : ℕ

/-- A `pread` into the vector, of the file as it is at this call. -/
def ReadBuffer.pread (file : ℕ → MemFile) (offset count : ℕ) (buffer : ReadBuffer) :
    ReadBuffer where
  bytes := overwrite buffer.bytes offset (slice (file buffer.calls).bytes offset count)
  calls := buffer.calls + 1

/-- The loop that reads the artifact. -/
def readArtifact (kernel : ReadKernel) (size : ℕ) (file : ℕ → MemFile) :
    Option (Except LinuxWorkerArtifactError ReadBuffer) :=
  transferAll size id (ReadBuffer.pread file)
    (fun errno =>
      { code := .readFailure, platformError := errno, observedSize := UInt64.ofNat size })
    kernel.pread 0 ⟨List.replicate size 0, 2⟩

/-- `read_linux_sealed_worker_artifact`. -/
def readLinuxSealedWorkerArtifact (kernel : ReadKernel) (maxArtifactBytes : ℕ)
    (file : ℕ → MemFile) :
    Option (Except LinuxWorkerArtifactError (List UInt8)) :=
  match checkArtifact kernel maxArtifactBytes file with
  | .error e => some (.error e)
  | .ok size => (readArtifact kernel size file).map fun result => do
    let buffer ← result
    kernel.close.mapError fun errno =>
      { code := .closeFailure, platformError := errno, observedSize := UInt64.ofNat size }
    return buffer.bytes

/-! ### What the seals are for -/

section Seals

variable {file : MemFile} {bytes : List UInt8}

theorem MemFile.resize_length (bytes : List UInt8) : MemFile.resize bytes bytes.length = bytes := by
  rw [MemFile.resize, List.take_length, Nat.sub_self, List.replicate_zero, List.append_nil]

/-- A file with all the seals. -/
def MemFile.IsImmutable (file : MemFile) : Prop := file.seals &&& kRequiredSeals = kRequiredSeals

theorem MemFile.IsImmutable.isSealed (h : file.IsImmutable) {mask : UInt32}
    (hmask : kRequiredSeals &&& mask = mask) :
    file.isSealed mask = true := by
  rw [MemFile.isSealed, beq_iff_eq]
  rw [← hmask]
  conv_lhs => rw [← UInt32.and_assoc, h]

theorem MemFile.IsImmutable.apply (h : file.IsImmutable) (operation : MemFileOperation) :
    file.apply operation = file := by
  have hwrite : file.isSealed kSealWrite = true := h.isSealed rfl
  have hgrow : file.isSealed kSealGrow = true := h.isSealed rfl
  have hshrink : file.isSealed kSealShrink = true := h.isSealed rfl
  have hseal : file.isSealed kSealSeal = true := h.isSealed rfl
  cases operation with
  | write offset data => rw [MemFile.apply, if_pos hwrite]
  | truncate size =>
    rw [MemFile.apply]
    split_ifs with hless hmore
    · rfl
    · rfl
    · have hsize : size = file.bytes.length := by
        simp only [hshrink, hgrow, and_true, not_lt] at hless hmore
        exact le_antisymm hmore hless
      rw [hsize, MemFile.resize_length]
  | addSeals seals => rw [MemFile.apply, if_pos hseal]

theorem MemFile.IsImmutable.foldl (h : file.IsImmutable) (operations : List MemFileOperation) :
    operations.foldl MemFile.apply file = file := by
  induction operations with
  | nil => rfl
  | cons operation operations ih => rw [List.foldl_cons, h.apply, ih]

/-- Every call sees a file with all the seals as it was. -/
theorem MemFile.IsImmutable.atCall (h : file.IsImmutable) (others : ℕ → List MemFileOperation) :
    file.atCall others = fun _ => file := by
  funext call
  induction call with
  | zero => exact h.foldl (others 0)
  | succ call ih => rw [MemFile.atCall, ih, h.foldl]

end Seals

/-! ### The hand-off -/

section HandOff

variable {kernel : PrepareKernel} {reader : ReadKernel} {file : MemFile} {bytes : List UInt8}
  {limit : ℕ}

theorem createArtifact_eq_ok (h : createArtifact kernel bytes = .ok file) :
    bytes ≠ [] ∧ bytes.length ≤ kOffsetMax ∧ file.seals = 0 ∧ file.bytes.length = bytes.length := by
  simp only [createArtifact, bind_eq_ok, refuseIf_eq_ok, pure_eq_ok, List.isEmpty_iff, not_lt,
    gt_iff_lt] at h
  obtain ⟨-, hne, -, hmax, -, -, -, -, rfl⟩ := h
  refine ⟨hne, hmax, ?_, ?_⟩
  · rw [MemFile.apply, if_neg (by simp), if_neg (by simp [MemFile.isSealed, kSealGrow])]
  · rw [MemFile.apply, if_neg (by simp), if_neg (by simp [MemFile.isSealed, kSealGrow])]
    simp [MemFile.resize]

theorem apply_write_slice {offset count : ℕ} (hseals : file.seals = 0)
    (hlength : file.bytes.length = bytes.length) (hcount : offset + count ≤ bytes.length) :
    file.apply (.write offset (slice bytes offset count)) =
      { file with bytes := overwrite file.bytes offset (slice bytes offset count) } := by
  have hslice : (slice bytes offset count).length = count := by
    rw [slice, List.length_take, List.length_drop]
    omega
  have hmax : max file.bytes.length (offset + count) = file.bytes.length := by omega
  rw [MemFile.apply, if_neg (by rw [MemFile.isSealed, hseals]; decide),
    if_neg (by rw [MemFile.isSealed, hseals]; simp [kSealGrow]), hslice, hmax,
      MemFile.resize_length]

/-- What is prepared is the artifact, with all the seals. -/
theorem of_prepareLinuxArtifact (h : prepareLinuxArtifact kernel bytes = some (.ok file)) :
    file.bytes = bytes ∧ file.IsImmutable ∧ bytes ≠ [] := by
  unfold prepareLinuxArtifact at h
  split at h
  · cases h
  · next created hcreate =>
    obtain ⟨hne, hmax, hseals, hlength⟩ := createArtifact_eq_ok hcreate
    obtain ⟨written, hwritten, hsealed⟩ := Option.map_eq_some_iff.mp h
    obtain ⟨copy, rfl, hcopy⟩ := bind_eq_ok.mp hsealed
    -- the loop has copied the artifact into the file
    obtain ⟨hcopied, hopen⟩ :=
      transferAll_keeps (fun offset file => CopiedUpTo bytes file.bytes offset ∧ file.seals = 0)
      (fun left => Nat.min_le_left _ _)
      (fun offset count file hfits hfile => by
        rw [apply_write_slice hfile.2 hfile.1.length hfits]
        exact ⟨hfile.1.overwrite hfits, hfile.2⟩)
      (Nat.zero_le _) ⟨⟨hlength, fun i hi => absurd hi (Nat.not_lt_zero i)⟩, hseals⟩ hwritten
    simp only [sealArtifact, bind_eq_ok, refuseIf_eq_ok, pure_eq_ok, not_not, ne_eq] at hcopy
    obtain ⟨-, -, -, -, -, hrequired, rfl⟩ := hcopy
    refine ⟨?_, hrequired, hne⟩
    rw [MemFile.apply, if_neg (by rw [MemFile.isSealed, hopen]; decide)]
    exact hcopied.eq le_rfl

/-- What is read of a file that stays as it is, is what is in it. -/
theorem eq_of_readArtifact {size : ℕ} {buffer : ReadBuffer} (hsize : size = file.bytes.length)
    (h : readArtifact reader size (fun _ => file) = some (.ok buffer)) :
    buffer.bytes = file.bytes := by
  subst hsize
  have hcopied := transferAll_keeps
    (fun offset (buffer : ReadBuffer) => CopiedUpTo file.bytes buffer.bytes offset)
      (fun left => le_rfl)
    (fun offset count buffer hfits hbytes => hbytes.overwrite hfits) (Nat.zero_le _)
    ⟨List.length_replicate, fun i hi => absurd hi (Nat.not_lt_zero i)⟩ h
  exact hcopied.eq le_rfl

/-- The system answers the worker well: its calls succeed, and those that move bytes move all of so
many. -/
structure ReadKernel.Serves (reader : ReadKernel) (size : ℕ) : Prop where
  getFd : reader.getFd = .ok ()
  getSeals : reader.getSeals = .ok ()
  fstat : reader.fstat = .ok true
  pread : Suffice id reader.pread size
  close : reader.close = .ok ()

theorem checkArtifact_eq_ok {size : ℕ} (h : checkArtifact reader limit (fun _ => file) = .ok size) :
    size = file.bytes.length ∧ size ≤ limit := by
  simp only [checkArtifact, bind_eq_ok, refuseIf_eq_ok, pure_eq_ok, not_lt, gt_iff_lt] at h
  obtain ⟨-, -, -, -, -, -, -, -, -, -, -, -, -, -, -, hlimit, rfl⟩ := h
  exact ⟨rfl, hlimit⟩

theorem readLinuxSealedWorkerArtifact_eq_ok
    (h : readLinuxSealedWorkerArtifact reader limit (fun _ => file) = some (.ok bytes)) :
    bytes = file.bytes := by
  unfold readLinuxSealedWorkerArtifact at h
  split at h
  · cases h
  · next size hcheck =>
    obtain ⟨result, hresult, hclosed⟩ := Option.map_eq_some_iff.mp h
    obtain ⟨buffer, rfl, hclose⟩ := bind_eq_ok.mp hclosed
    simp only [bind_eq_ok, pure_eq_ok] at hclose
    obtain ⟨-, -, rfl⟩ := hclose
    exact eq_of_readArtifact (checkArtifact_eq_ok hcheck).1 hresult

/-- Where the system serves the worker, an artifact within the limit is read. -/
theorem readLinuxSealedWorkerArtifact_of_serves (hfile : file.IsImmutable) (hne : file.bytes ≠ [])
    (hlimit : file.bytes.length ≤ limit) (hserves : reader.Serves file.bytes.length) :
    readLinuxSealedWorkerArtifact reader limit (fun _ => file) = some (.ok file.bytes) := by
  have hpositive : 0 < file.bytes.length := List.length_pos_iff.mpr hne
  have hcheck : checkArtifact reader limit (fun _ => file) = .ok file.bytes.length := by
    simp only [checkArtifact, hserves.getFd, hserves.getSeals, hserves.fstat, bind_eq_ok,
      refuseIf_eq_ok, pure_eq_ok, mapError_eq_ok, not_not, ne_eq]
    exact ⟨(), by omega, (), trivial, (), trivial, (), hfile, true, rfl, (), by decide,
      (), by omega, (), by omega, trivial⟩
  obtain ⟨buffer, hread⟩ :
      ∃ buffer, readArtifact reader file.bytes.length (fun _ => file) = some (.ok buffer) :=
    exists_transferAll hserves.pread _
  have hsame := eq_of_readArtifact rfl hread
  unfold readLinuxSealedWorkerArtifact
  rw [hcheck]
  dsimp only
  rw [hread, hserves.close, ← hsame]
  rfl

/-- **The worker reads what it was given.** Where the controller has prepared an artifact, then
whatever is done to the file by whoever has it, before the worker looks at it and between its calls,
and however the calls of both are cut or interrupted: what the worker reads, if it reads it, is the
artifact; and it reads it if the system serves it and the artifact is within the limit. -/
theorem sealedArtifact_handOff (hprepared : prepareLinuxArtifact kernel bytes = some (.ok file))
    (others : ℕ → List MemFileOperation) :
    (∀ read, readLinuxSealedWorkerArtifact reader limit (file.atCall others) = some (.ok read) →
      read = bytes) ∧
    (bytes.length ≤ limit → reader.Serves bytes.length →
      readLinuxSealedWorkerArtifact reader limit (file.atCall others) = some (.ok bytes)) := by
  obtain ⟨rfl, himmutable, hne⟩ := of_prepareLinuxArtifact hprepared
  rw [himmutable.atCall]
  exact ⟨fun read hread => readLinuxSealedWorkerArtifact_eq_ok hread,
    fun hlimit hserves => readLinuxSealedWorkerArtifact_of_serves himmutable hne hlimit hserves⟩

/-- Three bytes, written two at a time and read one at a time, with an interruption each; before
each call of the worker somebody writes into the file, and cuts it before the second byte is read.
-/
theorem sealedArtifact_handOff_example :
    readLinuxSealedWorkerArtifact
        ⟨.ok (), .ok (), .ok true, [.moved 1, .failed 4, .moved 1, .moved 1], .ok ()⟩ 3
        (MemFile.atCall ⟨[1, 2, 3], kRequiredSeals⟩ fun call =>
          if call = 3 then [.truncate 1] else [.write 0 [9], .addSeals 0]) =
            some (.ok [1, 2, 3]) := by
  have hprepared : prepareLinuxArtifact
      ⟨.ok (), .ok (), [.moved 2, .failed 4, .moved 2], .ok (), .ok ()⟩ [1, 2, 3] =
        some (.ok ⟨[1, 2, 3], kRequiredSeals⟩) := by rfl
  refine (sealedArtifact_handOff hprepared _).2 (by decide) ⟨rfl, rfl, rfl, ?_, rfl⟩
  simp [Suffice, kEintr]

end HandOff

end Astraea.Execution
