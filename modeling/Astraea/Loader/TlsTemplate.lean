import Astraea.Loader.Elf64
import Astraea.Memory.GuestAddress

/-!
# The thread-local storage template

`build_tls_template_descriptor`: the one `PT_TLS` segment of an image, when it has one,
with its flags, sizes, alignment and file range checked.
-/

namespace Astraea.Loader

open Astraea.Base Astraea.Memory

/-- Why a template is refused. -/
inductive TlsTemplateErrorCode where
  | duplicateTlsSegment
  | tlsInitializedSizeExceedsTotal
  | tlsFileRangeOverflow
  | tlsFileRangeOutOfBounds
  | invalidTlsFlags
  | invalidTlsAlignment
  | invalidTlsAlignmentCongruence
  | hostSizeUnrepresentable
  | hostAllocationFailure
  deriving DecidableEq

/-- A template that is refused, with the segment it is about. -/
structure TlsTemplateError where
  code : TlsTemplateErrorCode
  sourceProgramHeaderIndex : Option ℕ := none
  conflictingProgramHeaderIndex : Option ℕ := none
  fileOffset : Option UInt64 := none
  deriving DecidableEq

/-- The thread-local template of a file. -/
structure TlsTemplateDescriptor where
  sourceProgramHeaderIndex : ℕ
  fileOffset : UInt64
  initializationAddress : GuestAddress
  initializedSize : GuestSize
  totalSize : GuestSize
  alignment : UInt64
  deriving DecidableEq

/-- The type of a segment with a template. -/
def kPtTls : UInt32 := 7

/-- The flag of a segment that can be read. -/
def kPfRead : UInt32 := 4

/-- The only header of a type, found so far in `found`; a second one is refused with `duplicate`. -/
def uniqueSegment {ε : Type} (type : UInt32) (duplicate : ProgramHeader → ProgramHeader → ε)
    (found : Option ProgramHeader) (ph : ProgramHeader) : Except ε (Option ProgramHeader) :=
  if ph.type ≠ type then .ok found
  else
    match found with
    | some earlier => .error (duplicate ph earlier)
    | none => .ok (some ph)

/-- `file_range_is_valid`, with the overflow it reports. -/
def checkTlsFileRange (tls : ProgramHeader) (imageSize : ℕ) : Except TlsTemplateError Unit :=
  whenever (tls.fileSize ≠ 0) do
    let fileEnd ← orRefuse (checkedAdd tls.offset tls.fileSize)
      ({ code := .tlsFileRangeOverflow, sourceProgramHeaderIndex := tls.index,
         fileOffset := tls.offset } : TlsTemplateError)
    refuseIf (¬ (tls.offset.toNat ≤ imageSize ∧ fileEnd.toNat ≤ imageSize))
      { code := .tlsFileRangeOutOfBounds, sourceProgramHeaderIndex := tls.index,
        fileOffset := tls.offset }

/-- The checks of the template's segment. -/
def checkTlsSegment (tls : ProgramHeader) (imageSize : ℕ) : Except TlsTemplateError Unit := do
  refuseIf (tls.flags ≠ kPfRead) { code := .invalidTlsFlags, sourceProgramHeaderIndex := tls.index }
  refuseIf (tls.fileSize > tls.memorySize)
    { code := .tlsInitializedSizeExceedsTotal, sourceProgramHeaderIndex := tls.index,
      fileOffset := tls.offset }
  whenever (tls.alignment > 1) do
    refuseIf (isPowerOfTwo tls.alignment = false)
      { code := .invalidTlsAlignment, sourceProgramHeaderIndex := tls.index }
    refuseIf (tls.virtualAddress % tls.alignment ≠ tls.offset % tls.alignment)
      { code := .invalidTlsAlignmentCongruence, sourceProgramHeaderIndex := tls.index }
  checkTlsFileRange tls imageSize

/-- `build_tls_template_descriptor`. -/
def buildTlsTemplateDescriptor (programHeaders : List ProgramHeader) (imageBytes : List UInt8) :
    Except TlsTemplateError (Option TlsTemplateDescriptor) := do
  let found ← programHeaders.foldlM (uniqueSegment kPtTls fun ph earlier =>
    ({ code := .duplicateTlsSegment, sourceProgramHeaderIndex := ph.index,
       conflictingProgramHeaderIndex := earlier.index } : TlsTemplateError)) none
  match found with
  | none => return none
  | some tls =>
    checkTlsSegment tls imageBytes.length
    return some ⟨tls.index, tls.offset, ⟨tls.virtualAddress⟩, ⟨tls.fileSize⟩, ⟨tls.memorySize⟩,
      tls.alignment⟩

end Astraea.Loader
