import Astraea.Graphics.GpuAddressSpace

/-!
# Colour targets

The colour target of a draw is described by context registers. `resolve_color_target0_context_state`
unpacks them, `plan_gfx10_linear_rgba8_unorm_color_target_image` turns what it finds into an image
descriptor, with the layout that `compute_gfx10_aligned_linear_2d_layout` gives it, and
`GuestGpuImageRegistry::register_view` checks a descriptor and resolves its surface to an
allocation.

The stages check the same quantities again. `WellFormedSurface` says what a planned descriptor is,
and `registerView_of_wellFormed` that such a descriptor passes every check of the registry.
-/

namespace Astraea.Graphics

open Astraea.Base Astraea.Core

/-! ### The context registers -/

/-- `CB_TARGET_MASK`. -/
def kColorTargetMaskContextOffset : UInt16 := 0x008e

/-- `CB_COLOR0_BASE`. -/
def kColorTarget0BaseContextOffset : UInt16 := 0x0318

/-- `CB_COLOR0_INFO`. -/
def kColorTarget0InfoContextOffset : UInt16 := 0x031c

/-- `CB_COLOR0_BASE_EXT`. -/
def kColorTarget0BaseExtContextOffset : UInt16 := 0x0390

/-- `CB_COLOR0_ATTRIB2`. -/
def kColorTarget0Attrib2ContextOffset : UInt16 := 0x03b0

/-- `CB_COLOR0_ATTRIB3`. -/
def kColorTarget0Attrib3ContextOffset : UInt16 := 0x03b8

/-- The registers of the color target. -/
structure ColorTarget0ContextState where
  baseAddress : UInt64
  rawTargetMask : UInt32
  writeMask : UInt8
  rawInfo : UInt32
  endian : UInt8
  format : UInt8
  linearGeneral : Bool
  numberType : UInt8
  componentSwap : UInt8
  fastClear : Bool
  compression : Bool
  cmaskIsLinear : Bool
  fmaskCompressionDisable : Bool
  fmaskCompressOneFragment : Bool
  dccEnabled : Bool
  cmaskAddressType : UInt8
  nbcTiling : Bool
  rawAttrib2 : UInt32
  width : UInt32
  height : UInt32
  rawAttrib3 : UInt32
  colorSwMode : UInt8
  resourceType : UInt8
  deriving DecidableEq

/-- Why the registers of the color target are refused. -/
inductive ColorTarget0ContextErrorCode where
  | targetMaskUninitialized
  | baseUninitialized
  | baseExtUninitialized
  | infoUninitialized
  | attrib2Uninitialized
  | attrib3Uninitialized
  | addressOverflow
  deriving DecidableEq

/-- A register of the color target that is not set. -/
structure ColorTarget0ContextError where
  code : ColorTarget0ContextErrorCode
  rawBase : UInt32 := 0
  rawBaseExt : UInt32 := 0
  deriving DecidableEq

/-- One bit of a register. -/
def bitOf (word : UInt32) (shift : UInt32) : Bool := word >>> shift &&& 0x01 != 0

/-- A field of a register that fits a byte. -/
def fieldOf (word : UInt32) (shift mask : UInt32) : UInt8 := (word >>> shift &&& mask).toUInt8

/-- The fields of the colour target, once every register is known to be there. -/
def colorTarget0Fields (state : ContextRegisterState) (baseAddress : UInt64) :
    ColorTarget0ContextState :=
  let rawTargetMask := state.valueOf kColorTargetMaskContextOffset
  let rawInfo := state.valueOf kColorTarget0InfoContextOffset
  let rawAttrib2 := state.valueOf kColorTarget0Attrib2ContextOffset
  let rawAttrib3 := state.valueOf kColorTarget0Attrib3ContextOffset
  { baseAddress := baseAddress
    rawTargetMask := rawTargetMask
    writeMask := fieldOf rawTargetMask 0 0x0f
    rawInfo := rawInfo
    endian := fieldOf rawInfo 0 0x03
    format := fieldOf rawInfo 2 0x1f
    linearGeneral := bitOf rawInfo 7
    numberType := fieldOf rawInfo 8 0x07
    componentSwap := fieldOf rawInfo 11 0x03
    fastClear := bitOf rawInfo 13
    compression := bitOf rawInfo 14
    cmaskIsLinear := bitOf rawInfo 19
    fmaskCompressionDisable := bitOf rawInfo 26
    fmaskCompressOneFragment := bitOf rawInfo 27
    dccEnabled := bitOf rawInfo 28
    cmaskAddressType := fieldOf rawInfo 29 0x03
    nbcTiling := bitOf rawInfo 31
    rawAttrib2 := rawAttrib2
    width := (rawAttrib2 >>> 14 &&& 0x3fff) + 1
    height := (rawAttrib2 &&& 0x3fff) + 1
    rawAttrib3 := rawAttrib3
    colorSwMode := fieldOf rawAttrib3 14 0x1f
    resourceType := fieldOf rawAttrib3 24 0x03 }

/-- `resolve_color_target0_context_state`. -/
def resolveColorTarget0ContextState (state : ContextRegisterState) :
    Except ColorTarget0ContextError ColorTarget0ContextState := do
  refuseIf (state.isInitialized kColorTargetMaskContextOffset = false)
    { code := .targetMaskUninitialized }
  refuseIf (state.isInitialized kColorTarget0BaseContextOffset = false)
    { code := .baseUninitialized }
  let rawBase := state.valueOf kColorTarget0BaseContextOffset
  refuseIf (state.isInitialized kColorTarget0BaseExtContextOffset = false)
    { code := .baseExtUninitialized, rawBase := rawBase }
  let rawBaseExt := state.valueOf kColorTarget0BaseExtContextOffset
  refuseIf (state.isInitialized kColorTarget0InfoContextOffset = false)
    ⟨.infoUninitialized, rawBase, rawBaseExt⟩
  refuseIf (state.isInitialized kColorTarget0Attrib2ContextOffset = false)
    ⟨.attrib2Uninitialized, rawBase, rawBaseExt⟩
  refuseIf (state.isInitialized kColorTarget0Attrib3ContextOffset = false)
    ⟨.attrib3Uninitialized, rawBase, rawBaseExt⟩
  let unshifted := rawBaseExt.toUInt64 <<< 32 ||| rawBase.toUInt64
  refuseIf (unshifted > u64Max >>> 8) ⟨.addressOverflow, rawBase, rawBaseExt⟩
  return colorTarget0Fields state (unshifted <<< 8)

/-! ### The layout of a surface -/

/-- The alignment of the base and of the rows. -/
def kGfx10AlignedLinearBaseAlignmentBytes : UInt32 := 256

/-- The layout of a surface whose rows are padded. -/
structure Gfx10AlignedLinear2dLayout where
  width : UInt32
  height : UInt32
  bytesPerElement : UInt32
  pitchAlignmentPixels : UInt32
  pitchPixels : UInt32
  pitchBytes : UInt64
  baseAlignmentBytes : UInt32
  surfaceByteCount : UInt64
  deriving DecidableEq

/-- Why a surface has no layout. -/
inductive Gfx10AlignedLinear2dLayoutErrorCode where
  | zeroDimension
  | zeroElementSize
  | unsupportedElementSize
  | pitchAlignmentOverflow
  | pitchOverflow
  | surfaceSizeOverflow
  deriving DecidableEq

/-- A surface that has no layout. -/
structure Gfx10AlignedLinear2dLayoutError where
  code : Gfx10AlignedLinear2dLayoutErrorCode
  width : UInt32
  height : UInt32
  bytesPerElement : UInt32
  deriving DecidableEq

/-- `std::numeric_limits<std::uint32_t>::max()`. -/
def kU32Max : UInt32 := 0xffffffff

/-- `compute_gfx10_aligned_linear_2d_layout`. -/
def computeGfx10AlignedLinear2dLayout (width height bytesPerElement : UInt32) :
    Except Gfx10AlignedLinear2dLayoutError Gfx10AlignedLinear2dLayout := do
  let layoutError (code : Gfx10AlignedLinear2dLayoutErrorCode) : Gfx10AlignedLinear2dLayoutError :=
    ⟨code, width, height, bytesPerElement⟩
  refuseIf (width = 0 ∨ height = 0) (layoutError .zeroDimension)
  refuseIf (bytesPerElement = 0) (layoutError .zeroElementSize)
  refuseIf (bytesPerElement > kGfx10AlignedLinearBaseAlignmentBytes ∨
    kGfx10AlignedLinearBaseAlignmentBytes % bytesPerElement ≠ 0)
      (layoutError .unsupportedElementSize)
  let pitchAlignment := kGfx10AlignedLinearBaseAlignmentBytes / bytesPerElement
  refuseIf (pitchAlignment = 0) (layoutError .pitchAlignmentOverflow)
  let remainder := width % pitchAlignment
  let padding := if remainder = 0 then 0 else pitchAlignment - remainder
  refuseIf (width > kU32Max - padding) (layoutError .pitchOverflow)
  let pitchPixels := width + padding
  let pitchBytes ← orRefuse (checkedMultiply pitchPixels.toUInt64 bytesPerElement.toUInt64)
    (layoutError .pitchOverflow)
  let surfaceBytes ← orRefuse (checkedMultiply pitchBytes height.toUInt64)
    (layoutError .surfaceSizeOverflow)
  return ⟨width, height, bytesPerElement, pitchAlignment, pitchPixels, pitchBytes,
    kGfx10AlignedLinearBaseAlignmentBytes, surfaceBytes⟩

/-! ### The image -/

/-- The formats of images. -/
inductive GuestGpuImageFormat where
  | r8g8b8a8Unorm
  deriving DecidableEq

/-- The kinds of layouts. -/
inductive GuestGpuSurfaceLayoutKind where
  | gfx10AlignedLinear
  deriving DecidableEq

/-- How the pixels of an image lie in memory. -/
structure GuestGpuSurfaceLayout where
  kind : GuestGpuSurfaceLayoutKind
  pitchPixels : UInt32
  pitchBytes : UInt32
  baseAlignmentBytes : UInt32
  surfaceByteCount : UInt64
  deriving DecidableEq

/-- An image in the memory of the guest. -/
structure GuestGpuImageDescriptor where
  baseAddress : UInt64
  format : GuestGpuImageFormat
  width : UInt32
  height : UInt32
  bytesPerPixel : UInt32
  logicalByteCount : UInt64
  layout : GuestGpuSurfaceLayout
  deriving DecidableEq

/-- The format of four bytes for each pixel. -/
def kGfx10ColorFormatR8G8B8A8 : UInt8 := 10

/-- The numbers are normalized. -/
def kGfx10ColorNumberUnorm : UInt8 := 0

/-- The components are in their order. -/
def kGfx10ColorSwapStandard : UInt8 := 0

/-- The pixels are in their order. -/
def kGfx10ColorSwizzleLinear : UInt8 := 0

/-- The image is flat. -/
def kGfx10ResourceType2d : UInt8 := 1

/-- The bytes of a pixel. -/
def kGfx10R8G8B8A8BytesPerPixel : UInt32 := 4

/-- Why a color target is no image. -/
inductive Gfx10ColorTargetImageErrorCode where
  | unsupportedEndian
  | unsupportedFormat
  | unsupportedNumberType
  | unsupportedComponentSwap
  | linearGeneralNotSupported
  | fastClearNotSupported
  | compressionNotSupported
  | fmaskNotSupported
  | dccNotSupported
  | cmaskNotSupported
  | nbcTilingNotSupported
  | unsupportedSwizzleMode
  | unsupportedResourceType
  | logicalSizeOverflow
  | surfaceLayoutFailure
  | pitchUnrepresentable
  | baseAddressMisaligned
  deriving DecidableEq

/-- A color target that is no image, with the field it is about. -/
structure Gfx10ColorTargetImageError where
  code : Gfx10ColorTargetImageErrorCode
  actualValue : UInt64 := 0
  surfaceLayoutError : Option Gfx10AlignedLinear2dLayoutError := none
  deriving DecidableEq

/-- The features of a colour target that an image cannot have. -/
def checkColorTargetFeatures (target : ColorTarget0ContextState) :
    Except Gfx10ColorTargetImageError Unit := do
  refuseIf (target.endian ≠ 0) { code := .unsupportedEndian, actualValue := target.endian.toUInt64 }
  refuseIf (target.format ≠ kGfx10ColorFormatR8G8B8A8)
    { code := .unsupportedFormat, actualValue := target.format.toUInt64 }
  refuseIf (target.numberType ≠ kGfx10ColorNumberUnorm)
    { code := .unsupportedNumberType, actualValue := target.numberType.toUInt64 }
  refuseIf (target.componentSwap ≠ kGfx10ColorSwapStandard)
    { code := .unsupportedComponentSwap, actualValue := target.componentSwap.toUInt64 }
  refuseIf (target.linearGeneral = true)
    { code := .linearGeneralNotSupported, actualValue := target.rawInfo.toUInt64 }
  refuseIf (target.fastClear = true)
    { code := .fastClearNotSupported, actualValue := target.rawInfo.toUInt64 }
  refuseIf (target.compression = true)
    { code := .compressionNotSupported, actualValue := target.rawInfo.toUInt64 }
  refuseIf (target.fmaskCompressionDisable = true ∨ target.fmaskCompressOneFragment = true)
    { code := .fmaskNotSupported, actualValue := target.rawInfo.toUInt64 }
  refuseIf (target.dccEnabled = true)
    { code := .dccNotSupported, actualValue := target.rawInfo.toUInt64 }
  refuseIf (target.cmaskIsLinear = true ∨ target.cmaskAddressType ≠ 0)
    { code := .cmaskNotSupported, actualValue := target.rawInfo.toUInt64 }
  refuseIf (target.nbcTiling = true)
    { code := .nbcTilingNotSupported, actualValue := target.rawInfo.toUInt64 }
  refuseIf (target.colorSwMode ≠ kGfx10ColorSwizzleLinear)
    { code := .unsupportedSwizzleMode, actualValue := target.colorSwMode.toUInt64 }
  refuseIf (target.resourceType ≠ kGfx10ResourceType2d)
    { code := .unsupportedResourceType, actualValue := target.resourceType.toUInt64 }

/-- `plan_gfx10_linear_rgba8_unorm_color_target_image`. -/
def planGfx10LinearRgba8UnormColorTargetImage (target : ColorTarget0ContextState) :
    Except Gfx10ColorTargetImageError GuestGpuImageDescriptor := do
  checkColorTargetFeatures target
  let logicalPixels ← orRefuse (checkedMultiply target.width.toUInt64 target.height.toUInt64)
    { code := .logicalSizeOverflow }
  let logicalBytes ← orRefuse (checkedMultiply logicalPixels kGfx10R8G8B8A8BytesPerPixel.toUInt64)
    { code := .logicalSizeOverflow }
  let layout ← (computeGfx10AlignedLinear2dLayout target.width target.height
      kGfx10R8G8B8A8BytesPerPixel).mapError fun e =>
    (⟨.surfaceLayoutFailure, 0, some e⟩ : Gfx10ColorTargetImageError)
  refuseIf (layout.pitchBytes > kU32Max.toUInt64)
    { code := .pitchUnrepresentable, actualValue := layout.pitchBytes }
  refuseIf (target.baseAddress % layout.baseAlignmentBytes.toUInt64 ≠ 0)
    { code := .baseAddressMisaligned, actualValue := target.baseAddress }
  return {
    baseAddress := target.baseAddress
    format := .r8g8b8a8Unorm
    width := target.width
    height := target.height
    bytesPerPixel := kGfx10R8G8B8A8BytesPerPixel
    logicalByteCount := logicalBytes
    layout :=
      ⟨.gfx10AlignedLinear, layout.pitchPixels, layout.pitchBytes.toUInt32,
        layout.baseAlignmentBytes,
        layout.surfaceByteCount⟩ }

/-! ### The registry of images -/

/-- An image that was registered, and its bytes. -/
structure GuestGpuImageView where
  id : UInt64
  allocationId : UInt64
  allocationByteOffset : UInt64
  descriptor : GuestGpuImageDescriptor
  deriving DecidableEq

/-- Why an image is refused. -/
inductive GuestGpuImageRegistrationErrorCode where
  | zeroDimension
  | zeroBytesPerPixel
  | logicalSizeOverflow
  | logicalSizeMismatch
  | zeroPitch
  | pitchSizeOverflow
  | pitchSizeMismatch
  | pitchSmallerThanWidth
  | zeroBaseAlignment
  | misalignedBaseAddress
  | zeroSurfaceSize
  | surfaceSizeOverflow
  | surfaceSizeMismatch
  | allocationResolutionFailure
  | hostSizeUnrepresentable
  | hostAllocationFailure
  deriving DecidableEq

/-- An image that is refused. -/
structure GuestGpuImageRegistrationError where
  code : GuestGpuImageRegistrationErrorCode
  allocationResolutionError : Option GuestGpuAllocationResolutionError := none
  deriving DecidableEq

/-- The images that were registered. -/
structure GuestGpuImageRegistry where
  views : List GuestGpuImageView
  deriving DecidableEq

/-- The checks of a descriptor, before its surface is resolved. -/
def checkDescriptor (descriptor : GuestGpuImageDescriptor) :
    Except GuestGpuImageRegistrationError Unit := do
  refuseIf (descriptor.width = 0 ∨ descriptor.height = 0) { code := .zeroDimension }
  refuseIf (descriptor.bytesPerPixel = 0) { code := .zeroBytesPerPixel }
  let pixelCount ← orRefuse (checkedMultiply descriptor.width.toUInt64 descriptor.height.toUInt64)
    { code := .logicalSizeOverflow }
  let expectedLogicalBytes ← orRefuse (checkedMultiply pixelCount descriptor.bytesPerPixel.toUInt64)
    { code := .logicalSizeOverflow }
  refuseIf (descriptor.logicalByteCount ≠ expectedLogicalBytes) { code := .logicalSizeMismatch }
  refuseIf (descriptor.layout.pitchPixels = 0 ∨ descriptor.layout.pitchBytes = 0)
    { code := .zeroPitch }
  refuseIf (descriptor.layout.pitchPixels < descriptor.width) { code := .pitchSmallerThanWidth }
  let expectedPitchBytes ← orRefuse
    (checkedMultiply descriptor.layout.pitchPixels.toUInt64 descriptor.bytesPerPixel.toUInt64)
      { code := .pitchSizeOverflow }
  refuseIf (expectedPitchBytes > kU32Max.toUInt64) { code := .pitchSizeOverflow }
  refuseIf (descriptor.layout.pitchBytes.toUInt64 ≠ expectedPitchBytes)
    { code := .pitchSizeMismatch }
  refuseIf (descriptor.layout.baseAlignmentBytes = 0) { code := .zeroBaseAlignment }
  refuseIf (descriptor.baseAddress % descriptor.layout.baseAlignmentBytes.toUInt64 ≠ 0)
    { code := .misalignedBaseAddress }
  refuseIf (descriptor.layout.surfaceByteCount = 0) { code := .zeroSurfaceSize }
  let expectedSurfaceBytes ← orRefuse
    (checkedMultiply descriptor.layout.pitchBytes.toUInt64 descriptor.height.toUInt64)
      { code := .surfaceSizeOverflow }
  refuseIf (descriptor.layout.surfaceByteCount ≠ expectedSurfaceBytes)
    { code := .surfaceSizeMismatch }

/-- The view a registration makes. -/
def GuestGpuImageRegistry.makeView (host : Host) (registry : GuestGpuImageRegistry)
    (descriptor : GuestGpuImageDescriptor) (allocations : GuestGpuAllocationAddressSpace) :
    Except GuestGpuImageRegistrationError GuestGpuImageView := do
  checkDescriptor descriptor
  let allocation ← (allocations.resolveRange descriptor.baseAddress
      descriptor.layout.surfaceByteCount).mapError fun e =>
    (⟨.allocationResolutionFailure, some e⟩ : GuestGpuImageRegistrationError)
  allocate host .gpuImageView { code := .hostAllocationFailure }
    { code := .hostSizeUnrepresentable }
  return ⟨UInt64.ofNat registry.views.length, allocation.allocationId, allocation.byteOffset,
    descriptor⟩

/-- `GuestGpuImageRegistry::register_view`: the id of the view, and the views afterwards. -/
def GuestGpuImageRegistry.registerView (host : Host) (registry : GuestGpuImageRegistry)
    (descriptor : GuestGpuImageDescriptor) (allocations : GuestGpuAllocationAddressSpace) :
    Except GuestGpuImageRegistrationError UInt64 × GuestGpuImageRegistry :=
  match registry.makeView host descriptor allocations with
  | .error e => (.error e, registry)
  | .ok view => (.ok view.id, ⟨registry.views ++ [view]⟩)

/-! ### What is planned is registered -/

/-- The descriptor of a surface, in numbers: rows of whole pixels, each as long as the pitch, one
behind the other from an aligned base. -/
structure WellFormedSurface (descriptor : GuestGpuImageDescriptor) : Prop where
  width : 0 < descriptor.width.toNat
  height : 0 < descriptor.height.toNat
  bytesPerPixel : descriptor.bytesPerPixel = 4
  logicalByteCount : descriptor.logicalByteCount.toNat =
    descriptor.width.toNat * descriptor.height.toNat * 4
  pitchPixels : descriptor.width.toNat ≤ descriptor.layout.pitchPixels.toNat
  pitchBytes : descriptor.layout.pitchBytes.toNat = descriptor.layout.pitchPixels.toNat * 4
  baseAlignment : descriptor.layout.baseAlignmentBytes = 256
  aligned : descriptor.baseAddress % 256 = 0
  surfaceByteCount : descriptor.layout.surfaceByteCount.toNat =
    descriptor.layout.pitchBytes.toNat * descriptor.height.toNat

theorem ne_zero_of_toNat_pos {word : UInt32} (h : 0 < word.toNat) : word ≠ 0 :=
  fun h0 => by simp [h0] at h

theorem computeLayout_eq_ok {width height : UInt32} {layout : Gfx10AlignedLinear2dLayout}
    (h : computeGfx10AlignedLinear2dLayout width height kGfx10R8G8B8A8BytesPerPixel = .ok layout) :
    0 < width.toNat ∧ 0 < height.toNat ∧ width.toNat ≤ layout.pitchPixels.toNat ∧
      layout.pitchBytes.toNat = layout.pitchPixels.toNat * 4 ∧ layout.baseAlignmentBytes = 256 ∧
      layout.surfaceByteCount.toNat = layout.pitchBytes.toNat * height.toNat := by
  simp only [computeGfx10AlignedLinear2dLayout, bind_eq_ok, refuseIf_eq_ok, orRefuse_eq_ok,
    pure_eq_ok, not_or] at h
  obtain ⟨-, ⟨hwidth, hheight⟩, -, -, -, -, -, -, -, hpitch, pitchBytes, hpitchBytes, surfaceBytes,
    hsurface, rfl⟩ := h
  have hle : ∀ padding : UInt32, ¬ width > kU32Max - padding →
      width.toNat ≤ (width + padding).toNat := by
    intro padding hpadding
    rw [gt_iff_lt, UInt32.lt_iff_toNat_lt, UInt32.toNat_sub_of_le _ _ (by
      rw [UInt32.le_iff_toNat_le]
      have := padding.toNat_lt
      show padding.toNat ≤ 2 ^ 32 - 1
      omega)] at hpadding
    have hmax : kU32Max.toNat = 2 ^ 32 - 1 := rfl
    have := padding.toNat_lt
    rw [UInt32.toNat_add]
    omega
  refine ⟨?_, ?_, hle _ hpitch, checkedMultiply_eq_some hpitchBytes, rfl,
    checkedMultiply_eq_some hsurface⟩
  · exact Nat.pos_of_ne_zero fun h0 => hwidth (UInt32.toNat_inj.mp h0)
  · exact Nat.pos_of_ne_zero fun h0 => hheight (UInt32.toNat_inj.mp h0)

/-- **What is planned is well formed.** -/
theorem wellFormedSurface_of_plan {target : ColorTarget0ContextState}
    {descriptor : GuestGpuImageDescriptor}
    (h : planGfx10LinearRgba8UnormColorTargetImage target = .ok descriptor) :
    WellFormedSurface descriptor := by
  simp only [planGfx10LinearRgba8UnormColorTargetImage, bind_eq_ok, refuseIf_eq_ok, orRefuse_eq_ok,
    mapError_eq_ok, pure_eq_ok, not_not] at h
  obtain ⟨-, -, logicalPixels, hpixels, logicalBytes, hbytes, layout, hlayout, -, hrepresentable, -,
    haligned, rfl⟩ := h
  obtain ⟨hwidth, hheight, hpitchPixels, hpitchBytes, halignment, hsurface⟩ :=
    computeLayout_eq_ok hlayout
  have hpitch : layout.pitchBytes.toUInt32.toNat = layout.pitchBytes.toNat := by
    rw [UInt64.toNat_toUInt32, Nat.mod_eq_of_lt]
    have := UInt64.le_iff_toNat_le.mp (UInt64.not_lt.mp hrepresentable)
    have hmax : kU32Max.toUInt64.toNat = 2 ^ 32 - 1 := rfl
    omega
  have hlogical : logicalBytes.toNat = target.width.toNat * target.height.toNat * 4 := by
    rw [checkedMultiply_eq_some hbytes, checkedMultiply_eq_some hpixels]
    rfl
  rw [halignment] at haligned
  exact ⟨hwidth, hheight, rfl, hlogical, hpitchPixels, hpitch.trans hpitchBytes, halignment,
    haligned, hsurface.trans (congrArg (· * target.height.toNat) hpitch.symm)⟩

namespace WellFormedSurface

variable {descriptor : GuestGpuImageDescriptor}

section

variable (h : WellFormedSurface descriptor)

include h

theorem pitchBytes_pos : 0 < descriptor.layout.pitchBytes.toNat := by
  have := h.width
  have := h.pitchPixels
  rw [h.pitchBytes]
  omega

theorem surfaceByteCount_pos : 0 < descriptor.layout.surfaceByteCount.toNat := by
  rw [h.surfaceByteCount]
  exact Nat.mul_pos h.pitchBytes_pos h.height

/-- **A well-formed surface passes every check.** -/
theorem checkDescriptor : checkDescriptor descriptor = .ok () := by
  have hpixels : descriptor.width.toUInt64.toNat * descriptor.height.toUInt64.toNat < 2 ^ 64 := by
    have hw := descriptor.width.toNat_lt
    have hh := descriptor.height.toNat_lt
    calc descriptor.width.toNat * descriptor.height.toNat < 2 ^ 32 * 2 ^ 32 :=
      Nat.mul_lt_mul'' hw hh
      _ = 2 ^ 64 := by decide
  have hbytes : (descriptor.width.toUInt64 * descriptor.height.toUInt64).toNat *
      descriptor.bytesPerPixel.toUInt64.toNat < 2 ^ 64 := by
    rw [toNat_mul_of_lt hpixels, h.bytesPerPixel]
    exact lt_of_le_of_lt h.logicalByteCount.ge descriptor.logicalByteCount.toNat_lt
  have hpitch : descriptor.layout.pitchPixels.toUInt64.toNat *
      descriptor.bytesPerPixel.toUInt64.toNat < 2 ^ 64 := by
    rw [h.bytesPerPixel]
    exact lt_of_le_of_lt h.pitchBytes.ge
      (lt_trans descriptor.layout.pitchBytes.toNat_lt (by decide))
  have hsurface : descriptor.layout.pitchBytes.toUInt64.toNat * descriptor.height.toUInt64.toNat <
      2 ^ 64 :=
    lt_of_le_of_lt h.surfaceByteCount.ge descriptor.layout.surfaceByteCount.toNat_lt
  have hpitchEq : descriptor.layout.pitchBytes.toUInt64 =
      descriptor.layout.pitchPixels.toUInt64 * descriptor.bytesPerPixel.toUInt64 := by
    rw [← UInt64.toNat_inj, toNat_mul_of_lt hpitch, h.bytesPerPixel]
    exact h.pitchBytes
  simp only [Graphics.checkDescriptor, bind_eq_ok, refuseIf_eq_ok, orRefuse_eq_ok, not_or, not_not]
  have hextent := And.intro (ne_zero_of_toNat_pos h.width) (ne_zero_of_toNat_pos h.height)
  have hpixelCount := checkedMultiply_of_lt hpixels
  have hlogical := checkedMultiply_of_lt hbytes
  have hpitchBytes := checkedMultiply_of_lt hpitch
  have hsurfaceBytes := checkedMultiply_of_lt hsurface
  refine ⟨(), hextent, (), ?_, _, hpixelCount, _, hlogical, (), ?_, (),
    ⟨?_, ne_zero_of_toNat_pos h.pitchBytes_pos⟩, (), ?_, _, hpitchBytes, (), ?_, (), hpitchEq, (),
    ?_, (), ?_, (), ?_, _, hsurfaceBytes, ?_⟩
  · rw [h.bytesPerPixel]
    decide
  · rw [← UInt64.toNat_inj, toNat_mul_of_lt hbytes, toNat_mul_of_lt hpixels, h.bytesPerPixel]
    exact h.logicalByteCount
  · exact ne_zero_of_toNat_pos (lt_of_lt_of_le h.width h.pitchPixels)
  · rw [UInt32.lt_iff_toNat_lt]
    exact Nat.not_lt.mpr h.pitchPixels
  · rw [← hpitchEq, gt_iff_lt, UInt64.lt_iff_toNat_lt]
    have := descriptor.layout.pitchBytes.toNat_lt
    show ¬ 2 ^ 32 - 1 < descriptor.layout.pitchBytes.toNat
    omega
  · rw [h.baseAlignment]
    decide
  · rw [h.baseAlignment]
    exact h.aligned
  · exact fun h0 => absurd h.surfaceByteCount_pos (by simp [h0])
  · rw [← UInt64.toNat_inj, toNat_mul_of_lt hsurface]
    exact h.surfaceByteCount

theorem pixel_lt {x y k : ℕ} (hx : x < descriptor.width.toNat) (hy : y < descriptor.height.toNat)
    (hk : k < 4) :
    y * descriptor.layout.pitchBytes.toNat + x * 4 + k <
      descriptor.layout.surfaceByteCount.toNat := by
  have hrow : x * 4 + k < descriptor.layout.pitchBytes.toNat := by
    have := h.pitchPixels
    rw [h.pitchBytes]
    omega
  have hrows : (y + 1) * descriptor.layout.pitchBytes.toNat ≤
      descriptor.height.toNat * descriptor.layout.pitchBytes.toNat :=
    Nat.mul_le_mul_right _ hy
  rw [h.surfaceByteCount, Nat.mul_comm descriptor.layout.pitchBytes.toNat]
  rw [Nat.add_mul, Nat.one_mul] at hrows
  omega

end

end WellFormedSurface

/-- What a registration of a planned view comes to: the lookup of its surface, and the entry of the
view. -/
theorem makeView_eq {descriptor : GuestGpuImageDescriptor} (h : WellFormedSurface descriptor)
    (host : Host) (registry : GuestGpuImageRegistry)
    (allocations : GuestGpuAllocationAddressSpace) :
    registry.makeView host descriptor allocations = do
      let allocation ← (allocations.resolveRange descriptor.baseAddress
        descriptor.layout.surfaceByteCount).mapError fun e =>
        (⟨.allocationResolutionFailure, some e⟩ : GuestGpuImageRegistrationError)
      allocate host .gpuImageView { code := .hostAllocationFailure }
        { code := .hostSizeUnrepresentable }
      return ⟨UInt64.ofNat registry.views.length, allocation.allocationId, allocation.byteOffset,
        descriptor⟩ := by
  rw [GuestGpuImageRegistry.makeView, h.checkDescriptor]
  rfl

/-- **The colour-target pipeline hands over only well-formed views.** What the resolver and the
planner let through passes every check of the registry of images. Its registration can fail only
because the lookup of its surface fails, with the error of the lookup, or because the host cannot
keep one more view; and when it succeeds, every byte of every pixel lies in the allocation the view
names. -/
theorem colorTarget_registers (state : ContextRegisterState) (descriptor : GuestGpuImageDescriptor)
    (hplanned : ∃ target, resolveColorTarget0ContextState state = .ok target ∧
      planGfx10LinearRgba8UnormColorTargetImage target = .ok descriptor)
    (host : Host) (registry : GuestGpuImageRegistry) (calls : List GpuRegistration) :
    checkDescriptor descriptor = .ok () ∧
    (∀ e, (registry.registerView host descriptor (GuestGpuAllocationAddressSpace.run calls)).1 =
      .error e →
    (∃ cause, (GuestGpuAllocationAddressSpace.run calls).resolveRange descriptor.baseAddress
      descriptor.layout.surfaceByteCount = .error cause ∧
    e = ⟨.allocationResolutionFailure, some cause⟩) ∨
    (host.allocation .gpuImageView = some .badAlloc ∧ e = { code := .hostAllocationFailure }) ∨
    (host.allocation .gpuImageView = some .lengthError ∧
      e = { code := .hostSizeUnrepresentable })) ∧
    ∀ id, (registry.registerView host descriptor (GuestGpuAllocationAddressSpace.run calls)).1 =
      .ok id →
      ∃ view allocation,
        (registry.registerView host descriptor (GuestGpuAllocationAddressSpace.run calls)).2.views =
          registry.views ++ [view] ∧
        view.id = id ∧ view.descriptor = descriptor ∧
        (GuestGpuAllocationAddressSpace.run calls).allocations[view.allocationId.toNat]? =
          some allocation ∧
        view.allocationByteOffset.toNat = descriptor.baseAddress.toNat - allocation.base.toNat ∧
        ∀ x < descriptor.width.toNat, ∀ y < descriptor.height.toNat, ∀ k <
          descriptor.bytesPerPixel.toNat,
          allocation.base.toNat ≤
              descriptor.baseAddress.toNat +
                (y * descriptor.layout.pitchBytes.toNat + x * descriptor.bytesPerPixel.toNat + k) ∧
            descriptor.baseAddress.toNat +
              (y * descriptor.layout.pitchBytes.toNat + x * descriptor.bytesPerPixel.toNat + k) <
              allocation.base.toNat + allocation.byteSize.toNat := by
  obtain ⟨target, -, hplan⟩ := hplanned
  have hsurface := wellFormedSurface_of_plan hplan
  have hspace := GuestGpuAllocationAddressSpace.wellFormed_run calls
  rw [GuestGpuImageRegistry.registerView, makeView_eq hsurface]
  refine ⟨hsurface.checkDescriptor, ?_⟩
  cases hlookup : (GuestGpuAllocationAddressSpace.run calls).resolveRange descriptor.baseAddress
      descriptor.layout.surfaceByteCount with
  | error cause =>
    refine ⟨?_, nofun⟩
    rintro _ ⟨⟩
    exact .inl ⟨cause, rfl, rfl⟩
  | ok resolution =>
    cases hhost : host.allocation .gpuImageView with
    | some failure =>
      cases failure <;> simp only [allocate, hhost]
      · refine ⟨?_, nofun⟩
        rintro _ ⟨⟩
        exact .inr (.inl ⟨trivial, rfl⟩)
      · refine ⟨?_, nofun⟩
        rintro _ ⟨⟩
        exact .inr (.inr ⟨trivial, rfl⟩)
    | none =>
      simp only [allocate, hhost]
      refine ⟨nofun, ?_⟩
      rintro _ ⟨⟩
      have houtcome : (GuestGpuAllocationAddressSpace.run calls).outcome descriptor.baseAddress
          descriptor.layout.surfaceByteCount =
            .found resolution.allocationId resolution.byteOffset resolution.byteCount := by
        rw [GuestGpuAllocationAddressSpace.outcome, hlookup]
      obtain ⟨base, byteSize, hregion, hcontains, hoffset, -⟩ :=
        (hspace.rangeLaw.found _ _ _ _ _
          (UInt64.lt_iff_toNat_lt.mpr hsurface.surfaceByteCount_pos)).mp houtcome
      rw [GuestGpuAllocationAddressSpace.regions, List.getElem?_map] at hregion
      obtain ⟨allocation, hallocation, heq⟩ := Option.map_eq_some_iff.mp hregion
      obtain ⟨rfl, rfl⟩ := Prod.mk.inj heq
      refine ⟨_, allocation, rfl, rfl, rfl, hallocation, hoffset, ?_⟩
      intro x hx y hy k hk
      rw [hsurface.bytesPerPixel] at hk ⊢
      have hpixel := hsurface.pixel_lt hx hy hk
      obtain ⟨hlow, hhigh⟩ := hcontains
      show allocation.base.toNat ≤ descriptor.baseAddress.toNat +
        (y * descriptor.layout.pitchBytes.toNat + x * 4 + k) ∧
        descriptor.baseAddress.toNat + (y * descriptor.layout.pitchBytes.toNat + x * 4 + k) < _
      dsimp only at hlow hhigh
      omega

/-! ### A target of 64 by 64 pixels -/

/-- The registers of a target of 64 by 64 pixels at `0x10000`. -/
def smallTargetState : ContextRegisterState :=
  RegisterState.initial.replay
    [⟨0x8e, [0xf]⟩, ⟨0x318, [0x100]⟩, ⟨0x31c, [0x28]⟩, ⟨0x390, [0]⟩, ⟨0x3b0, [0xfc03f]⟩,
      ⟨0x3b8, [0x1000000]⟩]

/-- The image of that target. -/
def smallTargetImage : GuestGpuImageDescriptor :=
  ⟨0x10000, .r8g8b8a8Unorm, 64, 64, 4, 0x4000, ⟨.gfx10AlignedLinear, 64, 256, 256, 0x4000⟩⟩

theorem smallTarget_planned :
    ∃ target, resolveColorTarget0ContextState smallTargetState = .ok target ∧
    planGfx10LinearRgba8UnormColorTargetImage target = .ok smallTargetImage :=
  ⟨colorTarget0Fields smallTargetState 0x10000, by decide +kernel, by decide +kernel⟩

/-- An allocation that holds it. -/
def smallTargetCalls : List GpuRegistration := [⟨Host.plentiful, 0x8000, 0x10000⟩]

theorem colorTarget_registers_small :
    (GuestGpuImageRegistry.registerView Host.plentiful ⟨[]⟩ smallTargetImage
        (GuestGpuAllocationAddressSpace.run smallTargetCalls)).1 = .ok 0 ∧
      ∃ view allocation,
        (GuestGpuImageRegistry.registerView Host.plentiful ⟨[]⟩ smallTargetImage
          (GuestGpuAllocationAddressSpace.run smallTargetCalls)).2.views = [view] ∧
        (GuestGpuAllocationAddressSpace.run
          smallTargetCalls).allocations[view.allocationId.toNat]? = some allocation ∧
        ∀ x < 64, ∀ y < 64, ∀ k < 4, allocation.base.toNat ≤ 0x10000 + (y * 256 + x * 4 + k) ∧
          0x10000 + (y * 256 + x * 4 + k) < allocation.base.toNat + allocation.byteSize.toNat := by
  have hok : (GuestGpuImageRegistry.registerView Host.plentiful ⟨[]⟩ smallTargetImage
      (GuestGpuAllocationAddressSpace.run smallTargetCalls)).1 = .ok 0 := by decide +kernel
  obtain ⟨view, allocation, hviews, -, -, hallocation, -, hpixels⟩ :=
    (colorTarget_registers smallTargetState smallTargetImage smallTarget_planned Host.plentiful
      ⟨[]⟩ smallTargetCalls).2.2 0 hok
  exact ⟨hok, view, allocation, hviews, hallocation, hpixels⟩

/-- A host that has no room for another view. -/
def fullHost : Host := ⟨fun site => if site = .gpuImageView then some .badAlloc else none, 2 ^ 48⟩

/-- On such a host the view is refused although its surface is found. -/
theorem colorTarget_registers_fullHost :
    (∃ target, resolveColorTarget0ContextState smallTargetState = .ok target ∧
      planGfx10LinearRgba8UnormColorTargetImage target = .ok smallTargetImage) ∧
    (GuestGpuAllocationAddressSpace.run smallTargetCalls).resolveRange smallTargetImage.baseAddress
      smallTargetImage.layout.surfaceByteCount = .ok ⟨0, 0x8000, 0x4000⟩ ∧
    (GuestGpuImageRegistry.registerView fullHost ⟨[]⟩ smallTargetImage
      (GuestGpuAllocationAddressSpace.run smallTargetCalls)).1 =
        .error { code := .hostAllocationFailure } :=
  ⟨smallTarget_planned, by decide +kernel, by decide +kernel⟩

end Astraea.Graphics
