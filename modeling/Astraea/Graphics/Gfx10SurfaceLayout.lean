import Astraea.Base.RowMajor
import Astraea.Graphics.ColorTarget

/-!
# Aligned linear surfaces

A linear surface has its rows one behind the other. The rows are padded such that each begins at
a multiple of the base alignment, and `compute_gfx10_aligned_linear_2d_layout` says how long they
are and how large the surface is, or refuses dimensions for which this does not fit in a word.

`gfx10AlignedLinear2dLayout_exact` says when there is a layout, that its rows are as short
as they can be, and that no two pixels share a byte.
-/

namespace Astraea.Graphics

open Astraea.Base

/-! ### What the words stand for -/

section Words

variable {width height bytesPerElement : UInt32} {layout : Gfx10AlignedLinear2dLayout}

/-- The number of pixels a row is padded to a multiple of. -/
def pitchStep (bytesPerElement : UInt32) : ℕ := 256 / bytesPerElement.toNat

/-- The pixels of a row: the width, padded. -/
def paddedWidth (width bytesPerElement : UInt32) : ℕ :=
  width.toNat + paddingTo (pitchStep bytesPerElement) width.toNat

theorem pitchStep_spec (h : bytesPerElement.toNat ∣ 256) :
    0 < pitchStep bytesPerElement ∧ pitchStep bytesPerElement ≤ 256 ∧
    pitchStep bytesPerElement * bytesPerElement.toNat = 256 := by
  obtain ⟨k, hk⟩ := h
  have hpos : 0 < bytesPerElement.toNat := by
    rcases Nat.eq_zero_or_pos bytesPerElement.toNat with hzero | hpos
    · rw [hzero, Nat.zero_mul] at hk
      cases hk
    · exact hpos
  have hstep : pitchStep bytesPerElement = k := by
    rw [pitchStep, hk, Nat.mul_div_cancel_left _ hpos]
  rw [hstep]
  refine ⟨?_, Nat.le_of_dvd (by decide) ⟨_, by rw [hk, Nat.mul_comm]⟩, by rw [hk, Nat.mul_comm]⟩
  rcases Nat.eq_zero_or_pos k with hzero | hkpos
  · rw [hzero, Nat.mul_zero] at hk
    cases hk
  · exact hkpos

/-- The checks of the element size want one that divides the base alignment. -/
theorem supportedElementSize_iff :
    (¬ bytesPerElement = 0 ∧ ¬ (bytesPerElement > kGfx10AlignedLinearBaseAlignmentBytes ∨
      kGfx10AlignedLinearBaseAlignmentBytes % bytesPerElement ≠ 0)) ↔
      bytesPerElement.toNat ∣ 256 := by
  have hmod : kGfx10AlignedLinearBaseAlignmentBytes % bytesPerElement = 0 ↔
      bytesPerElement.toNat ∣ 256 := by
    rw [← UInt32.toNat_inj, UInt32.toNat_mod]
    exact (Nat.dvd_iff_mod_eq_zero ..).symm
  rw [not_or, not_not, hmod]
  constructor
  · exact fun h => h.2.2
  · intro h
    refine ⟨?_, ?_, h⟩
    · rintro rfl
      exact absurd h (by decide)
    · rw [gt_iff_lt, UInt32.lt_iff_toNat_lt, Nat.not_lt]
      exact Nat.le_of_dvd (by decide) h

theorem padding_words (h : bytesPerElement.toNat ∣ 256) :
    let pitchAlignment := kGfx10AlignedLinearBaseAlignmentBytes / bytesPerElement
    let remainder := width % pitchAlignment
    let padding := if remainder = 0 then 0 else pitchAlignment - remainder
    pitchAlignment.toNat = pitchStep bytesPerElement ∧
      padding.toNat = paddingTo (pitchStep bytesPerElement) width.toNat ∧
      (width > kU32Max - padding ↔ 2 ^ 32 ≤ paddedWidth width bytesPerElement) ∧
      (paddedWidth width bytesPerElement < 2 ^ 32 →
        (width + padding).toNat = paddedWidth width bytesPerElement) := by
  intro pitchAlignment remainder padding
  obtain ⟨hpos, hle, -⟩ := pitchStep_spec h
  have halignment : pitchAlignment.toNat = pitchStep bytesPerElement := UInt32.toNat_div _ _
  have hremainder : remainder.toNat = width.toNat % pitchStep bytesPerElement := by
    rw [← halignment]
    exact UInt32.toNat_mod _ _
  have hlt := Nat.mod_lt width.toNat hpos
  have hpadding : padding.toNat = paddingTo (pitchStep bytesPerElement) width.toNat := by
    have hzero : remainder = 0 ↔ width.toNat % pitchStep bytesPerElement = 0 := by
      rw [← hremainder, ← UInt32.toNat_inj]
      rfl
    by_cases hmod : remainder = 0
    · rw [paddingTo, if_pos (hzero.mp hmod)]
      change (if remainder = 0 then 0 else pitchAlignment - remainder).toNat = 0
      rw [if_pos hmod]
      rfl
    · rw [paddingTo, if_neg (fun heq => hmod (hzero.mpr heq))]
      change (if remainder = 0 then 0 else pitchAlignment - remainder).toNat = _
      rw [if_neg hmod, UInt32.toNat_sub_of_le _ _ (by rw [UInt32.le_iff_toNat_le]; omega),
        halignment, hremainder]
  have hsmall : paddingTo (pitchStep bytesPerElement) width.toNat ≤ 256 := by
    unfold paddingTo
    split_ifs
    · exact Nat.zero_le _
    · omega
  refine ⟨halignment, hpadding, ?_, ?_⟩
  · rw [gt_iff_lt, UInt32.lt_iff_toNat_lt,
      UInt32.toNat_sub_of_le _ _
      (by rw [UInt32.le_iff_toNat_le, hpadding]; exact hsmall.trans (by decide)), hpadding,
      paddedWidth, show kU32Max.toNat = 2 ^ 32 - 1 from rfl]
    omega
  · intro hfits
    rw [UInt32.toNat_add, hpadding]
    exact Nat.mod_eq_of_lt hfits

/-- The layout of a surface, in numbers. -/
structure LayoutOf (width height bytesPerElement : UInt32) (layout : Gfx10AlignedLinear2dLayout) :
    Prop where
  sameWidth : layout.width = width
  sameHeight : layout.height = height
  sameElementSize : layout.bytesPerElement = bytesPerElement
  pitchAlignmentPixels : layout.pitchAlignmentPixels.toNat = pitchStep bytesPerElement
  pitchPixels : layout.pitchPixels.toNat = paddedWidth width bytesPerElement
  pitchBytes : layout.pitchBytes.toNat = paddedWidth width bytesPerElement * bytesPerElement.toNat
  baseAlignmentBytes : layout.baseAlignmentBytes = kGfx10AlignedLinearBaseAlignmentBytes
  surfaceByteCount : layout.surfaceByteCount.toNat =
    paddedWidth width bytesPerElement * bytesPerElement.toNat * height.toNat

/-- The dimensions are not zero, the element size divides the base alignment, the padded width
fits in 32 bits and the surface in 64. -/
structure HasLayout (width height bytesPerElement : UInt32) : Prop where
  columns : width ≠ 0
  rows : height ≠ 0
  elementSize : bytesPerElement.toNat ∣ 256
  pitchFits : paddedWidth width bytesPerElement < 2 ^ 32
  surfaceFits : paddedWidth width bytesPerElement * bytesPerElement.toNat * height.toNat < 2 ^ 64

/-- **Surfaces that have a layout get it.** -/
theorem HasLayout.compute (h : HasLayout width height bytesPerElement) :
    ∃ layout, computeGfx10AlignedLinear2dLayout width height bytesPerElement = .ok layout ∧
      LayoutOf width height bytesPerElement layout := by
  obtain ⟨halignment, -, hover, hsum⟩ := @padding_words width _ h.elementSize
  obtain ⟨hzero, hsupported⟩ := supportedElementSize_iff.mpr h.elementSize
  have hpixels := hsum h.pitchFits
  have hheight : 0 < height.toNat := by
    rcases Nat.eq_zero_or_pos height.toNat with heq | hpos
    · exact absurd (UInt32.toNat_inj.mp heq) h.rows
    · exact hpos
  have hpitch : paddedWidth width bytesPerElement * bytesPerElement.toNat < 2 ^ 64 :=
    (Nat.le_mul_of_pos_right _ hheight).trans_lt h.surfaceFits
  obtain ⟨pitchBytes, hpitchBytes, hpitchNat⟩ := @exists_checkedMultiply
    (width + if width % (kGfx10AlignedLinearBaseAlignmentBytes / bytesPerElement) = 0 then 0 else
      kGfx10AlignedLinearBaseAlignmentBytes / bytesPerElement -
        width % (kGfx10AlignedLinearBaseAlignmentBytes / bytesPerElement)).toUInt64
    bytesPerElement.toUInt64 (by rwa [UInt32.toNat_toUInt64, UInt32.toNat_toUInt64, hpixels])
  rw [UInt32.toNat_toUInt64, UInt32.toNat_toUInt64, hpixels] at hpitchNat
  obtain ⟨surfaceBytes, hsurfaceBytes, hsurfaceNat⟩ :=
    @exists_checkedMultiply pitchBytes height.toUInt64
    (by rw [hpitchNat, UInt32.toNat_toUInt64]; exact h.surfaceFits)
  rw [UInt32.toNat_toUInt64, hpitchNat] at hsurfaceNat
  -- the words of the layout, of which the padded width is in `hpixels`
  refine ⟨⟨width, height, bytesPerElement, kGfx10AlignedLinearBaseAlignmentBytes / bytesPerElement,
      _, pitchBytes, kGfx10AlignedLinearBaseAlignmentBytes, surfaceBytes⟩,
    ?_, rfl, rfl, rfl, halignment, hpixels, hpitchNat, rfl, hsurfaceNat⟩
  simp only [computeGfx10AlignedLinear2dLayout, bind_eq_ok, refuseIf_eq_ok, orRefuse_eq_ok,
    pure_eq_ok]
  refine ⟨(), not_or.mpr ⟨h.columns, h.rows⟩, (), hzero, (), hsupported, (), ?_, (), ?_, pitchBytes,
    hpitchBytes, surfaceBytes, hsurfaceBytes, rfl⟩
  · intro heq
    have hpos := (pitchStep_spec h.elementSize).1
    rw [← halignment, heq] at hpos
    exact absurd hpos (by decide)
  · rw [hover]
    exact Nat.not_le.mpr h.pitchFits

/-- **No other surface has one.** -/
theorem hasLayout_of_compute
    (h : computeGfx10AlignedLinear2dLayout width height bytesPerElement = .ok layout) :
    HasLayout width height bytesPerElement := by
  simp only [computeGfx10AlignedLinear2dLayout, bind_eq_ok, refuseIf_eq_ok, orRefuse_eq_ok,
    pure_eq_ok] at h
  obtain ⟨_, hdimensions, _, hzero, _, hsupported, _, -, _, hfits, pitchBytes, hpitchBytes,
    surfaceBytes, hsurfaceBytes, -⟩ := h
  have hdvd := supportedElementSize_iff.mp ⟨hzero, hsupported⟩
  obtain ⟨-, -, hover, hsum⟩ := @padding_words width _ hdvd
  rw [hover, Nat.not_le] at hfits
  have hpitch := checkedMultiply_eq_some hpitchBytes
  have hsurface := checkedMultiply_eq_some hsurfaceBytes
  rw [UInt32.toNat_toUInt64, UInt32.toNat_toUInt64, hsum hfits] at hpitch
  rw [UInt32.toNat_toUInt64, hpitch] at hsurface
  obtain ⟨hwidth, hheight⟩ := not_or.mp hdimensions
  exact ⟨hwidth, hheight, hdvd, hfits, hsurface ▸ surfaceBytes.toNat_lt⟩

end Words

/-! ### Pixels -/

/-- **Aligned linear layouts are minimal, and pixels do not share bytes.** There is a layout
exactly when the dimensions are not zero, the element size divides the base alignment, the least
multiple of the pitch alignment that has room for a row fits in 32 bits, and the surface fits in
64. This multiple is the pitch, its bytes are a multiple of the base alignment, and the pixels of
the rectangle have bytes of their own inside the surface. -/
theorem gfx10AlignedLinear2dLayout_exact (width height bytesPerElement : UInt32) :
    ((∃ layout, computeGfx10AlignedLinear2dLayout width height bytesPerElement = .ok layout) ↔
      width ≠ 0 ∧ height ≠ 0 ∧ bytesPerElement.toNat ∣ kGfx10AlignedLinearBaseAlignmentBytes.toNat ∧
        ∃ pitch, IsLeast {n | kGfx10AlignedLinearBaseAlignmentBytes.toNat / bytesPerElement.toNat ∣
          n ∧ width.toNat ≤ n} pitch ∧
          pitch < 2 ^ 32 ∧ pitch * bytesPerElement.toNat * height.toNat < 2 ^ 64) ∧
    ∀ layout, computeGfx10AlignedLinear2dLayout width height bytesPerElement = .ok layout →
      IsLeast {n | kGfx10AlignedLinearBaseAlignmentBytes.toNat / bytesPerElement.toNat ∣ n ∧
        width.toNat ≤ n}
        layout.pitchPixels.toNat ∧
      layout.pitchBytes.toNat = layout.pitchPixels.toNat * bytesPerElement.toNat ∧
      kGfx10AlignedLinearBaseAlignmentBytes.toNat ∣ layout.pitchBytes.toNat ∧
      layout.surfaceByteCount.toNat = height.toNat * layout.pitchBytes.toNat ∧
      ∀ x < width.toNat, ∀ y < height.toNat,
        (cell layout.pitchBytes.toNat bytesPerElement.toNat x y).start + bytesPerElement.toNat ≤
          layout.surfaceByteCount.toNat ∧
        ∀ x' < width.toNat, ∀ y' < height.toNat, (x, y) ≠ (x', y') →
          ¬ (cell layout.pitchBytes.toNat bytesPerElement.toNat x y).Meets
            (cell layout.pitchBytes.toNat bytesPerElement.toNat x' y') := by
  have hleast : bytesPerElement.toNat ∣ 256 →
      IsLeast {n | 256 / bytesPerElement.toNat ∣ n ∧ width.toNat ≤ n}
        (paddedWidth width bytesPerElement) :=
    fun hdvd => isLeast_padded (pitchStep_spec hdvd).1
  refine ⟨⟨?_, ?_⟩, ?_⟩
  · rintro ⟨layout, hlayout⟩
    have hfits := hasLayout_of_compute hlayout
    exact ⟨hfits.columns, hfits.rows, hfits.elementSize, _, hleast hfits.elementSize,
      hfits.pitchFits, hfits.surfaceFits⟩
  · rintro ⟨hwidth, hheight, hdvd, pitch, hpitch, hfits, hsurface⟩
    obtain rfl := hpitch.unique (hleast hdvd)
    obtain ⟨layout, hlayout, -⟩ := HasLayout.compute ⟨hwidth, hheight, hdvd, hfits, hsurface⟩
    exact ⟨layout, hlayout⟩
  · intro layout hlayout
    have hfits := hasLayout_of_compute hlayout
    obtain ⟨other, hother, hof⟩ := hfits.compute
    rw [hlayout] at hother
    cases hother
    have hpadded := hleast hfits.elementSize
    obtain ⟨-, -, hstep⟩ := pitchStep_spec hfits.elementSize
    have hpitch : layout.pitchBytes.toNat = layout.pitchPixels.toNat * bytesPerElement.toNat := by
      rw [hof.pitchBytes, hof.pitchPixels]
    have hsurface : layout.surfaceByteCount.toNat = height.toNat * layout.pitchBytes.toNat := by
      rw [hof.surfaceByteCount, hof.pitchBytes, Nat.mul_comm]
    have hrow : width.toNat * bytesPerElement.toNat ≤ layout.pitchBytes.toNat := by
      rw [hof.pitchBytes]
      exact Nat.mul_le_mul_right _ hpadded.1.2
    refine ⟨?_, hpitch, ?_, hsurface, ?_⟩
    · rw [hof.pitchPixels]
      exact hpadded
    · rw [hof.pitchBytes]
      obtain ⟨k, hk⟩ := hpadded.1.1
      refine ⟨k, ?_⟩
      calc paddedWidth width bytesPerElement * bytesPerElement.toNat
          = pitchStep bytesPerElement * k * bytesPerElement.toNat := by rw [hk, pitchStep]
        _ = pitchStep bytesPerElement * bytesPerElement.toNat * k := by ring
        _ = 256 * k := by rw [hstep]
    · intro x hx y hy
      refine ⟨?_, ?_⟩
      · rw [hsurface]
        exact cell_inside hx hy hrow
      · intro x' hx' y' _ hne
        exact cell_apart hx hx' hrow hne

end Astraea.Graphics
