import Astraea.Base.Coalesce
import Astraea.Execution.WindowsMemory

/-!
# The ranges that are reserved

`build_reservation_ranges` rounds the regions of a plan out to blocks of the allocation
granularity, sorts the ranges and merges those that touch.

The ranges are intervals, and the loop that merges them is `coalesce`
(`mergeReservations_coalesce`). The facts about intervals then say what the ranges are:
`buildReservationRanges_exact`. The ends of the ranges are sums of words. A second form of the loop
checks each of these sums, and `buildReservationRangesChecked_eq` says that the check never fails.
-/

namespace Astraea.Execution

open Astraea.Base Astraea.Memory Astraea.Loader

/-! ### Sums that are checked -/

/-- `mergeReservations` with nothing as its result when one of its sums passes `2 ^ 64 - 1`. -/
def mergeReservationsChecked : (previous : GuestRange) → List GuestRange →
    Option (Except NativeBackendError (List GuestRange))
  | previous, [] => some (.ok [previous])
  | previous, range :: rest => do
    let previousEnd ← checkedAdd previous.base.value previous.size.value
    let rangeEnd ← checkedAdd range.base.value range.size.value
    if range.base.value > previousEnd then
      let merged ← mergeReservationsChecked range rest
      some (merged.map (previous :: ·))
    else
      let mergedEnd := max previousEnd rangeEnd
      match GuestRange.create previous.base ⟨mergedEnd - previous.base.value⟩ with
      | .error _ => some (.error (reservationError previous.base.value))
      | .ok merged => mergeReservationsChecked merged rest

/-- `build_reservation_ranges` with the sums of its last loop checked. -/
def buildReservationRangesChecked (plan : ExecutionMemoryPlan) (granularity : UInt64) :
    Option (Except NativeBackendError (List GuestRange)) :=
  if isPowerOfTwo granularity = false then some (.error { code := .hostPageArithmeticOverflow })
  else
    match (plan.regions.filter fun region => !region.range.empty).mapM
      (reservationRange granularity) with
    | .error e => some (.error e)
    | .ok ranges =>
      match sortByKey (fun a b : UInt64 => decide (a ≤ b))
        (fun range : GuestRange => range.base.value) ranges with
      | [] => some (.ok [])
      | first :: rest => mergeReservationsChecked first rest

/-! ### The loop -/

/-- A range by its first address and the address behind it. -/
def rangeEnds (range : GuestRange) : ℕ × ℕ := (range.base.toNat, range.last)

section Merging

variable {previous range merged : GuestRange} {ranges : List GuestRange}

theorem merging_words (hprevious : ReservationFits previous) (hrange : ReservationFits range) :
    checkedAdd previous.base.value previous.size.value =
      some (previous.base.value + previous.size.value) ∧
      checkedAdd range.base.value range.size.value = some (range.base.value + range.size.value) ∧
      (range.base.value > previous.base.value + previous.size.value ↔
        (rangeEnds previous).2 < (rangeEnds range).1) := by
  refine ⟨checkedAdd_of_lt hprevious.below, checkedAdd_of_lt hrange.below, ?_⟩
  rw [gt_iff_lt, UInt64.lt_iff_toNat_lt, toNat_end hprevious]
  rfl

/-- Two ranges that fit are merged to the interval of both. -/
theorem exists_merged_ends (hprevious : ReservationFits previous) (hrange : ReservationFits range) :
    ∃ merged, GuestRange.create previous.base
        ⟨max (previous.base.value + previous.size.value)
          (range.base.value + range.size.value) - previous.base.value⟩ =
          .ok merged ∧ ReservationFits merged ∧
      rangeEnds merged = ((rangeEnds previous).1,
        max (rangeEnds previous).2 (rangeEnds range).2) := by
  obtain ⟨merged, hcreate, hfits, hbase⟩ := exists_merged hprevious hrange
  refine ⟨merged, hcreate, hfits, ?_⟩
  obtain ⟨-, hsize⟩ := GuestRange.create_eq_ok hcreate
  have hmax :
    (max (previous.base.value + previous.size.value) (range.base.value + range.size.value)).toNat =
      max previous.last range.last := by
    rw [toNat_max, toNat_end hprevious, toNat_end hrange]
  have hlast : previous.last = previous.base.value.toNat + previous.size.toNat := rfl
  have hle : previous.base.value ≤
      max (previous.base.value + previous.size.value) (range.base.value + range.size.value) := by
    rw [UInt64.le_iff_toNat_le, hmax]
    omega
  have hwords := UInt64.toNat_sub_of_le _ _ hle
  rw [hmax] at hwords
  refine Prod.ext (congrArg GuestAddress.toNat hbase) ?_
  change merged.base.toNat + merged.size.toNat = max previous.last range.last
  rw [hbase, hsize, GuestSize.toNat_mk, hwords, GuestAddress.toNat]
  omega

/-- **The loop merges intervals**, and its sums stay words. -/
theorem mergeReservations_coalesce (hprevious : ReservationFits previous)
    (hranges : ∀ range ∈ ranges, ReservationFits range) :
    ∃ merged, mergeReservations previous ranges = .ok merged ∧
      mergeReservationsChecked previous ranges = some (.ok merged) ∧
      merged.map rangeEnds = coalesce (rangeEnds previous) (ranges.map rangeEnds) := by
  induction ranges generalizing previous with
  | nil => exact ⟨[previous], rfl, rfl, rfl⟩
  | cons range ranges ih =>
    rw [List.forall_mem_cons] at hranges
    obtain ⟨hend, hrangeEnd, hgap⟩ := merging_words hprevious hranges.1
    rw [mergeReservations, mergeReservationsChecked, hend, Option.bind_eq_bind, Option.bind_some,
      hrangeEnd, Option.bind_eq_bind, Option.bind_some, List.map_cons, coalesce]
    by_cases hbehind : range.base.value > previous.base.value + previous.size.value
    · obtain ⟨merged, hmerged, hchecked, hmap⟩ := ih hranges.1 hranges.2
      refine ⟨previous :: merged, ?_, ?_, ?_⟩
      · rw [if_pos hbehind, hmerged]
        rfl
      · rw [if_pos hbehind, hchecked]
        rfl
      · rw [if_pos (hgap.mp hbehind), List.map_cons, hmap]
    · obtain ⟨both, hcreate, hfits, hboth⟩ := exists_merged_ends hprevious hranges.1
      obtain ⟨merged, hmerged, hchecked, hmap⟩ := ih hfits hranges.2
      refine ⟨merged, ?_, ?_, ?_⟩
      · rw [if_neg hbehind]
        dsimp only
        rw [hcreate, mapError_ok, ok_bind, hmerged]
      · rw [if_neg hbehind]
        dsimp only
        rw [hcreate]
        exact hchecked
      · rw [if_neg (hgap.not.mp hbehind), hmap, hboth]

end Merging

/-! ### Blocks -/

/-- The region has an address in the block. -/
def TouchesBlock (granularity : UInt64) (block : ℕ) (range : GuestRange) : Prop :=
  ∃ address, range.base.toNat ≤ address ∧ address < range.last ∧ address / granularity.toNat = block

section Blocks

variable {granularity : UInt64} {range : GuestRange} {block : ℕ}

/-- The blocks a region touches are those from the one of its first address to the one of its last.
-/
theorem touchesBlock_iff (hpos : 0 < range.size.toNat) (hgranularity : 0 < granularity.toNat) :
    TouchesBlock granularity block range ↔
      range.base.toNat / granularity.toNat ≤ block ∧
      block ≤ (range.last - 1) / granularity.toNat := by
  have hlast : range.last = range.base.toNat + range.size.toNat := rfl
  constructor
  · rintro ⟨address, hlow, hhigh, rfl⟩
    exact ⟨Nat.div_le_div_right hlow, Nat.div_le_div_right (by omega)⟩
  · rintro ⟨hlow, hhigh⟩
    rcases Nat.eq_or_lt_of_le hlow with rfl | hlt
    · exact ⟨range.base.toNat, le_rfl, by omega, rfl⟩
    · refine ⟨block * granularity.toNat, ?_, ?_, Nat.mul_div_cancel _ hgranularity⟩
      · have := (Nat.div_lt_iff_lt_mul hgranularity).mp hlt
        omega
      · have := (Nat.le_div_iff_mul_le hgranularity).mp hhigh
        omega

theorem TouchesBlock.positive (h : TouchesBlock granularity block range) :
    0 < range.size.toNat := by
  obtain ⟨address, hlow, hhigh, -⟩ := h
  rw [GuestRange.last] at hhigh
  omega

/-- The rounded region fits unless the region touches the topmost block. -/
theorem rounded_fits_iff (hpower : isPowerOfTwo granularity = true) (hpos : 0 < range.size.toNat) :
    ((range.last - 1) / granularity.toNat + 1) * granularity.toNat < 2 ^ 64 ↔
      ¬ TouchesBlock granularity (2 ^ 64 / granularity.toNat - 1) range := by
  have hgranularity := isPowerOfTwo_pos hpower
  obtain ⟨blocks, hblocks⟩ := dvd_two_pow_64 hpower
  have hle := range.last_le
  have htop : (range.last - 1) / granularity.toNat < blocks := by
    rw [Nat.div_lt_iff_lt_mul hgranularity, Nat.mul_comm, ← hblocks]
    omega
  have hbase : range.base.toNat / granularity.toNat ≤ (range.last - 1) / granularity.toNat := by
    refine Nat.div_le_div_right ?_
    rw [GuestRange.last]
    omega
  have hfits : ((range.last - 1) / granularity.toNat + 1) * granularity.toNat < 2 ^ 64 ↔
      (range.last - 1) / granularity.toNat + 1 < blocks := by
    rw [hblocks, Nat.mul_comm, Nat.mul_lt_mul_left hgranularity]
  rw [hfits, touchesBlock_iff hpos hgranularity, hblocks, Nat.mul_div_cancel_left _ hgranularity]
  generalize range.base.toNat / granularity.toNat = low at *
  generalize (range.last - 1) / granularity.toNat = high at *
  omega

end Blocks

/-! ### The ranges of a plan -/

section Ranges

variable {plan : ExecutionMemoryPlan} {granularity : UInt64}

/-- A region rounded out to blocks. -/
structure RoundedRegion (granularity : UInt64) (region : ExecutionMemoryRegion)
    (range : GuestRange) : Prop where
  fits : ReservationFits range
  base : range.base.toNat = region.range.base.toNat / granularity.toNat * granularity.toNat
  last : range.last = ((region.range.last - 1) / granularity.toNat + 1) * granularity.toNat

variable {region : ExecutionMemoryRegion} {address : ℕ}

/-- The addresses of the rounded region are those in the blocks that the region touches. -/
theorem RoundedRegion.covers_iff {range : GuestRange} (h : RoundedRegion granularity region range)
    (hpos : 0 < region.range.size.toNat) (hgranularity : 0 < granularity.toNat) :
    SpanCovers (rangeEnds range) address ↔
    TouchesBlock granularity (address / granularity.toNat) region.range := by
  rw [touchesBlock_iff hpos hgranularity, SpanCovers, rangeEnds, h.base, h.last,
    Nat.le_div_iff_mul_le hgranularity, ← Nat.div_lt_iff_lt_mul hgranularity, Nat.lt_succ_iff]

theorem RoundedRegion.liesIn {range : GuestRange} (h : RoundedRegion granularity region range)
    (hgranularity : 0 < granularity.toNat) :
    LiesIn (rangeEnds region.range) (rangeEnds range) := by
  refine ⟨?_, ?_⟩
  · change range.base.toNat ≤ region.range.base.toNat
    rw [h.base]
    exact Nat.div_mul_le_self _ _
  · change region.range.last ≤ range.last
    have hbehind : region.range.last - 1 < (region.range.last - 1) / granularity.toNat *
        granularity.toNat + granularity.toNat :=
      Nat.lt_div_mul_add hgranularity
    rw [h.last, Nat.add_mul, Nat.one_mul]
    omega

/-- What a plan without a region in the topmost block is rounded out to. -/
structure RoundedPlan (granularity : UInt64) (plan : ExecutionMemoryPlan)
    (ranges : List GuestRange) : Prop where
  /-- Each nonempty region has its range. -/
  forth : ∀ region ∈ plan.regions, 0 < region.range.size.toNat →
    ∃ range ∈ ranges, RoundedRegion granularity region range
  /-- Each range has its region. -/
  back : ∀ range ∈ ranges, ∃ region ∈ plan.regions, 0 < region.range.size.toNat ∧
    RoundedRegion granularity region range

theorem mem_filter_nonempty :
    (region ∈ plan.regions.filter fun region => !region.range.empty) ↔ region ∈ plan.regions ∧
    0 < region.range.size.toNat := by
  rw [List.mem_filter, Bool.not_eq_true', ← Bool.not_eq_true, GuestRange.empty_iff,
    Nat.pos_iff_ne_zero]

/-- A plan without a region in the topmost block is rounded out. -/
theorem exists_roundedPlan (hpower : isPowerOfTwo granularity = true)
    (htop : ∀ region ∈ plan.regions,
      ¬ TouchesBlock granularity (2 ^ 64 / granularity.toNat - 1) region.range) :
    ∃ rounded, (plan.regions.filter fun region => !region.range.empty).mapM
      (reservationRange granularity) = .ok rounded ∧
      RoundedPlan granularity plan rounded := by
  have hturn : ∀ region ∈ plan.regions.filter fun region => !region.range.empty,
      ∃ range, reservationRange granularity region = .ok range ∧
        RoundedRegion granularity region range := by
    intro region hregion
    obtain ⟨hmem, hpos⟩ := mem_filter_nonempty.mp hregion
    obtain ⟨range, hok, hfits, hbase, hlast⟩ :=
      reservationRange_of_fits (isPowerOfTwo_pos hpower) hpos
      ((rounded_fits_iff hpower hpos).mpr (htop region hmem))
    exact ⟨range, hok, hfits, hbase, hlast⟩
  have hspec : ∀ region ∈ plan.regions.filter fun region => !region.range.empty, ∀ range,
      reservationRange granularity region = .ok range → RoundedRegion granularity region range := by
    intro region hregion range hok
    obtain ⟨found, hfound, hrounded⟩ := hturn region hregion
    rw [hok] at hfound
    cases hfound
    exact hrounded
  obtain ⟨rounded, hrounded⟩ :=
    exists_mapM_eq_ok fun region hregion => (hturn region hregion).imp fun _ h => h.1
  obtain ⟨hforth, hback⟩ := mem_of_mapM_eq_ok hrounded
  refine ⟨rounded, hrounded, ?_, ?_⟩
  · intro region hregion hpos
    have hmem := mem_filter_nonempty.mpr ⟨hregion, hpos⟩
    obtain ⟨range, hrange, hok⟩ := hforth region hmem
    exact ⟨range, hrange, hspec region hmem range hok⟩
  · intro range hrange
    obtain ⟨region, hmem, hok⟩ := hback range hrange
    obtain ⟨hregion, hpos⟩ := mem_filter_nonempty.mp hmem
    exact ⟨region, hregion, hpos, hspec region hmem range hok⟩

/-- Ranges by their ends are the merged intervals of a sorted list of the rounded ones. -/
theorem exists_sorted_ends {rounded : List GuestRange}
    (h : ∀ range ∈ rounded, ReservationFits range) :
    ∃ ranges, (match sortByKey (fun a b : UInt64 => decide (a ≤ b))
      (fun range : GuestRange => range.base.value) rounded with
        | [] => pure []
        | first :: rest => mergeReservations first rest) = Except.ok ranges ∧
      (match sortByKey (fun a b : UInt64 => decide (a ≤ b))
        (fun range : GuestRange => range.base.value) rounded with
        | [] => some (.ok [])
        | first :: rest => mergeReservationsChecked first rest) = some (.ok ranges) ∧
      (rounded = [] ∧ ranges = [] ∨
        ∃ first rest, (∀ ends, ends ∈ first :: rest ↔ ∃ range ∈ rounded, rangeEnds range = ends) ∧
        (first :: rest).Pairwise (fun a b => a.1 ≤ b.1) ∧
        ranges.map rangeEnds = coalesce first rest) := by
  have hsorted :=
    ordersKeys_word.pairwise_sortByKey (fun range : GuestRange => range.base.value) rounded
  have hperm := sortByKey_perm (fun a b : UInt64 => decide (a ≤ b))
    (fun range : GuestRange => range.base.value) rounded
  generalize sortByKey (fun a b : UInt64 => decide (a ≤ b))
    (fun range : GuestRange => range.base.value) rounded = sorted
    at hsorted hperm ⊢
  cases sorted with
  | nil => exact ⟨[], rfl, rfl, .inl ⟨hperm.symm.eq_nil, rfl⟩⟩
  | cons first rest =>
    simp only [← hperm.mem_iff] at h ⊢
    rw [List.forall_mem_cons] at h
    obtain ⟨ranges, hranges, hchecked, hmap⟩ := mergeReservations_coalesce h.1 h.2
    refine ⟨ranges, hranges, hchecked, .inr ⟨rangeEnds first, rest.map rangeEnds, ?_, ?_, hmap⟩⟩
    · intro ends
      rw [← List.map_cons, List.mem_map]
    · rw [← List.map_cons, List.pairwise_map]
      refine hsorted.imp ?_
      intro a b hab
      rw [decide_eq_true_eq] at hab
      exact UInt64.le_iff_toNat_le.mp hab

/-- A plan with a region in the topmost block is not rounded out. -/
theorem mapM_of_touches (hpower : isPowerOfTwo granularity = true)
    (h : ∃ region ∈ plan.regions,
      TouchesBlock granularity (2 ^ 64 / granularity.toNat - 1) region.range) :
    ∃ e, (plan.regions.filter fun region => !region.range.empty).mapM
      (reservationRange granularity) = .error e := by
  obtain ⟨region, hregion, htouches⟩ := h
  have hpos := htouches.positive
  obtain ⟨e, he⟩ := @reservationRange_of_overflow granularity region hpos
    (Nat.le_of_not_lt ((rounded_fits_iff hpower hpos).not.mpr (not_not.mpr htouches)))
  cases hrounded : (plan.regions.filter fun region => !region.range.empty).mapM
    (reservationRange granularity) with
  | error e => exact ⟨e, rfl⟩
  | ok rounded =>
    obtain ⟨range, -, hok⟩ :=
      (mem_of_mapM_eq_ok hrounded).1 region (mem_filter_nonempty.mpr ⟨hregion, hpos⟩)
    rw [he] at hok
    cases hok

/-- What the ranges are. -/
structure RangesOf (granularity : UInt64) (plan : ExecutionMemoryPlan) (ranges : List GuestRange) :
    Prop where
  aligned : ∀ range ∈ ranges, 0 < range.size.toNat ∧ granularity.toNat ∣ range.base.toNat ∧
    granularity.toNat ∣ range.size.toNat
  separate : ranges.Pairwise fun a b => a.last + granularity.toNat ≤ b.base.toNat
  covers : ∀ address, (∃ range ∈ ranges, address ∈ range) ↔
    ∃ region ∈ plan.regions, TouchesBlock granularity (address / granularity.toNat) region.range
  holds : ∀ region ∈ plan.regions, 0 < region.range.size.toNat →
    ∃! range, range ∈ ranges ∧ range.base.toNat ≤ region.range.base.toNat ∧
      region.range.last ≤ range.last

theorem covers_rangeEnds {range : GuestRange} :
    SpanCovers (rangeEnds range) address ↔ address ∈ range :=
  GuestRange.mem_def.symm

theorem rangeEnds_injective {range range' : GuestRange} (h : rangeEnds range = rangeEnds range') :
    range = range' := by
  obtain ⟨hbase, hlast⟩ := Prod.mk.inj h
  refine GuestRange.ext_toNat hbase ?_
  rw [GuestRange.last, GuestRange.last] at hlast
  omega

theorem RoundedPlan.rangesOf {rounded ranges : List GuestRange}
    (h : RoundedPlan granularity plan rounded) (hgranularity : 0 < granularity.toNat)
    {first : ℕ × ℕ} {rest : List (ℕ × ℕ)}
    (hends : ∀ ends, ends ∈ first :: rest ↔ ∃ range ∈ rounded, rangeEnds range = ends)
    (hsorted : (first :: rest).Pairwise fun a b => a.1 ≤ b.1)
    (hmap : ranges.map rangeEnds = coalesce first rest) :
    RangesOf granularity plan ranges := by
  have hmem : ∀ ends, ends ∈ coalesce first rest ↔ ∃ range ∈ ranges, rangeEnds range = ends := by
    intro ends
    rw [← hmap, List.mem_map]
  have hapart := coalesce_apart hsorted
  have hnonempty : ∀ inner ∈ first :: rest, inner.1 < inner.2 := by
    intro inner hinner
    obtain ⟨range, hrange, rfl⟩ := (hends inner).mp hinner
    obtain ⟨_, -, -, hspec⟩ := h.back range hrange
    exact Nat.lt_add_of_pos_right hspec.fits.positive
  have haligned : ∀ range ∈ ranges, granularity.toNat ∣ range.base.toNat ∧
      granularity.toNat ∣ range.last := by
    intro range hrange
    obtain ⟨⟨low, hlow, hbase⟩, high, hhigh, hlast⟩ :=
      ends_of_mem_coalesce ((hmem _).mpr ⟨range, hrange, rfl⟩)
    obtain ⟨lowRange, hlowRange, rfl⟩ := (hends low).mp hlow
    obtain ⟨highRange, hhighRange, rfl⟩ := (hends high).mp hhigh
    obtain ⟨_, -, -, hlowSpec⟩ := h.back lowRange hlowRange
    obtain ⟨_, -, -, hhighSpec⟩ := h.back highRange hhighRange
    change lowRange.base.toNat = range.base.toNat at hbase
    change highRange.last = range.last at hlast
    rw [← hbase, ← hlast, hlowSpec.base, hhighSpec.last]
    exact ⟨Nat.dvd_mul_left _ _, Nat.dvd_mul_left _ _⟩
  refine ⟨?_, ?_, ?_, ?_⟩
  · intro range hrange
    obtain ⟨hbase, hlast⟩ := haligned range hrange
    have hlt : range.base.toNat < range.base.toNat + range.size.toNat :=
      nonempty_of_mem_coalesce hnonempty ((hmem _).mpr ⟨range, hrange, rfl⟩)
    exact ⟨by omega, hbase, (Nat.dvd_add_right hbase).mp hlast⟩
  · rw [← hmap, List.pairwise_map] at hapart
    refine hapart.imp_of_mem ?_
    intro a b ha hb hlt
    obtain ⟨low, hlow⟩ := (haligned a ha).2
    obtain ⟨high, hhigh⟩ := (haligned b hb).1
    change a.last < b.base.toNat at hlt
    rw [hlow, hhigh] at hlt ⊢
    have hnext := Nat.mul_le_mul_left granularity.toNat (Nat.lt_of_mul_lt_mul_left hlt)
    rwa [Nat.mul_succ] at hnext
  · intro address
    have hpoints : (∃ outer ∈ coalesce first rest, SpanCovers outer address) ↔
        ∃ inner ∈ first :: rest, SpanCovers inner address :=
      coalesce_covers hsorted
    constructor
    · rintro ⟨range, hrange, haddress⟩
      obtain ⟨inner, hinner, hcovers⟩ :=
        hpoints.mp ⟨_, (hmem _).mpr ⟨range, hrange, rfl⟩, covers_rangeEnds.mpr haddress⟩
      obtain ⟨source, hsource, rfl⟩ := (hends inner).mp hinner
      obtain ⟨region, hregion, hpos, hspec⟩ := h.back source hsource
      exact ⟨region, hregion, (hspec.covers_iff hpos hgranularity).mp hcovers⟩
    · rintro ⟨region, hregion, htouches⟩
      obtain ⟨source, hsource, hspec⟩ := h.forth region hregion htouches.positive
      obtain ⟨outer, houter, hcovers⟩ := hpoints.mpr
        ⟨_, (hends _).mpr ⟨source, hsource, rfl⟩,
          (hspec.covers_iff htouches.positive hgranularity).mpr htouches⟩
      obtain ⟨range, hrange, rfl⟩ := (hmem outer).mp houter
      exact ⟨range, hrange, covers_rangeEnds.mp hcovers⟩
  · intro region hregion hpos
    obtain ⟨source, hsource, hspec⟩ := h.forth region hregion hpos
    obtain ⟨outer, houter, hlies⟩ :=
      exists_mem_coalesce hsorted ((hends _).mpr ⟨source, hsource, rfl⟩)
    obtain ⟨range, hrange, rfl⟩ := (hmem outer).mp houter
    refine ⟨range, ⟨hrange, (hspec.liesIn hgranularity).trans hlies⟩, ?_⟩
    rintro other ⟨hother, hothers⟩
    have hpoint : (rangeEnds region.range).1 < (rangeEnds region.range).2 :=
      Nat.lt_add_of_pos_right hpos
    exact rangeEnds_injective
      (eq_of_liesIn hapart hpoint ((hmem _).mpr ⟨other, hother, rfl⟩) houter hothers
      ((hspec.liesIn hgranularity).trans hlies))

theorem buildReservationRanges_of_rounded (hpower : isPowerOfTwo granularity = true)
    (htop : ∀ region ∈ plan.regions,
      ¬ TouchesBlock granularity (2 ^ 64 / granularity.toNat - 1) region.range) :
    ∃ ranges, buildReservationRanges plan granularity = .ok ranges ∧
      buildReservationRangesChecked plan granularity = some (.ok ranges) ∧
      RangesOf granularity plan ranges := by
  obtain ⟨rounded, hrounded, hplan⟩ := exists_roundedPlan hpower htop
  have hfits : ∀ range ∈ rounded, ReservationFits range := by
    intro range hrange
    obtain ⟨_, -, -, hspec⟩ := hplan.back range hrange
    exact hspec.fits
  obtain ⟨ranges, hranges, hchecked, hends⟩ := exists_sorted_ends hfits
  refine ⟨ranges, ?_, ?_, ?_⟩
  · rw [buildReservationRanges, refuseIf_of_not (by rw [hpower]; simp), ok_bind, hrounded, ok_bind]
    exact hranges
  · rw [buildReservationRangesChecked, if_neg (by rw [hpower]; simp), hrounded]
    exact hchecked
  · rcases hends with ⟨rfl, rfl⟩ | ⟨first, rest, hmem, hsorted, hmap⟩
    · have hnone : ∀ region ∈ plan.regions, ¬ 0 < region.range.size.toNat := by
        intro region hregion hpos
        obtain ⟨range, hrange, -⟩ := hplan.forth region hregion hpos
        cases hrange
      refine ⟨by simp, .nil, ?_, fun region hregion hpos => absurd hpos (hnone region hregion)⟩
      intro address
      refine ⟨by simp, ?_⟩
      rintro ⟨region, hregion, htouches⟩
      exact absurd htouches.positive (hnone region hregion)
    · exact hplan.rangesOf (isPowerOfTwo_pos hpower) hmem hsorted hmap

theorem buildReservationRanges_of_touches (hpower : isPowerOfTwo granularity = true)
    (h : ∃ region ∈ plan.regions,
      TouchesBlock granularity (2 ^ 64 / granularity.toNat - 1) region.range) :
    ∃ e, buildReservationRanges plan granularity = .error e ∧
      buildReservationRangesChecked plan granularity = some (.error e) := by
  obtain ⟨e, he⟩ := mapM_of_touches hpower h
  refine ⟨e, ?_, ?_⟩
  · rw [buildReservationRanges, refuseIf_of_not (by rw [hpower]; simp), ok_bind, he]
    rfl
  · rw [buildReservationRangesChecked, if_neg (by rw [hpower]; simp), he]

end Ranges

/-- **Reservation ranges are exact.** For every plan and every power of two there are ranges
exactly when no region touches the topmost block. They are aligned, at least a block apart, and
cover exactly the blocks that a region touches. Each region that is not empty lies in exactly one
of them, and no sum of the loop that merges them wraps. -/
theorem buildReservationRanges_exact (plan : ExecutionMemoryPlan) (granularity : UInt64)
    (hpower : isPowerOfTwo granularity = true) :
    ((∃ ranges, buildReservationRanges plan granularity = .ok ranges) ↔
      ¬ ∃ region ∈ plan.regions, TouchesBlock granularity
        (2 ^ 64 / granularity.toNat - 1) region.range) ∧
    (∀ ranges, buildReservationRanges plan granularity = .ok ranges →
      RangesOf granularity plan ranges) ∧
    buildReservationRangesChecked plan granularity =
      some (buildReservationRanges plan granularity) := by
  by_cases htop : ∃ region ∈ plan.regions,
    TouchesBlock granularity (2 ^ 64 / granularity.toNat - 1) region.range
  · obtain ⟨e, he, hchecked⟩ := buildReservationRanges_of_touches hpower htop
    rw [he, hchecked]
    refine ⟨⟨?_, fun hno => absurd htop hno⟩, ?_, rfl⟩
    · rintro ⟨ranges, hranges⟩
      cases hranges
    · intro ranges hranges
      cases hranges
  · obtain ⟨ranges, hranges, hchecked, hof⟩ := buildReservationRanges_of_rounded hpower
      (fun region hregion htouches => htop ⟨region, hregion, htouches⟩)
    rw [hranges, hchecked]
    refine ⟨⟨fun _ => htop, fun _ => ⟨ranges, rfl⟩⟩, ?_, rfl⟩
    intro found hfound
    cases hfound
    exact hof

/-- Two regions in neighbouring blocks, the later one first, and one far above them. -/
def neighbouringPlan : ExecutionMemoryPlan :=
  ⟨0x1000, [⟨⟨⟨0x18000⟩, ⟨0x1000⟩, by decide⟩, .only .read, []⟩,
    ⟨⟨⟨0x4000⟩, ⟨0x1000⟩, by decide⟩, .only .read, []⟩,
    ⟨⟨⟨0x400000⟩, ⟨0x1000⟩, by decide⟩, .only .read, []⟩]⟩

/-- The ranges of this plan, the first of which holds two regions. -/
theorem buildReservationRanges_neighbouring :
    ∃ ranges, buildReservationRanges neighbouringPlan 0x10000 = .ok ranges ∧
      RangesOf 0x10000 neighbouringPlan ranges ∧
      ranges.map rangeEnds = [(0, 0x20000), (0x400000, 0x410000)] := by
  have hbuild : (buildReservationRanges neighbouringPlan 0x10000).toOption.any (fun ranges =>
      decide (ranges.map rangeEnds = [(0, 0x20000), (0x400000, 0x410000)])) = true := by
    decide +kernel
  obtain ⟨ranges, hok, hends⟩ := exists_of_any hbuild
  exact ⟨ranges, hok, (buildReservationRanges_exact neighbouringPlan 0x10000 (by decide)).2.1 ranges
    hok, of_decide_eq_true hends⟩

/-- A plan with a region that has no address. -/
def emptyRegionPlan : ExecutionMemoryPlan :=
  ⟨0x1000, [⟨⟨⟨0x4000⟩, ⟨0⟩, by decide⟩, .only .read, []⟩]⟩

/-- A region without an address has no range around it. -/
theorem buildReservationRanges_emptyRegion :
    ¬ ∀ (plan : ExecutionMemoryPlan) (granularity : UInt64) (ranges : List GuestRange),
      isPowerOfTwo granularity = true →
      buildReservationRanges plan granularity = .ok ranges → ∀ region ∈ plan.regions,
        ∃! range, range ∈ ranges ∧ range.base.toNat ≤ region.range.base.toNat ∧
          region.range.last ≤ range.last := by
  intro hall
  have hbuild : buildReservationRanges emptyRegionPlan 0x10000 = .ok [] := by decide +kernel
  obtain ⟨range, ⟨hrange, -⟩, -⟩ :=
    hall emptyRegionPlan 0x10000 [] (by decide) hbuild _ List.mem_cons_self
  cases hrange

end Astraea.Execution
