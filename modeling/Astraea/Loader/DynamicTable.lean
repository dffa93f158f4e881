import Astraea.Base.Guarded
import Astraea.Loader.Dynamic

/-!
# What a dynamic table is

A dynamic segment is a row of entries of sixteen bytes, of which the first with tag zero is the
last that counts. `parseDynamicTable_scan` says when there is a table, what it is, that nothing
outside the segment or behind the terminator matters to it, and, by the parser with every read
looked up, that it is all read from the file.
-/

namespace Astraea.Loader

open Astraea.Base

/-! ### The parser with every read looked up -/

/-- `readDynamicEntry`, with every byte looked up. -/
def readDynamicEntryGuarded (bytes : List UInt8) (offset index : ℕ) :
    Except (Option DynamicError) DynamicEntry := do
  let tag ← wordWithin 8 bytes (offset + index * 16)
  let value ← wordWithin 8 bytes (offset + index * 16 + 8)
  return ⟨(UInt64.ofNat tag).toInt64, .ofNat value, index⟩

/-- `readDynamicEntries`, with every byte looked up. -/
def readDynamicEntriesGuarded (bytes : List UInt8) (offset : ℕ) :
    (count index : ℕ) → Except (Option DynamicError) (Option (List DynamicEntry))
  | 0, _ => .ok none
  | count + 1, index => do
    let entry ← readDynamicEntryGuarded bytes offset index
    if entry.tag = kDtNull then .ok (some [entry])
    else do
      let entries ← readDynamicEntriesGuarded bytes offset count (index + 1)
      return entries.map (entry :: ·)

/-- `parse_dynamic_table`, with every byte looked up. -/
def parseDynamicTableGuarded (bytes : List UInt8) (segment : ProgramHeader) :
    Except (Option DynamicError) DynamicTable := do
  refuseIf (segment.type ≠ kPtDynamic) (some ⟨.notDynamicSegment, none, segment.offset⟩)
  refuseIf (segment.fileSize = 0) (some ⟨.missingTerminator, none, segment.offset⟩)
  refuseIf (segment.fileSize % kDynamicEntrySize ≠ 0)
    (some ⟨.invalidSegmentSize, none, segment.offset⟩)
  let segmentEnd ← orRefuse (checkedAdd segment.offset segment.fileSize)
    (some (⟨.integerOverflow, none, segment.offset⟩ : DynamicError))
  refuseIf (segment.offset.toNat > bytes.length ∨ segmentEnd.toNat > bytes.length)
    (some ⟨.segmentOutOfBounds, none, segment.offset⟩)
  let entryCount := (segment.fileSize / kDynamicEntrySize).toNat
  let found ← readDynamicEntriesGuarded bytes segment.offset.toNat entryCount 0
  let entries ← orRefuse found
    (some (⟨.missingTerminator, some entryCount, segment.offset⟩ : DynamicError))
  return ⟨entries⟩

section Guarded

variable {bytes : List UInt8} {offset count index : ℕ}

theorem readDynamicEntryGuarded_eq (h : offset + (index + 1) * 16 ≤ bytes.length) :
    readDynamicEntryGuarded bytes offset index = .ok (readDynamicEntry bytes offset index) := by
  rw [readDynamicEntryGuarded, wordWithin_eq (by omega), ok_bind, wordWithin_eq (by omega), ok_bind]
  rfl

theorem readDynamicEntriesGuarded_eq (h : offset + (index + count) * 16 ≤ bytes.length) :
    readDynamicEntriesGuarded bytes offset count index =
      .ok (readDynamicEntries bytes offset count index) := by
  induction count generalizing index with
  | zero => rfl
  | succ count ih =>
    rw [readDynamicEntriesGuarded, readDynamicEntryGuarded_eq (by omega), ok_bind,
      readDynamicEntries]
    by_cases htag : (readDynamicEntry bytes offset index).tag = kDtNull
    · rw [if_pos htag, if_pos htag]
    · rw [if_neg htag, if_neg htag, ih (by omega)]
      rfl

end Guarded

/-! ### The scan -/

section Scan

variable {bytes : List UInt8} {offset count index : ℕ} {entries : List DynamicEntry}

theorem tag_readDynamicEntry_iff :
    (readDynamicEntry bytes offset index).tag = kDtNull ↔
    leAt 8 bytes (offset + index * 16) = 0 := by
  have hzero : (readDynamicEntry bytes offset index).tag = kDtNull ↔
      u64At bytes (offset + index * 16) = 0 := by
    constructor
    · intro h
      exact congrArg Int64.toUInt64 h
    · intro h
      rw [readDynamicEntry, h]
      rfl
  rw [hzero, ← UInt64.toNat_inj, toNat_u64At]
  rfl

theorem readDynamicEntries_eq_none : readDynamicEntries bytes offset count index = none ↔
    ∀ k < count, leAt 8 bytes (offset + (index + k) * 16) ≠ 0 := by
  induction count generalizing index with
  | zero => simp [readDynamicEntries]
  | succ count ih =>
    rw [readDynamicEntries]
    by_cases htag : (readDynamicEntry bytes offset index).tag = kDtNull
    · rw [if_pos htag]
      refine ⟨fun h => (by cases h), fun h => absurd (tag_readDynamicEntry_iff.mp htag) ?_⟩
      exact h 0 (Nat.zero_lt_succ _)
    · rw [if_neg htag, Option.map_eq_none_iff, ih]
      rw [tag_readDynamicEntry_iff] at htag
      constructor
      · intro h k hk
        cases k with
        | zero => exact htag
        | succ k =>
          have hnext := h k (by omega)
          rwa [show index + 1 + k = index + (k + 1) by omega] at hnext
      · intro h k hk
        rw [show index + 1 + k = index + (k + 1) by omega]
        exact h (k + 1) (by omega)

/-- The loop stops at the first entry with tag zero, and has collected all up to it. -/
theorem readDynamicEntries_eq_some
    (h : readDynamicEntries bytes offset count index = some entries) :
    ∃ last < count, leAt 8 bytes (offset + (index + last) * 16) = 0 ∧
      (∀ k < last, leAt 8 bytes (offset + (index + k) * 16) ≠ 0) ∧ entries.length = last + 1 ∧
      ∀ k ≤ last, entries[k]? = some (readDynamicEntry bytes offset (index + k)) := by
  induction count generalizing index entries with
  | zero => cases h
  | succ count ih =>
    rw [readDynamicEntries] at h
    by_cases htag : (readDynamicEntry bytes offset index).tag = kDtNull
    · rw [if_pos htag] at h
      cases h
      refine ⟨0, Nat.zero_lt_succ _, tag_readDynamicEntry_iff.mp htag,
        fun k hk => absurd hk (Nat.not_lt_zero k), rfl, ?_⟩
      intro k hk
      rw [Nat.le_zero.mp hk]
      rfl
    · rw [if_neg htag, Option.map_eq_some_iff] at h
      obtain ⟨rest, hrest, rfl⟩ := h
      obtain ⟨last, hlast, hzero, hbefore, hlength, hget⟩ := ih hrest
      rw [show index + 1 + last = index + (last + 1) by omega] at hzero
      refine ⟨last + 1, by omega, hzero, fun k hk => ?_, by rw [List.length_cons, hlength],
        fun k hk => ?_⟩
      · cases k with
        | zero => exact fun hfirst => htag (tag_readDynamicEntry_iff.mpr hfirst)
        | succ k =>
          have hnext := hbefore k (by omega)
          rwa [show index + 1 + k = index + (k + 1) by omega] at hnext
      · cases k with
        | zero => rfl
        | succ k =>
          have hnext := hget k (by omega)
          rw [show index + 1 + k = index + (k + 1) by omega] at hnext
          exact hnext

/-- The loop depends on nothing but the bytes up to the terminator. -/
theorem readDynamicEntries_congr {bytes' : List UInt8}
    (h : readDynamicEntries bytes offset count index = some entries)
    (hsame : ∀ i, offset + index * 16 ≤ i → i < offset + (index + entries.length) * 16 →
      bytes[i]? = bytes'[i]?) :
    readDynamicEntries bytes' offset count index = some entries := by
  induction count generalizing index entries with
  | zero => cases h
  | succ count ih =>
    have hlength : 0 < entries.length := by
      obtain ⟨last, -, -, -, hlength, -⟩ := readDynamicEntries_eq_some h
      omega
    have hentry : readDynamicEntry bytes offset index = readDynamicEntry bytes' offset index := by
      have hword : ∀ place, offset + index * 16 ≤ place → place + 8 ≤ offset + (index + 1) * 16 →
          u64At bytes place = u64At bytes' place := by
        intro place hlow hhigh
        rw [u64At, u64At, leAt_congr]
        intro i hi
        exact hsame (place + i) (by omega) (by omega)
      rw [readDynamicEntry, readDynamicEntry, hword _ (by omega) (by omega),
        hword _ (by omega) (by omega)]
    rw [readDynamicEntries] at h ⊢
    rw [← hentry]
    by_cases htag : (readDynamicEntry bytes offset index).tag = kDtNull
    · rw [if_pos htag] at h ⊢
      exact h
    · rw [if_neg htag, Option.map_eq_some_iff] at h
      obtain ⟨rest, hrest, rfl⟩ := h
      rw [if_neg htag, ih hrest fun i hlow hhigh =>
        hsame i (by omega) (by rw [List.length_cons]; omega)]
      rfl

end Scan

/-! ### The table -/

section Table

variable {bytes : List UInt8} {segment : ProgramHeader} {table : DynamicTable}

/-- The entry at an index of the segment: its tag and value as they stand in the file. -/
def entryAt (bytes : List UInt8) (segment : ProgramHeader) (index : ℕ) : DynamicEntry where
  tag := (UInt64.ofNat (leAt 8 bytes (segment.offset.toNat + index * 16))).toInt64
  value := .ofNat (leAt 8 bytes (segment.offset.toNat + index * 16 + 8))
  index := index

/-- The entry at `last` is the first of the segment with tag zero. -/
structure Terminator (bytes : List UInt8) (segment : ProgramHeader) (last : ℕ) : Prop where
  inside : last < segment.fileSize.toNat / 16
  zero : leAt 8 bytes (segment.offset.toNat + last * 16) = 0
  first : ∀ k < last, leAt 8 bytes (segment.offset.toNat + k * 16) ≠ 0

/-- A segment that the parser goes through: its range is in the file, and as long as a number of
entries. -/
structure SegmentInFile (bytes : List UInt8) (segment : ProgramHeader) : Prop where
  fits : segment.offset.toNat + segment.fileSize.toNat ≤ bytes.length
  positive : 0 < segment.fileSize.toNat
  whole : segment.fileSize.toNat % 16 = 0

theorem mod_kDynamicEntrySize_iff :
    segment.fileSize % kDynamicEntrySize = 0 ↔ segment.fileSize.toNat % 16 = 0 := by
  rw [← UInt64.toNat_inj, UInt64.toNat_mod]
  rfl

theorem parseDynamicTable_eq (hfile : bytes.length < 2 ^ 64) (htype : segment.type = kPtDynamic)
    (h : SegmentInFile bytes segment) :
    parseDynamicTable bytes segment = do
      let entries ← orRefuse
        (readDynamicEntries bytes segment.offset.toNat (segment.fileSize.toNat / 16) 0)
        (⟨.missingTerminator, some (segment.fileSize.toNat / 16), segment.offset⟩ : DynamicError)
      return ⟨entries⟩ := by
  obtain ⟨hfits, hpositive, hwhole⟩ := h
  obtain ⟨segmentEnd, hadd, hend⟩ := exists_checkedAdd (lt_of_le_of_lt hfits hfile)
  have hsize : ¬ segment.fileSize = 0 := fun hzero => by
    rw [hzero, UInt64.toNat_zero] at hpositive
    exact absurd hpositive (Nat.lt_irrefl 0)
  have hcount : (segment.fileSize / kDynamicEntrySize).toNat = segment.fileSize.toNat / 16 := by
    rw [UInt64.toNat_div]
    rfl
  have hbounds : ¬ (segment.offset.toNat > bytes.length ∨ segmentEnd.toNat > bytes.length) := by
    omega
  rw [parseDynamicTable, refuseIf_of_not (not_not.mpr htype), ok_bind, refuseIf_of_not hsize,
    ok_bind, refuseIf_of_not (not_not.mpr (mod_kDynamicEntrySize_iff.mpr hwhole)), ok_bind, hadd,
    hcount, orRefuse, ok_bind, refuseIf_of_not hbounds, ok_bind]

theorem segmentInFile_of_parseDynamicTable (h : parseDynamicTable bytes segment = .ok table) :
    SegmentInFile bytes segment := by
  simp only [parseDynamicTable, bind_eq_ok, refuseIf_eq_ok, orRefuse_eq_ok, not_not, not_or,
    Nat.not_lt, pure_eq_ok] at h
  obtain ⟨-, -, -, hsize, -, hwhole, segmentEnd, hend, -, ⟨-, hfits⟩, -⟩ := h
  refine ⟨?_, Nat.pos_of_ne_zero fun hzero => hsize (UInt64.toNat_inj.mp hzero),
    mod_kDynamicEntrySize_iff.mp hwhole⟩
  rw [← (checkedAdd_eq_some hend).2]
  exact hfits

/-- The table of a segment is its entries up to the first with tag zero. -/
theorem parseDynamicTable_eq_ok (hfile : bytes.length < 2 ^ 64) (htype : segment.type = kPtDynamic)
    (h : parseDynamicTable bytes segment = .ok table) :
    ∃ last, Terminator bytes segment last ∧ table.entries.length = last + 1 ∧
      ∀ k ≤ last, table.entries[k]? = some (entryAt bytes segment k) := by
  rw [parseDynamicTable_eq hfile htype (segmentInFile_of_parseDynamicTable h)] at h
  simp only [bind_eq_ok, orRefuse_eq_ok, pure_eq_ok] at h
  obtain ⟨entries, hentries, rfl⟩ := h
  obtain ⟨last, hlast, hzero, hbefore, hlength, hget⟩ := readDynamicEntries_eq_some hentries
  simp only [Nat.zero_add] at hzero hbefore hget
  exact ⟨last, ⟨hlast, hzero, hbefore⟩, hlength, hget⟩

end Table

/-- **Dynamic tables stop at the first terminator.** There is a table exactly when the segment lies
in the file, is a positive number of entries long and one of them has tag zero. It is the entries up
to the first of these. No other byte of the file matters to it, and none outside the file is looked
at. -/
theorem parseDynamicTable_scan (bytes : List UInt8) (segment : ProgramHeader)
    (hfile : bytes.length < 2 ^ 64) (htype : segment.type = kPtDynamic) :
    ((∃ table, parseDynamicTable bytes segment = .ok table) ↔
      segment.offset.toNat + segment.fileSize.toNat ≤ bytes.length ∧ 0 < segment.fileSize.toNat ∧
        segment.fileSize.toNat % 16 = 0 ∧
        ∃ k < segment.fileSize.toNat / 16, leAt 8 bytes (segment.offset.toNat + k * 16) = 0) ∧
    (∀ table, parseDynamicTable bytes segment = .ok table → ∃ last, Terminator bytes segment last ∧
      table.entries = (List.range (last + 1)).map (entryAt bytes segment) ∧
      ∀ bytes' : List UInt8, bytes'.length < 2 ^ 64 →
        segment.offset.toNat + segment.fileSize.toNat ≤ bytes'.length →
        (∀ i, segment.offset.toNat ≤ i → i < segment.offset.toNat + (last + 1) * 16 →
          bytes'[i]? = bytes[i]?) →
        parseDynamicTable bytes' segment = .ok table) ∧
    parseDynamicTableGuarded bytes segment = (parseDynamicTable bytes segment).mapError some := by
  refine ⟨⟨?_, ?_⟩, ?_, ?_⟩
  · rintro ⟨table, h⟩
    obtain ⟨hfits, hpositive, hwhole⟩ := segmentInFile_of_parseDynamicTable h
    obtain ⟨last, hlast, -⟩ := parseDynamicTable_eq_ok hfile htype h
    exact ⟨hfits, hpositive, hwhole, last, hlast.inside, hlast.zero⟩
  · rintro ⟨hfits, hpositive, hwhole, k, hk, hzero⟩
    rw [parseDynamicTable_eq hfile htype ⟨hfits, hpositive, hwhole⟩]
    cases hentries : readDynamicEntries bytes segment.offset.toNat (segment.fileSize.toNat / 16) 0
      with
    | none =>
      have hnone := readDynamicEntries_eq_none.mp hentries k hk
      rw [Nat.zero_add] at hnone
      exact absurd hzero hnone
    | some entries => exact ⟨⟨entries⟩, rfl⟩
  · intro table h
    obtain ⟨last, hlast, hlength, hget⟩ := parseDynamicTable_eq_ok hfile htype h
    refine ⟨last, hlast, ?_, fun bytes' hfile' hfits' hsame => ?_⟩
    · apply List.ext_getElem?
      intro k
      by_cases hk : k ≤ last
      · rw [hget k hk, List.getElem?_map, List.getElem?_range (by omega)]
        rfl
      · rw [List.getElem?_eq_none (by omega),
          List.getElem?_eq_none (by rw [List.length_map, List.length_range]; omega)]
    · have hsegment := segmentInFile_of_parseDynamicTable h
      rw [parseDynamicTable_eq hfile htype hsegment] at h
      rw [parseDynamicTable_eq hfile' htype ⟨hfits', hsegment.positive, hsegment.whole⟩]
      simp only [bind_eq_ok, orRefuse_eq_ok, pure_eq_ok] at h ⊢
      obtain ⟨entries, hentries, rfl⟩ := h
      refine ⟨entries, readDynamicEntries_congr hentries ?_, rfl⟩
      intro i hlow hhigh
      rw [show entries.length = last + 1 from hlength] at hhigh
      exact (hsame i (by omega) (by omega)).symm
  · rw [parseDynamicTableGuarded, parseDynamicTable]
    refine refuseIf_bind_mapError fun _ => ?_
    refine refuseIf_bind_mapError fun _ => ?_
    refine refuseIf_bind_mapError fun hwhole => ?_
    refine orRefuse_bind_mapError fun segmentEnd hend => ?_
    refine refuseIf_bind_mapError fun hbounds => ?_
    have hend := (checkedAdd_eq_some hend).2
    have hcount : (segment.fileSize / kDynamicEntrySize).toNat = segment.fileSize.toNat / 16 := by
      rw [UInt64.toNat_div]
      rfl
    have hscan : readDynamicEntriesGuarded bytes segment.offset.toNat
      (segment.fileSize.toNat / 16) 0 =
        .ok (readDynamicEntries bytes segment.offset.toNat (segment.fileSize.toNat / 16) 0) :=
      readDynamicEntriesGuarded_eq (by omega)
    dsimp only
    rw [hcount, hscan, ok_bind]
    exact orRefuse_bind_mapError fun _ _ => rfl

/-- Two entries and what comes behind them, at the end of a file. -/
def dynamicFile : List UInt8 :=
  wordsBytes [(8, 0xff), (8, 1), (8, 0x30), (8, 0), (8, 7), (8, 5), (8, 9)]

/-- The segment with the dynamic table. -/
def dynamicSegment : ProgramHeader := ⟨kPtDynamic, 4, 8, 0, 0, 48, 48, 8, 0⟩

/-- Its table has two entries. -/
theorem parseDynamicTable_scan_two :
    ∃ table, parseDynamicTable dynamicFile dynamicSegment = .ok table ∧
      ∃ last, Terminator dynamicFile dynamicSegment last ∧ table.entries.length = last + 1 := by
  obtain ⟨haccepted, htable, -⟩ := parseDynamicTable_scan dynamicFile dynamicSegment (by decide) rfl
  obtain ⟨table, h⟩ := haccepted.mpr ⟨by decide, by decide, by decide, 1, by decide, by decide⟩
  obtain ⟨last, hlast, hentries, -⟩ := htable table h
  refine ⟨table, h, last, hlast, ?_⟩
  rw [hentries, List.length_map, List.length_range]

end Astraea.Loader
