import Astraea.Base.Tiling
import Astraea.Loader.RelocationRecords

/-!
# What a relocation table is

The descriptor of a relocation table is built from three tags, by one builder for the general
tables and by another for the table of the procedure linkage. Either way the records of the table
fill its range (`Sound`), which is what `parse_dynamic_relocation` relies on: of its checks only
those of the index, the bytes and the symbol can fail. What the builders make of a dynamic table
depends on what its entries say, not on their order or number.
-/

namespace Astraea.Loader

open Astraea.Base Astraea.Memory

/-! ### Records that fill the table -/

/-- The records are of the size that the kind of the table demands, and fill its range. -/
structure DynamicRelocationTableDescriptor.Sound (descriptor : DynamicRelocationTableDescriptor) :
    Prop where
  entrySize : descriptor.entrySize.value = descriptor.kind.expectedEntrySize
  filled : descriptor.range.size.toNat = descriptor.count.toNat *
    descriptor.kind.expectedEntrySize.toNat

/-- Where the records are, and how long they are. -/
def recordExtents (descriptor : DynamicRelocationTableDescriptor) : List (ℕ × ℕ) :=
  (List.range descriptor.count.toNat).map fun index =>
    (descriptor.range.base.toNat + index * descriptor.entrySize.toNat, descriptor.entrySize.toNat)

/-- An address in the record at `index`. -/
def InRecord (descriptor : DynamicRelocationTableDescriptor) (index : UInt64)
    (address : GuestAddress) : Prop :=
  descriptor.range.base.toNat + index.toNat * descriptor.kind.expectedEntrySize.toNat ≤
    address.toNat ∧
    address.toNat < descriptor.range.base.toNat + index.toNat *
      descriptor.kind.expectedEntrySize.toNat +
      descriptor.kind.expectedEntrySize.toNat

/-- The image holds `bytes` in the record at `index`. -/
structure HoldsRecord (descriptor : DynamicRelocationTableDescriptor) (index : UInt64)
    (view : InitializedImageView) (bytes : List UInt8) : Prop where
  length : bytes.length = descriptor.kind.expectedEntrySize.toNat
  bytes : ∀ address, InRecord descriptor index address → view.readByte address = .ok (bytes.getD
    (address.toNat - (descriptor.range.base.toNat + index.toNat *
      descriptor.kind.expectedEntrySize.toNat)) 0)

section Records

variable {descriptor : DynamicRelocationTableDescriptor} {index : UInt64}
  {view : InitializedImageView} {symbols : DynamicSymbolTableDescriptor} {bytes : List UInt8}

theorem expectedEntrySize_pos (kind : RelocationTableKind) : 0 < kind.expectedEntrySize.toNat := by
  cases kind <;> decide

theorem tiles_equal {start length : ℕ} (hpos : 0 < length) (count : ℕ) :
    Tiles start (start + count * length)
      ((List.range count).map fun index => (start + index * length, length)) := by
  induction count with
  | zero =>
    rw [Nat.zero_mul, Nat.add_zero]
    exact rfl
  | succ count ih =>
    rw [List.range_succ, List.map_append]
    refine ih.append ⟨rfl, hpos, ?_⟩
    rw [List.map_nil, tiles_nil, Nat.succ_mul]
    exact Nat.add_assoc _ _ _

/-- **The records tile the range of the table**, which ends before the addresses do. -/
theorem DynamicRelocationTableDescriptor.Sound.tiles (h : descriptor.Sound) :
    Tiles descriptor.range.base.toNat descriptor.range.last (recordExtents descriptor) := by
  have hsize : descriptor.entrySize.toNat = descriptor.kind.expectedEntrySize.toNat :=
    congrArg UInt64.toNat h.entrySize
  have htiles := @tiles_equal descriptor.range.base.toNat descriptor.entrySize.toNat
    (hsize ▸ expectedEntrySize_pos descriptor.kind) descriptor.count.toNat
  rw [GuestRange.last, h.filled, ← hsize]
  exact htiles

theorem DynamicRelocationTableDescriptor.Sound.recordRange (h : descriptor.Sound)
    (hindex : index < descriptor.count) :
    ∃ range : GuestRange, Loader.recordRange descriptor index = .ok range ∧ range.base.toNat =
        descriptor.range.base.toNat + index.toNat * descriptor.kind.expectedEntrySize.toNat ∧
      range.size.toNat = descriptor.kind.expectedEntrySize.toNat := by
  have hpos := expectedEntrySize_pos descriptor.kind
  have hwrap := descriptor.range.noWrap
  have hlt : index.toNat + 1 ≤ descriptor.count.toNat := UInt64.lt_iff_toNat_lt.mp hindex
  have hroom : (index.toNat + 1) * descriptor.kind.expectedEntrySize.toNat ≤
      descriptor.range.size.toNat := by
    rw [h.filled]
    exact Nat.mul_le_mul_right _ hlt
  rw [Nat.succ_mul] at hroom
  have hsizeLt := descriptor.range.size.toNat_lt
  have hoffset : (index * descriptor.kind.expectedEntrySize).toNat =
      index.toNat * descriptor.kind.expectedEntrySize.toNat := toNat_mul_of_lt (by omega)
  have hsmall : ¬ index > u64Max / descriptor.kind.expectedEntrySize := by
    rw [gt_iff_lt, UInt64.lt_iff_toNat_lt, UInt64.toNat_div, toNat_u64Max, Nat.not_lt,
      Nat.le_div_iff_mul_le hpos]
    omega
  have hadd : descriptor.range.base.checkedAdd ⟨index * descriptor.kind.expectedEntrySize⟩ =
      .ok ⟨descriptor.range.base.value + index * descriptor.kind.expectedEntrySize⟩ := by
    apply GuestAddress.checkedAdd_of_lt
    rw [GuestSize.toNat_mk, hoffset]
    omega
  have haddress :
    (GuestAddress.mk (descriptor.range.base.value + index *
    descriptor.kind.expectedEntrySize)).toNat =
      descriptor.range.base.toNat + index.toNat * descriptor.kind.expectedEntrySize.toNat := by
    rw [(GuestAddress.checkedAdd_eq_ok hadd).2, GuestSize.toNat_mk, hoffset]
  have hrange :
    (GuestAddress.mk (descriptor.range.base.value + index *
    descriptor.kind.expectedEntrySize)).toNat +
      (GuestSize.mk descriptor.kind.expectedEntrySize).toNat ≤ 2 ^ 64 := by
    rw [haddress, GuestSize.toNat_mk]
    omega
  refine ⟨⟨_, _, hrange⟩, ?_, haddress, GuestSize.toNat_mk _⟩
  rw [Loader.recordRange, refuseIf_of_not hsmall, ok_bind, hadd, mapError_ok, ok_bind,
    GuestRange.create_of_le hrange, mapError_ok]

variable {range : GuestRange} {code : DynamicRelocationErrorCode}

theorem InRecord.mem {address : GuestAddress}
    (hbase : range.base.toNat = descriptor.range.base.toNat + index.toNat *
      descriptor.kind.expectedEntrySize.toNat)
    (hsize : range.size.toNat = descriptor.kind.expectedEntrySize.toNat) :
    InRecord descriptor index address ↔ address.toNat ∈ range := by
  rw [InRecord, GuestRange.mem_def, GuestRange.last, hbase, hsize]

theorem DynamicRelocationTableDescriptor.Sound.exists_holdsRecord (h : descriptor.Sound)
    (hindex : index < descriptor.count)
    (hread : ∀ address, InRecord descriptor index address →
      ∃ byte, view.readByte address = .ok byte) :
    ∃ bytes, HoldsRecord descriptor index view bytes := by
  obtain ⟨range, -, hbase, hsize⟩ := h.recordRange hindex
  have hreadable : ∀ address : GuestAddress, address.toNat ∈ range →
      ∃ byte, view.readByte address = .ok byte :=
    fun address hmem => hread address ((InRecord.mem hbase hsize).mpr hmem)
  obtain ⟨bytes, -, hlength, hbytes⟩ := InitializedImageView.copyBytes_of_readable hreadable
  refine ⟨bytes, hlength.trans hsize, fun address hmem => ?_⟩
  rw [hbytes address ((InRecord.mem hbase hsize).mp hmem), hbase]

/-- The bytes of a record are what there is to read in it. -/
theorem HoldsRecord.eq_of_copyBytes {copied : List UInt8}
    (h : HoldsRecord descriptor index view bytes)
    (hbase : range.base.toNat = descriptor.range.base.toNat + index.toNat *
      descriptor.kind.expectedEntrySize.toNat)
    (hsize : range.size.toNat = descriptor.kind.expectedEntrySize.toNat)
    (hcopied : view.copyBytes range descriptor.kind.expectedEntrySize.toNat = .ok copied) :
    copied = bytes := by
  obtain ⟨-, hlength, hread⟩ := InitializedImageView.copyBytes_eq_ok hcopied
  have hsame : copied.length = bytes.length := by rw [hlength, hsize, h.length]
  refine List.ext_getElem hsame fun i hi hi' => ?_
  have hlt : i < range.size.toNat := by rwa [hlength] at hi
  obtain ⟨address, -, haddress⟩ := exists_address_of_lt hlt
  have hmem : address.toNat ∈ range := by
    rw [GuestRange.mem_def, GuestRange.last, haddress]
    omega
  have hbyte := hread address hmem
  rw [h.bytes address ((InRecord.mem hbase hsize).mpr hmem), ← hbase, haddress,
    Nat.add_sub_cancel_left, List.getD_eq_getElem _ _ hi, List.getD_eq_getElem _ _ hi'] at hbyte
  exact (Except.ok.inj hbyte).symm

/-! ### What the parser answers -/

/-- The parser leaves with an error of the code. -/
def FailsWith (code : DynamicRelocationErrorCode)
    (result : Except DynamicRelocationError DynamicRelocation) : Prop :=
  ∃ e, result = .error e ∧ e.code = code

/-- The relocation is what the bytes of its record say. -/
structure SaysRecord (kind : RelocationTableKind) (index : UInt64) (bytes : List UInt8)
    (relocation : DynamicRelocation) :
    Prop where
  tableKind : relocation.tableKind = kind
  tableIndex : relocation.tableIndex = index
  target : relocation.target.value = u64At bytes 0
  rawInfo : relocation.rawInfo = u64At bytes 8
  addend : kind = .rela ∨ kind = .pltRela → relocation.addend = some (u64At bytes 16).toInt64
  no_addend : kind = .rel ∨ kind = .pltRel → relocation.addend = none
  info : relocation.symbolIndex.toUInt64 <<< 32 ||| relocation.relocationType.toUInt64 =
    relocation.rawInfo

/-- What `parse_dynamic_relocation` answers for each index. -/
structure ParsesRecords (descriptor : DynamicRelocationTableDescriptor)
    (symbols : DynamicSymbolTableDescriptor) (view : InitializedImageView) (index : UInt64) :
    Prop where
  no_overflow : ¬ FailsWith .relocationTableRangeOverflow
    (parseDynamicRelocation descriptor index symbols view)
  no_entrySize : ¬ FailsWith .invalidRelocationEntrySize
    (parseDynamicRelocation descriptor index symbols view)
  outOfBounds : FailsWith .relocationIndexOutOfBounds
    (parseDynamicRelocation descriptor index symbols view) ↔
    descriptor.count ≤ index
  unreadable : index < descriptor.count →
    (FailsWith .relocationEntryUnreadable (parseDynamicRelocation descriptor index symbols view) ↔
      ∃ address, InRecord descriptor index address ∧ ∀ byte, view.readByte address ≠ .ok byte)
  readable : index < descriptor.count →
    (∀ address, InRecord descriptor index address → ∃ byte, view.readByte address = .ok byte) →
    ∃ bytes, HoldsRecord descriptor index view bytes ∧
      (FailsWith .relocationSymbolIndexOutOfBounds
        (parseDynamicRelocation descriptor index symbols view) ↔
        symbols.symbolCount ≤ u64At bytes 8 >>> 32) ∧
      (u64At bytes 8 >>> 32 < symbols.symbolCount → ∃ relocation,
        parseDynamicRelocation descriptor index symbols view = .ok relocation ∧
          SaysRecord descriptor.kind index bytes relocation)

theorem toUInt64_toUInt32_shiftRight (info : UInt64) :
    (info >>> 32).toUInt32.toUInt64 = info >>> 32 := by
  have hlt := info.toNat_lt
  rw [← UInt64.toNat_inj, UInt32.toNat_toUInt64, UInt64.toNat_toUInt32, UInt64.toNat_shiftRight]
  refine Nat.mod_eq_of_lt ?_
  show info.toNat >>> 32 < 2 ^ 32
  rw [Nat.shiftRight_eq_div_pow]
  omega

theorem info_eq (info : UInt64) :
    (info >>> 32).toUInt32.toUInt64 <<< 32 ||| (info &&& 0xffffffff).toUInt32.toUInt64 = info := by
  have hlt := info.toNat_lt
  have htype : (info &&& 0xffffffff).toUInt32.toUInt64.toNat = info.toNat % 2 ^ 32 := by
    rw [UInt32.toNat_toUInt64, UInt64.toNat_toUInt32, UInt64.toNat_and]
    show (info.toNat &&& (2 ^ 32 - 1)) % 2 ^ 32 = _
    rw [Nat.and_two_pow_sub_one_eq_mod, Nat.mod_mod]
  have hshift : ((info >>> 32) <<< 32).toNat = (info.toNat / 2 ^ 32) <<< 32 := by
    rw [UInt64.toNat_shiftLeft, UInt64.toNat_shiftRight]
    show (info.toNat >>> 32) <<< 32 % 2 ^ 64 = _
    rw [Nat.shiftRight_eq_div_pow, Nat.shiftLeft_eq]
    refine Nat.mod_eq_of_lt ?_
    omega
  have htypeLt : info.toNat % 2 ^ 32 < 2 ^ 32 := Nat.mod_lt _ (Nat.two_pow_pos 32)
  rw [toUInt64_toUInt32_shiftRight, ← UInt64.toNat_inj, UInt64.toNat_or, htype, hshift,
    ← Nat.shiftLeft_add_eq_or_of_lt htypeLt, Nat.shiftLeft_eq, Nat.div_add_mod']

theorem saysRecord_relocationOf :
    SaysRecord descriptor.kind index bytes (relocationOf descriptor index bytes) where
  tableKind := rfl
  tableIndex := rfl
  target := rfl
  rawInfo := rfl
  addend := by
    intro h
    rcases h with h | h <;> rw [relocationOf, h] <;> rfl
  no_addend := by
    intro h
    rcases h with h | h <;> rw [relocationOf, h] <;> rfl
  info := info_eq _

theorem parseDynamicRelocation_of_le (h : descriptor.Sound) (hindex : descriptor.count ≤ index) :
    parseDynamicRelocation descriptor index symbols view =
      .error (recordError descriptor index .relocationIndexOutOfBounds) := by
  rw [parseDynamicRelocation, refuseIf_of_not (not_not.mpr h.entrySize), ok_bind, refuseIf,
    if_pos hindex]
  rfl

/-- In a sound table the checks of the place come through. -/
theorem parseDynamicRelocation_of_lt (h : descriptor.Sound) (hindex : index < descriptor.count) :
    ∃ range : GuestRange, range.base.toNat =
        descriptor.range.base.toNat + index.toNat * descriptor.kind.expectedEntrySize.toNat ∧
      range.size.toNat = descriptor.kind.expectedEntrySize.toNat ∧
      parseDynamicRelocation descriptor index symbols view = (do
        let bytes ← (view.copyBytes range descriptor.kind.expectedEntrySize.toNat).mapError
          fun (e : InitializedImageError) =>
            { recordError descriptor index .relocationEntryUnreadable with
            guestAddress := some (e.guestAddress.getD range.base), imageError := some e }
        refuseIf ((u64At bytes 8 >>> 32) ≥ symbols.symbolCount)
          { recordError descriptor index .relocationSymbolIndexOutOfBounds with
            guestAddress := some ⟨u64At bytes 0⟩,
            symbolIndex := some (u64At bytes 8 >>> 32).toUInt32 }
        return relocationOf descriptor index bytes) := by
  obtain ⟨range, hrange, hbase, hsize⟩ := h.recordRange hindex
  refine ⟨range, hbase, hsize, ?_⟩
  rw [parseDynamicRelocation, refuseIf_of_not (not_not.mpr h.entrySize), ok_bind,
    refuseIf_of_not (UInt64.not_le.mpr hindex), ok_bind, hrange, ok_bind]
  refine congrArg _ (funext fun bytes => ?_)
  dsimp only [relocationOf]
  rw [toUInt64_toUInt32_shiftRight]

/-- A record that cannot be read is refused as that, and nothing else is. -/
theorem parseDynamicRelocation_of_unreadable (h : descriptor.Sound)
    (hindex : index < descriptor.count) {address : GuestAddress}
    (hmem : InRecord descriptor index address) (hread : ∀ byte, view.readByte address ≠ .ok byte) :
    FailsWith .relocationEntryUnreadable
      (parseDynamicRelocation descriptor index symbols view) := by
  obtain ⟨range, hbase, hsize, hparse⟩ :=
    @parseDynamicRelocation_of_lt descriptor index view symbols h hindex
  rw [hparse]
  cases hcopied : view.copyBytes range descriptor.kind.expectedEntrySize.toNat with
  | error e => exact ⟨_, rfl, rfl⟩
  | ok copied =>
    obtain ⟨-, -, hbytes⟩ := InitializedImageView.copyBytes_eq_ok hcopied
    exact absurd (hbytes address ((InRecord.mem hbase hsize).mp hmem)) (hread _)

theorem parseDynamicRelocation_of_holdsRecord (h : descriptor.Sound)
    (hindex : index < descriptor.count) (hbytes : HoldsRecord descriptor index view bytes) :
    parseDynamicRelocation descriptor index symbols view = (do
      refuseIf ((u64At bytes 8 >>> 32) ≥ symbols.symbolCount)
        { recordError descriptor index .relocationSymbolIndexOutOfBounds with
          guestAddress := some ⟨u64At bytes 0⟩,
          symbolIndex := some (u64At bytes 8 >>> 32).toUInt32 }
      return relocationOf descriptor index bytes) := by
  obtain ⟨range, hbase, hsize, hparse⟩ :=
    @parseDynamicRelocation_of_lt descriptor index view symbols h hindex
  have hreadable : ∀ address : GuestAddress, address.toNat ∈ range →
      ∃ byte, view.readByte address = .ok byte :=
    fun address hmem => ⟨_, hbytes.bytes address ((InRecord.mem hbase hsize).mpr hmem)⟩
  obtain ⟨copied, hcopied, -, -⟩ := InitializedImageView.copyBytes_of_readable hreadable
  rw [hsize] at hcopied
  rw [hparse, hcopied, mapError_ok, ok_bind, hbytes.eq_of_copyBytes hbase hsize hcopied]

theorem failsWith_error {e : DynamicRelocationError} :
    FailsWith code (.error e) ↔ e.code = code := by
  constructor
  · rintro ⟨e', he', hcode⟩
    cases he'
    exact hcode
  · intro hcode
    exact ⟨e, rfl, hcode⟩

theorem not_failsWith_ok : ¬ FailsWith code (.ok relocation) := by
  rintro ⟨e, he, -⟩
  cases he

/-- **Every error code has its cause**, and the first two have none. -/
theorem DynamicRelocationTableDescriptor.Sound.parsesRecords (h : descriptor.Sound)
    (symbols : DynamicSymbolTableDescriptor) (view : InitializedImageView) (index : UInt64) :
    ParsesRecords descriptor symbols view index := by
  by_cases hindex : index < descriptor.count
  · have hnot : ¬ descriptor.count ≤ index := UInt64.not_le.mpr hindex
    by_cases hread : ∀ address, InRecord descriptor index address →
      ∃ byte, view.readByte address = .ok byte
    · obtain ⟨bytes, hbytes⟩ := h.exists_holdsRecord hindex hread
      have hno : ¬ ∃ address, InRecord descriptor index address ∧
          ∀ byte, view.readByte address ≠ .ok byte := by
        rintro ⟨address, hmem, hbyte⟩
        obtain ⟨byte, hok⟩ := hread address hmem
        exact hbyte byte hok
      have hparse :=
        @parseDynamicRelocation_of_holdsRecord descriptor index view symbols bytes h hindex hbytes
      by_cases hsymbol : u64At bytes 8 >>> 32 ≥ symbols.symbolCount
      · rw [refuseIf, if_pos hsymbol] at hparse
        have hfail : FailsWith .relocationSymbolIndexOutOfBounds
            (parseDynamicRelocation descriptor index symbols view) :=
          ⟨_, hparse, rfl⟩
        obtain ⟨e, he, hcode⟩ := hfail
        have hlt : ¬ u64At bytes 8 >>> 32 < symbols.symbolCount := UInt64.not_lt.mpr hsymbol
        constructor <;> simp only [he, failsWith_error, hcode, reduceCtorEq, not_false_eq_true,
          hnot, hno, implies_true]
        exact fun _ _ => ⟨bytes, hbytes, iff_of_true trivial hsymbol,
          fun hbelow => absurd hbelow hlt⟩
      · rw [refuseIf_of_not hsymbol, ok_bind] at hparse
        have hok : parseDynamicRelocation descriptor index symbols view =
          .ok (relocationOf descriptor index bytes) := hparse
        constructor <;> simp only [hok, not_failsWith_ok, not_false_eq_true, false_iff, hnot, hno,
          implies_true]
        exact fun _ _ => ⟨bytes, hbytes, hsymbol, fun _ => ⟨_, rfl, saysRecord_relocationOf⟩⟩
    · have hsome : ∃ address, InRecord descriptor index address ∧
          ∀ byte, view.readByte address ≠ .ok byte := by
        push Not at hread
        exact hread
      obtain ⟨address, hmem, hbyte⟩ := hsome
      obtain ⟨e, he, hcode⟩ :=
        @parseDynamicRelocation_of_unreadable descriptor index view symbols h hindex address hmem
        hbyte
      constructor <;> simp only [he, failsWith_error, hcode, reduceCtorEq, not_false_eq_true,
        false_iff, hnot, true_iff]
      · exact fun _ => ⟨address, hmem, hbyte⟩
      · exact fun _ hall => absurd hall hread
  · have hle : descriptor.count ≤ index := UInt64.not_lt.mp hindex
    have hparse := @parseDynamicRelocation_of_le descriptor index view symbols h hle
    constructor <;> simp only [hparse, failsWith_error, recordError, reduceCtorEq,
      not_false_eq_true, hle, hindex, false_implies]

end Records

/-! ### What the builders make -/

section Builders

variable {kind : RelocationTableKind} {addressTag sizeTag entryTag : Int64} {entrySize : UInt64}
  {address size encoding : SingletonValue} {group : GroupValues}
  {descriptor : DynamicRelocationTableDescriptor} {table : DynamicTable}

theorem sound_of_describeTable (hsize : entrySize = kind.expectedEntrySize)
    (h : describeTable kind addressTag sizeTag entrySize address size encoding = .ok descriptor) :
    descriptor.Sound := by
  simp only [describeTable, bind_eq_ok, refuseIf_eq_ok, mapError_eq_ok, pure_eq_ok, not_not] at h
  obtain ⟨-, hmod, range, hrange, rfl⟩ := h
  refine ⟨hsize, ?_⟩
  have hdvd : entrySize.toNat ∣ size.value.toNat := by
    rw [← UInt64.toNat_inj, UInt64.toNat_mod] at hmod
    exact Nat.dvd_of_mod_eq_zero hmod
  dsimp only
  rw [(GuestRange.create_eq_ok hrange).2, GuestSize.toNat_mk, UInt64.toNat_div, ← hsize,
    Nat.div_mul_cancel hdvd]

theorem sound_of_buildGroup (hsize : entrySize = kind.expectedEntrySize)
    (h : buildGroup group kind addressTag sizeTag entryTag entrySize = .ok (some descriptor)) :
    descriptor.Sound := by
  rw [buildGroup] at h
  split_ifs at h with hactive
  · cases h
  · simp only [bind_eq_ok] at h
    obtain ⟨_, -, _, -, _, -, _, -, h⟩ := h
    obtain ⟨found, hfound, heq⟩ := map_eq_ok.mp h
    cases heq
    exact sound_of_describeTable hsize hfound

theorem pltEncoding_size {value : UInt64} (h : pltEncoding value = some (kind, entrySize)) :
    entrySize = kind.expectedEntrySize := by
  rw [pltEncoding] at h
  split_ifs at h
  · cases h
    rfl
  · cases h
    rfl

/-- The table has the descriptor among those that its builders make. -/
def Describes (table : DynamicTable) (descriptor : DynamicRelocationTableDescriptor) : Prop :=
  (∃ metadata, buildGeneralDynamicRelocationMetadata table = .ok metadata ∧
    (metadata.rel = some descriptor ∨ metadata.rela = some descriptor)) ∨
  buildPltDynamicRelocationMetadata table = .ok (some descriptor)

/-- **Both builders make tables that their records fill.** -/
theorem Describes.sound (h : Describes table descriptor) : descriptor.Sound := by
  rcases h with ⟨metadata, hmetadata, hdescriptor⟩ | h
  · simp only [buildGeneralDynamicRelocationMetadata, bind_eq_ok, pure_eq_ok] at hmetadata
    obtain ⟨tags, -, rel, hrel, rela, hrela, rfl⟩ := hmetadata
    rcases hdescriptor with rfl | rfl
    · exact sound_of_buildGroup rfl hrel
    · exact sound_of_buildGroup rfl hrela
  · rw [buildPltDynamicRelocationMetadata, bind_eq_ok] at h
    obtain ⟨group, -, h⟩ := h
    rw [buildPltGroup] at h
    split_ifs at h with hactive
    · cases h
    · simp only [bind_eq_ok, orRefuse_eq_ok] at h
      obtain ⟨_, -, _, -, _, -, ⟨kind, entrySize⟩, hencoding, h⟩ := h
      obtain ⟨found, hfound, heq⟩ := map_eq_ok.mp h
      cases heq
      exact sound_of_describeTable (pltEncoding_size hencoding) hfound

end Builders

/-! ### Tables that say the same -/

/-- What a descriptor says of its table, without where in the dynamic table that was said. -/
def DynamicRelocationTableDescriptor.table (descriptor : DynamicRelocationTableDescriptor) :
    RelocationTableKind × GuestRange × GuestSize × UInt64 :=
  (descriptor.kind, descriptor.range, descriptor.entrySize, descriptor.count)

/-- The tables of an image. -/
def GeneralDynamicRelocationMetadata.tables (metadata : GeneralDynamicRelocationMetadata) :
    Option (RelocationTableKind × GuestRange × GuestSize × UInt64) ×
      Option (RelocationTableKind × GuestRange × GuestSize × UInt64) :=
  (metadata.rel.map DynamicRelocationTableDescriptor.table,
    metadata.rela.map DynamicRelocationTableDescriptor.table)

/-- Both builders make the same tables of both, or fail alike. -/
structure SameTables (table table' : DynamicTable) : Prop where
  general : (buildGeneralDynamicRelocationMetadata table).toOption.map
    GeneralDynamicRelocationMetadata.tables =
    (buildGeneralDynamicRelocationMetadata table').toOption.map
      GeneralDynamicRelocationMetadata.tables
  plt : (buildPltDynamicRelocationMetadata table).toOption.map
    (Option.map DynamicRelocationTableDescriptor.table) =
    (buildPltDynamicRelocationMetadata table').toOption.map
      (Option.map DynamicRelocationTableDescriptor.table)

/-- The tags that the builder of the tables knows. -/
def relocationTagsKnown : List Int64 :=
  [kDtRela, kDtRelasz, kDtRelaent, kDtRel, kDtRelsz, kDtRelent]

/-- The tags that the builder of the jump slots knows. -/
def pltTagsKnown : List Int64 := [kDtJmprel, kDtPltrelsz, kDtPltrel]

/-- The slots of three tags. -/
def GroupValues.slots (group : GroupValues) (addressTag sizeTag entryTag tag : Int64) :
    Option SingletonValue :=
  if tag = addressTag then group.address
  else if tag = sizeTag then group.size
  else if tag = entryTag then group.entrySize
  else none

/-- The value that was found for a tag. -/
def RelocationTags.slots (tags : RelocationTags) (tag : Int64) : Option SingletonValue :=
  if tag ∈ [kDtRela, kDtRelasz, kDtRelaent] then tags.rela.slots kDtRela kDtRelasz kDtRelaent tag
  else tags.rel.slots kDtRel kDtRelsz kDtRelent tag

section Order

variable {table table' : DynamicTable} {tags tags' : RelocationTags} {group group' : GroupValues}
  {merged : Option SingletonValue} {addressTag sizeTag entryTag : Int64}

theorem slots_address :
    GroupValues.slots { group with address := merged } addressTag sizeTag entryTag =
    Function.update (group.slots addressTag sizeTag entryTag) addressTag merged := by
  funext tag
  simp only [GroupValues.slots, Function.update_apply]
  split_ifs <;> rfl

theorem slots_size (hsize : sizeTag ≠ addressTag) :
    GroupValues.slots { group with size := merged } addressTag sizeTag entryTag =
      Function.update (group.slots addressTag sizeTag entryTag) sizeTag merged := by
  funext tag
  rw [Function.update_apply]
  by_cases htag : tag = sizeTag
  · rw [if_pos htag, htag, GroupValues.slots, if_neg hsize, if_pos rfl]
  · rw [if_neg htag, GroupValues.slots, GroupValues.slots, if_neg htag, if_neg htag]

theorem slots_entrySize (haddress : entryTag ≠ addressTag) (hsize : entryTag ≠ sizeTag) :
    GroupValues.slots { group with entrySize := merged } addressTag sizeTag entryTag =
      Function.update (group.slots addressTag sizeTag entryTag) entryTag merged := by
  funext tag
  rw [Function.update_apply]
  by_cases htag : tag = entryTag
  · rw [if_pos htag, htag, GroupValues.slots, if_neg haddress, if_neg hsize, if_pos rfl]
  · rw [if_neg htag, GroupValues.slots, GroupValues.slots, if_neg htag, if_neg htag]

variable {tag : Int64}

theorem slots_rela (htag : tag ∈ [kDtRela, kDtRelasz, kDtRelaent])
    (hgroup : group.slots kDtRela kDtRelasz kDtRelaent = Function.update (tags.rela.slots kDtRela
      kDtRelasz kDtRelaent) tag merged) :
    RelocationTags.slots { tags with rela := group } = Function.update tags.slots tag merged := by
  funext other
  rw [RelocationTags.slots, Function.update_apply]
  by_cases hother : other ∈ [kDtRela, kDtRelasz, kDtRelaent]
  · rw [if_pos hother, hgroup, Function.update_apply, RelocationTags.slots, if_pos hother]
  · rw [if_neg hother, if_neg (fun heq : other = tag => hother (heq ▸ htag)), RelocationTags.slots,
      if_neg hother]

theorem slots_rel (htag : tag ∉ [kDtRela, kDtRelasz, kDtRelaent])
    (hgroup : group.slots kDtRel kDtRelsz kDtRelent = Function.update (tags.rel.slots kDtRel
      kDtRelsz kDtRelent) tag merged) :
    RelocationTags.slots { tags with rel := group } = Function.update tags.slots tag merged := by
  funext other
  rw [RelocationTags.slots, Function.update_apply]
  by_cases hother : other ∈ [kDtRela, kDtRelasz, kDtRelaent]
  · rw [if_pos hother, if_neg (fun heq : other = tag => htag (heq ▸ hother)), RelocationTags.slots,
      if_pos hother]
  · rw [if_neg hother, hgroup, Function.update_apply, RelocationTags.slots, if_neg hother]

theorem fillSlot_relocationTags (tags : RelocationTags) (entry : DynamicEntry) :
    fillSlot relocationConflict relocationTagsKnown tags.slots entry =
      (collectRelocationTag tags entry).map RelocationTags.slots := by
  rw [collectRelocationTag]
  by_cases hrela : entry.tag = kDtRela
  · rw [if_pos hrela]
    exact fillSlot_of_merge hrela (by decide) rfl fun merged => slots_rela (by decide) slots_address
  rw [if_neg hrela]
  by_cases hrelasz : entry.tag = kDtRelasz
  · rw [if_pos hrelasz]
    exact fillSlot_of_merge hrelasz (by decide) rfl fun merged =>
      slots_rela (by decide) (slots_size (by decide))
  rw [if_neg hrelasz]
  by_cases hrelaent : entry.tag = kDtRelaent
  · rw [if_pos hrelaent]
    exact fillSlot_of_merge hrelaent (by decide) rfl fun merged =>
      slots_rela (by decide) (slots_entrySize (by decide) (by decide))
  rw [if_neg hrelaent]
  by_cases hrel : entry.tag = kDtRel
  · rw [if_pos hrel]
    exact fillSlot_of_merge hrel (by decide) rfl fun merged => slots_rel (by decide) slots_address
  rw [if_neg hrel]
  by_cases hrelsz : entry.tag = kDtRelsz
  · rw [if_pos hrelsz]
    exact fillSlot_of_merge hrelsz (by decide) rfl fun merged =>
      slots_rel (by decide) (slots_size (by decide))
  rw [if_neg hrelsz]
  by_cases hrelent : entry.tag = kDtRelent
  · rw [if_pos hrelent]
    exact fillSlot_of_merge hrelent (by decide) rfl fun merged =>
      slots_rel (by decide) (slots_entrySize (by decide) (by decide))
  rw [if_neg hrelent]
  refine fillSlot_of_not_mem ?_
  simp only [relocationTagsKnown, List.mem_cons, hrela, hrelasz, hrelaent, hrel, hrelsz, hrelent,
    List.not_mem_nil, or_self, not_false_eq_true]

theorem fillSlot_pltTags (group : GroupValues) (entry : DynamicEntry) :
    fillSlot relocationConflict pltTagsKnown (group.slots kDtJmprel kDtPltrelsz kDtPltrel) entry =
      (collectPltTag group entry).map fun group => group.slots kDtJmprel kDtPltrelsz kDtPltrel := by
  rw [collectPltTag]
  have hmerge := fun tag slot (put : Option SingletonValue → GroupValues) =>
    @fillSlot_of_merge _ relocationConflict pltTagsKnown entry
    tag GroupValues (fun group => group.slots kDtJmprel kDtPltrelsz kDtPltrel) group put slot
  by_cases haddress : entry.tag = kDtJmprel
  · rw [if_pos haddress]
    exact hmerge _ _ _ haddress (by decide) rfl fun merged => slots_address
  rw [if_neg haddress]
  by_cases hsize : entry.tag = kDtPltrelsz
  · rw [if_pos hsize]
    exact hmerge _ _ _ hsize (by decide) rfl fun merged => slots_size (by decide)
  rw [if_neg hsize]
  by_cases hencoding : entry.tag = kDtPltrel
  · rw [if_pos hencoding]
    exact hmerge _ _ _ hencoding (by decide) rfl fun merged =>
      slots_entrySize (by decide) (by decide)
  rw [if_neg hencoding]
  refine fillSlot_of_not_mem ?_
  simp only [pltTagsKnown, List.mem_cons, haddress, hsize, hencoding, List.not_mem_nil, or_self,
    not_false_eq_true]

/-- The same tags have been found, with the same values. -/
structure GroupValues.Same (group group' : GroupValues) : Prop where
  address : group.address.map SingletonValue.value = group'.address.map SingletonValue.value
  size : group.size.map SingletonValue.value = group'.size.map SingletonValue.value
  entrySize : group.entrySize.map SingletonValue.value = group'.entrySize.map SingletonValue.value

section

variable {slot slot' : Option SingletonValue}
  (h : slot.map SingletonValue.value = slot'.map SingletonValue.value)

include h

theorem isSome_eq_of_value : slot.isSome = slot'.isSome := by
  rw [← Option.isSome_map, h, Option.isSome_map]

theorem eq_none_or_of_value :
    (slot = none ∧ slot' = none) ∨ ∃ found found', slot = some found ∧ slot' = some found' ∧
    found.value = found'.value := by
  cases slot with
  | none =>
    cases slot' with
    | none => exact .inl ⟨rfl, rfl⟩
    | some found' => cases h
  | some found =>
    cases slot' with
    | none => cases h
    | some found' => exact .inr ⟨found, found', rfl, rfl, Option.some.inj h⟩

end

theorem GroupValues.Same.active (h : group.Same group') :
    groupActive group = groupActive group' := by
  rw [groupActive, groupActive, isSome_eq_of_value h.address, isSome_eq_of_value h.size,
    isSome_eq_of_value h.entrySize]

theorem describeTable_same {kind : RelocationTableKind} {entrySize : UInt64}
    {address size encoding address' size' encoding' : SingletonValue}
    (haddress : address.value = address'.value) (hsize : size.value = size'.value) :
    ((describeTable kind addressTag sizeTag entrySize address size encoding).map some).toOption.map
        (Option.map DynamicRelocationTableDescriptor.table) =
      ((describeTable kind addressTag sizeTag entrySize address' size' encoding').map
        some).toOption.map
        (Option.map DynamicRelocationTableDescriptor.table) := by
  rw [describeTable, describeTable, haddress, hsize]
  by_cases hmod : size'.value % entrySize ≠ 0
  · rw [refuseIf, if_pos hmod, refuseIf, if_pos hmod]
    rfl
  · rw [refuseIf_of_not hmod, refuseIf_of_not hmod, ok_bind, ok_bind]
    cases GuestRange.create ⟨address'.value⟩ ⟨size'.value⟩ <;> rfl

/-- Two groups with the same values are described alike, whatever else is asked of them. -/
theorem GroupValues.Same.described (h : group.Same group') {e : DynamicRelocationError}
    {sizeError entryError sizeError' entryError' : SingletonValue → DynamicRelocationError}
    {describe describe' : SingletonValue → SingletonValue → SingletonValue →
      Except DynamicRelocationError (Option DynamicRelocationTableDescriptor)}
    (hdescribe : ∀ address size entry address' size' entry' : SingletonValue,
      address.value = address'.value → size.value = size'.value → entry.value = entry'.value →
      (describe address size entry).toOption.map
          (Option.map DynamicRelocationTableDescriptor.table) =
        (describe' address' size' entry').toOption.map
          (Option.map DynamicRelocationTableDescriptor.table)) :
    (if groupActive group = false then .ok none else
      orRefuse group.address e >>= fun address =>
      orRefuse group.size (sizeError address) >>= fun size =>
      orRefuse group.entrySize (entryError address) >>= describe address size).toOption.map
        (Option.map DynamicRelocationTableDescriptor.table) =
      (if groupActive group' = false then .ok none else
        orRefuse group'.address e >>= fun address =>
        orRefuse group'.size (sizeError' address) >>= fun size =>
        orRefuse group'.entrySize (entryError' address) >>= describe' address size).toOption.map
          (Option.map DynamicRelocationTableDescriptor.table) := by
  rw [h.active]
  by_cases hactive : groupActive group' = false
  · rw [if_pos hactive, if_pos hactive]
  rw [if_neg hactive, if_neg hactive]
  rcases eq_none_or_of_value h.address
    with ⟨haddress, haddress'⟩ | ⟨address, address', haddress, haddress', hvalue⟩
  · rw [haddress, haddress']
    rfl
  rcases eq_none_or_of_value h.size with ⟨hsize, hsize'⟩ | ⟨size, size', hsize, hsize', hsizeValue⟩
  · rw [haddress, haddress', hsize, hsize']
    rfl
  rcases eq_none_or_of_value h.entrySize
    with ⟨hentry, hentry'⟩ | ⟨entry, entry', hentry, hentry', hentryValue⟩
  · rw [haddress, haddress', hsize, hsize', hentry, hentry']
    rfl
  rw [haddress, haddress', hsize, hsize', hentry, hentry']
  exact hdescribe _ _ _ _ _ _ hvalue hsizeValue hentryValue

theorem buildGroup_same {kind : RelocationTableKind} {requiredEntrySize : UInt64}
    (h : group.Same group') :
    (buildGroup group kind addressTag sizeTag entryTag requiredEntrySize).toOption.map
        (Option.map DynamicRelocationTableDescriptor.table) =
      (buildGroup group' kind addressTag sizeTag entryTag requiredEntrySize).toOption.map
        (Option.map DynamicRelocationTableDescriptor.table) := by
  refine h.described ?_
  intro address size entrySize address' size' entrySize' haddress hsize hentry
  rw [hentry]
  by_cases hrequired : entrySize'.value ≠ requiredEntrySize
  · rw [refuseIf, if_pos hrequired, refuseIf, if_pos hrequired]
    rfl
  · rw [refuseIf_of_not hrequired, refuseIf_of_not hrequired, ok_bind, ok_bind]
    exact describeTable_same haddress hsize

theorem buildPltGroup_same (h : group.Same group') :
    (buildPltGroup group).toOption.map (Option.map DynamicRelocationTableDescriptor.table) =
      (buildPltGroup group').toOption.map (Option.map DynamicRelocationTableDescriptor.table) := by
  refine h.described ?_
  intro address size encoding address' size' encoding' haddress hsize hencoding
  rw [hencoding]
  cases pltEncoding encoding'.value with
  | none => rfl
  | some found => exact describeTable_same haddress hsize

theorem rela_same (h : SameValues tags.slots tags'.slots) : tags.rela.Same tags'.rela :=
  ⟨h kDtRela, h kDtRelasz, h kDtRelaent⟩

theorem rel_same (h : SameValues tags.slots tags'.slots) : tags.rel.Same tags'.rel :=
  ⟨h kDtRel, h kDtRelsz, h kDtRelent⟩

theorem pltGroup_same (h : SameValues (group.slots kDtJmprel kDtPltrelsz kDtPltrel)
    (group'.slots kDtJmprel kDtPltrelsz kDtPltrel)) : group.Same group' :=
  ⟨h kDtJmprel, h kDtPltrelsz, h kDtPltrel⟩

/-- Two results that are made alike are put together alike. -/
theorem tables_same
    {rel rela rel' rela' : Except DynamicRelocationError (Option DynamicRelocationTableDescriptor)}
    (hrel : rel.toOption.map (Option.map DynamicRelocationTableDescriptor.table) =
      rel'.toOption.map (Option.map DynamicRelocationTableDescriptor.table))
    (hrela : rela.toOption.map (Option.map DynamicRelocationTableDescriptor.table) =
      rela'.toOption.map (Option.map DynamicRelocationTableDescriptor.table)) :
    (do return (⟨← rel, ← rela⟩ : GeneralDynamicRelocationMetadata)).toOption.map
      GeneralDynamicRelocationMetadata.tables =
      (do return (⟨← rel', ← rela'⟩ : GeneralDynamicRelocationMetadata)).toOption.map
        GeneralDynamicRelocationMetadata.tables := by
  cases rel <;> cases rel' <;> first | cases hrel | skip
  · rfl
  cases rela <;> cases rela' <;> first | cases hrela | skip
  · rfl
  exact congrArg some (Prod.ext (Option.some.inj hrel) (Option.some.inj hrela))

/-- **What is built does not depend on order and repetition.** -/
theorem SayTheSame.sameTables (h : SayTheSame table.entries table'.entries) :
    SameTables table table' where
  general := by
    have hstart : RelocationTags.slots {} = fun _ => none := by
      funext tag
      simp only [RelocationTags.slots, GroupValues.slots, ite_self]
    refine h.builds hstart fillSlot_relocationTags ?_
    intro tags tags' hsame
    exact tables_same (buildGroup_same (rel_same hsame)) (buildGroup_same (rela_same hsame))
  plt := by
    have hstart : GroupValues.slots {} kDtJmprel kDtPltrelsz kDtPltrel = fun _ => none := by
      funext tag
      simp only [GroupValues.slots, ite_self]
    rw [buildPltDynamicRelocationMetadata, buildPltDynamicRelocationMetadata]
    have hbuild : ∀ group group' :
      GroupValues, SameValues (group.slots kDtJmprel kDtPltrelsz kDtPltrel)
        (group'.slots kDtJmprel kDtPltrelsz kDtPltrel) →
        (buildPltGroup group).toOption.map (Option.map DynamicRelocationTableDescriptor.table) =
          (buildPltGroup group').toOption.map (Option.map DynamicRelocationTableDescriptor.table) :=
      fun group group' hsame => buildPltGroup_same (pltGroup_same hsame)
    exact h.builds hstart fillSlot_pltTags hbuild

/-- **Relocation tables are tiled by their records**, each of which is read as what it is, and what
the builders make of a dynamic table depends neither on the order of its entries nor on repetitions.
-/
theorem relocationTables_tiled (table : DynamicTable) :
    (∀ descriptor, Describes table descriptor →
      Tiles descriptor.range.base.toNat descriptor.range.last (recordExtents descriptor) ∧
      descriptor.range.last ≤ 2 ^ 64 ∧
      ∀ symbols view index, ParsesRecords descriptor symbols view index) ∧
    (∀ table' : DynamicTable, (table.entries.map DynamicEntry.said).Perm
      (table'.entries.map DynamicEntry.said) → SameTables table table') ∧
    ∀ (before after : List DynamicEntry) (repeated : DynamicEntry),
      table.entries = before ++ after →
      repeated.said ∈ table.entries.map DynamicEntry.said →
      SameTables table ⟨before ++ repeated :: after⟩ := by
  refine ⟨fun descriptor hdescriptor => ?_, fun table' hperm =>
    ?_, fun before after repeated hentries hsaid => ?_⟩
  · have hsound := hdescriptor.sound
    exact ⟨hsound.tiles, descriptor.range.noWrap,
      fun symbols view index => hsound.parsesRecords symbols view index⟩
  · exact (sayTheSame_of_perm hperm).sameTables
  · apply SayTheSame.sameTables
    rw [hentries] at hsaid ⊢
    exact sayTheSame_repeated hsaid

end Order

end Astraea.Loader
