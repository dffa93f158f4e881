import Astraea.Base.Word

/-!
# Guest addresses, sizes and ranges

A guest address and a guest size are 64-bit words that the program keeps apart. A
guest range is a base and a size whose last byte does not pass the top of the
address space; it may end exactly at `2 ^ 64`. The tests `contains` and `overlaps`
are the program's, over machine words; `contains_iff` and `overlaps_iff` say what
they are about as sets of natural numbers.
-/

namespace Astraea.Memory

open Astraea.Base

/-- What can go wrong in address arithmetic. -/
inductive AddressErrorCode where
  | guestRangeOverflow
  | addressAdditionOverflow
  | sizeAdditionOverflow
  | sizeSubtractionUnderflow
  deriving DecidableEq

/-- A count of guest bytes. -/
structure GuestSize where
  /-- The count. -/
  value : UInt64
  deriving DecidableEq

/-- A guest virtual address. -/
structure GuestAddress where
  /-- The address. -/
  value : UInt64
  deriving DecidableEq

/-- A size as a natural number. -/
def GuestSize.toNat (size : GuestSize) : ℕ := size.value.toNat

/-- An address as a natural number. -/
def GuestAddress.toNat (address : GuestAddress) : ℕ := address.value.toNat

theorem GuestSize.toNat_lt (size : GuestSize) : size.toNat < 2 ^ 64 := size.value.toNat_lt

theorem GuestAddress.toNat_lt (address : GuestAddress) : address.toNat < 2 ^ 64 :=
  address.value.toNat_lt

@[simp] theorem GuestSize.toNat_mk (value : UInt64) : (GuestSize.mk value).toNat = value.toNat :=
  rfl

@[simp] theorem GuestAddress.toNat_mk (value : UInt64) :
    (GuestAddress.mk value).toNat = value.toNat :=
  rfl

theorem GuestAddress.toNat_inj {a b : GuestAddress} : a.toNat = b.toNat ↔ a = b := by
  cases a
  cases b
  simp [UInt64.toNat_inj]

theorem GuestSize.toNat_inj {a b : GuestSize} : a.toNat = b.toNat ↔ a = b := by
  cases a
  cases b
  simp [UInt64.toNat_inj]

variable {size : GuestSize} {base : GuestAddress}

theorem GuestSize.value_ne_zero (h : 0 < size.toNat) : ¬ size.value = 0 := by
  intro hzero
  rw [GuestSize.toNat, hzero, UInt64.toNat_zero] at h
  omega

/-- `lhs + rhs`, refused when it would wrap. -/
def GuestSize.checkedAdd (lhs rhs : GuestSize) : Except AddressErrorCode GuestSize :=
  if lhs.value > u64Max - rhs.value then .error .sizeAdditionOverflow
  else .ok ⟨lhs.value + rhs.value⟩

theorem GuestSize.checkedAdd_eq_ok_iff {lhs rhs : GuestSize} :
    lhs.checkedAdd rhs = .ok size ↔ lhs.toNat + rhs.toNat < 2 ^ 64 ∧
    size = ⟨lhs.value + rhs.value⟩ := by
  unfold checkedAdd
  split_ifs with hgt
  · rw [gt_u64Max_sub_iff] at hgt
    constructor
    · intro h
      cases h
    · intro h
      exact absurd hgt (Nat.not_le.mpr h.1)
  · rw [gt_u64Max_sub_iff, Nat.not_le] at hgt
    rw [Except.ok.injEq, eq_comm]
    exact (and_iff_right hgt).symm

/-- `base + offset`, refused when it would wrap. -/
def GuestAddress.checkedAdd (base : GuestAddress) (offset : GuestSize) :
    Except AddressErrorCode GuestAddress :=
  if base.value > u64Max - offset.value then .error .addressAdditionOverflow
  else .ok ⟨base.value + offset.value⟩

theorem GuestAddress.checkedAdd_eq_ok {a : GuestAddress} {offset : GuestSize}
    (h : base.checkedAdd offset = .ok a) :
    base.toNat + offset.toNat < 2 ^ 64 ∧ a.toNat = base.toNat + offset.toNat := by
  unfold checkedAdd at h
  split_ifs at h with hgt
  rw [gt_u64Max_sub_iff] at hgt
  cases h
  simp only [GuestAddress.toNat, GuestSize.toNat, UInt64.toNat_add] at *
  omega

theorem GuestAddress.checkedAdd_of_lt {offset : GuestSize}
    (h : base.toNat + offset.toNat < 2 ^ 64) :
    base.checkedAdd offset = .ok ⟨base.value + offset.value⟩ := by
  unfold checkedAdd
  rw [if_neg]
  rw [gt_u64Max_sub_iff]
  exact Nat.not_le.mpr h

/-! ### Ranges -/

/-- A range of guest addresses. It cannot be built around the top of the address space. -/
structure GuestRange where
  /-- The first address. -/
  base : GuestAddress
  /-- The number of bytes. -/
  size : GuestSize
  /-- The last byte is at most `2 ^ 64 - 1`. -/
  noWrap : base.toNat + size.toNat ≤ 2 ^ 64
  deriving DecidableEq

variable {range : GuestRange} {address : GuestAddress}

theorem GuestRange.ext_toNat {range' : GuestRange} (hbase : range.base.toNat = range'.base.toNat)
    (hsize : range.size.toNat = range'.size.toNat) :
    range = range' := by
  cases range
  cases range'
  rw [GuestAddress.toNat_inj] at hbase
  rw [GuestSize.toNat_inj] at hsize
  simp only [GuestRange.mk.injEq]
  exact ⟨hbase, hsize⟩

/-- The first address after the range, possibly `2 ^ 64`. -/
def GuestRange.last (range : GuestRange) : ℕ := range.base.toNat + range.size.toNat

theorem GuestRange.last_le (range : GuestRange) : range.last ≤ 2 ^ 64 := range.noWrap

instance : Membership ℕ GuestRange where
  mem range x := range.base.toNat ≤ x ∧ x < range.last

theorem GuestRange.mem_def {x : ℕ} : x ∈ range ↔ range.base.toNat ≤ x ∧ x < range.last := Iff.rfl

instance (range : GuestRange) (x : ℕ) : Decidable (x ∈ range) := inferInstanceAs (Decidable (_ ∧ _))

theorem GuestRange.toNat_address (range : GuestRange) {x : ℕ} (h : x ∈ range) :
    (GuestAddress.mk (UInt64.ofNat x)).toNat = x := by
  rw [GuestAddress.toNat_mk, toNat_ofNat_of_lt (lt_of_lt_of_le h.2 range.last_le)]

/-- The test of `GuestRange.create`: the last byte passes the top of the address space. -/
def rangeOverflows (base : GuestAddress) (size : GuestSize) : Bool :=
  decide (size.value > 0) && decide (base.value > u64Max - (size.value - 1))

theorem rangeOverflows_iff :
    rangeOverflows base size = true ↔ 2 ^ 64 < base.toNat + size.toNat := by
  have hb := base.toNat_lt
  simp only [rangeOverflows, Bool.and_eq_true, decide_eq_true_eq, gt_u64Max_sub_iff]
  simp only [GuestAddress.toNat, GuestSize.toNat] at *
  rw [gt_iff_lt, UInt64.lt_iff_toNat_lt, UInt64.toNat_zero]
  by_cases h0 : 0 < size.value.toNat
  · have hone : (1 : UInt64) ≤ size.value := by
      rw [UInt64.le_iff_toNat_le]
      exact h0
    rw [UInt64.toNat_sub_of_le _ _ hone, UInt64.toNat_one]
    omega
  · omega

/-- `GuestRange::create`. -/
def GuestRange.create (base : GuestAddress) (size : GuestSize) :
    Except AddressErrorCode GuestRange :=
  if h : rangeOverflows base size = true then .error .guestRangeOverflow
  else .ok ⟨base, size, by rw [rangeOverflows_iff] at h; omega⟩

theorem GuestRange.create_of_le {base : GuestAddress} {size : GuestSize}
    (h : base.toNat + size.toNat ≤ 2 ^ 64) : GuestRange.create base size = .ok ⟨base, size, h⟩ := by
  unfold create
  rw [dif_neg]
  rw [rangeOverflows_iff]
  omega

theorem GuestRange.create_eq_ok (h : GuestRange.create base size = .ok range) :
    range.base = base ∧ range.size = size := by
  unfold create at h
  split_ifs at h
  cases h
  exact ⟨rfl, rfl⟩

/-- `GuestRange::empty`. -/
def GuestRange.empty (range : GuestRange) : Bool := range.size.value == 0

theorem GuestRange.empty_iff : range.empty = true ↔ range.size.toNat = 0 := by
  rw [empty, beq_iff_eq, ← UInt64.toNat_inj]
  rfl

/-- `GuestRange::contains`. -/
def GuestRange.contains (range : GuestRange) (address : GuestAddress) : Bool :=
  if range.empty || decide (address.value < range.base.value) then false
  else decide (address.value - range.base.value < range.size.value)

theorem GuestRange.contains_iff : range.contains address = true ↔ address.toNat ∈ range := by
  rw [mem_def, last, contains]
  split_ifs with h
  · rw [Bool.or_eq_true, empty_iff, decide_eq_true_eq, UInt64.lt_iff_toNat_lt] at h
    simp only [GuestAddress.toNat] at *
    simp only [false_iff]
    omega
  · rw [Bool.or_eq_true, empty_iff, decide_eq_true_eq, UInt64.lt_iff_toNat_lt] at h
    have hle : range.base.value ≤ address.value := by
      rw [UInt64.le_iff_toNat_le]
      omega
    rw [decide_eq_true_eq, UInt64.lt_iff_toNat_lt, UInt64.toNat_sub_of_le _ _ hle]
    simp only [GuestAddress.toNat, GuestSize.toNat] at *
    omega

theorem GuestRange.contains_eq_false : range.contains address = false ↔ address.toNat ∉ range := by
  rw [← contains_iff, Bool.not_eq_true]

/-- `GuestRange::overlaps`. -/
def GuestRange.overlaps (range other : GuestRange) : Bool :=
  if range.empty || other.empty then false
  else range.contains other.base || other.contains range.base

theorem GuestRange.overlaps_iff {other : GuestRange} :
    range.overlaps other = true ↔ ∃ x, x ∈ range ∧ x ∈ other := by
  rw [overlaps]
  split_ifs with h
  · rw [Bool.or_eq_true, empty_iff, empty_iff] at h
    simp only [false_iff]
    rintro ⟨x, hx, hy⟩
    rw [mem_def, last] at hx hy
    omega
  · rw [Bool.or_eq_true, empty_iff, empty_iff] at h
    rw [Bool.or_eq_true, contains_iff, contains_iff]
    constructor
    · rintro (h1 | h1)
      · exact ⟨_, h1, by rw [mem_def, last]; omega⟩
      · exact ⟨_, by rw [mem_def, last]; omega, h1⟩
    · rintro ⟨x, hx, hy⟩
      simp only [mem_def, last] at *
      omega

theorem GuestRange.toNat_size_sub (h : address.toNat ∈ range) :
    (range.size.value - (address.value - range.base.value)).toNat = range.last - address.toNat := by
  simp only [mem_def, last, GuestAddress.toNat, GuestSize.toNat] at *
  have hle : range.base.value ≤ address.value := UInt64.le_iff_toNat_le.mpr h.1
  have hoff := UInt64.toNat_sub_of_le _ _ hle
  rw [UInt64.toNat_sub_of_le, hoff]
  · omega
  · rw [UInt64.le_iff_toNat_le, hoff]
    omega

/-- The page behind the first. -/
def lowPage : GuestRange := ⟨⟨0x1000⟩, ⟨0x1000⟩, by decide⟩

/-- The page behind it. -/
def nextPage : GuestRange := ⟨⟨0x2000⟩, ⟨0x1000⟩, by decide⟩

/-- A page for a stack. -/
def stackPage : GuestRange := ⟨⟨0x8000⟩, ⟨0x1000⟩, by decide⟩

/-- Room for two gates. -/
def twoGates : GuestRange := ⟨⟨0x20000⟩, ⟨0x20⟩, by decide⟩

/-- No bytes. -/
def noBytes : GuestRange := ⟨⟨0⟩, ⟨0⟩, by decide⟩

end Astraea.Memory
