import Astraea.Loader.Dynamic
import Astraea.Memory.InitializedImageView

/-!
# Symbol counts from hash tables

An image does not say how many dynamic symbols it has; its hash tables do. A System V
table gives the number in its header. A GNU table is walked: the highest bucket begins
the last chain, and the chain's end is the last symbol.
-/

namespace Astraea.Loader

open Astraea.Base Astraea.Memory

/-! ### System V -/

/-- Why a hash table is refused. -/
inductive SysvHashErrorCode where
  | conflictingDynamicTag
  | hashHeaderRangeOverflow
  | hashHeaderUnreadable
  | invalidSymbolCount
  deriving DecidableEq

/-- A hash table that is refused. -/
structure SysvHashError where
  code : SysvHashErrorCode
  sourceEntryIndex : Option ℕ := none
  conflictingEntryIndex : Option ℕ := none
  guestAddress : Option GuestAddress := none
  imageError : Option InitializedImageError := none
  deriving DecidableEq

/-- The number of symbols that a hash table tells. -/
structure SysvHashCountEvidence where
  hashAddress : GuestAddress
  bucketCount : UInt32
  symbolCount : UInt32
  sourceEntryIndex : ℕ
  deriving DecidableEq

/-- `DT_HASH`. -/
def kDtHash : Int64 := 4

/-- The entries of one tag, which all have to have the same value. -/
def findTag {ε : Type} (tag : Int64) (conflict : DynamicEntry → SingletonValue → ε)
    (table : DynamicTable) :
    Except ε (Option SingletonValue) :=
  table.entries.foldlM (fun slot entry => if entry.tag ≠ tag then .ok slot
    else mergeSingleton conflict slot entry) none

/-- `build_sysv_hash_count_evidence`. -/
def buildSysvHashCountEvidence (table : DynamicTable) (view : InitializedImageView) :
    Except SysvHashError (Option SysvHashCountEvidence) := do
  let hash ← findTag kDtHash (fun entry found =>
    ({ code := .conflictingDynamicTag, sourceEntryIndex := entry.index,
       conflictingEntryIndex := found.sourceEntryIndex } : SysvHashError)) table
  match hash with
  | none => return none
  | some hash =>
    let base : GuestAddress := ⟨hash.value⟩
    let range ← (GuestRange.create base ⟨8⟩).mapError fun _ =>
      ({ code := .hashHeaderRangeOverflow, sourceEntryIndex := hash.sourceEntryIndex,
         guestAddress := base } : SysvHashError)
    let header ← (view.copyBytes range 8).mapError fun (e : InitializedImageError) =>
      ({ code := .hashHeaderUnreadable, sourceEntryIndex := hash.sourceEntryIndex,
         guestAddress := e.guestAddress.getD base, imageError := some e } : SysvHashError)
    refuseIf (u32At header 4 = 0)
      { code := .invalidSymbolCount, sourceEntryIndex := hash.sourceEntryIndex,
        guestAddress := base }
    return some ⟨base, u32At header 0, u32At header 4, hash.sourceEntryIndex⟩

/-! ### GNU -/

/-- Why a hash table is refused. -/
inductive GnuHashErrorCode where
  | conflictingDynamicTag
  | hashRangeOverflow
  | hashDataUnreadable
  | invalidHashHeader
  | invalidBucket
  | symbolCountLimit
  deriving DecidableEq

/-- A hash table that is refused, with the bucket it is about. -/
structure GnuHashError where
  code : GnuHashErrorCode
  sourceEntryIndex : Option ℕ := none
  conflictingEntryIndex : Option ℕ := none
  guestAddress : Option GuestAddress := none
  imageError : Option InitializedImageError := none
  deriving DecidableEq

/-- The number of symbols that a hash table tells. -/
structure GnuHashCountEvidence where
  hashAddress : GuestAddress
  bucketCount : UInt32
  firstHashedSymbol : UInt32
  symbolCount : UInt64
  sourceEntryIndex : ℕ
  deriving DecidableEq

/-- `DT_GNU_HASH`. -/
def kDtGnuHash : Int64 := 0x6ffffef5

/-- The most buckets that are walked. -/
def kMaxBuckets : ℕ := 65536

/-- The most words of the filter. -/
def kMaxBloomWords : ℕ := 65536

/-- The most symbols that are counted. -/
def kMaxSymbols : ℕ := 1000000

/-- Where a hash table is. -/
structure HashLocation where
  address : GuestAddress
  sourceEntryIndex : ℕ
  deriving DecidableEq

/-- `read_word`: the 32-bit word at an offset of the table. -/
def readWord (view : InitializedImageView) (location : HashLocation) (offset : ℕ) :
    Except GnuHashError UInt32 := do
  let address ← (location.address.checkedAdd ⟨UInt64.ofNat offset⟩).mapError fun _ =>
    ({ code := .hashRangeOverflow, sourceEntryIndex := location.sourceEntryIndex,
       guestAddress := location.address } : GnuHashError)
  let range ← (GuestRange.create address ⟨4⟩).mapError fun _ =>
    ({ code := .hashRangeOverflow, sourceEntryIndex := location.sourceEntryIndex,
       guestAddress := address } : GnuHashError)
  let bytes ← (view.copyBytes range 4).mapError fun (e : InitializedImageError) =>
    ({ code := .hashDataUnreadable, sourceEntryIndex := location.sourceEntryIndex,
       guestAddress := e.guestAddress.getD address, imageError := some e } : GnuHashError)
  return u32At bytes 0

/-- `power_of_two`. -/
def powerOfTwo (value : UInt32) : Bool := value != 0 && value &&& (value - 1) == 0

/-- The walk along a chain from symbol `index` to the first entry with its low bit set. At
most `remaining` symbols are left before the limit. -/
def chainEnd (view : InitializedImageView) (location : HashLocation) (chainsOffset symoffset : ℕ) :
    (remaining index : ℕ) → Except GnuHashError ℕ
  | 0, _ =>
    .error
      { code := .symbolCountLimit, sourceEntryIndex := location.sourceEntryIndex,
        guestAddress := location.address }
  | remaining + 1, index => do
    let chain ← readWord view location (chainsOffset + 4 * (index - symoffset))
    if chain &&& 1 ≠ 0 then return index + 1
    else chainEnd view location chainsOffset symoffset remaining (index + 1)

/-- One bucket: it is empty, or begins a chain of hashed symbols within the limit. -/
def checkBucket (view : InitializedImageView) (location : HashLocation) (bucketsOffset : ℕ)
    (symoffset : UInt32) (highestBucket : UInt32) (i : ℕ) : Except GnuHashError UInt32 := do
  let bucket ← readWord view location (bucketsOffset + 4 * i)
  refuseIf (bucket ≠ 0 ∧ (bucket < symoffset ∨ bucket.toNat ≥ kMaxSymbols))
    { code := .invalidBucket, sourceEntryIndex := location.sourceEntryIndex,
      guestAddress := location.address }
  return max highestBucket bucket

/-- `build_gnu_hash_count_evidence`. -/
def buildGnuHashCountEvidence (table : DynamicTable) (view : InitializedImageView) :
    Except GnuHashError (Option GnuHashCountEvidence) := do
  let found ← findTag kDtGnuHash (fun entry found =>
    ({ code := .conflictingDynamicTag, sourceEntryIndex := entry.index,
       conflictingEntryIndex := found.sourceEntryIndex } : GnuHashError)) table
  match found with
  | none => return none
  | some found =>
    let location : HashLocation := ⟨⟨found.value⟩, found.sourceEntryIndex⟩
    let nbuckets ← readWord view location 0
    let symoffset ← readWord view location 4
    let bloomWords ← readWord view location 8
    -- the shift only affects lookups, but it has to be readable
    let _bloomShift ← readWord view location 12
    refuseIf (nbuckets = 0 ∨ nbuckets.toNat > kMaxBuckets ∨ powerOfTwo bloomWords = false ∨
        bloomWords.toNat > kMaxBloomWords ∨ symoffset = 0 ∨ symoffset.toNat > kMaxSymbols)
      { code := .invalidHashHeader, sourceEntryIndex := location.sourceEntryIndex,
        guestAddress := location.address }
    let bucketsOffset := 16 + 8 * bloomWords.toNat
    let chainsOffset := bucketsOffset + 4 * nbuckets.toNat
    let highestBucket ← (List.range nbuckets.toNat).foldlM
      (checkBucket view location bucketsOffset symoffset) 0
    let count ←
      if highestBucket ≠ 0 then
        chainEnd view location chainsOffset symoffset.toNat
          (kMaxSymbols - highestBucket.toNat) highestBucket.toNat
      else .ok symoffset.toNat
    return some ⟨location.address, nbuckets, symoffset, UInt64.ofNat count,
      location.sourceEntryIndex⟩

end Astraea.Loader
