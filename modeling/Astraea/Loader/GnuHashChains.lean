import Astraea.Base.Chain
import Astraea.Loader.HashEvidence

/-!
# The chains of a GNU hash table

A lookup takes a bucket and walks along the chain that begins there, until an entry has its low
bit set. The symbol count comes from one such walk, from the highest bucket. It bounds the walks
from all buckets, and no smaller count does.
-/

namespace Astraea.Loader

open Astraea.Base Astraea.Memory

variable {view : InitializedImageView} {evidence : GnuHashCountEvidence} {location : HashLocation}

/-- A word of the table the evidence is from. -/
def GnuHashCountEvidence.word (evidence : GnuHashCountEvidence) (view : InitializedImageView)
    (offset : ℕ) :
    Except GnuHashError UInt32 :=
  readWord view ⟨evidence.hashAddress, evidence.sourceEntryIndex⟩ offset

/-- A chain begins at `head`: it is the number in a bucket, and not zero. -/
def GnuHashCountEvidence.IsHead (evidence : GnuHashCountEvidence) (view : InitializedImageView)
    (bloomWords : UInt32) (head : ℕ) : Prop :=
  ∃ i < evidence.bucketCount.toNat,
    ∃ bucket, evidence.word view (16 + 8 * bloomWords.toNat + 4 * i) = .ok bucket ∧
    bucket ≠ 0 ∧ head = bucket.toNat

/-- The chain entry of a symbol: whether its low bit is set. -/
def GnuHashCountEvidence.chainEntry (evidence : GnuHashCountEvidence) (view : InitializedImageView)
    (bloomWords : UInt32) (index : ℕ) : Except GnuHashError Bool :=
  (evidence.word view (16 + 8 * bloomWords.toNat + 4 * evidence.bucketCount.toNat +
    4 * (index - evidence.firstHashedSymbol.toNat))).map fun chain => chain &&& 1 != 0

/-! ### The walk and the buckets -/

section Scan

variable {chainsOffset bucketsOffset symoffset remaining index count : ℕ}
  {first highest result : UInt32} {buckets : List ℕ}

/-- The chain entry of a symbol, by the place of the table. -/
def chainEntryAt (view : InitializedImageView) (location : HashLocation)
    (chainsOffset symoffset index : ℕ) :
    Except GnuHashError Bool :=
  (readWord view location (chainsOffset + 4 * (index - symoffset))).map fun chain =>
    chain &&& 1 != 0

/-- The walk that counts is the walk of a lookup, and it stays within the limit. -/
theorem chainEnd_eq_ok
    (h : chainEnd view location chainsOffset symoffset remaining index = .ok count) :
    ∃ last, count = last + 1 ∧ last < index + remaining ∧
      ChainEnds (chainEntryAt view location chainsOffset symoffset) index last := by
  induction remaining generalizing index with
  | zero => cases h
  | succ remaining ih =>
    rw [chainEnd, bind_eq_ok] at h
    obtain ⟨chain, hchain, h⟩ := h
    have hentry : chainEntryAt view location chainsOffset symoffset index =
        .ok (chain &&& 1 != 0) := by
      rw [chainEntryAt, hchain]
      rfl
    by_cases hlow : chain &&& 1 ≠ 0
    · rw [if_pos hlow] at h
      cases h
      rw [bne_iff_ne.mpr hlow] at hentry
      exact ⟨index, rfl, by omega, .start, hentry⟩
    · rw [if_neg hlow] at h
      obtain ⟨last, hcount, hlt, hvisits, hlast⟩ := ih h
      rw [bne_eq_false_iff_eq.mpr (not_not.mp hlow)] at hentry
      refine ⟨last, hcount, by omega, visits_of_passed (by have := hvisits.le; omega) ?_, hlast⟩
      intro i hle hlt
      by_cases hi : i = index
      · rw [hi]
        exact hentry
      · exact hvisits.passed i (by omega) hlt

/-- The bucket loop reads every bucket, and its result is the highest of them. -/
theorem foldlM_checkBucket_eq_ok
    (h : buckets.foldlM (checkBucket view location bucketsOffset first) highest = .ok result) :
    highest ≤ result ∧
      (∀ i ∈ buckets, ∃ bucket, readWord view location (bucketsOffset + 4 * i) = .ok bucket ∧
        (bucket ≠ 0 → first ≤ bucket ∧ bucket.toNat < kMaxSymbols) ∧ bucket ≤ result) ∧
      (result = highest ∨ ∃ i ∈ buckets, readWord view location (bucketsOffset + 4 * i) =
        .ok result) := by
  induction buckets generalizing highest with
  | nil =>
    cases h
    exact ⟨UInt32.le_refl _, fun _ hmem => absurd hmem List.not_mem_nil, .inl rfl⟩
  | cons i buckets ih =>
    rw [List.foldlM_cons, bind_eq_ok] at h
    obtain ⟨middle, hmiddle, h⟩ := h
    obtain ⟨hle, hall, hresult⟩ := ih h
    simp only [checkBucket, bind_eq_ok, refuseIf_eq_ok, pure_eq_ok] at hmiddle
    obtain ⟨bucket, hbucket, -, hvalid, hmax⟩ := hmiddle
    have hmaxCases : middle = highest ∧ bucket ≤ highest ∨ middle = bucket ∧ highest ≤ bucket := by
      rw [← hmax]
      show (if highest ≤ bucket then bucket else highest) = highest ∧
        _ ∨ (if highest ≤ bucket then bucket else highest) = bucket ∧ _
      by_cases hlt : highest ≤ bucket
      · rw [if_pos hlt]
        exact .inr ⟨rfl, hlt⟩
      · rw [if_neg hlt]
        exact .inl ⟨rfl, UInt32.le_of_lt (UInt32.not_le.mp hlt)⟩
    have hbounds : highest ≤ middle ∧ bucket ≤ middle := by
      rcases hmaxCases with ⟨rfl, hle⟩ | ⟨rfl, hle⟩
      · exact ⟨UInt32.le_refl _, hle⟩
      · exact ⟨hle, UInt32.le_refl _⟩
    refine ⟨UInt32.le_trans hbounds.1 hle, ?_, ?_⟩
    · intro j hj
      rcases List.mem_cons.mp hj with rfl | hj
      · refine ⟨bucket, hbucket, ?_, UInt32.le_trans hbounds.2 hle⟩
        intro hne
        rw [not_and_or, not_or] at hvalid
        rcases hvalid with hzero | ⟨hlow, hhigh⟩
        · exact absurd hne hzero
        · exact ⟨UInt32.not_lt.mp hlow, Nat.lt_of_not_le hhigh⟩
      · exact hall j hj
    · rcases hresult with rfl | ⟨j, hj, hread⟩
      · rcases hmaxCases with ⟨heq, -⟩ | ⟨heq, -⟩
        · exact .inl heq
        · exact .inr ⟨i, List.mem_cons_self, heq ▸ hbucket⟩
      · exact .inr ⟨j, List.mem_cons_of_mem _ hj, hread⟩

theorem highest_lt_of_foldlM
    (h : buckets.foldlM (checkBucket view location bucketsOffset first) 0 = .ok result) :
    result.toNat < kMaxSymbols := by
  obtain ⟨-, hall, hresult⟩ := foldlM_checkBucket_eq_ok h
  rcases hresult with rfl | ⟨i, hi, hread⟩
  · decide
  · obtain ⟨bucket, hbucket, hvalid, -⟩ := hall i hi
    rw [hread] at hbucket
    cases hbucket
    by_cases hzero : result = 0
    · rw [hzero]
      decide
    · exact (hvalid hzero).2

end Scan

/-! ### The evidence -/

section Evidence

variable {table : DynamicTable}

/-- What has been read and checked when there is evidence. -/
structure GnuHashScanned (view : InitializedImageView) (evidence : GnuHashCountEvidence)
    (bloomWords highest : UInt32) : Prop where
  buckets : evidence.word view 0 = .ok evidence.bucketCount
  symoffset : evidence.word view 4 = .ok evidence.firstHashedSymbol
  bloom : evidence.word view 8 = .ok bloomWords
  symoffset_pos : evidence.firstHashedSymbol ≠ 0
  symoffset_le : evidence.firstHashedSymbol.toNat ≤ kMaxSymbols
  heads : (List.range evidence.bucketCount.toNat).foldlM
    (checkBucket view ⟨evidence.hashAddress, evidence.sourceEntryIndex⟩
    (16 + 8 * bloomWords.toNat) evidence.firstHashedSymbol) 0 = .ok highest
  count : if highest ≠ 0 then
      chainEnd view ⟨evidence.hashAddress, evidence.sourceEntryIndex⟩
        (16 + 8 * bloomWords.toNat + 4 * evidence.bucketCount.toNat)
          evidence.firstHashedSymbol.toNat
        (kMaxSymbols - highest.toNat) highest.toNat = .ok evidence.symbolCount.toNat
    else evidence.symbolCount.toNat = evidence.firstHashedSymbol.toNat

theorem exists_gnuHashScanned (h : buildGnuHashCountEvidence table view = .ok (some evidence)) :
    ∃ bloomWords highest, GnuHashScanned view evidence bloomWords highest := by
  rw [buildGnuHashCountEvidence, bind_eq_ok] at h
  obtain ⟨found, -, h⟩ := h
  cases found with
  | none => cases h
  | some found =>
    simp only [bind_eq_ok, refuseIf_eq_ok] at h
    obtain ⟨nbuckets, hbuckets, symoffset, hsymoffset, bloomWords, hbloom, -, -, -, hvalid, highest,
      hheads, h⟩ := h
    rw [not_or, not_or, not_or, not_or, not_or] at hvalid
    obtain ⟨-, -, -, -, hpos, hle⟩ := hvalid
    rw [gt_iff_lt, Nat.not_lt] at hle
    refine ⟨bloomWords, highest, ?_⟩
    by_cases hempty : highest = 0
    · rw [if_neg (not_not.mpr hempty)] at h
      cases h
      refine ⟨hbuckets, hsymoffset, hbloom, hpos, hle, hheads, ?_⟩
      rw [if_neg (not_not.mpr hempty), UInt64.toNat_ofNat', Nat.mod_eq_of_lt]
      exact hle.trans_lt (by decide)
    · rw [if_pos hempty, bind_eq_ok] at h
      obtain ⟨count, hcount, h⟩ := h
      cases h
      refine ⟨hbuckets, hsymoffset, hbloom, hpos, hle, hheads, ?_⟩
      obtain ⟨last, hlast, hlt, -⟩ := chainEnd_eq_ok hcount
      have hhighest : highest.toNat < kMaxSymbols := highest_lt_of_foldlM hheads
      have hfits : count < 2 ^ 64 := by
        unfold kMaxSymbols at hlt hhighest
        omega
      rw [if_pos hempty, UInt64.toNat_ofNat', Nat.mod_eq_of_lt hfits]
      exact hcount

/-- **The count covers every chain.** The count is at least the number of the first hashed symbol,
and within the limit. Every head is counted, and a walk from it ends inside the table or at a word
that cannot be read; no walk visits an entry outside. When there is a head at all, no smaller count
covers the chains. -/
theorem gnuHashCount_covers (h : buildGnuHashCountEvidence table view = .ok (some evidence)) :
    1 ≤ evidence.firstHashedSymbol.toNat ∧
    evidence.firstHashedSymbol.toNat ≤ evidence.symbolCount.toNat ∧
    evidence.symbolCount.toNat ≤ 1000000 ∧
    ∃ bloomWords,
      evidence.word view 0 = .ok evidence.bucketCount ∧
      evidence.word view 4 = .ok evidence.firstHashedSymbol ∧
      evidence.word view 8 = .ok bloomWords ∧
      (∀ i < evidence.bucketCount.toNat,
        ∃ bucket, evidence.word view (16 + 8 * bloomWords.toNat + 4 * i) = .ok bucket) ∧
      CoversChains (evidence.chainEntry view bloomWords) (evidence.IsHead view bloomWords)
        evidence.firstHashedSymbol.toNat evidence.symbolCount.toNat ∧
      (∀ head index, evidence.IsHead view bloomWords head →
        Visits (evidence.chainEntry view bloomWords) head index →
      index < evidence.symbolCount.toNat) ∧
      ((∃ head, evidence.IsHead view bloomWords head) → ∀ count,
        CoversChains (evidence.chainEntry view bloomWords) (evidence.IsHead view bloomWords)
          evidence.firstHashedSymbol.toNat count → evidence.symbolCount.toNat ≤ count) ∧
      ((¬ ∃ head, evidence.IsHead view bloomWords head) →
        evidence.symbolCount = evidence.firstHashedSymbol.toUInt64) := by
  obtain ⟨bloomWords, highest, hscan⟩ := exists_gnuHashScanned h
  obtain ⟨-, hall, hresult⟩ := foldlM_checkBucket_eq_ok hscan.heads
  have hpos : evidence.firstHashedSymbol.toNat ≠ 0 :=
    fun hzero => hscan.symoffset_pos (UInt32.toNat_inj.mp hzero)
  have hread : ∀ i < evidence.bucketCount.toNat, ∃ bucket,
      evidence.word view (16 + 8 * bloomWords.toNat + 4 * i) = .ok bucket ∧
      (bucket ≠ 0 → evidence.firstHashedSymbol ≤ bucket ∧ bucket.toNat < kMaxSymbols) ∧
      bucket ≤ highest :=
    fun i hi => hall i (List.mem_range.mpr hi)
  have hheads : ∀ head, evidence.IsHead view bloomWords head →
      evidence.firstHashedSymbol.toNat ≤ head ∧ head ≤ highest.toNat := by
    rintro head ⟨i, hi, bucket, hbucket, hne, rfl⟩
    obtain ⟨found, hfound, hvalid, hle⟩ := hread i hi
    rw [hbucket] at hfound
    cases hfound
    exact ⟨UInt32.le_iff_toNat_le.mp (hvalid hne).1, UInt32.le_iff_toNat_le.mp hle⟩
  have hcount := hscan.count
  by_cases hempty : highest = 0
  · have hnone : ¬ ∃ head, evidence.IsHead view bloomWords head := by
      rintro ⟨head, hhead⟩
      have hbounds := hheads head hhead
      rw [hempty, UInt32.toNat_zero] at hbounds
      omega
    rw [if_neg (not_not.mpr hempty)] at hcount
    refine ⟨by omega, by omega, hcount.trans_le hscan.symoffset_le, bloomWords, hscan.buckets,
      hscan.symoffset, hscan.bloom, ?_, ?_, ?_, ?_, ?_⟩
    · intro i hi
      obtain ⟨bucket, hbucket, -⟩ := hread i hi
      exact ⟨bucket, hbucket⟩
    · exact fun head hhead => absurd ⟨head, hhead⟩ hnone
    · exact fun head _ hhead _ => absurd ⟨head, hhead⟩ hnone
    · exact fun hsome => absurd hsome hnone
    · intro _
      rw [← UInt64.toNat_inj, hcount, UInt32.toNat_toUInt64]
  · rw [if_pos hempty] at hcount
    obtain ⟨last, hlast, hlt, hends⟩ := chainEnd_eq_ok hcount
    have hhighest : evidence.IsHead view bloomWords highest.toNat := by
      rcases hresult with hzero | ⟨i, hi, hbucket⟩
      · exact absurd hzero hempty
      · exact ⟨i, List.mem_range.mp hi, highest, hbucket, hempty, rfl⟩
    have hends : ChainEnds (evidence.chainEntry view bloomWords) highest.toNat last := hends
    have hlimit := highest_lt_of_foldlM hscan.heads
    have hbounds := hheads _ hhighest
    have hafter := hends.1.le
    have hcovers := coversChains_of_highest hheads hends
    rw [← hlast] at hcovers
    refine ⟨by omega, by omega, ?_, bloomWords, hscan.buckets, hscan.symoffset, hscan.bloom, ?_,
      hcovers, ?_, ?_, ?_⟩
    · unfold kMaxSymbols at hlt hlimit
      omega
    · intro i hi
      obtain ⟨bucket, hbucket, -⟩ := hread i hi
      exact ⟨bucket, hbucket⟩
    · intro head index hhead hvisits
      have hle := hvisits.le_of_ends ((hheads head hhead).2.trans hends.1.le) hends.2
      omega
    · intro _ count hother
      have hroom := hother.lt hhighest hends
      omega
    · exact fun hnone => absurd ⟨_, hhighest⟩ hnone

end Evidence

/-- A table of one bucket, whose chain has the one symbol after the null symbol. -/
def oneChain : List UInt8 :=
  [1, 0, 0, 0, 1, 0, 0, 0, 1, 0, 0, 0, 0, 0, 0, 0, 0, 0, 0, 0, 0, 0, 0, 0, 1, 0, 0, 0, 1, 0, 0, 0]

/-- The table at the start of the second page. -/
def oneChainView : InitializedImageView where
  imageBytes := oneChain
  intents := [⟨⟨⟨0x1000⟩, ⟨32⟩, by decide⟩, GuestPermissions.only .read, ⟨.file, 0, ⟨32⟩⟩, 0⟩]
  backed := by
    intro intent hintent
    rw [List.mem_singleton.mp hintent]
    exact ⟨rfl, by decide, fun _ => by decide⟩
  sorted := List.pairwise_singleton _ _

/-- The evidence it gives. -/
def oneChainEvidence : GnuHashCountEvidence := ⟨⟨0x1000⟩, 1, 1, 2, 0⟩

theorem gnuHashCount_covers_oneChain :
    ∃ bloomWords, CoversChains (oneChainEvidence.chainEntry oneChainView bloomWords)
      (oneChainEvidence.IsHead oneChainView bloomWords) 1 2 := by
  have hevidence : buildGnuHashCountEvidence ⟨[⟨kDtGnuHash, 0x1000, 0⟩]⟩ oneChainView =
      .ok (some oneChainEvidence) := by
    decide +kernel
  obtain ⟨-, -, -, bloomWords, -, -, -, -, hcovers, -⟩ := gnuHashCount_covers hevidence
  exact ⟨bloomWords, hcovers⟩

end Astraea.Loader
