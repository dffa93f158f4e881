import Mathlib.Data.List.Basic
import Astraea.Base.Word

/-!
# Mapping epochs

Every mapping that is prepared is numbered, by a counter that the whole process shares. A number is
given out once; when there are none left every mapping gets zero, which stands for no number.
-/

namespace Astraea.Execution

open Astraea.Base

/-- `next_prepared_mapping_epoch`: the epoch, zero when there is none left, and the counter after
it. -/
def nextPreparedMappingEpoch (counter : UInt64) : UInt64 × UInt64 :=
  if counter = 0 ∨ counter = u64Max then (0, counter) else (counter, counter + 1)

/-- The epochs of the next `count` mappings. -/
def preparedMappingEpochs : (count : ℕ) → (counter : UInt64) → List UInt64
  | 0, _ => []
  | count + 1, counter =>
    (nextPreparedMappingEpoch counter).1 :: preparedMappingEpochs count
      (nextPreparedMappingEpoch counter).2

theorem nextPreparedMappingEpoch_of_ne {counter : UInt64} (hzero : counter ≠ 0)
    (hmax : counter ≠ u64Max) :
    nextPreparedMappingEpoch counter = (counter, counter + 1) := if_neg (not_or.mpr ⟨hzero, hmax⟩)

theorem le_of_mem_preparedMappingEpochs {count : ℕ} {counter epoch : UInt64}
    (h : epoch ∈ preparedMappingEpochs count counter) :
    epoch = 0 ∨ counter.toNat ≤ epoch.toNat := by
  induction count generalizing counter with
  | zero => cases h
  | succ count ih =>
    rw [preparedMappingEpochs, nextPreparedMappingEpoch, List.mem_cons] at h
    by_cases hlast : counter = 0 ∨ counter = u64Max
    · rw [if_pos hlast] at h
      rcases h with h | h
      · exact .inl h
      · exact ih h
    · rw [if_neg hlast] at h
      rcases h with rfl | h
      · exact .inr le_rfl
      · rcases ih h with hzero | hle
        · exact .inl hzero
        · rw [toNat_succ_of_ne_u64Max fun heq => hlast (.inr heq)] at hle
          exact .inr (by omega)

/-- **Epochs increase**, until there are none left and every mapping gets zero. -/
theorem preparedMappingEpochs_increasing (count : ℕ) (counter : UInt64) :
    (preparedMappingEpochs count counter).Pairwise fun epoch later => later = 0 ∨
    epoch.toNat < later.toNat := by
  induction count generalizing counter with
  | zero => exact List.Pairwise.nil
  | succ count ih =>
    rw [preparedMappingEpochs, List.pairwise_cons]
    refine ⟨?_, ih _⟩
    intro later hlater
    rcases le_of_mem_preparedMappingEpochs hlater with hzero | hle
    · exact .inl hzero
    · unfold nextPreparedMappingEpoch at hle hlater ⊢
      by_cases hlast : counter = 0 ∨ counter = u64Max
      · rw [if_pos hlast]
        by_cases hzero : later = 0
        · exact .inl hzero
        · have hne : later.toNat ≠ 0 := fun h => hzero (UInt64.toNat_inj.mp h)
          refine .inr ?_
          rw [UInt64.toNat_zero]
          omega
      · rw [if_neg hlast] at hle ⊢
        rw [toNat_succ_of_ne_u64Max fun heq => hlast (.inr heq)] at hle
        exact .inr hle

end Astraea.Execution
