import Astraea.Base.Word
import Astraea.Graphics.ShaderVectorExecution

/-!
# Vector operations, lane by lane

A vector operation reads its sources before it writes, so it does the same whichever registers
are sources and destination: every active lane of the destination gets the result for the
values from before, and nothing else changes. `V_ADD_F32` may meet a lane whose sum it does
not support; then nothing at all is written, and the first such lane is reported.
-/

namespace Astraea.Graphics

open Astraea.Base

/-- The lanes of a wave. -/
def waveLaneCount : ShaderWaveSize → ℕ
  | .wave32 => 32
  | .wave64 => 64
  | .unspecified => 0

/-- A lane is one of the wave's and its bit of `EXEC` is set. -/
def ActiveLane (waveSize : ShaderWaveSize) (exec : UInt64) (lane : Fin kShaderMaxWaveLaneCount) :
    Prop :=
  lane.val < waveLaneCount waveSize ∧ exec.toNat.testBit lane.val = true

instance (waveSize : ShaderWaveSize) (exec : UInt64) (lane : Fin kShaderMaxWaveLaneCount) :
    Decidable (ActiveLane waveSize exec lane) :=
  inferInstanceAs (Decidable (_ ∧ _))

/-- The active lanes of one register have the values `value`, and everything else is as before. -/
def WritesLanes (destination : ShaderIrVgpr) (exec : UInt64)
    (value : Fin kShaderMaxWaveLaneCount → UInt32) (before after : ShaderVectorState) : Prop :=
  after.waveSize = before.waveSize ∧
    ∀ (register : ShaderIrVgpr) (lane : Fin kShaderMaxWaveLaneCount),
      (after.vgpr register).get lane =
        if register = destination ∧ ActiveLane before.waveSize exec lane then value lane
        else (before.vgpr register).get lane

/-- A record of an effect has the active lanes in its mask, their values, and zero in the other
lanes. -/
def ReportsLanes (waveSize : ShaderWaveSize) (exec : UInt64)
    (value : Fin kShaderMaxWaveLaneCount → UInt32) (activeLaneMask : UInt64)
    (writtenValues : ShaderLanes) : Prop :=
  ∀ lane : Fin kShaderMaxWaveLaneCount,
    (activeLaneMask.toNat.testBit lane.val = true ↔ ActiveLane waveSize exec lane) ∧
      writtenValues.get lane = if ActiveLane waveSize exec lane then value lane else 0

/-- Two states that have the same first `count` lanes. -/
def AgreeBelow (count : ℕ) (state other : ShaderVectorState) : Prop :=
  other.waveSize = state.waveSize ∧
    ∀ (register : ShaderIrVgpr) (lane : Fin kShaderMaxWaveLaneCount), lane.val < count →
      (other.vgpr register).get lane = (state.vgpr register).get lane

/-! ### Which lanes are active -/

section Active

variable {waveSize : ShaderWaveSize} {exec activeLaneMask : UInt64} {laneCount : ℕ}
  {lane : Fin kShaderMaxWaveLaneCount}

theorem toNat_laneBit (lane : Fin kShaderMaxWaveLaneCount) :
    ((1 : UInt64) <<< UInt64.ofNat lane.val).toNat = 2 ^ lane.val := by
  have hlt : lane.val < 64 := lane.isLt
  have hpow : 2 ^ lane.val < 2 ^ 64 := Nat.pow_lt_pow_right (by omega) hlt
  rw [UInt64.toNat_shiftLeft, UInt64.toNat_ofNat', UInt64.toNat_one,
    Nat.mod_eq_of_lt (show lane.val < 2 ^ 64 by omega), Nat.mod_eq_of_lt hlt, Nat.one_shiftLeft,
    Nat.mod_eq_of_lt hpow]

theorem laneActive_iff :
    laneActive laneCount activeLaneMask lane = true ↔ lane.val < laneCount ∧
    activeLaneMask.toNat.testBit lane.val = true := by
  rw [laneActive, Bool.and_eq_true, decide_eq_true_iff, bne_iff_ne, ne_eq, ← UInt64.toNat_inj,
    UInt64.toNat_and, toNat_laneBit, UInt64.toNat_zero, ← ne_eq, and_two_pow_ne_zero]

/-- The mask of the lower half is the number modulo `2 ^ 32`. -/
theorem toNat_and_lowMask (exec : UInt64) : (exec &&& 0xffffffff).toNat = exec.toNat % 2 ^ 32 := by
  rw [UInt64.toNat_and]
  exact Nat.and_two_pow_sub_one_eq_mod exec.toNat 32

/-- A wave has a number of lanes and a mask, and its active lanes are the ones the mask has. -/
theorem exists_activeLanes (hwave : waveSize = .wave32 ∨ waveSize = .wave64) :
    ∃ activeLaneMask, activeLanes waveSize exec = some (waveLaneCount waveSize, activeLaneMask) ∧
      ∀ lane : Fin kShaderMaxWaveLaneCount, activeLaneMask.toNat.testBit lane.val = true ↔
        ActiveLane waveSize exec lane := by
  rcases hwave with rfl | rfl
  · refine ⟨_, rfl, ?_⟩
    intro lane
    rw [toNat_and_lowMask, Nat.testBit_mod_two_pow, Bool.and_eq_true, decide_eq_true_iff]
    rfl
  · refine ⟨_, rfl, ?_⟩
    intro lane
    exact ⟨fun h => ⟨lane.isLt, h⟩, fun h => h.2⟩

theorem laneActive_iff_activeLane
    (hmask : ∀ lane : Fin kShaderMaxWaveLaneCount, activeLaneMask.toNat.testBit lane.val = true ↔
      ActiveLane waveSize exec lane) :
    laneActive (waveLaneCount waveSize) activeLaneMask lane = true ↔
    ActiveLane waveSize exec lane := by
  rw [laneActive_iff, hmask lane]
  exact ⟨fun h => h.2, fun h => ⟨h.1, h⟩⟩

end Active

/-! ### Reading and writing lanes -/

section Lanes

variable {state other : ShaderVectorState} {register destination : ShaderIrVgpr}
  {values : ShaderLanes} {count : ℕ} {active : Fin kShaderMaxWaveLaneCount → Bool}

theorem get_lane {α : Type} {n : ℕ} (values : Vector α n) (lane : Fin n) :
    values.get lane = values[lane.val] :=
  rfl

theorem get_readLanes (state : ShaderVectorState) (register : ShaderIrVgpr)
    (active : Fin kShaderMaxWaveLaneCount → Bool) (lane : Fin kShaderMaxWaveLaneCount) :
    (state.readLanes register active).get lane = if active lane = true then
      (state.vgpr register).get lane else 0 := by
  rw [ShaderVectorState.readLanes, get_lane, Vector.getElem_ofFn]

theorem vgpr_setLanes (state : ShaderVectorState) (destination register : ShaderIrVgpr)
    (active : Fin kShaderMaxWaveLaneCount → Bool) (values : ShaderLanes)
    (lane : Fin kShaderMaxWaveLaneCount) :
    ((state.setLanes destination active values).vgpr register).get lane =
      if register = destination ∧ active lane = true then values.get lane
        else (state.vgpr register).get lane := by
  have hlt : destination.index.toNat < kShaderVectorGprCount := destination.index.toNat_lt
  by_cases hregister : register = destination
  · subst hregister
    have hset : (state.setLanes register active values).vgpr register =
        Vector.ofFn fun lane => if active lane = true then values.get lane
          else (state.vgpr register).get lane := by
      rw [ShaderVectorState.vgpr, ShaderVectorState.setLanes, get_lane,
        Vector.getElem_setIfInBounds_self]
    rw [hset, get_lane, Vector.getElem_ofFn]
    simp only [true_and]
  · have hindex : destination.index.toNat ≠ register.index.toNat := by
      intro heq
      apply hregister
      exact ShaderIrVgpr.ext (UInt8.toNat_inj.mp heq.symm)
    have hset : (state.setLanes destination active values).vgpr register = state.vgpr register := by
      rw [ShaderVectorState.vgpr, ShaderVectorState.setLanes, get_lane]
      exact Vector.getElem_setIfInBounds_ne _ hindex
    rw [hset, if_neg fun h => hregister h.1]

/-- Lanes below `count` of states that agree there are written in the same way. -/
theorem AgreeBelow.setLanes (h : AgreeBelow count state other) :
    AgreeBelow count (state.setLanes destination active values)
      (other.setLanes destination active values) := by
  refine ⟨h.1, ?_⟩
  intro register lane hlane
  rw [vgpr_setLanes, vgpr_setLanes, h.2 register lane hlane]

/-- What is read from active lanes below `count` is the same in states that agree there. -/
theorem AgreeBelow.readLanes (h : AgreeBelow count state other)
    (hactive : ∀ lane, active lane = true → lane.val < count) :
    other.readLanes register active = state.readLanes register active := by
  rw [ShaderVectorState.readLanes, ShaderVectorState.readLanes]
  congr 1
  funext lane
  by_cases hlane : active lane = true
  · rw [if_pos hlane, if_pos hlane, h.2 register lane (hactive lane hlane)]
  · rw [if_neg hlane, if_neg hlane]

end Lanes

/-! ### The sums -/

section Sums

variable {active : Fin kShaderMaxWaveLaneCount → Bool}
  {source0 source1 written result : ShaderLanes} {lanes : List (Fin kShaderMaxWaveLaneCount)}
  {error : ShaderVectorExecutionError}

/-- The sum in one lane. -/
def laneSum (source0 source1 : ShaderLanes) (lane : Fin kShaderMaxWaveLaneCount) : Option UInt32 :=
  exactNormalF32Sum (source0.get lane) (source1.get lane)

/-- All sums are there: the active lanes of the list hold them, and the other lanes are as they
were. -/
theorem addLanes_eq_ok (h : addLanes active source0 source1 lanes written = .ok result) :
    ∀ lane, (lane ∈ lanes → active lane = true →
      laneSum source0 source1 lane = some (result.get lane)) ∧
      (¬ (lane ∈ lanes ∧ active lane = true) → result.get lane = written.get lane) := by
  induction lanes generalizing written with
  | nil =>
    cases h
    intro lane
    exact ⟨fun hmem => absurd hmem List.not_mem_nil, fun _ => rfl⟩
  | cons first lanes ih =>
    rw [addLanes] at h
    by_cases hactive : active first = false
    · rw [if_pos hactive] at h
      intro lane
      obtain ⟨hsum, hframe⟩ := ih h lane
      constructor
      · intro hmem hlane
        rcases List.mem_cons.mp hmem with rfl | hmem
        · rw [hactive] at hlane
          cases hlane
        · exact hsum hmem hlane
      · intro hnot
        exact hframe fun hboth => hnot ⟨List.mem_cons_of_mem _ hboth.1, hboth.2⟩
    · rw [if_neg hactive] at h
      cases hfirst : exactNormalF32Sum (source0.get first) (source1.get first) with
      | none =>
        rw [hfirst] at h
        cases h
      | some sum =>
        rw [hfirst] at h
        intro lane
        obtain ⟨hsum, hframe⟩ := ih h lane
        constructor
        · intro hmem hlane
          by_cases hlater : lane ∈ lanes
          · exact hsum hlater hlane
          · rcases List.mem_cons.mp hmem with rfl | hmem
            · rw [hframe fun hboth => hlater hboth.1, get_lane, Vector.getElem_set_self]
              exact hfirst
            · exact absurd hmem hlater
        · intro hnot
          rw [hframe fun hboth => hnot ⟨List.mem_cons_of_mem _ hboth.1, hboth.2⟩, get_lane,
            get_lane, Vector.getElem_set_ne]
          intro heq
          refine hnot ⟨List.mem_cons.mpr (.inl (Fin.ext heq.symm)), ?_⟩
          rw [← Fin.ext heq]
          exact Bool.not_eq_false _ ▸ hactive

/-- A sum is missing: the error names the first active lane of the list that has none. -/
theorem addLanes_eq_error (h : addLanes active source0 source1 lanes written = .error error) :
    ∃ before lane after, lanes = before ++ lane :: after ∧
      error = ⟨.unsupportedF32Case, some lane.val⟩ ∧
      active lane = true ∧ laneSum source0 source1 lane = none ∧
      ∀ earlier ∈ before, active earlier = true → laneSum source0 source1 earlier ≠ none := by
  induction lanes generalizing written with
  | nil => cases h
  | cons first lanes ih =>
    rw [addLanes] at h
    by_cases hactive : active first = false
    · rw [if_pos hactive] at h
      obtain ⟨before, lane, after, hlanes, herror, hlane, hnone, hbefore⟩ := ih h
      refine ⟨first :: before, lane, after, by rw [hlanes, List.cons_append], herror, hlane, hnone,
        ?_⟩
      intro earlier hmem hearlier
      rcases List.mem_cons.mp hmem with rfl | hmem
      · rw [hactive] at hearlier
        cases hearlier
      · exact hbefore earlier hmem hearlier
    · rw [if_neg hactive] at h
      cases hfirst : exactNormalF32Sum (source0.get first) (source1.get first) with
      | none =>
        rw [hfirst] at h
        cases h
        exact ⟨[], first, lanes, rfl, rfl, Bool.not_eq_false _ ▸ hactive, hfirst,
          fun _ hmem => absurd hmem List.not_mem_nil⟩
      | some sum =>
        rw [hfirst] at h
        obtain ⟨before, lane, after, hlanes, herror, hlane, hnone, hbefore⟩ := ih h
        refine ⟨first :: before, lane, after, by rw [hlanes, List.cons_append], herror, hlane,
          hnone, ?_⟩
        intro earlier hmem hearlier
        rcases List.mem_cons.mp hmem with rfl | hmem
        · rw [laneSum, hfirst]
          exact Option.some_ne_none sum
        · exact hbefore earlier hmem hearlier

theorem addLanes_congr {other0 other1 : ShaderLanes}
    (h : ∀ lane, active lane = true → other0.get lane = source0.get lane ∧
      other1.get lane = source1.get lane) :
    addLanes active other0 other1 lanes written =
      addLanes active source0 source1 lanes written := by
  induction lanes generalizing written with
  | nil => rfl
  | cons first lanes ih =>
    rw [addLanes, addLanes]
    by_cases hactive : active first = false
    · rw [if_pos hactive, if_pos hactive, ih]
    · obtain ⟨h0, h1⟩ := h first (Bool.not_eq_false _ ▸ hactive)
      rw [if_neg hactive, if_neg hactive, h0, h1]
      cases exactNormalF32Sum (source0.get first) (source1.get first) with
      | none => rfl
      | some sum => exact ih

/-- The lanes of the loop are the ones below its bound, in order. -/
theorem mem_loopLanes {count : ℕ} {lane : Fin kShaderMaxWaveLaneCount} :
    lane ∈ (List.finRange kShaderMaxWaveLaneCount).take count ↔ lane.val < count := by
  rw [List.mem_take_iff_getElem]
  constructor
  · rintro ⟨i, hi, rfl⟩
    rw [List.getElem_finRange]
    exact lt_of_lt_of_le hi (min_le_left _ _)
  · intro h
    refine ⟨lane.val, lt_min h ?_, ?_⟩
    · rw [List.length_finRange]
      exact lane.isLt
    · rw [List.getElem_finRange]
      rfl

end Sums

/-! ### The two operations -/

section Operations

variable {scalarState otherScalar : ShaderScalarState} {vectorState otherVector : ShaderVectorState}

/-- **A move is lane-wise.** -/
theorem executeShaderVectorMove32Operation_laneWise
    (hwave : vectorState.waveSize = .wave32 ∨ vectorState.waveSize = .wave64)
    (destination source : ShaderIrVgpr) :
    ∃ effect after,
      executeShaderVectorMove32Operation
        (.vectorMove32 destination source) scalarState vectorState = (.ok effect, after) ∧
      WritesLanes destination scalarState.exec (vectorState.vgpr source).get vectorState after ∧
      ReportsLanes vectorState.waveSize scalarState.exec
        (vectorState.vgpr source).get effect.activeLaneMask
        effect.writtenValues ∧
      effect.waveSize = vectorState.waveSize ∧ effect.destinationVgpr = destination.index ∧
      effect.sourceVgpr = source.index := by
  obtain ⟨activeLaneMask, hlanes, hmask⟩ := @exists_activeLanes _ scalarState.exec hwave
  have hactive := fun lane => @laneActive_iff_activeLane _ _ _ lane hmask
  have hrun : executeShaderVectorMove32Operation
    (.vectorMove32 destination source) scalarState vectorState =
      (.ok ⟨vectorState.waveSize, destination.index, source.index, activeLaneMask,
          vectorState.readLanes source
            (laneActive (waveLaneCount vectorState.waveSize) activeLaneMask)⟩,
        vectorState.setLanes destination
          (laneActive (waveLaneCount vectorState.waveSize) activeLaneMask)
          (vectorState.readLanes source
            (laneActive (waveLaneCount vectorState.waveSize) activeLaneMask))) := by
    simp only [executeShaderVectorMove32Operation, hlanes]
  refine ⟨_, _, hrun, ⟨rfl, ?_⟩, ?_, rfl, rfl, rfl⟩
  · intro register lane
    rw [vgpr_setLanes, get_readLanes]
    simp only [hactive]
    by_cases hwritten : register = destination ∧
      ActiveLane vectorState.waveSize scalarState.exec lane
    · rw [if_pos hwritten, if_pos hwritten, if_pos hwritten.2]
    · rw [if_neg hwritten, if_neg hwritten]
  · intro lane
    refine ⟨hmask lane, ?_⟩
    rw [get_readLanes]
    simp only [hactive]

/-- **A sum is lane-wise**, or it is refused at the first active lane that has no exact sum. -/
theorem executeShaderVectorAddF32ExactOperation_laneWise
    (hwave : vectorState.waveSize = .wave32 ∨ vectorState.waveSize = .wave64)
    (destination source0 source1 : ShaderIrVgpr) :
    (∃ effect after value,
      executeShaderVectorAddF32ExactOperation
        (.vectorAddF32 destination source0 source1) scalarState vectorState =
        (.ok effect, after) ∧
      (∀ lane, ActiveLane vectorState.waveSize scalarState.exec lane →
        laneSum (vectorState.vgpr source0) (vectorState.vgpr source1) lane = some (value lane)) ∧
      WritesLanes destination scalarState.exec value vectorState after ∧
      ReportsLanes vectorState.waveSize scalarState.exec value effect.activeLaneMask
        effect.writtenValues ∧
      effect.waveSize = vectorState.waveSize ∧ effect.destinationVgpr = destination.index ∧
      effect.source0Vgpr = source0.index ∧ effect.source1Vgpr = source1.index) ∨
    (∃ lane,
      executeShaderVectorAddF32ExactOperation
        (.vectorAddF32 destination source0 source1) scalarState vectorState =
        (.error ⟨.unsupportedF32Case, some lane.val⟩, vectorState) ∧
      ActiveLane vectorState.waveSize scalarState.exec lane ∧
      laneSum (vectorState.vgpr source0) (vectorState.vgpr source1) lane = none ∧
      ∀ smaller < lane, ActiveLane vectorState.waveSize scalarState.exec smaller →
        laneSum (vectorState.vgpr source0) (vectorState.vgpr source1) smaller ≠ none) := by
  obtain ⟨activeLaneMask, hlanes, hmask⟩ := @exists_activeLanes _ scalarState.exec hwave
  have hactive := fun lane => @laneActive_iff_activeLane _ _ _ lane hmask
  cases hsums : addLanes (laneActive (waveLaneCount vectorState.waveSize) activeLaneMask)
    (vectorState.vgpr source0)
      (vectorState.vgpr source1)
        ((List.finRange kShaderMaxWaveLaneCount).take (waveLaneCount vectorState.waveSize))
      (Vector.replicate _ 0) with
  | ok writtenValues =>
    have hsum := addLanes_eq_ok hsums
    have hrun : executeShaderVectorAddF32ExactOperation
      (.vectorAddF32 destination source0 source1) scalarState
        vectorState =
        (.ok ⟨vectorState.waveSize, destination.index, source0.index, source1.index, activeLaneMask,
          writtenValues⟩, vectorState.setLanes destination
          (laneActive (waveLaneCount vectorState.waveSize) activeLaneMask) writtenValues) := by
      simp only [executeShaderVectorAddF32ExactOperation, hlanes, hsums]
    refine .inl ⟨_, _, writtenValues.get, hrun, ?_, ⟨rfl, ?_⟩, ?_, rfl, rfl, rfl, rfl⟩
    · intro lane hlane
      exact (hsum lane).1 (mem_loopLanes.mpr hlane.1) ((hactive lane).mpr hlane)
    · intro register lane
      rw [vgpr_setLanes]
      simp only [hactive]
    · intro lane
      refine ⟨hmask lane, ?_⟩
      by_cases hlane : ActiveLane vectorState.waveSize scalarState.exec lane
      · rw [if_pos hlane]
      · rw [if_neg hlane, (hsum lane).2 fun hboth => hlane ((hactive lane).mp hboth.2), get_lane,
          Vector.getElem_replicate]
  | error e =>
    obtain ⟨before, lane, after, hsplit, rfl, hlane, hnone, hbefore⟩ := addLanes_eq_error hsums
    refine .inr ⟨lane, by simp only [executeShaderVectorAddF32ExactOperation, hlanes, hsums],
      (hactive lane).mp hlane, hnone, ?_⟩
    intro smaller hsmaller hsmallerActive
    have hmem : smaller ∈ before ++ lane :: after := by
      rw [← hsplit]
      exact mem_loopLanes.mpr hsmallerActive.1
    have hsorted : (before ++ lane :: after).Pairwise (· < ·) := by
      rw [← hsplit]
      exact (List.pairwise_lt_finRange _).sublist (List.take_sublist _ _)
    rcases List.mem_append.mp hmem with hearlier | hlater
    · exact hbefore smaller hearlier ((hactive smaller).mpr hsmallerActive)
    · rcases List.mem_cons.mp hlater with rfl | hlater
      · exact absurd hsmaller (Nat.lt_irrefl _)
      · have hgt := List.rel_of_pairwise_cons (List.pairwise_append.mp hsorted).2.1 hlater
        exact absurd hsmaller (Nat.lt_asymm hgt)

theorem executeShaderVectorOperations_frame (operation : ShaderIrOperation)
    (error : ShaderVectorExecutionError) :
    ((executeShaderVectorMove32Operation operation scalarState vectorState).1 = .error error →
      (executeShaderVectorMove32Operation operation scalarState vectorState).2 = vectorState) ∧
    ((executeShaderVectorAddF32ExactOperation operation scalarState vectorState).1 = .error error →
      (executeShaderVectorAddF32ExactOperation operation scalarState vectorState).2 =
        vectorState) := by
  constructor
  · unfold executeShaderVectorMove32Operation
    split
    · split
      · exact fun _ => rfl
      · exact fun h => nomatch h
    · exact fun _ => rfl
  · unfold executeShaderVectorAddF32ExactOperation
    split
    · split
      · exact fun _ => rfl
      · dsimp only
        split
        · exact fun _ => rfl
        · exact fun h => nomatch h
    · exact fun _ => rfl

/-- In a wave of 32 lanes the mask of active lanes depends on the lower half of `EXEC` only. -/
theorem activeLanes_wave32_congr {exec other : UInt64}
    (h : other.toNat % 2 ^ 32 = exec.toNat % 2 ^ 32) :
    activeLanes .wave32 other = activeLanes .wave32 exec := by
  have hmask : other &&& 0xffffffff = exec &&& 0xffffffff := by
    rw [← UInt64.toNat_inj, toNat_and_lowMask, toNat_and_lowMask, h]
  rw [activeLanes, activeLanes, hmask]

/-- **In a wave of 32 lanes the upper lanes and the upper half of `EXEC` do not matter.** -/
theorem executeShaderVectorOperations_wave32 (hwave : vectorState.waveSize = .wave32)
    (hexec : otherScalar.exec.toNat % 2 ^ 32 = scalarState.exec.toNat % 2 ^ 32)
    (hagree : AgreeBelow 32 vectorState otherVector) (operation : ShaderIrOperation) :
    ((executeShaderVectorMove32Operation operation otherScalar otherVector).1 =
        (executeShaderVectorMove32Operation operation scalarState vectorState).1 ∧
      AgreeBelow 32 (executeShaderVectorMove32Operation operation scalarState vectorState).2
        (executeShaderVectorMove32Operation operation otherScalar otherVector).2) ∧
    ((executeShaderVectorAddF32ExactOperation operation otherScalar otherVector).1 =
        (executeShaderVectorAddF32ExactOperation operation scalarState vectorState).1 ∧
      AgreeBelow 32 (executeShaderVectorAddF32ExactOperation operation scalarState vectorState).2
        (executeShaderVectorAddF32ExactOperation operation otherScalar otherVector).2) := by
  have hlanes : activeLanes otherVector.waveSize otherScalar.exec =
      activeLanes vectorState.waveSize scalarState.exec := by
    rw [hagree.1, hwave, activeLanes_wave32_congr hexec]
  have hvalue : activeLanes vectorState.waveSize scalarState.exec =
      some (32, scalarState.exec &&& 0xffffffff) := by
    rw [hwave, activeLanes]
  have hbelow : ∀ lane, laneActive 32 (scalarState.exec &&& 0xffffffff) lane = true →
      lane.val < 32 :=
    fun lane h => (laneActive_iff.mp h).1
  constructor
  · cases operation with
    | vectorMove32 destination source =>
      simp only [executeShaderVectorMove32Operation, hlanes, hvalue]
      rw [hagree.readLanes hbelow, hagree.1]
      exact ⟨rfl, hagree.setLanes⟩
    | _ => exact ⟨rfl, hagree⟩
  · cases operation with
    | vectorAddF32 destination source0 source1 =>
      have hsums :=
        @addLanes_congr (laneActive 32 (scalarState.exec &&& 0xffffffff)) (vectorState.vgpr source0)
        (vectorState.vgpr source1) (Vector.replicate _ 0)
          ((List.finRange kShaderMaxWaveLaneCount).take 32)
        (otherVector.vgpr source0) (otherVector.vgpr source1)
        fun lane hlane => ⟨hagree.2 source0 lane (hbelow lane hlane),
          hagree.2 source1 lane (hbelow lane hlane)⟩
      simp only [executeShaderVectorAddF32ExactOperation, hlanes, hvalue]
      rw [hsums, hagree.1]
      cases addLanes (laneActive 32 (scalarState.exec &&& 0xffffffff)) (vectorState.vgpr source0)
          (vectorState.vgpr source1) ((List.finRange kShaderMaxWaveLaneCount).take 32)
            (Vector.replicate _ 0) with
      | error e => exact ⟨rfl, hagree⟩
      | ok writtenValues => exact ⟨rfl, hagree.setLanes⟩
    | _ => exact ⟨rfl, hagree⟩

end Operations

/-- **Vector operations are lane-wise, safe under aliasing, and atomic.** On success the active
lanes of the destination have the results computed from the old state and nothing else changed; on
failure nothing changed, and the lane reported is the first active one without an exact sum. In a
wave of 32 lanes the upper lanes and the upper half of `EXEC` make no difference. -/
theorem vectorOperations_laneWise (scalarState : ShaderScalarState)
    (vectorState : ShaderVectorState)
    (hwave : vectorState.waveSize = .wave32 ∨ vectorState.waveSize = .wave64) :
    (∀ destination source, ∃ effect after,
      executeShaderVectorMove32Operation
        (.vectorMove32 destination source) scalarState vectorState = (.ok effect, after) ∧
      WritesLanes destination scalarState.exec (vectorState.vgpr source).get vectorState after ∧
      ReportsLanes vectorState.waveSize scalarState.exec
        (vectorState.vgpr source).get effect.activeLaneMask
        effect.writtenValues ∧
      effect.waveSize = vectorState.waveSize ∧ effect.destinationVgpr = destination.index ∧
      effect.sourceVgpr = source.index) ∧
    (∀ destination source0 source1,
      (∃ effect after value,
        executeShaderVectorAddF32ExactOperation
          (.vectorAddF32 destination source0 source1) scalarState vectorState =
          (.ok effect, after) ∧
        (∀ lane, ActiveLane vectorState.waveSize scalarState.exec lane →
          laneSum (vectorState.vgpr source0) (vectorState.vgpr source1) lane = some (value lane)) ∧
        WritesLanes destination scalarState.exec value vectorState after ∧
        ReportsLanes vectorState.waveSize scalarState.exec value effect.activeLaneMask
          effect.writtenValues ∧
        effect.waveSize = vectorState.waveSize ∧ effect.destinationVgpr = destination.index ∧
        effect.source0Vgpr = source0.index ∧ effect.source1Vgpr = source1.index) ∨
      (∃ lane,
        executeShaderVectorAddF32ExactOperation
          (.vectorAddF32 destination source0 source1) scalarState vectorState =
          (.error ⟨.unsupportedF32Case, some lane.val⟩, vectorState) ∧
        ActiveLane vectorState.waveSize scalarState.exec lane ∧
        laneSum (vectorState.vgpr source0) (vectorState.vgpr source1) lane = none ∧
        ∀ smaller < lane, ActiveLane vectorState.waveSize scalarState.exec smaller →
          laneSum (vectorState.vgpr source0) (vectorState.vgpr source1) smaller ≠ none)) ∧
    (∀ operation error,
      ((executeShaderVectorMove32Operation operation scalarState vectorState).1 = .error error →
        (executeShaderVectorMove32Operation operation scalarState vectorState).2 = vectorState) ∧
      ((executeShaderVectorAddF32ExactOperation operation scalarState vectorState).1 =
        .error error →
        (executeShaderVectorAddF32ExactOperation operation scalarState vectorState).2 =
          vectorState)) ∧
    (vectorState.waveSize = .wave32 → ∀ otherScalar otherVector,
      otherScalar.exec.toNat % 2 ^ 32 = scalarState.exec.toNat % 2 ^ 32 →
      AgreeBelow 32 vectorState otherVector →
      ∀ operation,
        ((executeShaderVectorMove32Operation operation otherScalar otherVector).1 =
            (executeShaderVectorMove32Operation operation scalarState vectorState).1 ∧
          AgreeBelow 32 (executeShaderVectorMove32Operation operation scalarState vectorState).2
            (executeShaderVectorMove32Operation operation otherScalar otherVector).2) ∧
        ((executeShaderVectorAddF32ExactOperation operation otherScalar otherVector).1 =
            (executeShaderVectorAddF32ExactOperation operation scalarState vectorState).1 ∧
          AgreeBelow 32
            (executeShaderVectorAddF32ExactOperation operation scalarState vectorState).2
            (executeShaderVectorAddF32ExactOperation operation otherScalar otherVector).2)) := by
  refine ⟨?_, ?_, ?_, ?_⟩
  · intro destination source
    exact executeShaderVectorMove32Operation_laneWise hwave destination source
  · intro destination source0 source1
    exact executeShaderVectorAddF32ExactOperation_laneWise hwave destination source0 source1
  · intro operation error
    exact executeShaderVectorOperations_frame operation error
  · intro hwave32 otherScalar otherVector hexec hagree operation
    exact executeShaderVectorOperations_wave32 hwave32 hexec hagree operation

/-- A wave of 32 lanes: register 0 holds one in every lane, and register 1 two. -/
def oneAndTwo : ShaderVectorState where
  waveSize := .wave32
  vgprs := ((Vector.replicate _ (Vector.replicate _ 0)).set 0 (Vector.replicate _ 0x3f800000)
    (by decide)).set 1 (Vector.replicate _ 0x40000000) (by decide)

/-- The first and the third lane are active. -/
def firstAndThird : ShaderScalarState := ⟨Vector.replicate _ 0, 0, 0, 5, false⟩

theorem vgpr_oneAndTwo_zero : oneAndTwo.vgpr ⟨0⟩ = Vector.replicate _ 0x3f800000 := by
  have hlt : 0 < kShaderVectorGprCount := by decide
  show oneAndTwo.vgprs[0] = _
  simp [oneAndTwo]

theorem vgpr_oneAndTwo_one : oneAndTwo.vgpr ⟨1⟩ = Vector.replicate _ 0x40000000 := by
  have hlt : 1 < kShaderVectorGprCount := by decide
  show oneAndTwo.vgprs[1] = _
  simp [oneAndTwo]

/-- A register is added to another one into itself: its active lanes become three, the lane between
them stays one, and the other register stays as it was. -/
theorem vectorOperations_laneWise_aliased :
    ∃ effect after,
      executeShaderVectorAddF32ExactOperation (.vectorAddF32 ⟨0⟩ ⟨0⟩ ⟨1⟩) firstAndThird oneAndTwo =
        (.ok effect, after) ∧
      (∀ lane, (after.vgpr ⟨0⟩).get lane =
        if lane.val = 0 ∨ lane.val = 2 then 0x40400000 else 0x3f800000) ∧
      ∀ lane, (after.vgpr ⟨1⟩).get lane = 0x40000000 := by
  obtain ⟨-, hadd, -⟩ := vectorOperations_laneWise firstAndThird oneAndTwo (.inl rfl)
  have hsum : ∀ lane, laneSum (oneAndTwo.vgpr ⟨0⟩) (oneAndTwo.vgpr ⟨1⟩) lane = some 0x40400000 := by
    intro lane
    have hthree : exactNormalF32Sum 0x3f800000 0x40000000 = some 0x40400000 := by decide +kernel
    rw [laneSum, vgpr_oneAndTwo_zero, vgpr_oneAndTwo_one]
    simpa [Vector.get] using hthree
  have hactive : ∀ lane, ActiveLane oneAndTwo.waveSize firstAndThird.exec lane ↔
      lane.val = 0 ∨ lane.val = 2 := by
    show ∀ lane : Fin 64, lane.val < 32 ∧ Nat.testBit 5 lane.val = true ↔
      lane.val = 0 ∨ lane.val = 2
    decide
  obtain ⟨effect, after, value, hrun, hvalue, ⟨-, hlanes⟩, -⟩ | ⟨lane, -, -, hnone, -⟩ :=
    hadd ⟨0⟩ ⟨0⟩ ⟨1⟩
  · refine ⟨effect, after, hrun, fun lane => ?_, fun lane => ?_⟩
    · rw [hlanes]
      by_cases hlane : ActiveLane oneAndTwo.waveSize firstAndThird.exec lane
      · have hthree := hvalue lane hlane
        rw [hsum, Option.some_inj] at hthree
        rw [if_pos ⟨rfl, hlane⟩, if_pos ((hactive lane).mp hlane), hthree]
      · rw [if_neg fun h => hlane h.2, if_neg fun h => hlane ((hactive lane).mpr h),
          vgpr_oneAndTwo_zero]
        simp [Vector.get]
    · rw [hlanes, if_neg fun h => absurd h.1 (by decide), vgpr_oneAndTwo_one]
      simp [Vector.get]
  · rw [hsum] at hnone
    cases hnone

end Astraea.Graphics
