import Astraea.Graphics.ExactF32Sum
import Astraea.Graphics.ShaderStraightLine
import Astraea.Graphics.ShaderVectorLanes
import Astraea.Graphics.SpirvProbeGlobals

/-!
# An invocation of the vector probe

An invocation does to the words of its lane what the wave does to the lane, one operation after
another, and leaves the words of the other lanes alone: `exists_foldlM_operationsInstructions`.

The registers that a program names have pointers to their words from the start of the function
on; later instructions define greater ids, so that the pointers stay.
-/

namespace Astraea.Graphics

open Astraea.Base
open Spirv (Instruction Op Globals Frame execute)

variable {e : Spirv.Enumerants} {fAdd : UInt32 → UInt32 → UInt32} {g : Globals} {index : UInt32}
  {frame frame' frame'' : Frame} {n : ℕ}

/-! ### Ids that stay -/

/-- The ids that were handed out before the `n`-th stand for the same. -/
def KeepsBelow (n : ℕ) (frame frame' : Frame) : Prop :=
  ∀ id, IsBelow n id → frame'.values id = frame.values id

theorem KeepsBelow.refl (n : ℕ) (frame : Frame) : KeepsBelow n frame frame := fun _ _ => rfl

variable {m : ℕ} {destination : ShaderIrVgpr} {value : Fin kShaderMaxWaveLaneCount → UInt32}

theorem KeepsBelow.trans (h : KeepsBelow n frame frame') (h' : KeepsBelow m frame' frame'')
    (hle : n ≤ m) :
    KeepsBelow n frame frame'' :=
  fun id hid => (h' id (hid.mono hle)).trans (h id hid)

theorem define_idOf_of_ne {k : ℕ} (hk : k < 2 ^ 32) (hm : m < 2 ^ 32) (hne : k ≠ m)
    (value : Spirv.Value) :
    (frame.define (idOf m) value).values (idOf k) = frame.values (idOf k) :=
  Frame.define_of_ne (fun heq => hne ((idOf_inj hk hm).mp heq)) value

theorem ne_of_isBelow {id : UInt32} (hid : IsBelow n id) (hle : n ≤ m) (hm : m < 2 ^ 32) :
    id ≠ idOf m := by
  obtain ⟨k, -, hk, rfl⟩ := hid
  intro heq
  have := (idOf_inj (by omega) hm).mp heq
  omega

theorem keepsBelow_define (hle : n ≤ m) (hm : m < 2 ^ 32) (value : Spirv.Value) :
    KeepsBelow n frame (frame.define (idOf m) value) :=
  fun _ hid => Function.update_of_ne (ne_of_isBelow hid hle hm) ..

/-! ### Pointers to the words of a lane -/

/-- Where the word of a lane is. -/
def laneAddress (waveSize : UInt32) (lane : ℕ) (vgpr : Fin kShaderVectorGprCount) : ℕ :=
  vgpr.val * waveSize.toNat + lane

/-- The ids of registers point to the words of a lane. -/
def PointsTo (waveSize : UInt32) (lane : ℕ) (vgprs : List (Fin kShaderVectorGprCount))
    (registerPointerIds : VgprIds) (frame : Frame) : Prop :=
  ∀ vgpr ∈ vgprs, frame.values (registerPointerIds.get vgpr) =
    some (.pointer 2 (.buffer (laneAddress waveSize lane vgpr * 4)))

section Pointers

variable {waveSize : UInt32} {shape : ProgramShape} {lane : ℕ}

theorem toNat_flattenedIndex (hwave : waveSize.toNat ≤ 64) (hlane : lane < waveSize.toNat)
    (vgpr : Fin kShaderVectorGprCount) :
    (UInt32.ofNat vgpr.val * waveSize + UInt32.ofNat lane).toNat =
      laneAddress waveSize lane vgpr := by
  have hvgpr : vgpr.val < 256 := vgpr.isLt
  have hproduct : vgpr.val * waveSize.toNat ≤ 255 * 64 := Nat.mul_le_mul (by omega) hwave
  rw [UInt32.toNat_add, UInt32.toNat_mul, UInt32.toNat_ofNat', UInt32.toNat_ofNat',
    Nat.mod_eq_of_lt (show vgpr.val < 2 ^ 32 by omega),
    Nat.mod_eq_of_lt (show lane < 2 ^ 32 by omega),
      Nat.mod_eq_of_lt (show vgpr.val * waveSize.toNat < 2 ^ 32 by omega),
    Nat.mod_eq_of_lt (by omega), laneAddress]

/-- The frame in which the pointers are made. -/
structure PrologueFrame (waveSize : UInt32) (lane : ℕ) (baseConstantIds : VgprIds)
    (vgprs : List (Fin kShaderVectorGprCount)) (frame : Frame) : Prop where
  zero : frame.values 10 = some (.word 0)
  buffer : frame.values 11 = some (.pointer 5 (.buffer 0))
  lane : frame.values 15 = some (.word (UInt32.ofNat lane))
  bases : ∀ vgpr ∈ vgprs, frame.values (baseConstantIds.get vgpr) =
    some (.word (UInt32.ofNat vgpr.val * waveSize))

theorem PrologueFrame.mono {baseConstantIds : VgprIds}
    {vgprs vgprs' : List (Fin kShaderVectorGprCount)}
    (h : PrologueFrame waveSize lane baseConstantIds vgprs frame)
    (hkeeps : KeepsBelow n frame frame') (hn : 16 ≤ n)
    (hbase : ∀ vgpr ∈ vgprs, IsBelow n (baseConstantIds.get vgpr)) (hsub : vgprs' ⊆ vgprs) :
    PrologueFrame waveSize lane baseConstantIds vgprs' frame' where
  zero := (hkeeps 10 ⟨10, by omega, by omega, rfl⟩).trans h.zero
  buffer := (hkeeps 11 ⟨11, by omega, by omega, rfl⟩).trans h.buffer
  lane := (hkeeps 15 ⟨15, by omega, by omega, rfl⟩).trans h.lane
  bases := fun vgpr hvgpr => (hkeeps _ (hbase vgpr (hsub hvgpr))).trans (h.bases vgpr (hsub hvgpr))

/-- **The pointers are made.** -/
theorem exists_foldlM_pointerInstructions (hg : ProbeGlobals e waveSize shape g)
    (hwave : waveSize.toNat ≤ 64) (hlane : lane < waveSize.toNat)
    {baseConstantIds registerPointerIds : VgprIds} {vgprs : List (Fin kShaderVectorGprCount)}
    (hn : 16 ≤ n) (hcount : n + 2 * vgprs.length < 2 ^ 32) (hnodup : vgprs.Nodup)
    (hbase : ∀ vgpr ∈ vgprs, IsBelow n (baseConstantIds.get vgpr))
    (hframe : PrologueFrame waveSize lane baseConstantIds vgprs frame) :
    ∃ frame', (pointerInstructions baseConstantIds n vgprs).foldlM (execute e fAdd g index) frame =
      some frame' ∧
      frame'.memory = frame.memory ∧ KeepsBelow n frame frame' ∧
      PointsTo waveSize lane vgprs (fillIds 2 (n + 1) vgprs registerPointerIds) frame' := by
  induction vgprs generalizing n frame registerPointerIds with
  | nil => exact ⟨frame, rfl, rfl,
      .refl n frame, fun _ hnothing => absurd hnothing List.not_mem_nil⟩
  | cons vgpr vgprs ih =>
    rw [List.length_cons] at hcount
    obtain ⟨hvgpr, hnodup⟩ := List.nodup_cons.mp hnodup
    obtain ⟨flattened, hflattened⟩ : ∃ flattened, flattened =
        frame.define (idOf n) (.word (UInt32.ofNat vgpr.val * waveSize + UInt32.ofNat lane)) :=
          ⟨_, rfl⟩
    obtain ⟨pointed, hpointed⟩ : ∃ pointed, pointed =
        flattened.define (idOf (n + 1))
          (.pointer 2 (.buffer (laneAddress waveSize lane vgpr * 4))) := ⟨_, rfl⟩
    have hkeeps : KeepsBelow n frame flattened := by
      rw [hflattened]
      exact keepsBelow_define le_rfl (by omega) _
    have hkeeps' : KeepsBelow n frame pointed := by
      rw [hpointed]
      exact hkeeps.trans (keepsBelow_define (Nat.le_succ n) (by omega) _) le_rfl
    have hflattenedFrame := hframe.mono hkeeps hn hbase (List.Subset.refl _)
    have hadd : execute e fAdd g index frame ⟨.opIAdd, [2, idOf n, baseConstantIds.get vgpr, 15]⟩ =
        some flattened := by
      rw [hflattened]
      exact Spirv.execute_iAdd (hframe.bases vgpr List.mem_cons_self) hframe.lane hg.isWord
    have hchain : execute e fAdd g index flattened
        ⟨.opAccessChain, [7, idOf (n + 1), 11, 10, idOf n]⟩ = some pointed := by
      have hindex : flattened.values (idOf n) =
          some (.word (UInt32.ofNat vgpr.val * waveSize + UInt32.ofNat lane)) := by
        rw [hflattened]
        exact Frame.define_self ..
      rw [Spirv.execute_accessChain hflattenedFrame.buffer hflattenedFrame.zero hindex hg.structType
        hg.offset hg.arrayType hg.stride hg.pointerType, toNat_flattenedIndex hwave hlane, hpointed]
      simp
    obtain ⟨frame', hrun, hmemory, hkeepsRest, hpoints⟩ :=
      @ih pointed (n + 2) (registerPointerIds.set vgpr.val (idOf (n + 1)) vgpr.isLt)
      (by omega) (by omega) hnodup
        (fun other hother => (hbase other (List.mem_cons_of_mem _ hother)).mono (by omega))
      (hframe.mono hkeeps' hn hbase (List.subset_cons_self _ _))
    refine ⟨frame', ?_, ?_, hkeeps'.trans hkeepsRest (by omega), ?_⟩
    · rw [pointerInstructions, List.foldlM_cons, hadd]
      simp only [Option.bind_eq_bind, Option.bind_some]
      rw [List.foldlM_cons, hchain]
      exact hrun
    · rw [hmemory, hpointed, hflattened]
      rfl
    · intro other hother
      rcases List.mem_cons.mp hother with rfl | hother
      · have hid : (fillIds 2 (n + 1) (other :: vgprs) registerPointerIds).get other =
            idOf (n + 1) := by
          rw [fillIds, fillIds_get_of_notMem hvgpr]
          exact Vector.getElem_set_self other.isLt
        rw [hid, hkeepsRest _ (isBelow_idOf (by omega) (by omega)), hpointed]
        exact Frame.define_self ..
      · exact hpoints other hother

end Pointers

/-! ### The words of a lane -/

/-- The buffer has the registers of a lane. -/
structure LaneHolds (waveSize : UInt32) (vgprCount : ℕ) (lane : Fin kShaderMaxWaveLaneCount)
    (memory : List UInt32) (vector : ShaderVectorState) : Prop where
  length : memory.length = vgprCount * waveSize.toNat
  words : ∀ vgpr : Fin kShaderVectorGprCount, vgpr.val < vgprCount →
    memory[laneAddress waveSize lane.val vgpr]? = some ((vector.vgprs.get vgpr).get lane)

/-- The words of the other lanes are the same. -/
def KeepsLanes (waveSize : UInt32) (lane : ℕ) (memory memory' : List UInt32) : Prop :=
  ∀ p, p % waveSize.toNat ≠ lane → memory'[p]? = memory[p]?

section Lanes

variable {waveSize : UInt32} {vgprCount : ℕ} {lane : Fin kShaderMaxWaveLaneCount}
  {memory memory' memory'' : List UInt32} {vector vector' : ShaderVectorState}

theorem KeepsLanes.refl (waveSize : UInt32) (lane : ℕ) (memory : List UInt32) :
    KeepsLanes waveSize lane memory memory :=
  fun _ _ => rfl

theorem KeepsLanes.trans {lane : ℕ} (h : KeepsLanes waveSize lane memory memory')
    (h' : KeepsLanes waveSize lane memory' memory'') :
    KeepsLanes waveSize lane memory memory'' :=
  fun p hp => (h' p hp).trans (h p hp)

theorem laneAddress_mod (hlane : lane.val < waveSize.toNat) (vgpr : Fin kShaderVectorGprCount) :
    laneAddress waveSize lane.val vgpr % waveSize.toNat = lane.val := by
  rw [laneAddress, Nat.mul_comm, Nat.mul_add_mod, Nat.mod_eq_of_lt hlane]

theorem laneAddress_inj (hlane : lane.val < waveSize.toNat)
    {vgpr other : Fin kShaderVectorGprCount} :
    laneAddress waveSize lane.val vgpr = laneAddress waveSize lane.val other ↔ vgpr = other := by
  rw [laneAddress, laneAddress, Nat.add_right_cancel_iff, Nat.mul_left_inj (by omega), Fin.val_inj]

theorem laneAddress_lt (hlane : lane.val < waveSize.toNat) {vgpr : Fin kShaderVectorGprCount}
    (hvgpr : vgpr.val < vgprCount) :
    laneAddress waveSize lane.val vgpr < vgprCount * waveSize.toNat := by
  calc laneAddress waveSize lane.val vgpr < vgpr.val * waveSize.toNat + waveSize.toNat :=
    Nat.add_lt_add_left hlane _
    _ = (vgpr.val + 1) * waveSize.toNat := (Nat.succ_mul _ _).symm
    _ ≤ vgprCount * waveSize.toNat := Nat.mul_le_mul_right _ hvgpr

/-- A word that is written is the one the wave writes in the lane. -/
theorem LaneHolds.set (h : LaneHolds waveSize vgprCount lane memory vector)
    (hlane : lane.val < waveSize.toNat) {exec : UInt64}
    (hdestination : destination.number.val < vgprCount)
    (hactive : ActiveLane vector.waveSize exec lane)
    (hwrites : WritesLanes destination exec value vector vector') :
    LaneHolds waveSize vgprCount lane
      (memory.set (laneAddress waveSize lane.val destination.number) (value lane)) vector' ∧
      KeepsLanes waveSize lane.val memory
        (memory.set (laneAddress waveSize lane.val destination.number) (value lane)) := by
  refine ⟨⟨by rw [List.length_set, h.length], ?_⟩, ?_⟩
  · intro vgpr hvgpr
    have hregister : ∃ register : ShaderIrVgpr, register.number = vgpr := by
      have hlt : vgpr.val < 256 := vgpr.isLt
      refine ⟨⟨UInt8.ofNat vgpr.val⟩, Fin.ext ?_⟩
      change (UInt8.ofNat vgpr.val).toNat = vgpr.val
      rw [UInt8.toNat_ofNat', Nat.mod_eq_of_lt hlt]
    obtain ⟨register, rfl⟩ := hregister
    have hafter := hwrites.2 register lane
    change (vector'.vgprs.get register.number).get lane = _ at hafter
    rw [hafter]
    by_cases heq : register = destination
    · rw [heq, if_pos ⟨rfl, hactive⟩, List.getElem?_set_self]
      rw [h.length]
      exact laneAddress_lt hlane hdestination
    · have hne : destination.number ≠ register.number := by
        intro hnumber
        apply heq
        apply ShaderIrVgpr.ext
        exact UInt8.toNat_inj.mp (Fin.val_eq_of_eq hnumber).symm
      rw [if_neg (fun hboth => heq hboth.1), List.getElem?_set_ne
        (fun haddress => hne ((laneAddress_inj hlane).mp haddress)), h.words register.number hvgpr]
      rfl
  · intro p hp
    rw [List.getElem?_set_ne]
    intro haddress
    rw [← haddress, laneAddress_mod hlane] at hp
    exact hp rfl

end Lanes

/-! ### Operations -/

/-- `OpFAdd` gives the sum of two normal numbers that is a normal number itself. -/
def AddsExactly (fAdd : UInt32 → UInt32 → UInt32) : Prop :=
  ∀ a b sum, IsNormalF32 a → IsNormalF32 b → IsNormalF32 sum →
    f32Value sum = f32Value a + f32Value b → fAdd a b = sum

theorem AddsExactly.eq_of_sum (h : AddsExactly fAdd) {a b sum : UInt32}
    (hsum : exactNormalF32Sum a b = some sum) :
    fAdd a b = sum := by
  obtain ⟨ha, hb, hnormal, hvalue⟩ := exactNormalF32Sum_eq_some_iff.mp hsum
  exact h a b sum ha hb hnormal hvalue

section Operations

variable {waveSize : UInt32} {shape : ProgramShape} {vgprCount : ℕ}
  {lane : Fin kShaderMaxWaveLaneCount} {registerPointerIds : VgprIds}
  {vgprs : List (Fin kShaderVectorGprCount)} {operation : ShaderIrOperation}
  {operations : List ShaderIrOperation} {wave wave' : ShaderWaveState}
  {effect : Option ShaderWaveExecutionEffect}

/-- An invocation stands where the wave does. -/
structure LaneInStep (waveSize : UInt32) (vgprCount : ℕ) (lane : Fin kShaderMaxWaveLaneCount)
    (registerPointerIds : VgprIds) (vgprs : List (Fin kShaderVectorGprCount)) (frame : Frame)
    (wave : ShaderWaveState) : Prop where
  points : PointsTo waveSize lane.val vgprs registerPointerIds frame
  holds : LaneHolds waveSize vgprCount lane frame.memory wave.vector
  size : wave.vector.waveSize = .wave32 ∨ wave.vector.waveSize = .wave64
  active : ActiveLane wave.vector.waveSize wave.scalar.exec lane

theorem PointsTo.mono (h : PointsTo waveSize lane.val vgprs registerPointerIds frame)
    (hkeeps : KeepsBelow n frame frame')
    (hbelow : ∀ vgpr ∈ vgprs, IsBelow n (registerPointerIds.get vgpr)) :
    PointsTo waveSize lane.val vgprs registerPointerIds frame' :=
  fun vgpr hvgpr => (hkeeps _ (hbelow vgpr hvgpr)).trans (h vgpr hvgpr)

/-- A register that an operation names points to the word that the wave has. -/
theorem LaneInStep.read (h : LaneInStep waveSize vgprCount lane registerPointerIds vgprs frame wave)
    (hlt : ∀ vgpr ∈ vgprs, vgpr.val < vgprCount) {register : ShaderIrVgpr}
    (hregister : register.number ∈ vgprs) :
    frame.values (pointerOf registerPointerIds register) =
        some (.pointer 2 (.buffer (laneAddress waveSize lane.val register.number * 4))) ∧
      frame.memory[laneAddress waveSize lane.val register.number]? =
        some ((wave.vector.vgpr register).get lane) :=
  ⟨h.points register.number hregister,
    h.holds.words register.number (hlt register.number hregister)⟩

/-- The store at the end of an operation writes what the wave writes in the lane. -/
theorem LaneInStep.store (fAdd : UInt32 → UInt32 → UInt32) (index : UInt32)
    (h : LaneInStep waveSize vgprCount lane registerPointerIds vgprs frame wave)
    (hg : ProbeGlobals e waveSize shape g) (hlane : lane.val < waveSize.toNat)
    (hlt : ∀ vgpr ∈ vgprs, vgpr.val < vgprCount)
    (hbelow : ∀ vgpr ∈ vgprs, IsBelow n (registerPointerIds.get vgpr))
    (hdestination : destination.number ∈ vgprs) {after : ShaderVectorState}
    (hwrites : WritesLanes destination wave.scalar.exec value wave.vector after) {object : UInt32}
    (hkeeps : KeepsBelow n frame frame') (hmemory : frame'.memory = frame.memory)
    (hobject : frame'.values object = some (.word (value lane))) :
    ∃ stored, execute e fAdd g index frame'
      ⟨.opStore, [pointerOf registerPointerIds destination, object]⟩ = some stored ∧
      KeepsBelow n frame stored ∧ KeepsLanes waveSize lane.val frame.memory stored.memory ∧
      LaneInStep waveSize vgprCount lane registerPointerIds vgprs stored { wave with
        vector := after } := by
  have hposition : laneAddress waveSize lane.val destination.number < frame'.memory.length := by
    rw [hmemory, h.holds.length]
    exact laneAddress_lt hlane (hlt _ hdestination)
  have hpointer := (hkeeps _ (hbelow _ hdestination)).trans (h.read hlt hdestination).1
  obtain ⟨hholds, hkeepsLanes⟩ := h.holds.set hlane (hlt _ hdestination) h.active hwrites
  rw [← hmemory] at hholds hkeepsLanes
  refine ⟨_, Spirv.execute_store_buffer hpointer hobject hg.isWord hposition, hkeeps, ?_,
    ⟨h.points.mono hkeeps hbelow, hholds, ?_, ?_⟩⟩
  · rw [← hmemory]
    exact hkeepsLanes
  · rw [hwrites.1]
    exact h.size
  · rw [hwrites.1]
    exact h.active

/-- **A move.** -/
theorem exists_foldlM_move (hg : ProbeGlobals e waveSize shape g)
    (hlane : lane.val < waveSize.toNat) (hlt : ∀ vgpr ∈ vgprs, vgpr.val < vgprCount)
    (hbelow : ∀ vgpr ∈ vgprs, IsBelow n (registerPointerIds.get vgpr)) (hn : n < 2 ^ 32)
    {source : ShaderIrVgpr} (hdestination : destination.number ∈ vgprs)
    (hsource : source.number ∈ vgprs)
    (h : LaneInStep waveSize vgprCount lane registerPointerIds vgprs frame wave)
    (hrun : executeOperation (.vectorMove32 destination source) wave = (.ok effect, wave')) :
    ∃ frame', (operationInstructions registerPointerIds n (.vectorMove32 destination source)).foldlM
        (execute e fAdd g index) frame = some frame' ∧
      KeepsBelow n frame frame' ∧ KeepsLanes waveSize lane.val frame.memory frame'.memory ∧
      LaneInStep waveSize vgprCount lane registerPointerIds vgprs frame' wave' := by
  obtain ⟨moved, after, hmove, hwrites, -⟩ :=
    @executeShaderVectorMove32Operation_laneWise wave.scalar wave.vector h.size destination source
  simp only [executeOperation, hmove, Prod.mk.injEq] at hrun
  obtain ⟨-, rfl⟩ := hrun
  obtain ⟨hpointer, hword⟩ := h.read hlt hsource
  obtain ⟨stored, hstore, hrest⟩ := h.store fAdd index hg hlane hlt hbelow hdestination hwrites
    (keepsBelow_define le_rfl hn _) rfl (Frame.define_self (idOf n) _)
  refine ⟨stored, ?_, hrest⟩
  rw [operationInstructions, List.foldlM_cons, Spirv.execute_load_buffer hpointer hg.isWord hword]
  simp only [Option.bind_eq_bind, Option.bind_some]
  rw [List.foldlM_cons, hstore]
  rfl

/-- **A sum.** -/
theorem exists_foldlM_add (hg : ProbeGlobals e waveSize shape g) (hadds : AddsExactly fAdd)
    (hlane : lane.val < waveSize.toNat) (hlt : ∀ vgpr ∈ vgprs, vgpr.val < vgprCount)
    (hbelow : ∀ vgpr ∈ vgprs, IsBelow n (registerPointerIds.get vgpr)) (hn : n + 5 < 2 ^ 32)
    {source0 source1 : ShaderIrVgpr} (hdestination : destination.number ∈ vgprs)
    (hsource0 : source0.number ∈ vgprs) (hsource1 : source1.number ∈ vgprs)
    (h : LaneInStep waveSize vgprCount lane registerPointerIds vgprs frame wave)
    (hrun : executeOperation (.vectorAddF32 destination source0 source1) wave =
      (.ok effect, wave')) :
    ∃ frame', (operationInstructions registerPointerIds n
      (.vectorAddF32 destination source0 source1)).foldlM
        (execute e fAdd g index) frame = some frame' ∧
      KeepsBelow n frame frame' ∧ KeepsLanes waveSize lane.val frame.memory frame'.memory ∧
      LaneInStep waveSize vgprCount lane registerPointerIds vgprs frame' wave' := by
  rcases @executeShaderVectorAddF32ExactOperation_laneWise wave.scalar wave.vector h.size
    destination source0 source1 with
    ⟨added, after, value, hadd, hsums, hwrites, -⟩ | ⟨other, hadd, -⟩
  · simp only [executeOperation, hadd, Prod.mk.injEq] at hrun
    obtain ⟨-, rfl⟩ := hrun
    obtain ⟨hpointer0, hword0⟩ := h.read hlt hsource0
    obtain ⟨hpointer1, hword1⟩ := h.read hlt hsource1
    have hsum : fAdd ((wave.vector.vgpr source0).get lane) ((wave.vector.vgpr source1).get lane) =
        value lane :=
      hadds.eq_of_sum (hsums lane h.active)
    obtain ⟨frame1, hframe1⟩ : ∃ frame1, frame1 =
      frame.define (idOf n) (.word ((wave.vector.vgpr source0).get lane)) := ⟨_, rfl⟩
    obtain ⟨frame2, hframe2⟩ : ∃ frame2, frame2 =
        frame1.define (idOf (n + 1)) (.word ((wave.vector.vgpr source1).get lane)) :=
      ⟨_, rfl⟩
    obtain ⟨frame3, hframe3⟩ : ∃ frame3, frame3 =
        frame2.define (idOf (n + 2)) (.real ((wave.vector.vgpr source0).get lane)) :=
      ⟨_, rfl⟩
    obtain ⟨frame4, hframe4⟩ : ∃ frame4, frame4 =
        frame3.define (idOf (n + 3)) (.real ((wave.vector.vgpr source1).get lane)) :=
      ⟨_, rfl⟩
    obtain ⟨frame5, hframe5⟩ :
      ∃ frame5, frame5 = frame4.define (idOf (n + 4)) (.real (value lane)) := ⟨_, rfl⟩
    obtain ⟨frame6, hframe6⟩ :
      ∃ frame6, frame6 = frame5.define (idOf (n + 5)) (.word (value lane)) := ⟨_, rfl⟩
    have hkeeps1 : KeepsBelow n frame frame1 := hframe1 ▸ keepsBelow_define le_rfl (by omega) _
    have hkeeps2 : KeepsBelow n frame frame2 :=
      hkeeps1.trans (hframe2 ▸ keepsBelow_define (by omega) (by omega) _) le_rfl
    have hkeeps3 : KeepsBelow n frame frame3 :=
      hkeeps2.trans (hframe3 ▸ keepsBelow_define (by omega) (by omega) _) le_rfl
    have hkeeps4 : KeepsBelow n frame frame4 :=
      hkeeps3.trans (hframe4 ▸ keepsBelow_define (by omega) (by omega) _) le_rfl
    have hkeeps5 : KeepsBelow n frame frame5 :=
      hkeeps4.trans (hframe5 ▸ keepsBelow_define (by omega) (by omega) _) le_rfl
    have hkeeps6 : KeepsBelow n frame frame6 :=
      hkeeps5.trans (hframe6 ▸ keepsBelow_define (by omega) (by omega) _) le_rfl
    have hload0 : execute e fAdd g index frame
        ⟨.opLoad, [2, idOf n, pointerOf registerPointerIds source0]⟩ = some frame1 := by
      rw [hframe1]
      exact Spirv.execute_load_buffer hpointer0 hg.isWord hword0
    have hload1 : execute e fAdd g index frame1
      ⟨.opLoad, [2, idOf (n + 1), pointerOf registerPointerIds source1]⟩ =
        some frame2 := by
      rw [hframe2]
      refine Spirv.execute_load_buffer
        ((hkeeps1 _ (hbelow _ hsource1)).trans hpointer1) hg.isWord ?_
      rw [hframe1]
      exact hword1
    have hcast0 : execute e fAdd g index frame2 ⟨.opBitcast, [3, idOf (n + 2), idOf n]⟩ =
        some frame3 := by
      rw [hframe3]
      refine Spirv.execute_bitcast_word ?_ hg.isReal
      rw [hframe2, define_idOf_of_ne (by omega) (by omega) (by omega), hframe1]
      exact Frame.define_self ..
    have hcast1 : execute e fAdd g index frame3 ⟨.opBitcast, [3, idOf (n + 3), idOf (n + 1)]⟩ =
        some frame4 := by
      rw [hframe4]
      refine Spirv.execute_bitcast_word ?_ hg.isReal
      rw [hframe3, define_idOf_of_ne (by omega) (by omega) (by omega), hframe2]
      exact Frame.define_self ..
    have hfAdd : execute e fAdd g index frame4
        ⟨.opFAdd, [3, idOf (n + 4), idOf (n + 2), idOf (n + 3)]⟩ = some frame5 := by
      have hleft : frame4.values (idOf (n + 2)) =
          some (.real ((wave.vector.vgpr source0).get lane)) := by
        rw [hframe4, define_idOf_of_ne (by omega) (by omega) (by omega), hframe3]
        exact Frame.define_self ..
      have hright : frame4.values (idOf (n + 3)) =
          some (.real ((wave.vector.vgpr source1).get lane)) := by
        rw [hframe4]
        exact Frame.define_self ..
      rw [Spirv.execute_fAdd hleft hright hg.isReal, hsum, hframe5]
    have hcast : execute e fAdd g index frame5 ⟨.opBitcast, [2, idOf (n + 5), idOf (n + 4)]⟩ =
        some frame6 := by
      rw [hframe6]
      refine Spirv.execute_bitcast_real ?_ hg.isWord
      rw [hframe5]
      exact Frame.define_self ..
    have hmemory : frame6.memory = frame.memory := by
      rw [hframe6, hframe5, hframe4, hframe3, hframe2, hframe1]
      rfl
    have hobject : frame6.values (idOf (n + 5)) = some (.word (value lane)) := by
      rw [hframe6]
      exact Frame.define_self ..
    obtain ⟨stored, hstore, hrest⟩ :=
      h.store fAdd index hg hlane hlt hbelow hdestination hwrites hkeeps6 hmemory hobject
    refine ⟨stored, ?_, hrest⟩
    simp only [operationInstructions, List.foldlM_cons, List.foldlM_nil, hload0, hload1, hcast0,
      hcast1, hfAdd, hcast, hstore, Option.bind_eq_bind, Option.bind_some]
    rfl
  · simp only [executeOperation, hadd, Prod.mk.injEq] at hrun
    cases hrun.1

/-- **An operation of an invocation does what the wave does in its lane.** -/
theorem exists_foldlM_operationInstructions (index : UInt32) (hg : ProbeGlobals e waveSize shape g)
    (hadds : AddsExactly fAdd) (hlane : lane.val < waveSize.toNat)
    (hlt : ∀ vgpr ∈ vgprs, vgpr.val < vgprCount)
    (hbelow : ∀ vgpr ∈ vgprs, IsBelow n (registerPointerIds.get vgpr))
    (hn : n + operationIdCount operation < 2 ^ 32) (hprobed : operation.IsProbed)
    (hnamed : ∀ register ∈ operation.registers, register.number ∈ vgprs)
    (h : LaneInStep waveSize vgprCount lane registerPointerIds vgprs frame wave)
    (hrun : executeOperation operation wave = (.ok effect, wave')) :
    ∃ frame', (operationInstructions registerPointerIds n operation).foldlM
      (execute e fAdd g index) frame = some frame' ∧
      KeepsBelow n frame frame' ∧ KeepsLanes waveSize lane.val frame.memory frame'.memory ∧
      LaneInStep waveSize vgprCount lane registerPointerIds vgprs frame' wave' := by
  cases operation with
  | nop repeatCount =>
    cases hrun
    refine ⟨frame, ?_, .refl n frame, .refl waveSize lane.val frame.memory, h⟩
    rw [operationInstructions]
    induction repeatCount.toNat with
    | zero => rfl
    | succ count ih =>
      rw [List.replicate_succ, List.foldlM_cons]
      exact ih
  | vectorMove32 destination source =>
    exact exists_foldlM_move hg hlane hlt hbelow (by omega)
      (hnamed destination (by simp [ShaderIrOperation.registers]))
      (hnamed source (by simp [ShaderIrOperation.registers])) h hrun
  | vectorAddF32 destination source0 source1 =>
    rw [operationIdCount] at hn
    have hdestination := hnamed destination (by simp [ShaderIrOperation.registers])
    have hsource0 := hnamed source0 (by simp [ShaderIrOperation.registers])
    have hsource1 := hnamed source1 (by simp [ShaderIrOperation.registers])
    exact exists_foldlM_add hg hadds hlane hlt hbelow (by omega)
      hdestination hsource0 hsource1 h hrun
  | _ => cases hprobed

/-! ### Operations one behind the other -/

/-- **The operations of an invocation do what the wave does in its lane.** -/
theorem exists_foldlM_operationsInstructions (hg : ProbeGlobals e waveSize shape g)
    (hadds : AddsExactly fAdd) (hlane : lane.val < waveSize.toNat)
    (hlt : ∀ vgpr ∈ vgprs, vgpr.val < vgprCount)
    (hbelow : ∀ vgpr ∈ vgprs, IsBelow n (registerPointerIds.get vgpr))
    (hn : n + operationsIdCount operations < 2 ^ 32)
    (hprobed : ∀ operation ∈ operations, operation.IsProbed)
    (hnamed : ∀ operation ∈ operations, ∀ register ∈ operation.registers, register.number ∈ vgprs)
    (h : LaneInStep waveSize vgprCount lane registerPointerIds vgprs frame wave)
    (hrun : runOperations operations wave = some wave') :
    ∃ frame', (operationsInstructions registerPointerIds n operations).foldlM
      (execute e fAdd g index) frame = some frame' ∧
      KeepsLanes waveSize lane.val frame.memory frame'.memory ∧
      LaneInStep waveSize vgprCount lane registerPointerIds vgprs frame' wave' := by
  induction operations generalizing n frame wave with
  | nil =>
    cases hrun
    exact ⟨frame, rfl, .refl waveSize lane.val frame.memory, h⟩
  | cons operation operations ih =>
    rw [operationsIdCount, List.map_cons, List.sum_cons] at hn
    rw [runOperations] at hrun
    cases hexecute : executeOperation operation wave with
    | mk result middle =>
      rw [hexecute] at hrun
      cases result with
      | error failure => cases hrun
      | ok effect =>
        obtain ⟨frame1, hfirst, hkeeps, hlanes, hstep⟩ :=
          exists_foldlM_operationInstructions index hg hadds hlane hlt hbelow
          (by omega) (hprobed operation List.mem_cons_self)
            (hnamed operation List.mem_cons_self) h hexecute
        obtain ⟨frame', hrest, hlanes', hstep'⟩ := ih (fun vgpr hvgpr =>
          (hbelow vgpr hvgpr).mono (Nat.le_add_right n (operationIdCount operation)))
          (by rw [operationsIdCount]; omega)
            (fun other hother => hprobed other (List.mem_cons_of_mem _ hother))
          (fun other hother => hnamed other (List.mem_cons_of_mem _ hother)) hstep hrun
        refine ⟨frame', ?_, hlanes.trans hlanes', hstep'⟩
        rw [operationsInstructions, List.foldlM_append, hfirst]
        exact hrest

/-! ### The whole function -/

theorem operationsInstructions_append (n : ℕ) (operations more : List ShaderIrOperation) :
    operationsInstructions registerPointerIds n (operations ++ more) =
      operationsInstructions registerPointerIds n operations ++
        operationsInstructions registerPointerIds (n + operationsIdCount operations) more := by
  induction operations generalizing n with
  | nil => rfl
  | cons operation operations ih =>
    rw [List.cons_append, operationsInstructions, operationsInstructions, ih, List.append_assoc,
      operationsIdCount, operationsIdCount, List.map_cons, List.sum_cons, Nat.add_assoc]

theorem operationsIdCount_append_end (operations : List ShaderIrOperation) :
    operationsIdCount (operations ++ [.endProgram]) = operationsIdCount operations := by
  rw [operationsIdCount, List.map_append, List.sum_append]
  rfl

theorem foldlM_entryInstructions (hg : ProbeGlobals e waveSize shape g) (memory : List UInt32) :
    entryInstructions.foldlM (execute e fAdd g index) ⟨g.values, memory⟩ =
      some (Frame.define ⟨g.values, memory⟩ 15 (.word index)) := by
  have hlabel : execute e fAdd g index ⟨g.values, memory⟩ ⟨.opLabel, [14]⟩ =
    some ⟨g.values, memory⟩ := rfl
  have hload : execute e fAdd g index ⟨g.values, memory⟩ ⟨.opLoad, [2, 15, 12]⟩ =
      some (Frame.define ⟨g.values, memory⟩ 15 (.word index)) :=
        Spirv.execute_load_index hg.index hg.isWord
  rw [entryInstructions, List.foldlM_cons, hlabel]
  simp only [Option.bind_eq_bind, Option.bind_some]
  rw [List.foldlM_cons, hload]
  rfl

/-- **An invocation does what the wave does in its lane.** -/
theorem exists_invoke (hlawful : e.Lawful) (hadds : AddsExactly fAdd) (hwave : waveSize.toNat ≤ 64)
    (hlane : lane.val < waveSize.toNat)
    (hcount : probeIdCount shape (operations ++ [.endProgram]) + 1 < 2 ^ 32)
    (hlt : ∀ vgpr ∈ shape.namedVgprs, vgpr.val < vgprCount)
    (hprobed : ∀ operation ∈ operations, operation.IsProbed) (hcovers : shape.Covers operations)
    (hsize : wave.vector.waveSize = .wave32 ∨ wave.vector.waveSize = .wave64)
    (hactive : ActiveLane wave.vector.waveSize wave.scalar.exec lane) {memory : List UInt32}
    (hholds : LaneHolds waveSize vgprCount lane memory wave.vector)
    (hrun : runOperations operations wave = some wave') :
    ∃ memory', Spirv.invoke e fAdd probeBinding
      (probeInstructions e waveSize shape (operations ++ [.endProgram])) memory
        (UInt32.ofNat lane.val) = some memory' ∧
      LaneHolds waveSize vgprCount lane memory' wave'.vector ∧
      KeepsLanes waveSize lane.val memory memory' := by
  obtain ⟨g, hglobals, hg⟩ :=
    @exists_globalsOf e waveSize shape (operations ++ [.endProgram]) hlawful hcount
  obtain ⟨-, hfresh⟩ := @nodup_map_baseConstantIds shape (operations ++ [.endProgram]) hcount
  rw [probeIdCount, operationsIdCount_append_end] at hcount
  have hentry := @foldlM_entryInstructions e fAdd g (UInt32.ofNat lane.val) waveSize shape hg memory
  have hframe : PrologueFrame waveSize lane.val shape.baseConstantIds shape.namedVgprs
      (Frame.define ⟨g.values, memory⟩ 15 (.word (UInt32.ofNat lane.val))) := by
    refine ⟨?_, ?_, Frame.define_self .., ?_⟩
    · rw [Frame.define_of_ne (by decide)]
      exact hg.zero
    · rw [Frame.define_of_ne (by decide)]
      exact hg.buffer
    · intro vgpr hvgpr
      have hne : shape.baseConstantIds.get vgpr ≠ 15 := by
        intro heq
        apply hfresh 15 (by decide)
        rw [← heq]
        exact List.mem_map_of_mem hvgpr
      rw [Frame.define_of_ne hne]
      exact hg.bases vgpr hvgpr
  obtain ⟨pointed, hpointers, hmemory, -, hpoints⟩ :=
    @exists_foldlM_pointerInstructions e fAdd g (UInt32.ofNat lane.val) _
    (16 + shape.namedVgprs.length) waveSize shape lane.val hg hwave hlane shape.baseConstantIds
      (Vector.replicate _ 0)
    shape.namedVgprs (by omega) (by omega) shape.nodup_namedVgprs
      (fun vgpr hvgpr => isBelow_baseConstantIds hvgpr) hframe
  have hstart : LaneInStep waveSize vgprCount lane shape.registerPointerIds shape.namedVgprs pointed
      wave := by
    refine ⟨hpoints, ?_, hsize, hactive⟩
    rw [hmemory]
    exact hholds
  obtain ⟨frame', hoperations, hlanes, hstep⟩ :=
    @exists_foldlM_operationsInstructions e fAdd g (UInt32.ofNat lane.val) pointed
    shape.firstOperationId waveSize shape vgprCount lane shape.registerPointerIds shape.namedVgprs
      operations wave wave' hg hadds
    hlane hlt (fun vgpr hvgpr => isBelow_registerPointerIds hvgpr)
      (by rw [ProgramShape.firstOperationId]; omega) hprobed hcovers
    hstart hrun
  refine ⟨frame'.memory, ?_, hstep.holds, ?_⟩
  · have hall :
      (entryInstructions ++ pointerInstructions shape.baseConstantIds
      (16 + shape.namedVgprs.length) shape.namedVgprs ++
      operationsInstructions shape.registerPointerIds shape.firstOperationId operations).foldlM
        (execute e fAdd g (UInt32.ofNat lane.val)) ⟨g.values, memory⟩ = some frame' := by
      rw [List.foldlM_append, List.foldlM_append, hentry]
      simp only [Option.bind_eq_bind, Option.bind_some, hpointers, hoperations]
    have hfunction : functionProbeInstructions shape (operations ++ [.endProgram]) =
        (entryInstructions ++ pointerInstructions shape.baseConstantIds
          (16 + shape.namedVgprs.length) shape.namedVgprs ++
          operationsInstructions shape.registerPointerIds shape.firstOperationId operations) ++
          ⟨.opReturn, []⟩ :: [⟨.opFunctionEnd, []⟩] := by
      rw [functionProbeInstructions, operationsInstructions_append]
      simp only [List.append_assoc]
      rfl
    rw [Spirv.invoke, hglobals]
    simp only [Option.bind_eq_bind, Option.bind_some, hg.entryPoint,
      functionInstructions_probeInstructions]
    rw [hfunction]
    exact Spirv.runFunction_return hall
  · rw [hmemory] at hlanes
    exact hlanes

end Operations

end Astraea.Graphics
