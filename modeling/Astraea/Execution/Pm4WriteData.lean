import Astraea.Execution.FirstRasterSubmission

/-!
# Packets that write to GPU memory

`lower_pm4_write_data_frame_to_graphics_ir` lowers a WRITE_DATA packet of the one profile that is
supported: a control word, the two words of an address, and the values. `resolve_gpu_memory_write`
then finds the buffer the write lies in.

`writeData_reaches_buffer` follows a packet of a command buffer to the buffer its words go to.
-/

namespace Astraea.Execution

open Astraea.Base Astraea.Core Astraea.Graphics

/-! ### The lowering -/

/-- The opcode of `WRITE_DATA`. -/
def kPm4WriteDataOpcode : UInt8 := 0x37

/-- The only control word that is supported. -/
def kPm4WriteDataSupportedControlWord : UInt32 := 0x00100500

/-- Why a packet is not lowered. -/
inductive Pm4WriteDataLowerErrorCode where
  | malformedWriteData
  | unsupportedType3HeaderControlBits
  | unsupportedWriteControl
  | destinationAddressUnaligned
  | hostAllocationFailure
  deriving DecidableEq

/-- A packet that is not lowered, with the word it is about. -/
structure Pm4WriteDataLowerError where
  code : Pm4WriteDataLowerErrorCode
  wordOffset : ℕ
  type3HeaderControlBits : UInt8
  rawControlWord : UInt32 := 0
  destination : UInt64 := 0
  valueCount : ℕ := 0
  deriving DecidableEq

/-- `lower_pm4_write_data_frame_to_graphics_ir`. -/
def lowerPm4WriteDataFrameToGraphicsIr (host : Host) (frame : Pm4Type3Frame) :
    Except Pm4WriteDataLowerError GraphicsIrEmission := do
  let lowerError (code : Pm4WriteDataLowerErrorCode) : Pm4WriteDataLowerError :=
    { code := code, wordOffset := frame.wordOffset,
      type3HeaderControlBits := frame.header.lowControlBits }
  if frame.header.opcode ≠ kPm4WriteDataOpcode then
    allocate host (.pm4WriteData frame.wordOffset) (lowerError .hostAllocationFailure)
      (lowerError .hostAllocationFailure)
    return makeUnsupportedPacketIr frame.rawPacket
  else
    refuseIf (frame.header.lowControlBits ≠ 0) (lowerError .unsupportedType3HeaderControlBits)
    let encodedCount := frame.header.encodedCount.toNat
    refuseIf (encodedCount < 3 ∨ frame.rawPacket.rawWords.length ≠ encodedCount + 2 ∨
      frame.header.totalWordCount ≠ encodedCount + 2) (lowerError .malformedWriteData)
    let valueCount := encodedCount - 2
    refuseIf (valueCount = 0) { lowerError .malformedWriteData with valueCount := valueCount }
    let controlWord := frame.rawPacket.word 1
    refuseIf (controlWord ≠ kPm4WriteDataSupportedControlWord)
      { lowerError .unsupportedWriteControl with
        rawControlWord := controlWord, valueCount := valueCount }
    let destination :=
      (frame.rawPacket.word 2).toUInt64 ||| (frame.rawPacket.word 3).toUInt64 <<< 32
    refuseIf (destination &&& 3 ≠ 0) { lowerError .destinationAddressUnaligned with
      rawControlWord := controlWord, destination := destination, valueCount := valueCount }
    allocate host (.pm4WriteData frame.wordOffset) (lowerError .hostAllocationFailure)
      (lowerError .hostAllocationFailure)
    let values := (List.range valueCount).map fun index => frame.rawPacket.word (index + 4)
    return ⟨.gpuMemoryWrite destination values, frame.rawPacket⟩

/-- A packet of a command buffer that writes values to an address, word by word as the buffer spells
it. -/
structure WritesData (commandBuffer : List UInt8) (frame : Pm4Type3Frame) (destination : UInt64)
    (values : List UInt32) :
    Prop where
  opcode : frame.header.opcode = kPm4WriteDataOpcode
  lowControlBits : frame.header.lowControlBits = 0
  control : readLittleEndianWord commandBuffer (frame.wordOffset + 1) =
    kPm4WriteDataSupportedControlWord
  address : destination = (readLittleEndianWord commandBuffer (frame.wordOffset + 2)).toUInt64 |||
    (readLittleEndianWord commandBuffer (frame.wordOffset + 3)).toUInt64 <<< 32
  aligned : destination &&& 3 = 0
  count : values.length + 4 = frame.header.totalWordCount
  positive : 0 < values.length
  word : ∀ index < values.length,
    values[index]? = some (readLittleEndianWord commandBuffer (frame.wordOffset + (index + 4)))

section Lower

variable {commandBuffer : List UInt8} {frame : Pm4Type3Frame} {host : Host} {destination : UInt64}
  {values : List UInt32} {packet : RawPacket}

/-- **A packet that is lowered to a write spells it.** -/
theorem writesData_of_lower (hof : FrameOf commandBuffer frame)
    (h : lowerPm4WriteDataFrameToGraphicsIr host frame =
      .ok ⟨.gpuMemoryWrite destination values, packet⟩) :
    WritesData commandBuffer frame destination values := by
  unfold lowerPm4WriteDataFrameToGraphicsIr at h
  dsimp only at h
  split at h
  · simp only [bind_eq_ok, pure_eq_ok, makeUnsupportedPacketIr, GraphicsIrEmission.mk.injEq] at h
    obtain ⟨-, -, hoperation, -⟩ := h
    cases hoperation
  · rename_i hopcode
    simp only [bind_eq_ok, refuseIf_eq_ok, pure_eq_ok, GraphicsIrEmission.mk.injEq,
      GraphicsIrOperation.gpuMemoryWrite.injEq, not_or, not_not] at h
    obtain ⟨_, hbits, _, ⟨hthree, -, htotal⟩, _, -, _, hcontrol, _, haligned, _, -, ⟨rfl, rfl⟩,
      -⟩ := h
    have hword {index : ℕ} (hindex : index < frame.header.encodedCount.toNat + 2) :
        frame.rawPacket.word index =
          readLittleEndianWord commandBuffer (frame.wordOffset + index) :=
      word_of_frameOf hof (by omega)
    refine ⟨not_not.mp hopcode, hbits, ?_, ?_, haligned, ?_, ?_, fun index hindex => ?_⟩
    · rw [← hword (by omega)]
      exact hcontrol
    · rw [hword (by omega), hword (by omega)]
    · rw [List.length_map, List.length_range, htotal]
      omega
    · rw [List.length_map, List.length_range]
      omega
    · rw [List.length_map, List.length_range] at hindex
      rw [List.getElem?_map, List.getElem?_range hindex, Option.map_some, hword (by omega)]

end Lower

/-! ### The buffer of a write -/

theorem rangeLaw_run (calls : List GpuRegistration) :
    RangeLaw (GuestGpuBufferAddressSpace.run calls).regions
      (GuestGpuBufferAddressSpace.run calls).outcome := by
  rw [GuestGpuBufferAddressSpace.regions_eq, GuestGpuBufferAddressSpace.outcome_eq,
    GuestGpuBufferAddressSpace.asAllocations_run]
  exact (GuestGpuAllocationAddressSpace.wellFormed_run calls).rangeLaw

variable {resolution : GuestGpuBufferResolution}

theorem resolveRange_eq_ok_iff {space : GuestGpuBufferAddressSpace} {address byteCount : UInt64} :
    space.resolveRange address byteCount = .ok resolution ↔
      space.outcome address byteCount =
        .found resolution.bufferId resolution.byteOffset resolution.byteCount := by
  rw [GuestGpuBufferAddressSpace.outcome]
  cases space.resolveRange address byteCount with
  | error e => simp
  | ok other =>
    obtain ⟨id, offset, count⟩ := other
    obtain ⟨id', offset', count'⟩ := resolution
    simp

/-- A write lies in a buffer that was registered, at an offset. -/
structure LiesInBuffer (calls : List GpuRegistration) (destination : UInt64) (values : List UInt32)
    (resolution : GuestGpuBufferResolution) (base byteSize : UInt64) : Prop where
  registered : (GuestGpuBufferAddressSpace.run calls).regions[resolution.bufferId.toNat]? =
    some (base, byteSize)
  low : base.toNat ≤ destination.toNat
  high : destination.toNat + values.length * 4 ≤ base.toNat + byteSize.toNat
  byteOffset : resolution.byteOffset.toNat = destination.toNat - base.toNat
  byteCount : resolution.byteCount.toNat = values.length * 4

/-- **Where a write goes.** Whatever buffers were registered, a write of a few words is resolved
exactly to the buffer it lies in as a whole. -/
theorem resolveGpuMemoryWrite_eq_ok_iff (calls : List GpuRegistration) {destination : UInt64}
    {values : List UInt32} (hpositive : 0 < values.length) (hcount : values.length < 2 ^ 32) :
    resolveGpuMemoryWrite destination values (GuestGpuBufferAddressSpace.run calls) =
      .ok resolution ↔
      ∃ base byteSize, LiesInBuffer calls destination values resolution base byteSize := by
  have hlength : (UInt64.ofNat values.length).toNat = values.length := toNat_ofNat_of_lt (by omega)
  have hbytes : (UInt64.ofNat values.length * 4).toNat = values.length * 4 := by
    rw [UInt64.toNat_mul, hlength]
    exact Nat.mod_eq_of_lt (by show values.length * 4 < 2 ^ 64; omega)
  have hfits : ¬ UInt64.ofNat values.length > u64Max / 4 := by
    rw [gt_iff_lt, UInt64.lt_iff_toNat_lt, hlength, UInt64.toNat_div, toNat_u64Max]
    show ¬ (2 ^ 64 - 1) / 4 < values.length
    omega
  have hpos : 0 < UInt64.ofNat values.length * 4 := by
    rw [UInt64.lt_iff_toNat_lt, hbytes]
    show 0 < _
    omega
  simp only [resolveGpuMemoryWrite, bind_eq_ok, refuseIf_eq_ok, mapError_eq_ok,
    resolveRange_eq_ok_iff, (rangeLaw_run calls).found _ _ _ _ _ hpos]
  constructor
  · rintro ⟨-, -, base, byteSize, hregistered, ⟨hlow, hhigh⟩, hoffset, hbyteCount⟩
    refine ⟨base, byteSize, hregistered, hlow, ?_, hoffset, ?_⟩
    · rw [← hbytes]
      exact hhigh
    · rw [hbyteCount, hbytes]
  · rintro ⟨base, byteSize, h⟩
    refine ⟨(), hfits, base, byteSize, h.registered, ⟨h.low, ?_⟩, h.byteOffset, ?_⟩
    · rw [hbytes]
      exact h.high
    · rw [← UInt64.toNat_inj, h.byteCount, hbytes]

/-- **From the packet to the buffer.** Where a packet of a command buffer is lowered to a write of
values, the control word, the address and the values are the words of the buffer behind its header;
and whatever buffers were registered, the write is resolved exactly to the one in which all its
values lie. -/
theorem writeData_reaches_buffer {host : Host} {commandBuffer : List UInt8}
    {frames : List Pm4Type3Frame} (hframes : framePm4Type3Stream host commandBuffer = .ok frames)
    {frame : Pm4Type3Frame} (hframe : frame ∈ frames) {lowerHost : Host} {destination : UInt64}
    {values : List UInt32} {packet : RawPacket}
    (hlower : lowerPm4WriteDataFrameToGraphicsIr lowerHost frame =
      .ok ⟨.gpuMemoryWrite destination values, packet⟩) (calls : List GpuRegistration) :
    WritesData commandBuffer frame destination values ∧
    ∀ resolution, resolveGpuMemoryWrite destination values (GuestGpuBufferAddressSpace.run calls) =
      .ok resolution ↔
      ∃ base byteSize, LiesInBuffer calls destination values resolution base byteSize := by
  have hof := (tiles_of_framePm4Type3Stream hframes).frameOf frame hframe
  have hwrites := writesData_of_lower hof hlower
  have htotal := totalWordCount_of_frameOf hof
  have hcount := hwrites.count
  have hencoded := frame.header.encodedCount.toNat_lt
  exact ⟨hwrites, fun resolution =>
    resolveGpuMemoryWrite_eq_ok_iff calls hwrites.positive (by omega)⟩

/-- A packet that writes two words to `0x1010`. -/
def writeDataBytes : List UInt8 := wordsBytes ([0xc0043700, 0x00100500, 0x1010, 0, 7, 8].map (4, ·))

/-- The frame that writes two words. -/
def writeDataFrame : Pm4Type3Frame :=
  ⟨0, type3Header 0xc0043700, ⟨⟨0, 6⟩, (List.range 6).map (readRawWord writeDataBytes)⟩⟩

/-- The words go to the second of two buffers, 16 bytes behind its base. -/
theorem writeData_reaches_buffer_second :
    resolveGpuMemoryWrite 0x1010 [7, 8]
      (GuestGpuBufferAddressSpace.run [⟨Host.plentiful, 0x2000, 0x100⟩,
        ⟨Host.plentiful, 0x1000, 0x100⟩]) =
        .ok ⟨1, 0x10, 8⟩ := by
  have hframes : framePm4Type3Stream Host.plentiful writeDataBytes =
    .ok [writeDataFrame] := by decide +kernel
  have hlower : lowerPm4WriteDataFrameToGraphicsIr Host.plentiful writeDataFrame =
      .ok ⟨.gpuMemoryWrite 0x1010 [7, 8], writeDataFrame.rawPacket⟩ := by decide +kernel
  obtain ⟨-, hresolves⟩ := writeData_reaches_buffer hframes List.mem_cons_self hlower
    [⟨Host.plentiful, 0x2000, 0x100⟩, ⟨Host.plentiful, 0x1000, 0x100⟩]
  refine (hresolves ⟨1, 0x10, 8⟩).mpr
    ⟨0x1000, 0x100, ?_, by decide, by decide, by decide, by decide⟩
  decide +kernel

end Astraea.Execution
