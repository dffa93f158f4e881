import Astraea.Core.HostAllocation
import Astraea.Base.LittleEndian

/-!
# Framing of PM4 command buffers

A command buffer is a sequence of type-3 packets. The first word of a packet is its header:
it carries an opcode and the number of words that follow. `frame_pm4_type3_stream` cuts a
buffer into packets and `parse_raw_packet` copies the words of one.

`FrameOf` says what a frame has to do with the buffer it was cut from, and
`tiles_of_framePm4Type3Stream` that the frames of a buffer tile it.
-/

namespace Astraea.Graphics

open Astraea.Base Astraea.Core

/-! ### Packets -/

/-- The bytes of a word. -/
def kPacketWordBytes : ℕ := 4

/-- `std::numeric_limits<std::size_t>::max()`. -/
def kSizeMax : ℕ := 2 ^ 64 - 1

/-- Why a packet is refused. -/
inductive PacketErrorCode where
  | commandBufferNotWordAligned
  | emptyPacket
  | packetRangeOverflow
  | packetRangeOutOfBounds
  | hostAllocationFailure
  deriving DecidableEq

/-- A packet that is refused, with the word it is about. -/
structure PacketError where
  code : PacketErrorCode
  wordOffset : ℕ
  wordCount : ℕ
  deriving DecidableEq

/-- A word of a packet, and where it is. -/
structure RawPacketWord where
  bytes : Vector UInt8 4
  deriving DecidableEq

/-- Where a packet starts, and its number of words. -/
structure PacketExtent where
  wordOffset : ℕ
  wordCount : ℕ
  deriving DecidableEq

/-- A packet and its words. -/
structure RawPacket where
  extent : PacketExtent
  rawWords : List RawPacketWord
  deriving DecidableEq

/-- `read_raw_word`. -/
def readRawWord (commandBuffer : List UInt8) (wordIndex : ℕ) : RawPacketWord :=
  ⟨Vector.ofFn fun index => commandBuffer.getD (wordIndex * kPacketWordBytes + index) 0⟩

/-- `raw_word_value`. -/
def rawWordValue (word : RawPacketWord) : UInt32 := UInt32.ofNat (leValue word.bytes.toList)

/-- `parse_raw_packet`. -/
def parseRawPacket (host : Host) (commandBuffer : List UInt8) (extent : PacketExtent) :
    Except PacketError RawPacket := do
  let packetError (code : PacketErrorCode) : PacketError :=
    ⟨code, extent.wordOffset, extent.wordCount⟩
  refuseIf (commandBuffer.length % kPacketWordBytes ≠ 0) (packetError .commandBufferNotWordAligned)
  refuseIf (extent.wordCount = 0) (packetError .emptyPacket)
  refuseIf (extent.wordOffset > kSizeMax - extent.wordCount) (packetError .packetRangeOverflow)
  let packetEnd := extent.wordOffset + extent.wordCount
  let availableWords := commandBuffer.length / kPacketWordBytes
  refuseIf (extent.wordOffset ≥ availableWords ∨ packetEnd > availableWords)
    (packetError .packetRangeOutOfBounds)
  allocate host (.pm4RawPacket extent.wordOffset) (packetError .hostAllocationFailure)
    (packetError .hostAllocationFailure)
  return ⟨extent, (List.range extent.wordCount).map fun index =>
    readRawWord commandBuffer (extent.wordOffset + index)⟩

/-! ### Frames -/

/-- The type of the packets that are framed. -/
def kPm4Type3PacketType : UInt8 := 3

/-- The fields of a header. -/
structure Pm4Type3Header where
  rawWord : UInt32
  opcode : UInt8
  encodedCount : UInt16
  lowControlBits : UInt8
  bodyWordCount : ℕ
  totalWordCount : ℕ
  deriving DecidableEq

/-- A packet of a stream, with its header. -/
structure Pm4Type3Frame where
  wordOffset : ℕ
  header : Pm4Type3Header
  rawPacket : RawPacket
  deriving DecidableEq

/-- Why a stream is refused. -/
inductive Pm4Type3FrameErrorCode where
  | commandBufferNotWordAligned
  | unsupportedPacketType
  | truncatedPacket
  | hostSizeUnrepresentable
  | rawPacketFailure
  | hostAllocationFailure
  deriving DecidableEq

/-- A stream that is refused, with the word it is about. -/
structure Pm4Type3FrameError where
  code : Pm4Type3FrameErrorCode
  wordOffset : ℕ
  headerType : Option UInt8 := none
  requiredWords : ℕ := 0
  availableWords : ℕ := 0
  packetError : Option PacketError := none
  deriving DecidableEq

/-- `read_little_endian_word`. -/
def readLittleEndianWord (bytes : List UInt8) (wordOffset : ℕ) : UInt32 :=
  u32At bytes (wordOffset * kPacketWordBytes)

/-- `(raw_header >> kTypeShift) & kTypeMask`. -/
def headerType (rawHeader : UInt32) : UInt8 := (rawHeader >>> 30 &&& 0x3).toUInt8

/-- The header of a packet, from its first word. -/
def type3Header (rawHeader : UInt32) : Pm4Type3Header :=
  let encodedCount := (rawHeader >>> 16 &&& 0x3fff).toUInt16
  { rawWord := rawHeader
    opcode := (rawHeader >>> 8 &&& 0xff).toUInt8
    encodedCount := encodedCount
    lowControlBits := (rawHeader &&& 0xff).toUInt8
    bodyWordCount := encodedCount.toNat + 1
    totalWordCount := encodedCount.toNat + 2 }

section Stream

variable (host : Host) (commandBuffer : List UInt8)

/-- One turn of the loop: the frame at a word offset. -/
def frameAt (wordOffset : ℕ) : Except Pm4Type3FrameError Pm4Type3Frame := do
  let rawHeader := readLittleEndianWord commandBuffer wordOffset
  let type := headerType rawHeader
  let availableWords := commandBuffer.length / kPacketWordBytes - wordOffset
  refuseIf (type ≠ kPm4Type3PacketType) ⟨.unsupportedPacketType, wordOffset, type, 1,
    availableWords, none⟩
  let header := type3Header rawHeader
  refuseIf (header.encodedCount.toNat > kSizeMax - 2)
    ⟨.hostSizeUnrepresentable, wordOffset, type, 0, availableWords, none⟩
  refuseIf (header.totalWordCount > availableWords)
    ⟨.truncatedPacket, wordOffset, type, header.totalWordCount, availableWords, none⟩
  let rawPacket ← (parseRawPacket host commandBuffer ⟨wordOffset, header.totalWordCount⟩).mapError
      fun e =>
    (⟨.rawPacketFailure, wordOffset, type, header.totalWordCount, availableWords, some e⟩ :
      Pm4Type3FrameError)
  allocate host (.pm4Frame wordOffset) { code := .hostAllocationFailure, wordOffset := wordOffset }
    { code := .hostSizeUnrepresentable, wordOffset := wordOffset }
  return ⟨wordOffset, header, rawPacket⟩

/-- The loop, from a word offset on. -/
def frameFrom (wordOffset : ℕ) : Except Pm4Type3FrameError (List Pm4Type3Frame) :=
  if wordOffset < commandBuffer.length / kPacketWordBytes then do
    let frame ← frameAt host commandBuffer wordOffset
    let frames ← frameFrom (wordOffset + (frame.header.encodedCount.toNat + 2))
    return frame :: frames
  else return []
termination_by commandBuffer.length / kPacketWordBytes - wordOffset
decreasing_by omega

/-- `frame_pm4_type3_stream`. -/
def framePm4Type3Stream : Except Pm4Type3FrameError (List Pm4Type3Frame) := do
  refuseIf (commandBuffer.length % kPacketWordBytes ≠ 0)
    { code := .commandBufferNotWordAligned, wordOffset := 0 }
  frameFrom host commandBuffer 0

end Stream

/-! ### What a frame is -/

/-- A frame that was cut from a buffer: its header is a word of the buffer, and its packet the words
from there on. -/
structure FrameOf (commandBuffer : List UInt8) (frame : Pm4Type3Frame) : Prop where
  header : frame.header = type3Header (readLittleEndianWord commandBuffer frame.wordOffset)
  extent : frame.rawPacket.extent = ⟨frame.wordOffset, frame.header.totalWordCount⟩
  rawWords : frame.rawPacket.rawWords =
    (List.range frame.header.totalWordCount).map fun index =>
      readRawWord commandBuffer (frame.wordOffset + index)
  fits : (frame.wordOffset + frame.header.totalWordCount) * 4 ≤ commandBuffer.length

theorem rawWordValue_readRawWord {commandBuffer : List UInt8} {wordIndex : ℕ}
    (h : (wordIndex + 1) * 4 ≤ commandBuffer.length) :
    rawWordValue (readRawWord commandBuffer wordIndex) =
      readLittleEndianWord commandBuffer wordIndex := by
  unfold rawWordValue readLittleEndianWord u32At leAt
  congr 2
  apply List.ext_getElem
  · simp only [Vector.length_toList, List.length_take, List.length_drop, kPacketWordBytes]
    omega
  · intro index h1 h2
    simp only [Vector.length_toList] at h1
    have hindex : wordIndex * kPacketWordBytes + index < commandBuffer.length := by
      unfold kPacketWordBytes
      omega
    simp [readRawWord, List.getElem?_eq_getElem hindex]

@[simp] theorem totalWordCount_type3Header (rawHeader : UInt32) :
    (type3Header rawHeader).totalWordCount = (type3Header rawHeader).encodedCount.toNat + 2 := rfl

variable {wordOffset : ℕ} {frames : List Pm4Type3Frame}

theorem frameOf_of_frameAt {host : Host} {commandBuffer : List UInt8} {frame : Pm4Type3Frame}
    (h : frameAt host commandBuffer wordOffset = .ok frame) :
    FrameOf commandBuffer frame ∧ frame.wordOffset = wordOffset := by
  simp only [frameAt, parseRawPacket, bind_eq_ok, refuseIf_eq_ok, mapError_eq_ok, allocate_eq_ok,
    pure_eq_ok] at h
  obtain ⟨-, -, -, -, -, hfits, _, ⟨-, -, -, -, -, -, -, hrange, -, -, rfl⟩, -, -, rfl⟩ := h
  refine ⟨⟨rfl, rfl, rfl, ?_⟩, rfl⟩
  unfold kPacketWordBytes at hrange
  show (wordOffset + (type3Header (readLittleEndianWord commandBuffer wordOffset)).totalWordCount) *
    4 ≤ _
  omega

/-- The frames of a buffer from a word offset on: each begins where the one before it ends, and the
last one ends the buffer. -/
def Tiles (commandBuffer : List UInt8) : (wordOffset : ℕ) → List Pm4Type3Frame → Prop
  | wordOffset, [] => wordOffset * 4 = commandBuffer.length
  | wordOffset, frame :: frames =>
    frame.wordOffset = wordOffset ∧ FrameOf commandBuffer frame ∧
      Tiles commandBuffer (wordOffset + frame.header.totalWordCount) frames

theorem Tiles.frameOf {commandBuffer : List UInt8} (h : Tiles commandBuffer wordOffset frames) :
    ∀ frame ∈ frames, FrameOf commandBuffer frame := by
  induction frames generalizing wordOffset with
  | nil => simp
  | cons first frames ih =>
    obtain ⟨-, hfirst, hrest⟩ := h
    rw [List.forall_mem_cons]
    exact ⟨hfirst, ih hrest⟩

theorem tiles_of_frameFrom {host : Host} {commandBuffer : List UInt8}
    (haligned : commandBuffer.length % 4 = 0) (hstart : wordOffset * 4 ≤ commandBuffer.length)
    (h : frameFrom host commandBuffer wordOffset = .ok frames) :
    Tiles commandBuffer wordOffset frames := by
  induction frames generalizing wordOffset with
  | nil =>
    rw [frameFrom] at h
    split_ifs at h with hmore
    · simp only [bind_eq_ok, pure_eq_ok] at h
      obtain ⟨_, -, _, -, h⟩ := h
      cases h
    · unfold kPacketWordBytes at hmore
      unfold Tiles
      omega
  | cons first frames ih =>
    rw [frameFrom] at h
    split_ifs at h with hmore
    · simp only [bind_eq_ok, pure_eq_ok, List.cons.injEq] at h
      obtain ⟨frame, hfirst, _, hrest, hframe, rfl⟩ := h
      subst hframe
      obtain ⟨hframe, hoffset⟩ := frameOf_of_frameAt hfirst
      have htotal : frame.header.totalWordCount = frame.header.encodedCount.toNat + 2 := by
        rw [hframe.header, totalWordCount_type3Header]
      have hfits := hframe.fits
      rw [hoffset, htotal] at hfits
      refine ⟨hoffset, hframe, ?_⟩
      rw [htotal]
      exact ih hfits hrest
    · cases h

/-- **The frames of a buffer tile it.** -/
theorem tiles_of_framePm4Type3Stream {host : Host} {commandBuffer : List UInt8}
    (h : framePm4Type3Stream host commandBuffer = .ok frames) :
    Tiles commandBuffer 0 frames := by
  simp only [framePm4Type3Stream, bind_eq_ok, refuseIf_eq_ok, not_not] at h
  obtain ⟨-, haligned, h⟩ := h
  exact tiles_of_frameFrom haligned (by omega) h

end Astraea.Graphics
