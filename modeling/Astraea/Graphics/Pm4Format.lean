import Astraea.Graphics.Pm4Framing
import Mathlib.Data.List.Flatten

/-!
# The format of PM4 command buffers

A type-3 packet is a header word whose top two bits are 3, followed by one word more than
the count in its bits 16 to 29. A command buffer is such packets one after another.

`framePm4Type3Stream_exact` says that framing accepts this format and nothing else, what
the frames are, and where it stops when the format ends early.
-/

namespace Astraea.Graphics

open Astraea.Base Astraea.Core

/-! ### The format -/

/-- The count in a header word. -/
def type3Count (header : ℕ) : ℕ := header / 2 ^ 16 % 2 ^ 14

/-- The bytes of one packet. -/
structure Type3Packet (packet : List UInt8) : Prop where
  type : leAt 4 packet 0 / 2 ^ 30 = 3
  length : packet.length = 4 * (1 + (type3Count (leAt 4 packet 0) + 1))

/-- The bytes of packets one after another. -/
def Type3Stream (bytes : List UInt8) : Prop :=
  ∃ packets : List (List UInt8), (∀ packet ∈ packets, Type3Packet packet) ∧ bytes = packets.flatten

/-- No packet begins the bytes. -/
def NoType3Packet (bytes : List UInt8) : Prop :=
  ∀ packet rest, bytes = packet ++ rest → ¬ Type3Packet packet

theorem leAt_zero_append {width : ℕ} {bytes rest : List UInt8} (h : width ≤ bytes.length) :
    leAt width (bytes ++ rest) 0 = leAt width bytes 0 := by
  rw [leAt, leAt, List.drop_zero, List.drop_zero, List.take_append_of_le_length h]

theorem leAt_zero_drop (width : ℕ) (bytes : List UInt8) (offset : ℕ) :
    leAt width (bytes.drop offset) 0 = leAt width bytes offset := by
  rw [leAt, leAt, List.drop_zero]

variable {packet : List UInt8} {packets : List (List UInt8)} {wordOffset : ℕ}

theorem Type3Packet.le_length (h : Type3Packet packet) : 8 ≤ packet.length := by
  have := h.length
  omega

variable {rest : List UInt8} {others : List (List UInt8)} {rawHeader : UInt32}
  {frames : List Pm4Type3Frame}

theorem Type3Packet.unique {other rest' : List UInt8} (h : Type3Packet packet)
    (h' : Type3Packet other) (heq : packet ++ rest = other ++ rest') :
    packet = other ∧ rest = rest' := by
  have hheader : leAt 4 packet 0 = leAt 4 other 0 := by
    rw [← @leAt_zero_append 4 packet rest (by have := h.le_length; omega), heq,
      leAt_zero_append (by have := h'.le_length; omega)]
  refine List.append_inj heq ?_
  rw [h.length, h'.length, hheader]

section

variable (hpackets : ∀ packet ∈ packets, Type3Packet packet)
  (hothers : ∀ packet ∈ others, Type3Packet packet)

include hpackets hothers

theorem Type3Stream.not_stuck (heq : packets.flatten = others.flatten ++ rest) (hrest : rest ≠ []) :
    ¬ NoType3Packet rest := by
  induction others generalizing packets with
  | nil =>
    cases packets with
    | nil => exact absurd heq.symm hrest
    | cons packet packets =>
      intro hno
      exact hno packet packets.flatten heq.symm (hpackets packet List.mem_cons_self)
  | cons other others ih =>
    rw [List.forall_mem_cons] at hothers
    rw [List.flatten_cons, List.append_assoc] at heq
    cases packets with
    | nil =>
      have hlength := congrArg List.length heq
      have hother := hothers.1.le_length
      rw [List.flatten_nil, List.length_nil, List.length_append] at hlength
      omega
    | cons packet packets =>
      rw [List.forall_mem_cons] at hpackets
      rw [List.flatten_cons] at heq
      exact ih hpackets.2 hothers.2 (Type3Packet.unique hpackets.1 hothers.1 heq).2

theorem flatten_injective (heq : packets.flatten = others.flatten) : packets = others := by
  induction packets generalizing others with
  | nil =>
    cases others with
    | nil => rfl
    | cons other others =>
      have hlength := congrArg List.length heq
      have hother := (hothers other List.mem_cons_self).le_length
      rw [List.flatten_nil, List.flatten_cons, List.length_nil, List.length_append] at hlength
      omega
  | cons packet packets ih =>
    rw [List.forall_mem_cons] at hpackets
    cases others with
    | nil =>
      have hlength := congrArg List.length heq
      have hpacket := hpackets.1.le_length
      rw [List.flatten_nil, List.flatten_cons, List.length_nil, List.length_append] at hlength
      omega
    | cons other others =>
      rw [List.forall_mem_cons] at hothers
      rw [List.flatten_cons, List.flatten_cons] at heq
      obtain ⟨hfirst, hrest⟩ := Type3Packet.unique hpackets.1 hothers.1 heq
      rw [hfirst, ih hpackets.2 hothers.2 hrest]

end

/-! ### Header words -/

/-- The fields of a header are the bit fields of its word. -/
structure HeaderFields (header : Pm4Type3Header) : Prop where
  type : header.rawWord.toNat / 2 ^ 30 = 3
  encodedCount : header.encodedCount.toNat = type3Count header.rawWord.toNat
  opcode : header.opcode.toNat = header.rawWord.toNat / 2 ^ 8 % 2 ^ 8
  lowControlBits : header.lowControlBits.toNat = header.rawWord.toNat % 2 ^ 8
  bodyWordCount : header.bodyWordCount = header.encodedCount.toNat + 1
  totalWordCount : header.totalWordCount = 1 + header.bodyWordCount

theorem toNat_shiftRight_and (word shift : UInt32) (hshift : shift.toNat < 32) (width : ℕ)
    (mask : UInt32) (hmask : mask.toNat = 2 ^ width - 1) :
    (word >>> shift &&& mask).toNat = word.toNat / 2 ^ shift.toNat % 2 ^ width := by
  rw [UInt32.toNat_and, UInt32.toNat_shiftRight, Nat.mod_eq_of_lt hshift, hmask,
    Nat.and_two_pow_sub_one_eq_mod, Nat.shiftRight_eq_div_pow]

theorem toNat_headerType (rawHeader : UInt32) :
    (headerType rawHeader).toNat = rawHeader.toNat / 2 ^ 30 := by
  have hlt := rawHeader.toNat_lt
  rw [headerType, UInt32.toNat_toUInt8, toNat_shiftRight_and rawHeader 30 (by decide) 2 3 rfl]
  show rawHeader.toNat / 2 ^ 30 % 2 ^ 2 % 2 ^ 8 = _
  omega

theorem headerType_eq_iff :
    headerType rawHeader = kPm4Type3PacketType ↔ rawHeader.toNat / 2 ^ 30 = 3 := by
  rw [← UInt8.toNat_inj, toNat_headerType]
  rfl

theorem toNat_encodedCount (rawHeader : UInt32) :
    (type3Header rawHeader).encodedCount.toNat = type3Count rawHeader.toNat := by
  show (rawHeader >>> 16 &&& 0x3fff).toUInt16.toNat = _
  rw [UInt32.toNat_toUInt16, toNat_shiftRight_and rawHeader 16 (by decide) 14 0x3fff rfl,
    type3Count]
  show rawHeader.toNat / 2 ^ 16 % 2 ^ 14 % 2 ^ 16 = _
  omega

/-- A header word of type 3 is taken apart as the format says. -/
theorem headerFields_type3Header (htype : rawHeader.toNat / 2 ^ 30 = 3) :
    HeaderFields (type3Header rawHeader) := by
  refine ⟨htype, toNat_encodedCount rawHeader, ?_, ?_, rfl, ?_⟩
  · show (rawHeader >>> 8 &&& 0xff).toUInt8.toNat = rawHeader.toNat / 2 ^ 8 % 2 ^ 8
    rw [UInt32.toNat_toUInt8, toNat_shiftRight_and rawHeader 8 (by decide) 8 0xff rfl]
    exact Nat.mod_mod _ _
  · show (rawHeader &&& 0xff).toUInt8.toNat = rawHeader.toNat % 2 ^ 8
    rw [UInt32.toNat_toUInt8, UInt32.toNat_and]
    show (rawHeader.toNat &&& 2 ^ 8 - 1) % 2 ^ 8 = _
    rw [Nat.and_two_pow_sub_one_eq_mod, Nat.mod_mod]
  · show (type3Header rawHeader).encodedCount.toNat + 2 =
      1 + ((type3Header rawHeader).encodedCount.toNat + 1)
    omega

/-! ### Frames of packets -/

/-- The frame of a packet at a word offset. -/
def packetFrame (wordOffset : ℕ) (packet : List UInt8) : Pm4Type3Frame where
  wordOffset := wordOffset
  header := type3Header (readLittleEndianWord packet 0)
  rawPacket :=
    ⟨⟨wordOffset, packet.length / 4⟩, (List.range (packet.length / 4)).map (readRawWord packet)⟩

/-- The frames of packets that begin at a word offset. -/
def packetFrames : (wordOffset : ℕ) → List (List UInt8) → List Pm4Type3Frame
  | _, [] => []
  | wordOffset, packet :: packets =>
    packetFrame wordOffset packet :: packetFrames (wordOffset + packet.length / 4) packets

/-- A frame of a buffer that is moved by some words. -/
def Pm4Type3Frame.shift (words : ℕ) (frame : Pm4Type3Frame) : Pm4Type3Frame where
  wordOffset := frame.wordOffset + words
  header := frame.header
  rawPacket := ⟨⟨frame.rawPacket.extent.wordOffset + words, frame.rawPacket.extent.wordCount⟩,
    frame.rawPacket.rawWords⟩

/-- The bytes of a frame's raw words. -/
def Pm4Type3Frame.bytes (frame : Pm4Type3Frame) : List UInt8 :=
  frame.rawPacket.rawWords.flatMap fun word => word.bytes.toList

theorem Type3Packet.length_mod (h : Type3Packet packet) : packet.length % 4 = 0 := by
  have := h.length
  omega

theorem length_flatten_mod (h : ∀ packet ∈ packets, Type3Packet packet) :
    packets.flatten.length % 4 = 0 := by
  induction packets with
  | nil => rfl
  | cons packet packets ih =>
    rw [List.forall_mem_cons] at h
    have hpacket := h.1.length_mod
    have hrest := ih h.2
    rw [List.flatten_cons, List.length_append]
    omega

theorem packetFrames_append (h : ∀ packet ∈ packets, Type3Packet packet) :
    packetFrames wordOffset (packets ++ others) =
      packetFrames wordOffset packets ++ packetFrames
        (wordOffset + packets.flatten.length / 4) others := by
  induction packets generalizing wordOffset with
  | nil => rfl
  | cons packet packets ih =>
    rw [List.forall_mem_cons] at h
    have hpacket := h.1.length_mod
    have hlength : (packet :: packets).flatten.length / 4 =
        packet.length / 4 + packets.flatten.length / 4 := by
      rw [List.flatten_cons, List.length_append]
      omega
    rw [List.cons_append, packetFrames, packetFrames, ih h.2, hlength, List.cons_append,
      Nat.add_assoc]

theorem packetFrames_shift (wordOffset words : ℕ) (packets : List (List UInt8)) :
    packetFrames (wordOffset + words) packets =
      (packetFrames wordOffset packets).map (Pm4Type3Frame.shift words) := by
  induction packets generalizing wordOffset with
  | nil => rfl
  | cons packet packets ih =>
    rw [packetFrames, packetFrames, List.map_cons, ← ih]
    congr 2
    omega

theorem readRawWord_drop (bytes : List UInt8) (wordOffset index : ℕ) :
    readRawWord (bytes.drop (wordOffset * 4)) index = readRawWord bytes (wordOffset + index) := by
  unfold readRawWord kPacketWordBytes
  congr 2
  funext i
  rw [List.getD_eq_getElem?_getD, List.getD_eq_getElem?_getD, List.getElem?_drop]
  congr 2
  ring

theorem readRawWord_append {bytes : List UInt8} {index : ℕ} (h : (index + 1) * 4 ≤ bytes.length)
    (rest : List UInt8) :
    readRawWord (bytes ++ rest) index = readRawWord bytes index := by
  unfold readRawWord kPacketWordBytes
  congr 2
  funext i
  have hi := i.isLt
  rw [List.getD_eq_getElem?_getD, List.getD_eq_getElem?_getD, List.getElem?_append_left (by omega)]

theorem toList_readRawWord_zero {bytes : List UInt8} (h : 4 ≤ bytes.length) :
    (readRawWord bytes 0).bytes.toList = bytes.take 4 := by
  apply List.ext_getElem
  · rw [Vector.length_toList, List.length_take]
    omega
  · intro i h1 h2
    rw [Vector.length_toList] at h1
    simp only [readRawWord, kPacketWordBytes, Vector.getElem_toList, Vector.getElem_ofFn,
      List.getElem_take]
    rw [List.getD_eq_getElem _ _ (by omega)]
    congr 1
    omega

theorem bytes_packetFrame (h : packet.length % 4 = 0) :
    (packetFrame wordOffset packet).bytes = packet := by
  have hwords : ∀ (words : ℕ) (bytes : List UInt8), bytes.length = 4 * words →
      ((List.range words).map (readRawWord bytes)).flatMap (fun word => word.bytes.toList) =
        bytes := by
    intro words
    induction words with
    | zero =>
      intro bytes hlength
      rw [List.length_eq_zero_iff.mp (by omega : bytes.length = 0)]
      rfl
    | succ words ih =>
      intro bytes hlength
      have hrest : (fun index => readRawWord bytes (index + 1)) = readRawWord (bytes.drop 4) := by
        funext index
        rw [show bytes.drop 4 = bytes.drop (1 * 4) from rfl, readRawWord_drop, Nat.add_comm]
      rw [List.range_succ_eq_map, List.map_cons, List.map_map, List.flatMap_cons,
        toList_readRawWord_zero (by omega)]
      show bytes.take 4 ++ ((List.range words).map fun index =>
        readRawWord bytes (index + 1)).flatMap _ = bytes
      rw [hrest, ih (bytes.drop 4) (by rw [List.length_drop]; omega), List.take_append_drop]
  exact hwords (packet.length / 4) packet (by omega)

theorem bytes_packetFrames (h : ∀ packet ∈ packets, Type3Packet packet) :
    (packetFrames wordOffset packets).flatMap Pm4Type3Frame.bytes = packets.flatten := by
  induction packets generalizing wordOffset with
  | nil => rfl
  | cons packet packets ih =>
    rw [List.forall_mem_cons] at h
    rw [packetFrames, List.flatMap_cons, bytes_packetFrame h.1.length_mod, ih h.2,
      List.flatten_cons]

/-! ### The loop -/

section Loop

variable {host : Host} {bytes : List UInt8}

theorem toNat_readLittleEndianWord (bytes : List UInt8) (wordOffset : ℕ) :
    (readLittleEndianWord bytes wordOffset).toNat = leAt 4 (bytes.drop (wordOffset * 4)) 0 := by
  rw [readLittleEndianWord, toNat_u32At, leAt_zero_drop, kPacketWordBytes]

theorem frameAt_of_packet (hhost : ∀ site, host.allocation site = none)
    (hsize : bytes.length < 2 ^ 64) (haligned : bytes.length % 4 = 0) (hpacket : Type3Packet packet)
    (h : bytes.drop (wordOffset * 4) = packet ++ rest) :
    frameAt host bytes wordOffset = .ok (packetFrame wordOffset packet) := by
  have hlength := congrArg List.length h
  rw [List.length_drop, List.length_append] at hlength
  have hpacketLength := hpacket.length
  have hword : readLittleEndianWord bytes wordOffset = readLittleEndianWord packet 0 := by
    rw [← UInt32.toNat_inj, toNat_readLittleEndianWord, toNat_readLittleEndianWord, h, Nat.zero_mul,
      List.drop_zero, leAt_zero_append (by omega)]
  have hvalue : (readLittleEndianWord packet 0).toNat = leAt 4 packet 0 := toNat_u32At packet 0
  have htype : headerType (readLittleEndianWord packet 0) = kPm4Type3PacketType := by
    rw [headerType_eq_iff, hvalue]
    exact hpacket.type
  have hcount : (type3Header (readLittleEndianWord packet 0)).encodedCount.toNat + 2 =
      packet.length / 4 := by
    rw [toNat_encodedCount, hvalue]
    omega
  have hcountLt := (type3Header (readLittleEndianWord packet 0)).encodedCount.toNat_lt
  have hwords : (List.range (packet.length / 4)).map
    (fun index => readRawWord bytes (wordOffset + index)) =
      (List.range (packet.length / 4)).map (readRawWord packet) := by
    refine List.map_congr_left ?_
    intro index hindex
    rw [List.mem_range] at hindex
    rw [← readRawWord_drop, h, readRawWord_append (by omega)]
  simp only [frameAt, parseRawPacket, bind_eq_ok, refuseIf_eq_ok, mapError_eq_ok, allocate_eq_ok,
    pure_eq_ok, hword, totalWordCount_type3Header, hcount, kPacketWordBytes, kSizeMax]
  refine ⟨(), not_not.mpr htype, (), by omega, (), by omega, _,
    ⟨(), by omega, (), by omega, (), by omega, (), by omega, (), hhost _, rfl⟩, (), hhost _, ?_⟩
  rw [packetFrame, hwords]

theorem frameAt_of_noPacket (hmore : wordOffset < bytes.length / 4)
    (h : NoType3Packet (bytes.drop (wordOffset * 4))) :
    ∃ e, frameAt host bytes wordOffset = .error e ∧ e.wordOffset = wordOffset ∧
      (e.code = .unsupportedPacketType ∨ e.code = .truncatedPacket) := by
  have hvalue := toNat_readLittleEndianWord bytes wordOffset
  by_cases htype : headerType (readLittleEndianWord bytes wordOffset) = kPm4Type3PacketType
  · by_cases hfits : (type3Header (readLittleEndianWord bytes wordOffset)).totalWordCount ≤
      bytes.length / 4 - wordOffset
    · rw [totalWordCount_type3Header, toNat_encodedCount, hvalue] at hfits
      rw [headerType_eq_iff, hvalue] at htype
      generalize hcount : type3Count (leAt 4 (bytes.drop (wordOffset * 4)) 0) = count at hfits
      have hlength : ((bytes.drop (wordOffset * 4)).take (4 * (count + 2))).length =
          4 * (count + 2) := by
        rw [List.length_take, List.length_drop]
        omega
      have hheader := @leAt_zero_append 4 ((bytes.drop (wordOffset * 4)).take (4 * (count + 2)))
        ((bytes.drop (wordOffset * 4)).drop (4 * (count + 2))) (by omega)
      rw [List.take_append_drop] at hheader
      refine absurd ?_ (h _ _ (List.take_append_drop (4 * (count + 2)) _).symm)
      refine ⟨?_, ?_⟩
      · rw [← hheader]
        exact htype
      · rw [← hheader, hcount, hlength]
        omega
    · refine ⟨⟨.truncatedPacket, wordOffset, headerType (readLittleEndianWord bytes wordOffset),
        (type3Header (readLittleEndianWord bytes wordOffset)).totalWordCount,
          bytes.length / 4 - wordOffset, none⟩,
        ?_, rfl, .inr rfl⟩
      have hcount := (type3Header (readLittleEndianWord bytes wordOffset)).encodedCount.toNat_lt
      have hsmall : ¬ (type3Header (readLittleEndianWord bytes wordOffset)).encodedCount.toNat >
          kSizeMax - 2 := by
        rw [kSizeMax]
        omega
      simp only [frameAt]
      rw [refuseIf_of_not (not_not.mpr htype), ok_bind, refuseIf_of_not hsmall, ok_bind,
        bind_eq_error]
      exact .inl (refuseIf_eq_error.mpr ⟨Nat.not_le.mp hfits, rfl⟩)
  · refine ⟨⟨.unsupportedPacketType, wordOffset, headerType (readLittleEndianWord bytes wordOffset),
      1, bytes.length / 4 - wordOffset, none⟩, ?_, rfl, .inl rfl⟩
    simp only [frameAt]
    rw [bind_eq_error]
    exact .inl (refuseIf_eq_error.mpr ⟨htype, rfl⟩)

/-- The loop cuts packets as long as there are any, and ends with the buffer or where no
packet begins. -/
theorem frameFrom_spec (hhost : ∀ site, host.allocation site = none) (hsize : bytes.length < 2 ^ 64)
    (haligned : bytes.length % 4 = 0) (remaining : ℕ) {wordOffset : ℕ}
    (hremaining : (wordOffset + remaining) * 4 = bytes.length) :
    ∃ packets rest, (∀ packet ∈ packets, Type3Packet packet) ∧
      bytes.drop (wordOffset * 4) = packets.flatten ++ rest ∧
      (rest = [] ∧ frameFrom host bytes wordOffset = .ok (packetFrames wordOffset packets) ∨
        rest ≠ [] ∧ NoType3Packet rest ∧ ∃ e, frameFrom host bytes wordOffset = .error e ∧
          e.wordOffset * 4 = wordOffset * 4 + packets.flatten.length ∧
          (e.code = .unsupportedPacketType ∨ e.code = .truncatedPacket)) := by
  induction remaining using Nat.strong_induction_on generalizing wordOffset with
  | _ remaining ih =>
    rw [frameFrom, kPacketWordBytes]
    by_cases hmore : wordOffset < bytes.length / 4
    · rw [if_pos hmore]
      by_cases hpacket : ∃ packet rest, bytes.drop (wordOffset * 4) = packet ++ rest ∧
        Type3Packet packet
      · obtain ⟨packet, tail, hdrop, hpacket⟩ := hpacket
        have hframe := frameAt_of_packet hhost hsize haligned hpacket hdrop
        have hlength := congrArg List.length hdrop
        rw [List.length_drop, List.length_append] at hlength
        have hle := hpacket.le_length
        have hmod := hpacket.length_mod
        have hcount : (packetFrame wordOffset packet).header.encodedCount.toNat + 2 =
            packet.length / 4 := by
          have hpacketLength := hpacket.length
          show (type3Header (readLittleEndianWord packet 0)).encodedCount.toNat + 2 =
            packet.length / 4
          rw [toNat_encodedCount, toNat_readLittleEndianWord, Nat.zero_mul, List.drop_zero]
          omega
        have hdrop' : bytes.drop ((wordOffset + packet.length / 4) * 4) = tail := by
          rw [show (wordOffset + packet.length / 4) * 4 = wordOffset * 4 + packet.length by omega,
            ← List.drop_drop, hdrop, List.drop_left]
        obtain ⟨packets, rest, hall, htail, hrun⟩ :=
          @ih (remaining - packet.length / 4) (by omega) (wordOffset + packet.length / 4) (by omega)
        rw [hdrop'] at htail
        refine ⟨packet :: packets, rest, List.forall_mem_cons.mpr ⟨hpacket, hall⟩, ?_, ?_⟩
        · rw [hdrop, htail, List.flatten_cons, List.append_assoc]
        · rw [hframe, ok_bind, hcount]
          rcases hrun with ⟨hrest, hrun⟩ | ⟨hrest, hno, e, hrun, hoffset, hcode⟩
          · exact .inl ⟨hrest, by rw [hrun]; rfl⟩
          · refine .inr ⟨hrest, hno, e, by rw [hrun]; rfl, ?_, hcode⟩
            rw [List.flatten_cons, List.length_append]
            omega
      · have hno : NoType3Packet (bytes.drop (wordOffset * 4)) :=
          fun packet rest heq hwell => hpacket ⟨packet, rest, heq, hwell⟩
        obtain ⟨e, he, hoffset, hcode⟩ := frameAt_of_noPacket hmore hno
        refine ⟨[], _, by simp, rfl, .inr ⟨?_, hno, e, by rw [he]; rfl, ?_, hcode⟩⟩
        · intro hnil
          have := congrArg List.length hnil
          rw [List.length_drop, List.length_nil] at this
          omega
        · rw [hoffset, List.flatten_nil, List.length_nil, Nat.add_zero]
    · rw [if_neg hmore]
      refine ⟨[], [], by simp, ?_, .inl ⟨rfl, rfl⟩⟩
      rw [List.drop_eq_nil_iff.mpr (by omega)]
      rfl

theorem framePm4Type3Stream_of_packets (hhost : ∀ site, host.allocation site = none)
    (hpackets : ∀ packet ∈ packets, Type3Packet packet) (hsize : packets.flatten.length < 2 ^ 64) :
    framePm4Type3Stream host packets.flatten = .ok (packetFrames 0 packets) := by
  have haligned := length_flatten_mod hpackets
  rw [framePm4Type3Stream, kPacketWordBytes, refuseIf_of_not (not_not.mpr haligned), ok_bind]
  obtain ⟨found, rest, hfound, hdrop, hrun⟩ :=
    @frameFrom_spec host packets.flatten hhost hsize haligned (packets.flatten.length / 4) 0
      (by omega)
  rw [Nat.zero_mul, List.drop_zero] at hdrop
  rcases hrun with ⟨hrest, hrun⟩ | ⟨hrest, hno, -⟩
  · rw [hrest, List.append_nil] at hdrop
    rw [hrun, flatten_injective hfound hpackets hdrop.symm]
  · exact absurd hno (Type3Stream.not_stuck hpackets hfound hdrop hrest)

theorem framePm4Type3Stream_spec (hhost : ∀ site, host.allocation site = none)
    (hsize : bytes.length < 2 ^ 64) (haligned : bytes.length % 4 = 0) :
    ∃ packets rest, (∀ packet ∈ packets, Type3Packet packet) ∧ bytes = packets.flatten ++ rest ∧
      (rest = [] ∧ framePm4Type3Stream host bytes = .ok (packetFrames 0 packets) ∨
        rest ≠ [] ∧ NoType3Packet rest ∧ ∃ e, framePm4Type3Stream host bytes = .error e ∧
          e.wordOffset * 4 = packets.flatten.length ∧
          (e.code = .unsupportedPacketType ∨ e.code = .truncatedPacket)) := by
  obtain ⟨packets, rest, hall, hdrop, hrun⟩ :=
    @frameFrom_spec host bytes hhost hsize haligned (bytes.length / 4) 0 (by omega)
  rw [Nat.zero_mul, List.drop_zero] at hdrop
  simp only [Nat.zero_mul, Nat.zero_add] at hrun
  refine ⟨packets, rest, hall, hdrop, ?_⟩
  rwa [framePm4Type3Stream, kPacketWordBytes, refuseIf_of_not (not_not.mpr haligned), ok_bind]

end Loop

/-! ### Framing is exact -/

/-- What framing is for a buffer: it accepts exactly the format, and stops where the format ends. -/
structure FramingExact (host : Host) (bytes : List UInt8) : Prop where
  accepts : (∃ frames, framePm4Type3Stream host bytes = .ok frames) ↔ Type3Stream bytes
  /-- The frames tile the buffer. -/
  tiles : ∀ frames, framePm4Type3Stream host bytes = .ok frames → Tiles bytes 0 frames
  /-- Their raw words are the buffer. -/
  rawWords : ∀ frames, framePm4Type3Stream host bytes = .ok frames →
    frames.flatMap Pm4Type3Frame.bytes = bytes
  /-- Their headers are the bit fields of their first words. -/
  headers : ∀ frames, framePm4Type3Stream host bytes = .ok frames →
    ∀ frame ∈ frames, HeaderFields frame.header
  /-- A buffer after another is framed as before, further on. -/
  append : ∀ more, (bytes ++ more).length < 2 ^ 64 →
    ∀ frames frames', framePm4Type3Stream host bytes = .ok frames →
    framePm4Type3Stream host more = .ok frames' →
      framePm4Type3Stream host (bytes ++ more) =
        .ok (frames ++ frames'.map (Pm4Type3Frame.shift (bytes.length / 4)))
  /-- A refusal is at the first packet that is not well formed. -/
  refuses : ∀ e, framePm4Type3Stream host bytes = .error e →
    (bytes.length % 4 ≠ 0 ∧ e.code = .commandBufferNotWordAligned ∧ e.wordOffset = 0) ∨
      bytes.length % 4 = 0 ∧ (e.code = .unsupportedPacketType ∨ e.code = .truncatedPacket) ∧
        ∃ good rest, bytes = good ++ rest ∧ Type3Stream good ∧ e.wordOffset * 4 = good.length ∧
          rest ≠ [] ∧
          NoType3Packet rest
  /-- The other errors do not occur. -/
  codes : ∀ e, framePm4Type3Stream host bytes = .error e →
    e.code ≠ .rawPacketFailure ∧ e.code ≠ .hostSizeUnrepresentable ∧ e.code ≠ .hostAllocationFailure

theorem headerFields_of_mem_packetFrames (h : ∀ packet ∈ packets, Type3Packet packet) :
    ∀ frame ∈ packetFrames wordOffset packets, HeaderFields frame.header := by
  induction packets generalizing wordOffset with
  | nil => simp [packetFrames]
  | cons packet packets ih =>
    rw [List.forall_mem_cons] at h
    rw [packetFrames, List.forall_mem_cons]
    refine ⟨headerFields_type3Header ?_, ih h.2⟩
    rw [toNat_readLittleEndianWord, Nat.zero_mul, List.drop_zero]
    exact h.1.type

theorem exists_packets_of_ok {host : Host} (hhost : ∀ site, host.allocation site = none)
    {bytes : List UInt8} (hsize : bytes.length < 2 ^ 64)
    (h : framePm4Type3Stream host bytes = .ok frames) :
    ∃ packets, (∀ packet ∈ packets, Type3Packet packet) ∧ bytes = packets.flatten ∧
      frames = packetFrames 0 packets := by
  have haligned : bytes.length % 4 = 0 := by
    have hchecked := h
    simp only [framePm4Type3Stream, bind_eq_ok, refuseIf_eq_ok, not_not] at hchecked
    obtain ⟨-, haligned, -⟩ := hchecked
    exact haligned
  obtain ⟨packets, rest, hall, hbytes, ⟨hrest, hrun⟩ | ⟨-, -, e, hrun, -⟩⟩ :=
    framePm4Type3Stream_spec hhost hsize haligned
  · rw [hrun] at h
    cases h
    rw [hrest, List.append_nil] at hbytes
    exact ⟨packets, hall, hbytes, rfl⟩
  · rw [hrun] at h
    cases h

/-- A buffer after another is framed as before, further on. -/
theorem framePm4Type3Stream_append {host : Host} (hhost : ∀ site, host.allocation site = none)
    {bytes more : List UInt8} (hsize : (bytes ++ more).length < 2 ^ 64)
    {frames' : List Pm4Type3Frame} (h : framePm4Type3Stream host bytes = .ok frames)
    (h' : framePm4Type3Stream host more = .ok frames') :
    framePm4Type3Stream host (bytes ++ more) =
      .ok (frames ++ frames'.map (Pm4Type3Frame.shift (bytes.length / 4))) := by
  rw [List.length_append] at hsize
  obtain ⟨packets, hall, hbytes, rfl⟩ := exists_packets_of_ok hhost (by omega) h
  obtain ⟨others, hothers, hbytes', rfl⟩ := exists_packets_of_ok hhost (by omega) h'
  have hboth : ∀ packet ∈ packets ++ others, Type3Packet packet := by
    intro packet hpacket
    rcases List.mem_append.mp hpacket with hpacket | hpacket
    · exact hall packet hpacket
    · exact hothers packet hpacket
  have hflatten : bytes ++ more =
    (packets ++ others).flatten := by rw [List.flatten_append, ← hbytes, ← hbytes']
  rw [← List.length_append, hflatten] at hsize
  rw [hflatten, framePm4Type3Stream_of_packets hhost hboth hsize, packetFrames_append hall,
    packetFrames_shift, ← hbytes]

/-! ### The same packets elsewhere -/

/-- A packet at another place. -/
structure SamePacket (frame other : Pm4Type3Frame) : Prop where
  header : other.header = frame.header
  rawWords : other.rawPacket.rawWords = frame.rawPacket.rawWords

theorem samePacket_shift (words : ℕ) (frames : List Pm4Type3Frame) :
    List.Forall₂ SamePacket frames (frames.map (Pm4Type3Frame.shift words)) := by
  induction frames with
  | nil => exact .nil
  | cons frame frames ih => exact .cons ⟨rfl, rfl⟩ ih

theorem exists_packet_of_mem {frame : Pm4Type3Frame} (h : frame ∈ packetFrames wordOffset packets) :
    ∃ place, ∃ packet ∈ packets, frame = packetFrame place packet := by
  induction packets generalizing wordOffset with
  | nil => cases h
  | cons packet packets ih =>
    rcases List.mem_cons.mp h with rfl | h
    · exact ⟨wordOffset, packet, List.mem_cons_self, rfl⟩
    · obtain ⟨place, other, hother, rfl⟩ := ih h
      exact ⟨place, other, List.mem_cons_of_mem _ hother, rfl⟩

/-- **Packets cut out of a buffer** and put one behind the other are framed again, as the same
packets. -/
theorem framePm4Type3Stream_cut {host : Host} (hhost : ∀ site, host.allocation site = none)
    {bytes : List UInt8} (hsize : bytes.length < 2 ^ 64) {cut : List Pm4Type3Frame}
    (h : framePm4Type3Stream host bytes = .ok frames) (hcut : cut.Sublist frames) :
    ∃ frames', framePm4Type3Stream host (cut.flatMap Pm4Type3Frame.bytes) = .ok frames' ∧
      List.Forall₂ SamePacket cut frames' := by
  obtain ⟨packets, hall, hbytes, rfl⟩ := exists_packets_of_ok hhost hsize h
  have hframes : ∀ frame ∈ cut, ∃ place packet, Type3Packet packet ∧
      frame = packetFrame place packet := by
    intro frame hframe
    obtain ⟨place, packet, hpacket, rfl⟩ := exists_packet_of_mem (hcut.subset hframe)
    exact ⟨place, packet, hall packet hpacket, rfl⟩
  have hlength : (cut.flatMap Pm4Type3Frame.bytes).length < 2 ^ 64 := by
    have hle := (hcut.flatMap Pm4Type3Frame.bytes).length_le
    rw [bytes_packetFrames hall, ← hbytes] at hle
    omega
  have hpackets : ∀ packet ∈ cut.map Pm4Type3Frame.bytes, Type3Packet packet := by
    intro packet hpacket
    obtain ⟨frame, hframe, rfl⟩ := List.mem_map.mp hpacket
    obtain ⟨place, packet, hwell, rfl⟩ := hframes frame hframe
    rwa [bytes_packetFrame hwell.length_mod]
  have hsame (wordOffset : ℕ) :
      List.Forall₂ SamePacket cut (packetFrames wordOffset (cut.map Pm4Type3Frame.bytes)) := by
    clear hcut hlength hpackets
    induction cut generalizing wordOffset with
    | nil => exact .nil
    | cons frame cut ih =>
      rw [List.forall_mem_cons] at hframes
      obtain ⟨⟨place, packet, hpacket, rfl⟩, hrest⟩ := hframes
      rw [List.map_cons, packetFrames, bytes_packetFrame hpacket.length_mod]
      exact .cons ⟨rfl, rfl⟩ (ih hrest _)
  rw [List.flatMap_def] at hlength ⊢
  exact ⟨_, framePm4Type3Stream_of_packets hhost hpackets hlength, hsame 0⟩

/-- What is the same of a packet wherever it stands is the same of the packets. -/
theorem filterMap_of_samePacket {α : Type} {f : Pm4Type3Frame → Option α}
    (hf : ∀ frame other, SamePacket frame other → f other = f frame) {others : List Pm4Type3Frame}
    (h : List.Forall₂ SamePacket frames others) :
    others.filterMap f = frames.filterMap f := by
  induction h with
  | nil => rfl
  | cons hsame _ ih => rw [List.filterMap_cons, List.filterMap_cons, hf _ _ hsame, ih]

theorem forall_mem_of_samePacket {P : Pm4Type3Frame → Prop}
    (hP : ∀ frame other, SamePacket frame other → P frame → P other) {others : List Pm4Type3Frame}
    (h : List.Forall₂ SamePacket frames others) (hframes : ∀ frame ∈ frames, P frame) :
    ∀ frame ∈ others, P frame := by
  induction h with
  | nil => simp
  | cons hsame _ ih =>
    rw [List.forall_mem_cons] at hframes ⊢
    exact ⟨hP _ _ hsame hframes.1, ih hframes.2⟩

/-- **Framing accepts exactly its format.** -/
theorem framePm4Type3Stream_exact {host : Host} (hhost : ∀ site, host.allocation site = none)
    {bytes : List UInt8} (hsize : bytes.length < 2 ^ 64) : FramingExact host bytes := by
  have herror : ∀ e, framePm4Type3Stream host bytes = .error e →
      (bytes.length % 4 ≠ 0 ∧ e.code = .commandBufferNotWordAligned ∧ e.wordOffset = 0) ∨
        bytes.length % 4 = 0 ∧ (e.code = .unsupportedPacketType ∨ e.code = .truncatedPacket) ∧
          ∃ good rest, bytes = good ++ rest ∧ Type3Stream good ∧ e.wordOffset * 4 = good.length ∧
            rest ≠ [] ∧
            NoType3Packet rest := by
    intro e he
    by_cases haligned : bytes.length % 4 = 0
    · obtain ⟨packets, rest, hall, hbytes, ⟨-, hrun⟩ | ⟨hrest, hno, found, hrun, hoffset, hcode⟩⟩ :=
        framePm4Type3Stream_spec hhost hsize haligned
      · rw [hrun] at he
        cases he
      · rw [hrun] at he
        cases he
        exact .inr ⟨haligned, hcode, packets.flatten, rest, hbytes, ⟨packets, hall, rfl⟩, hoffset,
          hrest, hno⟩
    · rw [framePm4Type3Stream, bind_eq_error, refuseIf_eq_error] at he
      rcases he with ⟨-, rfl⟩ | ⟨_, hok, -⟩
      · exact .inl ⟨haligned, rfl, rfl⟩
      · exact absurd haligned (refuseIf_eq_ok.mp hok)
  refine ⟨⟨?_, ?_⟩, fun _ => tiles_of_framePm4Type3Stream, ?_, ?_, ?_, herror, ?_⟩
  · rintro ⟨frames, h⟩
    obtain ⟨packets, hall, hbytes, -⟩ := exists_packets_of_ok hhost hsize h
    exact ⟨packets, hall, hbytes⟩
  · rintro ⟨packets, hall, rfl⟩
    exact ⟨_, framePm4Type3Stream_of_packets hhost hall hsize⟩
  · intro frames h
    obtain ⟨packets, hall, hbytes, rfl⟩ := exists_packets_of_ok hhost hsize h
    rw [bytes_packetFrames hall, hbytes]
  · intro frames h
    obtain ⟨packets, hall, -, rfl⟩ := exists_packets_of_ok hhost hsize h
    exact headerFields_of_mem_packetFrames hall
  · intro more hmore frames frames' h h'
    exact framePm4Type3Stream_append hhost hmore h h'
  · intro e he
    rcases herror e he with ⟨-, hcode, -⟩ | ⟨-, hcode | hcode, -⟩
    all_goals
      rw [hcode]
      simp

/-- Two packets, of one word and of two words behind the header. -/
theorem framePm4Type3Stream_exact_two : FramingExact Host.plentiful
    [0, 0x10, 0, 0xc0, 1, 2, 3, 4, 0, 0x10, 1, 0xc0, 5, 6, 7, 8, 9, 10, 11, 12] :=
  framePm4Type3Stream_exact (fun _ => rfl) (by decide)

end Astraea.Graphics
