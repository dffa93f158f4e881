import Astraea.Graphics.ContainerBounds

/-!
# What a shader binary decodes to

`AgcShaderDecoded` says byte by byte what a parsed shader is: its words are the bytes at the front
of the text, and the records of its register lists are the bytes that the pointers of the header
lead to. `SameProgram` says which of the text matters, and `parseAgcShaderBinary_decodes` puts both
together with what the parser reads.
-/

namespace Astraea.Graphics

open Astraea.Base Astraea.Core

/-! ### Register lists -/

/-- A register list, as the bytes of the header say it. -/
structure RegisterListDecoded (header : List UInt8) (offsetField countField : ℕ)
    (writes : List AgcRegisterWrite) (headerOffset : Option UInt64) : Prop where
  count : writes.length = (u8At header countField).toNat
  /-- A list without records has no offset. -/
  empty : writes = [] → headerOffset = none
  /-- Any other list lies in the header, its field's offset and the number there behind its
  beginning. -/
  records : writes ≠ [] → ∃ offset, headerOffset = some offset ∧
    offset.toNat = offsetField + leAt 8 header offsetField ∧
    offset.toNat + writes.length * kAgcRegisterRecordSize ≤ header.length ∧
    ∀ index write, writes[index]? = some write →
      leBytes 2 write.registerOffset.toNat =
        (header.drop (offset.toNat + index * kAgcRegisterRecordSize)).take 2 ∧
      leBytes 4 write.value.toNat =
        (header.drop (offset.toNat + index * kAgcRegisterRecordSize + 4)).take 4

section Lists

variable {host : Host} {header : List UInt8} {offsetField countField : ℕ}
  {kind : AgcRegisterListKind} {list : ParsedRegisterList}

theorem registerRecordsAt_bytes {offset count index : ℕ} {write : AgcRegisterWrite}
    (hfits : offset + count * kAgcRegisterRecordSize ≤ header.length)
    (h : (registerRecordsAt header offset count)[index]? = some write) :
    leBytes 2 write.registerOffset.toNat =
      (header.drop (offset + index * kAgcRegisterRecordSize)).take 2 ∧
      leBytes 4 write.value.toNat =
        (header.drop (offset + index * kAgcRegisterRecordSize + 4)).take 4 := by
  rw [registerRecordsAt, List.getElem?_map, Option.map_eq_some_iff] at h
  obtain ⟨found, hfound, rfl⟩ := h
  obtain ⟨hindex, rfl⟩ := List.getElem?_eq_some_iff.mp hfound
  rw [List.length_range] at hindex
  rw [List.getElem_range, registerRecordAt]
  dsimp only
  rw [kAgcRegisterRecordSize] at *
  rw [toNat_u16At, toNat_u32At, leBytes_leAt (by omega), leBytes_leAt (by omega)]
  exact ⟨rfl, rfl⟩

theorem parseRegisterList_decoded (hfield : offsetField < 2 ^ 64)
    (h : parseRegisterList host header offsetField countField kind = .ok list) :
    RegisterListDecoded header offsetField countField list.writes list.headerOffset := by
  have hlist := parseRegisterList_eq_ok hfield h
  by_cases hcount : u8At header countField = 0
  · rw [parseRegisterList, if_pos hcount] at h
    cases h
    exact ⟨by rw [hcount]; rfl, fun _ => rfl, fun hne => absurd rfl hne⟩
  · obtain rfl | ⟨offset, hoffset, rfl, hfits⟩ := hlist
    · have hsome : ∀ list, parseRegisterList host header offsetField countField kind = .ok list →
          list.headerOffset ≠ none := by
        rw [parseRegisterList, if_neg hcount]
        repeat refine forall_bind_eq_ok fun _ => ?_
        rintro list ⟨⟩
        exact Option.some_ne_none _
      exact absurd rfl (hsome _ h)
    · have hpos : 0 < (u8At header countField).toNat := by
        rcases Nat.eq_zero_or_pos (u8At header countField).toNat with hzero | hpos
        · exact absurd (UInt8.toNat_inj.mp hzero) hcount
        · exact hpos
      rw [toNat_u64At] at hoffset
      refine ⟨length_registerRecordsAt _ _ _, ?_, fun _ => ⟨offset, rfl, hoffset, ?_, ?_⟩⟩
      · intro hnil
        have hlength := congrArg List.length hnil
        rw [length_registerRecordsAt, List.length_nil] at hlength
        omega
      · rw [length_registerRecordsAt]
        exact hfits
      · intro index write hwrite
        exact registerRecordsAt_bytes hfits hwrite

end Lists

/-! ### The program -/

/-- The words at the front of the text are its first bytes. -/
theorem programWords_bytes {text : List UInt8} {count : ℕ} (h : count * 4 ≤ text.length) :
    (programWords text count).flatMap (fun word => leBytes 4 word.toNat) =
      text.take (count * 4) := by
  induction count with
  | zero => simp [programWords]
  | succ count ih =>
    have hbefore := ih (by omega)
    rw [programWords] at hbefore ⊢
    rw [List.range_succ, List.map_append, List.flatMap_append, hbefore, List.map_singleton,
      List.flatMap_singleton, toNat_u32At, leBytes_leAt (by omega), Nat.succ_mul, List.take_add]

/-- What the trailer of a text says of its size. -/
def trailerProgramSize (text : List UInt8) : UInt32 :=
  u32At text (text.length - kAgcShaderTextTrailerSize + kAgcTrailerProgramLengthOffset)

/-- The length of the `sl00` block, as the trailer tells it. -/
def trailerSl00Size (text : List UInt8) : UInt32 :=
  u32At text (text.length - kAgcShaderTextTrailerSize + kAgcTrailerSl00LengthOffset)

/-- A parsed shader, as the bytes of the header and the text say it. -/
structure AgcShaderDecoded (header text : List UInt8) (shader : AgcShaderBinary) : Prop where
  programByteSize : shader.programByteSize = trailerProgramSize text
  trailerSl00ByteSize : shader.trailerSl00ByteSize = trailerSl00Size text
  /-- The program ends before the trailer. -/
  program : shader.programByteSize.toNat + kAgcShaderTextTrailerSize ≤ text.length ∧
    shader.rdna2Words.flatMap (fun word => leBytes 4 word.toNat) =
      text.take shader.programByteSize.toNat
  contextRegisters :
    RegisterListDecoded header kAgcContextRegistersOffset kAgcContextRegisterCountOffset
    shader.contextRegisters shader.contextRegisterListHeaderOffset
  shaderRegisters :
    RegisterListDecoded header kAgcShaderRegistersOffset kAgcShaderRegisterCountOffset
    shader.shaderRegisters shader.shaderRegisterListHeaderOffset

/-- Texts of one length, with the same sizes in their trailers and the same bytes in their programs.
-/
structure SameProgram (text text' : List UInt8) : Prop where
  length : text'.length = text.length
  programSize : kAgcShaderTextTrailerSize ≤ text.length →
    trailerProgramSize text' = trailerProgramSize text
  sl00Size : kAgcShaderTextTrailerSize ≤ text.length → trailerSl00Size text' = trailerSl00Size text
  program : kAgcShaderTextTrailerSize ≤ text.length →
    text'.take (trailerProgramSize text).toNat = text.take (trailerProgramSize text).toNat

section Program

variable {host : Host} {header text text' : List UInt8} {shader : AgcShaderBinary}

theorem parseAgcShaderBinary_decoded (h : parseAgcShaderBinary host header text = .ok shader) :
    AgcShaderDecoded header text shader := by
  obtain ⟨context, registers, hsteps⟩ := exists_binaryParsed h
  have hcontext := parseRegisterList_decoded (by decide) hsteps.contextRegisters
  have hlist := parseRegisterList_decoded (by decide) hsteps.shaderRegisters
  have hsize : shader.programByteSize = trailerProgramSize text := by
    rw [hsteps.parsed]
    rfl
  have hprogram := hsteps.programFits
  have htrailer := hsteps.textMinimum
  have hwhole : (trailerProgramSize text).toNat % 4 = 0 := by
    have hzero := congrArg UInt32.toNat hsteps.programAligned
    rw [UInt32.toNat_mod, hsize] at hzero
    exact hzero
  have hwords : (trailerProgramSize text).toNat / 4 * 4 =
    (trailerProgramSize text).toNat := by omega
  rw [hsize] at hprogram
  have hbytes : (programWords text ((trailerProgramSize text).toNat / 4)).flatMap
    (fun word => leBytes 4 word.toNat) =
      text.take (trailerProgramSize text).toNat := by
    rw [programWords_bytes (by omega), hwords]
  rw [hsteps.parsed, hsize]
  refine ⟨rfl, rfl, ⟨?_, hbytes⟩, hcontext, hlist⟩
  change (trailerProgramSize text).toNat + kAgcShaderTextTrailerSize ≤ text.length
  omega

theorem programWords_congr {size count : ℕ} (htake : text'.take size = text.take size)
    (hcount : count * 4 ≤ size) :
    programWords text' count = programWords text count := by
  refine List.map_congr_left ?_
  intro index hindex
  rw [List.mem_range] at hindex
  have hat : leAt 4 text' (index * 4) = leAt 4 text (index * 4) := by
    refine leAt_congr fun i hi => ?_
    have hbyte : (text'.take size)[index * 4 + i]? =
      (text.take size)[index * 4 + i]? := by rw [htake]
    rwa [List.getElem?_take_of_lt (by omega), List.getElem?_take_of_lt (by omega)] at hbyte
  rw [u32At, u32At, hat]

/-- **A text matters by its length, its program and its two sizes.** -/
theorem parseAgcShaderBinary_congr (h : SameProgram text text') :
    parseAgcShaderBinary host header text' =
      (parseAgcShaderBinary host header text).map fun shader =>
        { shader with shaderTextBytes := text' } := by
  rw [parseAgcShaderBinary, parseAgcShaderBinary, h.length]
  refine bind_eq_map_bind fun _ _ => ?_
  refine bind_eq_map_bind fun _ _ => ?_
  refine bind_eq_map_bind fun _ _ => ?_
  refine bind_eq_map_bind fun _ _ => ?_
  refine bind_eq_map_bind fun _ _ => ?_
  refine bind_eq_map_bind fun _ _ => ?_
  refine bind_eq_map_bind fun _ htrailer => ?_
  rw [refuseIf_eq_ok, Nat.not_lt] at htrailer
  have hprogram :
    u32At text' (text.length - kAgcShaderTextTrailerSize + kAgcTrailerProgramLengthOffset) =
      trailerProgramSize text := by
    rw [← h.programSize htrailer, trailerProgramSize, h.length]
  have hsl00 : u32At text' (text.length - kAgcShaderTextTrailerSize + kAgcTrailerSl00LengthOffset) =
      trailerSl00Size text := by
    rw [← h.sl00Size htrailer, trailerSl00Size, h.length]
  dsimp only
  rw [hprogram, hsl00]
  refine bind_eq_map_bind fun _ _ => ?_
  refine bind_eq_map_bind fun _ _ => ?_
  refine bind_eq_map_bind fun _ _ => ?_
  rw [programWords_congr (h.program htrailer) (Nat.div_mul_le_self _ _)]
  rfl

end Program

/-- **Shader binaries decode faithfully.** Nothing outside the header and the text is read. The
words of a parsed shader are the program at the front of the text, its register lists are the bytes
at their offsets in the header, and apart from the copy of the text that is kept, a text matters by
its length, its program and the two sizes in its trailer only. -/
theorem parseAgcShaderBinary_decodes (host : Host) (header text : List UInt8) :
    parseAgcShaderBinaryGuarded host header text =
      (parseAgcShaderBinary host header text).mapError some ∧
    (∀ shader, parseAgcShaderBinary host header text = .ok shader →
      AgcShaderDecoded header text shader) ∧
    ∀ text', SameProgram text text' →
      parseAgcShaderBinary host header text' =
        (parseAgcShaderBinary host header text).map fun shader =>
          { shader with shaderTextBytes := text' } :=
  ⟨parseAgcShaderBinaryGuarded_eq host header text, fun _ => parseAgcShaderBinary_decoded,
    fun _ => parseAgcShaderBinary_congr⟩

end Astraea.Graphics
