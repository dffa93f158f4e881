import Astraea.Graphics.ShaderBasicBlocks

/-!
# Streams one behind the other

An instruction is decoded from its own words, so it is the same instruction wherever these words
stand, with its position moved along. Lowering a stream goes from instruction to instruction:
two streams that are lowered are lowered one behind the other, and the emissions of a stream
tile its words. Such a program has a layout, and its branches go a whole number of words.
-/

namespace Astraea.Graphics

open Astraea.Base Astraea.Core

/-! ### Moved instructions -/

/-- The instruction `distance` words further on. -/
def Rdna2Instruction.shift (distance : ℕ) (instruction : Rdna2Instruction) : Rdna2Instruction :=
  { instruction with
    wordIndex := instruction.wordIndex + distance
    byteOffset := instruction.byteOffset + distance * 4 }

variable {word : UInt32} {announced : Bool} {extension : Option UInt32}

/-- The emission `distance` words further on. -/
def ShaderIrEmission.shift (distance : ℕ) (emission : ShaderIrEmission) : ShaderIrEmission :=
  { emission with sourceInstruction := emission.sourceInstruction.shift distance }

section Shift

variable {words words' : List UInt32} {wordIndex distance : ℕ} {instruction : Rdna2Instruction}
  {emissions : List ShaderIrEmission}

theorem map_shift_zero (emissions : List ShaderIrEmission) :
    emissions.map (ShaderIrEmission.shift 0) = emissions :=
  List.map_id' _

/-- The words of a stream stand in another, moved by a distance. -/
def StandsIn (words words' : List UInt32) (distance : ℕ) : Prop :=
  ∀ (i : ℕ) word, words[i]? = some word → words'[i + distance]? = some word

theorem secondWord_shift (h : StandsIn words words' distance)
    (hword : secondWord words wordIndex = .ok word) :
    secondWord words' (wordIndex + distance) = .ok word := by
  rw [secondWord, orRefuse_eq_ok] at hword ⊢
  rw [Nat.add_right_comm]
  exact h _ _ hword

theorem extensionWord_shift (h : StandsIn words words' distance)
    (hextension : extensionWord words wordIndex announced = .ok extension) :
    extensionWord words' (wordIndex + distance) announced = .ok extension := by
  unfold extensionWord at hextension ⊢
  cases announced with
  | false => exact hextension
  | true =>
    rw [if_pos rfl, map_eq_ok] at hextension
    obtain ⟨word, hword, hsome⟩ := hextension
    rw [if_pos rfl, map_eq_ok]
    exact ⟨word, secondWord_shift h hword, hsome⟩

/-- **An instruction is decoded alike wherever its words stand.** -/
theorem decode_shift (h : StandsIn words words' distance)
    (hindex : wordIndex + distance ≤ (2 ^ 64 - 1) / 4)
    (hdecode : decodeRdna2Instruction words wordIndex = .ok instruction) :
    decodeRdna2Instruction words' (wordIndex + distance) = .ok (instruction.shift distance) := by
  obtain ⟨hindex', word, hword⟩ := exists_word_of_decode hdecode
  rw [decodeRdna2Instruction_eq hindex' hword] at hdecode
  rw [decodeRdna2Instruction_eq hindex (h _ _ hword)]
  split_ifs at hdecode ⊢ with hexp hsopp hsop1 hvop1 hvop2
  · simp only [decodeExp, bind_eq_ok, pure_eq_ok] at hdecode ⊢
    obtain ⟨sources, hsources, rfl⟩ := hdecode
    refine ⟨sources, secondWord_shift h hsources, ?_⟩
    simp only [Rdna2Instruction.shift, Nat.add_mul]
  · cases hdecode
    simp only [decodeSopp, Rdna2Instruction.shift, Nat.add_mul]
  · simp only [decodeSop1, bind_eq_ok, pure_eq_ok] at hdecode ⊢
    obtain ⟨extension, hextension, rfl⟩ := hdecode
    refine ⟨extension, extensionWord_shift h hextension, ?_⟩
    simp only [Rdna2Instruction.shift, Nat.add_mul]
  · simp only [decodeVop1, bind_eq_ok, pure_eq_ok] at hdecode ⊢
    obtain ⟨extension, hextension, rfl⟩ := hdecode
    refine ⟨extension, extensionWord_shift h hextension, ?_⟩
    simp only [Rdna2Instruction.shift, Nat.add_mul]
  · simp only [decodeVop2, bind_eq_ok, pure_eq_ok] at hdecode ⊢
    obtain ⟨extension, hextension, rfl⟩ := hdecode
    refine ⟨extension, extensionWord_shift h hextension, ?_⟩
    simp only [Rdna2Instruction.shift, Nat.add_mul]
  · cases hdecode
    simp only [unsupportedInstruction, Rdna2Instruction.shift, Nat.add_mul]

end Shift

/-! ### The extent of an instruction -/

section Extent

variable {words : List UInt32} {wordIndex : ℕ} {instruction : Rdna2Instruction}

/-- An instruction is where it was looked for, and its words are words of the stream. -/
structure DecodedAt (words : List UInt32) (wordIndex : ℕ) (instruction : Rdna2Instruction) :
    Prop where
  position : instruction.wordIndex = wordIndex
  byteOffset : instruction.byteOffset = wordIndex * 4
  positive : 0 < instruction.wordCount
  inside : wordIndex + instruction.wordCount ≤ words.length

theorem secondWord_lt (h : secondWord words wordIndex = .ok word) :
    wordIndex + 1 < words.length := by
  rw [secondWord, orRefuse_eq_ok] at h
  exact (List.getElem?_eq_some_iff.mp h).1

theorem extendedWordCount_bounds (hlt : wordIndex < words.length)
    (h : extensionWord words wordIndex announced = .ok extension) :
    0 < extendedWordCount extension ∧ wordIndex + extendedWordCount extension ≤ words.length := by
  unfold extensionWord at h
  cases announced with
  | false =>
    rw [if_neg Bool.false_ne_true] at h
    cases h
    exact ⟨Nat.one_pos, hlt⟩
  | true =>
    rw [if_pos rfl, map_eq_ok] at h
    obtain ⟨word, hword, rfl⟩ := h
    exact ⟨Nat.two_pos, secondWord_lt hword⟩

/-- **What is decoded lies inside the stream.** -/
theorem decodedAt_of_decode (hdecode : decodeRdna2Instruction words wordIndex = .ok instruction) :
    DecodedAt words wordIndex instruction := by
  obtain ⟨hindex, word, hword⟩ := exists_word_of_decode hdecode
  have hlt := (List.getElem?_eq_some_iff.mp hword).1
  rw [decodeRdna2Instruction_eq hindex hword] at hdecode
  split_ifs at hdecode with hexp hsopp hsop1 hvop1 hvop2
  · simp only [decodeExp, bind_eq_ok, pure_eq_ok] at hdecode
    obtain ⟨sources, hsources, rfl⟩ := hdecode
    exact ⟨rfl, rfl, Nat.two_pos, secondWord_lt hsources⟩
  · cases hdecode
    exact ⟨rfl, rfl, Nat.one_pos, hlt⟩
  · simp only [decodeSop1, bind_eq_ok, pure_eq_ok] at hdecode
    obtain ⟨extension, hextension, rfl⟩ := hdecode
    obtain ⟨hpos, hinside⟩ := extendedWordCount_bounds hlt hextension
    exact ⟨rfl, rfl, hpos, hinside⟩
  · simp only [decodeVop1, bind_eq_ok, pure_eq_ok] at hdecode
    obtain ⟨extension, hextension, rfl⟩ := hdecode
    obtain ⟨hpos, hinside⟩ := extendedWordCount_bounds hlt hextension
    exact ⟨rfl, rfl, hpos, hinside⟩
  · simp only [decodeVop2, bind_eq_ok, pure_eq_ok] at hdecode
    obtain ⟨extension, hextension, rfl⟩ := hdecode
    obtain ⟨hpos, hinside⟩ := extendedWordCount_bounds hlt hextension
    exact ⟨rfl, rfl, hpos, hinside⟩
  · cases hdecode
    exact ⟨rfl, rfl, Nat.one_pos, hlt⟩

end Extent

/-! ### Lowering from instruction to instruction -/

/-- The emissions of the instructions from one word of a stream up to another. -/
def Lowers (words : List UInt32) : (start stop : ℕ) → List ShaderIrEmission → Prop
  | start, stop, [] => start = stop
  | start, stop, emission :: emissions =>
    ∃ instruction, decodeRdna2Instruction words start = .ok instruction ∧
      emission = lowerRdna2ToShaderIr instruction ∧
        Lowers words (start + instruction.wordCount) stop emissions

section Lowers

variable {words words' : List UInt32} {start middle stop distance wordIndex : ℕ}
  {emissions emissions' lowered : List ShaderIrEmission}

theorem Lowers.append (h : Lowers words start middle emissions)
    (h' : Lowers words middle stop emissions') :
    Lowers words start stop (emissions ++ emissions') := by
  induction emissions generalizing start with
  | nil =>
    cases h
    exact h'
  | cons emission emissions ih =>
    obtain ⟨instruction, hdecode, hemission, hrest⟩ := h
    exact ⟨instruction, hdecode, hemission, ih hrest⟩

/-- Instructions are lowered alike wherever their words stand. -/
theorem Lowers.shift (hstands : StandsIn words words' distance)
    (hindex : words.length + distance ≤ 2 ^ 62) (h : Lowers words start stop emissions) :
    Lowers words' (start + distance) (stop + distance)
      (emissions.map (ShaderIrEmission.shift distance)) := by
  induction emissions generalizing start with
  | nil =>
    cases h
    rfl
  | cons emission emissions ih =>
    obtain ⟨instruction, hdecode, rfl, hrest⟩ := h
    have hinside := (decodedAt_of_decode hdecode).inside
    have hpositive := (decodedAt_of_decode hdecode).positive
    refine ⟨instruction.shift distance, decode_shift hstands (by omega) hdecode, rfl, ?_⟩
    have hcount : start + distance + (instruction.shift distance).wordCount =
        start + instruction.wordCount + distance :=
      Nat.add_right_comm _ _ _
    rw [hcount]
    exact ih hrest

theorem Lowers.tiles (h : Lowers words start stop emissions) :
    Base.Tiles start stop (emissions.map ShaderIrEmission.extent) ∧
      ∀ emission ∈ emissions, emission.sourceInstruction.byteOffset =
        4 * emission.sourceInstruction.wordIndex := by
  induction emissions generalizing start with
  | nil => exact ⟨h, fun emission hemission => absurd hemission List.not_mem_nil⟩
  | cons emission emissions ih =>
    obtain ⟨instruction, hdecode, rfl, hrest⟩ := h
    have hdecoded := decodedAt_of_decode hdecode
    obtain ⟨htiles, hoffsets⟩ := ih hrest
    refine ⟨⟨hdecoded.position, hdecoded.positive, htiles⟩, ?_⟩
    rw [List.forall_mem_cons]
    refine ⟨?_, hoffsets⟩
    rw [lowerRdna2ToShaderIr]
    dsimp only
    rw [hdecoded.byteOffset, hdecoded.position, Nat.mul_comm]

/-- Every emission is from an instruction of the stream. -/
theorem Lowers.exists_instruction (h : Lowers words start stop emissions)
    {emission : ShaderIrEmission} (hmem : emission ∈ emissions) :
    ∃ instruction, emission = lowerRdna2ToShaderIr instruction := by
  induction emissions generalizing start with
  | nil => exact absurd hmem List.not_mem_nil
  | cons first emissions ih =>
    obtain ⟨instruction, -, hfirst, hrest⟩ := h
    rcases List.mem_cons.mp hmem with rfl | hmem
    · exact ⟨instruction, hfirst⟩
    · exact ih hrest hmem

theorem lowerStream_eq_ok (hle : wordIndex ≤ words.length) :
    lowerStream words wordIndex emissions = .ok lowered ↔
      ∃ more, lowered = emissions ++ more ∧ Lowers words wordIndex words.length more := by
  fun_induction lowerStream words wordIndex emissions with
  | case1 wordIndex emissions hindex e hdecode =>
    constructor
    · intro h
      cases h
    · rintro ⟨more, rfl, hmore⟩
      cases more with
      | nil =>
        cases hmore
        omega
      | cons emission more =>
        obtain ⟨instruction, hok, -⟩ := hmore
        rw [hdecode] at hok
        cases hok
  | case2 wordIndex emissions hindex instruction hdecode hextent =>
    have hdecoded := decodedAt_of_decode hdecode
    have := hdecoded.inside
    have := hdecoded.positive
    omega
  | case3 wordIndex emissions hindex instruction hdecode hextent ih =>
    rw [ih (decodedAt_of_decode hdecode).inside]
    constructor
    · rintro ⟨more, rfl, hmore⟩
      refine ⟨lowerRdna2ToShaderIr instruction :: more, ?_, instruction, hdecode, rfl, hmore⟩
      rw [List.append_assoc, List.singleton_append]
    · rintro ⟨more, rfl, hmore⟩
      cases more with
      | nil =>
        cases hmore
        omega
      | cons emission more =>
        obtain ⟨instruction', hok, rfl, hrest⟩ := hmore
        rw [hdecode] at hok
        cases hok
        refine ⟨more, ?_, hrest⟩
        rw [List.append_assoc, List.singleton_append]
  | case4 wordIndex emissions hindex =>
    obtain rfl : wordIndex = words.length := by omega
    constructor
    · intro h
      cases h
      exact ⟨[], (List.append_nil _).symm, rfl⟩
    · rintro ⟨more, rfl, hmore⟩
      cases more with
      | nil => rw [List.append_nil]
      | cons emission more =>
        obtain ⟨instruction, hok, -⟩ := hmore
        have := (decodedAt_of_decode hok).inside
        have := (decodedAt_of_decode hok).positive
        omega

/-- The loop never finds an instruction that leaves the stream. -/
theorem lowerStream_ne_invalidInstructionExtent {e : ShaderIrProgramError}
    (h : lowerStream words wordIndex emissions = .error e) :
    e.code ≠ .invalidInstructionExtent := by
  fun_induction lowerStream words wordIndex emissions with
  | case1 wordIndex emissions hindex e' hdecode =>
    cases h
    intro hcode
    cases hcode
  | case2 wordIndex emissions hindex instruction hdecode hextent =>
    have hdecoded := decodedAt_of_decode hdecode
    have := hdecoded.inside
    have := hdecoded.positive
    omega
  | case3 wordIndex emissions hindex instruction hdecode hextent ih => exact ih h
  | case4 => cases h

end Lowers

/-! ### Branches of a lowered stream -/

section BranchDelta

variable {instruction : Rdna2Instruction} {byteDelta : Int32}

theorem branchDelta_lowerFields {α : Type} {operation : α → ShaderIrOperation}
    (h : ∀ fields, (operation fields).branchDelta = none) (fields : Option α) :
    (lowerFields fields operation).branchDelta = none := by
  cases fields with
  | none => rfl
  | some fields => exact h fields

theorem branchDelta_lowerScalarMove32 (fields : Rdna2Sop1Fields) :
    (lowerScalarMove32 fields).branchDelta = none := by
  unfold lowerScalarMove32
  split
  · split_ifs
    · rfl
    · rfl
  · rfl

theorem branchDelta_lowerScalarMove64 (fields : Rdna2Sop1Fields) :
    (lowerScalarMove64 fields).branchDelta = none := by
  unfold lowerScalarMove64
  split_ifs
  · rfl
  · rfl

theorem branchDelta_lowerVectorMove32 (fields : Rdna2Vop1Fields) :
    (lowerVectorMove32 fields).branchDelta = none := by
  unfold lowerVectorMove32
  split_ifs
  · rfl
  · rfl

theorem branchDelta_lowerVectorAddF32 (fields : Rdna2Vop2Fields) :
    (lowerVectorAddF32 fields).branchDelta = none := by
  unfold lowerVectorAddF32
  split_ifs
  · rfl
  · rfl

theorem branchDelta_lowerExport (fields : Rdna2ExpFields) :
    (lowerExport fields).branchDelta = none := by
  unfold lowerExport
  split
  · rfl
  · rfl

theorem sopp_of_validSoppSource {fields : Rdna2SoppFields}
    (h : validSoppSource instruction = some fields) :
    instruction.sopp = some fields := by
  unfold validSoppSource at h
  split_ifs at h
  exact h

/-- A branch of a scalar instruction takes its distance from the instruction. -/
theorem sopp_of_lowerFields {operation : Rdna2SoppFields → ShaderIrOperation}
    (hoperation : ∀ fields, (operation fields).branchDelta = some (relativeBranchDelta fields))
    (h : (lowerFields (validSoppSource instruction) operation).branchDelta = some byteDelta) :
    ∃ fields, instruction.sopp = some fields ∧ byteDelta = relativeBranchDelta fields := by
  cases hsource : validSoppSource instruction with
  | none =>
    rw [hsource] at h
    cases h
  | some fields =>
    rw [hsource] at h
    refine ⟨fields, sopp_of_validSoppSource hsource, ?_⟩
    have := hoperation fields
    rw [lowerFields] at h
    rw [h] at this
    exact Option.some.inj this

/-- **A branch goes where its instruction says.** -/
theorem branchDelta_lowerOperation (h : (lowerOperation instruction).branchDelta = some byteDelta) :
    ∃ fields, instruction.sopp = some fields ∧ byteDelta = relativeBranchDelta fields := by
  unfold lowerOperation at h
  cases hkind : instruction.kind with
  | sBranch =>
    rw [hkind] at h
    exact sopp_of_lowerFields (fun fields => rfl) h
  | sCbranchScc0 | sCbranchScc1 | sCbranchVccz | sCbranchVccnz | sCbranchExecz | sCbranchExecnz =>
    rw [hkind] at h
    exact sopp_of_lowerFields (fun fields => rfl) h
  | sNop | sEndpgm | sBarrier | sWaitcnt | unknownSoppOpcode =>
    rw [hkind] at h
    dsimp only at h
    rw [branchDelta_lowerFields fun fields => rfl] at h
    cases h
  | sMovB32 =>
    rw [hkind] at h
    dsimp only at h
    rw [branchDelta_lowerFields branchDelta_lowerScalarMove32] at h
    cases h
  | sMovB64 =>
    rw [hkind] at h
    dsimp only at h
    rw [branchDelta_lowerFields branchDelta_lowerScalarMove64] at h
    cases h
  | vMovB32 =>
    rw [hkind] at h
    dsimp only at h
    rw [branchDelta_lowerFields branchDelta_lowerVectorMove32] at h
    cases h
  | vAddF32 =>
    rw [hkind] at h
    dsimp only at h
    rw [branchDelta_lowerFields branchDelta_lowerVectorAddF32] at h
    cases h
  | exp =>
    rw [hkind] at h
    dsimp only at h
    rw [branchDelta_lowerFields branchDelta_lowerExport] at h
    cases h
  | unknownSop1Opcode | unknownVop1Opcode | unknownVop2Opcode =>
    rw [hkind] at h
    dsimp only at h
    rw [branchDelta_lowerFields fun fields => rfl] at h
    cases h
  | unsupportedEncoding =>
    rw [hkind] at h
    dsimp only at h
    split_ifs at h
    · cases h
    · cases h

/-- The distance of a branch in bytes: its field counts words, from the word behind the branch. -/
theorem toInt_relativeBranchDelta (fields : Rdna2SoppFields) :
    (relativeBranchDelta fields).toInt = fields.simm16.toInt * 4 + 4 := by
  have hlow := fields.simm16.le_toInt
  have hhigh := fields.simm16.toInt_lt
  have hsize : Int32.size = 2 ^ 32 := rfl
  rw [relativeBranchDelta, Int32.toInt_ofInt, Int.bmod_eq_of_le (by omega) (by omega)]

end BranchDelta

/-! ### The graph of a lowered stream -/

/-- A branch whose field points at no instruction of the program: `1 + simm16` words behind the
branch none starts. -/
def BranchesNowhere (program : ShaderIrProgram) (i : ℕ) (emission : ShaderIrEmission) : Prop :=
  ∃ fields, program.emissions[i]? = some emission ∧
    emission.operation.branchDelta = some (relativeBranchDelta fields) ∧
    emission.sourceInstruction.sopp = some fields ∧
    ∀ target ∈ program.emissions,
      (target.sourceInstruction.wordIndex : ℤ) ≠
        emission.sourceInstruction.wordIndex + (1 + fields.simm16.toInt)

section Errors

variable {program : ShaderIrProgram} {emissions : List ShaderIrEmission} {marks : LeaderMarks}
  {seen : ℕ} {e : ShaderCfgError}

theorem code_of_resolveBranchTarget {source : ShaderIrEmission} {byteDelta : Int32}
    {code : ShaderCfgErrorCode} {targetWordIndex : Option ℤ} (haligned : byteDelta.toInt % 4 = 0)
    (h : resolveBranchTarget program source byteDelta = .error (code, targetWordIndex)) :
    code = .invalidBranchTarget := by
  have hmod : byteDelta.toInt.tmod 4 = 0 :=
    Int.tmod_eq_zero_of_dvd (Int.dvd_of_emod_eq_zero haligned)
  simp only [resolveBranchTarget, bind_eq_error, refuseIf_eq_error, Prod.mk.injEq, pure_ne_error,
    and_false, exists_false, or_false] at h
  rcases h with ⟨hmisaligned, -⟩ | ⟨_, -,
    ⟨-, hcode, -⟩ | ⟨_, -, ⟨-, hcode, -⟩ | ⟨_, -, -, hcode, -⟩⟩⟩
  · exact absurd hmod hmisaligned
  · exact hcode.symm
  · exact hcode.symm
  · exact hcode.symm

/-- The first pass fails at a branch that does not resolve. -/
theorem exists_of_markEmissions_error (hrest : program.emissions.drop seen = emissions)
    (h : markEmissions program seen emissions marks = .error e) :
    ∃ i source byteDelta code targetWordIndex, program.emissions[i]? = some source ∧
      source.operation.branchDelta = some byteDelta ∧
      resolveBranchTarget program source byteDelta = .error (code, targetWordIndex) ∧
      e = ⟨code, i, source.sourceInstruction.wordIndex, targetWordIndex⟩ := by
  induction emissions generalizing seen marks with
  | nil => cases h
  | cons emission emissions ih =>
    have hemission : program.emissions[seen]? = some emission := by
      rw [← List.head?_drop, hrest]
      rfl
    have htail : program.emissions.drop (seen + 1) = emissions := by
      rw [← List.tail_drop, hrest]
      rfl
    simp only [markEmissions, bind_eq_error] at h
    rcases h with h | ⟨marks₁, -, h⟩
    · unfold markEmission at h
      cases hdelta : emission.operation.branchDelta with
      | some byteDelta =>
        simp only [hdelta, bind_eq_error, mapError_eq_error, pure_ne_error, and_false, exists_false,
          or_false] at h
        obtain ⟨⟨code, targetWordIndex⟩, hresolve, rfl⟩ := h
        exact ⟨seen, emission, byteDelta, code, targetWordIndex, hemission, hdelta, hresolve, rfl⟩
      | none =>
        simp only [hdelta] at h
        split_ifs at h
    · exact ih htail h

end Errors

section Stream

variable {host : Host} {words : List UInt32} {program : ShaderIrProgram}

theorem lowerRdna2StreamToShaderIr_eq_ok :
    lowerRdna2StreamToShaderIr host words = .ok program ↔
      host.allocation .shaderIrStream = none ∧ program.sourceWordCount = words.length ∧
        Lowers words 0 words.length program.emissions := by
  simp only [lowerRdna2StreamToShaderIr, bind_eq_ok, allocate_eq_ok, pure_eq_ok]
  constructor
  · rintro ⟨_, hhost, emissions, hlower, rfl⟩
    obtain ⟨more, rfl, hmore⟩ := (lowerStream_eq_ok (Nat.zero_le _)).mp hlower
    exact ⟨hhost, rfl, hmore⟩
  · rintro ⟨hhost, hcount, hlowers⟩
    refine ⟨(), hhost, program.emissions, (lowerStream_eq_ok (Nat.zero_le _)).mpr ⟨_, rfl, hlowers⟩,
      ?_⟩
    rw [← hcount]

theorem standsIn_append_left (words more : List UInt32) : StandsIn words (words ++ more) 0 := by
  intro i word h
  rw [Nat.add_zero, List.getElem?_append_left (List.getElem?_eq_some_iff.mp h).1, h]

theorem standsIn_append_right (words more : List UInt32) :
    StandsIn more (words ++ more) words.length := by
  intro i word h
  rw [List.getElem?_append_right (Nat.le_add_left _ _), Nat.add_sub_cancel, h]

theorem lowers_append {more : List UInt32} {emissions emissions' : List ShaderIrEmission}
    (hlength : words.length + more.length ≤ 2 ^ 62) (h : Lowers words 0 words.length emissions)
    (h' : Lowers more 0 more.length emissions') :
    Lowers (words ++ more) 0 (words ++ more).length
      (emissions ++ emissions'.map (ShaderIrEmission.shift words.length)) := by
  have hfirst := h.shift (standsIn_append_left words more) (by omega)
  have hsecond := h'.shift (standsIn_append_right words more) (by omega)
  rw [map_shift_zero] at hfirst
  rw [Nat.zero_add, Nat.add_comm more.length] at hsecond
  rw [List.length_append]
  exact hfirst.append hsecond

/-- A lowered stream has a layout, and its graph can only fail for a branch that leads to no
instruction. -/
theorem cfgError_of_lowers {cfgHost : Host} {e : ShaderCfgError} (hlaid : LaidOut program)
    (hmax : program.sourceWordCount ≤ kMaxSignedWordIndex) (hmemory : ProgramInMemory program)
    (hlowered : ∀ emission ∈ program.emissions, ∃ instruction, emission =
    lowerRdna2ToShaderIr instruction) (h : buildShaderControlFlowGraph cfgHost program = .error e) :
    (e.code = .hostAllocationFailure ∧ ∃ site, cfgHost.allocation site ≠ none) ∨
      (e.code = .invalidBranchTarget ∧
        ∃ emission, BranchesNowhere program e.emissionIndex emission) := by
  have hallocate :
    ∀ site, allocate cfgHost site (⟨.hostAllocationFailure, 0, 0, none⟩ : ShaderCfgError)
      ⟨.hostAllocationFailure, 0, 0, none⟩ = .error e →
      e.code = .hostAllocationFailure ∧ ∃ site, cfgHost.allocation site ≠ none := by
    intro site herror
    unfold allocate at herror
    split at herror
    · cases herror
    · cases herror
      exact ⟨rfl, site, by simp [*]⟩
    · cases herror
      exact ⟨rfl, site, by simp [*]⟩
  rw [buildShaderControlFlowGraph, (validateProgramLayout_eq_ok hmemory).mpr ⟨hmax, hlaid⟩, ok_bind]
    at h
  split_ifs at h with hempty
  · cases h
  rw [bind_eq_error] at h
  rcases h with h | ⟨_, -, h⟩
  · exact .inl (hallocate _ h)
  rw [bind_eq_error] at h
  rcases h with h | ⟨marks, -, h⟩
  · right
    obtain ⟨i, source, byteDelta, code, targetWordIndex, hsource, hdelta, hresolve, rfl⟩ :=
      exists_of_markEmissions_error List.drop_zero h
    obtain ⟨instruction, rfl⟩ := hlowered source (List.mem_of_getElem? hsource)
    obtain ⟨fields, hsopp, rfl⟩ := branchDelta_lowerOperation hdelta
    have htoInt := toInt_relativeBranchDelta fields
    refine ⟨code_of_resolveBranchTarget (by omega) hresolve, _, fields, hsource, hdelta, hsopp, ?_⟩
    intro target htarget hword
    obtain ⟨j, hj⟩ := List.mem_iff_getElem?.mp htarget
    have hbranch : BranchesTo program i j := ⟨_, target, _, hsource, hj, hdelta, by omega, by omega⟩
    rw [(resolveBranchTarget_eq_ok hlaid hmax hsource hdelta).mpr hbranch] at hresolve
    cases hresolve
  · rw [bind_eq_error] at h
    rcases h with h | ⟨_, -, h⟩
    · exact .inl (hallocate _ h)
    · cases h

/-- **Lowering goes from instruction to instruction.** It finds no instruction that leaves its
stream; what it makes of a stream tiles the words; streams that are lowered are lowered one behind
the other, as far as both have addresses; and the graph of a lowered stream fails only for want of
memory or for a branch that leads to no instruction. -/
theorem lowerRdna2StreamToShaderIr_compositional :
    (∀ host words e, lowerRdna2StreamToShaderIr host words = .error e →
      e.code ≠ .invalidInstructionExtent) ∧
    ∀ host words program, words.length ≤ 2 ^ 61 →
      lowerRdna2StreamToShaderIr host words = .ok program →
      program.sourceWordCount = words.length ∧ LaidOut program ∧
      (∀ host' host'' more program', 4 * (words.length + more.length) ≤ 2 ^ 64 →
        lowerRdna2StreamToShaderIr host' more = .ok program' →
        host''.allocation .shaderIrStream = none →
        lowerRdna2StreamToShaderIr host'' (words ++ more) = .ok ⟨words.length + more.length,
          program.emissions ++ program'.emissions.map (ShaderIrEmission.shift words.length)⟩) ∧
      ∀ cfgHost e, buildShaderControlFlowGraph cfgHost program = .error e →
        (e.code = .hostAllocationFailure ∧ ∃ site, cfgHost.allocation site ≠ none) ∨
          (e.code = .invalidBranchTarget ∧
            ∃ emission, BranchesNowhere program e.emissionIndex emission) := by
  constructor
  · intro host words e h
    simp only [lowerRdna2StreamToShaderIr, bind_eq_error, pure_ne_error, and_false, exists_false,
      or_false] at h
    rcases h with h | ⟨_, -, h⟩
    · unfold allocate at h
      split at h
      · cases h
      · cases h
        intro hcode
        cases hcode
      · cases h
        intro hcode
        cases hcode
    · exact lowerStream_ne_invalidInstructionExtent h
  · intro host words program hlength h
    obtain ⟨-, hcount, hlowers⟩ := lowerRdna2StreamToShaderIr_eq_ok.mp h
    obtain ⟨htiles, hoffsets⟩ := hlowers.tiles
    rw [← hcount] at htiles
    have hlaid : LaidOut program := ⟨htiles, hoffsets⟩
    refine ⟨hcount, hlaid, ?_, ?_⟩
    · intro host' host'' more program' hmore h' hhost
      obtain ⟨-, -, hlowers'⟩ := lowerRdna2StreamToShaderIr_eq_ok.mp h'
      rw [lowerRdna2StreamToShaderIr_eq_ok]
      exact ⟨hhost, List.length_append.symm, lowers_append (by omega) hlowers hlowers'⟩
    · intro cfgHost e herror
      refine cfgError_of_lowers hlaid ?_ ⟨?_⟩ ?_ herror
      · have hmax : kMaxSignedWordIndex = 2 ^ 63 - 1 := rfl
        omega
      · intro emission hemission
        have hinside := htiles.bounds (List.mem_map.mpr ⟨emission, hemission, rfl⟩)
        dsimp only [ShaderIrEmission.extent] at hinside
        rw [hoffsets emission hemission]
        omega
      · intro emission hemission
        exact hlowers.exists_instruction hemission

/-- Two streams, each with a branch: the first over its end, the second back to its own start. -/
theorem lowerRdna2StreamToShaderIr_compositional_sample :
    ∃ program program', lowerRdna2StreamToShaderIr Host.plentiful [0xbf820000, 0xbf810000] =
      .ok program ∧
      lowerRdna2StreamToShaderIr Host.plentiful [0xbe8503ff, 7, 0xbf82fffd] = .ok program' ∧
      lowerRdna2StreamToShaderIr Host.plentiful
        ([0xbf820000, 0xbf810000] ++ [0xbe8503ff, 7, 0xbf82fffd]) =
        .ok ⟨2 + 3, program.emissions ++ program'.emissions.map (ShaderIrEmission.shift 2)⟩ := by
  obtain ⟨program, hprogram⟩ :
      ∃ program, lowerRdna2StreamToShaderIr Host.plentiful [0xbf820000, 0xbf810000] = .ok program :=
    ⟨⟨2, [_, _]⟩, lowerRdna2StreamToShaderIr_eq_ok.mpr ⟨rfl, rfl, _, rfl, rfl, _, rfl, rfl, rfl⟩⟩
  obtain ⟨program', hprogram'⟩ :
      ∃ program, lowerRdna2StreamToShaderIr Host.plentiful [0xbe8503ff, 7, 0xbf82fffd] =
        .ok program :=
    ⟨⟨3, [_, _]⟩, lowerRdna2StreamToShaderIr_eq_ok.mpr ⟨rfl, rfl, _, rfl, rfl, _, rfl, rfl, rfl⟩⟩
  obtain ⟨-, -, happend, -⟩ :=
    lowerRdna2StreamToShaderIr_compositional.2 Host.plentiful _ program (by decide) hprogram
  exact ⟨program, program', hprogram, hprogram',
    happend Host.plentiful Host.plentiful _ program' (by decide) hprogram' rfl⟩

end Stream

end Astraea.Graphics
