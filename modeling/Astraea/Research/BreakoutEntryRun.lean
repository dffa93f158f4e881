import Astraea.Research.BreakoutEntry
import Astraea.Research.OwnedCpuReplay
import Astraea.Research.OwnedMemoryHistory

/-!
# The owned run of a pinned entry

The owned interpreter fetches the same two instructions from an address space that holds the image,
has them decoded, and steps them. `DecodesEntry` is what it needs of the decoder, and `HoldsImage`
what it needs of the address space: that its regions are the mappings of the image and the stack,
with the bytes that the image is read with.

`interpretPinnedBreakoutEntry_agrees` says that the two interpreters come to the same. The pinned
one goes by the mappings and by the range of the stack; the owned one by the permissions of its
regions (`CallGranted`).
-/

namespace Astraea.Research

open Astraea.Base Astraea.Memory Astraea.Loader Astraea.Execution

/-! ### What is decoded -/

/-- Whatever bytes come after them, the bytes decode to one instruction, of which `P` holds. -/
def DecodesTo (decoder : ZydisDecoder) (bytes : List UInt8) (mnemonic : ZydisMnemonic)
    (P : ZydisDecodedInstruction → Prop) :
    Prop :=
  ∀ tail, ∃ insn, decoder.decodeFull (bytes ++ tail) = some insn ∧
    insn.length.toNat = bytes.length ∧
    insn.mnemonic = mnemonic ∧ P insn

/-- The operands of `AND RSP, -16`. -/
structure IsAndRsp (insn : ZydisDecodedInstruction) : Prop where
  form : IsRegisterImmediate insn
  reg : (insn.op 0).reg = .rsp
  imm : (insn.op 1).imm = -16

/-- The operand of a relative `CALL`. -/
structure IsCallRel32 (displacement : Int32) (insn : ZydisDecodedInstruction) : Prop where
  visible : insn.operandCountVisible = 1
  type : (insn.op 0).type = .immediate
  relative : (insn.op 0).isRelative = true
  imm : (insn.op 0).imm = displacement.toInt64

/-- The decoder can be set up, and knows the two instructions. -/
structure DecodesEntry (decoder : ZydisDecoder) : Prop where
  init : decoder.init = true
  and : DecodesTo decoder kAndRsp .and IsAndRsp
  call : ∀ rel : List UInt8, rel.length = 4 →
    DecodesTo decoder (0xe8 :: rel) .call (IsCallRel32 (u32At rel 0).toInt32)

/-! ### What is held -/

/-- A region is a range of guest addresses with its permissions. -/
structure OwnedRegion.Covers (region : OwnedRegion) (range : GuestRange)
    (permissions : GuestPermissions) : Prop where
  base : region.base = range.base.value
  size : region.backing.size = range.size.toNat
  perms : region.perms = permissions

/-- The regions of an address space are the mappings of an image, with their permissions and their
bytes, and a stack that may be written. -/
structure HoldsImage (space : OwnedGuestAddressSpace) (memory : ℕ → UInt8) (image : GuestImage)
    (stackPerms : GuestPermissions) : Prop where
  regions : ∀ region ∈ space.regions,
    (∃ mapping ∈ image.mappings, region.Covers mapping.range mapping.permissions) ∨
    region.Covers image.initialStack.storage stackPerms
  mappings : ∀ mapping ∈ image.mappings, 0 < mapping.range.size.toNat →
    ∃ region ∈ space.regions, region.Covers mapping.range mapping.permissions
  stack : 0 < image.initialStack.storage.size.toNat →
    ∃ region ∈ space.regions, region.Covers image.initialStack.storage stackPerms
  writable : stackPerms.has .write = true
  bytes : ∀ view, image.initializedImageView = .ok view → ∀ mapping ∈ image.mappings, ∀ address :
    GuestAddress,
    address.toNat ∈ mapping.range → ∀ byte, view.readByte address = .ok byte →
    space.guestView memory address.toNat = some byte

/-- The bytes can be fetched one at a time. -/
structure FetchesAt (space : OwnedGuestAddressSpace) (memory : ℕ → UInt8) (rip : UInt64)
    (bytes : List UInt8) : Prop where
  noWrap : rip.toNat + bytes.length < 2 ^ 64
  fetch : ∀ i < bytes.length, space.fetch memory (rip + UInt64.ofNat i) 1 = .ok [bytes.getD i 0]

section Held

variable {space : OwnedGuestAddressSpace} {memory : ℕ → UInt8} {image : GuestImage}
  {stackPerms : GuestPermissions} {view : InitializedImageView} {mapping : MappingIntent}
  {region : OwnedRegion} {range : GuestRange} {permissions : GuestPermissions} {address : UInt64}
  {requested : ℕ} {required : GuestPermission}

theorem OwnedRegion.Covers.contains_iff (h : region.Covers range permissions) :
    region.guest.Contains ⟨address.toNat, requested⟩ ↔
      range.base.toNat ≤ address.toNat ∧ address.toNat + requested ≤ range.last := by
  rw [Interval.Contains, OwnedRegion.guest, h.base, h.size]
  rfl

theorem OwnedRegion.Covers.grants (h : region.Covers range permissions)
    (hmem : region ∈ space.regions) (hperms : permissions.has required = true)
    (hpos : 0 < requested) (hbase : range.base.toNat ≤ address.toNat)
    (hlast : address.toNat + requested ≤ range.last) : space.Grants address requested required := by
  have hcontains : region.guest.Contains ⟨address.toNat, requested⟩ :=
    h.contains_iff.mpr ⟨hbase, hlast⟩
  have hend := space.ends region hmem
  obtain ⟨hlow, hhigh⟩ := hcontains
  simp only [OwnedRegion.guest] at hlow hhigh
  refine ⟨hpos, by omega, region, hmem, hlow, hhigh, ?_⟩
  rw [h.perms]
  exact hperms

section

variable (h : HoldsImage space memory image stackPerms)

include h

/-- What is granted is granted by a mapping or by the stack. -/
theorem HoldsImage.cases_of_grants (hgrants : space.Grants address requested required) :
    (∃ mapping ∈ image.mappings, mapping.permissions.has required = true ∧
      mapping.range.base.toNat ≤ address.toNat ∧ address.toNat + requested ≤ mapping.range.last) ∨
      stackPerms.has required = true ∧ image.initialStack.storage.base.toNat ≤ address.toNat ∧
        address.toNat + requested ≤ image.initialStack.storage.last := by
  obtain ⟨-, -, region, hmem, hlow, hhigh, hperms⟩ := hgrants
  have hcontains : region.guest.Contains ⟨address.toNat, requested⟩ := ⟨hlow, hhigh⟩
  rcases h.regions region hmem with ⟨mapping, hmapping, hcovers⟩ | hcovers
  · rw [hcovers.perms] at hperms
    exact .inl ⟨mapping, hmapping, hperms, hcovers.contains_iff.mp hcontains⟩
  · rw [hcovers.perms] at hperms
    exact .inr ⟨hperms, hcovers.contains_iff.mp hcontains⟩

/-- An address of an executable mapping can be fetched from. -/
theorem HoldsImage.grants_execute (hmapping : mapping ∈ image.mappings)
    (hexecute : mapping.permissions.has .execute = true) (hmem : address.toNat ∈ mapping.range) :
    space.Grants address 1 .execute := by
  obtain ⟨hlow, hhigh⟩ := hmem
  have hsize : 0 < mapping.range.size.toNat := by
    rw [GuestRange.last] at hhigh
    omega
  obtain ⟨region, hregion, hcovers⟩ := h.mappings mapping hmapping hsize
  exact hcovers.grants hregion hexecute Nat.one_pos hlow hhigh

theorem HoldsImage.fetch_eq (hview : image.initializedImageView = .ok view)
    (hmapping : mapping ∈ image.mappings) (hexecute : mapping.permissions.has .execute = true)
    (hmem : address.toNat ∈ mapping.range) {byte : UInt8}
    (hbyte : view.readByte ⟨address⟩ = .ok byte) :
    space.fetch memory address 1 = .ok [byte] := by
  obtain ⟨bytes, hbytes⟩ : ∃ bytes, space.copyOut memory address 1 .execute = .ok bytes :=
    OwnedGuestAddressSpace.copyOut_iff.mpr (h.grants_execute hmapping hexecute hmem)
  obtain ⟨-, hlength, hseen⟩ := OwnedGuestAddressSpace.copyOut_eq_ok hbytes
  obtain ⟨fetched, rfl⟩ := List.length_eq_one_iff.mp hlength
  have hheld : space.guestView memory address.toNat = some byte :=
    h.bytes view hview mapping hmapping ⟨address⟩ hmem byte hbyte
  have hsame := hseen 0 Nat.one_pos
  rw [Nat.add_zero, hheld] at hsame
  rw [OwnedGuestAddressSpace.fetch, hbytes]
  cases hsame
  rfl

/-- The two instructions of a pinned entry can be fetched. -/
theorem HoldsImage.fetchesAt {rel : List UInt8} (hentry : PinnedEntry image view rel) :
    FetchesAt space memory image.elf.header.entry kAndRsp ∧
      FetchesAt space memory (image.elf.header.entry + 4) (0xe8 :: rel) := by
  have hwrap := hentry.noWrap
  have hrel := hentry.relLength
  obtain ⟨mapping, hmapping, hexecute, hcode⟩ := hentry.code
  have hfetch : ∀ i < 9, space.fetch memory (image.elf.header.entry + UInt64.ofNat i) 1 =
      .ok [(kAndRsp ++ 0xe8 :: rel).getD i 0] := by
    intro i hi
    obtain ⟨hmem, hbyte⟩ := hcode i hi
    have haddress : (image.elf.header.entry + UInt64.ofNat i).toNat =
        image.elf.header.entry.toNat + i := by
      rw [UInt64.toNat_add, toNat_ofNat_of_lt (by omega)]
      omega
    exact h.fetch_eq hentry.source hmapping hexecute (haddress.symm ▸ hmem) hbyte
  have hfour : (image.elf.header.entry + 4).toNat = image.elf.header.entry.toNat + 4 := by
    have hvalue : ((4 : UInt64)).toNat = 4 := rfl
    rw [UInt64.toNat_add, hvalue]
    omega
  have hlength : kAndRsp.length = 4 := rfl
  refine ⟨⟨by omega, ?_⟩, ⟨by rw [List.length_cons, hfour]; omega, ?_⟩⟩
  · intro i hi
    rw [hfetch i (by omega), List.getD_append _ _ _ _ hi]
  · intro i hi
    rw [List.length_cons] at hi
    have hshift : image.elf.header.entry + 4 + UInt64.ofNat i =
        image.elf.header.entry + UInt64.ofNat (4 + i) := by
      rw [UInt64.ofNat_add, UInt64.add_assoc]
      rfl
    rw [hshift, hfetch (4 + i) (by omega), List.getD_append_right _ _ _ _ (by omega), hlength,
      Nat.add_sub_cancel_left]

end

end Held

/-! ### What is fetched -/

section Fetched

variable {decoder : ZydisDecoder} {space : OwnedGuestAddressSpace} {memory : ℕ → UInt8}
  {rip : UInt64} {bytes : List UInt8} {remaining n : ℕ} {cpu : GuestCpuContext}
  {mnemonic : ZydisMnemonic} {P : ZydisDecodedInstruction → Prop}

/-- The bytes of an instruction begin with those that are known to be there, by induction on them.
-/
theorem fetchBytes_append (hremaining : bytes.length ≤ remaining)
    (hwrap : rip.toNat + n + bytes.length < 2 ^ 64)
    (hfetch : ∀ i < bytes.length, space.fetch memory (rip + UInt64.ofNat (n + i)) 1 =
      .ok [bytes.getD i 0]) :
    ∃ tail, (fetchBytes space memory rip remaining n).1 = bytes ++ tail := by
  induction bytes generalizing remaining n with
  | nil => exact ⟨_, rfl⟩
  | cons byte bytes ih =>
    rw [List.length_cons] at hremaining hwrap
    obtain ⟨remaining, rfl⟩ := Nat.exists_eq_succ_of_ne_zero (show remaining ≠ 0 by omega)
    have hroom : ¬ rip > u64Max - UInt64.ofNat n := by
      rw [gt_u64Max_sub_iff, toNat_ofNat_of_lt (by omega)]
      omega
    have hfirst := hfetch 0 (Nat.succ_pos _)
    rw [Nat.add_zero, List.getD_cons_zero] at hfirst
    have hrest : ∀ i < bytes.length, space.fetch memory (rip + UInt64.ofNat (n + 1 + i)) 1 =
        .ok [bytes.getD i 0] := by
      intro i hi
      have hnext := hfetch (i + 1) (Nat.succ_lt_succ hi)
      rwa [List.getD_cons_succ, show n + (i + 1) = n + 1 + i by omega] at hnext
    obtain ⟨tail, htail⟩ := ih (Nat.le_of_succ_le_succ hremaining) (by omega) hrest
    refine ⟨tail, ?_⟩
    rw [Nat.succ_eq_add_one, fetchBytes, if_neg hroom, hfirst]
    dsimp only
    rw [htail]
    rfl

/-- Bytes that can be fetched and that decode are an instruction, which decodes again. -/
theorem exists_fetchInstruction (hinit : decoder.init = true)
    (hfetches : FetchesAt space memory cpu.rip bytes) (hpos : 0 < bytes.length)
    (hmax : bytes.length ≤ kX86MaximumInstructionBytes)
    (hdecodes : DecodesTo decoder bytes mnemonic P) :
    ∃ record insn, fetchInstruction decoder space cpu memory = .ok record ∧
      decoder.decodeFull (record.bytes.take record.length.toNat) = some insn ∧
      Redecodes decoder record cpu insn ∧
      record.length.toNat = bytes.length ∧ record.bytes.getD 0 0 = bytes.getD 0 0 ∧
      insn.mnemonic = mnemonic ∧ P insn := by
  have hwrap := hfetches.noWrap
  obtain ⟨tail, htail⟩ : ∃ tail, (fetchBytes space memory cpu.rip kX86MaximumInstructionBytes 0).1 =
      bytes ++ tail := by
    refine fetchBytes_append hmax (by omega) ?_
    intro i hi
    rw [Nat.zero_add]
    exact hfetches.fetch i hi
  obtain ⟨insn, hinsn, hlength, hmnemonic, -⟩ := hdecodes tail
  obtain ⟨insn', hinsn', hlength', hmnemonic', hP⟩ := hdecodes []
  rw [List.append_nil] at hinsn'
  have htake : (bytes ++ tail).take insn.length.toNat = bytes := by
    rw [hlength]
    exact List.take_left
  have hnonzero : insn.length ≠ 0 := by
    intro hzero
    rw [hzero] at hlength
    exact absurd hlength.symm hpos.ne'
  have hnotrefused : ¬ (insn.length = 0 ∨ insn.length.toNat > (bytes ++ tail).length ∨
      insn.length.toNat > kX86MaximumInstructionBytes) := by
    rw [List.length_append, hlength]
    rintro (hzero | hlong | hlong)
    · exact hnonzero hzero
    · omega
    · omega
  refine ⟨⟨cpu.rip, insn.length,
    bytes ++ List.replicate (kX86MaximumInstructionBytes - insn.length.toNat) 0, insn.mnemonic⟩,
    insn', ?_, ?_, ⟨rfl, ⟨hnonzero, by rw [hlength]; exact hmax⟩, hinit, ⟨?_, ?_⟩, ?_⟩, hlength, ?_,
    hmnemonic', hP⟩
  · have hsome : ¬ (bytes ++ tail).length = 0 := by
      rw [List.length_append]
      omega
    rw [fetchInstruction, htail, refuseIf_of_not hsome, ok_bind]
    simp only [hinsn, orRefuse, ok_bind]
    rw [refuseIf_of_not hnotrefused, ok_bind, htake]
    rfl
  · rw [hlength, List.take_left]
    exact hinsn'
  · rw [← UInt8.toNat_inj, hlength', hlength]
  · rw [hmnemonic, hmnemonic']
  · refine UInt64.not_lt.mp fun hover => ?_
    rw [← gt_iff_lt, gt_u64Max_sub_iff, UInt8.toNat_toUInt64, hlength'] at hover
    dsimp only at hover
    omega
  · rw [List.getD_append _ _ _ _ hpos]

end Fetched

/-! ### The two rounds -/

/-- The owned interpreter lets a `CALL` retire: its target can be executed and the word below `RSP`
can be written. -/
def CallGranted (space : OwnedGuestAddressSpace) (rsp next : UInt64) (delta : Int64) : Prop :=
  ∃ target, addSigned next delta = some target ∧ space.Grants target 1 .execute ∧ 8 ≤ rsp.toNat ∧
    space.Grants (rsp - 8) 8 .write

section Rounds

variable {decoder : ZydisDecoder} {space : OwnedGuestAddressSpace} {memory : ℕ → UInt8}
  {cpu : GuestCpuContext} {record : DecodedSourceInstruction} {insn : ZydisDecodedInstruction}
  {next target : UInt64} {rel : List UInt8}

/-- The context after `AND RSP, -16` is the one of the pinned interpreter. -/
theorem contextAfterAnd_eq (entry : UInt64) : contextAfterAnd cpu entry =
    { cpu with
      rsp := cpu.rsp &&& (-16 : Int64).toUInt64
      rflags :=
        (cpu.rflags &&& ~~~kDefinedLogicFlags) ||| logicAndFlags
        (cpu.rsp &&& (-16 : Int64).toUInt64)
      rip := entry + 4 } := by
  have hmask : (-16 : Int64).toUInt64 = ~~~0xf := by decide
  rw [contextAfterAnd, hmask]
  simp only [flagsAfterAnd_eq, kFlagMask_eq]

theorem stepOwnedX8664_of_error {stop : OwnedCpuStepStop}
    (h : decodeStep decoder space record cpu memory = .error stop) :
    stepOwnedX8664 decoder space record cpu memory = (.error stop, cpu, memory) := by
  rw [stepOwnedX8664, h]

section Store

variable {pending : PendingStep} {address value : UInt64}

section

variable (h : decodeStep decoder space record cpu memory = .ok (next, pending))
  (hstore : pending.guestWrite = some (address, value))

include h hstore

theorem stepOwnedX8664_of_store {memory' : ℕ → UInt8}
    (hwrite : space.write memory address (wordBytes value) = .ok memory') :
    stepOwnedX8664 decoder space record cpu memory =
      (.ok ⟨next, 1, some address, 8, wordBytes value⟩,
        { pending.cpu with rip := pending.committedRip }, memory') := by
  rw [stepOwnedX8664, h]
  dsimp only
  rw [hstore]
  dsimp only
  rw [hwrite]

theorem stepOwnedX8664_of_fault {fault : OwnedGuestMemoryFault}
    (hwrite : space.write memory address (wordBytes value) = .error fault) :
    stepOwnedX8664 decoder space record cpu memory =
      (.error ⟨.guestMemoryRefused, cpu.rip, some fault⟩, cpu, memory) := by
  rw [stepOwnedX8664, h]
  dsimp only
  rw [hstore]
  dsimp only
  rw [hwrite]

end

end Store

/-- **The first round is the `AND`.** -/
theorem ownedRound_and (h : DecodesEntry decoder)
    (hfetches : FetchesAt space memory cpu.rip kAndRsp) :
    ∃ step, ownedRound decoder space (cpu, memory) =
      .ok ((contextAfterAnd cpu cpu.rip, memory), step) ∧
      step.stores = false := by
  obtain ⟨record, insn, hfetch, hdecode, hredecodes, hlength, -, hmnemonic, hand⟩ :=
    exists_fetchInstruction h.init hfetches (by decide) (by decide) h.and
  have hfour : insn.length.toUInt64 = 4 := by
    rw [← UInt64.toNat_inj, UInt8.toNat_toUInt64, hredecodes.same.1, hlength]
    rfl
  have hslot : registerSlot (insn.op 0).reg =
      some ⟨fun cpu => cpu.rsp, fun cpu value => { cpu with rsp := value }⟩ := by
    rw [hand.reg]
    rfl
  have hform : andForm cpu insn (record.rip + insn.length.toUInt64) = .ok _ :=
    andForm_eq_ok.mpr ⟨_, hslot, rfl⟩
  have hstep : ∃ committed, stepOwnedX8664 decoder space record cpu memory =
      (.ok committed, contextAfterAnd cpu cpu.rip, memory) ∧
        committed.guestWriteAddress = none := by
    rw [stepOwnedX8664, decodeStep_of_redecodes hdecode hredecodes,
      pendingStep_and hmnemonic hand.form, hform, contextAfterAnd_eq, ← hand.imm, hfour,
      hredecodes.rip]
    exact ⟨_, rfl, rfl⟩
  obtain ⟨committed, hstep, hloads⟩ := hstep
  refine ⟨_, ownedRound_of_step h.init hfetch hstep, ?_⟩
  rw [OwnedCpuTraceStep.stores, traceStep, hloads]
  rfl

theorem pendingStep_call (hmnemonic : insn.mnemonic = .call) (hdirect : isDirectCall insn record) :
    pendingStep space memory cpu insn next record = callForm space memory cpu insn next := by
  simp [pendingStep, hmnemonic, hdirect, refuseIf]
  rfl

/-- A `CALL` whose target and stack pointer are in order is to store the address after it. -/
theorem callForm_of_target (htarget : addSigned next (insn.op 0).imm = some target)
    (hfetch : space.Grants target 1 .execute) (hrsp : 8 ≤ cpu.rsp.toNat) :
    callForm space memory cpu insn next =
      .ok ⟨{ cpu with rsp := cpu.rsp - 8 }, target, some (cpu.rsp - 8, next)⟩ := by
  obtain ⟨fetched, hfetched⟩ : ∃ fetched, space.copyOut memory target 1 .execute = .ok fetched :=
    OwnedGuestAddressSpace.copyOut_iff.mpr hfetch
  have hready : ¬ ((space.fetch memory target 1).toOption.isNone = true ∨ cpu.rsp < 8) := by
    rw [OwnedGuestAddressSpace.fetch, hfetched, UInt64.lt_iff_toNat_lt]
    rintro (hnone | hlow)
    · cases hnone
    · exact absurd hlow (not_lt.mpr hrsp)
  rw [callForm, htarget]
  simp only [orRefuse, ok_bind]
  rw [refuseIf_of_not hready, ok_bind]
  rfl

theorem callForm_eq_ok {pending : PendingStep}
    (h : callForm space memory cpu insn next = .ok pending) :
    ∃ target, addSigned next (insn.op 0).imm = some target ∧ space.Grants target 1 .execute ∧
      8 ≤ cpu.rsp.toNat ∧
      pending = ⟨{ cpu with rsp := cpu.rsp - 8 }, target, some (cpu.rsp - 8, next)⟩ := by
  simp only [callForm, bind_eq_ok, refuseIf_eq_ok, orRefuse_eq_ok, pure_eq_ok] at h
  obtain ⟨target, htarget, _, hready, rfl⟩ := h
  rw [not_or, UInt64.not_lt, UInt64.le_iff_toNat_le] at hready
  obtain ⟨hfetch, hrsp⟩ := hready
  have hfetched : ∃ bytes, space.copyOut memory target 1 .execute = .ok bytes := by
    cases hcopied : space.fetch memory target 1 with
    | error fault =>
      rw [hcopied] at hfetch
      exact absurd rfl hfetch
    | ok bytes => exact ⟨bytes, hcopied⟩
  exact ⟨target, htarget, OwnedGuestAddressSpace.copyOut_iff.mp hfetched, hrsp, rfl⟩

theorem callForm_eq_error {stop : OwnedCpuStepStop}
    (h : callForm space memory cpu insn next = .error stop) :
    stop.guestRip = cpu.rip := by
  simp only [callForm, bind_eq_error, refuseIf_eq_error, orRefuse_eq_error, pure_ne_error,
    and_false, exists_false, or_false] at h
  rcases h with ⟨-, rfl⟩ | ⟨_, -, -, rfl⟩ <;> rfl

/-- **The second round is the `CALL`**: it is committed with one store when it is granted, and
refused without an effect when it is not. -/
theorem ownedRound_call (h : DecodesEntry decoder) (hrel : rel.length = 4)
    (hfetches : FetchesAt space memory cpu.rip (0xe8 :: rel)) :
    (∀ target memory', addSigned (cpu.rip + 5) (u32At rel 0).toInt32.toInt64 = some target →
      space.Grants target 1 .execute → 8 ≤ cpu.rsp.toNat →
      space.write memory (cpu.rsp - 8) (wordBytes (cpu.rip + 5)) = .ok memory' →
      ∃ step, ownedRound decoder space (cpu, memory) =
        .ok (({ cpu with rsp := cpu.rsp - 8, rip := target }, memory'), step) ∧
        step.stores = true) ∧
    (¬ CallGranted space cpu.rsp (cpu.rip + 5) (u32At rel 0).toInt32.toInt64 →
      ∃ stop, ownedRound decoder space (cpu, memory) = .error ⟨.stepRefused, none, some stop⟩ ∧
        stop.guestRip = cpu.rip) := by
  have hlength' : (0xe8 :: rel).length = 5 := by rw [List.length_cons, hrel]
  obtain ⟨record, insn, hfetch, hdecode, hredecodes, hlength, hfirst, hmnemonic, hcall⟩ :=
    exists_fetchInstruction h.init hfetches (by rw [hlength']; decide) (by rw [hlength']; decide)
      (h.call rel hrel)
  have hfive : insn.length.toUInt64 = 5 := by
    rw [← UInt64.toNat_inj, UInt8.toNat_toUInt64, hredecodes.same.1, hlength, hlength']
    rfl
  have hdirect : isDirectCall insn record := by
    refine ⟨hcall.visible, hcall.type, hcall.relative, ?_, hfirst⟩
    rw [← UInt8.toNat_inj, hlength, hlength']
    rfl
  have hform : decodeStep decoder space record cpu memory =
      (callForm space memory cpu insn (cpu.rip + 5)).map fun pending => (cpu.rip + 5, pending) := by
    rw [decodeStep_of_redecodes hdecode hredecodes, pendingStep_call hmnemonic hdirect, hfive,
      hredecodes.rip]
  constructor
  · intro target memory' htarget hexecute hrsp hwrite
    rw [← hcall.imm] at htarget
    rw [callForm_of_target htarget hexecute hrsp] at hform
    exact ⟨_, ownedRound_of_step h.init hfetch (stepOwnedX8664_of_store hform rfl hwrite), rfl⟩
  · intro hrefused
    cases hcallForm : callForm space memory cpu insn (cpu.rip + 5) with
    | error stop =>
      rw [hcallForm] at hform
      exact ⟨stop, ownedRound_of_refused h.init hfetch (stepOwnedX8664_of_error hform),
        callForm_eq_error hcallForm⟩
    | ok pending =>
      obtain ⟨target, htarget, hexecute, hrsp, rfl⟩ := callForm_eq_ok hcallForm
      rw [hcallForm] at hform
      cases hwrite : space.write memory (cpu.rsp - 8) (wordBytes (cpu.rip + 5)) with
      | error fault => exact ⟨_, ownedRound_of_refused h.init hfetch
          (stepOwnedX8664_of_fault hform rfl hwrite), rfl⟩
      | ok memory' =>
        have hgrants := OwnedGuestAddressSpace.write_iff.mp ⟨memory', hwrite⟩
        rw [wordBytes, length_leBytes] at hgrants
        exact absurd ⟨target, hcall.imm ▸ htarget, hexecute, hrsp, hgrants⟩ hrefused

end Rounds

/-! ### The run -/

/-- The run retired the two instructions of the evidence, and wrote its return word to its slot. -/
structure RetiresEntry (space : OwnedGuestAddressSpace) (memory : ℕ → UInt8)
    (evidence : BreakoutEntryStepEvidence) (run : OwnedRun) : Prop where
  retired : run.report.retiredInstructions = 2
  stop : run.report.stop = .budgetExhausted
  cpu : run.cpu = evidence.context
  knownFlags : run.cpu.rflags &&& evidence.knownRflagsMask = evidence.knownRflagsValue
  guestWrites : run.report.guestWrites = 1
  written : space.write memory evidence.guestStackWriteAddress evidence.guestStackReturnWord =
    .ok run.memory

/-- The run stopped at the `CALL`, as the `AND` left it. -/
structure RefusesCall (memory : ℕ → UInt8) (image : GuestImage) (run : OwnedRun) : Prop where
  retired : run.report.retiredInstructions = 1
  stop : run.report.stop = .stepRefused
  refused : ∃ stop, run.report.stepStop = some stop ∧ stop.guestRip = image.elf.header.entry + 4
  cpu : run.cpu = entryAfterAnd image
  unchanged : run.memory = memory
  guestWrites : run.report.guestWrites = 0

section Runs

variable {decoder : ZydisDecoder} {space : OwnedGuestAddressSpace} {memory memory' : ℕ → UInt8}
  {image : GuestImage} {stackPerms : GuestPermissions} {view : InitializedImageView}
  {rel : List UInt8} {target rsp : UInt64} {code : BreakoutEntryStopError}
  {cpu cpu' cpu'' : GuestCpuContext} {span : List OwnedCpuTraceStep}
  {first second : OwnedCpuTraceStep}

section

variable (hspan : span.isEmpty = true ∨ 2 ≤ span.length)
  (hfirst : ownedRound decoder space (cpu, memory) = .ok ((cpu', memory), first))
  (hloads : first.stores = false)

include hspan hfirst hloads

theorem runOwnedX8664_two
    (hsecond : ownedRound decoder space (cpu', memory) = .ok ((cpu'', memory'), second))
    (hstores : second.stores = true) :
    let run := runOwnedX8664 decoder space cpu memory 2 span
    run.report.retiredInstructions = 2 ∧ run.report.stop = .budgetExhausted ∧
    run.report.guestWrites = 1 ∧ run.cpu = cpu'' ∧
      run.memory = memory' := by
  dsimp only
  rw [runOwnedX8664_eq_after Nat.two_pos (by decide) hspan, tracedRun_of_ok hfirst,
    tracedRun_of_ok hsecond]
  refine ⟨rfl, rfl, ?_, rfl, rfl⟩
  simp [OwnedRun.after, hloads, hstores]

theorem runOwnedX8664_one {stop : OwnedRunStop}
    (hsecond : ownedRound decoder space (cpu', memory) = .error stop) :
    let run := runOwnedX8664 decoder space cpu memory 2 span
    run.report.retiredInstructions = 1 ∧ run.report.stop = stop.code ∧
    run.report.stepStop = stop.stepStop ∧
      run.report.guestWrites = 0 ∧ run.cpu = cpu' ∧ run.memory = memory := by
  dsimp only
  rw [runOwnedX8664_eq_after Nat.two_pos (by decide) hspan, tracedRun_of_ok hfirst,
    tracedRun_of_error hsecond]
  refine ⟨rfl, rfl, rfl, ?_, rfl, rfl⟩
  simp [OwnedRun.after, hloads]

end

/-- The known flags are what the mask leaves of the flags. -/
theorem knownFlags_eq :
    (entryAfterAnd image).rflags &&& kFlagMask = flagsAfterAnd (entryAfterAnd image).rsp := by
  have hmasked : ∀ value, flagsAfterAnd value &&& kFlagMask = flagsAfterAnd value := by
    intro value
    rw [flagsAfterAnd]
    split_ifs <;> decide
  have hsplit : ∀ before flags : UInt64, flags &&& kFlagMask = flags →
      (before &&& ~~~kFlagMask ||| flags) &&& kFlagMask = flags := by
    intro before flags hflags
    have hdistrib : (before &&& ~~~kFlagMask ||| flags) &&& kFlagMask =
        (before &&& (~~~kFlagMask &&& kFlagMask)) ||| flags &&& kFlagMask := by
      rw [← UInt64.toBitVec_inj]
      ext i
      simp only [UInt64.toBitVec_and, UInt64.toBitVec_or, BitVec.getElem_and, BitVec.getElem_or,
        Bool.and_or_distrib_right, Bool.and_assoc]
    rw [hdistrib, UInt64.not_and_self, UInt64.and_zero, UInt64.zero_or, hflags]
  exact hsplit _ _ (hmasked _)

theorem entryAfterAnd_next : (entryAfterAnd image).rip + 5 = image.elf.header.entry + 9 :=
  UInt64.add_assoc _ 4 5

theorem toNat_below (h : 8 ≤ rsp.toNat) : (rsp - 8).toNat = rsp.toNat - 8 :=
  UInt64.toNat_sub_of_le _ _ (UInt64.le_iff_toNat_le.mpr h)

section

variable (h : HoldsImage space memory image stackPerms)

include h

theorem HoldsImage.grants_slot (hstack : StoresBelow image.initialStack.storage rsp) :
    space.Grants (rsp - 8) 8 .write := by
  obtain ⟨hrsp, hbase, hlast⟩ := hstack
  have hsize : 0 < image.initialStack.storage.size.toNat := by
    rw [GuestRange.last] at hlast
    omega
  obtain ⟨region, hregion, hcovers⟩ := h.stack hsize
  refine hcovers.grants hregion h.writable (by decide) ?_ ?_
  · rw [toNat_below hrsp]
    omega
  · rw [toNat_below hrsp]
    omega

/-- Only ranges around the eight bytes below `RSP` take the return word. -/
theorem HoldsImage.stores_of_grants (hrsp : 8 ≤ rsp.toNat)
    (hgrants : space.Grants (rsp - 8) 8 .write) :
    (∃ mapping ∈ image.mappings, mapping.permissions.has .write = true ∧
      StoresBelow mapping.range rsp) ∨
      StoresBelow image.initialStack.storage rsp := by
  have hbelow : ∀ range : GuestRange, range.base.toNat ≤ (rsp - 8).toNat ∧
    (rsp - 8).toNat + 8 ≤ range.last →
      StoresBelow range rsp := by
    intro range hrange
    rw [toNat_below hrsp] at hrange
    exact ⟨hrsp, by omega, by omega⟩
  rcases h.cases_of_grants hgrants with ⟨mapping, hmapping, hwrite, hrange⟩ | ⟨-, hrange⟩
  · exact .inl ⟨mapping, hmapping, hwrite, hbelow _ hrange⟩
  · exact .inr (hbelow _ hrange)

/-- A target that the pinned interpreter takes to be executable can be fetched from. -/
theorem HoldsImage.grants_target (hexecutable : sourceIsExecutable image target 1 = true) :
    space.Grants target 1 .execute := by
  obtain ⟨-, mapping, hmapping, hexecute, hall⟩ :=
    (sourceIsExecutable_iff (by decide)).mp hexecutable
  exact h.grants_execute hmapping hexecute (hall _ le_rfl (Nat.lt_succ_self _))

/-- What can be fetched is executable in a mapping, or the stack is executable. -/
theorem HoldsImage.executable_of_grants (hstack : stackPerms.has .execute = false)
    (hgrants : space.Grants target 1 .execute) :
    sourceIsExecutable image target 1 = true := by
  rw [sourceIsExecutable_iff (by decide)]
  rcases h.cases_of_grants hgrants with ⟨mapping, hmapping, hexecute, hbase, hlast⟩ | ⟨hexecute, -⟩
  · refine ⟨hlast.trans mapping.range.last_le, mapping, hmapping, hexecute, ?_⟩
    intro x hlow hhigh
    exact ⟨hbase.trans hlow, lt_of_lt_of_le hhigh hlast⟩
  · rw [hstack] at hexecute
    cases hexecute

end

/-- When a refusal of the pinned interpreter is one of the owned interpreter: the stack is not
executable, and no mapping that may be written takes the return word in its place. -/
def RefusedAlike (image : GuestImage) (stackPerms : GuestPermissions)
    (code : BreakoutEntryStopError) : Prop :=
  code = .targetAddressOverflow ∨ (code = .targetNotExecutable ∧ stackPerms.has .execute = false) ∨
    (code = .invalidGuestStack ∧ ∀ mapping ∈ image.mappings, mapping.permissions.has .write = true →
      ¬ StoresBelow mapping.range (entryAfterAnd image).rsp)

theorem RefusedAlike.mem (h : RefusedAlike image stackPerms code) :
    code ∈ [.targetAddressOverflow, .targetNotExecutable, .invalidGuestStack] := by
  rcases h with rfl | ⟨rfl, -⟩ | ⟨rfl, -⟩ <;> simp

/-- A refusal of the pinned interpreter is one of the owned interpreter. -/
theorem not_callGranted (h : HoldsImage space memory image stackPerms)
    (hrefused : CallRefused image rel code) (halike : RefusedAlike image stackPerms code) :
    ¬ CallGranted space (entryAfterAnd image).rsp (image.elf.header.entry + 9)
      (u32At rel 0).toInt32.toInt64 := by
  rintro ⟨target, htarget, hexecute, hrsp, hwrite⟩
  rw [← signedRelativeTarget_eq] at htarget
  cases hrefused with
  | overflow hnone =>
    rw [hnone] at htarget
    cases htarget
  | notExecutable hsome hnot =>
    obtain ⟨-, hstack⟩ :=
        (halike.resolve_left BreakoutEntryStopError.noConfusion).resolve_right fun h =>
      BreakoutEntryStopError.noConfusion h.1
    rw [hsome] at htarget
    cases htarget
    rw [h.executable_of_grants hstack hexecute] at hnot
    cases hnot
  | stack hnot =>
    obtain ⟨-, honly⟩ :=
        (halike.resolve_left BreakoutEntryStopError.noConfusion).resolve_left fun h =>
      BreakoutEntryStopError.noConfusion h.1
    rcases h.stores_of_grants hrsp hwrite with ⟨mapping, hmapping, hwritable, hstores⟩ | hstores
    · exact honly mapping hmapping hwritable hstores
    · exact hnot hstores

/-- The two rounds of a run from a pinned entry: the `AND`, and the bytes of the `CALL` after it. -/
theorem HoldsImage.firstRound (h : HoldsImage space memory image stackPerms)
    (hdecodes : DecodesEntry decoder) (hentry : PinnedEntry image view rel) :
    (∃ step, ownedRound decoder space (makeSyntheticInitialContext image, memory) =
        .ok ((entryAfterAnd image, memory), step) ∧ step.stores = false) ∧
      FetchesAt space memory (entryAfterAnd image).rip (0xe8 :: rel) := by
  obtain ⟨hand, hcall⟩ := h.fetchesAt hentry
  exact ⟨ownedRound_and hdecodes hand, hcall⟩

end Runs

/-- **The two entry interpreters agree.** On an address space that holds the image, a run of two
instructions from the initial context retires both when the pinned interpreter accepts the entry:
it ends with the context and the known flags of the evidence, and its one write puts the same
return word into the same slot. When the pinned interpreter refuses the target or the stack, the run
stops at the `CALL` with its state as after the `AND`. -/
theorem interpretPinnedBreakoutEntry_agrees (decoder : ZydisDecoder)
    (space : OwnedGuestAddressSpace) (memory : ℕ → UInt8) (image : GuestImage)
    (stackPerms : GuestPermissions) (span : List OwnedCpuTraceStep)
    (hdecodes : DecodesEntry decoder) (hholds : HoldsImage space memory image stackPerms)
    (hspan : span.isEmpty = true ∨ 2 ≤ span.length) :
    (∀ evidence, interpretPinnedBreakoutEntry image = .ok evidence →
      RetiresEntry space memory evidence
        (runOwnedX8664 decoder space (makeSyntheticInitialContext image) memory 2 span)) ∧
    ∀ code, interpretPinnedBreakoutEntry image = .error code → RefusedAlike image stackPerms code →
      RefusesCall memory image
        (runOwnedX8664 decoder space (makeSyntheticInitialContext image) memory 2 span) := by
  constructor
  · intro evidence hevidence
    obtain ⟨view, rel, target, hentry, hcall, hcontext, haddress, hword, hmask, hvalue⟩ :=
      interpretPinnedBreakoutEntry_eq_ok hevidence
    obtain ⟨⟨first, hfirst, hloads⟩, hfetches⟩ := hholds.firstRound hdecodes hentry
    have hslot := hholds.grants_slot hcall.stack
    obtain ⟨memory', hwrite⟩ : ∃ memory', space.write memory ((entryAfterAnd image).rsp - 8)
        (wordBytes ((entryAfterAnd image).rip + 5)) = .ok memory' := by
      rw [OwnedGuestAddressSpace.write_iff, wordBytes, length_leBytes]
      exact hslot
    have htarget := hcall.branch
    rw [signedRelativeTarget_eq, ← entryAfterAnd_next] at htarget
    obtain ⟨second, hsecond, hstores⟩ :=
      (ownedRound_call hdecodes hentry.relLength hfetches).1 target memory' htarget
      (hholds.grants_target hcall.executable) hcall.stack.1 hwrite
    obtain ⟨hretired, hstop, hwrites, hcpu, hmemory⟩ :=
      runOwnedX8664_two hspan hfirst hloads hsecond hstores
    refine ⟨hretired, hstop, hcpu.trans hcontext.symm, ?_, hwrites, ?_⟩
    · rw [hcpu, hmask, hvalue]
      exact knownFlags_eq
    · rw [haddress, hword, hmemory, ← entryAfterAnd_next]
      exact hwrite
  · intro code hcode halike
    obtain ⟨view, rel, hentry, hrefused⟩ := interpretPinnedBreakoutEntry_eq_error hcode halike.mem
    obtain ⟨⟨first, hfirst, hloads⟩, hfetches⟩ := hholds.firstRound hdecodes hentry
    have hnot := not_callGranted hholds hrefused halike
    rw [← entryAfterAnd_next] at hnot
    obtain ⟨stop, hsecond, hrip⟩ := (ownedRound_call hdecodes hentry.relLength hfetches).2 hnot
    obtain ⟨hretired, hstop, hstep, hwrites, hcpu, hmemory⟩ :=
      runOwnedX8664_one hspan hfirst hloads hsecond
    exact ⟨hretired, hstop, ⟨stop, hstep, hrip⟩, hcpu, hmemory, hwrites⟩

/-! ### An entry -/

/-- A decoder of the two instructions. -/
def entryDecoder : ZydisDecoder where
  init := true
  decodeFull
    | 0x48 :: 0x83 :: 0xe4 :: 0xf0 :: _ =>
      some ⟨.and, 4, 2, [{ type := .register, size := 64, reg := .rsp },
        { type := .immediate, size := 64, imm := -16 }]⟩
    | 0xe8 :: b0 :: b1 :: b2 :: b3 :: _ =>
      some ⟨.call, 5, 1,
        [{ type := .immediate, size := 64, isRelative := true, imm := (u32At [b0, b1, b2, b3]
        0).toInt32.toInt64 }]⟩
    | _ => none

/-- `AND RSP, -16`, a `CALL`, and three instructions of one byte. -/
def entryBytesOf (rel : List UInt8) : List UInt8 := kAndRsp ++ 0xe8 :: rel ++ [0x90, 0x90, 0xc3]

/-- A `CALL` two bytes ahead. -/
def entryBytes : List UInt8 := entryBytesOf [0x02, 0x00, 0x00, 0x00]

/-- A `CALL` of the address 0x8100, which is on the stack. -/
def stackCallBytes : List UInt8 := entryBytesOf [0xf7, 0x70, 0x00, 0x00]

/-- Where the program is loaded: it may be read and executed. -/
def entryMapping : MappingIntent where
  range := ⟨⟨0x1000⟩, ⟨12⟩, by decide⟩
  permissions := ⟨GuestPermission.read.mask ||| GuestPermission.execute.mask, by decide⟩
  backing := ⟨.file, 0, ⟨12⟩⟩
  sourceIndex := 0

/-- A program of one page, with a stack pointer that is not aligned. -/
def entryImageOf (bytes : List UInt8) : GuestImage where
  imageBytes := bytes
  elf := ⟨⟨0, 0, 2, 62, 1, 0x1000, 0, 0, 0, 64, 56, 0, 0, 0, 0⟩, []⟩
  mappings := [entryMapping]
  dynamicTable := none
  dynamicStrings := none
  dynamicSymbols := none
  generalRelocations := {}
  pltRelocations := none
  tls := none
  initialStack := ⟨stackPage, ⟨⟨0x8ff8⟩, ⟨8⟩, by decide⟩, ⟨0x8ff8⟩, []⟩

/-- The program that is accepted. -/
def entryImage : GuestImage := entryImageOf entryBytes

/-- The program that calls its stack. -/
def stackCallImage : GuestImage := entryImageOf stackCallBytes

/-- The permissions that the tool gives to the stack. -/
def entryStackPermissions : GuestPermissions := .fromElfFlags 6

/-- Permissions with which the stack may be executed too. -/
def executableStackPermissions : GuestPermissions := .fromElfFlags 7

/-- The regions of the program and of its stack. -/
def entryRegions (stackPerms : GuestPermissions) : List OwnedRegion :=
  [⟨0x8000, ⟨0x20000, 0x1000⟩, stackPerms⟩, ⟨0x1000, ⟨0x10000, 12⟩, entryMapping.permissions⟩]

/-- An address space with these regions. -/
def entrySpaceOf (stackPerms : GuestPermissions) : OwnedGuestAddressSpace :=
  ((OwnedGuestAddressSpace.empty.map 0x8000 ⟨0x20000, 0x1000⟩ stackPerms).2.map 0x1000
    ⟨0x10000, 12⟩ entryMapping.permissions).2

/-- The program at its backing, and zeros. -/
def entryMemoryOf (bytes : List UInt8) : ℕ → UInt8 :=
  fun x => if 0x10000 ≤ x then bytes.getD (x - 0x10000) 0 else 0

theorem entryDecoder_decodes : DecodesEntry entryDecoder where
  init := rfl
  and := fun _ => ⟨_, rfl, rfl, rfl, ⟨rfl, rfl, rfl, rfl⟩, rfl, rfl⟩
  call := by
    intro rel hrel tail
    obtain ⟨b0, b1, b2, b3, rfl⟩ := List.length_eq_four.mp hrel
    exact ⟨_, rfl, rfl, rfl, rfl, rfl, rfl, rfl⟩

theorem entrySpaceOf_holds {bytes : List UInt8} {stackPerms : GuestPermissions}
    (hregions : (entrySpaceOf stackPerms).regions = entryRegions stackPerms)
    (hwritable : stackPerms.has .write = true) :
    HoldsImage (entrySpaceOf stackPerms) (entryMemoryOf bytes) (entryImageOf bytes) stackPerms where
  regions := by
    intro region hregion
    rw [hregions, entryRegions, List.mem_pair] at hregion
    rcases hregion with rfl | rfl
    · exact .inr ⟨rfl, rfl, rfl⟩
    · exact .inl ⟨entryMapping, List.mem_singleton_self _, rfl, rfl, rfl⟩
  mappings := by
    intro mapping hmapping _
    rw [List.mem_singleton.mp hmapping]
    exact ⟨_, by rw [hregions]; exact List.mem_pair.mpr (.inr rfl), rfl, rfl, rfl⟩
  stack := by
    intro _
    exact ⟨_, by rw [hregions]; exact List.mem_pair.mpr (.inl rfl), rfl, rfl, rfl⟩
  writable := hwritable
  bytes := by
    intro view hview mapping hmapping address hmem byte hbyte
    obtain ⟨hbytes, hintents⟩ := InitializedImageView.create_eq_ok hview
    have hone : ∀ intent, intent ∈ view.intents ↔ intent = entryMapping := by
      intro intent
      rw [hintents, mem_sortIntents]
      exact List.mem_singleton
    rw [List.mem_singleton.mp hmapping] at hmem
    have hagree : Agree view.intents address.toNat := by
      intro i hi j hj s t hs ht
      rw [hone] at hi hj
      rw [hi] at hs
      rw [hj] at ht
      exact hs.unique ht
    have hread := InitializedImageView.readByte_of_supplies hagree ((hone entryMapping).mpr rfl)
      (.file rfl hmem)
    rw [hread] at hbyte
    cases hbyte
    obtain ⟨hlow, hhigh⟩ := hmem
    have hregion : OwnedRegion.mk 0x1000 ⟨0x10000, 12⟩ entryMapping.permissions ∈
        (entrySpaceOf stackPerms).regions := by
      rw [hregions]
      exact List.mem_pair.mpr (.inr rfl)
    have hcontains : (OwnedRegion.mk 0x1000 ⟨0x10000, 12⟩ entryMapping.permissions).guest.Contains
        ⟨address.toNat, 1⟩ := ⟨hlow, hhigh⟩
    rw [OwnedGuestAddressSpace.guestView_of_contains hregion hcontains, hbytes, entryMemoryOf,
      if_pos (Nat.le_add_right _ _), Nat.add_sub_cancel_left]
    change some (bytes.getD _ 0) = some (bytes.getD _ 0)
    rw [show (entryMapping.backing.fileOffset.toNat : ℕ) = 0 from rfl, Nat.zero_add]
    rfl

/-- The entry is accepted, and its run retires both instructions without a span; the call of the
stack is refused by both interpreters. -/
theorem entryImage_agrees :
    (∃ evidence, interpretPinnedBreakoutEntry entryImage = .ok evidence ∧
      evidence.context.rip = 0x100b ∧ evidence.guestStackWriteAddress = 0x8fe8 ∧
      RetiresEntry (entrySpaceOf entryStackPermissions) (entryMemoryOf entryBytes) evidence
        (runOwnedX8664 entryDecoder (entrySpaceOf entryStackPermissions)
          (makeSyntheticInitialContext entryImage) (entryMemoryOf entryBytes) 2 [])) ∧
    interpretPinnedBreakoutEntry stackCallImage = .error .targetNotExecutable ∧
    RefusesCall (entryMemoryOf stackCallBytes) stackCallImage
      (runOwnedX8664 entryDecoder (entrySpaceOf entryStackPermissions)
        (makeSyntheticInitialContext stackCallImage) (entryMemoryOf stackCallBytes) 2 []) := by
  have hholds : ∀ bytes, HoldsImage (entrySpaceOf entryStackPermissions) (entryMemoryOf bytes)
      (entryImageOf bytes) entryStackPermissions :=
    fun _ => entrySpaceOf_holds (by decide +kernel) (by decide)
  have hexecute : entryStackPermissions.has .execute = false := by decide
  constructor
  · have haccepted : (interpretPinnedBreakoutEntry entryImage).toOption.any fun evidence =>
        evidence.context.rip == 0x100b && evidence.guestStackWriteAddress == 0x8fe8 := by
      decide +kernel
    obtain ⟨evidence, hevidence, hfields⟩ := exists_of_any haccepted
    rw [Bool.and_eq_true, beq_iff_eq, beq_iff_eq] at hfields
    exact ⟨evidence, hevidence, hfields.1, hfields.2,
      (interpretPinnedBreakoutEntry_agrees entryDecoder _ _ entryImage _ [] entryDecoder_decodes
        (hholds _) (.inl rfl)).1 evidence hevidence⟩
  · have hrefused : interpretPinnedBreakoutEntry stackCallImage = .error .targetNotExecutable := by
      decide +kernel
    exact ⟨hrefused, (interpretPinnedBreakoutEntry_agrees entryDecoder _ _ stackCallImage _ []
      entryDecoder_decodes (hholds _) (.inl rfl)).2 _ hrefused (.inr (.inl ⟨rfl, hexecute⟩))⟩

/-- On a stack that may be executed the owned run retires the call of the stack, which the pinned
interpreter refuses. -/
theorem stackCallImage_disagrees :
    DecodesEntry entryDecoder ∧
    HoldsImage (entrySpaceOf executableStackPermissions) (entryMemoryOf stackCallBytes)
      stackCallImage executableStackPermissions ∧
    (∀ mapping ∈ stackCallImage.mappings, mapping.permissions.has .write = false) ∧
    interpretPinnedBreakoutEntry stackCallImage = .error .targetNotExecutable ∧
    (runOwnedX8664 entryDecoder (entrySpaceOf executableStackPermissions)
      (makeSyntheticInitialContext stackCallImage) (entryMemoryOf stackCallBytes) 2
      []).report.retiredInstructions = 2 ∧
    ¬ RefusesCall (entryMemoryOf stackCallBytes) stackCallImage
      (runOwnedX8664 entryDecoder (entrySpaceOf executableStackPermissions)
        (makeSyntheticInitialContext stackCallImage) (entryMemoryOf stackCallBytes) 2 []) := by
  have hretired : (runOwnedX8664 entryDecoder (entrySpaceOf executableStackPermissions)
      (makeSyntheticInitialContext stackCallImage) (entryMemoryOf stackCallBytes) 2
      []).report.retiredInstructions = 2 := by
    decide +kernel
  refine ⟨entryDecoder_decodes, entrySpaceOf_holds (by decide +kernel) (by decide), by decide,
    by decide +kernel, hretired, ?_⟩
  intro hrefuses
  rw [hrefuses.retired] at hretired
  exact absurd hretired (by decide)

end Astraea.Research
