import Astraea.Base.Guarded
import Astraea.Memory.InitializedImageView

/-!
# What a view reads, address by address

A view sorts its intents by base, so that a lookup can stop early. What is read at an address
depends on none of it: `readByte_eq_ok_iff` says that it is the byte of the one source which all
intents that contain the address give it. So the order in which the intents come does not matter,
nor the order in which the sort leaves those that compare equal.

A read finds its byte inside the image: `readByteWithin` looks every byte up, and is the same read.
-/

namespace Astraea.Memory

open Astraea.Base

namespace InitializedImageView

section Read

variable {view view' : InitializedImageView} {address : GuestAddress} {byte : UInt8}

/-- `read_byte`, with the byte of the image looked up. The error `none` is an index outside the
image. -/
def readByteWithin (view : InitializedImageView) (address : GuestAddress) :
    Except (Option InitializedImageError) UInt8 := do
  match ← (resolve address view.intents none).mapError some with
  | none => .error (some { code := .unmappedGuestAddress, guestAddress := address })
  | some ⟨.zeroFill, _, _⟩ => .ok 0
  | some ⟨.file, fileOffset, _⟩ => byteWithin view.imageBytes fileOffset.toNat

theorem lt_of_supplies_file {imageSize offset x : ℕ} {intent : MappingIntent}
    (hb : IntentBacked imageSize intent) (hs : Supplies intent x (.file offset)) :
    offset < imageSize := by
  cases hs with
  | file hkind hmem =>
    have hfile := (hb.file hkind).2
    rw [GuestRange.mem_def, GuestRange.last] at hmem
    omega

/-- **A read does not leave the image.** -/
theorem readByteWithin_eq (view : InitializedImageView) (address : GuestAddress) :
    view.readByteWithin address = (view.readByte address).mapError some := by
  unfold readByteWithin readByte
  cases hres : resolve address view.intents none with
  | error e => rfl
  | ok result =>
    cases result with
    | none => rfl
    | some found =>
      obtain ⟨-, -, hfrom⟩ := resolve_eq_ok view.backed view.sorted hres
      rcases hfrom found rfl with hnone | ⟨intent, hintent, hsup⟩
      · cases hnone
      · obtain ⟨kind, fileOffset, index⟩ := found
        cases kind with
        | zeroFill => rfl
        | file => exact byteWithin_eq (lt_of_supplies_file (view.backed intent hintent) hsup)

/-- The one source that all intents which contain an address give it. -/
def SourceAt (intents : List MappingIntent) (x : ℕ) (source : InitialSource) : Prop :=
  (∃ intent ∈ intents, x ∈ intent.range) ∧
    ∀ intent ∈ intents, x ∈ intent.range → Supplies intent x source

/-- **What is read at an address**: the byte of the source that all intents which contain it give
it. -/
theorem readByte_eq_ok_iff : view.readByte address = .ok byte ↔
    ∃ source, SourceAt view.intents address.toNat source ∧ byte = source.byte view.imageBytes := by
  constructor
  · intro h
    unfold readByte at h
    cases hres : resolve address view.intents none with
    | error e =>
      rw [hres] at h
      cases h
    | ok result =>
      rw [hres] at h
      cases result with
      | none => cases h
      | some found =>
        obtain ⟨-, hall, hfrom⟩ := resolve_eq_ok view.backed view.sorted hres
        rcases hfrom found rfl with hnone | ⟨intent, hintent, hsup⟩
        · cases hnone
        · refine ⟨found.initial, ⟨⟨intent, hintent, hsup.mem⟩, fun other hother hmem => ?_⟩, ?_⟩
          · obtain ⟨source, hsource, hsup'⟩ := hall other hother hmem
            cases hsource
            exact hsup'
          · obtain ⟨kind, fileOffset, index⟩ := found
            cases kind <;> exact (Except.ok.inj h).symm
  · rintro ⟨source, ⟨⟨intent, hintent, hmem⟩, hall⟩, rfl⟩
    refine readByte_of_supplies ?_ hintent (hall intent hintent hmem)
    intro i hi j hj s t hs ht
    rw [hs.unique (hall i hi hs.mem), ht.unique (hall j hj ht.mem)]

/-- **The order of the intents does not matter**: views of one image over the same intents read the
same bytes. -/
theorem toOption_readByte_congr (himage : view.imageBytes = view'.imageBytes)
    (hintents : ∀ intent, intent ∈ view.intents ↔ intent ∈ view'.intents) :
    (view.readByte address).toOption = (view'.readByte address).toOption := by
  have hsame : ∀ byte, view.readByte address = .ok byte ↔ view'.readByte address = .ok byte := by
    intro byte
    simp only [readByte_eq_ok_iff, SourceAt, hintents, himage]
  cases hread : view.readByte address with
  | ok byte => rw [(hsame byte).mp hread]
  | error e =>
    cases hread' : view'.readByte address with
    | ok byte =>
      rw [(hsame byte).mpr hread'] at hread
      cases hread
    | error e' => rfl

theorem exists_create_iff {imageBytes : List UInt8} {intents : List MappingIntent} :
    (∃ view, create imageBytes intents = .ok view) ↔
    ∀ intent ∈ intents, IntentBacked imageBytes.length intent := by
  constructor
  · rintro ⟨view, hview⟩ intent hintent
    obtain ⟨himage, hsorted⟩ := create_eq_ok hview
    have hbacked := view.backed intent (by rw [hsorted]; exact mem_sortIntents.mpr hintent)
    rwa [himage] at hbacked
  · exact create_of_backed

/-- **What a copy is**: as many bytes as the range has, and each the one that is read at its
address. -/
theorem copyBytes_eq_ok_iff {range : GuestRange} {bytes : List UInt8} :
    view.copyBytes range range.size.toNat = .ok bytes ↔ bytes.length = range.size.toNat ∧
      ∀ address : GuestAddress, address.toNat ∈ range →
        view.readByte address = .ok (bytes.getD (address.toNat - range.base.toNat) 0) := by
  constructor
  · intro h
    exact (copyBytes_eq_ok h).2
  · rintro ⟨hlength, hread⟩
    obtain ⟨copied, hcopied, hlength', hread'⟩ :=
      copyBytes_of_readable fun address hmem => ⟨_, hread address hmem⟩
    rw [hcopied]
    congr 1
    refine List.ext_getElem (hlength'.trans hlength.symm) fun i hi hi' => ?_
    obtain ⟨address, -, haddress⟩ := @exists_address_of_lt range i (by omega)
    have hmem : address.toNat ∈ range := by
      rw [haddress, GuestRange.mem_def, GuestRange.last]
      omega
    have hsame := (hread' address hmem).symm.trans (hread address hmem)
    rw [haddress, Nat.add_sub_cancel_left, List.getD_eq_getElem _ _ hi,
      List.getD_eq_getElem _ _ hi'] at hsame
    exact Except.ok.inj hsame

/-- A range can be copied where each of its addresses can be read. -/
theorem exists_copyBytes_iff {range : GuestRange} :
    (∃ bytes, view.copyBytes range range.size.toNat = .ok bytes) ↔
    ∀ address : GuestAddress, address.toNat ∈ range → ∃ byte, view.readByte address = .ok byte := by
  constructor
  · rintro ⟨bytes, hcopied⟩ address hmem
    exact ⟨_, (copyBytes_eq_ok_iff.mp hcopied).2 address hmem⟩
  · intro h
    obtain ⟨bytes, hcopied, -⟩ := copyBytes_of_readable h
    exact ⟨bytes, hcopied⟩

end Read

/-- **A view is read address by address.** Once it is built over some intents, it is built over them
in any order, and a view over them in any order reads the same: at each address the byte of the one
source that all intents which contain it give it, and nothing where there is none. No read leaves
the image, and a copy is the bytes that are read. -/
theorem create_pointwise {imageBytes : List UInt8} {intents : List MappingIntent}
    {view : InitializedImageView} (hcreate : create imageBytes intents = .ok view) :
    (∀ intents' : List MappingIntent, intents.Perm intents' →
      ∃ view', create imageBytes intents' = .ok view') ∧
    (∀ view' : InitializedImageView, view'.imageBytes = imageBytes → intents.Perm view'.intents →
      ∀ address, (view'.readByte address).toOption = (view.readByte address).toOption) ∧
    (∀ (address : GuestAddress) (byte : UInt8), view.readByte address = .ok byte ↔
      ∃ source, SourceAt intents address.toNat source ∧ byte = source.byte imageBytes) ∧
    (∀ address, view.readByteWithin address = (view.readByte address).mapError some) ∧
    (∀ range : GuestRange,
      ((∃ bytes, view.copyBytes range range.size.toNat = .ok bytes) ↔
        ∀ address : GuestAddress, address.toNat ∈ range →
          ∃ byte, view.readByte address = .ok byte) ∧
      ∀ bytes, view.copyBytes range range.size.toNat = .ok bytes → bytes.length = range.size.toNat ∧
        ∀ address : GuestAddress, address.toNat ∈ range →
          view.readByte address = .ok (bytes.getD (address.toNat - range.base.toNat) 0)) := by
  obtain ⟨himage, hsorted⟩ := create_eq_ok hcreate
  have hmem : ∀ intent, intent ∈ view.intents ↔ intent ∈ intents := by
    intro intent
    rw [hsorted, mem_sortIntents]
  refine ⟨fun intents' hperm => ?_, fun view' himage' hperm address => ?_, fun address byte =>
    ?_, view.readByteWithin_eq,
      fun range => ⟨exists_copyBytes_iff, fun bytes hcopied => copyBytes_eq_ok_iff.mp hcopied⟩⟩
  · have hbacked := exists_create_iff.mp ⟨view, hcreate⟩
    exact create_of_backed fun intent hintent => hbacked intent (hperm.mem_iff.mpr hintent)
  · refine toOption_readByte_congr (himage'.trans himage.symm) fun intent => ?_
    rw [hmem, hperm.mem_iff]
  · rw [readByte_eq_ok_iff, himage]
    simp only [SourceAt, hmem]

/-- An intent that covers the second half of another, and agrees with it, and zeros behind them. -/
def overlappingIntents : List MappingIntent :=
  [⟨⟨⟨0x1002⟩, ⟨2⟩, by decide⟩, .only .read, ⟨.file, 3, ⟨2⟩⟩, 1⟩,
    ⟨⟨⟨0x1000⟩, ⟨4⟩, by decide⟩, .only .read, ⟨.file, 1, ⟨4⟩⟩, 0⟩,
    ⟨⟨⟨0x1004⟩, ⟨4⟩, by decide⟩, .only .read, ⟨.zeroFill, 0, ⟨4⟩⟩, 0⟩]

theorem create_pointwise_overlapping :
    ∃ view, create [10, 11, 12, 13, 14, 15] overlappingIntents = .ok view ∧
      view.readByte ⟨0x1003⟩ = .ok 14 := by
  have hbacked : ∀ intent ∈ overlappingIntents, IntentBacked 6 intent := by
    intro intent hintent
    simp only [overlappingIntents, List.mem_cons, List.not_mem_nil, or_false] at hintent
    rcases hintent with rfl | rfl | rfl
    · exact ⟨rfl, by decide, fun _ => by decide⟩
    · exact ⟨rfl, by decide, fun _ => by decide⟩
    · exact ⟨rfl, by decide, fun hfile => absurd hfile (by decide)⟩
  obtain ⟨view, hcreate⟩ := @create_of_backed [10, 11, 12, 13, 14, 15] overlappingIntents hbacked
  refine ⟨view, hcreate, ((create_pointwise hcreate).2.2.1 ⟨0x1003⟩ 14).mpr
    ⟨.file 4, ⟨?_, ?_⟩, rfl⟩⟩
  · exact ⟨_, List.mem_cons_self, by decide⟩
  · intro intent hintent hmem
    simp only [overlappingIntents, List.mem_cons, List.not_mem_nil, or_false] at hintent
    rcases hintent with rfl | rfl | rfl
    · exact .file rfl hmem
    · exact .file rfl hmem
    · exact absurd hmem (by decide)

end InitializedImageView

end Astraea.Memory
