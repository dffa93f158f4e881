import Astraea.Memory.Mapping

/-!
# The initialized image

A view reads single bytes of the memory image a list of intents describes, without
building it: an address is looked up in every intent that contains it, and all of
them have to give it the same source. A view is only built over intents whose bytes
are in the file, and keeps them sorted by base, which is what lets the lookup stop
early. `readByte_of_supplies` and `readByte_of_not_mem` are what a view reads.
-/

namespace Astraea.Memory

open Astraea.Base Astraea.Loader

/-- Why bytes are not read. -/
inductive InitializedImageErrorCode where
  | invalidFileBackingRange
  | backingSizeMismatch
  | unsupportedBackingKind
  | unmappedGuestAddress
  | mappingOverlapConflict
  | outputSizeMismatch
  | hostSizeUnrepresentable
  deriving DecidableEq

/-- Bytes that are not read, with the first of them. -/
structure InitializedImageError where
  code : InitializedImageErrorCode
  guestAddress : Option GuestAddress := none
  firstSourceIndex : Option ℕ := none
  secondSourceIndex : Option ℕ := none
  fileOffset : Option UInt64 := none
  deriving DecidableEq

/-- An intent whose bytes are in a file of `imageSize` bytes. -/
structure IntentBacked (imageSize : ℕ) (intent : MappingIntent) : Prop where
  size : intent.backing.byteCount = intent.range.size
  kind : intent.backing.kind ≠ .anonymous
  file : intent.backing.kind = .file →
    intent.backing.fileOffset.toNat + intent.range.size.toNat < 2 ^ 64 ∧
      intent.backing.fileOffset.toNat + intent.range.size.toNat ≤ imageSize

/-- A view over an image. It cannot be built over intents that are not backed. -/
structure InitializedImageView where
  imageBytes : List UInt8
  intents : List MappingIntent
  backed : ∀ intent ∈ intents, IntentBacked imageBytes.length intent
  sorted : intents.Pairwise fun a b => a.range.base.toNat ≤ b.range.base.toNat

/-! ### Building a view -/

/-- `file_range_is_valid`. -/
def fileRangeIsValid (intent : MappingIntent) (imageSize : ℕ) : Bool :=
  (checkedAdd intent.backing.fileOffset intent.backing.byteCount.value).any fun last =>
    decide (intent.backing.fileOffset.toNat ≤ imageSize) && decide (last.toNat ≤ imageSize)

/-- What `create` asks of one intent. -/
def checkIntent (imageSize : ℕ) (intent : MappingIntent) : Except InitializedImageError Unit := do
  refuseIf (intent.backing.byteCount ≠ intent.range.size)
    { code := .backingSizeMismatch, guestAddress := intent.range.base,
      firstSourceIndex := intent.sourceIndex }
  match intent.backing.kind with
  | .file =>
    refuseIf (fileRangeIsValid intent imageSize = false)
      { code := .invalidFileBackingRange, guestAddress := intent.range.base,
        firstSourceIndex := intent.sourceIndex, fileOffset := intent.backing.fileOffset }
  | .zeroFill => .ok ()
  | .anonymous =>
    .error
      { code := .unsupportedBackingKind, guestAddress := intent.range.base,
        firstSourceIndex := intent.sourceIndex }

variable {intent : MappingIntent} {intents : List MappingIntent} {view : InitializedImageView}

theorem fileRangeIsValid_iff {imageSize : ℕ} :
    fileRangeIsValid intent imageSize = true ↔
      intent.backing.fileOffset.toNat + intent.backing.byteCount.toNat < 2 ^ 64 ∧
        intent.backing.fileOffset.toNat + intent.backing.byteCount.toNat ≤ imageSize := by
  unfold fileRangeIsValid
  rw [GuestSize.toNat]
  cases hadd : checkedAdd intent.backing.fileOffset intent.backing.byteCount.value with
  | none =>
    refine ⟨fun h => absurd h (by simp), fun hfits => ?_⟩
    have hlt := hfits.1
    rw [checkedAdd_of_lt hlt] at hadd
    cases hadd
  | some last =>
    obtain ⟨hlt, hlast⟩ := checkedAdd_eq_some hadd
    rw [Option.any_some, Bool.and_eq_true, decide_eq_true_eq, decide_eq_true_eq]
    omega

theorem checkIntent_eq_ok {imageSize : ℕ} {u : Unit} (h : checkIntent imageSize intent = .ok u) :
    IntentBacked imageSize intent := by
  unfold checkIntent at h
  simp only [bind_eq_ok, refuseIf_eq_ok, not_not] at h
  obtain ⟨-, hsize, h⟩ := h
  cases hkind : intent.backing.kind with
  | file =>
    simp only [hkind, refuseIf_eq_ok, Bool.not_eq_false] at h
    refine ⟨hsize, by simp [hkind], fun _ => ?_⟩
    rw [← hsize]
    exact fileRangeIsValid_iff.mp h
  | zeroFill => exact ⟨hsize, by simp [hkind], by simp [hkind]⟩
  | anonymous =>
    rw [hkind] at h
    cases h

theorem checkIntent_of_backed {imageSize : ℕ} (h : IntentBacked imageSize intent) :
    checkIntent imageSize intent = .ok () := by
  unfold checkIntent
  rw [bind_eq_ok]
  refine ⟨(), refuseIf_eq_ok.mpr (not_not.mpr h.size), ?_⟩
  cases hkind : intent.backing.kind with
  | file =>
    rw [refuseIf_eq_ok, Bool.not_eq_false, fileRangeIsValid_iff, h.size]
    exact h.file hkind
  | zeroFill => rfl
  | anonymous => exact absurd hkind h.kind

/-- `InitializedImageView::create`. -/
def InitializedImageView.create (imageBytes : List UInt8) (intents : List MappingIntent) :
    Except InitializedImageError InitializedImageView :=
  match h : intents.forM (checkIntent imageBytes.length) with
  | .error e => .error e
  | .ok _ =>
    .ok
      { imageBytes := imageBytes
        intents := sortIntents intents
        backed :=
          fun intent hmem => checkIntent_eq_ok (forM_eq_ok.mp h intent (mem_sortIntents.mp hmem))
        sorted := pairwise_sortIntents intents }

/-! ### Reading -/

/-- What a byte of an image comes from. -/
inductive ResolvedSourceKind where
  | file
  | zeroFill
  deriving DecidableEq

/-- Where the bytes of an address come from. -/
structure ResolvedSource where
  kind : ResolvedSourceKind
  fileOffset : UInt64
  sourceIndex : ℕ
  deriving DecidableEq

/-- `source_at`. -/
def sourceAt (intent : MappingIntent) (address : GuestAddress) :
    Except InitializedImageError ResolvedSource :=
  if intent.backing.kind = .zeroFill then .ok ⟨.zeroFill, 0, intent.sourceIndex⟩
  else do
    let fileOffset ← orRefuse
      (checkedAdd intent.backing.fileOffset (address.value - intent.range.base.value))
      ({ code := .invalidFileBackingRange, guestAddress := address,
         firstSourceIndex := intent.sourceIndex,
         fileOffset := intent.backing.fileOffset } : InitializedImageError)
    return ⟨.file, fileOffset, intent.sourceIndex⟩

/-- `sources_match`. -/
def sourcesMatch (lhs rhs : ResolvedSource) : Bool :=
  if lhs.kind ≠ rhs.kind then false
  else if lhs.kind = .zeroFill then true
  else lhs.fileOffset == rhs.fileOffset

/-- The loop of `read_byte`: the source found so far against the intents that are left. -/
def resolve (address : GuestAddress) :
    List MappingIntent → Option ResolvedSource →
    Except InitializedImageError (Option ResolvedSource)
  | [], resolved => .ok resolved
  | intent :: intents, resolved =>
    -- the intents are sorted: no later one can contain the address
    if intent.range.base.value > address.value then .ok resolved
    else if intent.range.contains address = false then resolve address intents resolved
    else
      match sourceAt intent address with
      | .error e => .error e
      | .ok candidate =>
        match resolved with
        | none => resolve address intents (some candidate)
        | some found =>
          if sourcesMatch found candidate = false then
            .error
              { code := .mappingOverlapConflict, guestAddress := address,
                firstSourceIndex := found.sourceIndex, secondSourceIndex := candidate.sourceIndex }
          else resolve address intents (some found)

/-- `InitializedImageView::read_byte`. -/
def InitializedImageView.readByte (view : InitializedImageView) (address : GuestAddress) :
    Except InitializedImageError UInt8 := do
  match ← resolve address view.intents none with
  | none => .error { code := .unmappedGuestAddress, guestAddress := address }
  | some ⟨.zeroFill, _, _⟩ => .ok 0
  | some ⟨.file, fileOffset, _⟩ => .ok (view.imageBytes.getD fileOffset.toNat 0)

/-- `InitializedImageView::copy_bytes` into an output of `outputSize` bytes. -/
def InitializedImageView.copyBytes (view : InitializedImageView) (range : GuestRange)
    (outputSize : ℕ) :
    Except InitializedImageError (List UInt8) := do
  refuseIf (outputSize ≠ range.size.toNat)
    { code := .outputSizeMismatch, guestAddress := range.base }
  (List.range range.size.toNat).mapM fun i => do
    let address ← (range.base.checkedAdd ⟨UInt64.ofNat i⟩).mapError fun _ =>
      ({ code := .unmappedGuestAddress, guestAddress := range.base } : InitializedImageError)
    view.readByte address

/-! ### What a view reads -/

/-- Where the byte at an address comes from. -/
inductive InitialSource where
  /-- The byte of the file at an offset. -/
  | file (offset : ℕ)
  | zero
  deriving DecidableEq

/-- The byte of a source. -/
def InitialSource.byte (imageBytes : List UInt8) : InitialSource → UInt8
  | .file offset => imageBytes.getD offset 0
  | .zero => 0

/-- An intent gives the byte at `x` a source. -/
inductive Supplies (intent : MappingIntent) (x : ℕ) : InitialSource → Prop
  | file (hkind : intent.backing.kind = .file) (hmem : x ∈ intent.range) :
      Supplies intent x (.file (intent.backing.fileOffset.toNat + (x - intent.range.base.toNat)))
  | zeroFill (hkind : intent.backing.kind = .zeroFill) (hmem : x ∈ intent.range) :
      Supplies intent x .zero

/-- The source a lookup has resolved to. -/
def ResolvedSource.initial (source : ResolvedSource) : InitialSource :=
  match source.kind with
  | .file => .file source.fileOffset.toNat
  | .zeroFill => .zero

theorem sourcesMatch_iff {lhs rhs : ResolvedSource} :
    sourcesMatch lhs rhs = true ↔ lhs.initial = rhs.initial := by
  obtain ⟨k, o, _⟩ := lhs
  obtain ⟨k', o', _⟩ := rhs
  cases k <;> cases k' <;> simp [sourcesMatch, ResolvedSource.initial, UInt64.toNat_inj]

variable {x : ℕ} {source : InitialSource}

theorem Supplies.mem (h : Supplies intent x source) : x ∈ intent.range := by
  cases h <;> assumption

theorem Supplies.unique {s t : InitialSource} (hs : Supplies intent x s)
    (ht : Supplies intent x t) :
    s = t := by
  cases hs with
  | file hk _ =>
    cases ht with
    | file => rfl
    | zeroFill hk' =>
      rw [hk] at hk'
      cases hk'
  | zeroFill hk _ =>
    cases ht with
    | zeroFill => rfl
    | file hk' =>
      rw [hk] at hk'
      cases hk'

/-- Intents that give one source have the same kind of backing. -/
theorem Supplies.kind_eq {i j : MappingIntent} {y : ℕ} {s t : InitialSource} (hs : Supplies i x s)
    (ht : Supplies j y t) (hst : s = t) : i.backing.kind = j.backing.kind := by
  cases hs with
  | file hk =>
    cases ht with
    | file hk' => rw [hk, hk']
    | zeroFill => cases hst
  | zeroFill hk =>
    cases ht with
    | file => cases hst
    | zeroFill hk' => rw [hk, hk']

/-- The lookup in a backed intent that contains the address does not fail, and finds the
source the intent gives it. -/
theorem sourceAt_of_mem {imageSize : ℕ} {address : GuestAddress}
    (hb : IntentBacked imageSize intent) (hmem : address.toNat ∈ intent.range) :
    ∃ candidate, sourceAt intent address = .ok candidate ∧
      Supplies intent address.toNat candidate.initial := by
  unfold sourceAt
  cases hkind : intent.backing.kind with
  | anonymous => exact absurd hkind hb.kind
  | zeroFill =>
    rw [if_pos rfl]
    exact ⟨_, rfl, .zeroFill hkind hmem⟩
  | file =>
    rw [if_neg (by simp)]
    have hfile := hb.file hkind
    have hle : intent.range.base.value ≤ address.value := UInt64.le_iff_toNat_le.mpr hmem.1
    have hsub := UInt64.toNat_sub_of_le _ _ hle
    have hlast := hmem.2
    rw [GuestRange.last] at hlast
    simp only [GuestAddress.toNat] at *
    have hlt : intent.backing.fileOffset.toNat + (address.value - intent.range.base.value).toNat <
      2 ^ 64 := by omega
    rw [checkedAdd_of_lt hlt]
    refine ⟨_, rfl, ?_⟩
    have hoffset : (intent.backing.fileOffset + (address.value - intent.range.base.value)).toNat =
        intent.backing.fileOffset.toNat +
          (address.value.toNat - intent.range.base.value.toNat) := by
      rw [UInt64.toNat_add, Nat.mod_eq_of_lt hlt, hsub]
    rw [ResolvedSource.initial, hoffset]
    exact .file hkind hmem

section Resolve

variable {imageSize : ℕ} {address : GuestAddress}

/-- A lookup that comes through keeps the source it started with, finds one as soon as
an intent contains the address, and every intent that does agrees with it. -/
theorem resolve_eq_ok {resolved result : Option ResolvedSource}
    (hb : ∀ intent ∈ intents, IntentBacked imageSize intent)
    (hs : intents.Pairwise fun a b => a.range.base.toNat ≤ b.range.base.toNat)
    (h : resolve address intents resolved = .ok result) :
    (∀ source ∈ resolved, result = some source) ∧
      (∀ intent ∈ intents, address.toNat ∈ intent.range →
        ∃ source ∈ result, Supplies intent address.toNat source.initial) ∧
      ∀ source ∈ result, resolved = some source ∨
        ∃ intent ∈ intents, Supplies intent address.toNat source.initial := by
  induction intents generalizing resolved with
  | nil =>
    cases h
    simp
  | cons intent intents ih =>
    rw [List.pairwise_cons] at hs
    have hb' : ∀ intent ∈ intents, IntentBacked imageSize intent :=
      fun i hi => hb i (List.mem_cons_of_mem _ hi)
    rw [resolve] at h
    split_ifs at h with hbreak hout
    · -- the loop stops: the address is below this base and so below all that follow
      cases h
      rw [gt_iff_lt, UInt64.lt_iff_toNat_lt] at hbreak
      refine ⟨fun source hsource => hsource, fun i hi hmem => ?_, fun source hsource =>
        .inl hsource⟩
      have hbase := hmem.1
      rcases List.mem_cons.mp hi with rfl | hi
      · exact absurd hbreak (Nat.not_lt.mpr hbase)
      · exact absurd hbreak (Nat.not_lt.mpr (le_trans (hs.1 i hi) hbase))
    · rw [GuestRange.contains_eq_false] at hout
      obtain ⟨hkeep, hall, hfrom⟩ := ih hb' hs.2 h
      refine ⟨hkeep, fun i hi hmem => ?_, fun source hsource => ?_⟩
      · rcases List.mem_cons.mp hi with rfl | hi
        · exact absurd hmem hout
        · exact hall i hi hmem
      · rcases hfrom source hsource with hr | ⟨i, hi, hsup⟩
        · exact .inl hr
        · exact .inr ⟨i, List.mem_cons_of_mem _ hi, hsup⟩
    · rw [Bool.not_eq_false, GuestRange.contains_iff] at hout
      obtain ⟨candidate, hcand, hsup⟩ := sourceAt_of_mem (hb intent List.mem_cons_self) hout
      rw [hcand] at h
      cases resolved with
      | none =>
        obtain ⟨hkeep, hall, hfrom⟩ := ih hb' hs.2 h
        have hres := hkeep candidate rfl
        subst hres
        refine ⟨by simp, fun i hi hmem => ?_, fun source hsource => ?_⟩
        · rcases List.mem_cons.mp hi with rfl | hi
          · exact ⟨candidate, rfl, hsup⟩
          · exact hall i hi hmem
        · cases hsource
          exact .inr ⟨intent, List.mem_cons_self, hsup⟩
      | some found =>
        dsimp only at h
        split_ifs at h with hmatch
        rw [Bool.not_eq_false, sourcesMatch_iff] at hmatch
        obtain ⟨hkeep, hall, hfrom⟩ := ih hb' hs.2 h
        have hres := hkeep found rfl
        subst hres
        refine ⟨hkeep, fun i hi hmem => ?_, fun source hsource => .inl hsource⟩
        rcases List.mem_cons.mp hi with rfl | hi
        · exact ⟨found, rfl, hmatch ▸ hsup⟩
        · exact hall i hi hmem

/-- A lookup in backed intents fails only when two sources of the address differ. -/
theorem resolve_eq_error {resolved : Option ResolvedSource} {e : InitializedImageError}
    (hb : ∀ intent ∈ intents, IntentBacked imageSize intent)
    (h : resolve address intents resolved = .error e) :
    e.code = .mappingOverlapConflict ∧ e.guestAddress = some address ∧
      ∃ intent ∈ intents, ∃ s t, s ≠ t ∧ Supplies intent address.toNat t ∧
        ((∃ source ∈ resolved, source.initial = s) ∨
          ∃ other ∈ intents, Supplies other address.toNat s) := by
  induction intents generalizing resolved with
  | nil => cases h
  | cons intent intents ih =>
    have hb' : ∀ intent ∈ intents, IntentBacked imageSize intent :=
      fun i hi => hb i (List.mem_cons_of_mem _ hi)
    rw [resolve] at h
    split_ifs at h with hbreak hout
    · obtain ⟨hcode, haddr, i, hi, s, t, hne, ht, hs⟩ := ih hb' h
      refine ⟨hcode, haddr, i, List.mem_cons_of_mem _ hi, s, t, hne, ht, hs.imp_right ?_⟩
      exact fun ⟨o, ho, hos⟩ => ⟨o, List.mem_cons_of_mem _ ho, hos⟩
    · rw [Bool.not_eq_false, GuestRange.contains_iff] at hout
      obtain ⟨candidate, hcand, hsup⟩ := sourceAt_of_mem (hb intent List.mem_cons_self) hout
      rw [hcand] at h
      cases resolved with
      | none =>
        obtain ⟨hcode, haddr, i, hi, s, t, hne, ht, hs⟩ := ih hb' h
        refine ⟨hcode, haddr, i, List.mem_cons_of_mem _ hi, s, t, hne, ht, .inr ?_⟩
        rcases hs with ⟨source, hsource, rfl⟩ | ⟨o, ho, hos⟩
        · cases hsource
          exact ⟨intent, List.mem_cons_self, hsup⟩
        · exact ⟨o, List.mem_cons_of_mem _ ho, hos⟩
      | some found =>
        dsimp only at h
        split_ifs at h with hmatch
        · cases h
          rw [← Bool.not_eq_true, sourcesMatch_iff] at hmatch
          exact ⟨rfl, rfl, intent, List.mem_cons_self, _, _, hmatch, hsup, .inl ⟨found, rfl, rfl⟩⟩
        · obtain ⟨hcode, haddr, i, hi, s, t, hne, ht, hs⟩ := ih hb' h
          refine ⟨hcode, haddr, i, List.mem_cons_of_mem _ hi, s, t, hne, ht, hs.imp_right ?_⟩
          exact fun ⟨o, ho, hos⟩ => ⟨o, List.mem_cons_of_mem _ ho, hos⟩

end Resolve

/-- All intents that contain an address give it the same source. -/
def Agree (intents : List MappingIntent) (x : ℕ) : Prop :=
  ∀ i ∈ intents, ∀ j ∈ intents, ∀ s t, Supplies i x s → Supplies j x t → s = t

/-- Where the intents agree and one of them contains the address, a view reads the byte of
the source they give it. -/
theorem InitializedImageView.readByte_of_supplies {address : GuestAddress}
    (hagree : Agree view.intents address.toNat) (hi : intent ∈ view.intents)
    (hs : Supplies intent address.toNat source) :
    view.readByte address = .ok (source.byte view.imageBytes) := by
  unfold readByte
  cases hres : resolve address view.intents none with
  | error e =>
    obtain ⟨-, -, i, hi, s, t, hne, ht, ⟨_, hnone, _⟩ | ⟨o, ho, hos⟩⟩ :=
      resolve_eq_error view.backed hres
    · cases hnone
    · exact absurd (hagree o ho i hi s t hos ht) hne
  | ok result =>
    obtain ⟨-, hall, -⟩ := resolve_eq_ok view.backed view.sorted hres
    obtain ⟨found, hfound, hsup⟩ := hall intent hi hs.mem
    cases hfound
    rw [hs.unique hsup]
    obtain ⟨kind, fileOffset, index⟩ := found
    cases kind <;> rfl

theorem InitializedImageView.readByte_of_not_mem {address : GuestAddress}
    (h : ∀ intent ∈ view.intents, address.toNat ∉ intent.range) :
    view.readByte address = .error { code := .unmappedGuestAddress, guestAddress := address } := by
  unfold readByte
  cases hres : resolve address view.intents none with
  | error e =>
    obtain ⟨-, -, i, hi, s, t, hne, ht, -⟩ := resolve_eq_error view.backed hres
    exact absurd ht.mem (h i hi)
  | ok result =>
    obtain ⟨-, -, hfrom⟩ := resolve_eq_ok view.backed view.sorted hres
    cases result with
    | none => rfl
    | some found =>
      rcases hfrom found rfl with hnone | ⟨i, hi, hsup⟩
      · cases hnone
      · exact absurd hsup.mem (h i hi)

theorem exists_address_of_lt {range : GuestRange} {i : ℕ} (hi : i < range.size.toNat) :
    ∃ address : GuestAddress, range.base.checkedAdd ⟨UInt64.ofNat i⟩ = .ok address ∧
      address.toNat = range.base.toNat + i := by
  have hwrap := range.noWrap
  have hsmall : (UInt64.ofNat i).toNat = i := toNat_ofNat_of_lt (lt_trans hi range.size.toNat_lt)
  have hlt : range.base.toNat + (GuestSize.mk (UInt64.ofNat i)).toNat < 2 ^ 64 := by
    rw [GuestSize.toNat_mk, hsmall]
    omega
  have hadd := GuestAddress.checkedAdd_of_lt hlt
  refine ⟨_, hadd, ?_⟩
  rw [(GuestAddress.checkedAdd_eq_ok hadd).2, GuestSize.toNat_mk, hsmall]

/-- What has been copied is the bytes of the range, each of which can be read. -/
theorem InitializedImageView.copyBytes_eq_ok {range : GuestRange} {outputSize : ℕ}
    {bytes : List UInt8} (h : view.copyBytes range outputSize = .ok bytes) :
    outputSize = range.size.toNat ∧ bytes.length = range.size.toNat ∧
      ∀ address : GuestAddress, address.toNat ∈ range →
        view.readByte address = .ok (bytes.getD (address.toNat - range.base.toNat) 0) := by
  rw [copyBytes, bind_eq_ok] at h
  obtain ⟨_, hsize, h⟩ := h
  rw [mapM_eq_ok, List.forall₂_iff_get] at h
  obtain ⟨hlength, hget⟩ := h
  rw [List.length_range] at hlength
  refine ⟨not_not.mp (refuseIf_eq_ok.mp hsize), hlength.symm, ?_⟩
  intro address hmem
  rw [GuestRange.mem_def, GuestRange.last] at hmem
  have hi : address.toNat - range.base.toNat < range.size.toNat := by omega
  have hread := hget _ (by rw [List.length_range]; exact hi) (by rw [← hlength]; exact hi)
  rw [List.get_eq_getElem, List.get_eq_getElem, List.getElem_range, bind_eq_ok] at hread
  obtain ⟨found, hfound, hread⟩ := hread
  obtain ⟨other, hadd, hother⟩ := exists_address_of_lt hi
  rw [mapError_eq_ok, hadd] at hfound
  cases hfound
  have hsame : found = address := GuestAddress.toNat_inj.mp (by rw [hother]; omega)
  rw [hsame] at hread
  rw [hread, List.getD_eq_getElem _ _ (by omega)]

/-- Where every byte of a range can be read the range can be copied, byte by byte. -/
theorem InitializedImageView.copyBytes_of_readable {view : InitializedImageView}
    {range : GuestRange} (h : ∀ address : GuestAddress, address.toNat ∈ range →
    ∃ byte, view.readByte address = .ok byte) :
    ∃ bytes, view.copyBytes range range.size.toNat = .ok bytes ∧ bytes.length = range.size.toNat ∧
      ∀ address : GuestAddress, address.toNat ∈ range →
        view.readByte address = .ok (bytes.getD (address.toNat - range.base.toNat) 0) := by
  have hturn : ∀ i ∈ List.range range.size.toNat, ∃ byte, (do
      let address ← (range.base.checkedAdd ⟨UInt64.ofNat i⟩).mapError fun _ =>
        ({ code := .unmappedGuestAddress, guestAddress := range.base } : InitializedImageError)
      view.readByte address) = .ok byte := by
    intro i hi
    rw [List.mem_range] at hi
    obtain ⟨address, hadd, haddr⟩ := exists_address_of_lt hi
    obtain ⟨byte, hbyte⟩ := h address (by rw [haddr, GuestRange.mem_def, GuestRange.last]; omega)
    refine ⟨byte, ?_⟩
    rw [bind_eq_ok]
    exact ⟨address, mapError_eq_ok.mpr hadd, hbyte⟩
  obtain ⟨bytes, hbytes⟩ := exists_mapM_eq_ok hturn
  have hcopied : view.copyBytes range range.size.toNat = .ok bytes := by
    rw [copyBytes, bind_eq_ok]
    exact ⟨(), refuseIf_eq_ok.mpr (not_not.mpr rfl), hbytes⟩
  obtain ⟨-, hlength, hread⟩ := copyBytes_eq_ok hcopied
  exact ⟨bytes, hcopied, hlength, hread⟩

/-- A backed intent gives every address it contains a source. -/
theorem IntentBacked.exists_supplies {imageSize : ℕ} (hb : IntentBacked imageSize intent)
    (hmem : x ∈ intent.range) :
    ∃ source, Supplies intent x source := by
  cases hkind : intent.backing.kind with
  | file => exact ⟨_, .file hkind hmem⟩
  | zeroFill => exact ⟨_, .zeroFill hkind hmem⟩
  | anonymous => exact absurd hkind hb.kind

/-- The intents of a load segment that is in the file are backed. -/
theorem IntentOf.backed {inputSize : ℕ} {ph : ProgramHeader} (hload : LoadSegment inputSize ph)
    (h : IntentOf ph intent) :
    IntentBacked inputSize intent := by
  cases h with
  | file hbase hsize hpos =>
    refine ⟨rfl, nofun, fun _ => ?_⟩
    dsimp only
    rw [hsize]
    exact hload.file hpos
  | zeroFill => exact ⟨rfl, nofun, nofun⟩

theorem InitializedImageView.create_of_backed {imageBytes : List UInt8}
    {intents : List MappingIntent} (h : ∀ intent ∈ intents, IntentBacked imageBytes.length intent) :
    ∃ view, InitializedImageView.create imageBytes intents = .ok view := by
  have hchecks : intents.forM (checkIntent imageBytes.length) = .ok () :=
    forM_eq_ok.mpr fun intent hintent => checkIntent_of_backed (h intent hintent)
  unfold create
  split
  · rename_i e he
    rw [hchecks] at he
    cases he
  · exact ⟨_, rfl⟩

theorem InitializedImageView.create_eq_ok {imageBytes : List UInt8}
    (h : InitializedImageView.create imageBytes intents = .ok view) :
    view.imageBytes = imageBytes ∧ view.intents = sortIntents intents := by
  unfold create at h
  split at h
  · cases h
  · cases h
    exact ⟨rfl, rfl⟩

end Astraea.Memory
