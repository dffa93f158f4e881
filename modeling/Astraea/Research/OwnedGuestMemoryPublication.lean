import Astraea.Base.MappedStore
import Astraea.Research.OwnedGuestByteAccessPolicy
import Mathlib.Data.Finmap
import Mathlib.Data.Finset.Sort

/-!
# The publication of guest memory

An engine has changed its own copy of the pages of a guest, and says which writes it made. A
publication checks them once: every write has to be allowed, and the writes have to lead from the
pages before to all of the pages after. Then it hands out one snapshot of them. Whatever is refused
poisons it for good.

`foldlM_applyEffect_eq_ok` says that the pages are changed as a memory with holes is, and
`GuestMemoryPublication.run_published` which runs hand out a snapshot at all. Both are put together
in `GuestMemoryPublication.publication_sound`.
-/

namespace Astraea.Research

open Astraea.Base

/-! ### Pages -/

/-- The bytes of a page. -/
abbrev GuestPage := Vector UInt8 pageBytes

/-- The pages of a guest, by their first addresses. -/
abbrev GuestPages := Finmap fun _ : ℕ => GuestPage

/-- The first address of the page of an address. -/
def pageBase (x : ℕ) : ℕ := x / pageBytes * pageBytes

theorem pageBase_le (x : ℕ) : pageBase x ≤ x := Nat.div_mul_le_self x pageBytes

theorem sub_pageBase_lt (x : ℕ) : x - pageBase x < pageBytes := by
  have hdiv := Nat.div_add_mod x pageBytes
  have hmod := Nat.mod_lt x (show 0 < pageBytes by decide)
  rw [pageBase, Nat.mul_comm]
  omega

/-- Where an address is in its page. -/
def pageOffset (x : ℕ) : Fin pageBytes := ⟨x - pageBase x, sub_pageBase_lt x⟩

theorem eq_of_pageOffset {x y : ℕ} (hbase : pageBase x = pageBase y)
    (hoffset : pageOffset x = pageOffset y) : x = y := by
  have hx := pageBase_le x
  have hy := pageBase_le y
  have hsub := congrArg Fin.val hoffset
  simp only [pageOffset] at hsub
  omega

theorem pageBase_add {x i : ℕ} (h : x - pageBase x + i < pageBytes) :
    pageBase (x + i) = pageBase x := by
  have hx := pageBase_le x
  have hpos : 0 < pageBytes := by decide
  have hsum : x + i = x - pageBase x + i + x / pageBytes * pageBytes := by
    rw [pageBase] at hx ⊢
    omega
  rw [pageBase, hsum, Nat.add_mul_div_right _ _ hpos, Nat.div_eq_of_lt h, Nat.zero_add, pageBase]

/-- The byte of each address that has a page. -/
def GuestPages.view (pages : GuestPages) : MappedStore := fun x =>
  (pages.lookup (pageBase x)).map fun page => page.get (pageOffset x)

/-- One byte of a payload. -/
def storeGuestByte (pages : GuestPages) (current : ℕ) (value : UInt8) : Except String GuestPages :=
  match pages.lookup (pageBase current) with
  | none => .error "effect_guest_storage_unmapped"
  | some page => .ok (pages.insert (pageBase current)
      (page.set (pageOffset current).val value (pageOffset current).isLt))

/-- The loop over the bytes of a payload. -/
def storeGuestBytes : GuestPages → (current : ℕ) → List UInt8 → Except String GuestPages
  | pages, _, [] => .ok pages
  | pages, current, value :: payload => do
    let after ← storeGuestByte pages current value
    storeGuestBytes after (current + 1) payload

section Store

variable {pages after : GuestPages} {current : ℕ} {value : UInt8} {payload : List UInt8}

theorem storeGuestByte_eq_ok (h : storeGuestByte pages current value = .ok after) :
    (pages.view current).isSome = true ∧ after.keys = pages.keys ∧
      ∀ x, after.view x = if x = current then some value else pages.view x := by
  unfold storeGuestByte at h
  cases hpage : pages.lookup (pageBase current) with
  | none =>
    rw [hpage] at h
    cases h
  | some page =>
    rw [hpage] at h
    cases h
    refine ⟨?_, ?_, fun x => ?_⟩
    · rw [GuestPages.view, hpage]
      rfl
    · ext base
      rw [Finmap.mem_keys, Finmap.mem_keys, Finmap.mem_insert, or_iff_right_iff_imp]
      rintro rfl
      exact Finmap.mem_of_lookup_eq_some hpage
    · rw [GuestPages.view, GuestPages.view]
      by_cases hbase : pageBase x = pageBase current
      · rw [hbase, Finmap.lookup_insert, hpage, Option.map_some, Option.map_some]
        by_cases hx : x = current
        · subst hx
          rw [if_pos rfl]
          exact congrArg some (Vector.getElem_set_self _)
        · rw [if_neg hx]
          have hne : (pageOffset current).val ≠ (pageOffset x).val := fun hsame =>
            hx (eq_of_pageOffset hbase (Fin.ext hsame.symm))
          exact congrArg some (Vector.getElem_set_ne _ _ hne)
      · rw [Finmap.lookup_insert_of_ne _ hbase, if_neg]
        rintro rfl
        exact hbase rfl

theorem hits_cons {x : ℕ} :
    Patch.Hits (current, value :: payload) x ↔
    x = current ∨ Patch.Hits (current + 1, payload) x := by
  simp only [Patch.Hits, List.length_cons]
  omega

/-- **The bytes of a payload are a write** to the memory that the pages are. -/
theorem storeGuestBytes_eq_ok (h : storeGuestBytes pages current payload = .ok after) :
    pages.view.write (current, payload) = some after.view ∧ after.keys = pages.keys := by
  have hbytes : (∀ i < payload.length, (pages.view (current + i)).isSome = true) ∧
    after.keys = pages.keys ∧
      ∀ x, after.view x = if Patch.Hits (current, payload) x then
        some (payload.getD (x - current) 0) else pages.view x := by
    induction payload generalizing pages current with
    | nil =>
      cases h
      refine ⟨fun i hi => absurd hi (Nat.not_lt_zero i), rfl, fun x => (if_neg ?_).symm⟩
      rintro ⟨hlow, hhigh⟩
      exact absurd hlow (Nat.not_le.mpr hhigh)
    | cons value payload ih =>
      rw [storeGuestBytes, bind_eq_ok] at h
      obtain ⟨middle, hfirst, hlater⟩ := h
      obtain ⟨hmapped, hkeys, hview⟩ := storeGuestByte_eq_ok hfirst
      obtain ⟨hmapped', hkeys', hview'⟩ := ih hlater
      refine ⟨fun i hi => ?_, hkeys'.trans hkeys, fun x => ?_⟩
      · cases i with
        | zero => exact hmapped
        | succ i =>
          have hmiddle := hmapped' i (Nat.lt_of_succ_lt_succ hi)
          rw [hview, if_neg (by omega)] at hmiddle
          rwa [Nat.add_right_comm, Nat.add_assoc] at hmiddle
      · rw [hview', hview]
        by_cases hrest : Patch.Hits (current + 1, payload) x
        · have hlow : current + 1 ≤ x := hrest.1
          rw [if_pos hrest, if_pos (hits_cons.mpr (.inr hrest)),
            show x - current = x - (current + 1) + 1 by omega, List.getD_cons_succ]
        · rw [if_neg hrest]
          by_cases hx : x = current
          · subst hx
            rw [if_pos rfl, if_pos (hits_cons.mpr (.inl rfl)), Nat.sub_self, List.getD_cons_zero]
          · rw [if_neg hx, if_neg fun hhit => (hits_cons.mp hhit).elim hx hrest]
  refine ⟨?_, hbytes.2.1⟩
  rw [MappedStore.write, if_pos hbytes.1]
  exact congrArg some (funext fun x => (hbytes.2.2 x).symm)

end Store

/-- An object that is handed over for pages: a mapping of any objects, or something else. -/
inductive PythonPages where
  | mapping (items : List (PythonValue × PythonValue))
  | other

/-- `MAX_PAGES`. -/
def maxPages : ℕ := 256

/-- The contents of a page, from bytes of its length. -/
def GuestPage.ofBytes (contents : List UInt8) (h : contents.length = pageBytes) : GuestPage :=
  ⟨contents.toArray, h⟩

/-- One round of the loop of `_copy_pages`. -/
def copyPage (result : GuestPages) (item : PythonValue × PythonValue) : Except String GuestPages :=
  match item with
  | (.int base, .bytes contents) =>
    if base < 0 ∨ base ≥ u64Limit ∨ base % pageBytes ≠ 0 ∨ base > u64Limit - pageBytes then
      .error "invalid_guest_page_address_or_contents"
    else if h : contents.length = pageBytes then
      .ok (result.insert base.toNat (.ofBytes contents h))
    else .error "invalid_guest_page_address_or_contents"
  | _ => .error "invalid_guest_page_address_or_contents"

/-- `_copy_pages`. -/
def copyPages : PythonPages → Except String GuestPages
  | .other => .error "invalid_guest_page_inventory"
  | .mapping items => do
    refuseIf (¬ (0 < items.length ∧ items.length ≤ maxPages)) "invalid_guest_page_inventory"
    items.foldlM copyPage ∅

/-- `tuple(sorted(...))`: the pages by their first addresses. -/
def GuestPages.toTuple (pages : GuestPages) : List (ℕ × GuestPage) :=
  pages.keys.sort.filterMap fun base => (pages.lookup base).map fun page => (base, page)

/-! ### A snapshot -/

/-- A snapshot that was published. -/
structure PublishedGuestMemory where
  pages : List (ℕ × GuestPage)
  terminalKind : String
  writeCount : ℕ

namespace PublishedGuestMemory

/-- The number that an object counts as where an `int` is asked for: a `bool` is one. -/
def asInt? : PythonValue → Option ℤ
  | .int value => some value
  | .bool value => some (if value = true then 1 else 0)
  | _ => none

/-- The page of an address that is found first. -/
def pageAt (pages : List (ℕ × GuestPage)) (x : ℕ) : Option GuestPage :=
  (pages.find? fun page => page.1 = pageBase x).map Prod.snd

/-- How many bytes of a page are taken at once. -/
def takeCount (stop current : ℕ) : ℕ :=
  min (pageBytes - (current - pageBase current)) (stop - current)

theorem takeCount_pos {stop current : ℕ} (h : current < stop) : 0 < takeCount stop current := by
  have hoffset := sub_pageBase_lt current
  rw [takeCount]
  omega

theorem takeCount_le (stop current : ℕ) : takeCount stop current ≤ stop - current :=
  Nat.min_le_right _ _

/-- The loop of `read`. -/
def readFrom (pages : List (ℕ × GuestPage)) (stop current : ℕ) (out : List UInt8) :
    Except String (List UInt8) :=
  if current < stop then
    match pageAt pages current with
    | none => .error "published_guest_page_missing"
    | some found =>
      readFrom pages stop (current + takeCount stop current)
        (out ++ (found.toList.drop (current - pageBase current)).take (takeCount stop current))
  else .ok out
  termination_by stop - current
  decreasing_by
    have hpos := takeCount_pos (by assumption)
    omega

/-- `read`. -/
def read (snapshot : PublishedGuestMemory) (address size : PythonValue) :
    Except String (List UInt8) :=
  match asInt? address with
  | none => .error "published_guest_address_invalid"
  | some start =>
    if ¬ (0 ≤ start ∧ start < u64Limit) then .error "published_guest_address_invalid"
    else
      match asInt? size with
      | none => .error "published_guest_read_width_invalid"
      | some count =>
        if ¬ (0 < count ∧ count ≤ maxAccessBytes) then .error "published_guest_read_width_invalid"
        else if count > u64Limit - start then .error "published_guest_read_overflow"
        else readFrom snapshot.pages (start + count).toNat start.toNat []

/-- The byte of each address that has a page. -/
def view (snapshot : PublishedGuestMemory) : MappedStore := fun x =>
  (pageAt snapshot.pages x).map fun page => page.get (pageOffset x)

section Read

variable {pages : List (ℕ × GuestPage)} {stop current : ℕ} {out bytes : List UInt8}

/-- **What the loop reads**: the bytes from the cursor on, one for each address. -/
theorem readFrom_eq_ok (h : readFrom pages stop current out = .ok bytes) :
    ∃ rest, bytes = out ++ rest ∧ rest.length = stop - current ∧
      ∀ i < rest.length, (pageAt pages (current + i)).map
        (fun page => page.get (pageOffset (current + i))) = rest[i]? := by
  fun_induction readFrom pages stop current out with
  | case1 current out hlt hmissing => cases h
  | case2 current out hlt found hfound ih =>
    obtain ⟨rest, rfl, hlength, hrest⟩ := ih h
    have hoffset := sub_pageBase_lt current
    have htake : takeCount stop current ≤ pageBytes - (current - pageBase current) :=
      Nat.min_le_left _ _
    have hle := takeCount_le stop current
    have hslice :
      ((found.toList.drop (current - pageBase current)).take (takeCount stop current)).length =
        takeCount stop current := by
      rw [List.length_take, List.length_drop, Vector.length_toList]
      omega
    refine ⟨_, List.append_assoc _ _ _, ?_, fun i hi => ?_⟩
    · rw [List.length_append, hslice]
      omega
    · rw [List.length_append, hslice] at hi
      by_cases hfirst : i < takeCount stop current
      · have hbase : pageBase (current + i) = pageBase current := pageBase_add (by omega)
        have hpage : pageAt pages (current + i) =
          some found := by rw [← hfound, pageAt, pageAt, hbase]
        rw [hpage, Option.map_some, List.getElem?_append_left (by omega), List.getElem?_take,
          if_pos hfirst, List.getElem?_drop]
        have hplace : (pageOffset (current + i)).val = current - pageBase current + i := by
          have hbasele := pageBase_le current
          change current + i - pageBase (current + i) = _
          rw [hbase]
          omega
        rw [← hplace, Vector.getElem?_toList,
          Vector.getElem?_eq_getElem (pageOffset (current + i)).isLt]
        rfl
      · rw [List.getElem?_append_right (by omega), hslice, ← hrest _ (by omega)]
        rw [show current + takeCount stop current + (i - takeCount stop current) = current + i by
          omega]
  | case3 current out hdone =>
    cases h
    exact ⟨[], (List.append_nil _).symm, by rw [List.length_nil]; omega,
      fun i hi => absurd hi (Nat.not_lt_zero i)⟩

/-- **A read gives the bytes of the snapshot** at its addresses, where it gives any. -/
theorem read_eq_ok {snapshot : PublishedGuestMemory} {address size : PythonValue}
    (h : snapshot.read address size = .ok bytes) :
    ∃ start count : ℕ, asInt? address = some (start : ℤ) ∧ asInt? size = some (count : ℤ) ∧
      bytes.length = count ∧
      ∀ i < count, snapshot.view (start + i) = bytes[i]? := by
  unfold read at h
  cases hstart : asInt? address with
  | none =>
    rw [hstart] at h
    cases h
  | some start =>
    cases hcount : asInt? size with
    | none =>
      rw [hstart, hcount] at h
      dsimp only at h
      split_ifs at h
    | some count =>
      rw [hstart, hcount] at h
      dsimp only at h
      split_ifs at h with haddress hsize hoverflow
      obtain ⟨rest, hbytes, hlength, hread⟩ := readFrom_eq_ok h
      rw [List.nil_append] at hbytes
      subst hbytes
      refine ⟨start.toNat, count.toNat, ?_, ?_, ?_, fun i hi => hread i ?_⟩
      · rw [Int.toNat_of_nonneg haddress.1]
      · rw [Int.toNat_of_nonneg hsize.1.le]
      · omega
      · omega

end Read

end PublishedGuestMemory

namespace GuestPages

theorem find?_filterMap_lookup (pages : GuestPages) (base : ℕ) (bases : List ℕ) :
    (bases.filterMap fun other => (pages.lookup other).map fun page => (other, page)).find?
      (fun page => page.1 = base) =
      if base ∈ bases then (pages.lookup base).map fun page => (base, page) else none := by
  induction bases with
  | nil => rfl
  | cons first bases ih =>
    by_cases hfirst : first = base
    · subst hfirst
      rw [if_pos List.mem_cons_self]
      cases hpage : pages.lookup first with
      | none =>
        rw [List.filterMap_cons_none (by rw [hpage]; rfl), ih, hpage]
        exact ite_self _
      | some page => rw [List.filterMap_cons_some (by rw [hpage]; rfl),
          List.find?_cons_of_pos (by simp), Option.map_some]
    · have hmem : base ∈ first :: bases ↔ base ∈ bases := by
        rw [List.mem_cons, or_iff_right (Ne.symm hfirst)]
      simp only [hmem]
      cases hpage : pages.lookup first with
      | none => rw [List.filterMap_cons_none (by rw [hpage]; rfl), ih]
      | some page =>
        rw [List.filterMap_cons_some (b := (first, page)) (by rw [hpage]; rfl),
          List.find?_cons_of_neg (by simpa using hfirst), ih]

theorem pageAt_toTuple (pages : GuestPages) (x : ℕ) :
    PublishedGuestMemory.pageAt pages.toTuple x = pages.lookup (pageBase x) := by
  rw [PublishedGuestMemory.pageAt, toTuple, find?_filterMap_lookup]
  split_ifs with hmem
  · rw [Option.map_map]
    exact Option.map_id'
  · rw [Finset.mem_sort, Finmap.mem_keys, ← Finmap.lookup_eq_none] at hmem
    rw [hmem, Option.map_none]

theorem view_toTuple (pages : GuestPages) (terminalKind : String) (writeCount : ℕ) :
    (PublishedGuestMemory.mk pages.toTuple terminalKind writeCount).view = pages.view := by
  funext x
  rw [PublishedGuestMemory.view, pageAt_toTuple, view]

theorem map_fst_toTuple (pages : GuestPages) : pages.toTuple.map Prod.fst = pages.keys.sort := by
  have hall : ∀ base ∈ pages.keys.sort,
      ((pages.lookup base).map fun page => (base, page)).map Prod.fst = some base := by
    intro base hbase
    rw [Finset.mem_sort, Finmap.mem_keys, Finmap.mem_iff] at hbase
    obtain ⟨page, hpage⟩ := hbase
    rw [hpage]
    rfl
  rw [toTuple, List.map_filterMap]
  exact (List.filterMap_congr hall).trans List.filterMap_some

end GuestPages

/-! ### Effects -/

/-- An object of a list of proposed writes: a `ProposedGuestWrite` with any fields, or something
else. -/
inductive ProposedEffect where
  | write (address payload : PythonValue)
  | other

/-- An object that is handed over for proposed writes: a list or a tuple, or something else. -/
inductive ProposedWrites where
  | sequence (effects : List ProposedEffect)
  | other

/-- `MAX_EVENTS`. -/
def maxEvents : ℕ := 64

/-- One round of the loop over the effects. -/
def applyEffect (policy : GuestRegionPolicy) (expected : GuestPages) (effect : ProposedEffect) :
    Except String GuestPages :=
  match effect with
  | .write address (.bytes payload) => do
    refuseIf (¬ (0 < payload.length ∧ payload.length ≤ maxAccessBytes)) "effect_width_invalid"
    let decision := policy.check "write" address (.int payload.length)
    refuseIf (decision.allowed = false) ("original_guest_permission_" ++ decision.reason)
    -- an address that is allowed is an `int` of the address space
    storeGuestBytes expected (address.int?.getD 0).toNat payload
  | .write _ _ => .error "effect_width_invalid"
  | .other => .error "malformed_effect_record"

/-- The effect of a write. -/
def effectOf (patch : Patch) : ProposedEffect := .write (.int patch.1) (.bytes patch.2)

/-- Every byte that a write goes to may be written. -/
def MayWrite (policy : GuestRegionPolicy) (patch : Patch) : Prop :=
  ∀ x, patch.Hits x → ∃ region ∈ policy.regions, region.Contains x ∧ region.Permits 2

section Effects

variable {policy : GuestRegionPolicy} {pages after : GuestPages} {effect : ProposedEffect}
  {effects : List ProposedEffect}

/-- **An effect that is applied is a write** of bytes that may be written. -/
theorem applyEffect_eq_ok (h : applyEffect policy pages effect = .ok after) :
    ∃ patch : Patch, effect = effectOf patch ∧ MayWrite policy patch ∧
      pages.view.write patch = some after.view ∧
      after.keys = pages.keys := by
  cases effect with
  | other => cases h
  | write address payload =>
    cases payload with
    | bytes payload =>
      simp only [applyEffect, bind_eq_ok, refuseIf_eq_ok, Bool.not_eq_false] at h
      obtain ⟨-, -, -, hallowed, hstore⟩ := h
      obtain ⟨flag, maximum, start, count, hkind, rfl, hcount, hpos, -, -, hbytes⟩ :=
        (policy.check_allowed_iff _ _ _).mp hallowed
      cases hkind
      cases hcount
      -- the first byte is in a region, so the address is not negative
      obtain ⟨region, hregion, ⟨hlow, -⟩, -⟩ := hbytes start le_rfl (by omega)
      have hextent := (policy.extents region hregion).1
      obtain ⟨hwrite, hkeys⟩ := storeGuestBytes_eq_ok hstore
      refine ⟨(start.toNat, payload), ?_, fun x hx => ?_, hwrite, hkeys⟩
      · rw [effectOf, Int.toNat_of_nonneg (by omega)]
      · obtain ⟨hxlow, hxhigh⟩ := hx
        dsimp only at hxlow hxhigh
        exact hbytes x (by omega) (by omega)
    | _ => cases h

/-- **Effects that are applied are writes**, one after the other, to the memory that the pages are.
-/
theorem foldlM_applyEffect_eq_ok (h : effects.foldlM (applyEffect policy) pages = .ok after) :
    ∃ writes : List Patch, effects = writes.map effectOf ∧
      (∀ patch ∈ writes, MayWrite policy patch) ∧
      pages.view.writeAll writes = some after.view ∧ after.keys = pages.keys := by
  induction effects generalizing pages with
  | nil =>
    cases h
    exact ⟨[], rfl, by simp, rfl, rfl⟩
  | cons effect effects ih =>
    rw [List.foldlM_cons, bind_eq_ok] at h
    obtain ⟨middle, hfirst, hrest⟩ := h
    obtain ⟨patch, rfl, hmay, hwrite, hkeys⟩ := applyEffect_eq_ok hfirst
    obtain ⟨writes, rfl, hmay', hwrites, hkeys'⟩ := ih hrest
    refine ⟨patch :: writes, rfl, List.forall_mem_cons.mpr ⟨hmay, hmay'⟩, ?_, hkeys'.trans hkeys⟩
    rw [MappedStore.writeAll, List.foldlM_cons, hwrite]
    exact hwrites

end Effects

/-- Bytes that writes change are ones that a write goes to. -/
theorem exists_hits_of_writeAll {memory memory' : MappedStore} {writes : List Patch}
    (h : memory.writeAll writes = some memory') {x : ℕ} (hx : memory' x ≠ memory x) :
    ∃ patch ∈ writes, patch.Hits x := by
  induction writes generalizing memory with
  | nil =>
    cases h
    exact absurd rfl hx
  | cons patch writes ih =>
    rw [MappedStore.writeAll, List.foldlM_cons] at h
    obtain ⟨middle, hfirst, hrest⟩ := Option.bind_eq_some_iff.mp h
    by_cases hits : patch.Hits x
    · exact ⟨patch, List.mem_cons_self, hits⟩
    · have hmiddle : middle x = memory x := by
        rw [MappedStore.write] at hfirst
        split_ifs at hfirst
        cases hfirst
        exact if_neg hits
      obtain ⟨other, hother, hhit⟩ := ih hrest (hmiddle ▸ hx)
      exact ⟨other, List.mem_cons_of_mem _ hother, hhit⟩

/-! ### The publication -/

/-- How far a publication is. -/
inductive PublicationPhase where
  | recording
  | verified
  | published
  | poisoned
  deriving DecidableEq

/-- A publication: its policy, its initial view and its phase. -/
structure GuestMemoryPublication where
  policy : GuestRegionPolicy
  initial : GuestPages
  phase : PublicationPhase
  verified : Option PublishedGuestMemory

/-- `SUPPORTED_TERMINALS`. -/
def supportedTerminals : List String :=
  ["retired", "typed_invalid_instruction", "fault_after_effects"]

/-- A call of a publication. -/
inductive PublicationCall where
  | verify (privatePages : PythonPages) (proposedWrites : ProposedWrites)
      (terminalKind terminalAttested : PythonValue)
  | publish

/-- What a call returns. -/
inductive PublicationReturn where
  | verified
  | published (snapshot : PublishedGuestMemory)

namespace GuestMemoryPublication

/-- `__init__`. -/
def create (policy : GuestRegionPolicy) (initialPages : PythonPages) :
    Except String GuestMemoryPublication := do
  let initial ← copyPages initialPages
  return ⟨policy, initial, .recording, none⟩

/-- `_refuse`: the text that is raised, and what is left. -/
def refuse (publication : GuestMemoryPublication) (reason : String) :
    Except String PublicationReturn × GuestMemoryPublication :=
  (.error ("guest_publication_refused:" ++ reason),
    { publication with phase := .poisoned, verified := none })

/-- The kind of a terminal that is supported. -/
def terminalKind? : PythonValue → Option String
  | .str kind => if kind ∈ supportedTerminals then some kind else none
  | _ => none

/-- The effects that are proposed. -/
def effects? : ProposedWrites → Option (List ProposedEffect)
  | .sequence effects => if effects.length ≤ maxEvents then some effects else none
  | .other => none

/-- What `verify` checks, and the snapshot it keeps. An error is the reason of a refusal. -/
def check (publication : GuestMemoryPublication) (privatePages : PythonPages)
    (proposedWrites : ProposedWrites) (terminalKind terminalAttested : PythonValue) :
    Except String PublishedGuestMemory := do
  refuseIf (publication.phase ≠ .recording) "transaction_not_recording"
  let kind ← orRefuse (terminalKind? terminalKind) "unsupported_terminal_kind"
  refuseIf (terminalAttested ≠ .bool true) "unverified_execution_terminal"
  refuseIf (kind = "fault_after_effects") "unqualified_partial_fault"
  let effects ← orRefuse (effects? proposedWrites) "unbounded_effect_ledger"
  refuseIf (kind = "fault_after_effects" ∧
    effects.isEmpty = true) "partial_fault_without_committed_prefix"
  let expected ← effects.foldlM (applyEffect publication.policy) publication.initial
  let actual ← (copyPages privatePages).mapError fun _ => "private_guest_page_inventory_invalid"
  refuseIf (actual.keys ≠ expected.keys) "private_guest_mapping_set_changed"
  refuseIf (∃ page ∈ expected.keys, actual.lookup page ≠ expected.lookup page)
    "unreported_or_divergent_private_guest_mutation"
  return ⟨expected.toTuple, kind, effects.length⟩

/-- `verify`. -/
def verify (publication : GuestMemoryPublication) (privatePages : PythonPages)
    (proposedWrites : ProposedWrites) (terminalKind terminalAttested : PythonValue) :
    Except String PublicationReturn × GuestMemoryPublication :=
  match publication.check privatePages proposedWrites terminalKind terminalAttested with
  | .error reason => publication.refuse reason
  | .ok snapshot => (.ok .verified,
      { publication with verified := some snapshot, phase := .verified })

/-- `publish`. -/
def publish (publication : GuestMemoryPublication) :
    Except String PublicationReturn × GuestMemoryPublication :=
  match publication.verified with
  | none => publication.refuse "no_verified_guest_image_to_publish"
  | some snapshot =>
    if publication.phase ≠ .verified then publication.refuse "no_verified_guest_image_to_publish"
    else (.ok (.published snapshot), { publication with phase := .published, verified := none })

/-- A call, with what it returns or raises. -/
def call (publication : GuestMemoryPublication) :
    PublicationCall → Except String PublicationReturn × GuestMemoryPublication
  | .verify privatePages proposedWrites terminalKind terminalAttested =>
    publication.verify privatePages proposedWrites terminalKind terminalAttested
  | .publish => publication.publish

/-- Calls one after the other. -/
def run (publication : GuestMemoryPublication) :
    List PublicationCall → List (Except String PublicationReturn) × GuestMemoryPublication
  | [] => ([], publication)
  | next :: calls =>
    let (result, after) := publication.call next
    let (results, last) := run after calls
    (result :: results, last)

/-! ### What is published -/

/-- A result that is a snapshot. -/
def IsSnapshot (snapshot : PublishedGuestMemory)
    (result : Option (Except String PublicationReturn)) : Prop :=
  result = some (.ok (.published snapshot))

/-- A result that is a refusal. -/
def IsRefused (result : Except String PublicationReturn) : Prop := ∃ reason, result = .error reason

section Run

variable {publication : GuestMemoryPublication} {privatePages : PythonPages}
  {proposedWrites : ProposedWrites} {terminalKind terminalAttested : PythonValue}
  {snapshot : PublishedGuestMemory} {next : PublicationCall} {calls : List PublicationCall}

/-- Finite maps with the same keys are equal where they agree at each. -/
theorem eq_of_keys {pages pages' : GuestPages} (hkeys : pages.keys = pages'.keys)
    (h : ∀ base ∈ pages'.keys, pages.lookup base = pages'.lookup base) : pages = pages' := by
  refine Finmap.ext_lookup fun base => ?_
  by_cases hbase : base ∈ pages'.keys
  · exact h base hbase
  · have hbase' : base ∉ pages.keys := hkeys ▸ hbase
    rw [Finmap.mem_keys, ← Finmap.lookup_eq_none] at hbase hbase'
    rw [hbase, hbase']

/-- **What is verified**: the writes may be made, they lead from the pages before to the private
ones, and these are kept. -/
theorem check_eq_ok
    (h : publication.check privatePages proposedWrites terminalKind terminalAttested =
    .ok snapshot) :
    publication.phase = .recording ∧ ∃ (writes : List Patch) (pages : GuestPages),
      proposedWrites = .sequence (writes.map effectOf) ∧
      (∀ patch ∈ writes, MayWrite publication.policy patch) ∧
      publication.initial.view.writeAll writes = some pages.view ∧
      pages.keys = publication.initial.keys ∧
      copyPages privatePages = .ok pages ∧ snapshot.pages = pages.toTuple := by
  simp only [check, bind_eq_ok, refuseIf_eq_ok, orRefuse_eq_ok, mapError_eq_ok, pure_eq_ok, not_not]
    at h
  obtain ⟨_, hphase, kind, -, _, -, _, -, effects, heffects, _, -, expected, hexpected, actual,
    hactual, _, hkeys, _, hbytes, rfl⟩ := h
  obtain ⟨writes, rfl, hmay, hwrites, hsame⟩ := foldlM_applyEffect_eq_ok hexpected
  have hequal : actual = expected := by
    refine eq_of_keys hkeys fun base hbase => ?_
    by_contra hne
    exact hbytes ⟨base, hbase, hne⟩
  refine ⟨hphase, writes, expected, ?_, hmay, hwrites, hsame, hequal ▸ hactual, rfl⟩
  cases proposedWrites with
  | other => cases heffects
  | sequence proposed =>
    rw [effects?] at heffects
    split_ifs at heffects
    exact congrArg _ (Option.some.inj heffects)

/-- Behind a refusal or a snapshot every call is refused. -/
theorem call_refused (h : publication.phase = .published ∨ publication.phase = .poisoned)
    (next : PublicationCall) :
    IsRefused (publication.call next).1 ∧ (publication.call next).2.phase = .poisoned := by
  have hrecording : publication.phase ≠ .recording := by
    rcases h with h | h <;> rw [h] <;> exact PublicationPhase.noConfusion
  have hverified : publication.phase ≠ .verified := by
    rcases h with h | h <;> rw [h] <;> exact PublicationPhase.noConfusion
  cases next with
  | verify privatePages proposedWrites terminalKind terminalAttested =>
    rw [call, verify]
    cases hcheck : publication.check privatePages proposedWrites terminalKind terminalAttested with
    | error reason => exact ⟨⟨_, rfl⟩, rfl⟩
    | ok snapshot => exact absurd (check_eq_ok hcheck).1 hrecording
  | publish =>
    rw [call, publish]
    cases publication.verified with
    | none => exact ⟨⟨_, rfl⟩, rfl⟩
    | some snapshot =>
      dsimp only
      rw [if_pos hverified]
      exact ⟨⟨_, rfl⟩, rfl⟩

theorem run_refused (h : publication.phase = .published ∨ publication.phase = .poisoned) :
    ∀ result ∈ (publication.run calls).1, IsRefused result := by
  induction calls generalizing publication with
  | nil =>
    intro result hresult
    cases hresult
  | cons next calls ih =>
    obtain ⟨hrefused, hphase⟩ := call_refused h next
    rw [run]
    exact List.forall_mem_cons.mpr ⟨hrefused, ih (.inr hphase)⟩

theorem call_recording (h : publication.phase = .recording) (next : PublicationCall) :
    (IsRefused (publication.call next).1 ∧ (publication.call next).2.phase = .poisoned) ∨
      ∃ privatePages proposedWrites terminalKind terminalAttested snapshot,
        next = .verify privatePages proposedWrites terminalKind terminalAttested ∧
        publication.check privatePages proposedWrites terminalKind terminalAttested = .ok snapshot ∧
        publication.call next =
          (.ok .verified, { publication with verified := some snapshot, phase := .verified }) := by
  cases next with
  | verify privatePages proposedWrites terminalKind terminalAttested =>
    rw [call, verify]
    cases hcheck : publication.check privatePages proposedWrites terminalKind terminalAttested with
    | error reason => exact .inl ⟨⟨_, rfl⟩, rfl⟩
    | ok snapshot => exact .inr ⟨_, _, _, _, _, rfl, hcheck, rfl⟩
  | publish =>
    rw [call, publish]
    cases publication.verified with
    | none => exact .inl ⟨⟨_, rfl⟩, rfl⟩
    | some snapshot =>
      have hverified : publication.phase ≠ .verified := h ▸ PublicationPhase.noConfusion
      dsimp only
      rw [if_pos hverified]
      exact .inl ⟨⟨_, rfl⟩, rfl⟩

/-- Once it has verified, a call is refused or publishes what was verified. -/
theorem call_verified (h : publication.phase = .verified)
    (hsnapshot : publication.verified = some snapshot) (next : PublicationCall) :
    (IsRefused (publication.call next).1 ∧ (publication.call next).2.phase = .poisoned) ∨
      next = .publish ∧
        publication.call next = (.ok (.published snapshot),
          { publication with phase := .published, verified := none }) := by
  cases next with
  | verify privatePages proposedWrites terminalKind terminalAttested =>
    rw [call, verify]
    cases hcheck : publication.check privatePages proposedWrites terminalKind terminalAttested with
    | error reason => exact .inl ⟨⟨_, rfl⟩, rfl⟩
    | ok kept =>
      have hrecording := (check_eq_ok hcheck).1
      rw [h] at hrecording
      cases hrecording
  | publish =>
    rw [call, publish, hsnapshot]
    dsimp only
    rw [if_neg (not_not.mpr h)]
    exact .inr ⟨rfl, rfl⟩

theorem not_isSnapshot_of_refused {results : List (Except String PublicationReturn)}
    (h : ∀ result ∈ results, IsRefused result) (i : ℕ) : ¬ IsSnapshot snapshot results[i]? := by
  intro hsnapshot
  obtain ⟨reason, hreason⟩ := h _ (List.mem_of_getElem? hsnapshot)
  cases hreason

/-- **Which runs publish**: those that verify with their first call and publish with their second.
All further calls are refused. -/
theorem run_published (h : publication.phase = .recording) {i : ℕ}
    (hi : IsSnapshot snapshot (publication.run calls).1[i]?) :
    i = 1 ∧ ∃ privatePages proposedWrites terminalKind terminalAttested rest later,
      calls = .verify privatePages proposedWrites terminalKind terminalAttested :: .publish ::
        rest ∧
      publication.check privatePages proposedWrites terminalKind terminalAttested = .ok snapshot ∧
      (publication.run calls).1 = .ok .verified :: .ok (.published snapshot) :: later ∧
      ∀ result ∈ later, IsRefused result := by
  cases calls with
  | nil => cases hi
  | cons first calls =>
    rcases call_recording h first with ⟨hrefused, hphase⟩ | ⟨privatePages, proposedWrites,
      terminalKind, terminalAttested, kept, rfl, hcheck, hcall⟩
    · rw [run] at hi
      exact absurd hi (not_isSnapshot_of_refused
        (List.forall_mem_cons.mpr ⟨hrefused, run_refused (.inr hphase)⟩) i)
    · rw [run, hcall] at hi ⊢
      dsimp only at hi ⊢
      cases calls with
      | nil =>
        cases i with
        | zero => cases hi
        | succ i => cases hi
      | cons second calls =>
        rcases @call_verified { publication with
          verified := some kept, phase := .verified } kept rfl rfl second with
          ⟨hrefused, hphase⟩ | ⟨rfl, hcall'⟩
        · rw [run] at hi
          cases i with
          | zero => cases hi
          | succ i =>
            exact absurd hi
              (not_isSnapshot_of_refused
                (List.forall_mem_cons.mpr ⟨hrefused, run_refused (.inr hphase)⟩) i)
        · rw [run, hcall'] at hi ⊢
          dsimp only at hi ⊢
          have hlater :=
            @run_refused { publication with phase := .published, verified := none } calls (.inl rfl)
          cases i with
          | zero => cases hi
          | succ i =>
            cases i with
            | zero =>
              cases hi
              exact ⟨rfl, _, _, _, _, _, _, rfl, hcheck, rfl, hlater⟩
            | succ i => exact absurd hi (not_isSnapshot_of_refused hlater i)

theorem create_eq_ok {policy : GuestRegionPolicy} {initialPages : PythonPages}
    (h : create policy initialPages = .ok publication) :
    publication.policy = policy ∧ publication.phase = .recording ∧
    copyPages initialPages = .ok publication.initial := by
  rw [create, bind_eq_ok] at h
  obtain ⟨initial, hinitial, h⟩ := h
  cases h
  exact ⟨rfl, rfl, hinitial⟩

theorem view_eq_of_pages {pages : GuestPages} (h : snapshot.pages = pages.toTuple) :
    snapshot.view = pages.view := by
  obtain ⟨kept, terminalKind, writeCount⟩ := snapshot
  obtain rfl : kept = pages.toTuple := h
  exact pages.view_toTuple terminalKind writeCount

end Run

/-- **Publication is sound.** At most one call hands out a snapshot. It shows the initial pages with
the writes of the only call that verified, in order; it is the private pages of that call; it has
the pages that there were; only bytes that may be written are different in it; and it is read as
what it shows. Behind a refused call there is none. -/
theorem publication_sound {policy : GuestRegionPolicy} {initialPages : PythonPages}
    {publication : GuestMemoryPublication} (h : create policy initialPages = .ok publication)
    (calls : List PublicationCall) :
    (∃ initial, copyPages initialPages = .ok initial ∧
      ∀ (i : ℕ) snapshot, IsSnapshot snapshot (publication.run calls).1[i]? →
        (∀ (j : ℕ) other, IsSnapshot other (publication.run calls).1[j]? → j = i) ∧
        ∃ (k : ℕ) (privatePages : PythonPages) (writes : List Patch)
          (terminalKind terminalAttested : PythonValue)
            (pages : GuestPages),
          calls[k]? = some
            (.verify privatePages (.sequence (writes.map effectOf)) terminalKind terminalAttested) ∧
          (∀ j : ℕ, (publication.run calls).1[j]? = some (.ok .verified) ↔ j = k) ∧
          initial.view.writeAll writes = some snapshot.view ∧
          copyPages privatePages = .ok pages ∧ snapshot.pages = pages.toTuple ∧
          snapshot.pages.map Prod.fst = initial.keys.sort ∧
          (∀ x, snapshot.view x ≠ initial.view x → ∃ region ∈ policy.regions, region.Contains x ∧
            region.Permits 2) ∧
          ∀ address size bytes, snapshot.read address size = .ok bytes → ∃ start count : ℕ,
            PublishedGuestMemory.asInt? address = some (start : ℤ) ∧
            PublishedGuestMemory.asInt? size = some (count : ℤ) ∧
            bytes.length = count ∧ ∀ i < count, snapshot.view (start + i) = bytes[i]?) ∧
    (∀ (i j : ℕ) reason snapshot, i < j → (publication.run calls).1[i]? = some (.error reason) →
      ¬ IsSnapshot snapshot (publication.run calls).1[j]?) ∧
    ∀ kind address size, (policy.check kind address size).allowed = true ↔
      ∃ flag maximum start count, accessKind? kind = some (flag, maximum) ∧ address = .int start ∧
        size = .int count ∧
        0 < count ∧ count ≤ maximum ∧ start + count ≤ 2 ^ 64 ∧
        ∀ x, start ≤ x → x < start + count → ∃ region ∈ policy.regions, region.Contains x ∧
          region.Permits flag := by
  obtain ⟨rfl, hphase, hinitial⟩ := create_eq_ok h
  refine ⟨⟨publication.initial, hinitial, fun i snapshot hi => ?_⟩,
    fun i j reason snapshot hij hrefused hj => ?_, publication.policy.check_allowed_iff⟩
  · obtain ⟨rfl, privatePages, proposedWrites, terminalKind, terminalAttested, rest, later, rfl,
        hcheck, hresults, hlater⟩ :=
      run_published hphase hi
    obtain ⟨-, writes, pages, rfl, hmay, hwrites, hkeys, hprivate, hpages⟩ := check_eq_ok hcheck
    have hview := view_eq_of_pages hpages
    refine ⟨fun j other hj => (run_published hphase hj).1, 0, privatePages, writes, terminalKind,
      terminalAttested, pages,
      rfl, fun j => ?_, hview ▸ hwrites, hprivate, hpages, ?_, fun x hx => ?_, fun _ _ _ =>
        PublishedGuestMemory.read_eq_ok⟩
    · -- the second result is the snapshot, and those behind it are refused
      rw [hresults]
      refine ⟨fun hj => ?_, fun hj => hj ▸ rfl⟩
      cases j with
      | zero => rfl
      | succ j =>
        cases j with
        | zero => cases hj
        | succ j =>
          obtain ⟨reason, hreason⟩ := hlater _ (List.mem_of_getElem? hj)
          cases hreason
    · rw [hpages, pages.map_fst_toTuple, hkeys]
    · obtain ⟨patch, hpatch, hits⟩ := exists_hits_of_writeAll hwrites (hview ▸ hx)
      exact hmay patch hpatch x hits
  · obtain ⟨rfl, _, _, _, _, _, later, -, -, hresults, -⟩ := run_published hphase hj
    obtain rfl : i = 0 := by omega
    rw [hresults] at hrefused
    cases hrefused

/-! ### One page that is published -/

/-- A page of zeros. -/
def zeroPage : List UInt8 := List.replicate pageBytes 0

/-- It with a one in front. -/
def writtenPage : List UInt8 := 1 :: List.replicate 4095 0

theorem zeroPage_length : zeroPage.length = pageBytes := List.length_replicate

theorem writtenPage_length : writtenPage.length = pageBytes := by
  rw [writtenPage, List.length_cons, List.length_replicate]; rfl

/-- The region of the page that starts at zero. -/
def firstPageRegion : GuestRegion := ⟨0, 4096, 7, "source"⟩

theorem firstPageRegion_extent : ∀ region ∈ [firstPageRegion],
    0 ≤ region.start ∧ region.start < region.endExclusive ∧ region.endExclusive ≤ u64Limit := by
  decide

/-- The first page may be read, written and executed. -/
def firstPagePolicy : GuestRegionPolicy :=
  ⟨[firstPageRegion], firstPageRegion_extent, List.pairwise_singleton _ _⟩

/-- A mapping of the first page. -/
def firstPage (contents : List UInt8) : PythonPages := .mapping [(.int 0, .bytes contents)]

theorem copyPages_firstPage {contents : List UInt8} (h : contents.length = pageBytes) :
    copyPages (firstPage contents) = .ok ((∅ : GuestPages).insert 0 (.ofBytes contents h)) := by
  rw [firstPage, copyPages, List.length_singleton]
  change (copyPage ∅ (.int 0, .bytes contents) >>= fun result => pure result) = _
  rw [copyPage, if_neg (by decide), dif_pos h]
  rfl

/-- The publication of the page of zeros. -/
def firstPagePublication : GuestMemoryPublication :=
  ⟨firstPagePolicy, (∅ : GuestPages).insert 0 (.ofBytes zeroPage zeroPage_length), .recording, none⟩

theorem create_firstPage :
    create firstPagePolicy (firstPage zeroPage) = .ok firstPagePublication := by
  rw [create, copyPages_firstPage zeroPage_length]
  rfl

/-- One write to the first byte. -/
def firstByteCalls : List PublicationCall :=
  [.verify (firstPage writtenPage) (.sequence [effectOf (0, [1])]) (.str "retired") (.bool true),
    .publish]

theorem firstPagePolicy_allows_write :
    (firstPagePolicy.check "write" (.int 0) (.int 1)).allowed = true := by
  decide

/-- The pages of the page with a one in front. -/
def writtenPages : GuestPages := (∅ : GuestPages).insert 0 (.ofBytes writtenPage writtenPage_length)

theorem applyEffect_firstByte :
    applyEffect firstPagePolicy firstPagePublication.initial (effectOf (0, [1])) =
      .ok writtenPages := by
  have hzero : firstPagePublication.initial.lookup (pageBase 0) =
      some (.ofBytes zeroPage zeroPage_length) :=
    Finmap.lookup_insert _
  have hwritten : (GuestPage.ofBytes zeroPage zeroPage_length).set (pageOffset 0).val 1
    (pageOffset 0).isLt =
      GuestPage.ofBytes writtenPage writtenPage_length := rfl
  have hbyte : storeGuestByte firstPagePublication.initial 0 1 = .ok writtenPages := by
    rw [storeGuestByte, hzero]
    dsimp only
    rw [hwritten]
    exact congrArg Except.ok (Finmap.insert_insert _)
  have hallowed : firstPagePolicy.check "write" (.int (0 : ℕ)) (.int ([1] : List UInt8).length) =
      firstPagePolicy.check "write" (.int 0) (.int 1) := rfl
  have haddress : ((PythonValue.int (0 : ℕ)).int?.getD 0).toNat = 0 := rfl
  simp only [effectOf, applyEffect, bind_eq_ok, refuseIf_eq_ok]
  refine ⟨(), by decide, (), by rw [hallowed, firstPagePolicy_allows_write]; decide, ?_⟩
  rw [haddress, storeGuestBytes, hbyte]
  rfl

theorem check_firstByte :
    firstPagePublication.check (firstPage writtenPage) (.sequence [effectOf (0, [1])])
      (.str "retired")
    (.bool true) = .ok ⟨writtenPages.toTuple, "retired", 1⟩ := by
  have happly : [effectOf (0, [1])].foldlM
      (applyEffect firstPagePolicy) firstPagePublication.initial = .ok writtenPages := by
    rw [List.foldlM_cons, applyEffect_firstByte]
    rfl
  have hcopy := copyPages_firstPage writtenPage_length
  simp only [check, bind_eq_ok, refuseIf_eq_ok, orRefuse_eq_ok, mapError_eq_ok, pure_eq_ok, not_not]
  refine ⟨(), rfl, "retired", rfl, (), by decide, (), by decide, _, rfl, (), by decide,
    writtenPages, happly, writtenPages, hcopy, (), rfl, (), ?_, rfl⟩
  rintro ⟨_, -, hne⟩
  exact hne rfl

/-- The first two calls verify the write and publish it. -/
theorem publication_sound_firstByte :
    (firstPagePublication.run firstByteCalls).1 =
      [.ok .verified, .ok (.published ⟨writtenPages.toTuple, "retired", 1⟩)] ∧
      ∀ (j : ℕ) other, IsSnapshot other (firstPagePublication.run firstByteCalls).1[j]? →
        j = 1 := by
  have hresults : (firstPagePublication.run firstByteCalls).1 =
      [.ok .verified, .ok (.published ⟨writtenPages.toTuple, "retired", 1⟩)] := by
    rw [firstByteCalls, run, call, verify, check_firstByte]
    rfl
  obtain ⟨_, -, hsound⟩ := (publication_sound create_firstPage firstByteCalls).1
  exact ⟨hresults, (hsound 1 _ (by rw [hresults]; rfl)).1⟩

end GuestMemoryPublication

end Astraea.Research
