import Astraea.Base.RegisterFile
import Astraea.Research.OwnedGuestAddressSpace

/-!
# Histories of an owned address space

An address space is mapped, read, fetched from and written to in any order, and each call may be
refused. `runOwnedCalls` makes the calls of a history one after the other, and keeps what each of
them came to.

`Recorded` says what the guest sees after any history: at each address the byte of the last write
that was granted there, or the byte that was in the backing from the start. The rest of
`CheckedMemory` are facts about one call in whatever state a history leads to.
-/

namespace Astraea.Research

open Astraea.Base Astraea.Memory

/-- A span of host bytes that lies in host memory. -/
structure OwnedBacking where
  span : HostSpan
  fits : span.data + span.size ≤ 2 ^ 64

/-- A call of an address space. -/
inductive OwnedCall where
  | map (guestBase : UInt64) (ownedBacking : OwnedBacking) (virtualPermissions : GuestPermissions)
  | read (address : UInt64) (requested : ℕ)
  | fetch (address : UInt64) (requested : ℕ)
  | preflightWrite (address : UInt64) (byteCount : ℕ)
  | write (address : UInt64) (source : List UInt8)

/-- An address space, and the host memory its backings are in. -/
structure OwnedMachine where
  space : OwnedGuestAddressSpace
  memory : ℕ → UInt8

/-- A call, with what it returns: the number of `Result::success`, and the bytes that were copied
out. -/
def OwnedMachine.call (machine : OwnedMachine) :
    OwnedCall → Except OwnedGuestMemoryFault (ℕ × List UInt8) × OwnedMachine
  | .map guestBase ownedBacking virtualPermissions =>
    let (result, space) := machine.space.map guestBase ownedBacking.span virtualPermissions
    (result.map fun index => (index, []), { machine with space := space })
  | .read address requested =>
    ((machine.space.read machine.memory address requested).map fun bytes => (requested, bytes),
      machine)
  | .fetch address requested =>
    ((machine.space.fetch machine.memory address requested).map fun bytes => (requested, bytes),
      machine)
  | .preflightWrite address byteCount =>
    ((machine.space.preflightWrite address byteCount).map fun n => (n, []), machine)
  | .write address source =>
    match machine.space.write machine.memory address source with
    | .error fault => (.error fault, machine)
    | .ok memory => (.ok (source.length, []), { machine with memory := memory })

/-- A call and whether it was granted. -/
abbrev OwnedHistory := List (OwnedCall × Bool)

/-- The calls of a history, one after the other. -/
def runOwnedCalls (machine : OwnedMachine) : List OwnedCall → OwnedHistory × OwnedMachine
  | [] => ([], machine)
  | next :: rest =>
    let (result, after) := machine.call next
    let (history, last) := runOwnedCalls after rest
    ((next, result.toOption.isSome) :: history, last)

/-- The byte that a granted write left at an address. -/
def writtenAt (x : ℕ) : OwnedCall × Bool → Option UInt8
  | (.write address source, true) =>
    if Patch.Hits (address.toNat, source) x then some (source.getD (x - address.toNat) 0) else none
  | _ => none

/-- The region that a granted mapping added. -/
def mappedRegion : OwnedCall × Bool → Option OwnedRegion
  | (.map guestBase ownedBacking virtualPermissions, true) =>
    some ⟨guestBase, ownedBacking.span, virtualPermissions⟩
  | _ => none

variable {source : List UInt8} {memory' : ℕ → UInt8} {index : ℕ}

/-! ### Requests -/

namespace OwnedGuestAddressSpace

section Requests

variable {space : OwnedGuestAddressSpace} {memory : ℕ → UInt8} {address : UInt64} {requested : ℕ}
  {required : GuestPermission} {region : OwnedRegion}

/-- The request is not empty, does not pass the top of the address space, and lies in one region
that has the permission. -/
def Grants (space : OwnedGuestAddressSpace) (address : UInt64) (requested : ℕ)
    (required : GuestPermission) : Prop :=
  0 < requested ∧ address.toNat + requested ≤ 2 ^ 64 - 1 ∧
    ∃ region ∈ space.regions, region.base.toNat ≤ address.toNat ∧
      address.toNat + requested ≤ region.base.toNat + region.backing.size ∧
        region.perms.has required = true

/-- There is no other region around a request than the one that is found. -/
theorem find?_within (hpos : 0 < requested) :
    space.regions.find? (within address requested) = some region ↔
    region ∈ space.regions ∧ region.guest.Contains ⟨address.toNat, requested⟩ := by
  have hcontains : ∀ other : OwnedRegion, within address requested other = true ↔
      other.guest.Contains ⟨address.toNat, requested⟩ := fun other => within_iff
  constructor
  · intro h
    exact ⟨List.mem_of_find?_eq_some h, (hcontains region).mp (List.find?_some h)⟩
  · rintro ⟨hmem, hregion⟩
    cases hfind : space.regions.find? (within address requested) with
    | none =>
      exact absurd ((hcontains region).mpr hregion) (List.find?_eq_none.mp hfind region hmem)
    | some other =>
      rw [space.guestApart.eq_of_contains (List.mem_of_find?_eq_some hfind) hmem hpos
        ((hcontains other).mp (List.find?_some hfind)) hregion]

theorem access_iff : (∃ region, ¬ requested = 0 ∧ ¬ requested > 2 ^ 64 - 1 - address.toNat ∧
      space.regions.find? (within address requested) = some region ∧
      ¬ region.perms.has required = false) ↔
    space.Grants address requested required := by
  have haddress := address.toNat_lt
  constructor
  · rintro ⟨region, hpos, hend, hfind, hperms⟩
    obtain ⟨hmem, hlow, hhigh⟩ := (find?_within (Nat.pos_of_ne_zero hpos)).mp hfind
    rw [Bool.not_eq_false] at hperms
    exact ⟨Nat.pos_of_ne_zero hpos, by omega, region, hmem, hlow, hhigh, hperms⟩
  · rintro ⟨hpos, hend, region, hmem, hlow, hhigh, hperms⟩
    refine ⟨region, by omega, by omega, (find?_within hpos).mpr ⟨hmem, hlow, hhigh⟩, ?_⟩
    rw [Bool.not_eq_false]
    exact hperms

/-- **Which reads and fetches are granted.** -/
theorem copyOut_iff : (∃ bytes, space.copyOut memory address requested required = .ok bytes) ↔
    space.Grants address requested required := by
  rw [← access_iff]
  simp only [copyOut, bind_eq_ok, refuseIf_eq_ok, orRefuse_eq_ok, pure_eq_ok]
  constructor
  · rintro ⟨bytes, _, hpos, _, hend, region, hfind, _, hperms, -⟩
    exact ⟨region, hpos, hend, hfind, hperms⟩
  · rintro ⟨region, hpos, hend, hfind, hperms⟩
    exact ⟨_, (), hpos, (), hend, region, hfind, (), hperms, rfl⟩

theorem preflightWrite_iff :
    (∃ n, space.preflightWrite address requested = .ok n) ↔
    space.Grants address requested .write := by
  rw [← access_iff]
  simp only [preflightWrite, bind_eq_ok, refuseIf_eq_ok, orRefuse_eq_ok, pure_eq_ok]
  constructor
  · rintro ⟨n, _, hpos, _, hend, region, hfind, _, hperms, -⟩
    exact ⟨region, hpos, hend, hfind, hperms⟩
  · rintro ⟨region, hpos, hend, hfind, hperms⟩
    exact ⟨_, (), hpos, (), hend, region, hfind, (), hperms, rfl⟩

/-- **Which writes are granted**: those that pass the checks beforehand. -/
theorem write_iff :
    (∃ memory', space.write memory address source = .ok memory') ↔
    space.Grants address source.length .write := by
  rw [← preflightWrite_iff]
  simp only [write, bind_eq_ok, orRefuse_eq_ok, pure_eq_ok]
  constructor
  · rintro ⟨memory', n, hchecked, -⟩
    exact ⟨n, hchecked⟩
  · rintro ⟨n, hchecked⟩
    obtain ⟨region, -, -, hfind, -⟩ := access_iff.mpr (preflightWrite_iff.mp ⟨n, hchecked⟩)
    exact ⟨_, n, hchecked, region, hfind, rfl⟩

/-- What a granted write shows at each address, and that its addresses had a byte before. -/
theorem guestView_write_apply (h : space.write memory address source = .ok memory') :
    (∀ x, space.guestView memory' x = if Patch.Hits (address.toNat, source) x then
      some (source.getD (x - address.toNat) 0) else space.guestView memory x) ∧
    ∀ x, Patch.Hits (address.toNat, source) x → (space.guestView memory x).isSome = true := by
  have hview := guestView_write h
  rw [MappedStore.write] at hview
  split_ifs at hview with hmapped
  refine ⟨fun x => (congrFun (Option.some.inj hview) x).symm, ?_⟩
  rintro x ⟨hlow, hhigh⟩
  have := hmapped (x - address.toNat) (by dsimp only at hlow hhigh ⊢; omega)
  rwa [Nat.add_sub_cancel' hlow] at this

end Requests

/-! ### Mapping -/

section Mapping

variable {space space' : OwnedGuestAddressSpace} {guestBase : UInt64}
  {ownedBacking : HostSpan} {permissions : GuestPermissions} {x : ℕ}

theorem map_error {fault : OwnedGuestMemoryFault}
    (h : space.map guestBase ownedBacking permissions = (.error fault, space')) :
    space' = space := by
  unfold map at h
  split at h
  · cases h
    rfl
  · cases h

/-- A granted one adds a region that shares no address with the others, and answers with its place.
-/
theorem map_ok (h : space.map guestBase ownedBacking permissions = (.ok index, space')) :
    index = space.regions.length ∧
      space'.regions = space.regions ++ [⟨guestBase, ownedBacking, permissions⟩] ∧
      space.GrantsMap guestBase ownedBacking := by
  unfold map at h
  split at h
  · cases h
  · next hchecked =>
      cases h
      exact ⟨rfl, rfl, checkMap_eq_ok.mp hchecked⟩

/-- **Which mappings are granted.** -/
theorem map_iff : (∃ index, (space.map guestBase ownedBacking permissions).1 = .ok index) ↔
    space.GrantsMap guestBase ownedBacking := by
  rw [← checkMap_eq_ok]
  unfold map
  split
  · next fault hchecked =>
    rw [hchecked]
    simp
  · next hchecked => exact ⟨fun _ => hchecked, fun _ => ⟨_, rfl⟩⟩

theorem regionAt_map (h : space.map guestBase ownedBacking permissions = (.ok index, space')) :
    space'.regionAt x = (space.regionAt x).or
      (if (OwnedRegion.mk guestBase ownedBacking permissions).guest.Contains ⟨x, 1⟩ then
        some ⟨guestBase, ownedBacking, permissions⟩ else none) := by
  rw [regionAt, (map_ok h).2.1, List.find?_append, List.find?_singleton, regionAt]
  simp only [decide_eq_true_eq]

end Mapping

end OwnedGuestAddressSpace

/-! ### Histories -/

/-- What memory holds after a history that began with nothing mapped. -/
structure Recorded (initial : ℕ → UInt8) (history : OwnedHistory) (machine : OwnedMachine) :
    Prop where
  /-- The guest sees the last granted write at an address, or what was there from the start. -/
  view : ∀ x, machine.space.guestView machine.memory x =
    (machine.space.guestView initial x).map fun byte => (lastHit (writtenAt x) history).getD byte
  /-- No write was granted at an address without a region. -/
  unmapped : ∀ x, machine.space.regionAt x = none → lastHit (writtenAt x) history = none
  unbacked : ∀ x, machine.space.Unbacked x → machine.memory x = initial x
  /-- The table is that of the granted mappings. -/
  regions : machine.space.regions = history.filterMap mappedRegion
  hostFits : ∀ region ∈ machine.space.regions, region.backing.data + region.backing.size ≤ 2 ^ 64

section Histories

variable {initial : ℕ → UInt8} {history : OwnedHistory} {machine : OwnedMachine} {x : ℕ}

theorem recorded_empty (initial : ℕ → UInt8) : Recorded initial [] ⟨.empty, initial⟩ where
  view x := by
    simp only [lastHit_nil, Option.getD_none, Option.map_id']
  unmapped _ _ := rfl
  unbacked _ _ := rfl
  regions := rfl
  hostFits region hregion := absurd hregion List.not_mem_nil

section

variable (h : Recorded initial history machine)

include h

/-- A call that neither writes nor maps leaves what is recorded. -/
theorem Recorded.silent {entry : OwnedCall × Bool} (hwrites : ∀ x, writtenAt x entry = none)
    (hmaps : mappedRegion entry = none) :
    Recorded initial (history ++ [entry]) machine := by
  have hlast : ∀ x, lastHit (writtenAt x) (history ++ [entry]) = lastHit (writtenAt x) history := by
    intro x
    rw [lastHit_concat, hwrites, Option.none_or]
  refine ⟨?_, ?_, h.unbacked, ?_, h.hostFits⟩
  · intro x
    rw [hlast]
    exact h.view x
  · intro x
    rw [hlast]
    exact h.unmapped x
  · rw [List.filterMap_append, List.filterMap_cons_none hmaps, List.filterMap_nil, List.append_nil]
    exact h.regions

/-- A region that is added shows what was in its backing from the start. -/
theorem Recorded.mapped {guestBase : UInt64} {ownedBacking : OwnedBacking}
    {permissions : GuestPermissions} {space' : OwnedGuestAddressSpace}
    (hmap : machine.space.map guestBase ownedBacking.span permissions = (.ok index, space')) :
    Recorded initial (history ++ [(.map guestBase ownedBacking permissions, true)])
      ⟨space', machine.memory⟩ := by
  obtain ⟨-, hregions, hgrants⟩ := OwnedGuestAddressSpace.map_ok hmap
  have hat : ∀ x, space'.regionAt x = (machine.space.regionAt x).or
      (if (OwnedRegion.mk guestBase ownedBacking.span permissions).guest.Contains ⟨x, 1⟩ then
        some ⟨guestBase, ownedBacking.span, permissions⟩ else none) :=
    fun _ => OwnedGuestAddressSpace.regionAt_map hmap
  have hlast : ∀ x, lastHit (writtenAt x)
      (history ++ [(.map guestBase ownedBacking permissions, true)]) =
        lastHit (writtenAt x) history := by
    intro x
    rw [lastHit_concat]
    rfl
  refine ⟨?_, ?_, ?_, ?_, ?_⟩
  · intro x
    have hview := h.view x
    have hunmapped := h.unmapped x
    unfold OwnedGuestAddressSpace.guestView at hview ⊢
    rw [hlast]
    dsimp only
    rw [hat]
    cases hregion : machine.space.regionAt x with
    | some region =>
      rw [hregion] at hview
      exact hview
    | none =>
      rw [Option.none_or, hunmapped hregion]
      split_ifs with hcontains
      · -- the byte was in a backing that no region had
        have hunbacked : machine.space.Unbacked
            (ownedBacking.span.data + (x - guestBase.toNat)) := by
          intro other hother hbacks
          refine hgrants.hostApart other hother
            (Interval.Contains.meets_of_contains ?_ hbacks Nat.one_pos)
          simp only [Interval.Contains, OwnedRegion.guest] at hcontains ⊢
          omega
        simp only [Option.map_some, Option.getD_none]
        rw [h.unbacked _ hunbacked]
      · rfl
  · intro x hx
    rw [hlast]
    refine h.unmapped x ?_
    rw [hat, Option.or_eq_none_iff] at hx
    exact hx.1
  · intro x hx
    refine h.unbacked x fun region hregion => hx region ?_
    rw [hregions]
    exact List.mem_append_left _ hregion
  · rw [hregions, h.regions, List.filterMap_append]
    rfl
  · rw [hregions]
    exact List.forall_mem_append.mpr ⟨h.hostFits, List.forall_mem_singleton.mpr ownedBacking.fits⟩

theorem Recorded.written {address : UInt64}
    (hwrite : machine.space.write machine.memory address source = .ok memory') :
    Recorded initial (history ++ [(.write address source, true)]) ⟨machine.space, memory'⟩ := by
  obtain ⟨hview, hmapped⟩ := OwnedGuestAddressSpace.guestView_write_apply hwrite
  refine ⟨?_, ?_, ?_, ?_, h.hostFits⟩
  · intro x
    rw [lastHit_concat, writtenAt, hview]
    by_cases hits : Patch.Hits (address.toNat, source) x
    · have hsome := hmapped x hits
      rw [if_pos hits, if_pos hits, Option.some_or]
      rw [OwnedGuestAddressSpace.guestView] at hsome ⊢
      cases hregion : machine.space.regionAt x with
      | none =>
        rw [hregion] at hsome
        cases hsome
      | some region => rfl
    · rw [if_neg hits, if_neg hits, Option.none_or]
      exact h.view x
  · intro x hx
    rw [lastHit_concat, writtenAt, h.unmapped x hx, Option.or_none]
    refine if_neg fun hits => ?_
    have hsome := hmapped x hits
    rw [OwnedGuestAddressSpace.guestView, hx] at hsome
    cases hsome
  · intro x hx
    rw [← h.unbacked x hx]
    exact OwnedGuestAddressSpace.write_frame hwrite hx
  · rw [List.filterMap_append, List.filterMap_cons_none rfl, List.filterMap_nil, List.append_nil]
    exact h.regions

/-- **One call keeps the record.** -/
theorem Recorded.call (next : OwnedCall) :
    Recorded initial (history ++ [(next, (machine.call next).1.toOption.isSome)])
      (machine.call next).2 := by
  cases next with
  | map guestBase ownedBacking permissions =>
    cases hmap : machine.space.map guestBase ownedBacking.span permissions with
    | mk result space' =>
      have hcall : machine.call (.map guestBase ownedBacking permissions) =
          (result.map fun index => (index, []), ⟨space', machine.memory⟩) := by
        simp only [OwnedMachine.call, hmap]
      rw [hcall]
      cases result with
      | error fault =>
        rw [OwnedGuestAddressSpace.map_error hmap]
        exact h.silent (fun _ => rfl) rfl
      | ok index => exact h.mapped hmap
  | read address requested => exact h.silent (fun _ => rfl) rfl
  | fetch address requested => exact h.silent (fun _ => rfl) rfl
  | preflightWrite address byteCount => exact h.silent (fun _ => rfl) rfl
  | write address source =>
    simp only [OwnedMachine.call]
    cases hwrite : machine.space.write machine.memory address source with
    | error fault => exact h.silent (fun _ => rfl) rfl
    | ok memory' => exact h.written hwrite

/-- **A history keeps the record**, by induction on its calls. -/
theorem Recorded.run (calls : List OwnedCall) :
    Recorded initial (history ++ (runOwnedCalls machine calls).1)
      (runOwnedCalls machine calls).2 := by
  induction calls generalizing history machine with
  | nil =>
    rw [runOwnedCalls, List.append_nil]
    exact h
  | cons next rest ih =>
    have hrest := ih (h.call next)
    rw [List.append_assoc] at hrest
    exact hrest

end

end Histories

/-! ### Any history -/

/-- What holds after a history, and of the next call. -/
structure CheckedMemory (initial : ℕ → UInt8) (history : OwnedHistory) (machine : OwnedMachine) :
    Prop where
  guestRanges : machine.space.regions.Pairwise (fun a b => ¬ a.guest.Meets b.guest) ∧
    ∀ region ∈ machine.space.regions, region.base.toNat + region.backing.size ≤ 2 ^ 64 - 1
  hostRanges : machine.space.regions.Pairwise (fun a b => ¬ a.host.Meets b.host) ∧
    ∀ region ∈ machine.space.regions, region.backing.data + region.backing.size ≤ 2 ^ 64
  /-- The regions are those of the granted mappings, with their bases, backings and permissions. -/
  table : machine.space.regions = history.filterMap mappedRegion
  /-- When a mapping is granted, and what it then adds. -/
  mapped : ∀ guestBase (ownedBacking : OwnedBacking) permissions,
    ((∃ answer, (machine.call (.map guestBase ownedBacking permissions)).1 = .ok answer) ↔
      machine.space.GrantsMap guestBase ownedBacking.span) ∧
    ∀ answer, (machine.call (.map guestBase ownedBacking permissions)).1 = .ok answer →
      answer = (machine.space.regions.length, []) ∧
      (machine.call (.map guestBase ownedBacking permissions)).2.memory = machine.memory ∧
      (machine.call (.map guestBase ownedBacking permissions)).2.space.regions =
        machine.space.regions ++ [⟨guestBase, ownedBacking.span, permissions⟩]
  refused : ∀ next fault, (machine.call next).1 = .error fault → (machine.call next).2 = machine
  written : ∀ address source answer, (machine.call (.write address source)).1 = .ok answer →
    (machine.call (.write address source)).2.space = machine.space ∧
    (∀ x, machine.space.guestView (machine.call (.write address source)).2.memory x =
      if Patch.Hits (address.toNat, source) x then some (source.getD (x - address.toNat) 0)
      else machine.space.guestView machine.memory x) ∧
    ∀ x, machine.space.Unbacked x →
      (machine.call (.write address source)).2.memory x = machine.memory x
  copied : ∀ address requested bytes,
    (machine.space.read machine.memory address requested = .ok bytes ∨
      machine.space.fetch machine.memory address requested = .ok bytes) →
    bytes.length = requested ∧ ∀ i < requested, ∃ region ∈ machine.space.regions,
      region.guest.Contains ⟨address.toNat + i, 1⟩ ∧
      bytes[i]? = some ((lastHit (writtenAt (address.toNat + i)) history).getD
        (initial (region.backing.data + (address.toNat + i - region.base.toNat))))
  granted : ∀ address,
    (∀ requested, (∃ bytes, machine.space.read machine.memory address requested = .ok bytes) ↔
      machine.space.Grants address requested .read) ∧
    (∀ requested, (∃ bytes, machine.space.fetch machine.memory address requested = .ok bytes) ↔
      machine.space.Grants address requested .execute) ∧
    (∀ source, (∃ memory', machine.space.write machine.memory address source = .ok memory') ↔
      machine.space.Grants address source.length .write) ∧
    ∀ source, (∃ n, machine.space.preflightWrite address source.length = .ok n) →
      ∃ memory', machine.space.write machine.memory address source = .ok memory'

/-- A mapping that is called: when it is granted, and what it adds. -/
theorem OwnedMachine.call_map {machine : OwnedMachine} {guestBase : UInt64}
    {ownedBacking : OwnedBacking} {permissions : GuestPermissions} :
    ((∃ answer, (machine.call (.map guestBase ownedBacking permissions)).1 = .ok answer) ↔
      machine.space.GrantsMap guestBase ownedBacking.span) ∧
    ∀ answer, (machine.call (.map guestBase ownedBacking permissions)).1 = .ok answer →
      answer = (machine.space.regions.length, []) ∧
      (machine.call (.map guestBase ownedBacking permissions)).2.memory = machine.memory ∧
      (machine.call (.map guestBase ownedBacking permissions)).2.space.regions =
        machine.space.regions ++ [⟨guestBase, ownedBacking.span, permissions⟩] := by
  rw [← @OwnedGuestAddressSpace.map_iff _ _ _ permissions]
  cases hmap : machine.space.map guestBase ownedBacking.span permissions with
  | mk result space' =>
    simp only [OwnedMachine.call, hmap]
    cases result with
    | error fault =>
      refine ⟨⟨?_, ?_⟩, nofun⟩
      · rintro ⟨answer, hanswer⟩
        cases hanswer
      · rintro ⟨index, hindex⟩
        cases hindex
    | ok index =>
      obtain ⟨hindex, hregions, -⟩ := OwnedGuestAddressSpace.map_ok hmap
      refine ⟨⟨fun _ => ⟨index, rfl⟩, fun _ => ⟨_, rfl⟩⟩, ?_⟩
      intro answer hanswer
      cases hanswer
      exact ⟨by rw [hindex], trivial, hregions⟩

/-- **An owned address space is a checked memory over any history.** Whatever calls were made and
refused, its regions are those of the granted mappings and do not meet, refused calls change
nothing, a write changes its own bytes, and a read finds the last byte written or the one that was
there from the start. An access is granted exactly when it lies in one region with the permission.
-/
theorem ownedGuestAddressSpace_history (initial : ℕ → UInt8) (calls : List OwnedCall) :
    CheckedMemory initial (runOwnedCalls ⟨.empty, initial⟩ calls).1
      (runOwnedCalls ⟨.empty, initial⟩ calls).2 := by
  have h := (recorded_empty initial).run calls
  rw [List.nil_append] at h
  generalize (runOwnedCalls ⟨.empty, initial⟩ calls).1 = history at h ⊢
  generalize (runOwnedCalls ⟨.empty, initial⟩ calls).2 = machine at h ⊢
  refine ⟨⟨machine.space.guestApart.disjoint, ?_⟩, ⟨machine.space.hostApart.disjoint, h.hostFits⟩,
    h.regions, fun _ _ _ => OwnedMachine.call_map, ?_, ?_, ?_, ?_⟩
  · intro region hregion
    have := machine.space.ends region hregion
    omega
  · intro next fault hfault
    cases next with
    | map guestBase ownedBacking permissions =>
      cases hmap : machine.space.map guestBase ownedBacking.span permissions with
      | mk result space' =>
        simp only [OwnedMachine.call, hmap] at hfault ⊢
        cases result with
        | error fault => rw [OwnedGuestAddressSpace.map_error hmap]
        | ok index => cases hfault
    | read address requested => rfl
    | fetch address requested => rfl
    | preflightWrite address byteCount => rfl
    | write address source =>
      simp only [OwnedMachine.call] at hfault ⊢
      cases hwrite : machine.space.write machine.memory address source with
      | error fault => rfl
      | ok memory' =>
        rw [hwrite] at hfault
        cases hfault
  · intro address source answer hanswer
    simp only [OwnedMachine.call] at hanswer ⊢
    cases hwrite : machine.space.write machine.memory address source with
    | error fault =>
      rw [hwrite] at hanswer
      cases hanswer
    | ok memory' =>
      exact ⟨rfl, (OwnedGuestAddressSpace.guestView_write_apply hwrite).1,
        fun _ => OwnedGuestAddressSpace.write_frame hwrite⟩
  · intro address requested bytes hbytes
    have hcopied : bytes.length = requested ∧ ∀ i < requested,
        machine.space.guestView machine.memory (address.toNat + i) = some (bytes.getD i 0) := by
      rcases hbytes with hbytes | hbytes
      · exact (OwnedGuestAddressSpace.copyOut_eq_ok hbytes).2
      · exact (OwnedGuestAddressSpace.copyOut_eq_ok hbytes).2
    refine ⟨hcopied.1, ?_⟩
    intro i hi
    have hview := hcopied.2 i hi
    rw [h.view, Option.map_eq_some_iff] at hview
    obtain ⟨byte, hbyte, hlast⟩ := hview
    rw [OwnedGuestAddressSpace.guestView, Option.map_eq_some_iff] at hbyte
    obtain ⟨region, hregion, rfl⟩ := hbyte
    obtain ⟨hmem, hcontains⟩ := OwnedGuestAddressSpace.regionAt_eq_some.mp hregion
    refine ⟨region, hmem, hcontains, ?_⟩
    rw [hlast, List.getD_eq_getElem?_getD, List.getElem?_eq_getElem (hcopied.1 ▸ hi),
      Option.getD_some]
  · intro address
    refine ⟨fun _ => OwnedGuestAddressSpace.copyOut_iff, fun _ =>
      OwnedGuestAddressSpace.copyOut_iff, fun _ => OwnedGuestAddressSpace.write_iff, ?_⟩
    intro source hchecked
    exact OwnedGuestAddressSpace.write_iff.mpr
      (OwnedGuestAddressSpace.preflightWrite_iff.mp hchecked)

/-- A page of code that may be read and fetched, and one right after it that may be read and
written; the calls after the two mappings are refused where they break a rule. -/
def twoRegionCalls : List OwnedCall :=
  [.map 0x1000 ⟨⟨0x20000, 0x1000⟩, by decide⟩ (.fromElfFlags 5),
    .map 0x2000 ⟨⟨0x10000, 0x1000⟩, by decide⟩ (.fromElfFlags 6),
    .map 0x2800 ⟨⟨0x40000, 0x1000⟩, by decide⟩ (.fromElfFlags 6),
    .map 0x8000 ⟨⟨0x10800, 0x1000⟩, by decide⟩ (.fromElfFlags 6),
    .write 0x2000 [1, 2, 3, 4],
    .write 0x2001 [9],
    .write 0x1000 [7],
    .write 0x1fff [7, 7],
    .fetch 0x2000 1,
    .fetch 0x1000 4]

/-- Both pages are there with their permissions, and the guest reads what it wrote. -/
theorem ownedGuestAddressSpace_history_twoRegions :
    (runOwnedCalls ⟨.empty, fun _ => 0⟩ twoRegionCalls).1.map Prod.snd =
        [true, true, false, false, true, true, false, false, false, true] ∧
      CheckedMemory (fun _ => 0) (runOwnedCalls ⟨.empty, fun _ => 0⟩ twoRegionCalls).1
        (runOwnedCalls ⟨.empty, fun _ => 0⟩ twoRegionCalls).2 ∧
      (runOwnedCalls ⟨.empty, fun _ => 0⟩ twoRegionCalls).2.space.regions =
        [⟨0x1000, ⟨0x20000, 0x1000⟩, .fromElfFlags 5⟩,
          ⟨0x2000, ⟨0x10000, 0x1000⟩, .fromElfFlags 6⟩] ∧
      (runOwnedCalls ⟨.empty, fun _ => 0⟩ twoRegionCalls).2.space.read
        (runOwnedCalls ⟨.empty, fun _ => 0⟩ twoRegionCalls).2.memory 0x2000 4 =
          .ok [1, 9, 3, 4] := by
  have hchecked := ownedGuestAddressSpace_history (fun _ => 0) twoRegionCalls
  refine ⟨by decide +kernel, hchecked, ?_, by decide +kernel⟩
  rw [hchecked.table]
  decide +kernel

end Astraea.Research
