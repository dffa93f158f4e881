import Astraea.Base.Check
import Astraea.Base.Overwrite
import Astraea.Memory.GuestAddress
import Mathlib.Order.BooleanAlgebra.Set

/-!
# Registered syscall traps

A `SYSCALL` at a registered address is replaced by `UD2`, so that the guest stops there.
`plan_registered_syscall_trap` checks that there is one; `apply_registered_syscall_trap` and
`restore_registered_syscall_trap` exchange the two bytes, each only if it finds what the other
one leaves.

Nothing checks that two sites do not overlap. They cannot, because no `SYSCALL` begins with the
last byte of another; and no `UD2` makes a `SYSCALL` out of its neighbours. So the buffer is
always the original one with `UD2` at the sites that are applied (`Patched`), and
`registeredSyscallTraps_commute` says what follows for any order of steps.
-/

namespace Astraea.Execution

open Astraea.Base Astraea.Memory

/-- The bytes of `SYSCALL`. -/
def kX86SyscallBytes : Vector UInt8 2 := #v[0x0f, 0x05]

/-- The bytes of `UD2`. -/
def kX86Ud2Bytes : Vector UInt8 2 := #v[0x0f, 0x0b]

/-- A `SYSCALL` in the code, and the bytes it is exchanged for. -/
structure RegisteredSyscallTrapSite where
  guestRip : GuestAddress
  codeByteOffset : ℕ
  originalBytes : Vector UInt8 2 := kX86SyscallBytes
  trapBytes : Vector UInt8 2 := kX86Ud2Bytes
  deriving DecidableEq

/-- Why a site is refused. -/
inductive RegisteredSyscallTrapErrorCode where
  | codeRangeOverflow
  | siteBeforeCodeRange
  | siteNotFullyInCodeRange
  | unexpectedOriginalBytes
  | unexpectedTrapBytes
  deriving DecidableEq

/-- A site that is refused, with its offset. -/
structure RegisteredSyscallTrapError where
  code : RegisteredSyscallTrapErrorCode
  codeByteOffset : ℕ := 0
  deriving DecidableEq

/-- `span_fits`. -/
def spanFits (code : List UInt8) (offset : ℕ) : Bool :=
  offset ≤ code.length && 2 ≤ code.length - offset

/-- `plan_registered_syscall_trap`. -/
def planRegisteredSyscallTrap (codeBase : GuestAddress) (code : List UInt8)
    (guestRip : GuestAddress) :
    Except RegisteredSyscallTrapError RegisteredSyscallTrapSite := do
  let _range ← (GuestRange.create codeBase ⟨UInt64.ofNat code.length⟩).mapError fun _ =>
    ({ code := .codeRangeOverflow } : RegisteredSyscallTrapError)
  refuseIf (guestRip.value < codeBase.value) { code := .siteBeforeCodeRange }
  let offset := guestRip.value - codeBase.value
  refuseIf (offset > UInt64.ofNat code.length) { code := .siteNotFullyInCodeRange }
  refuseIf (spanFits code offset.toNat = false) ⟨.siteNotFullyInCodeRange, offset.toNat⟩
  refuseIf (slice code offset.toNat 2 ≠ kX86SyscallBytes.toList)
    ⟨.unexpectedOriginalBytes, offset.toNat⟩
  return { guestRip := guestRip, codeByteOffset := offset.toNat }

/-- What both mutations do: find `expected` at the offset and write `replacement` over it. The
buffer stays as it is where that is refused. -/
def exchangeBytes (expected replacement : Vector UInt8 2)
    (mismatch : RegisteredSyscallTrapErrorCode) (code : List UInt8) (offset : ℕ) :
    Except RegisteredSyscallTrapError Bool × List UInt8 :=
  if spanFits code offset = false then (.error ⟨.siteNotFullyInCodeRange, offset⟩, code)
  else if slice code offset 2 ≠ expected.toList then (.error ⟨mismatch, offset⟩, code)
  else (.ok true, overwrite code offset replacement.toList)

/-- `apply_registered_syscall_trap`, and the buffer afterwards. -/
def applyRegisteredSyscallTrap (code : List UInt8) (site : RegisteredSyscallTrapSite) :
    Except RegisteredSyscallTrapError Bool × List UInt8 :=
  exchangeBytes site.originalBytes site.trapBytes .unexpectedOriginalBytes code site.codeByteOffset

/-- `restore_registered_syscall_trap`, and the buffer afterwards. -/
def restoreRegisteredSyscallTrap (code : List UInt8) (site : RegisteredSyscallTrapSite) :
    Except RegisteredSyscallTrapError Bool × List UInt8 :=
  exchangeBytes site.trapBytes site.originalBytes .unexpectedTrapBytes code site.codeByteOffset

/-- `registered_syscall_trap_matches_rip`. -/
def registeredSyscallTrapMatchesRip (site : RegisteredSyscallTrapSite) (guestRip : GuestAddress) :
    Bool :=
  site.guestRip == guestRip

/-! ### Steps -/

/-- A call that may change the buffer. -/
inductive TrapStep where
  | apply (site : RegisteredSyscallTrapSite)
  | restore (site : RegisteredSyscallTrapSite)

namespace TrapStep

/-- The site a step is about. -/
def site : TrapStep → RegisteredSyscallTrapSite
  | apply site => site
  | restore site => site

/-- What a step returns, and the buffer afterwards. -/
def run (code : List UInt8) : TrapStep → Except RegisteredSyscallTrapError Bool × List UInt8
  | apply site => applyRegisteredSyscallTrap code site
  | restore site => restoreRegisteredSyscallTrap code site

/-- The sites that are applied after a step, when those of `applied` were before it. -/
def applied (before : Set RegisteredSyscallTrapSite) : TrapStep → Set RegisteredSyscallTrapSite
  | apply site => insert site before
  | restore site => before \ {site}

end TrapStep

/-- What the steps return one after another, and the buffer at their end. -/
def runTrapSteps (code : List UInt8) :
    List TrapStep → List (Except RegisteredSyscallTrapError Bool) × List UInt8
  | [] => ([], code)
  | step :: steps =>
    let rest := runTrapSteps (step.run code).2 steps
    ((step.run code).1 :: rest.1, rest.2)

/-- The sites that are applied after steps, when none was before them. -/
def appliedAfter (steps : List TrapStep) : Set RegisteredSyscallTrapSite :=
  steps.foldl TrapStep.applied ∅

/-! ### Sites -/

/-- The two bytes of a site. -/
def RegisteredSyscallTrapSite.Covers (site : RegisteredSyscallTrapSite) (i : ℕ) : Prop :=
  site.codeByteOffset ≤ i ∧ i < site.codeByteOffset + 2

/-- There is a `SYSCALL` at an offset. -/
def SyscallAt (code : List UInt8) (offset : ℕ) : Prop :=
  code[offset]? = some 0x0f ∧ code[offset + 1]? = some 0x05

/-- A site that was planned for the buffer. -/
structure PlannedSite (codeBase : GuestAddress) (code : List UInt8)
    (site : RegisteredSyscallTrapSite) : Prop where
  before : codeBase.value ≤ site.guestRip.value
  offset : site.codeByteOffset = (site.guestRip.value - codeBase.value).toNat
  originalBytes : site.originalBytes = kX86SyscallBytes
  trapBytes : site.trapBytes = kX86Ud2Bytes
  syscall : SyscallAt code site.codeByteOffset

section Sites

variable {codeBase guestRip : GuestAddress} {code : List UInt8}
  {site site' : RegisteredSyscallTrapSite} {offset i : ℕ}

theorem slice_eq_pair {a b : UInt8} :
    slice code offset 2 = [a, b] ↔ code[offset]? = some a ∧ code[offset + 1]? = some b := by
  rw [slice_eq_iff (show [a, b].length = 2 from rfl)]
  constructor
  · intro h
    exact ⟨h 0 (by omega), h 1 (by omega)⟩
  · rintro ⟨h, h'⟩ i hi
    obtain rfl | rfl : i = 0 ∨ i = 1 := by omega
    · exact h
    · exact h'

theorem spanFits_of_getElem? {b : UInt8} (h : code[offset + 1]? = some b) :
    spanFits code offset = true := by
  obtain ⟨hlt, -⟩ := List.getElem?_eq_some_iff.mp h
  simp only [spanFits, Bool.and_eq_true, decide_eq_true_eq]
  omega

/-- **A site is planned where there is a `SYSCALL`.** -/
theorem plannedSite_of_plan (h : planRegisteredSyscallTrap codeBase code guestRip = .ok site) :
    PlannedSite codeBase code site ∧ site.guestRip = guestRip := by
  simp only [planRegisteredSyscallTrap, bind_eq_ok, refuseIf_eq_ok, not_not, pure_eq_ok] at h
  obtain ⟨-, -, -, hbefore, -, -, -, -, -, hbytes, rfl⟩ := h
  exact ⟨⟨UInt64.not_lt.mp hbefore, rfl, rfl, rfl, slice_eq_pair.mp hbytes⟩, rfl⟩

theorem guestRip_eq_of_offset {guestRip' : GuestAddress}
    (h : (guestRip.value - codeBase.value).toNat = (guestRip'.value - codeBase.value).toNat) :
    guestRip = guestRip' := by
  have hsum := congrArg (· + codeBase.value) (UInt64.toNat_inj.mp h)
  simp only [UInt64.sub_add_cancel] at hsum
  exact GuestAddress.toNat_inj.mp (congrArg UInt64.toNat hsum)

theorem PlannedSite.eq_of_offset (h : PlannedSite codeBase code site)
    (h' : PlannedSite codeBase code site') (heq : site.codeByteOffset = site'.codeByteOffset) :
    site = site' := by
  have hrip : site.guestRip = site'.guestRip :=
    guestRip_eq_of_offset (by rw [← h.offset, ← h'.offset, heq])
  obtain ⟨rip, offset, original, trap⟩ := site
  obtain ⟨rip', offset', original', trap'⟩ := site'
  simp only [RegisteredSyscallTrapSite.mk.injEq]
  exact ⟨hrip, heq, h.originalBytes.trans h'.originalBytes.symm,
    h.trapBytes.trans h'.trapBytes.symm⟩

/-- **Sites do not overlap**: no `SYSCALL` begins with the last byte of another one. -/
theorem PlannedSite.disjoint (h : PlannedSite codeBase code site)
    (h' : PlannedSite codeBase code site') (hne : site ≠ site') :
    ¬ (site.Covers i ∧ site'.Covers i) := by
  rintro ⟨⟨hlow, hhigh⟩, hlow', hhigh'⟩
  have hoffset : site.codeByteOffset ≠ site'.codeByteOffset :=
    fun heq => hne (h.eq_of_offset h' heq)
  obtain ⟨hfirst, hsecond⟩ := h.syscall
  obtain ⟨hfirst', hsecond'⟩ := h'.syscall
  obtain heq | heq : site'.codeByteOffset = site.codeByteOffset + 1 ∨
      site.codeByteOffset = site'.codeByteOffset + 1 := by
    omega
  · rw [heq, hsecond] at hfirst'
    cases hfirst'
  · rw [heq, hsecond'] at hfirst
    cases hfirst

end Sites

/-! ### The buffer between steps -/

/-- The buffer with `UD2` at the applied sites. -/
structure Patched (code : List UInt8) (applied : Set RegisteredSyscallTrapSite)
    (buffer : List UInt8) : Prop where
  length : buffer.length = code.length
  trapped : ∀ site ∈ applied, buffer[site.codeByteOffset]? = some 0x0f ∧
    buffer[site.codeByteOffset + 1]? = some 0x0b
  elsewhere : ∀ i, (∀ site ∈ applied, ¬ site.Covers i) → buffer[i]? = code[i]?

section Patched

variable {codeBase : GuestAddress} {code buffer buffer' : List UInt8}
  {applied : Set RegisteredSyscallTrapSite} {site : RegisteredSyscallTrapSite}
  {expected replacement : Vector UInt8 2} {mismatch : RegisteredSyscallTrapErrorCode} {offset i : ℕ}

theorem exchangeBytes_of_eq (hfits : spanFits code offset = true)
    (h : slice code offset 2 = expected.toList) :
    exchangeBytes expected replacement mismatch code offset =
      (.ok true, overwrite code offset replacement.toList) := by
  rw [exchangeBytes, if_neg (by simp [hfits]), if_neg (not_not.mpr h)]

theorem exchangeBytes_of_ne (hfits : spanFits code offset = true)
    (h : slice code offset 2 ≠ expected.toList) :
    exchangeBytes expected replacement mismatch code offset =
      (.error ⟨mismatch, offset⟩, code) := by
  rw [exchangeBytes, if_neg (by simp [hfits]), if_pos h]

theorem RegisteredSyscallTrapSite.covers_iff :
    site.Covers i ↔ i = site.codeByteOffset ∨ i = site.codeByteOffset + 1 := by
  rw [RegisteredSyscallTrapSite.Covers]
  omega

theorem patched_empty (code : List UInt8) : Patched code ∅ code := ⟨rfl, by simp, fun _ _ => rfl⟩

/-- **The applied sites say what the buffer is.** -/
theorem Patched.unique (h : Patched code applied buffer) (h' : Patched code applied buffer') :
    buffer = buffer' := by
  rw [List.ext_getElem?_iff]
  intro i
  by_cases hcovered : ∃ site ∈ applied, site.Covers i
  · obtain ⟨site, hsite, hcovers⟩ := hcovered
    rcases RegisteredSyscallTrapSite.covers_iff.mp hcovers with rfl | rfl
    · rw [(h.trapped site hsite).1, (h'.trapped site hsite).1]
    · rw [(h.trapped site hsite).2, (h'.trapped site hsite).2]
  · have hnone : ∀ site ∈ applied, ¬ site.Covers i :=
      fun site hsite hcovers => hcovered ⟨site, hsite, hcovers⟩
    rw [h.elsewhere i hnone, h'.elsewhere i hnone]

theorem getElem?_overwrite_pair (hfits : spanFits buffer site.codeByteOffset = true)
    (pair : Vector UInt8 2) :
    (∀ i, ¬ site.Covers i → (overwrite buffer site.codeByteOffset pair.toList)[i]? = buffer[i]?) ∧
      (overwrite buffer site.codeByteOffset pair.toList)[site.codeByteOffset]? = pair.toList[0]? ∧
      (overwrite buffer site.codeByteOffset pair.toList)[site.codeByteOffset + 1]? =
        pair.toList[1]? ∧
      (overwrite buffer site.codeByteOffset pair.toList).length = buffer.length := by
  have hlength : pair.toList.length = 2 := Vector.length_toList
  have hroom : site.codeByteOffset + pair.toList.length ≤ buffer.length := by
    simp only [spanFits, Bool.and_eq_true, decide_eq_true_eq] at hfits
    omega
  refine ⟨fun i hi => ?_, ?_, ?_, length_overwrite hroom⟩
  · rw [getElem?_overwrite hroom, hlength]
    exact if_neg hi
  · rw [getElem?_overwrite hroom, if_pos (by omega), Nat.sub_self]
  · rw [getElem?_overwrite hroom, if_pos (by omega), Nat.add_sub_cancel_left]

section Planned

variable (hplanned : ∀ site ∈ applied, PlannedSite codeBase code site)
include hplanned

section

variable (h : Patched code applied buffer)

include h

theorem Patched.syscallAt (hsite : PlannedSite codeBase code site) (hnot : site ∉ applied) :
    SyscallAt buffer site.codeByteOffset := by
  have helsewhere : ∀ i, site.Covers i → buffer[i]? = code[i]? :=
      fun i hi => h.elsewhere i fun other hother hcovers =>
    hsite.disjoint (hplanned other hother) (fun heq => hnot (heq ▸ hother)) ⟨hi, hcovers⟩
  exact ⟨(helsewhere _ (RegisteredSyscallTrapSite.covers_iff.mpr (.inl rfl))).trans hsite.syscall.1,
    (helsewhere _ (RegisteredSyscallTrapSite.covers_iff.mpr (.inr rfl))).trans hsite.syscall.2⟩

theorem Patched.apply (hsite : PlannedSite codeBase code site) (hnot : site ∉ applied) :
    (applyRegisteredSyscallTrap buffer site).1 = .ok true ∧
      Patched code (insert site applied) (applyRegisteredSyscallTrap buffer site).2 := by
  have hsyscall := h.syscallAt hplanned hsite hnot
  have hfits := spanFits_of_getElem? hsyscall.2
  have hslice : slice buffer site.codeByteOffset 2 = site.originalBytes.toList := by
    rw [hsite.originalBytes]
    exact slice_eq_pair.mpr hsyscall
  rw [applyRegisteredSyscallTrap, exchangeBytes_of_eq hfits hslice]
  obtain ⟨houtside, hfirst, hsecond, hlength⟩ := getElem?_overwrite_pair hfits site.trapBytes
  rw [hsite.trapBytes] at houtside hfirst hsecond hlength ⊢
  refine ⟨rfl, hlength.trans h.length, ?_, fun i hi => ?_⟩
  · intro other hother
    rcases hother with rfl | hother
    · exact ⟨hfirst, hsecond⟩
    · have hapart : ∀ i, other.Covers i → ¬ site.Covers i := fun i hi hcovers =>
        hsite.disjoint (hplanned other hother) (fun heq => hnot (heq ▸ hother)) ⟨hcovers, hi⟩
      rw [houtside _ (hapart _ (RegisteredSyscallTrapSite.covers_iff.mpr (.inl rfl))),
        houtside _ (hapart _ (RegisteredSyscallTrapSite.covers_iff.mpr (.inr rfl)))]
      exact h.trapped other hother
  · rw [houtside i (hi site (Set.mem_insert _ _))]
    exact h.elsewhere i fun other hother => hi other (Set.mem_insert_of_mem _ hother)

theorem Patched.apply_again (hsite : site ∈ applied) :
    applyRegisteredSyscallTrap buffer site =
      (.error ⟨.unexpectedOriginalBytes, site.codeByteOffset⟩, buffer) := by
  obtain ⟨-, hsecond⟩ := h.trapped site hsite
  refine exchangeBytes_of_ne (spanFits_of_getElem? hsecond) fun hslice => ?_
  rw [(hplanned site hsite).originalBytes] at hslice
  have hbyte := (slice_eq_pair.mp hslice).2
  rw [hsecond] at hbyte
  cases hbyte

theorem Patched.restore (hsite : site ∈ applied) :
    (restoreRegisteredSyscallTrap buffer site).1 = .ok true ∧
      Patched code (applied \ {site}) (restoreRegisteredSyscallTrap buffer site).2 := by
  have hplan := hplanned site hsite
  have htrap := h.trapped site hsite
  have hfits := spanFits_of_getElem? htrap.2
  have hslice : slice buffer site.codeByteOffset 2 = site.trapBytes.toList := by
    rw [hplan.trapBytes]
    exact slice_eq_pair.mpr htrap
  rw [restoreRegisteredSyscallTrap, exchangeBytes_of_eq hfits hslice]
  obtain ⟨houtside, hfirst, hsecond, hlength⟩ := getElem?_overwrite_pair hfits site.originalBytes
  rw [hplan.originalBytes] at houtside hfirst hsecond hlength ⊢
  refine ⟨rfl, hlength.trans h.length, ?_, fun i hi => ?_⟩
  · rintro other ⟨hother, hne⟩
    have hapart : ∀ i, other.Covers i → ¬ site.Covers i := fun i hi hcovers =>
      hplan.disjoint (hplanned other hother) (fun heq => hne heq.symm) ⟨hcovers, hi⟩
    rw [houtside _ (hapart _ (RegisteredSyscallTrapSite.covers_iff.mpr (.inl rfl))),
      houtside _ (hapart _ (RegisteredSyscallTrapSite.covers_iff.mpr (.inr rfl)))]
    exact h.trapped other hother
  · by_cases hcovers : site.Covers i
    · rcases RegisteredSyscallTrapSite.covers_iff.mp hcovers with rfl | rfl
      · exact hfirst.trans hplan.syscall.1.symm
      · exact hsecond.trans hplan.syscall.2.symm
    · rw [houtside i hcovers]
      refine h.elsewhere i fun other hother => ?_
      by_cases hother' : other = site
      · rw [hother']
        exact hcovers
      · exact hi other ⟨hother, hother'⟩

theorem Patched.restore_again (hsite : PlannedSite codeBase code site) (hnot : site ∉ applied) :
    restoreRegisteredSyscallTrap buffer site =
      (.error ⟨.unexpectedTrapBytes, site.codeByteOffset⟩, buffer) := by
  obtain ⟨hfirst, hsecond⟩ := h.syscallAt hplanned hsite hnot
  refine exchangeBytes_of_ne (spanFits_of_getElem? hsecond) fun hslice => ?_
  rw [hsite.trapBytes] at hslice
  have hbyte := (slice_eq_pair.mp hslice).2
  rw [hsecond] at hbyte
  cases hbyte

/-- **There is a `SYSCALL` where there was one**, except at the applied sites. -/
theorem Patched.syscallAt_iff (hnot : ∀ site ∈ applied, site.codeByteOffset ≠ offset) :
    SyscallAt buffer offset ↔ SyscallAt code offset := by
  -- in neither buffer does an applied site reach into a `SYSCALL` at another place
  have hapart : ∀ xs, xs = code ∨ xs = buffer → SyscallAt xs offset → ∀ site ∈ applied,
      ¬ site.Covers offset ∧ ¬ site.Covers (offset + 1) := by
    rintro xs hxs ⟨hfirst, hsecond⟩ site hsite
    have hne := hnot site hsite
    obtain ⟨hcodeFirst, hcodeSecond⟩ := (hplanned site hsite).syscall
    obtain ⟨hbufferFirst, hbufferSecond⟩ := h.trapped site hsite
    rw [RegisteredSyscallTrapSite.covers_iff, RegisteredSyscallTrapSite.covers_iff]
    constructor
    · rintro (heq | heq)
      · exact hne heq.symm
      · rw [heq] at hfirst
        rcases hxs with rfl | rfl
        · rw [hcodeSecond] at hfirst
          cases hfirst
        · rw [hbufferSecond] at hfirst
          cases hfirst
    · rintro (heq | heq)
      · rw [heq] at hsecond
        rcases hxs with rfl | rfl
        · rw [hcodeFirst] at hsecond
          cases hsecond
        · rw [hbufferFirst] at hsecond
          cases hsecond
      · exact hne (by omega)
  constructor
  · intro hsyscall
    rw [SyscallAt, ← h.elsewhere _ fun site hsite =>
      (hapart buffer (.inr rfl) hsyscall site hsite).1,
        ← h.elsewhere _ fun site hsite => (hapart buffer (.inr rfl) hsyscall site hsite).2]
    exact hsyscall
  · intro hsyscall
    rw [SyscallAt, h.elsewhere _ fun site hsite => (hapart code (.inl rfl) hsyscall site hsite).1,
      h.elsewhere _ fun site hsite => (hapart code (.inl rfl) hsyscall site hsite).2]
    exact hsyscall

/-- **Planning another site gives the same answer** as on the original buffer. -/
theorem Patched.plan {guestRip : GuestAddress}
    (hnot : ∀ site ∈ applied, registeredSyscallTrapMatchesRip site guestRip = false) :
    planRegisteredSyscallTrap codeBase buffer guestRip =
      planRegisteredSyscallTrap codeBase code guestRip := by
  have hoffset : ∀ site ∈ applied, site.codeByteOffset ≠
      (guestRip.value - codeBase.value).toNat := by
    intro site hsite heq
    rw [(hplanned site hsite).offset] at heq
    have hmatch := hnot site hsite
    rw [registeredSyscallTrapMatchesRip, guestRip_eq_of_offset heq, beq_self_eq_true] at hmatch
    cases hmatch
  have hbytes : slice buffer (guestRip.value - codeBase.value).toNat 2 ≠ kX86SyscallBytes.toList ↔
      slice code (guestRip.value - codeBase.value).toNat 2 ≠ kX86SyscallBytes.toList :=
    not_congr (slice_eq_pair.trans ((h.syscallAt_iff hplanned hoffset).trans slice_eq_pair.symm))
  have hfits : spanFits buffer (guestRip.value - codeBase.value).toNat =
      spanFits code (guestRip.value - codeBase.value).toNat := by
    rw [spanFits, spanFits, h.length]
  rw [planRegisteredSyscallTrap, planRegisteredSyscallTrap, h.length]
  dsimp only
  rw [hfits, refuseIf_congr hbytes]

end

end Planned

end Patched

/-! ### Runs -/

section Runs

variable {codeBase : GuestAddress} {code buffer : List UInt8}
  {applied : Set RegisteredSyscallTrapSite} {sites order : List RegisteredSyscallTrapSite}

/-- The sites are those of planned traps. -/
def AllPlanned (codeBase : GuestAddress) (code : List UInt8)
    (sites : List RegisteredSyscallTrapSite) : Prop :=
  ∀ site ∈ sites, ∃ guestRip, planRegisteredSyscallTrap codeBase code guestRip = .ok site

theorem AllPlanned.plannedSite (h : AllPlanned codeBase code sites)
    {site : RegisteredSyscallTrapSite} (hsite : site ∈ sites) :
    PlannedSite codeBase code site := by
  obtain ⟨guestRip, hplan⟩ := h site hsite
  exact (plannedSite_of_plan hplan).1

theorem mem_sites_of_applied (hsub : ∀ site ∈ applied, site ∈ sites) {step : TrapStep}
    (hstep : step.site ∈ sites) :
    ∀ site ∈ step.applied applied, site ∈ sites := by
  cases step with
  | apply site =>
    rintro other (rfl | hother)
    · exact hstep
    · exact hsub other hother
  | restore site => exact fun other hother => hsub other hother.1

variable (hplanned : AllPlanned codeBase code sites)
include hplanned

section

variable (h : Patched code applied buffer) (hsub : ∀ site ∈ applied, site ∈ sites)

include h hsub

/-- **What a step does** to the buffer is what it does to the set of applied sites. -/
theorem patched_run {step : TrapStep} (hstep : step.site ∈ sites) :
    Patched code (step.applied applied) (step.run buffer).2 := by
  have hall : ∀ site ∈ applied, PlannedSite codeBase code site :=
    fun site hsite => hplanned.plannedSite (hsub site hsite)
  cases step with
  | apply site =>
    by_cases hsite : site ∈ applied
    · rw [TrapStep.run, h.apply_again hall hsite, TrapStep.applied, Set.insert_eq_of_mem hsite]
      exact h
    · exact (h.apply hall (hplanned.plannedSite hstep) hsite).2
  | restore site =>
    by_cases hsite : site ∈ applied
    · exact (h.restore hall hsite).2
    · have hmem : site ∈ sites := hstep
      rw [TrapStep.run, h.restore_again hall (hplanned.plannedSite hmem) hsite, TrapStep.applied,
        Set.sdiff_singleton_eq_self hsite]
      exact h

/-- **What a run does.** -/
theorem patched_runTrapSteps {steps : List TrapStep} (hsteps : ∀ step ∈ steps, step.site ∈ sites) :
    Patched code (steps.foldl TrapStep.applied applied) (runTrapSteps buffer steps).2 ∧
      ∀ site ∈ steps.foldl TrapStep.applied applied, site ∈ sites := by
  induction steps generalizing applied buffer with
  | nil => exact ⟨h, hsub⟩
  | cons step steps ih =>
    rw [List.forall_mem_cons] at hsteps
    exact ih (patched_run hplanned h hsub hsteps.1) (mem_sites_of_applied hsub hsteps.1) hsteps.2

/-- Applying sites one after another, none of them applied before. -/
theorem runTrapSteps_apply (horder : order.Nodup)
    (hmem : ∀ site ∈ order, site ∈ sites ∧ site ∉ applied) :
    (runTrapSteps buffer (order.map .apply)).1 = order.map fun _ => .ok true := by
  induction order generalizing applied buffer with
  | nil => rfl
  | cons site order ih =>
    rw [List.forall_mem_cons] at hmem
    rw [List.nodup_cons] at horder
    obtain ⟨⟨hsite, hnot⟩, hrest⟩ := hmem
    have hall : ∀ site ∈ applied, PlannedSite codeBase code site :=
      fun site hsite => hplanned.plannedSite (hsub site hsite)
    obtain ⟨hresult, hpatched⟩ := h.apply hall (hplanned.plannedSite hsite) hnot
    rw [List.map_cons, runTrapSteps, TrapStep.run, hresult, List.map_cons]
    refine congrArg _ (ih hpatched ?_ horder.2 fun other hother => ⟨(hrest other hother).1, ?_⟩)
    · rintro other (rfl | hother)
      · exact hsite
      · exact hsub other hother
    · rintro (rfl | hother')
      · exact horder.1 hother
      · exact (hrest other hother).2 hother'

/-- Restoring sites one after another, all of them applied. -/
theorem runTrapSteps_restore (horder : order.Nodup) (hmem : ∀ site ∈ order, site ∈ applied) :
    (runTrapSteps buffer (order.map .restore)).1 = order.map fun _ => .ok true := by
  induction order generalizing applied buffer with
  | nil => rfl
  | cons site order ih =>
    rw [List.forall_mem_cons] at hmem
    rw [List.nodup_cons] at horder
    have hall : ∀ site ∈ applied, PlannedSite codeBase code site :=
      fun site hsite => hplanned.plannedSite (hsub site hsite)
    obtain ⟨hresult, hpatched⟩ := h.restore hall hmem.1
    rw [List.map_cons, runTrapSteps, TrapStep.run, hresult, List.map_cons]
    refine congrArg _ (ih hpatched (fun other hother => hsub other hother.1) horder.2
      fun other hother => ⟨hmem.2 other hother, ?_⟩)
    rintro rfl
    exact horder.1 hother

end

end Runs

theorem foldl_applied_apply (order : List RegisteredSyscallTrapSite)
    (before : Set RegisteredSyscallTrapSite) :
    (order.map .apply).foldl TrapStep.applied before = before ∪ {site | site ∈ order} := by
  induction order generalizing before with
  | nil => simp
  | cons site order ih =>
    rw [List.map_cons, List.foldl_cons, ih]
    ext other
    simp only [TrapStep.applied, Set.mem_union, Set.mem_insert_iff, Set.mem_ofPred_eq,
      List.mem_cons]
    tauto

theorem foldl_applied_restore (order : List RegisteredSyscallTrapSite)
    (before : Set RegisteredSyscallTrapSite) :
    (order.map .restore).foldl TrapStep.applied before = before \ {site | site ∈ order} := by
  induction order generalizing before with
  | nil =>
    ext other
    simp
  | cons site order ih =>
    rw [List.map_cons, List.foldl_cons, ih]
    ext other
    simp only [TrapStep.applied, Set.mem_sdiff, Set.mem_singleton_iff, Set.mem_ofPred_eq,
      List.mem_cons]
    tauto

/-- **Syscall traps commute and undo.** The sites that were planned on a buffer do not overlap.
Applied in any order they make one buffer, with `UD2` at exactly these sites, and restored in any
order they give back the original. After any steps a site can be applied if it is not, and restored
if it is, and the other way round it is refused and nothing changes; and an address that is not that
of an applied site is planned as on the original buffer. -/
theorem registeredSyscallTraps_commute {codeBase : GuestAddress} {code : List UInt8}
    {sites : List RegisteredSyscallTrapSite} (hplanned : AllPlanned codeBase code sites)
    (hnodup : sites.Nodup) :
    (∀ site ∈ sites, ∀ site' ∈ sites, site ≠ site' → ∀ i, ¬ (site.Covers i ∧ site'.Covers i)) ∧
    (∃ patched, Patched code {site | site ∈ sites} patched ∧
      (∀ order : List RegisteredSyscallTrapSite, order.Perm sites →
        runTrapSteps code (order.map .apply) = (order.map fun _ => .ok true, patched)) ∧
      ∀ order : List RegisteredSyscallTrapSite, order.Perm sites →
        runTrapSteps patched (order.map .restore) = (order.map fun _ => .ok true, code)) ∧
    ∀ steps, (∀ step ∈ steps, step.site ∈ sites) → ∀ buffer, (runTrapSteps code steps).2 = buffer →
      Patched code (appliedAfter steps) buffer ∧
      (∀ site ∈ sites, site ∉ appliedAfter steps → (applyRegisteredSyscallTrap buffer site).1 =
        .ok true ∧ restoreRegisteredSyscallTrap buffer site =
        (.error ⟨.unexpectedTrapBytes, site.codeByteOffset⟩, buffer)) ∧
      (∀ site ∈ appliedAfter steps, (restoreRegisteredSyscallTrap buffer site).1 = .ok true ∧
        applyRegisteredSyscallTrap buffer site =
          (.error ⟨.unexpectedOriginalBytes, site.codeByteOffset⟩, buffer)) ∧
      ∀ guestRip, (∀ site ∈ appliedAfter steps, registeredSyscallTrapMatchesRip site guestRip =
        false) →
        planRegisteredSyscallTrap codeBase buffer guestRip =
          planRegisteredSyscallTrap codeBase code guestRip := by
  refine ⟨fun site hsite site' hsite' hne i =>
    (hplanned.plannedSite hsite).disjoint (hplanned.plannedSite hsite') hne, ?_, ?_⟩
  · have happly : ∀ order : List RegisteredSyscallTrapSite, order.Perm sites →
      (runTrapSteps code (order.map .apply)).1 = (order.map fun _ => .ok true) ∧
        Patched code {site | site ∈ sites} (runTrapSteps code (order.map .apply)).2 := by
      intro order hperm
      have hmem : ∀ site ∈ order, site ∈ sites := fun site hsite => hperm.mem_iff.mp hsite
      have hsteps : ∀ step ∈ order.map TrapStep.apply, step.site ∈ sites := by
        rintro step hstep
        obtain ⟨site, hsite, rfl⟩ := List.mem_map.mp hstep
        exact hmem site hsite
      have hset : {site | site ∈ order} = {site | site ∈ sites} := Set.ext fun site => hperm.mem_iff
      have hrun := (patched_runTrapSteps hplanned (patched_empty code) (by simp) hsteps).1
      rw [foldl_applied_apply, Set.empty_union, hset] at hrun
      exact ⟨runTrapSteps_apply hplanned (patched_empty code) (by simp) (hperm.nodup_iff.mpr hnodup)
        fun site hsite => ⟨hmem site hsite, by simp⟩, hrun⟩
    obtain ⟨-, hpatched⟩ := happly sites (List.Perm.refl _)
    refine ⟨_, hpatched, fun order hperm => ?_, fun order hperm => ?_⟩
    · obtain ⟨hresults, hpatched'⟩ := happly order hperm
      exact Prod.ext hresults (hpatched'.unique hpatched)
    · have hmem : ∀ site ∈ order, site ∈ sites := fun site hsite => hperm.mem_iff.mp hsite
      have hsteps : ∀ step ∈ order.map TrapStep.restore, step.site ∈ sites := by
        rintro step hstep
        obtain ⟨site, hsite, rfl⟩ := List.mem_map.mp hstep
        exact hmem site hsite
      have hset : {site | site ∈ order} = {site | site ∈ sites} := Set.ext fun site => hperm.mem_iff
      have hrun := (patched_runTrapSteps hplanned hpatched (fun _ hsite => hsite) hsteps).1
      rw [foldl_applied_restore, hset, Set.sdiff_self] at hrun
      exact Prod.ext (runTrapSteps_restore hplanned hpatched (fun _ hsite => hsite)
        (hperm.nodup_iff.mpr hnodup) hmem)
        (hrun.unique (patched_empty code))
  · rintro steps hsteps _ rfl
    obtain ⟨hpatched, hsub⟩ := patched_runTrapSteps hplanned (patched_empty code) (by simp) hsteps
    have hall : ∀ site ∈ appliedAfter steps, PlannedSite codeBase code site := fun site hsite =>
      hplanned.plannedSite (hsub site hsite)
    refine ⟨hpatched, fun site hsite hnot => ⟨?_, ?_⟩, fun site hsite => ⟨?_, ?_⟩,
      fun guestRip hnot => ?_⟩
    · exact (hpatched.apply hall (hplanned.plannedSite hsite) hnot).1
    · exact hpatched.restore_again hall (hplanned.plannedSite hsite) hnot
    · exact (hpatched.restore hall hsite).1
    · exact hpatched.apply_again hall hsite
    · exact hpatched.plan hall hnot

/-- Two sites side by side, `0f 05 0f 05` at `0x1000`. Applied from behind they give the same bytes
and are restored; a second application is refused; and while the first one is applied, the second
is planned as before. -/
theorem registeredSyscallTraps_commute_two :
    let code : List UInt8 := [0x0f, 0x05, 0x0f, 0x05]
    let first : RegisteredSyscallTrapSite := ⟨⟨0x1000⟩, 0, kX86SyscallBytes, kX86Ud2Bytes⟩
    let second : RegisteredSyscallTrapSite := ⟨⟨0x1002⟩, 2, kX86SyscallBytes, kX86Ud2Bytes⟩
    runTrapSteps code [.apply second, .apply first] =
        ([.ok true, .ok true], [0x0f, 0x0b, 0x0f, 0x0b]) ∧
      runTrapSteps [0x0f, 0x0b, 0x0f, 0x0b] [.restore second, .restore first] =
        ([.ok true, .ok true], code) ∧
      applyRegisteredSyscallTrap [0x0f, 0x0b, 0x0f, 0x05] first =
        (.error ⟨.unexpectedOriginalBytes, 0⟩, [0x0f, 0x0b, 0x0f, 0x05]) ∧
      planRegisteredSyscallTrap ⟨0x1000⟩ [0x0f, 0x0b, 0x0f, 0x05] ⟨0x1002⟩ = .ok second := by
  intro code first second
  have hplanned : AllPlanned ⟨0x1000⟩ code [first, second] := by
    intro site hsite
    simp only [List.mem_cons, List.not_mem_nil, or_false] at hsite
    obtain hfirst | hsecond := hsite
    · exact ⟨⟨0x1000⟩, by rw [hfirst]; decide⟩
    · exact ⟨⟨0x1002⟩, by rw [hsecond]; decide⟩
  obtain ⟨-, ⟨patched, -, happly, hrestore⟩, hsteps⟩ :=
    registeredSyscallTraps_commute hplanned (by decide)
  have hreversed : [second, first].Perm [first, second] := List.Perm.swap first second []
  have hbytes : [0x0f, 0x0b, 0x0f, 0x0b] = patched :=
    congrArg Prod.snd (happly _ (List.Perm.refl _))
  rw [← hbytes] at happly hrestore
  obtain ⟨-, -, hagain, hplan⟩ := hsteps [.apply first] (by simp [TrapStep.site]) _ rfl
  have hfirst : appliedAfter [.apply first] = {first} := by
    simp [appliedAfter, TrapStep.applied]
  rw [hfirst] at hagain hplan
  refine ⟨happly _ hreversed, hrestore _ hreversed, (hagain first rfl).2, ?_⟩
  refine (hplan ⟨0x1002⟩ ?_).trans (by decide)
  rintro site rfl
  rfl

end Astraea.Execution
