import Astraea.Base.Sweep
import Astraea.Memory.Mapping

/-!
# The execution memory plan

The host protects memory by pages, the guest asks for permissions by bytes.
`build_execution_memory_plan` rounds every mapping and the stack out to pages, cuts
the pages at the ends of these spans, and gives every run of pages between two cuts
the union of the permissions of the spans over it. A page that would be writable and
executable is refused.

Page numbers are natural numbers; only the page count of a region can pass `2 ^ 64`,
and there the model wraps as the source does. Host allocation does not fail here.

`buildExecutionMemoryPlan_exact` says what an accepted plan is and when one is refused
for a page that would be both writable and executable. `guest_write_owned_by_plan`, the
second reader of a plan, asks whether a range may be written at all.
-/

namespace Astraea.Execution

open Astraea.Base Astraea.Memory

/-- What a region is made of: a mapping or the initial stack. -/
inductive ExecutionMemorySourceKind where
  | mapping
  | initialStack
  deriving DecidableEq

/-- What a prepared page is there for. -/
structure ExecutionMemorySource where
  kind : ExecutionMemorySourceKind
  sourceIndex : ℕ
  deriving DecidableEq

/-- A page-aligned region with one set of permissions, and its sources. -/
structure ExecutionMemoryRegion where
  range : GuestRange
  permissions : GuestPermissions
  sources : List ExecutionMemorySource
  deriving DecidableEq

/-- The regions of a process, in order. -/
structure ExecutionMemoryPlan where
  hostPageSize : UInt64
  regions : List ExecutionMemoryRegion
  deriving DecidableEq

/-- The mappings and the stack that are to be planned. -/
structure ExecutionMemoryPlanRequest where
  mappings : List MappingIntent
  stackStorage : GuestRange
  entryPoint : GuestAddress
  stackPointer : GuestAddress
  hostPageSize : UInt64
  /-- The intents are objects in host memory, so there are fewer of them than half of its bytes. -/
  inMemory : mappings.length + 1 ≤ (2 ^ 64 - 1) / 2

/-- Why a plan is refused. -/
inductive ExecutionPlanErrorCode where
  | invalidHostPageSize
  | hostPageArithmeticOverflow
  | mixedWriteExecutePage
  | entryPointUnmapped
  | entryPointNotExecutable
  | stackPointerUnmapped
  | permissionConstructionFailure
  | hostAllocationFailure
  deriving DecidableEq

/-- A plan that is refused, with the source it is about. -/
structure ExecutionPlanError where
  code : ExecutionPlanErrorCode
  guestAddress : Option GuestAddress := none
  deriving DecidableEq

/-- The pages a mapping or the stack touches, from the first to the last. -/
structure PageSpan where
  firstPage : ℕ
  lastPage : ℕ
  permissionBits : UInt8
  source : ExecutionMemorySource
  deriving DecidableEq

/-- The address of a page. -/
def pageAddress (pageSize page : ℕ) : GuestAddress := ⟨UInt64.ofNat (page * pageSize)⟩

/-- `to_page_span`. The range does not wrap, so its last byte is a natural number. -/
def toPageSpan (range : GuestRange) (permissionBits : UInt8) (source : ExecutionMemorySource)
    (pageSize : ℕ) :
    Except ExecutionPlanError PageSpan := do
  refuseIf (range.empty = true) ⟨.hostPageArithmeticOverflow, range.base⟩
  let base := range.base.toNat
  let last := base + (range.size.toNat - 1)
  return ⟨base / pageSize, last / pageSize, permissionBits, source⟩

/-- `span_covers`. -/
def spanCovers (span : PageSpan) (page : ℕ) : Bool :=
  decide (span.firstPage ≤ page) && decide (page ≤ span.lastPage)

/-- The order of the enumeration. -/
def ExecutionMemorySourceKind.rank : ExecutionMemorySourceKind → ℕ
  | .mapping => 0
  | .initialStack => 1

/-- `source_less`. -/
def sourceLess (lhs rhs : ExecutionMemorySource) : Bool :=
  if lhs.kind ≠ rhs.kind then decide (lhs.kind.rank < rhs.kind.rank)
  else decide (lhs.sourceIndex < rhs.sourceIndex)

/-- The sources of a region, sorted and without repetitions. -/
def sortSources (sources : List ExecutionMemorySource) : List ExecutionMemorySource :=
  uniqueAdjacent (sources.mergeSort fun lhs rhs => !sourceLess rhs lhs)

/-- The spans of the mappings; empty mappings have none. -/
def mappingSpans (pageSize : ℕ) : List MappingIntent → Except ExecutionPlanError (List PageSpan)
  | [] => .ok []
  | mapping :: mappings =>
    if mapping.range.empty = true then mappingSpans pageSize mappings
    else do
      let span ← toPageSpan mapping.range mapping.permissions.bits
        ⟨.mapping, mapping.sourceIndex⟩ pageSize
      let spans ← mappingSpans pageSize mappings
      return span :: spans

/-- The span of the stack, which the guest may read and write. -/
def stackSpans (pageSize : ℕ) (stackStorage : GuestRange) :
    Except ExecutionPlanError (List PageSpan) :=
  if stackStorage.empty = true then .ok []
  else do
    let permissions ← orRefuse
      (GuestPermissions.checkedFromBits (GuestPermission.read.mask ||| GuestPermission.write.mask))
      (⟨.permissionConstructionFailure, none⟩ : ExecutionPlanError)
    let span ← toPageSpan stackStorage permissions.bits ⟨.initialStack, 0⟩ pageSize
    return [span]

/-- The number of the last page of the address space. -/
def maxPageIndex (pageSize : ℕ) : ℕ := (2 ^ 64 - 1) / pageSize

/-- The pages at which the plan is cut: where a span begins and where one has ended. -/
def boundaries (pageSize : ℕ) (spans : List PageSpan) : List ℕ :=
  uniqueAdjacent <| List.mergeSort
    (spans.flatMap fun span =>
      span.firstPage :: if span.lastPage < maxPageIndex pageSize then [span.lastPage + 1] else [])
    fun a b => decide (a ≤ b)

/-- The region of the pages `firstPage .. lastPage`, if any span is over them. -/
def regionAt (pageSize : ℕ) (spans : List PageSpan) (firstPage lastPage : ℕ) :
    Except ExecutionPlanError (Option ExecutionMemoryRegion) :=
  let covering := spans.filter fun span => spanCovers span firstPage
  let permissionBits := covering.foldl (fun bits span => bits ||| span.permissionBits) 0
  let sources := covering.map PageSpan.source
  if sources.isEmpty = true then .ok none
  else do
    refuseIf (permissionBits &&& GuestPermission.write.mask ≠ 0 ∧
      permissionBits &&& GuestPermission.execute.mask ≠ 0)
      ⟨.mixedWriteExecutePage, pageAddress pageSize firstPage⟩
    let pageCount := (lastPage - firstPage + 1) % 2 ^ 64
    refuseIf (pageCount > (2 ^ 64 - 1) / pageSize)
      ⟨.hostPageArithmeticOverflow, pageAddress pageSize firstPage⟩
    let range ← (GuestRange.create (pageAddress pageSize firstPage)
      ⟨UInt64.ofNat (pageCount * pageSize)⟩).mapError
      fun _ => (⟨.hostPageArithmeticOverflow, pageAddress pageSize firstPage⟩ : ExecutionPlanError)
    let permissions ← orRefuse (GuestPermissions.checkedFromBits permissionBits)
      (⟨.permissionConstructionFailure, pageAddress pageSize firstPage⟩ : ExecutionPlanError)
    return some ⟨range, permissions, sortSources sources⟩

/-- The loop over the boundaries: each begins a region that ends before the next. -/
def planRegions (pageSize : ℕ) (spans : List PageSpan) :
    List ℕ → Except ExecutionPlanError (List ExecutionMemoryRegion)
  | [] => .ok []
  | firstPage :: rest => do
    let region ← regionAt pageSize spans firstPage (segmentEnd (maxPageIndex pageSize) rest)
    let regions ← planRegions pageSize spans rest
    return region.toList ++ regions

/-- `build_execution_memory_plan`. -/
def buildExecutionMemoryPlan (request : ExecutionMemoryPlanRequest) :
    Except ExecutionPlanError ExecutionMemoryPlan := do
  let pageSize := request.hostPageSize
  refuseIf (isPowerOfTwo pageSize = false) ⟨.invalidHostPageSize, none⟩
  let mapped ← mappingSpans pageSize.toNat request.mappings
  let stack ← stackSpans pageSize.toNat request.stackStorage
  let spans := mapped ++ stack
  refuseIf (spans.length > (2 ^ 64 - 1) / 2) ⟨.hostAllocationFailure, none⟩
  let regions ← planRegions pageSize.toNat spans (boundaries pageSize.toNat spans)
  let entryMappings :=
    request.mappings.filter fun mapping => mapping.range.contains request.entryPoint
  refuseIf (entryMappings.isEmpty = true) ⟨.entryPointUnmapped, request.entryPoint⟩
  refuseIf (entryMappings.any (fun mapping => mapping.permissions.has .execute) = false)
    ⟨.entryPointNotExecutable, request.entryPoint⟩
  refuseIf (request.stackStorage.contains request.stackPointer = false)
    ⟨.stackPointerUnmapped, request.stackPointer⟩
  return ⟨pageSize, regions⟩

/-! ### What the plan is about -/

/-- A range touches a page when one of its bytes lies in it. -/
def TouchesPage (pageSize : ℕ) (range : GuestRange) (page : ℕ) : Prop :=
  ∃ x ∈ range, x / pageSize = page

/-- The permissions of the stack. -/
def stackPermissions : GuestPermissions :=
  ⟨GuestPermission.read.mask ||| GuestPermission.write.mask, by decide⟩

/-- The mappings and the stack that touch a page, each with its permissions. -/
inductive PageSource (request : ExecutionMemoryPlanRequest) (page : ℕ) :
    ExecutionMemorySource → GuestPermissions → Prop
  | mapping {mapping : MappingIntent} (hmem : mapping ∈ request.mappings)
      (htouch : TouchesPage request.hostPageSize.toNat mapping.range page) :
      PageSource request page ⟨.mapping, mapping.sourceIndex⟩ mapping.permissions
  | stack (htouch : TouchesPage request.hostPageSize.toNat request.stackStorage page) :
      PageSource request page ⟨.initialStack, 0⟩ stackPermissions

/-- Some mapping or the stack touches the page and has the permission. -/
def PageAllows (request : ExecutionMemoryPlanRequest) (page : ℕ) (permission : GuestPermission) :
    Prop :=
  ∃ source permissions, PageSource request page source permissions ∧
    permissions.has permission = true

/-- The plan is exactly what the request asks for, page by page. -/
structure PlanExact (request : ExecutionMemoryPlanRequest) (plan : ExecutionMemoryPlan) : Prop where
  pageSize : plan.hostPageSize = request.hostPageSize
  /-- Regions begin at a page and are whole pages, at least one. -/
  aligned : ∀ region ∈ plan.regions, request.hostPageSize.toNat ∣ region.range.base.toNat ∧
    request.hostPageSize.toNat ∣ region.range.size.toNat ∧ 0 < region.range.size.toNat
  /-- Regions are sorted and no two of them share an address. -/
  sorted : plan.regions.Pairwise fun a b => a.range.last ≤ b.range.base.toNat
  /-- An address is covered when something touches its page. -/
  covered : ∀ x < 2 ^ 64, (∃ region ∈ plan.regions, x ∈ region.range) ↔
    ∃ source permissions, PageSource request (x / request.hostPageSize.toNat) source permissions
  /-- A region has the permissions of what touches each of its pages, and no others. -/
  permissions : ∀ region ∈ plan.regions, ∀ x ∈ region.range, ∀ permission,
    region.permissions.has permission = true ↔
      PageAllows request (x / request.hostPageSize.toNat) permission
  /-- A region records what touches each of its pages, and nothing else. -/
  sources : ∀ region ∈ plan.regions, ∀ x ∈ region.range, ∀ source,
    source ∈ region.sources ↔
      ∃ permissions, PageSource request (x / request.hostPageSize.toNat) source permissions
  sourcesSorted : ∀ region ∈ plan.regions, region.sources.Pairwise fun a b => sourceLess a b = true
  noWriteExecute : ∀ region ∈ plan.regions,
    ¬ (region.permissions.has .write = true ∧ region.permissions.has .execute = true)

/-! ### Spans -/

/-- The span of a range that is not empty. -/
def spanOf (pageSize : ℕ) (range : GuestRange) (permissionBits : UInt8)
    (source : ExecutionMemorySource) : PageSpan :=
  ⟨range.base.toNat / pageSize, (range.base.toNat + (range.size.toNat - 1)) / pageSize,
    permissionBits, source⟩

/-- The spans of a request. -/
def requestSpans (request : ExecutionMemoryPlanRequest) : List PageSpan :=
  (request.mappings.filter fun mapping => !mapping.range.empty).map (fun mapping =>
    spanOf request.hostPageSize.toNat mapping.range mapping.permissions.bits
      ⟨.mapping, mapping.sourceIndex⟩) ++
  if request.stackStorage.empty = true then []
  else [spanOf request.hostPageSize.toNat request.stackStorage stackPermissions.bits
    ⟨.initialStack, 0⟩]

variable {range : GuestRange} {span : PageSpan} {page : ℕ} {bits : UInt8}
  {source : ExecutionMemorySource} {permission : GuestPermission}
  {regions : List ExecutionMemoryRegion} {plan : ExecutionMemoryPlan}

theorem toPageSpan_of_nonempty (h : range.empty = false) (bits : UInt8)
    (source : ExecutionMemorySource) (pageSize : ℕ) :
    toPageSpan range bits source pageSize = .ok (spanOf pageSize range bits source) := by
  simp only [toPageSpan, bind_eq_ok, refuseIf_eq_ok, pure_eq_ok]
  exact ⟨(), by simp [h], rfl⟩

theorem mappingSpans_eq (pageSize : ℕ) (mappings : List MappingIntent) :
    mappingSpans pageSize mappings =
      .ok ((mappings.filter fun mapping => !mapping.range.empty).map fun mapping =>
      spanOf pageSize mapping.range mapping.permissions.bits ⟨.mapping, mapping.sourceIndex⟩) := by
  induction mappings with
  | nil => rfl
  | cons mapping mappings ih =>
    rw [mappingSpans]
    split_ifs with h
    · rw [ih, List.filter_cons_of_neg (by simp [h])]
    · rw [Bool.not_eq_true] at h
      rw [toPageSpan_of_nonempty h, ih, List.filter_cons_of_pos (by simp [h])]
      rfl

theorem stackSpans_eq (pageSize : ℕ) (stackStorage : GuestRange) :
    stackSpans pageSize stackStorage = .ok (if stackStorage.empty = true then []
      else [spanOf pageSize stackStorage stackPermissions.bits ⟨.initialStack, 0⟩]) := by
  unfold stackSpans
  split_ifs with h
  · rfl
  · rw [Bool.not_eq_true] at h
    simp only [bind_eq_ok, orRefuse_eq_ok, pure_eq_ok]
    exact ⟨stackPermissions, GuestPermissions.checkedFromBits_of_lt _, _,
      toPageSpan_of_nonempty h _ _ _, rfl⟩

theorem length_requestSpans (request : ExecutionMemoryPlanRequest) :
    (requestSpans request).length ≤ (2 ^ 64 - 1) / 2 := by
  refine le_trans ?_ request.inMemory
  rw [requestSpans, List.length_append, List.length_map]
  refine Nat.add_le_add (List.length_filter_le _ _) ?_
  split_ifs <;> simp

/-- What is left of the construction once the spans are there. -/
theorem buildExecutionMemoryPlan_eq {request : ExecutionMemoryPlanRequest}
    (hpow : isPowerOfTwo request.hostPageSize = true) :
    buildExecutionMemoryPlan request = do
      let regions ← planRegions request.hostPageSize.toNat (requestSpans request)
        (boundaries request.hostPageSize.toNat (requestSpans request))
      let entryMappings :=
        request.mappings.filter fun mapping => mapping.range.contains request.entryPoint
      refuseIf (entryMappings.isEmpty = true) ⟨.entryPointUnmapped, request.entryPoint⟩
      refuseIf (entryMappings.any (fun mapping => mapping.permissions.has .execute) = false)
        ⟨.entryPointNotExecutable, request.entryPoint⟩
      refuseIf (request.stackStorage.contains request.stackPointer = false)
        ⟨.stackPointerUnmapped, request.stackPointer⟩
      return ⟨request.hostPageSize, regions⟩ := by
  have hlen := length_requestSpans request
  have hvalid : refuseIf (isPowerOfTwo request.hostPageSize = false)
      (⟨.invalidHostPageSize, none⟩ : ExecutionPlanError) = .ok () := by simp [hpow]
  have hfits : refuseIf ((requestSpans request).length > (2 ^ 64 - 1) / 2)
      (⟨.hostAllocationFailure, none⟩ : ExecutionPlanError) = .ok () := by
    rw [refuseIf_eq_ok]
    omega
  rw [requestSpans] at *
  simp only [buildExecutionMemoryPlan, mappingSpans_eq, stackSpans_eq]
  rw [hvalid]
  show (refuseIf _ _ >>= fun _ => _) = _
  rw [hfits]
  rfl

theorem spanCovers_iff :
    spanCovers span page = true ↔ span.firstPage ≤ page ∧ page ≤ span.lastPage := by
  simp [spanCovers]

/-- The span of a range covers the pages the range touches. -/
theorem spanCovers_spanOf_iff {pageSize : ℕ} (hp : 0 < pageSize) (hne : range.empty = false) :
    spanCovers (spanOf pageSize range bits source) page = true ↔
    TouchesPage pageSize range page := by
  have hsize : range.size.toNat ≠ 0 := fun h => by
    rw [GuestRange.empty_iff.mpr h] at hne
    cases hne
  simp only [spanCovers_iff, spanOf, TouchesPage, GuestRange.mem_def, GuestRange.last]
  constructor
  · rintro ⟨h1, h2⟩
    have hlast : page * pageSize ≤ range.base.toNat + (range.size.toNat - 1) :=
      (Nat.le_div_iff_mul_le hp).mp h2
    by_cases hle : range.base.toNat ≤ page * pageSize
    · exact ⟨page * pageSize, by omega, Nat.mul_div_cancel _ hp⟩
    · refine ⟨range.base.toNat, by omega, le_antisymm h1 ?_⟩
      exact (Nat.le_div_iff_mul_le hp).mpr (by omega)
  · rintro ⟨x, ⟨h1, h2⟩, rfl⟩
    exact ⟨Nat.div_le_div_right h1, Nat.div_le_div_right (by omega)⟩

/-- The sources of a page are those of the spans over it. -/
theorem pageSource_iff {request : ExecutionMemoryPlanRequest} (hp : 0 < request.hostPageSize.toNat)
    {permissions : GuestPermissions} :
    PageSource request page source permissions ↔
      ∃ span ∈ requestSpans request, spanCovers span page = true ∧ span.source = source ∧
        span.permissionBits = permissions.bits := by
  have hne : ∀ {range : GuestRange}, TouchesPage request.hostPageSize.toNat range page →
      range.empty = false := by
    rintro range ⟨x, ⟨h1, h2⟩, -⟩
    rw [← Bool.not_eq_true, GuestRange.empty_iff]
    rw [GuestRange.last] at h2
    omega
  rw [requestSpans]
  constructor
  · rintro (⟨hmem, htouch⟩ | ⟨htouch⟩)
    · refine ⟨_, List.mem_append_left _ (List.mem_map_of_mem (List.mem_filter.mpr ⟨hmem, ?_⟩)),
        (spanCovers_spanOf_iff hp (hne htouch)).mpr htouch, rfl, rfl⟩
      rw [hne htouch, Bool.not_false]
    · refine ⟨_, List.mem_append_right _ ?_, (spanCovers_spanOf_iff hp (hne htouch)).mpr htouch,
        rfl, rfl⟩
      rw [if_neg (by rw [hne htouch]; exact Bool.false_ne_true)]
      exact List.mem_singleton_self _
  · rintro ⟨span, hspan, hcov, rfl, hbits⟩
    have hperm : ∀ p : GuestPermissions, p.bits = permissions.bits → p = permissions := by
      rintro ⟨_, _⟩ h
      cases permissions
      simpa using h
    rcases List.mem_append.mp hspan with hspan | hspan
    · obtain ⟨mapping, hmem, rfl⟩ := List.mem_map.mp hspan
      obtain ⟨hmem, hempty⟩ := List.mem_filter.mp hmem
      rw [Bool.not_eq_true'] at hempty
      rw [← hperm mapping.permissions hbits]
      exact .mapping hmem ((spanCovers_spanOf_iff hp hempty).mp hcov)
    · split_ifs at hspan with hempty
      · cases hspan
      · rw [Bool.not_eq_true] at hempty
        rw [List.mem_singleton] at hspan
        subst hspan
        rw [← hperm stackPermissions hbits]
        exact .stack ((spanCovers_spanOf_iff hp hempty).mp hcov)

/-- What the sweep needs to know about a span. -/
structure SpanFits (pageSize : ℕ) (span : PageSpan) : Prop where
  last_le : span.lastPage ≤ maxPageIndex pageSize
  /-- Pages of one byte: the span is not the whole address space. -/
  proper : ¬ (pageSize = 1 ∧ span.firstPage = 0 ∧ span.lastPage = maxPageIndex pageSize)
  known : span.permissionBits.toNat < 8

theorem spanFits_spanOf {pageSize : ℕ} {permissions : GuestPermissions} :
    SpanFits pageSize (spanOf pageSize range permissions.bits source) := by
  have hlast := range.last_le
  have hsize := range.size.toNat_lt
  have hbase := range.base.toNat_lt
  rw [GuestRange.last] at hlast
  refine ⟨Nat.div_le_div_right ?_, ?_, permissions.known⟩
  · omega
  · rintro ⟨rfl, h1, h2⟩
    simp only [spanOf, maxPageIndex, Nat.div_one] at h1 h2
    omega

theorem spanFits_of_mem {request : ExecutionMemoryPlanRequest} (h : span ∈ requestSpans request) :
    SpanFits request.hostPageSize.toNat span := by
  rw [requestSpans] at h
  rcases List.mem_append.mp h with h | h
  · obtain ⟨mapping, -, rfl⟩ := List.mem_map.mp h
    exact spanFits_spanOf
  · split_ifs at h
    · cases h
    · rw [List.mem_singleton] at h
      subst h
      exact spanFits_spanOf

/-! ### Boundaries -/

section Boundaries

variable {pageSize : ℕ} {spans : List PageSpan}

theorem mem_boundaries :
    page ∈ boundaries pageSize spans ↔ ∃ span ∈ spans, page = span.firstPage ∨
      span.lastPage < maxPageIndex pageSize ∧ page = span.lastPage + 1 := by
  rw [boundaries, mem_uniqueAdjacent, List.mem_mergeSort, List.mem_flatMap]
  refine exists_congr fun span => and_congr_right fun _ => ?_
  rw [List.mem_cons]
  split_ifs with h <;> simp [h]

theorem pairwise_boundaries : (boundaries pageSize spans).Pairwise (· < ·) := by
  apply pairwise_uniqueAdjacent
  · exact lt_trans
  · intro a b h1 h2
    omega
  · have hsorted : ∀ l : List ℕ, (l.mergeSort fun a b => decide (a ≤ b)).Pairwise fun a b =>
        decide (a ≤ b) = true := by
      apply List.pairwise_mergeSort
      · intro a b c h1 h2
        rw [decide_eq_true_eq] at *
        exact le_trans h1 h2
      · intro a b
        rw [Bool.or_eq_true, decide_eq_true_eq, decide_eq_true_eq]
        exact le_total a b
    exact (hsorted _).imp fun h => Nat.not_lt.mpr (of_decide_eq_true h)

theorem boundaries_le (hfits : ∀ span ∈ spans, SpanFits pageSize span)
    (hle : ∀ span ∈ spans, span.firstPage ≤ span.lastPage) :
    ∀ page ∈ boundaries pageSize spans, page ≤ maxPageIndex pageSize := by
  intro page hpage
  obtain ⟨span, hspan, rfl | ⟨hlt, rfl⟩⟩ := mem_boundaries.mp hpage
  · exact le_trans (hle span hspan) (hfits span hspan).last_le
  · omega

end Boundaries

/-! ### One region -/

/-- Some span over the page has the permission. -/
def SpansAllow (spans : List PageSpan) (page : ℕ) (permission : GuestPermission) : Prop :=
  ∃ span ∈ spans, spanCovers span page = true ∧
    span.permissionBits.toNat.testBit permission.bit = true

/-- A region that is exactly the pages `firstPage .. lastPage` with what is over the first. -/
structure RegionOf (pageSize : ℕ) (spans : List PageSpan) (firstPage lastPage : ℕ)
    (region : ExecutionMemoryRegion) :
    Prop where
  base : region.range.base.toNat = firstPage * pageSize
  last : region.range.last = (lastPage + 1) * pageSize
  nonempty : ∃ span ∈ spans, spanCovers span firstPage = true
  permissions : ∀ permission, region.permissions.has permission = true ↔
    SpansAllow spans firstPage permission
  sources : ∀ source, source ∈ region.sources ↔ ∃ span ∈ spans, spanCovers span firstPage = true ∧
    span.source = source
  sourcesSorted : region.sources.Pairwise fun a b => sourceLess a b = true

section Region

variable {pageSize : ℕ} {spans : List PageSpan}

theorem testBit_foldl_or {i : ℕ} :
    (spans.foldl (fun bits span => bits ||| span.permissionBits) bits).toNat.testBit i = true ↔
      bits.toNat.testBit i = true ∨ ∃ span ∈ spans, span.permissionBits.toNat.testBit i = true := by
  induction spans generalizing bits with
  | nil => simp
  | cons span spans ih =>
    rw [List.foldl_cons, ih, UInt8.toNat_or, Nat.testBit_or, Bool.or_eq_true, or_assoc]
    simp only [List.mem_cons, exists_eq_or_imp]

theorem foldl_or_lt (hbits : bits.toNat < 8) (h : ∀ span ∈ spans, span.permissionBits.toNat < 8) :
    (spans.foldl (fun bits span => bits ||| span.permissionBits) bits).toNat < 8 := by
  induction spans generalizing bits with
  | nil => exact hbits
  | cons span spans ih =>
    refine ih ?_ fun span' hspan' => h span' (List.mem_cons_of_mem _ hspan')
    rw [UInt8.toNat_or]
    exact Nat.or_lt_two_pow (n := 3) hbits (h span List.mem_cons_self)

theorem testBit_covering :
    ((spans.filter fun span => spanCovers span page).foldl
      (fun bits (span : PageSpan) => bits ||| span.permissionBits)
      (0 : UInt8)).toNat.testBit permission.bit = true ↔ SpansAllow spans page permission := by
  rw [testBit_foldl_or, UInt8.toNat_zero, Nat.zero_testBit]
  simp only [SpansAllow, List.mem_filter, Bool.false_eq_true, false_or, and_assoc]

theorem mem_sortSources {sources : List ExecutionMemorySource} :
    source ∈ sortSources sources ↔ source ∈ sources := by
  rw [sortSources, mem_uniqueAdjacent, List.mem_mergeSort]

theorem pairwise_sortSources (sources : List ExecutionMemorySource) :
    (sortSources sources).Pairwise fun a b => sourceLess a b = true := by
  have hless : ∀ {a b : ExecutionMemorySource}, sourceLess a b = true ↔
      a.kind.rank < b.kind.rank ∨ a.kind.rank = b.kind.rank ∧ a.sourceIndex < b.sourceIndex := by
    rintro ⟨ka, ia⟩ ⟨kb, ib⟩
    cases ka <;> cases kb <;> simp [sourceLess, ExecutionMemorySourceKind.rank]
  apply pairwise_uniqueAdjacent
  · intro a b c hab hbc
    rw [hless] at *
    omega
  · rintro ⟨ka, ia⟩ ⟨kb, ib⟩ h hne
    rw [hless] at *
    cases ka <;> cases kb <;> simp [ExecutionMemorySourceKind.rank] at * <;> omega
  · have hsorted : (sources.mergeSort fun lhs rhs => !sourceLess rhs lhs).Pairwise
        fun a b => (!sourceLess b a) = true := by
      apply List.pairwise_mergeSort
      · intro a b c hab hbc
        rw [Bool.not_eq_true', ← Bool.not_eq_true, hless] at *
        omega
      · intro a b
        rw [Bool.or_eq_true, Bool.not_eq_true', Bool.not_eq_true', ← Bool.not_eq_true,
          ← Bool.not_eq_true, hless, hless]
        omega
    exact hsorted.imp fun h => by rwa [Bool.not_eq_true', ← Bool.not_eq_true] at h

variable (hP : (maxPageIndex pageSize + 1) * pageSize = 2 ^ 64)
  (hfits : ∀ span ∈ spans, SpanFits pageSize span)

include hP in
theorem mul_lt_of_le_maxPageIndex (h : page ≤ maxPageIndex pageSize) :
    page * pageSize < 2 ^ 64 := by
  have hpos : 0 < pageSize := by
    rcases Nat.eq_zero_or_pos pageSize with rfl | h
    · simp at hP
    · exact h
  have := Nat.mul_le_mul_right pageSize h
  rw [Nat.add_mul, Nat.one_mul] at hP
  omega

include hP in
theorem toNat_pageAddress (h : page ≤ maxPageIndex pageSize) :
    (pageAddress pageSize page).toNat = page * pageSize := by
  rw [pageAddress, GuestAddress.toNat_mk, UInt64.toNat_ofNat',
    Nat.mod_eq_of_lt (mul_lt_of_le_maxPageIndex hP h)]

include hP in

/-- The page count of a region does not wrap: only pages of one byte are that many, and no
span is all of those. -/
theorem pageCount_lt (hfit : SpanFits pageSize span) {firstPage lastPage : ℕ}
    (hlast : lastPage ≤ maxPageIndex pageSize) (hcov : spanCovers span firstPage = true)
    (hwhole : lastPage ≤ span.lastPage) : lastPage - firstPage + 1 < 2 ^ 64 := by
  rw [spanCovers_iff] at hcov
  have hle := hfit.last_le
  have hmax : maxPageIndex pageSize ≤ 2 ^ 64 - 1 := Nat.div_le_self _ _
  by_contra hcon
  refine hfit.proper ⟨?_, by omega, by omega⟩
  rw [show maxPageIndex pageSize = 2 ^ 64 - 1 by omega] at hP
  omega

include hP hfits in

/-- What becomes of the pages between two cuts: they have no span, or they are a region, or
they would be writable and executable, or they are the whole address space. -/
theorem regionAt_spec {firstPage lastPage : ℕ} (hle : firstPage ≤ lastPage)
    (hlast : lastPage ≤ maxPageIndex pageSize)
    (hwhole : ∀ span ∈ spans, spanCovers span firstPage = true → lastPage ≤ span.lastPage) :
    (regionAt pageSize spans firstPage lastPage = .ok none ∧
      ∀ span ∈ spans, spanCovers span firstPage = false) ∨
    (∃ region, regionAt pageSize spans firstPage lastPage = .ok (some region) ∧
      RegionOf pageSize spans firstPage lastPage region ∧
      ¬ (SpansAllow spans firstPage .write ∧ SpansAllow spans firstPage .execute)) ∨
    (∃ e, regionAt pageSize spans firstPage lastPage = .error e ∧ e.code = .mixedWriteExecutePage ∧
      SpansAllow spans firstPage .write ∧ SpansAllow spans firstPage .execute) ∨
    (∃ e, regionAt pageSize spans firstPage lastPage = .error e ∧
      e.code = .hostPageArithmeticOverflow ∧ firstPage = 0 ∧ lastPage = maxPageIndex pageSize ∧
    ¬ (SpansAllow spans firstPage .write ∧ SpansAllow spans firstPage .execute)) := by
  unfold regionAt
  dsimp only
  split_ifs with hnone
  · left
    refine ⟨rfl, fun span hspan => ?_⟩
    rw [List.isEmpty_iff, List.map_eq_nil_iff, List.filter_eq_nil_iff] at hnone
    simpa using hnone span hspan
  right
  obtain ⟨above, habove, hcov⟩ : ∃ span ∈ spans, spanCovers span firstPage = true := by
    rw [List.isEmpty_iff, List.map_eq_nil_iff, List.filter_eq_nil_iff] at hnone
    simpa using hnone
  set bits := (spans.filter fun span => spanCovers span firstPage).foldl
    (fun bits (span : PageSpan) => bits ||| span.permissionBits) (0 : UInt8)
  have hallow : ∀ permission : GuestPermission, bits &&& permission.mask ≠ 0 ↔
      SpansAllow spans firstPage permission :=
    fun permission => and_mask_ne_zero.trans testBit_covering
  by_cases hmixed : SpansAllow spans firstPage .write ∧ SpansAllow spans firstPage .execute
  · right; left
    refine ⟨⟨.mixedWriteExecutePage, pageAddress pageSize firstPage⟩, ?_, rfl, hmixed⟩
    refine bind_eq_error.mpr (.inl (refuseIf_eq_error.mpr ⟨?_, rfl⟩))
    rwa [hallow, hallow]
  have hcount := pageCount_lt hP (hfits above habove) hlast hcov (hwhole above habove hcov)
  by_cases hover' : lastPage - firstPage + 1 > maxPageIndex pageSize
  · right; right
    refine ⟨⟨.hostPageArithmeticOverflow, pageAddress pageSize firstPage⟩, ?_,
      rfl, by omega, by omega, hmixed⟩
    refine bind_eq_error.mpr (.inr ⟨(), refuseIf_eq_ok.mpr ?_,
      bind_eq_error.mpr (.inl (refuseIf_eq_error.mpr ⟨?_, rfl⟩))⟩)
    · rwa [hallow, hallow]
    · rwa [Nat.mod_eq_of_lt hcount]
  left
  have hfirst := toNat_pageAddress hP (le_trans hle hlast)
  have hsize : ((lastPage - firstPage + 1) * pageSize) % 2 ^ 64 =
      (lastPage - firstPage + 1) * pageSize :=
    Nat.mod_eq_of_lt (mul_lt_of_le_maxPageIndex hP (Nat.le_of_not_gt hover'))
  have hend : firstPage * pageSize + (lastPage - firstPage + 1) * pageSize =
      (lastPage + 1) * pageSize := by
    rw [← Nat.add_mul]
    congr 1
    omega
  have htop : (lastPage + 1) * pageSize ≤ 2 ^ 64 := by
    rw [← hP]
    exact Nat.mul_le_mul_right _ (by omega)
  have hknown : bits.toNat < 8 :=
    foldl_or_lt (by decide) fun span hspan => (hfits span (List.mem_filter.mp hspan).1).known
  have hwrap : (pageAddress pageSize firstPage).toNat +
      (GuestSize.mk (UInt64.ofNat ((lastPage - firstPage + 1) * pageSize))).toNat ≤ 2 ^ 64 := by
    rw [hfirst, GuestSize.toNat_mk, UInt64.toNat_ofNat', hsize, hend]
    exact htop
  refine ⟨⟨⟨_, _, hwrap⟩, ⟨bits, hknown⟩,
    sortSources ((spans.filter fun span => spanCovers span firstPage).map PageSpan.source)⟩, ?_,
    ⟨?_, ?_, ⟨above, habove, hcov⟩, ?_, ?_, ?_⟩, hmixed⟩
  · simp only [bind_eq_ok, refuseIf_eq_ok, mapError_eq_ok, orRefuse_eq_ok, pure_eq_ok]
    refine ⟨(), by rwa [hallow, hallow], (), by rwa [Nat.mod_eq_of_lt hcount], _, ?_, _,
      GuestPermissions.checkedFromBits_of_lt hknown, rfl⟩
    rw [Nat.mod_eq_of_lt hcount]
    exact GuestRange.create_of_le hwrap
  · exact hfirst
  · rw [GuestRange.last]
    dsimp only
    rw [hfirst, GuestSize.toNat_mk, UInt64.toNat_ofNat', hsize, hend]
  · intro permission
    rw [GuestPermissions.has_iff]
    exact testBit_covering
  · intro source
    rw [mem_sortSources, List.mem_map]
    simp only [List.mem_filter, and_assoc]
  · exact pairwise_sortSources _

/-! ### All regions -/

variable {cuts : List ℕ}

/-- An accepted loop has made the region of every segment. -/
theorem planRegions_eq_ok (h : planRegions pageSize spans cuts = .ok regions) :
    (∀ seg ∈ segments (maxPageIndex pageSize) cuts,
      ∃ r, regionAt pageSize spans seg.1 seg.2 = .ok r) ∧
      ∀ region, region ∈ regions ↔
        ∃ seg ∈ segments (maxPageIndex pageSize) cuts,
          regionAt pageSize spans seg.1 seg.2 = .ok (some region) := by
  induction cuts generalizing regions with
  | nil =>
    cases h
    simp [segments]
  | cons firstPage rest ih =>
    simp only [planRegions, bind_eq_ok, pure_eq_ok] at h
    obtain ⟨r, hr, regions, hregions, rfl⟩ := h
    obtain ⟨hok, hmem⟩ := ih hregions
    simp only [segments, List.mem_cons, forall_eq_or_imp, exists_eq_or_imp]
    refine ⟨⟨⟨r, hr⟩, hok⟩, fun region => ?_⟩
    rw [List.mem_append, hmem, Option.mem_toList, hr, Except.ok.injEq]

/-- A relation that holds between the regions of related segments holds along the plan. -/
theorem pairwise_planRegions {R : ℕ × ℕ → ℕ × ℕ → Prop}
    {S : ExecutionMemoryRegion → ExecutionMemoryRegion → Prop}
    (hcuts : (segments (maxPageIndex pageSize) cuts).Pairwise R)
    (hrel : ∀ seg ∈ segments (maxPageIndex pageSize) cuts, ∀ seg' ∈ segments (maxPageIndex
      pageSize) cuts, R seg seg' → ∀ a b, regionAt pageSize spans seg.1 seg.2 = .ok (some a) →
      regionAt pageSize spans seg'.1 seg'.2 = .ok (some b) → S a b)
    (h : planRegions pageSize spans cuts = .ok regions) : regions.Pairwise S := by
  induction cuts generalizing regions with
  | nil =>
    cases h
    exact .nil
  | cons firstPage rest ih =>
    simp only [planRegions, bind_eq_ok, pure_eq_ok] at h
    obtain ⟨r, hr, regions, hregions, rfl⟩ := h
    rw [segments, List.pairwise_cons] at hcuts
    have htail := ih hcuts.2
      (fun seg hseg seg' hseg' =>
        hrel seg (List.mem_cons_of_mem _ hseg) seg' (List.mem_cons_of_mem _ hseg')) hregions
    cases r with
    | none => exact htail
    | some region =>
      refine List.pairwise_cons.mpr ⟨fun b hb => ?_, htail⟩
      obtain ⟨seg, hseg, hregion⟩ := ((planRegions_eq_ok hregions).2 b).mp hb
      exact hrel _ List.mem_cons_self seg (List.mem_cons_of_mem _ hseg)
        (hcuts.1 seg hseg) region b hr hregion

/-- A loop that leaves with an error does so at one of the segments. -/
theorem planRegions_eq_error {e : ExecutionPlanError}
    (h : planRegions pageSize spans cuts = .error e) :
    ∃ seg ∈ segments (maxPageIndex pageSize) cuts,
      regionAt pageSize spans seg.1 seg.2 = .error e := by
  induction cuts with
  | nil => cases h
  | cons firstPage rest ih =>
    simp only [planRegions, bind_eq_error, pure_ne_error, and_false, exists_false, or_false] at h
    rcases h with h | ⟨r, -, h⟩
    · exact ⟨_, List.mem_cons_self, h⟩
    · obtain ⟨seg, hseg, he⟩ := ih h
      exact ⟨seg, List.mem_cons_of_mem _ hseg, he⟩

end Region

/-! ### The plan -/

section Plan

variable {request : ExecutionMemoryPlanRequest}

theorem maxPageIndex_succ_mul {pageSize : UInt64} (hpow : isPowerOfTwo pageSize = true) :
    (maxPageIndex pageSize.toNat + 1) * pageSize.toNat = 2 ^ 64 := by
  obtain ⟨k, hk⟩ := dvd_two_pow_64 hpow
  have hpos := isPowerOfTwo_pos hpow
  have hkpos : 0 < k := by
    rcases Nat.eq_zero_or_pos k with rfl | h
    · simp at hk
    · exact h
  have hdiv : maxPageIndex pageSize.toNat = k - 1 := by
    rw [maxPageIndex, hk, Nat.div_eq_iff hpos, Nat.sub_mul, Nat.mul_comm k]
    have := Nat.le_mul_of_pos_right pageSize.toNat hkpos
    omega
  rw [hdiv, Nat.sub_add_cancel hkpos, hk, Nat.mul_comm]

theorem firstPage_le_lastPage (h : span ∈ requestSpans request) :
    span.firstPage ≤ span.lastPage := by
  rw [requestSpans] at h
  rcases List.mem_append.mp h with h | h
  · obtain ⟨mapping, -, rfl⟩ := List.mem_map.mp h
    exact Nat.div_le_div_right (Nat.le_add_right _ _)
  · split_ifs at h
    · cases h
    · rw [List.mem_singleton] at h
      subst h
      exact Nat.div_le_div_right (Nat.le_add_right _ _)

/-- The segments of a request: the runs of pages between two cuts. -/
def requestSegments (request : ExecutionMemoryPlanRequest) : List (ℕ × ℕ) :=
  segments (maxPageIndex request.hostPageSize.toNat)
    (boundaries request.hostPageSize.toNat (requestSpans request))

theorem requestBoundaries_le :
    ∀ page ∈ boundaries request.hostPageSize.toNat (requestSpans request),
      page ≤ maxPageIndex request.hostPageSize.toNat :=
  boundaries_le (fun _ h => spanFits_of_mem h) fun _ h => firstPage_le_lastPage h

variable {seg : ℕ × ℕ}

/-- Over a segment, a span is over all pages or over none. -/
theorem spanCovers_iff_of_mem_requestSegments (hseg : seg ∈ requestSegments request)
    (h1 : seg.1 ≤ page) (h2 : page ≤ seg.2) (hspan : span ∈ requestSpans request) :
    spanCovers span page = true ↔ spanCovers span seg.1 = true := by
  obtain ⟨-, -, hlast, hnone⟩ := mem_segments pairwise_boundaries requestBoundaries_le hseg
  rw [spanCovers_iff, spanCovers_iff]
  refine covers_iff_of_segment ?_ ?_ hnone hlast h1 h2
  · exact mem_boundaries.mpr ⟨span, hspan, .inl rfl⟩
  · exact fun hlt => mem_boundaries.mpr ⟨span, hspan, .inr ⟨hlt, rfl⟩⟩

theorem spansAllow_iff_of_mem_requestSegments (hseg : seg ∈ requestSegments request)
    (h1 : seg.1 ≤ page) (h2 : page ≤ seg.2) :
    SpansAllow (requestSpans request) page permission ↔
    SpansAllow (requestSpans request) seg.1 permission := by
  refine exists_congr fun span => and_congr_right fun hspan => ?_
  rw [spanCovers_iff_of_mem_requestSegments hseg h1 h2 hspan]

theorem exists_requestSegment (hspan : span ∈ requestSpans request)
    (hcov : spanCovers span page = true) :
    ∃ seg ∈ requestSegments request, seg.1 ≤ page ∧ page ≤ seg.2 := by
  rw [spanCovers_iff] at hcov
  have hpage : page ≤ maxPageIndex request.hostPageSize.toNat :=
    le_trans hcov.2 (spanFits_of_mem hspan).last_le
  obtain ⟨first, last, hseg, h1, h2⟩ := exists_segment pairwise_boundaries
    (mem_boundaries.mpr ⟨span, hspan, .inl rfl⟩) hcov.1 hpage
  exact ⟨(first, last), hseg, h1, h2⟩

variable (hpow : isPowerOfTwo request.hostPageSize = true)

include hpow in
theorem pageAllows_iff :
    PageAllows request page permission ↔ SpansAllow (requestSpans request) page permission := by
  have hpos := isPowerOfTwo_pos hpow
  constructor
  · rintro ⟨source, permissions, hsource, hhas⟩
    obtain ⟨span, hspan, hcov, -, hbits⟩ := (pageSource_iff hpos).mp hsource
    exact ⟨span, hspan, hcov, by rwa [hbits, ← GuestPermissions.has_iff]⟩
  · rintro ⟨span, hspan, hcov, hbit⟩
    refine ⟨span.source, ⟨span.permissionBits, (spanFits_of_mem hspan).known⟩, ?_,
      GuestPermissions.has_iff.mpr hbit⟩
    exact (pageSource_iff hpos).mpr ⟨span, hspan, hcov, rfl, rfl⟩

include hpow in

theorem regionAt_of_mem_requestSegments (hseg : seg ∈ requestSegments request) :
    (regionAt request.hostPageSize.toNat (requestSpans request) seg.1 seg.2 = .ok none ∧
      ∀ span ∈ requestSpans request, spanCovers span seg.1 = false) ∨
    (∃ region, regionAt request.hostPageSize.toNat (requestSpans request) seg.1 seg.2 =
      .ok (some region) ∧ RegionOf request.hostPageSize.toNat
      (requestSpans request) seg.1 seg.2 region ∧
    ¬ (SpansAllow (requestSpans request) seg.1 .write ∧
      SpansAllow (requestSpans request) seg.1 .execute)) ∨
    (∃ e, regionAt request.hostPageSize.toNat (requestSpans request) seg.1 seg.2 = .error e ∧
      e.code = .mixedWriteExecutePage ∧
      SpansAllow (requestSpans request) seg.1 .write ∧
      SpansAllow (requestSpans request) seg.1 .execute) ∨
    (∃ e, regionAt request.hostPageSize.toNat (requestSpans request) seg.1 seg.2 = .error e ∧
      e.code = .hostPageArithmeticOverflow ∧
      seg.1 = 0 ∧ seg.2 = maxPageIndex request.hostPageSize.toNat ∧
      ¬ (SpansAllow (requestSpans request) seg.1 .write ∧
        SpansAllow (requestSpans request) seg.1 .execute)) := by
  obtain ⟨-, hle, hlast, -⟩ := mem_segments pairwise_boundaries requestBoundaries_le hseg
  refine regionAt_spec (maxPageIndex_succ_mul hpow) (fun _ h => spanFits_of_mem h) hle hlast
    fun span hspan hcov => ?_
  exact (spanCovers_iff.mp
    ((spanCovers_iff_of_mem_requestSegments hseg hle le_rfl hspan).mpr hcov)).2

/-- A segment with a region: it is the region of that segment. -/
def RegionOfSegment (request : ExecutionMemoryPlanRequest) (region : ExecutionMemoryRegion)
    (seg : ℕ × ℕ) : Prop :=
  seg ∈ requestSegments request ∧
    RegionOf request.hostPageSize.toNat (requestSpans request) seg.1 seg.2 region ∧
    ¬ (SpansAllow (requestSpans request) seg.1 .write ∧
      SpansAllow (requestSpans request) seg.1 .execute)

include hpow in
theorem regionOfSegment_of_regionAt (hseg : seg ∈ requestSegments request)
    {region : ExecutionMemoryRegion}
    (h : regionAt request.hostPageSize.toNat (requestSpans request) seg.1 seg.2 =
      .ok (some region)) :
    RegionOfSegment request region seg := by
  rcases regionAt_of_mem_requestSegments hpow hseg
    with ⟨h', -⟩ | ⟨r, h', hof, hwx⟩ | ⟨e, h', -⟩ | ⟨e, h', -⟩ <;>
    rw [h] at h' <;> cases h'
  exact ⟨hseg, hof, hwx⟩

include hpow in

/-- An address of a region lies in a page of its segment. -/
theorem mem_range_iff_page {region : ExecutionMemoryRegion} (h : RegionOfSegment request region seg)
    {x : ℕ} : x ∈ region.range ↔
      seg.1 ≤ x / request.hostPageSize.toNat ∧ x / request.hostPageSize.toNat ≤ seg.2 := by
  have hpos := isPowerOfTwo_pos hpow
  rw [GuestRange.mem_def, h.2.1.base, h.2.1.last, Nat.le_div_iff_mul_le hpos,
    ← Nat.div_lt_iff_lt_mul hpos, Nat.lt_succ_iff]

include hpow in

/-- What the loop over the boundaries leaves is the plan. -/
theorem planExact_of_planRegions
    (h : planRegions request.hostPageSize.toNat (requestSpans request) (boundaries
      request.hostPageSize.toNat (requestSpans request)) = .ok regions) :
    PlanExact request ⟨request.hostPageSize, regions⟩ := by
  have hpos := isPowerOfTwo_pos hpow
  obtain ⟨hok, hmem⟩ := planRegions_eq_ok h
  have hregion : ∀ region ∈ regions, ∃ seg, RegionOfSegment request region seg :=
      fun region hr => by
    obtain ⟨seg, hseg, hat⟩ := (hmem region).mp hr
    exact ⟨seg, regionOfSegment_of_regionAt hpow hseg hat⟩
  have hsource : ∀ {region seg}, RegionOfSegment request region seg → ∀ x ∈ region.range, ∀ source,
      (∃ permissions, PageSource request (x / request.hostPageSize.toNat) source permissions) ↔
        ∃ span ∈ requestSpans request, spanCovers span seg.1 = true ∧ span.source = source := by
    intro region seg hof x hx source
    obtain ⟨h1, h2⟩ := (mem_range_iff_page hpow hof).mp hx
    simp only [pageSource_iff hpos]
    constructor
    · rintro ⟨permissions, span, hspan, hcov, hs, -⟩
      exact ⟨span, hspan, (spanCovers_iff_of_mem_requestSegments hof.1 h1 h2 hspan).mp hcov, hs⟩
    · rintro ⟨span, hspan, hcov, hs⟩
      exact ⟨⟨span.permissionBits, (spanFits_of_mem hspan).known⟩, span, hspan,
        (spanCovers_iff_of_mem_requestSegments hof.1 h1 h2 hspan).mpr hcov, hs, rfl⟩
  refine ⟨rfl, fun region hr => ?_, ?_, fun x hx => ⟨?_, ?_⟩, fun region hr x hx permission => ?_,
    fun region hr x hx source => ?_, fun region hr => ?_, fun region hr => ?_⟩
  · obtain ⟨seg, hseg, hof, -⟩ := hregion region hr
    obtain ⟨-, hle, -⟩ := mem_segments pairwise_boundaries requestBoundaries_le hseg
    have hlast := hof.last
    have hsize : region.range.size.toNat = (seg.2 + 1 - seg.1) * request.hostPageSize.toNat := by
      rw [GuestRange.last, hof.base] at hlast
      rw [Nat.sub_mul]
      omega
    refine ⟨hof.base ▸ Nat.dvd_mul_left _ _, hsize ▸ Nat.dvd_mul_left _ _, ?_⟩
    rw [hsize]
    exact Nat.mul_pos (by omega) hpos
  · refine pairwise_planRegions (pairwise_segments pairwise_boundaries requestBoundaries_le) ?_ h
    intro seg hseg seg' hseg' hlt a b ha hb
    rw [(regionOfSegment_of_regionAt hpow hseg ha).2.1.last,
      (regionOfSegment_of_regionAt hpow hseg' hb).2.1.base]
    exact Nat.mul_le_mul_right _ hlt
  · rintro ⟨region, hr, hxr⟩
    obtain ⟨seg, hof⟩ := hregion region hr
    obtain ⟨span, hspan, hcov⟩ := hof.2.1.nonempty
    exact ⟨span.source, (hsource hof x hxr span.source).mpr ⟨span, hspan, hcov, rfl⟩⟩
  · rintro ⟨source, permissions, hps⟩
    obtain ⟨span, hspan, hcov, -, -⟩ := (pageSource_iff hpos).mp hps
    obtain ⟨seg, hseg, h1, h2⟩ := exists_requestSegment hspan hcov
    obtain ⟨r, hr⟩ := hok seg hseg
    rcases regionAt_of_mem_requestSegments hpow hseg
      with ⟨-, hno⟩ | ⟨region, h', hof, hwx⟩ | ⟨e, h', -⟩ | ⟨e, h', -⟩
    · rw [spanCovers_iff_of_mem_requestSegments hseg h1 h2 hspan, hno span hspan] at hcov
      cases hcov
    · exact ⟨region, (hmem region).mpr ⟨seg, hseg, h'⟩,
        (mem_range_iff_page hpow ⟨hseg, hof, hwx⟩).mpr ⟨h1, h2⟩⟩
    all_goals
      rw [hr] at h'
      cases h'
  · obtain ⟨seg, hof⟩ := hregion region hr
    obtain ⟨h1, h2⟩ := (mem_range_iff_page hpow hof).mp hx
    rw [hof.2.1.permissions, pageAllows_iff hpow, spansAllow_iff_of_mem_requestSegments hof.1 h1 h2]
  · obtain ⟨seg, hof⟩ := hregion region hr
    rw [hof.2.1.sources, hsource hof x hx]
  · obtain ⟨seg, hof⟩ := hregion region hr
    exact hof.2.1.sourcesSorted
  · obtain ⟨seg, hof⟩ := hregion region hr
    rw [hof.2.1.permissions, hof.2.1.permissions]
    exact hof.2.2

theorem powerOfTwo_of_buildExecutionMemoryPlan (h : buildExecutionMemoryPlan request = .ok plan) :
    isPowerOfTwo request.hostPageSize = true := by
  simp only [buildExecutionMemoryPlan, bind_eq_ok, refuseIf_eq_ok, Bool.not_eq_false] at h
  obtain ⟨-, hpow, -⟩ := h
  exact hpow

theorem planExact (h : buildExecutionMemoryPlan request = .ok plan) : PlanExact request plan := by
  have hpow := powerOfTwo_of_buildExecutionMemoryPlan h
  rw [buildExecutionMemoryPlan_eq hpow] at h
  simp only [bind_eq_ok, pure_eq_ok] at h
  obtain ⟨regions, hregions, -, -, -, -, -, -, rfl⟩ := h
  exact planExact_of_planRegions hpow hregions

include hpow in

/-- The loop stops at a page that would be writable and executable exactly when there is one. -/
theorem planRegions_mixed_iff :
    (∃ e, planRegions request.hostPageSize.toNat (requestSpans request)
      (boundaries request.hostPageSize.toNat (requestSpans request)) = .error e ∧
      e.code = .mixedWriteExecutePage) ↔
      ∃ page, PageAllows request page .write ∧ PageAllows request page .execute := by
  simp only [pageAllows_iff hpow]
  constructor
  · rintro ⟨e, he, hcode⟩
    obtain ⟨seg, hseg, hat⟩ := planRegions_eq_error he
    rcases regionAt_of_mem_requestSegments hpow hseg
      with ⟨h', -⟩ | ⟨r, h', -⟩ | ⟨e', h', -, hmixed⟩ |
      ⟨e', h', hcode', -⟩ <;> rw [hat] at h' <;> cases h'
    · exact ⟨seg.1, hmixed⟩
    · rw [hcode] at hcode'
      cases hcode'
  · rintro ⟨page, hw, hx⟩
    obtain ⟨span, hspan, hcov, -⟩ := id hw
    obtain ⟨seg, hseg, h1, h2⟩ := exists_requestSegment hspan hcov
    have hbad : ∀ seg ∈ requestSegments request, seg.1 ≤ page → page ≤ seg.2 →
        SpansAllow (requestSpans request) seg.1 .write ∧
          SpansAllow (requestSpans request) seg.1 .execute := by
      intro seg hseg h1 h2
      rw [← spansAllow_iff_of_mem_requestSegments hseg h1 h2,
        ← spansAllow_iff_of_mem_requestSegments hseg h1 h2]
      exact ⟨hw, hx⟩
    cases hplan : planRegions request.hostPageSize.toNat (requestSpans request)
        (boundaries request.hostPageSize.toNat (requestSpans request)) with
    | ok regions =>
      obtain ⟨r, hr⟩ := (planRegions_eq_ok hplan).1 seg hseg
      rcases regionAt_of_mem_requestSegments hpow hseg
        with ⟨-, hno⟩ | ⟨_, -, -, hwx⟩ | ⟨e, h', -⟩ | ⟨e, h', -⟩
      · rw [spanCovers_iff_of_mem_requestSegments hseg h1 h2 hspan, hno span hspan] at hcov
        cases hcov
      · exact absurd (hbad seg hseg h1 h2) hwx
      all_goals
        rw [hr] at h'
        cases h'
    | error e =>
      -- the only other way to stop is one segment over all pages, and it contains this one
      obtain ⟨seg', hseg', hat⟩ := planRegions_eq_error hplan
      rcases regionAt_of_mem_requestSegments hpow hseg'
        with ⟨h', -⟩ | ⟨_, h', -⟩ | ⟨e', h', hcode, -⟩ |
        ⟨e', h', -, hzero, hmax, hwx⟩ <;> rw [hat] at h' <;> cases h'
      · exact ⟨e, rfl, hcode⟩
      · have hpage : page ≤ maxPageIndex request.hostPageSize.toNat :=
          le_trans (spanCovers_iff.mp hcov).2 (spanFits_of_mem hspan).last_le
        exact absurd (hbad seg' hseg' (by omega) (by omega)) hwx

include hpow in

/-- A plan is made when no page would be writable and executable, a page is left free, and the entry
point and the stack pointer are where they belong. -/
theorem exists_executionMemoryPlan
    (hapart : ∀ page, PageAllows request page .write → ¬ PageAllows request page .execute)
    (hfree : ∃ page ≤ maxPageIndex request.hostPageSize.toNat, ∀ source permissions,
      ¬ PageSource request page source permissions)
    (hentry : ∃ mapping ∈ request.mappings, request.entryPoint.toNat ∈ mapping.range ∧
      mapping.permissions.has .execute = true)
    (hstack : request.stackPointer.toNat ∈ request.stackStorage) :
    ∃ plan, buildExecutionMemoryPlan request = .ok plan := by
  have hpos := isPowerOfTwo_pos hpow
  rw [buildExecutionMemoryPlan_eq hpow]
  cases hplan : planRegions request.hostPageSize.toNat (requestSpans request)
      (boundaries request.hostPageSize.toNat (requestSpans request)) with
  | error e =>
    obtain ⟨seg, hseg, hat⟩ := planRegions_eq_error hplan
    rcases regionAt_of_mem_requestSegments hpow hseg
      with ⟨hok, -⟩ | ⟨_, hok, -⟩ | ⟨_, -, -, hwrite, hexecute⟩ |
      ⟨_, -, -, hzero, hmax, -⟩
    · rw [hat] at hok
      cases hok
    · rw [hat] at hok
      cases hok
    · exact absurd ((pageAllows_iff hpow).mpr hexecute)
        (hapart seg.1 ((pageAllows_iff hpow).mpr hwrite))
    · -- a span begins at the first page, and it would be over the free page too
      obtain ⟨page, hpage, hnone⟩ := hfree
      obtain ⟨hcut, -⟩ := mem_segments pairwise_boundaries requestBoundaries_le hseg
      obtain ⟨span, hspan, hfirst | ⟨-, hfirst⟩⟩ := mem_boundaries.mp hcut
      · have hcov : spanCovers span seg.1 = true :=
          spanCovers_iff.mpr ⟨hfirst.ge, hfirst.le.trans (firstPage_le_lastPage hspan)⟩
        have hover : spanCovers span page = true :=
          (spanCovers_iff_of_mem_requestSegments hseg (by omega) (by omega) hspan).mpr hcov
        exact absurd ((pageSource_iff hpos).mpr ⟨span, hspan, hover, rfl, rfl⟩)
          (hnone span.source ⟨span.permissionBits, (spanFits_of_mem hspan).known⟩)
      · omega
  | ok regions =>
    obtain ⟨mapping, hmem, hin, hexecute⟩ := hentry
    have hfound : mapping ∈ request.mappings.filter fun mapping =>
        mapping.range.contains request.entryPoint :=
      List.mem_filter.mpr ⟨hmem, GuestRange.contains_iff.mpr hin⟩
    have hmapped : (request.mappings.filter fun mapping =>
        mapping.range.contains request.entryPoint).isEmpty ≠ true := by
      rw [Ne, List.isEmpty_iff]
      exact List.ne_nil_of_mem hfound
    have hexecutable :
      (request.mappings.filter fun mapping => mapping.range.contains request.entryPoint).any
        (fun mapping => mapping.permissions.has .execute) ≠ false := by
      rw [Ne, Bool.not_eq_false, List.any_eq_true]
      exact ⟨mapping, hfound, hexecute⟩
    have hpointer : request.stackStorage.contains request.stackPointer ≠ false := by
      rw [Ne, Bool.not_eq_false]
      exact GuestRange.contains_iff.mpr hstack
    refine ⟨⟨request.hostPageSize, regions⟩, ?_⟩
    rw [ok_bind]
    dsimp only
    rw [refuseIf_of_not hmapped, ok_bind, refuseIf_of_not hexecutable, ok_bind,
      refuseIf_of_not hpointer, ok_bind]
    rfl

/-- **The plan is exact, and refused for a mixed page exactly when there is one.** -/
theorem buildExecutionMemoryPlan_exact (request : ExecutionMemoryPlanRequest)
    (hpow : isPowerOfTwo request.hostPageSize = true) :
    (∀ plan, buildExecutionMemoryPlan request = .ok plan → PlanExact request plan) ∧
      ((∃ e, buildExecutionMemoryPlan request = .error e ∧ e.code = .mixedWriteExecutePage) ↔
        ∃ page, PageAllows request page .write ∧ PageAllows request page .execute) := by
  refine ⟨fun plan h => planExact h, ?_⟩
  rw [← planRegions_mixed_iff hpow, buildExecutionMemoryPlan_eq hpow]
  constructor
  · rintro ⟨e, he, hcode⟩
    simp only [bind_eq_error, refuseIf_eq_error, pure_ne_error, and_false, exists_false, or_false]
      at he
    rcases he with he | ⟨_, -, ⟨-, rfl⟩ | ⟨_, -, ⟨-, rfl⟩ | ⟨_, -, -, rfl⟩⟩⟩
    · exact ⟨e, he, hcode⟩
    all_goals cases hcode
  · rintro ⟨e, he, hcode⟩
    exact ⟨e, bind_eq_error.mpr (.inl he), hcode⟩

/-- A writable and an executable mapping of eight bytes each on the last page of the address space.
-/
def sharedTopPage : ExecutionMemoryPlanRequest where
  mappings :=
    [⟨⟨⟨0xfffffffffffff000⟩, ⟨8⟩, by decide⟩, GuestPermissions.only .write,
        ⟨.zeroFill, 0, ⟨8⟩⟩, 0⟩,
      ⟨⟨⟨0xfffffffffffffff8⟩, ⟨8⟩, by decide⟩, GuestPermissions.only .execute,
        ⟨.zeroFill, 0, ⟨8⟩⟩, 1⟩]
  stackStorage := lowPage
  entryPoint := ⟨0xfffffffffffffff8⟩
  stackPointer := ⟨0x1800⟩
  hostPageSize := 0x1000
  inMemory := by decide

theorem buildExecutionMemoryPlan_sharedTopPage :
    isPowerOfTwo sharedTopPage.hostPageSize = true ∧
      ∃ e, buildExecutionMemoryPlan sharedTopPage = .error e ∧ e.code = .mixedWriteExecutePage := by
  refine ⟨by decide, (buildExecutionMemoryPlan_exact sharedTopPage (by decide)).2.mpr
    ⟨0xfffffffffffff, ?_, ?_⟩⟩
  · refine ⟨_, _, .mapping List.mem_cons_self ⟨0xfffffffffffff000, ?_, ?_⟩, ?_⟩ <;> decide
  · refine ⟨_, _, .mapping (List.mem_cons_of_mem _ List.mem_cons_self) ⟨0xfffffffffffffff8, ?_, ?_⟩,
      ?_⟩ <;> decide

end Plan

/-! ### Writing through the plan -/

section Owned

variable (address byteCount : UInt64)

/-- `fully_within`. -/
def fullyWithin (range : GuestRange) : Bool :=
  decide (address ≥ range.base.value) && decide (address - range.base.value ≤ range.size.value) &&
    decide (byteCount ≤ range.size.value - (address - range.base.value))

/-- `intersects`; the end of the write is `address + byteCount`. -/
def intersects (range : GuestRange) : Bool :=
  if range.empty = true then false
  else if address ≥ range.base.value then decide (address - range.base.value < range.size.value)
  else decide (range.base.value < address + byteCount)

/-- The loop over the mappings: whether one of them owns the write, unless one that is not
writable meets it. -/
def ownedByMappings : List MappingIntent → (owned : Bool) → Bool
  | [], owned => owned
  | mapping :: mappings, owned =>
    let owned := if fullyWithin address byteCount mapping.range &&
      mapping.permissions.has .write then true else owned
    if intersects address byteCount mapping.range && !mapping.permissions.has .write then false
    else ownedByMappings mappings owned

/-- The loop over the regions: the first one around the write decides. -/
def ownedByRegions : List ExecutionMemoryRegion → Bool
  | [] => false
  | region :: regions =>
    if fullyWithin address byteCount region.range = false then ownedByRegions regions
    else region.permissions.has .write && !region.permissions.has .execute

/-- `guest_write_owned_by_plan`. -/
def guestWriteOwnedByPlan (plan : ExecutionMemoryPlan) (guestMappings : List MappingIntent)
    (guestStack : GuestRange) (target : GuestAddress) (byteCount : UInt64) : Bool :=
  if byteCount = 0 ∨ plan.hostPageSize = 0 then false
  else if byteCount > u64Max - target.value then false
  else if ownedByMappings target.value byteCount guestMappings
    (fullyWithin target.value byteCount guestStack) = false then
    false
  else ownedByRegions target.value byteCount plan.regions

variable {address byteCount}

theorem fullyWithin_iff :
    fullyWithin address byteCount range = true ↔
      range.base.toNat ≤ address.toNat ∧ address.toNat + byteCount.toNat ≤ range.last := by
  simp only [fullyWithin, Bool.and_eq_true, decide_eq_true_eq, ge_iff_le, UInt64.le_iff_toNat_le,
    GuestRange.last, GuestAddress.toNat, GuestSize.toNat, and_assoc]
  refine and_congr_right fun hle => ?_
  have hsub : (address - range.base.value).toNat = address.toNat - range.base.value.toNat :=
    UInt64.toNat_sub_of_le _ _ (UInt64.le_iff_toNat_le.mpr hle)
  rw [hsub]
  constructor
  · rintro ⟨h1, h2⟩
    rw [UInt64.toNat_sub_of_le _ _ (UInt64.le_iff_toNat_le.mpr (by rwa [hsub])), hsub] at h2
    omega
  · intro h
    refine ⟨by omega, ?_⟩
    rw [UInt64.toNat_sub_of_le _ _ (UInt64.le_iff_toNat_le.mpr (by rw [hsub]; omega)), hsub]
    omega

/-- A range that the write does not meet holds none of its bytes. -/
theorem not_mem_of_intersects_eq_false (hwrap : address.toNat + byteCount.toNat < 2 ^ 64)
    (h : intersects address byteCount range = false) {x : ℕ} (h1 : address.toNat ≤ x)
    (h2 : x < address.toNat + byteCount.toNat) : x ∉ range := by
  intro hx
  rw [GuestRange.mem_def, GuestRange.last] at hx
  unfold intersects at h
  split_ifs at h with hempty hge
  · rw [GuestRange.empty_iff] at hempty
    omega
  · rw [decide_eq_false_iff_not, UInt64.lt_iff_toNat_lt, UInt64.toNat_sub_of_le _ _ hge] at h
    have := UInt64.le_iff_toNat_le.mp hge
    simp only [GuestAddress.toNat, GuestSize.toNat] at *
    omega
  · rw [decide_eq_false_iff_not, UInt64.lt_iff_toNat_lt, UInt64.toNat_add, Nat.mod_eq_of_lt hwrap]
      at h
    simp only [GuestAddress.toNat, GuestSize.toNat] at *
    omega

theorem ownedByMappings_eq_true {mappings : List MappingIntent} {owned : Bool}
    (h : ownedByMappings address byteCount mappings owned = true) :
    (owned = true ∨
      ∃ mapping ∈ mappings, fullyWithin address byteCount mapping.range = true ∧
        mapping.permissions.has .write = true) ∧
    ∀ mapping ∈ mappings, mapping.permissions.has .write = false →
      intersects address byteCount mapping.range = false := by
  induction mappings generalizing owned with
  | nil => exact ⟨.inl h, nofun⟩
  | cons mapping mappings ih =>
    simp only [ownedByMappings, Bool.and_eq_true, Bool.not_eq_true'] at h
    split_ifs at h with hmeets hin
    · obtain ⟨-, hnone⟩ := ih h
      refine ⟨.inr ⟨mapping, List.mem_cons_self, hin⟩,
        List.forall_mem_cons.mpr ⟨fun hno => ?_, hnone⟩⟩
      rw [hin.2] at hno
      cases hno
    · obtain ⟨howned, hnone⟩ := ih h
      refine ⟨howned.imp_right fun ⟨m, hm, h⟩ => ⟨m, List.mem_cons_of_mem _ hm, h⟩,
        List.forall_mem_cons.mpr ⟨fun hno => ?_, hnone⟩⟩
      rw [← Bool.not_eq_true]
      exact fun hmeets' => hmeets ⟨hmeets', hno⟩

theorem ownedByRegions_eq_true (h : ownedByRegions address byteCount regions = true) :
    ∃ region ∈ regions, fullyWithin address byteCount region.range = true ∧
      region.permissions.has .write = true ∧ region.permissions.has .execute = false := by
  induction regions with
  | nil => cases h
  | cons region regions ih =>
    rw [ownedByRegions] at h
    split_ifs at h with hout
    · obtain ⟨r, hr, hspec⟩ := ih h
      exact ⟨r, List.mem_cons_of_mem _ hr, hspec⟩
    · rw [Bool.and_eq_true, Bool.not_eq_true'] at h
      exact ⟨region, List.mem_cons_self, by simpa using hout, h⟩

theorem guestWriteOwnedByPlan_eq_true {mappings : List MappingIntent} {stack : GuestRange}
    {target : GuestAddress}
    (h : guestWriteOwnedByPlan plan mappings stack target byteCount = true) :
    0 < byteCount.toNat ∧ target.toNat + byteCount.toNat < 2 ^ 64 ∧
    ((fullyWithin target.value byteCount stack = true ∨ ∃ mapping ∈ mappings,
        fullyWithin target.value byteCount mapping.range = true ∧
        mapping.permissions.has .write = true) ∧
      ∀ mapping ∈ mappings, mapping.permissions.has .write = false →
        intersects target.value byteCount mapping.range = false) ∧
    ∃ region ∈ plan.regions, fullyWithin target.value byteCount region.range = true ∧
      region.permissions.has .write = true ∧ region.permissions.has .execute = false := by
  unfold guestWriteOwnedByPlan at h
  split_ifs at h with hzero hover howned
  rw [gt_u64Max_sub_iff] at hover
  rw [Bool.not_eq_false] at howned
  have hpos : byteCount.toNat ≠ 0 := fun h0 => hzero (.inl (UInt64.toNat_inj.mp h0))
  refine ⟨by omega, ?_, ownedByMappings_eq_true howned, ownedByRegions_eq_true h⟩
  rw [GuestAddress.toNat]
  omega

end Owned

end Astraea.Execution
