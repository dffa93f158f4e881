import Astraea.Base.Decimal
import Astraea.Core.HostAllocation
import Astraea.Trace.V0

/-!
# The difference of two traces

`diff_trace_v0` walks two traces side by side and reports the first place where they part:
in what was run, in an event that only one of them has, in an id, or in a field. A policy
says whether ids count and which fields do not.

`compareFieldsFrom` is the merge of the fields of two events, with the ignored fields passed
over on each side by itself. `compareStableFields_eq_none` is what the merge decides: that
both events have the same fields once the ignored ones are gone. The walk over the events
carries it to whole traces, `traceDivergence_eq_none`.
-/

namespace Astraea.Trace

open Astraea.Base Astraea.Core

/-- Why a comparison is refused. -/
inductive TraceDiffErrorCode where
  | invalidLeftTrace
  | invalidRightTrace
  | invalidIgnoreRule
  | duplicateIgnoreRule
  | hostAllocationFailure
  deriving DecidableEq

/-- A comparison that is refused. -/
structure TraceDiffError where
  code : TraceDiffErrorCode
  traceError : Option TraceError := none
  deriving DecidableEq

/-- A field of a type of events that is not compared. -/
structure TraceStableFieldIgnoreRuleV0 where
  subsystem : Option ByteString
  type : Option ByteString
  field : ByteString
  deriving DecidableEq

/-- What is compared. -/
structure TraceDiffPolicyV0 where
  compareEventIds : Bool := true
  ignoredStableFields : List TraceStableFieldIgnoreRuleV0 := []
  deriving DecidableEq

/-- What tells an event from others. -/
structure TraceEventIdentityV0 where
  subsystem : ByteString
  type : ByteString
  guest : Option GuestLocationV0
  deriving DecidableEq

/-- The kinds of divergences. -/
inductive TraceDivergenceKindV0 where
  | runFieldMismatch
  | eventIdMismatch
  | eventInsertion
  | eventDeletion
  | eventIdentityMismatch
  | stableFieldMissingLeft
  | stableFieldMissingRight
  | stableFieldValueMismatch
  deriving DecidableEq

/-- The first place where two traces differ. -/
structure TraceDivergenceV0 where
  kind : TraceDivergenceKindV0
  path : ByteString
  leftEventIndex : Option ℕ := none
  rightEventIndex : Option ℕ := none
  leftEventId : Option UInt64 := none
  rightEventId : Option UInt64 := none
  leftIdentity : Option TraceEventIdentityV0 := none
  rightIdentity : Option TraceEventIdentityV0 := none
  fieldName : Option ByteString := none
  leftValue : Option TraceValueV0 := none
  rightValue : Option TraceValueV0 := none
  eventCount : ℕ := 0
  deriving DecidableEq

/-- What a comparison comes to. -/
structure TraceDiffResultV0 where
  equivalent : Bool
  matchedEventCount : ℕ
  firstDivergence : Option TraceDivergenceV0
  deriving DecidableEq

/-! ### Policies -/

/-- `valid_ignore_rule`; its `valid_identifier` is the one of `v0.cpp` once more. -/
def validIgnoreRule (rule : TraceStableFieldIgnoreRuleV0) : Bool :=
  validIdentifier rule.field && rule.subsystem.all validIdentifier && rule.type.all validIdentifier

/-- `operator<` of `std::string`. -/
def stringLess (lhs rhs : ByteString) : Bool := decide (lhs < rhs)

/-- `ignore_rule_less`. -/
def ignoreRuleLess (lhs rhs : TraceStableFieldIgnoreRuleV0) : Bool :=
  if lhs.subsystem ≠ rhs.subsystem then optionLess stringLess lhs.subsystem rhs.subsystem
  else if lhs.type ≠ rhs.type then optionLess stringLess lhs.type rhs.type
  else stringLess lhs.field rhs.field

/-- Rules in the order of `ignore_rule_less`. -/
def sortRules (rules : List TraceStableFieldIgnoreRuleV0) : List TraceStableFieldIgnoreRuleV0 :=
  sortByKey (fun lhs rhs => !ignoreRuleLess rhs lhs) id rules

/-- `normalize_policy`. -/
def normalizePolicy (policy : TraceDiffPolicyV0) : Except TraceDiffError TraceDiffPolicyV0 := do
  policy.ignoredStableFields.forM fun rule =>
    refuseIf (validIgnoreRule rule = false) ⟨.invalidIgnoreRule, none⟩
  refuseIf (neighboursShareKey id (sortRules policy.ignoredStableFields) = true)
    ⟨.duplicateIgnoreRule, none⟩
  return { policy with ignoredStableFields := sortRules policy.ignoredStableFields }

/-- The rule applies to the field `field` of the event: one turn of the loop of `field_ignored`. -/
def ruleApplies (event : TraceEventV0) (field : ByteString) (rule : TraceStableFieldIgnoreRuleV0) :
    Bool :=
  rule.field == field && rule.subsystem.all (· == event.subsystem) &&
    rule.type.all (· == event.type)

/-- `field_ignored`. -/
def fieldIgnored (policy : TraceDiffPolicyV0) (event : TraceEventV0) (field : ByteString) : Bool :=
  policy.ignoredStableFields.any (ruleApplies event field)

/-! ### Divergences -/

/-- `event_identity_equal`. -/
def eventIdentityEqual (lhs rhs : TraceEventV0) : Bool :=
  lhs.subsystem == rhs.subsystem && lhs.type == rhs.type && lhs.guest == rhs.guest

/-- `event_identity`. -/
def eventIdentity (event : TraceEventV0) : TraceEventIdentityV0 :=
  ⟨event.subsystem, event.type, event.guest⟩

/-- `event_path`. -/
def eventPath (index : ℕ) (suffix : ByteString) : ByteString :=
  let path := bytesOf "events[" ++ decimal index ++ bytesOf "]"
  if suffix = [] then path else path ++ bytesOf "." ++ suffix

/-- The divergence of `run_divergence`; the result around it is built in `diffTraceV0`. -/
def runDivergence (path : String) (left right : Option TraceValueV0) : TraceDivergenceV0 :=
  { kind := .runFieldMismatch, path := bytesOf path, leftValue := left, rightValue := right }

/-- `compare_run_metadata`. -/
def compareRunMetadata (left right : TraceRunMetadataV0) : Option TraceDivergenceV0 :=
  if left.targetKind ≠ right.targetKind then
    some (runDivergence "run.target_kind" (some (.text left.targetKind))
      (some (.text right.targetKind)))
  else if left.platformFamily ≠ right.platformFamily then
    some (runDivergence "run.platform_family" (some (.text left.platformFamily))
      (some (.text right.platformFamily)))
  else if left.architecture ≠ right.architecture then
    some (runDivergence "run.architecture" (some (.text left.architecture))
      (some (.text right.architecture)))
  else if left.probeId ≠ right.probeId then
    some (runDivergence "run.probe.id" (left.probeId.map .text) (right.probeId.map .text))
  else if left.probeVersion ≠ right.probeVersion then
    some (runDivergence "run.probe.version" (left.probeVersion.map .u64)
      (right.probeVersion.map .u64))
  else if left.caseSha256 ≠ right.caseSha256 then
    some (runDivergence "run.case_sha256" (left.caseSha256.map .text) (right.caseSha256.map .text))
  else none

/-- `event_base_divergence`, with each event beside its index. -/
def eventBaseDivergence (kind : TraceDivergenceKindV0) (path : ByteString)
    (left right : Option (TraceEventV0 × ℕ)) :
    TraceDivergenceV0 where
  kind := kind
  path := path
  leftEventIndex := left.map Prod.snd
  rightEventIndex := right.map Prod.snd
  leftEventId := left.map fun left => left.1.id
  rightEventId := right.map fun right => right.1.id
  leftIdentity := left.map fun left => eventIdentity left.1
  rightIdentity := right.map fun right => eventIdentity right.1

section Fields

variable (policy : TraceDiffPolicyV0) (left : TraceEventV0) (leftIndex : ℕ) (right : TraceEventV0)
  (rightIndex : ℕ)

/-- A divergence at a field that the right event does not have. -/
def missingRight (field : TraceFieldV0) : TraceDivergenceV0 :=
  { eventBaseDivergence .stableFieldMissingRight
    (eventPath leftIndex (bytesOf "stable." ++ field.name)) (some (left, leftIndex))
    (some (right, rightIndex)) with fieldName := some field.name, leftValue := some field.value }

/-- A divergence at a field that the left event does not have. -/
def missingLeft (field : TraceFieldV0) : TraceDivergenceV0 :=
  { eventBaseDivergence .stableFieldMissingLeft
    (eventPath rightIndex (bytesOf "stable." ++ field.name)) (some (left, leftIndex))
    (some (right, rightIndex)) with fieldName := some field.name, rightValue := some field.value }

/-- A divergence at a field that the events have with two values. -/
def valueMismatch (leftField rightField : TraceFieldV0) : TraceDivergenceV0 :=
  { eventBaseDivergence .stableFieldValueMismatch
      (eventPath leftIndex (bytesOf "stable." ++ leftField.name)) (some (left, leftIndex))
      (some (right, rightIndex)) with
    fieldName := some leftField.name
    leftValue := some leftField.value
    rightValue := some rightField.value }

/-- The loop of `compare_stable_fields`, at the fields that are left of each event. -/
def compareFieldsFrom (leftFields rightFields : List TraceFieldV0) : Option TraceDivergenceV0 :=
  match _h : leftFields.dropWhile fun field => fieldIgnored policy left field.name,
    rightFields.dropWhile fun field => fieldIgnored policy right field.name with
  | [], [] => none
  | [], rightField :: _ => some (missingLeft left leftIndex right rightIndex rightField)
  | leftField :: _, [] => some (missingRight left leftIndex right rightIndex leftField)
  | leftField :: leftRest, rightField :: rightRest =>
    if leftField.name < rightField.name then
      some (missingRight left leftIndex right rightIndex leftField)
    else if rightField.name < leftField.name then
      some (missingLeft left leftIndex right rightIndex rightField)
    else if leftField.value ≠ rightField.value then
      some (valueMismatch left leftIndex right rightIndex leftField rightField)
    else compareFieldsFrom leftRest rightRest
  termination_by leftFields.length
  decreasing_by
    have hlength : (leftFields.dropWhile fun field => fieldIgnored policy left field.name).length ≤
        leftFields.length :=
      (List.dropWhile_suffix _).length_le
    rw [_h, List.length_cons] at hlength
    omega

/-- `compare_stable_fields`. -/
def compareStableFields : Option TraceDivergenceV0 :=
  compareFieldsFrom policy left leftIndex right rightIndex left.stable right.stable

end Fields

/-! ### The walk over the events -/

/-- `distance_to_identity`, over the events from `start` on: the largest `std::size_t` where none is
like `target`. -/
def distanceToIdentity (events : List TraceEventV0) (target : TraceEventV0) : ℕ :=
  match events.findIdx? fun event => eventIdentityEqual event target with
  | some index => index + 1
  | none => 2 ^ 64 - 1

/-- How two events at one index part, where they do not look alike. -/
def identityDivergence (index : ℕ) (left right : TraceEventV0)
    (leftRest rightRest : List TraceEventV0) : TraceDivergenceV0 :=
  let insertionDistance := distanceToIdentity rightRest left
  let deletionDistance := distanceToIdentity leftRest right
  if insertionDistance < deletionDistance then
    { eventBaseDivergence .eventInsertion (bytesOf "events") (some (left, index))
      (some (right, index)) with eventCount := insertionDistance }
  else if deletionDistance < insertionDistance then
    { eventBaseDivergence .eventDeletion (bytesOf "events") (some (left, index))
      (some (right, index)) with eventCount := deletionDistance }
  else eventBaseDivergence .eventIdentityMismatch (bytesOf "events") (some (left, index))
    (some (right, index))

/-- How two events at one index part, where they look alike. -/
def eventDivergence (policy : TraceDiffPolicyV0) (index : ℕ) (left right : TraceEventV0) :
    Option TraceDivergenceV0 :=
  if policy.compareEventIds = true ∧ left.id ≠ right.id then
    some { eventBaseDivergence .eventIdMismatch (eventPath index (bytesOf "id"))
        (some (left, index)) (some (right, index)) with
      leftValue := some (.u64 left.id), rightValue := some (.u64 right.id) }
  else compareStableFields policy left index right index

/-- The loop of `diff_trace_v0` and what follows it, behind `matched` pairs of events. The two
indices of the loop are both `matched`. The result is the number of pairs that match and where the
traces part behind them. -/
def diffEvents (policy : TraceDiffPolicyV0) :
    (matched : ℕ) → (left right : List TraceEventV0) → ℕ × Option TraceDivergenceV0
  | matched, [], [] => (matched, none)
  | matched, left :: leftRest, [] =>
    (matched, some { eventBaseDivergence .eventDeletion (bytesOf "events")
      (some (left, matched)) none with eventCount := leftRest.length + 1 })
  | matched, [], right :: rightRest =>
    (matched, some { eventBaseDivergence .eventInsertion (bytesOf "events") none
      (some (right, matched)) with eventCount := rightRest.length + 1 })
  | matched, left :: leftRest, right :: rightRest =>
    if eventIdentityEqual left right then
      match eventDivergence policy matched left right with
      | some divergence => (matched, some divergence)
      | none => diffEvents policy (matched + 1) leftRest rightRest
    else (matched, some (identityDivergence matched left right leftRest rightRest))

/-- The comparison of two normalised traces. -/
def traceDivergence (policy : TraceDiffPolicyV0) (left right : TraceDocumentV0) :
    ℕ × Option TraceDivergenceV0 :=
  match compareRunMetadata left.run right.run with
  | some divergence => (0, some divergence)
  | none => diffEvents policy 0 left.events right.events

/-- The result for a comparison. Only a divergence is built of copies. -/
def diffResult (host : Host) :
    ℕ × Option TraceDivergenceV0 → Except TraceDiffError TraceDiffResultV0
  | (matched, none) => .ok ⟨true, matched, none⟩
  | (matched, some divergence) => do
    allocate host .traceDivergence ⟨.hostAllocationFailure, none⟩ ⟨.hostAllocationFailure, none⟩
    return ⟨false, matched, some divergence⟩

/-- `diff_trace_v0`. -/
def diffTraceV0 (host : Host) (left right : TraceDocumentV0) (policy : TraceDiffPolicyV0) :
    Except TraceDiffError TraceDiffResultV0 := do
  let selectedPolicy ← normalizePolicy policy
  let lhs ← (normalizeTraceV0 left).mapError fun error => ⟨.invalidLeftTrace, some error⟩
  let rhs ← (normalizeTraceV0 right).mapError fun error => ⟨.invalidRightTrace, some error⟩
  diffResult host (traceDivergence selectedPolicy lhs rhs)

/-! ### What the merge of two lists of fields decides -/

theorem strictlyOrders_stringLess : StrictlyOrders stringLess where
  irrefl a := by simp [stringLess, List.lt_irrefl]
  trans a b c hab hbc := by
    simp only [stringLess, decide_eq_true_eq] at *
    exact List.lt_trans hab hbc
  connected a b hab hba := by
    simp only [stringLess, decide_eq_false_iff_not] at *
    exact List.le_antisymm (List.not_lt.mp hba) (List.not_lt.mp hab)

variable {α : Type} {event : TraceEventV0}

theorem filter_dropWhile (p : α → Bool) (xs : List α) :
    (xs.dropWhile p).filter (fun x => !p x) = xs.filter fun x => !p x := by
  induction xs with
  | nil => rfl
  | cons x xs ih =>
    cases hx : p x with
    | true => rw [List.dropWhile_cons_of_pos hx, ih, List.filter_cons_of_neg (by simp [hx])]
    | false => rw [List.dropWhile_cons_of_neg (by simp [hx])]

variable {p : α → Bool} {fields : List TraceFieldV0} {field : TraceFieldV0} {host : Host}

/-- What is left of a list behind its first elements with `p` starts without `p`. -/
theorem filter_of_dropWhile {xs rest : List α} {x : α} (h : xs.dropWhile p = x :: rest) :
    xs.filter (fun x => !p x) = x :: rest.filter fun x => !p x := by
  have hx : p x = false := by
    have hne : xs.dropWhile p ≠ [] := by simp [h]
    have hhead := List.head_dropWhile_not p hne
    simpa [h] using hhead
  rw [← filter_dropWhile, h, List.filter_cons_of_pos (by simp [hx])]

theorem filter_of_dropWhile_nil {xs : List α} (h : xs.dropWhile p = []) :
    xs.filter (fun x => !p x) = [] := by
  rw [← filter_dropWhile, h, List.filter_nil]

/-- The fields of an event that count under a policy. -/
def comparedFields (policy : TraceDiffPolicyV0) (event : TraceEventV0)
    (fields : List TraceFieldV0) : List TraceFieldV0 :=
  fields.filter fun field => !fieldIgnored policy event field.name

/-- **The merge finds no difference exactly when the fields that count are the same.** -/
theorem compareFieldsFrom_eq_none (policy : TraceDiffPolicyV0) (left : TraceEventV0) (leftIndex : ℕ)
    (right : TraceEventV0) (rightIndex : ℕ) (leftFields rightFields : List TraceFieldV0) :
    compareFieldsFrom policy left leftIndex right rightIndex leftFields rightFields = none ↔
      comparedFields policy left leftFields = comparedFields policy right rightFields := by
  fun_induction compareFieldsFrom policy left leftIndex right rightIndex leftFields rightFields with
  | case1 leftFields rightFields hleft hright =>
    simp [comparedFields, filter_of_dropWhile_nil hleft, filter_of_dropWhile_nil hright]
  | case2 leftFields rightFields rightField rest hleft hright =>
    simp [comparedFields, filter_of_dropWhile_nil hleft, filter_of_dropWhile hright]
  | case3 leftFields rightFields leftField rest hleft hright =>
    simp [comparedFields, filter_of_dropWhile hleft, filter_of_dropWhile_nil hright]
  | case4 leftFields rightFields leftField leftRest rightField rightRest hleft hright hless =>
    simp only [comparedFields, filter_of_dropWhile hleft, filter_of_dropWhile hright, reduceCtorEq,
      false_iff, List.cons.injEq]
    rintro ⟨rfl, -⟩
    exact List.lt_irrefl _ hless
  | case5 leftFields rightFields leftField leftRest rightField rightRest hleft hright _ hgreater =>
    simp only [comparedFields, filter_of_dropWhile hleft, filter_of_dropWhile hright, reduceCtorEq,
      false_iff, List.cons.injEq]
    rintro ⟨rfl, -⟩
    exact List.lt_irrefl _ hgreater
  | case6 leftFields rightFields leftField leftRest rightField rightRest hleft hright _ _ hvalue =>
    simp only [comparedFields, filter_of_dropWhile hleft, filter_of_dropWhile hright, reduceCtorEq,
      false_iff, List.cons.injEq]
    rintro ⟨rfl, -⟩
    exact hvalue rfl
  | case7 leftFields rightFields leftField leftRest rightField rightRest hleft hright hless hgreater
      hvalue ih =>
    have hname : leftField.name = rightField.name :=
      List.le_antisymm (List.not_lt.mp hgreater) (List.not_lt.mp hless)
    have hfield : leftField = rightField := TraceFieldV0.ext hname (not_not.mp hvalue)
    rw [ih]
    simp only [comparedFields, filter_of_dropWhile hleft, filter_of_dropWhile hright,
      List.cons.injEq, hfield, true_and]

/-! ### What the walk over two traces decides -/

theorem compareRunMetadata_eq_none {left right : TraceRunMetadataV0} :
    compareRunMetadata left right = none ↔ left = right := by
  unfold compareRunMetadata
  constructor
  · intro h
    split_ifs at h with h₁ h₂ h₃ h₄ h₅ h₆
    simp only [ne_eq, not_not] at *
    exact TraceRunMetadataV0.ext h₁ h₂ h₃ h₄ h₅ h₆
  · rintro rfl
    simp

/-- The same event under a policy, for events with their fields in order. -/
def SameEvent (policy : TraceDiffPolicyV0) (left right : TraceEventV0) : Prop :=
  eventIdentityEqual left right = true ∧ (policy.compareEventIds = true → left.id = right.id) ∧
    comparedFields policy left left.stable = comparedFields policy right right.stable

theorem eventDivergence_eq_none {policy : TraceDiffPolicyV0} {index : ℕ}
    {left right : TraceEventV0} :
    eventDivergence policy index left right = none ↔
      (policy.compareEventIds = true → left.id = right.id) ∧
        comparedFields policy left left.stable = comparedFields policy right right.stable := by
  unfold eventDivergence
  split_ifs with hid
  · simp only [false_iff, not_and]
    intro hids
    exact absurd (hids hid.1) hid.2
  · rw [compareStableFields, compareFieldsFrom_eq_none]
    rw [not_and, not_not] at hid
    exact (and_iff_right hid).symm

theorem diffEvents_eq_none {policy : TraceDiffPolicyV0} {matched : ℕ}
    {left right : List TraceEventV0} :
    (diffEvents policy matched left right).2 = none ↔
    List.Forall₂ (SameEvent policy) left right := by
  induction left generalizing matched right with
  | nil => cases right <;> simp [diffEvents]
  | cons left leftRest ih =>
    cases right with
    | nil => simp [diffEvents]
    | cons right rightRest =>
      rw [List.forall₂_cons, diffEvents, SameEvent, ← eventDivergence_eq_none]
      cases hidentity : eventIdentityEqual left right with
      | false => simp
      | true =>
        cases hdivergence : eventDivergence policy matched left right with
        | some divergence => simp
        | none => simpa using ih

theorem traceDivergence_eq_none {policy : TraceDiffPolicyV0} {left right : TraceDocumentV0} :
    (traceDivergence policy left right).2 = none ↔
      left.run = right.run ∧ List.Forall₂ (SameEvent policy) left.events right.events := by
  rw [← compareRunMetadata_eq_none, ← @diffEvents_eq_none policy 0, traceDivergence]
  cases compareRunMetadata left.run right.run <;> simp

/-! ### Equivalence of traces -/

/-- A policy that is accepted. -/
structure ValidPolicy (policy : TraceDiffPolicyV0) : Prop where
  rules : ∀ rule ∈ policy.ignoredStableFields, validIgnoreRule rule = true
  nodup : policy.ignoredStableFields.Nodup

/-- Events that a policy does not tell apart. -/
structure EventEquivalent (policy : TraceDiffPolicyV0) (left right : TraceEventV0) : Prop where
  subsystem : left.subsystem = right.subsystem
  type : left.type = right.type
  guest : left.guest = right.guest
  id : policy.compareEventIds = true → left.id = right.id
  fields : ∀ field, field ∈ comparedFields policy left left.stable ↔
    field ∈ comparedFields policy right right.stable

/-- Traces that a policy does not tell apart. -/
structure TraceEquivalent (policy : TraceDiffPolicyV0) (left right : TraceDocumentV0) : Prop where
  run : left.run = right.run
  events : List.Forall₂ (EventEquivalent policy) left.events right.events

/-- Events that differ in the order of their fields and in their diagnostics only. -/
structure SameBehaviour (event event' : TraceEventV0) : Prop where
  id : event.id = event'.id
  subsystem : event.subsystem = event'.subsystem
  type : event.type = event'.type
  guest : event.guest = event'.guest
  stable : event.stable.Perm event'.stable

/-- `diff_trace_v0` reports that the traces are equivalent. -/
def ReportsEquivalent (host : Host) (left right : TraceDocumentV0) (policy : TraceDiffPolicyV0) :
    Prop :=
  ∃ result, diffTraceV0 host left right policy = .ok result ∧ result.equivalent = true

theorem strictlyOrders_ignoreRuleLess : StrictlyOrders ignoreRuleLess := by
  have h := strictlyOrders_stringLess
  have hkey : Function.Injective fun rule :
      TraceStableFieldIgnoreRuleV0 => (rule.subsystem, rule.type, rule.field) := by
    intro a b hab
    cases a
    cases b
    simpa using hab
  exact (h.option.pair (h.option.pair h)).comap hkey

theorem normalizePolicy_eq_ok {policy policy' : TraceDiffPolicyV0} :
    normalizePolicy policy = .ok policy' ↔
      ValidPolicy policy ∧
      { policy with ignoredStableFields := sortRules policy.ignoredStableFields } = policy' := by
  simp only [normalizePolicy, bind_eq_ok, refuseIf_eq_ok, pure_eq_ok, exists_const,
    Bool.not_eq_true]
  rw [sortRules, strictlyOrders_ignoreRuleLess.ordersKeys.neighbours_sortByKey, List.map_id]
  constructor
  · rintro ⟨⟨⟩, hrules, hnodup, hsorted⟩
    rw [forM_eq_ok] at hrules
    refine ⟨⟨?_, hnodup⟩, hsorted⟩
    intro rule hrule
    have := hrules rule hrule
    simpa using this
  · rintro ⟨hvalid, hsorted⟩
    refine ⟨(), forM_eq_ok.mpr ?_, hvalid.nodup, hsorted⟩
    intro rule hrule
    simpa using hvalid.rules rule hrule

/-- The order of the rules does not matter for what is ignored. -/
theorem fieldIgnored_congr {policy policy' : TraceDiffPolicyV0}
    (hrules : ∀ rule, rule ∈ policy.ignoredStableFields ↔ rule ∈ policy'.ignoredStableFields) :
    fieldIgnored policy = fieldIgnored policy' := by
  funext event field
  rw [Bool.eq_iff_iff, fieldIgnored, fieldIgnored, List.any_eq_true, List.any_eq_true]
  simp only [hrules]

theorem EventEquivalent.congr_policy {policy policy' : TraceDiffPolicyV0}
    {left right : TraceEventV0} (hids : policy.compareEventIds = policy'.compareEventIds)
    (hrules : ∀ rule, rule ∈ policy.ignoredStableFields ↔ rule ∈ policy'.ignoredStableFields) :
    EventEquivalent policy left right ↔ EventEquivalent policy' left right := by
  have hfields : comparedFields policy = comparedFields policy' := by
    funext event fields
    simp only [comparedFields, fieldIgnored_congr hrules]
  constructor
  · rintro ⟨hsubsystem, htype, hguest, hid, hsame⟩
    exact ⟨hsubsystem, htype, hguest, hids ▸ hid, hfields ▸ hsame⟩
  · rintro ⟨hsubsystem, htype, hguest, hid, hsame⟩
    exact ⟨hsubsystem, htype, hguest, hids ▸ hid, hfields ▸ hsame⟩

theorem TraceEquivalent.congr_policy {policy policy' : TraceDiffPolicyV0}
    {left right : TraceDocumentV0} (hids : policy.compareEventIds = policy'.compareEventIds)
    (hrules : ∀ rule, rule ∈ policy.ignoredStableFields ↔ rule ∈ policy'.ignoredStableFields) :
    TraceEquivalent policy left right ↔ TraceEquivalent policy' left right := by
  have hevents : EventEquivalent policy = EventEquivalent policy' := by
    funext left right
    exact propext (EventEquivalent.congr_policy hids hrules)
  constructor
  · rintro ⟨hrun, hsame⟩
    exact ⟨hrun, hevents ▸ hsame⟩
  · rintro ⟨hrun, hsame⟩
    exact ⟨hrun, hevents ▸ hsame⟩

theorem fieldIgnored_of_identity {left right : TraceEventV0}
    (hsubsystem : left.subsystem = right.subsystem) (htype : left.type = right.type)
    (policy : TraceDiffPolicyV0) : fieldIgnored policy left = fieldIgnored policy right := by
  funext field
  unfold fieldIgnored
  congr 1
  funext rule
  simp only [ruleApplies, hsubsystem, htype]

/-- The fields of an event that count, once its fields are in order. -/
theorem pairwise_comparedFields (policy : TraceDiffPolicyV0) (event : TraceEventV0)
    (fields : List TraceFieldV0) :
    (comparedFields policy event (sortFields fields)).Pairwise fun a b =>
      stringLe a.name b.name = true :=
  (ordersKeys_stringLe.pairwise_sortByKey TraceFieldV0.name fields).filter _

theorem nodup_comparedFields (hfields : ValidFields fields) (policy : TraceDiffPolicyV0)
    (event : TraceEventV0) :
    ((comparedFields policy event (sortFields fields)).map TraceFieldV0.name).Nodup := by
  have hsorted : ((sortFields fields).map TraceFieldV0.name).Nodup :=
    ((sortByKey_perm stringLe TraceFieldV0.name fields).map _).nodup_iff.mpr hfields.nodup
  exact hsorted.sublist (List.filter_sublist.map _)

theorem mem_comparedFields_sortEvent {policy : TraceDiffPolicyV0} :
    field ∈ comparedFields policy (sortEvent event) (sortEvent event).stable ↔
    field ∈ comparedFields policy event event.stable := by
  have hsame : fieldIgnored policy (sortEvent event) = fieldIgnored policy event :=
    fieldIgnored_of_identity rfl rfl policy
  have hmem : field ∈ (sortEvent event).stable ↔ field ∈ event.stable := mem_sortByKey
  simp only [comparedFields, List.mem_filter, hsame, hmem]

theorem mem_sortRules {rules : List TraceStableFieldIgnoreRuleV0}
    {rule : TraceStableFieldIgnoreRuleV0} :
    rule ∈ sortRules rules ↔ rule ∈ rules := mem_sortByKey

/-- Two valid events are the same once in order exactly when they are equivalent. -/
theorem sameEvent_sortEvent {policy : TraceDiffPolicyV0} {left right : TraceEventV0}
    (hleft : ValidEvent left) (hright : ValidEvent right) :
    SameEvent policy (sortEvent left) (sortEvent right) ↔ EventEquivalent policy left right := by
  simp only [SameEvent, eventIdentityEqual, Bool.and_eq_true, beq_iff_eq]
  constructor
  · rintro ⟨⟨⟨hsubsystem, htype⟩, hguest⟩, hid, hfields⟩
    refine ⟨hsubsystem, htype, hguest, hid, ?_⟩
    intro field
    rw [← mem_comparedFields_sortEvent, hfields, mem_comparedFields_sortEvent]
  · rintro ⟨hsubsystem, htype, hguest, hid, hfields⟩
    refine ⟨⟨⟨hsubsystem, htype⟩, hguest⟩, hid, ?_⟩
    refine ordersKeys_stringLe.eq_of_mem_iff (pairwise_comparedFields policy _ left.stable)
      (pairwise_comparedFields policy _ right.stable) (nodup_comparedFields hleft.stable policy _)
      (nodup_comparedFields hright.stable policy _) ?_
    intro field
    rw [mem_comparedFields_sortEvent, mem_comparedFields_sortEvent]
    exact hfields field

theorem forall₂_sortEvent {policy : TraceDiffPolicyV0} {left right : List TraceEventV0}
    (hleft : ∀ event ∈ left, ValidEvent event) (hright : ∀ event ∈ right, ValidEvent event) :
    List.Forall₂ (SameEvent policy) (left.map sortEvent) (right.map sortEvent) ↔
      List.Forall₂ (EventEquivalent policy) left right := by
  rw [List.forall₂_map_left_iff, List.forall₂_map_right_iff]
  induction left generalizing right with
  | nil => cases right <;> simp
  | cons left leftRest ih =>
    cases right with
    | nil => simp
    | cons right rightRest =>
      rw [List.forall_mem_cons] at hleft hright
      rw [List.forall₂_cons, List.forall₂_cons, sameEvent_sortEvent hleft.1 hright.1,
        ih hleft.2 hright.2]

/-- Without a divergence the result says so, with one it does not. -/
theorem diffResult_equivalent {comparison : ℕ × Option TraceDivergenceV0} :
    (∃ result, diffResult host comparison = .ok result ∧ result.equivalent = true) ↔
    comparison.2 = none := by
  obtain ⟨matched, divergence⟩ := comparison
  cases divergence with
  | none => simp [diffResult]
  | some divergence =>
    simp only [diffResult, bind_eq_ok, pure_eq_ok, reduceCtorEq, iff_false, not_exists, not_and]
    rintro result ⟨⟨⟩, -, rfl⟩
    simp

/-- **`diff_trace_v0` decides equivalence**, of valid traces under a valid policy. -/
theorem reportsEquivalent_iff {left right : TraceDocumentV0} {policy : TraceDiffPolicyV0} :
    ReportsEquivalent host left right policy ↔
      ValidPolicy policy ∧ ValidTrace left ∧ ValidTrace right ∧
      TraceEquivalent policy left right := by
  have hequivalent (hleft : ValidTrace left) (hright : ValidTrace right) :
      (traceDivergence { policy with ignoredStableFields := sortRules policy.ignoredStableFields }
        (sortTrace left) (sortTrace right)).2 = none ↔ TraceEquivalent policy left right := by
    rw [traceDivergence_eq_none, sortTrace, sortTrace, forall₂_sortEvent hleft.events hright.events]
    have hcongr := @TraceEquivalent.congr_policy
      { policy with ignoredStableFields := sortRules policy.ignoredStableFields } policy left right
        rfl
      fun rule => mem_sortRules
    rw [← hcongr]
    exact ⟨fun h => ⟨h.1, h.2⟩, fun h => ⟨h.run, h.events⟩⟩
  unfold ReportsEquivalent
  simp only [diffTraceV0, bind_eq_ok, mapError_eq_ok, normalizePolicy_eq_ok, normalizeTraceV0_eq_ok]
  constructor
  · rintro ⟨result, ⟨_, ⟨hpolicy, rfl⟩, _, ⟨hleft, rfl⟩, _, ⟨hright, rfl⟩, hresult⟩, hreported⟩
    exact ⟨hpolicy, hleft, hright,
      (hequivalent hleft hright).mp (diffResult_equivalent.mp ⟨result, hresult, hreported⟩)⟩
  · rintro ⟨hpolicy, hleft, hright, hsame⟩
    obtain ⟨result, hresult, hreported⟩ :=
      diffResult_equivalent.mpr ((hequivalent hleft hright).mpr hsame)
    exact ⟨result, ⟨_, ⟨hpolicy, rfl⟩, _, ⟨hleft, rfl⟩, _, ⟨hright, rfl⟩, hresult⟩, hreported⟩

/-! ### What follows for the relation -/

section Relation

variable {policy policy' : TraceDiffPolicyV0} {left middle right left' right' : TraceDocumentV0}

theorem EventEquivalent.refl (policy : TraceDiffPolicyV0) (event : TraceEventV0) :
    EventEquivalent policy event event :=
  ⟨rfl, rfl, rfl, fun _ => rfl, fun _ => Iff.rfl⟩

theorem EventEquivalent.symm {left right : TraceEventV0} (h : EventEquivalent policy left right) :
    EventEquivalent policy right left :=
  ⟨h.subsystem.symm, h.type.symm, h.guest.symm, fun hids => (h.id hids).symm,
    fun field => (h.fields field).symm⟩

theorem EventEquivalent.trans {left middle right : TraceEventV0}
    (h : EventEquivalent policy left middle) (h' : EventEquivalent policy middle right) :
    EventEquivalent policy left right :=
  ⟨h.subsystem.trans h'.subsystem, h.type.trans h'.type, h.guest.trans h'.guest, fun hids =>
    (h.id hids).trans (h'.id hids), fun field => (h.fields field).trans (h'.fields field)⟩

/-- A relation that is transitive is so element by element. -/
theorem forall₂_trans {r : α → α → Prop} (htrans : ∀ a b c, r a b → r b c → r a c)
    {xs ys zs : List α} (hxy : List.Forall₂ r xs ys) (hyz : List.Forall₂ r ys zs) :
    List.Forall₂ r xs zs := by
  induction hxy generalizing zs with
  | nil => exact hyz
  | cons hab _ ih =>
    cases hyz with
    | cons hbc hrest => exact .cons (htrans _ _ _ hab hbc) (ih hrest)

theorem TraceEquivalent.refl (policy : TraceDiffPolicyV0) (trace : TraceDocumentV0) :
    TraceEquivalent policy trace trace :=
  ⟨rfl, List.forall₂_same.mpr fun event _ => EventEquivalent.refl policy event⟩

theorem TraceEquivalent.symm (h : TraceEquivalent policy left right) :
    TraceEquivalent policy right left := by
  refine ⟨h.run.symm, List.Forall₂.flip ?_⟩
  exact h.events.imp fun _ _ hevent => hevent.symm

theorem TraceEquivalent.trans (h : TraceEquivalent policy left middle)
    (h' : TraceEquivalent policy middle right) :
    TraceEquivalent policy left right := by
  refine ⟨h.run.trans h'.run, forall₂_trans ?_ h.events h'.events⟩
  intro a b c hab hbc
  exact hab.trans hbc

/-- Events that behave the same are equivalent under every policy. -/
theorem SameBehaviour.eventEquivalent {event' : TraceEventV0} (h : SameBehaviour event event') :
    EventEquivalent policy event event' := by
  refine ⟨h.subsystem, h.type, h.guest, fun _ => h.id, ?_⟩
  intro field
  rw [comparedFields, comparedFields, fieldIgnored_of_identity h.subsystem h.type, List.mem_filter,
    List.mem_filter, h.stable.mem_iff]

theorem fieldIgnored_mono (hrules : policy.ignoredStableFields ⊆ policy'.ignoredStableFields)
    {field : ByteString} (h : fieldIgnored policy event field = true) :
    fieldIgnored policy' event field = true := by
  rw [fieldIgnored, List.any_eq_true] at *
  obtain ⟨rule, hrule, happlies⟩ := h
  exact ⟨rule, hrules hrule, happlies⟩

/-- The fields that count under more rules are among those that count under fewer. -/
theorem comparedFields_mono (hrules : policy.ignoredStableFields ⊆ policy'.ignoredStableFields) :
    field ∈ comparedFields policy' event fields ↔
      field ∈ comparedFields policy event fields ∧
      fieldIgnored policy' event field.name = false := by
  simp only [comparedFields, List.mem_filter, Bool.not_eq_true']
  constructor
  · rintro ⟨hmem, hcounts⟩
    refine ⟨⟨hmem, ?_⟩, hcounts⟩
    by_contra hignored
    rw [Bool.not_eq_false] at hignored
    rw [fieldIgnored_mono hrules hignored] at hcounts
    cases hcounts
  · rintro ⟨⟨hmem, -⟩, hcounts⟩
    exact ⟨hmem, hcounts⟩

section

variable (hids : policy'.compareEventIds = policy.compareEventIds)
  (hrules : policy.ignoredStableFields ⊆ policy'.ignoredStableFields)

include hids hrules

theorem EventEquivalent.mono {left right : TraceEventV0} (h : EventEquivalent policy left right) :
    EventEquivalent policy' left right := by
  refine ⟨h.subsystem, h.type, h.guest, hids ▸ h.id, ?_⟩
  intro field
  rw [comparedFields_mono hrules, comparedFields_mono hrules, h.fields field,
    fieldIgnored_of_identity h.subsystem h.type]

theorem TraceEquivalent.mono (h : TraceEquivalent policy left right) :
    TraceEquivalent policy' left right :=
  ⟨h.run, h.events.imp fun _ _ hevent => hevent.mono hids hrules⟩

end

/-- Traces of the same run whose events behave the same; provenance and diagnostics do not count. -/
def SameRun (trace trace' : TraceDocumentV0) : Prop :=
  trace.run = trace'.run ∧ List.Forall₂ SameBehaviour trace.events trace'.events

theorem SameRun.traceEquivalent (h : SameRun left right) : TraceEquivalent policy left right :=
  ⟨h.1, h.2.imp fun _ _ hevent => hevent.eventEquivalent⟩

theorem SameRun.congr (hleft : SameRun left left') (hright : SameRun right right') :
    TraceEquivalent policy left right ↔ TraceEquivalent policy left' right' := by
  constructor
  · intro h
    exact hleft.traceEquivalent.symm.trans (h.trans hright.traceEquivalent)
  · intro h
    exact hleft.traceEquivalent.trans (h.trans hright.traceEquivalent.symm)

end Relation

theorem ValidPolicy.perm {policy policy' : TraceDiffPolicyV0} (h : ValidPolicy policy)
    (hrules : policy.ignoredStableFields.Perm policy'.ignoredStableFields) : ValidPolicy policy' :=
  ⟨fun rule hrule => h.rules rule (hrules.mem_iff.mpr hrule), hrules.nodup_iff.mp h.nodup⟩

theorem diffTraceV0_isOk {policy : TraceDiffPolicyV0} {left right : TraceDocumentV0}
    (hhost : host.allocation .traceDivergence = none) (hpolicy : ValidPolicy policy)
    (hleft : ValidTrace left) (hright : ValidTrace right) :
    ∃ result, diffTraceV0 host left right policy = .ok result := by
  have hresult : ∀ comparison, ∃ result, diffResult host comparison = .ok result := by
    rintro ⟨matched, divergence⟩
    cases divergence with
    | none => exact ⟨_, rfl⟩
    | some divergence =>
      simp only [diffResult, bind_eq_ok, allocate_eq_ok, hhost, pure_eq_ok, exists_const, true_and,
        exists_eq']
  simp only [diffTraceV0, bind_eq_ok, mapError_eq_ok, normalizePolicy_eq_ok, normalizeTraceV0_eq_ok]
  obtain ⟨result, hresult⟩ := hresult (traceDivergence
    { policy with ignoredStableFields := sortRules policy.ignoredStableFields } (sortTrace left)
      (sortTrace right))
  exact ⟨result, _, ⟨hpolicy, rfl⟩, _, ⟨hleft, rfl⟩, _, ⟨hright, rfl⟩, hresult⟩

/-- **The diff of traces is an equivalence.** It holds of the runs and the pairs of events, forgets
provenance, diagnostics and the order of fields and rules, and does not get finer with more rules.
-/
theorem diffTraceV0_equivalence (host : Host) :
    (∀ policy left right, ValidPolicy policy → ValidTrace left → ValidTrace right →
      (ReportsEquivalent host left right policy ↔ TraceEquivalent policy left right) ∧
      (host.allocation .traceDivergence = none →
        ∃ result, diffTraceV0 host left right policy = .ok result)) ∧
    (∀ policy, ValidPolicy policy →
      (∀ trace, ValidTrace trace → ReportsEquivalent host trace trace policy) ∧
      (∀ left right, ReportsEquivalent host left right policy →
        ReportsEquivalent host right left policy) ∧
      (∀ left middle right, ReportsEquivalent host left middle policy →
        ReportsEquivalent host middle right policy →
        ReportsEquivalent host left right policy)) ∧
    (∀ policy left right left' right', ValidTrace left → ValidTrace right → ValidTrace left' →
      ValidTrace right' → SameRun left left' → SameRun right right' →
    (ReportsEquivalent host left right policy ↔ ReportsEquivalent host left' right' policy)) ∧
    (∀ policy policy' left right, policy.compareEventIds = policy'.compareEventIds →
      policy.ignoredStableFields.Perm policy'.ignoredStableFields →
      (ReportsEquivalent host left right policy ↔ ReportsEquivalent host left right policy')) ∧
    (∀ policy policy' left right, ValidPolicy policy' →
      policy'.compareEventIds = policy.compareEventIds →
    policy.ignoredStableFields ⊆ policy'.ignoredStableFields →
    ReportsEquivalent host left right policy → ReportsEquivalent host left right policy') := by
  simp only [reportsEquivalent_iff]
  refine ⟨?_, ?_, ?_, ?_, ?_⟩
  · intro policy left right hpolicy hleft hright
    refine ⟨⟨fun h => h.2.2.2, fun h => ⟨hpolicy, hleft, hright, h⟩⟩, ?_⟩
    intro hhost
    exact diffTraceV0_isOk hhost hpolicy hleft hright
  · intro policy hpolicy
    refine ⟨fun trace htrace => ⟨hpolicy, htrace, htrace, TraceEquivalent.refl policy trace⟩, ?_,
      ?_⟩
    · rintro left right ⟨-, hleft, hright, h⟩
      exact ⟨hpolicy, hright, hleft, h.symm⟩
    · rintro left middle right ⟨-, hleft, -, h⟩ ⟨-, -, hright, h'⟩
      exact ⟨hpolicy, hleft, hright, h.trans h'⟩
  · intro policy left right left' right' hleft hright hleft' hright' hsame hsame'
    rw [hsame.congr hsame']
    constructor
    · rintro ⟨hpolicy, -, -, h⟩
      exact ⟨hpolicy, hleft', hright', h⟩
    · rintro ⟨hpolicy, -, -, h⟩
      exact ⟨hpolicy, hleft, hright, h⟩
  · intro policy policy' left right hids hrules
    rw [TraceEquivalent.congr_policy hids fun _ => hrules.mem_iff]
    constructor
    · rintro ⟨hpolicy, h⟩
      exact ⟨hpolicy.perm hrules, h⟩
    · rintro ⟨hpolicy, h⟩
      exact ⟨hpolicy.perm hrules.symm, h⟩
  · rintro policy policy' left right hpolicy hids hrules ⟨-, hleft, hright, h⟩
    exact ⟨hpolicy, hleft, hright, h.mono hids hrules⟩

/-- A trace that `name` has written, with one event. -/
def exampleTrace (name : String) (fields : List TraceFieldV0) : TraceDocumentV0 where
  run := ⟨bytesOf "emulator", bytesOf "desktop", bytesOf "x86_64", none, none, none⟩
  provenance := ⟨bytesOf "emulator", ⟨bytesOf name, bytesOf "1", none⟩, []⟩
  events := [⟨1, bytesOf "cpu", bytesOf "step", none, fields, []⟩]
  diagnostics := []

/-- A policy that ignores the field `time` of the events of the processor. -/
def examplePolicy : TraceDiffPolicyV0 :=
  { ignoredStableFields := [⟨some (bytesOf "cpu"), none, bytesOf "time"⟩] }

/-- Two traces that part in the order of their fields, in an ignored field and in who wrote them. -/
theorem exampleTraces_equivalent :
    ReportsEquivalent Host.plentiful
      (exampleTrace "one" [⟨bytesOf "time", .u64 7⟩, ⟨bytesOf "result", .bool true⟩])
      (exampleTrace "two" [⟨bytesOf "result", .bool true⟩, ⟨bytesOf "time", .u64 9⟩])
        examplePolicy := by
  have hpolicy : ValidPolicy examplePolicy := ⟨by decide, by decide⟩
  have hleft :
      ValidTrace (exampleTrace "one" [⟨bytesOf "time", .u64 7⟩, ⟨bytesOf "result", .bool true⟩]) :=
    (validTrace_iff _).mpr (by decide)
  have hright :
      ValidTrace (exampleTrace "two" [⟨bytesOf "result", .bool true⟩, ⟨bytesOf "time", .u64 9⟩]) :=
    (validTrace_iff _).mpr (by decide)
  refine (((diffTraceV0_equivalence Host.plentiful).1 _ _ _ hpolicy hleft hright).1).mpr ⟨rfl, ?_⟩
  refine .cons ⟨rfl, rfl, rfl, fun _ => rfl, ?_⟩ .nil
  intro field
  exact Iff.rfl

end Astraea.Trace
