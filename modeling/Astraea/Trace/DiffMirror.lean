import Astraea.Base.CommonPrefix
import Astraea.Base.Path
import Astraea.Trace.Diff

/-!
# The difference of two traces, seen from the other side

`diff_trace_v0` has a left and a right trace, and code for either side. With the traces exchanged
it reports the mirror image: `diffTraceV0_mirror`. The number of events that match is the length
of the longest prefix on which the traces are alike, and a number of inserted or deleted events is
the least one behind which the traces look alike again.
-/

namespace Astraea.Trace

open Astraea.Base Astraea.Core

/-! ### Mirror images -/

/-- What is inserted on one side is deleted on the other, and what one side misses the other has. -/
def TraceDivergenceKindV0.mirror : TraceDivergenceKindV0 → TraceDivergenceKindV0
  | .eventInsertion => .eventDeletion
  | .eventDeletion => .eventInsertion
  | .stableFieldMissingLeft => .stableFieldMissingRight
  | .stableFieldMissingRight => .stableFieldMissingLeft
  | kind => kind

/-- The divergence, seen from the other trace. -/
def TraceDivergenceV0.mirror (divergence : TraceDivergenceV0) : TraceDivergenceV0 where
  kind := divergence.kind.mirror
  path := divergence.path
  leftEventIndex := divergence.rightEventIndex
  rightEventIndex := divergence.leftEventIndex
  leftEventId := divergence.rightEventId
  rightEventId := divergence.leftEventId
  leftIdentity := divergence.rightIdentity
  rightIdentity := divergence.leftIdentity
  fieldName := divergence.fieldName
  leftValue := divergence.rightValue
  rightValue := divergence.leftValue
  eventCount := divergence.eventCount

/-- The result, seen from the other trace. -/
def TraceDiffResultV0.mirror (result : TraceDiffResultV0) : TraceDiffResultV0 :=
  { result with firstDivergence := result.firstDivergence.map TraceDivergenceV0.mirror }

/-! ### The comparisons -/

section Mirror

variable {policy : TraceDiffPolicyV0} {index : ℕ} {left right : TraceEventV0}

theorem mirror_compareRunMetadata (left right : TraceRunMetadataV0) :
    compareRunMetadata right left =
      (compareRunMetadata left right).map TraceDivergenceV0.mirror := by
  unfold compareRunMetadata
  simp only [ne_comm]
  split_ifs <;> rfl

theorem eventIdentityEqual_comm (left right : TraceEventV0) :
    eventIdentityEqual right left = eventIdentityEqual left right := by
  rw [Bool.eq_iff_iff]
  simp only [eventIdentityEqual, Bool.and_eq_true, beq_iff_eq]
  constructor
  · rintro ⟨⟨hsubsystem, htype⟩, hguest⟩
    exact ⟨⟨hsubsystem.symm, htype.symm⟩, hguest.symm⟩
  · rintro ⟨⟨hsubsystem, htype⟩, hguest⟩
    exact ⟨⟨hsubsystem.symm, htype.symm⟩, hguest.symm⟩

/-- The merge of the fields goes the same way from either side. -/
theorem mirror_compareFieldsFrom (policy : TraceDiffPolicyV0) (left : TraceEventV0) (index : ℕ)
    (right : TraceEventV0) (leftFields rightFields : List TraceFieldV0) :
    compareFieldsFrom policy right index left index rightFields leftFields =
      (compareFieldsFrom policy left index right index leftFields rightFields).map
        TraceDivergenceV0.mirror := by
  fun_induction compareFieldsFrom policy left index right index leftFields rightFields with
  | case1 leftFields rightFields hleft hright =>
    rw [compareFieldsFrom, hleft, hright]
    rfl
  | case2 leftFields rightFields rightField rest hleft hright =>
    rw [compareFieldsFrom, hleft, hright]
    rfl
  | case3 leftFields rightFields leftField rest hleft hright =>
    rw [compareFieldsFrom, hleft, hright]
    rfl
  | case4 leftFields rightFields leftField leftRest rightField rightRest hleft hright hless =>
    rw [compareFieldsFrom, hleft, hright]
    dsimp only
    rw [if_neg (List.lt_asymm hless), if_pos hless]
    rfl
  | case5 leftFields rightFields leftField leftRest rightField rightRest hleft hright _ hgreater =>
    rw [compareFieldsFrom, hleft, hright]
    dsimp only
    rw [if_pos hgreater]
    rfl
  | case6 leftFields rightFields leftField leftRest rightField rightRest hleft hright hless hgreater
      hvalue =>
    rw [compareFieldsFrom, hleft, hright]
    dsimp only
    have hname : leftField.name = rightField.name :=
      List.le_antisymm (List.not_lt.mp hgreater) (List.not_lt.mp hless)
    rw [if_neg hgreater, if_neg hless, if_pos (Ne.symm hvalue), valueMismatch, valueMismatch, hname]
    rfl
  | case7 leftFields rightFields leftField leftRest rightField rightRest hleft hright hless hgreater
      hvalue ih =>
    rw [compareFieldsFrom, hleft, hright]
    dsimp only
    rw [if_neg hgreater, if_neg hless, if_neg (fun hne => hvalue (Ne.symm hne)), ih]

theorem mirror_eventDivergence (policy : TraceDiffPolicyV0) (index : ℕ)
    (left right : TraceEventV0) :
    eventDivergence policy index right left =
      (eventDivergence policy index left right).map TraceDivergenceV0.mirror := by
  unfold eventDivergence
  simp only [@ne_comm _ right.id left.id]
  split_ifs with hid
  · rfl
  · exact mirror_compareFieldsFrom policy left index right left.stable right.stable

theorem mirror_identityDivergence (index : ℕ) (left right : TraceEventV0)
    (leftRest rightRest : List TraceEventV0) :
    identityDivergence index right left rightRest leftRest =
      (identityDivergence index left right leftRest rightRest).mirror := by
  unfold identityDivergence
  dsimp only
  rcases Nat.lt_trichotomy (distanceToIdentity rightRest left) (distanceToIdentity leftRest right)
    with hlt | heq | hgt
  · rw [if_neg (Nat.lt_asymm hlt), if_pos hlt, if_pos hlt]
    rfl
  · rw [heq, if_neg (Nat.lt_irrefl _), if_neg (Nat.lt_irrefl _), if_neg (Nat.lt_irrefl _),
      if_neg (Nat.lt_irrefl _)]
    rfl
  · rw [if_pos hgt, if_neg (Nat.lt_asymm hgt), if_pos hgt]
    rfl

/-- **The walk has the mirror image of its result**, by induction on the events. -/
theorem mirror_diffEvents (policy : TraceDiffPolicyV0) (matched : ℕ)
    (left right : List TraceEventV0) :
    diffEvents policy matched right left =
      ((diffEvents policy matched left right).1,
        (diffEvents policy matched left right).2.map TraceDivergenceV0.mirror) := by
  induction left generalizing matched right with
  | nil => cases right <;> rfl
  | cons left leftRest ih =>
    cases right with
    | nil => rfl
    | cons right rightRest =>
      rw [diffEvents, diffEvents, eventIdentityEqual_comm, mirror_eventDivergence,
        mirror_identityDivergence]
      split_ifs with hidentity
      · cases eventDivergence policy matched left right with
        | some divergence => rfl
        | none => exact ih (matched + 1) rightRest
      · rfl

theorem mirror_traceDivergence (policy : TraceDiffPolicyV0) (left right : TraceDocumentV0) :
    traceDivergence policy right left =
      ((traceDivergence policy left right).1,
        (traceDivergence policy left right).2.map TraceDivergenceV0.mirror) := by
  rw [traceDivergence, traceDivergence, mirror_compareRunMetadata]
  cases compareRunMetadata left.run right.run with
  | some divergence => rfl
  | none => exact mirror_diffEvents policy 0 left.events right.events

theorem mirror_diffResult (host : Host) (comparison : ℕ × Option TraceDivergenceV0) :
    diffResult host (comparison.1, comparison.2.map TraceDivergenceV0.mirror) =
      (diffResult host comparison).map TraceDiffResultV0.mirror := by
  obtain ⟨matched, divergence⟩ := comparison
  cases divergence with
  | none => rfl
  | some divergence => exact bind_eq_map_bind fun _ _ => rfl

end Mirror

/-! ### Where the walk stops -/

section Walk

variable {policy : TraceDiffPolicyV0} {index matched : ℕ} {left right : TraceEventV0}
  {lefts rights : List TraceEventV0} {divergence : TraceDivergenceV0}

/-- How two traces part, from the events on that did not match. -/
def partingOf (policy : TraceDiffPolicyV0) (index : ℕ) :
    (left right : List TraceEventV0) → Option TraceDivergenceV0
  | left :: leftRest, right :: rightRest =>
    if eventIdentityEqual left right then eventDivergence policy index left right
    else some (identityDivergence index left right leftRest rightRest)
  | left, right => (diffEvents policy index left right).2

/-- **The walk stops behind the longest prefix that matches**, by induction on the events. -/
theorem diffEvents_spec (policy : TraceDiffPolicyV0) (matched : ℕ)
    (lefts rights : List TraceEventV0) :
    ∃ n, IsGreatest {n | MatchesFor (SameEvent policy) lefts rights n} n ∧
      diffEvents policy matched lefts rights =
        (matched + n, partingOf policy (matched + n) (lefts.drop n) (rights.drop n)) := by
  induction lefts generalizing matched rights with
  | nil =>
    refine ⟨0, isGreatest_of_nil (.inl rfl), ?_⟩
    cases rights <;> rfl
  | cons left leftRest ih =>
    cases rights with
    | nil => exact ⟨0, isGreatest_of_nil (.inr rfl), rfl⟩
    | cons right rightRest =>
      cases hidentity : eventIdentityEqual left right with
      | false =>
        refine ⟨0, isGreatest_of_not fun hsame => ?_, ?_⟩
        · rw [hsame.1] at hidentity
          cases hidentity
        · rw [diffEvents, List.drop_zero, List.drop_zero, partingOf,
            if_neg (by rw [hidentity]; simp), if_neg (by rw [hidentity]; simp)]
          rfl
      | true =>
        cases hdivergence : eventDivergence policy matched left right with
        | some divergence =>
          refine ⟨0, isGreatest_of_not fun hsame => ?_, ?_⟩
          · rw [eventDivergence_eq_none.mpr hsame.2] at hdivergence
            cases hdivergence
          · rw [diffEvents, List.drop_zero, List.drop_zero, partingOf, if_pos hidentity,
              if_pos hidentity, hdivergence]
            change (matched, some divergence) = (matched, eventDivergence policy matched left right)
            rw [hdivergence]
        | none =>
          obtain ⟨n, hgreatest, hrest⟩ := ih (matched + 1) rightRest
          refine ⟨n + 1, isGreatest_cons
            ⟨hidentity, eventDivergence_eq_none.mp hdivergence⟩ hgreatest, ?_⟩
          rw [diffEvents, if_pos hidentity, hdivergence, List.drop_succ_cons, List.drop_succ_cons,
            ← Nat.add_assoc, Nat.add_right_comm]
          exact hrest

/-! ### Counts -/

/-- How many events are inserted on the right: all that are left of it when the left trace is at its
end, and otherwise the least number behind which the next events look alike. -/
def InsertionCount (lefts rights : List TraceEventV0) (matched count : ℕ) : Prop :=
  lefts.length = matched ∧ matched + count = rights.length ∨
    ∃ event, lefts[matched]? = some event ∧
      IsLeast {k | ∃ next, rights[matched + k]? = some next ∧
        eventIdentity next = eventIdentity event} count

theorem eventIdentityEqual_iff :
    eventIdentityEqual left right = true ↔ eventIdentity left = eventIdentity right := by
  simp only [eventIdentityEqual, Bool.and_eq_true, beq_iff_eq, eventIdentity,
    TraceEventIdentityV0.mk.injEq, and_assoc]

theorem isLeast_distanceToIdentity {target first : TraceEventV0} {events : List TraceEventV0}
    (hfirst : eventIdentityEqual first target = false)
    (hfound : distanceToIdentity events target ≠ 2 ^ 64 - 1) :
    IsLeast {k | ∃ next, (first :: events)[k]? = some next ∧
      eventIdentity next = eventIdentity target}
      (distanceToIdentity events target) := by
  unfold distanceToIdentity at hfound ⊢
  cases hindex : events.findIdx? fun event => eventIdentityEqual event target with
  | none =>
    rw [hindex] at hfound
    exact absurd rfl hfound
  | some index =>
    obtain ⟨hlt, hsame, hbefore⟩ := List.findIdx?_eq_some_iff_getElem.mp hindex
    refine ⟨⟨events[index], ?_, eventIdentityEqual_iff.mp hsame⟩, ?_⟩
    · rw [List.getElem?_cons_succ, List.getElem?_eq_getElem hlt]
    · rintro k ⟨next, hnext, hidentity⟩
      have hequal := eventIdentityEqual_iff.mpr hidentity
      cases k with
      | zero =>
        cases hnext
        rw [hfirst] at hequal
        cases hequal
      | succ k =>
        rw [List.getElem?_cons_succ] at hnext
        obtain ⟨hk, rfl⟩ := List.getElem?_eq_some_iff.mp hnext
        refine Nat.succ_le_succ (Nat.le_of_not_lt fun hless => ?_)
        exact hbefore k hless hequal

/-- A distance within fewer than `2 ^ 64 - 1` events is not the one that says there is none, and
that one is the largest. -/
theorem distanceToIdentity_le {events : List TraceEventV0} (hlength : events.length ≤ 2 ^ 64 - 1)
    (target : TraceEventV0) :
    distanceToIdentity events target ≤ 2 ^ 64 - 1 := by
  unfold distanceToIdentity
  cases hindex : events.findIdx? fun event => eventIdentityEqual event target with
  | none => exact le_rfl
  | some index =>
    obtain ⟨hlt, -⟩ := List.findIdx?_eq_some_iff_getElem.mp hindex
    dsimp only
    omega

/-- The kinds of what is found in two events that look alike. -/
theorem kind_of_eventDivergence (h : eventDivergence policy index left right = some divergence) :
    divergence.kind ≠ .eventInsertion ∧ divergence.kind ≠ .eventDeletion := by
  have hfields : ∀ leftFields rightFields divergence,
      compareFieldsFrom policy left index right index leftFields rightFields = some divergence →
        divergence.kind ≠ .eventInsertion ∧ divergence.kind ≠ .eventDeletion := by
    intro leftFields rightFields
    fun_induction compareFieldsFrom policy left index right index leftFields rightFields with
    | case1 => intro divergence hnone; cases hnone
    | case7 leftFields rightFields leftField leftRest rightField rightRest hleft hright hless
        hgreater hvalue ih => exact ih
    | _ =>
      intro divergence hsome
      cases hsome
      constructor <;> intro hkind <;> cases hkind
  unfold eventDivergence at h
  split_ifs at h with hid
  · cases h
    constructor <;> intro hkind <;> cases hkind
  · exact hfields left.stable right.stable divergence h

/-- **An insertion is as short as it can be.** -/
theorem insertionCount_of_parting (hlefts : lefts.length ≤ 2 ^ 64)
    (hmatched : matched ≤ lefts.length ∧ matched ≤ rights.length)
    (h : partingOf policy matched (lefts.drop matched) (rights.drop matched) = some divergence)
    (hkind : divergence.kind = .eventInsertion) :
    InsertionCount lefts rights matched divergence.eventCount := by
  cases hleft : lefts.drop matched with
  | nil =>
    have hend : lefts.length = matched := Nat.le_antisymm (List.drop_eq_nil_iff.mp hleft) hmatched.1
    cases hright : rights.drop matched with
    | nil =>
      rw [hleft, hright] at h
      cases h
    | cons right rightRest =>
      rw [hleft, hright] at h
      cases h
      refine .inl ⟨hend, ?_⟩
      have hlength := congrArg List.length hright
      rw [List.length_drop, List.length_cons] at hlength
      change matched + (rightRest.length + 1) = rights.length
      omega
  | cons left leftRest =>
    cases hright : rights.drop matched with
    | nil =>
      rw [hleft, hright] at h
      cases h
      cases hkind
    | cons right rightRest =>
      rw [hleft, hright, partingOf] at h
      have hat : lefts[matched]? = some left := by
        rw [← Nat.add_zero matched, ← List.getElem?_drop, hleft, List.getElem?_cons_zero]
      have hskip : ∀ k, rights[matched + k]? = (right :: rightRest)[k]? :=
        fun k => by rw [← hright, List.getElem?_drop]
      have hlength : ∀ {events : List TraceEventV0} {event : TraceEventV0}
        {rest : List TraceEventV0},
          events.length ≤ 2 ^ 64 → events.drop matched = event :: rest →
            rest.length ≤ 2 ^ 64 - 1 := by
        intro events event rest hevents hdrop
        have hdropped := congrArg List.length hdrop
        rw [List.length_drop, List.length_cons] at hdropped
        omega
      split_ifs at h with hidentity
      · exact absurd hkind (kind_of_eventDivergence h).1
      · refine .inr ⟨left, hat, ?_⟩
        simp only [hskip]
        rw [Bool.not_eq_true, ← eventIdentityEqual_comm] at hidentity
        rw [Option.some.injEq, identityDivergence] at h
        dsimp only at h
        split_ifs at h with hinsertion hdeletion
        · subst h
          refine isLeast_distanceToIdentity hidentity fun hnone => ?_
          have hdeletion := distanceToIdentity_le (hlength hlefts hleft) right
          omega
        · subst h
          cases hkind
        · subst h
          cases hkind

end Walk

/-! ### Whole traces -/

theorem length_le_of_increasing {events : List TraceEventV0} (h : Increasing events) :
    events.length ≤ 2 ^ 64 := by
  have hnodup : (events.map fun event => event.id.toNat).Nodup := by
    rw [List.Nodup, List.pairwise_map]
    refine h.imp fun {a b} hlt heq => ?_
    rw [UInt64.lt_iff_toNat_lt, heq] at hlt
    exact Nat.lt_irrefl _ hlt
  rw [← List.length_map fun event : TraceEventV0 => event.id.toNat]
  refine length_le_of_nodup_of_lt hnodup ?_
  intro id hid
  obtain ⟨event, -, rfl⟩ := List.mem_map.mp hid
  exact event.id.toNat_lt

theorem insertionCount_sortTrace {left right : List TraceEventV0} {matched count : ℕ} :
    InsertionCount (left.map sortEvent) (right.map sortEvent) matched count ↔
    InsertionCount left right matched count := by
  have hidentity : ∀ event, eventIdentity (sortEvent event) = eventIdentity event := fun _ => rfl
  simp only [InsertionCount, List.length_map, List.getElem?_map, Option.map_eq_some_iff]
  refine or_congr Iff.rfl ?_
  constructor
  · rintro ⟨_, ⟨event, hat, rfl⟩, hleast⟩
    refine ⟨event, hat, ?_⟩
    convert hleast using 3 with k
    constructor
    · rintro ⟨next, hnext, hsame⟩
      exact ⟨_, ⟨next, hnext, rfl⟩, by rw [hidentity, hidentity, hsame]⟩
    · rintro ⟨_, ⟨next, hnext, rfl⟩, hsame⟩
      exact ⟨next, hnext, by rw [← hidentity, hsame, hidentity]⟩
  · rintro ⟨event, hat, hleast⟩
    refine ⟨_, ⟨event, hat, rfl⟩, ?_⟩
    convert hleast using 3 with k
    constructor
    · rintro ⟨_, ⟨next, hnext, rfl⟩, hsame⟩
      exact ⟨next, hnext, by rw [← hidentity, hsame, hidentity]⟩
    · rintro ⟨next, hnext, hsame⟩
      exact ⟨_, ⟨next, hnext, rfl⟩, by rw [hidentity, hidentity, hsame]⟩

section Traces

variable {host : Host} {policy : TraceDiffPolicyV0} {left right : TraceDocumentV0}
  {result : TraceDiffResultV0}

theorem diffTraceV0_of_valid (hpolicy : ValidPolicy policy) (hleft : ValidTrace left)
    (hright : ValidTrace right) :
    diffTraceV0 host left right policy =
      diffResult host (traceDivergence
        { policy with ignoredStableFields := sortRules policy.ignoredStableFields } (sortTrace left)
        (sortTrace right)) := by
  rw [diffTraceV0, normalizePolicy_eq_ok.mpr ⟨hpolicy, rfl⟩, ok_bind,
    normalizeTraceV0_eq_ok.mpr ⟨hleft, rfl⟩, mapError_ok, ok_bind,
    normalizeTraceV0_eq_ok.mpr ⟨hright, rfl⟩, mapError_ok, ok_bind]

theorem diffResult_eq_ok {comparison : ℕ × Option TraceDivergenceV0}
    (h : diffResult host comparison = .ok result) :
    result.matchedEventCount = comparison.1 ∧ result.firstDivergence = comparison.2 := by
  obtain ⟨matched, divergence⟩ := comparison
  cases divergence with
  | none =>
    cases h
    exact ⟨rfl, rfl⟩
  | some divergence =>
    simp only [diffResult, bind_eq_ok, pure_eq_ok] at h
    obtain ⟨_, -, rfl⟩ := h
    exact ⟨rfl, rfl⟩

/-- A comparison that was reported, where the runs agree. -/
theorem diffTraceV0_spec (hpolicy : ValidPolicy policy) (hleft : ValidTrace left)
    (hright : ValidTrace right) (hrun : left.run = right.run)
    (h : diffTraceV0 host left right policy = .ok result) :
    IsGreatest {n | MatchesFor (EventEquivalent policy) left.events right.events n}
      result.matchedEventCount ∧
      ∀ divergence, result.firstDivergence = some divergence → divergence.kind = .eventInsertion →
        InsertionCount left.events right.events result.matchedEventCount divergence.eventCount := by
  rw [diffTraceV0_of_valid hpolicy hleft hright] at h
  obtain ⟨hmatched, hdivergence⟩ := diffResult_eq_ok h
  obtain ⟨n, hgreatest, hspec⟩ := diffEvents_spec
    { policy with ignoredStableFields := sortRules policy.ignoredStableFields } 0
      (sortTrace left).events (sortTrace right).events
  have hwalk : traceDivergence { policy with
    ignoredStableFields := sortRules policy.ignoredStableFields } (sortTrace left)
      (sortTrace right) = diffEvents { policy with
        ignoredStableFields := sortRules policy.ignoredStableFields } 0
        (sortTrace left).events (sortTrace right).events := by
    have hnone : compareRunMetadata (sortTrace left).run (sortTrace right).run = none :=
      compareRunMetadata_eq_none.mpr hrun
    rw [traceDivergence, hnone]
  rw [hwalk, hspec, Nat.zero_add] at hmatched hdivergence
  have hsame : ∀ m, MatchesFor
    (SameEvent { policy with ignoredStableFields := sortRules policy.ignoredStableFields })
      (left.events.map sortEvent) (right.events.map sortEvent) m ↔
        MatchesFor (EventEquivalent policy) left.events right.events m := by
    intro m
    refine MatchesFor.imp_of_map fun event hevent event' hevent' => ?_
    rw [sameEvent_sortEvent (hleft.events event hevent) (hright.events event' hevent')]
    exact EventEquivalent.congr_policy rfl fun _ => mem_sortRules
  have hbounds := hgreatest.1
  change IsGreatest {m | MatchesFor _ (left.events.map sortEvent) (right.events.map sortEvent) m} n
    at hgreatest
  simp only [hsame] at hgreatest
  rw [hmatched]
  refine ⟨hgreatest, ?_⟩
  intro divergence hsome hkind
  rw [hdivergence] at hsome
  rw [← insertionCount_sortTrace]
  refine insertionCount_of_parting ?_ ⟨hbounds.1, hbounds.2.1⟩ hsome hkind
  rw [List.length_map]
  exact length_le_of_increasing hleft.increasing

end Traces

/-- **Trace diff is mirror-symmetric and reports the longest equal prefix.** With the traces
exchanged the report is the mirror image. Where the runs agree, the events match on the longest
prefix on which they are pairwise equal under the policy, and a number of inserted or deleted events
is the least one behind which the traces look alike again, or the whole rest where the other trace
is at its end. -/
theorem diffTraceV0_mirror (host : Host) (policy : TraceDiffPolicyV0) (left right : TraceDocumentV0)
    (hpolicy : ValidPolicy policy) (hleft : ValidTrace left) (hright : ValidTrace right) :
    diffTraceV0 host right left policy =
      (diffTraceV0 host left right policy).map TraceDiffResultV0.mirror ∧
    ∀ result, diffTraceV0 host left right policy = .ok result → left.run = right.run →
      IsGreatest {n | MatchesFor (EventEquivalent policy) left.events right.events n}
        result.matchedEventCount ∧
      ∀ divergence, result.firstDivergence = some divergence →
        (divergence.kind = .eventInsertion →
          InsertionCount left.events right.events result.matchedEventCount divergence.eventCount) ∧
        (divergence.kind = .eventDeletion →
          InsertionCount right.events left.events result.matchedEventCount
            divergence.eventCount) := by
  have hmirror : diffTraceV0 host right left policy =
      (diffTraceV0 host left right policy).map TraceDiffResultV0.mirror := by
    rw [diffTraceV0_of_valid hpolicy hright hleft, diffTraceV0_of_valid hpolicy hleft hright,
      mirror_traceDivergence, mirror_diffResult]
  refine ⟨hmirror, ?_⟩
  intro result hresult hrun
  obtain ⟨hgreatest, hinsertion⟩ := diffTraceV0_spec hpolicy hleft hright hrun hresult
  refine ⟨hgreatest, fun divergence hdivergence =>
    ⟨hinsertion divergence hdivergence, fun hkind => ?_⟩⟩
  -- a deletion is an insertion for the other side
  have hother : diffTraceV0 host right left policy = .ok result.mirror := by
    rw [hmirror, hresult]
    rfl
  have hcount := (diffTraceV0_spec hpolicy hright hleft hrun.symm hother).2 divergence.mirror
    (by rw [TraceDiffResultV0.mirror, hdivergence]; rfl)
      (by rw [TraceDivergenceV0.mirror, hkind]; rfl)
  exact hcount

/-- A trace with one event more than `exampleTrace`, in front of it. -/
def longerTrace : TraceDocumentV0 :=
  { exampleTrace "two" [] with
    events := [⟨1, bytesOf "gpu", bytesOf "draw", none, [], []⟩,
      ⟨2, bytesOf "cpu", bytesOf "step", none, [], []⟩] }

/-- One event is inserted on the right, and from the other side it is deleted. -/
theorem longerTrace_inserts :
    ∃ result divergence, diffTraceV0 Host.plentiful
      (exampleTrace "one" []) longerTrace examplePolicy = .ok result ∧
      diffTraceV0 Host.plentiful longerTrace (exampleTrace "one" []) examplePolicy =
        .ok result.mirror ∧
      result.firstDivergence = some divergence ∧ divergence.kind = .eventInsertion ∧
      divergence.eventCount = 1 ∧
      InsertionCount (exampleTrace "one" []).events longerTrace.events 0 1 := by
  have hpolicy : ValidPolicy examplePolicy := ⟨by decide, by decide⟩
  have hleft : ValidTrace (exampleTrace "one" []) := (validTrace_iff _).mpr (by decide)
  have hright : ValidTrace longerTrace := (validTrace_iff _).mpr (by decide)
  have hdiff :
      (diffTraceV0 Host.plentiful (exampleTrace "one" []) longerTrace examplePolicy).toOption.any
      (fun result =>
      decide (result.matchedEventCount = 0) && result.firstDivergence.any fun divergence =>
        decide (divergence.kind = .eventInsertion) && decide (divergence.eventCount = 1)) =
          true := by
    decide +kernel
  obtain ⟨result, hok, hspec⟩ := exists_of_any hdiff
  rw [Bool.and_eq_true, decide_eq_true_eq, Option.any_eq_true] at hspec
  obtain ⟨hmatched, divergence, hdivergence, hshape⟩ := hspec
  simp only [Bool.and_eq_true, decide_eq_true_eq] at hshape
  obtain ⟨hmirror, hcounts⟩ :=
    diffTraceV0_mirror Host.plentiful examplePolicy
    (exampleTrace "one" []) longerTrace hpolicy hleft
    hright
  have hcount := ((hcounts result hok rfl).2 divergence hdivergence).1 hshape.1
  rw [hmatched, hshape.2] at hcount
  refine ⟨result, divergence, hok, ?_, hdivergence, hshape.1, hshape.2, hcount⟩
  rw [hmirror, hok]
  rfl

end Astraea.Trace
