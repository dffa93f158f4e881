import Astraea.Base.Check
import Astraea.Base.KeySort

/-!
# Traces

A trace is a record of a run: what was run and by whom, and events with named fields.
`normalize_trace_v0` checks every name and text, puts fields and digests in the order of
their bytes, and refuses names that come twice and events whose ids do not increase.

Strings are lists of bytes. Which of them are texts is checked, not assumed.
-/

namespace Astraea.Trace

open Astraea.Base

/-- A `std::string`. -/
abbrev ByteString := List UInt8

/-- The bytes of a text of the source. -/
def bytesOf (text : String) : ByteString := text.toByteArray.data.toList

/-- `kTraceSchemaV0`. -/
def kTraceSchemaV0 : ByteString := bytesOf "astraea.trace/v0"

/-- Why a trace is refused. -/
inductive TraceErrorCode where
  | invalidIdentifier
  | invalidUtf8
  | malformedSha256
  | incompleteProbeIdentity
  | probeVersionOutOfRange
  | duplicateArtifactDigest
  | nonMonotonicEventId
  | duplicateStableField
  | duplicateDiagnosticField
  | hostSizeUnrepresentable
  | hostAllocationFailure
  deriving DecidableEq

/-- A trace that is refused. -/
structure TraceError where
  code : TraceErrorCode
  eventId : Option UInt64 := none
  deriving DecidableEq

/-- Where in the guest an event happened. -/
structure GuestLocationV0 where
  object : ByteString
  offset : UInt64
  deriving DecidableEq

/-- The value of a field. -/
inductive TraceValueV0 where
  | u64 (value : UInt64)
  | bool (value : Bool)
  | text (value : ByteString)
  | bytes (value : List UInt8)
  deriving DecidableEq

/-- A name and a value. -/
@[ext]
structure TraceFieldV0 where
  name : ByteString
  value : TraceValueV0
  deriving DecidableEq

/-- An event of a trace. -/
structure TraceEventV0 where
  id : UInt64
  subsystem : ByteString
  type : ByteString
  guest : Option GuestLocationV0
  stable : List TraceFieldV0
  diagnostics : List TraceFieldV0
  deriving DecidableEq

/-- What a trace says of its run. -/
@[ext]
structure TraceRunMetadataV0 where
  targetKind : ByteString
  platformFamily : ByteString
  architecture : ByteString
  probeId : Option ByteString
  probeVersion : Option UInt64
  caseSha256 : Option ByteString
  deriving DecidableEq

/-- What made a trace. -/
structure TraceProducerV0 where
  name : ByteString
  version : ByteString
  commit : Option ByteString
  deriving DecidableEq

/-- What a trace was made from. -/
structure TraceProvenanceV0 where
  sourceKind : ByteString
  producer : TraceProducerV0
  artifactDigests : List ByteString
  deriving DecidableEq

/-- A trace. -/
structure TraceDocumentV0 where
  run : TraceRunMetadataV0
  provenance : TraceProvenanceV0
  events : List TraceEventV0
  diagnostics : List TraceFieldV0
  deriving DecidableEq

/-! ### Identifiers, digests and texts -/

/-- `'a'` to `'z'`, or `'0'` to `'9'`. -/
def isIdentifierStart (value : UInt8) : Bool :=
  (decide (97 ≤ value) && decide (value ≤ 122)) || (decide (48 ≤ value) && decide (value ≤ 57))

/-- `is_identifier_char`: also `'.'`, `'_'`, `':'` and `'-'`. -/
def isIdentifierChar (value : UInt8) : Bool :=
  isIdentifierStart value || value == 46 || value == 95 || value == 58 || value == 45

/-- `valid_identifier`. -/
def validIdentifier (value : ByteString) : Bool :=
  match value with
  | [] => false
  | first :: _ => isIdentifierStart first && value.all isIdentifierChar

/-- `valid_sha256`. -/
def validSha256 (value : ByteString) : Bool :=
  let kPrefix := bytesOf "sha256:"
  value.length == kPrefix.length + 64 && kPrefix.isPrefixOf value &&
    (value.drop kPrefix.length).all fun character =>
      (decide (48 ≤ character) && decide (character ≤ 57)) ||
        (decide (97 ≤ character) && decide (character ≤ 102))

/-- `continuation`. -/
def continuation (value : UInt8) : Bool := decide (0x80 ≤ value) && decide (value ≤ 0xbf)

/-- What may stand behind the first byte of a character of three bytes. -/
def validSecondOfThree (first second : UInt8) : Bool :=
  if first = 0xe0 then decide (0xa0 ≤ second) && decide (second ≤ 0xbf)
  else if first = 0xed then decide (0x80 ≤ second) && decide (second ≤ 0x9f)
  else continuation second

/-- What may stand behind the first byte of a character of four bytes. -/
def validSecondOfFour (first second : UInt8) : Bool :=
  if first = 0xf0 then decide (0x90 ≤ second) && decide (second ≤ 0xbf)
  else if first = 0xf4 then decide (0x80 ≤ second) && decide (second ≤ 0x8f)
  else continuation second

/-- `valid_utf8`. -/
def validUtf8 : ByteString → Bool
  | [] => true
  | first :: rest =>
    if first ≤ 0x7f then validUtf8 rest
    else if 0xc2 ≤ first ∧ first ≤ 0xdf then
      match rest with
      | second :: rest => continuation second && validUtf8 rest
      | [] => false
    else if 0xe0 ≤ first ∧ first ≤ 0xef then
      match rest with
      | second :: third :: rest =>
        continuation third && validSecondOfThree first second && validUtf8 rest
      | _ => false
    else if 0xf0 ≤ first ∧ first ≤ 0xf4 then
      match rest with
      | second :: third :: fourth :: rest =>
        continuation third && continuation fourth && validSecondOfFour first second &&
          validUtf8 rest
      | _ => false
    else false

/-- `valid_value`. -/
def validValue : TraceValueV0 → Bool
  | .text text => validUtf8 text
  | .u64 _ | .bool _ | .bytes _ => true

/-! ### Normalisation -/

/-- The order of `std::string`. -/
def stringLe (lhs rhs : ByteString) : Bool := decide (lhs ≤ rhs)

theorem ordersKeys_stringLe : OrdersKeys stringLe where
  trans a b c hab hbc := by
    simp only [stringLe, decide_eq_true_eq] at *
    exact List.le_trans hab hbc
  total a b := by
    simp only [stringLe, Bool.or_eq_true, decide_eq_true_eq]
    exact List.le_total a b
  antisymm a b hab hba := by
    simp only [stringLe, decide_eq_true_eq] at *
    exact List.le_antisymm hab hba

/-- The loop of `normalize_fields`. -/
def checkField (eventId : Option UInt64) (field : TraceFieldV0) : Except TraceError Unit := do
  refuseIf (validIdentifier field.name = false) ⟨.invalidIdentifier, eventId⟩
  refuseIf (validValue field.value = false) ⟨.invalidUtf8, eventId⟩

/-- Fields in the order of their names. -/
def sortFields (fields : List TraceFieldV0) : List TraceFieldV0 :=
  sortByKey stringLe TraceFieldV0.name fields

/-- `normalize_fields`. -/
def normalizeFields (fields : List TraceFieldV0) (duplicateCode : TraceErrorCode)
    (eventId : Option UInt64) :
    Except TraceError (List TraceFieldV0) := do
  fields.forM (checkField eventId)
  refuseIf (neighboursShareKey TraceFieldV0.name (sortFields fields) = true)
    ⟨duplicateCode, eventId⟩
  return sortFields fields

/-- `kMaxExactJsonInteger`. -/
def kMaxExactJsonInteger : UInt64 := 9007199254740991

/-- The checks of the identifiers of a trace. -/
def validIdentifiers (trace : TraceDocumentV0) : Bool :=
  validIdentifier trace.run.targetKind && validIdentifier trace.run.platformFamily &&
    validIdentifier trace.run.architecture && validIdentifier trace.provenance.sourceKind &&
    validIdentifier trace.provenance.producer.name &&
      validIdentifier trace.provenance.producer.version &&
    trace.provenance.producer.commit.all validIdentifier

/-- The checks of the probe a run is of. -/
def checkProbe (run : TraceRunMetadataV0) : Except TraceError Unit := do
  refuseIf (run.probeId.isSome ≠ run.probeVersion.isSome) ⟨.incompleteProbeIdentity, none⟩
  refuseIf (run.probeId.any (fun id => !validIdentifier id) = true) ⟨.invalidIdentifier, none⟩
  refuseIf (run.probeVersion.any (fun version => decide (version > kMaxExactJsonInteger)) = true)
    ⟨.probeVersionOutOfRange, none⟩
  refuseIf (run.caseSha256.isSome = true ∧ run.probeId.isSome = false)
    ⟨.incompleteProbeIdentity, none⟩
  refuseIf (run.caseSha256.any (fun digest => !validSha256 digest) = true) ⟨.malformedSha256, none⟩

/-- Digests in the order of their bytes. -/
def sortDigests (digests : List ByteString) : List ByteString := sortByKey stringLe id digests

/-- The digests are checked and put in order. -/
def normalizeDigests (digests : List ByteString) : Except TraceError (List ByteString) := do
  refuseIf (digests.any (fun digest => !validSha256 digest) = true) ⟨.malformedSha256, none⟩
  refuseIf (neighboursShareKey id (sortDigests digests) = true) ⟨.duplicateArtifactDigest, none⟩
  return sortDigests digests

/-- One turn of the loop over the events. -/
def normalizeEvent (previousId : Option UInt64) (event : TraceEventV0) :
    Except TraceError TraceEventV0 := do
  refuseIf (previousId.any (fun previous => decide (event.id ≤ previous)) = true)
    ⟨.nonMonotonicEventId, some event.id⟩
  refuseIf (validIdentifier event.subsystem = false ∨ validIdentifier event.type = false)
    ⟨.invalidIdentifier, some event.id⟩
  refuseIf (event.guest.any (fun guest => !validIdentifier guest.object) = true)
    ⟨.invalidIdentifier, some event.id⟩
  let stable ← normalizeFields event.stable .duplicateStableField (some event.id)
  let diagnostics ← normalizeFields event.diagnostics .duplicateDiagnosticField (some event.id)
  return { event with stable := stable, diagnostics := diagnostics }

/-- The loop over the events, behind an event with the id `previousId`. -/
def normalizeEvents :
    (previousId : Option UInt64) → List TraceEventV0 → Except TraceError (List TraceEventV0)
  | _, [] => .ok []
  | previousId, event :: events => do
    let event' ← normalizeEvent previousId event
    let events' ← normalizeEvents (some event.id) events
    return event' :: events'

/-- `normalize_trace_v0`. -/
def normalizeTraceV0 (trace : TraceDocumentV0) : Except TraceError TraceDocumentV0 := do
  refuseIf (validIdentifiers trace = false) ⟨.invalidIdentifier, none⟩
  checkProbe trace.run
  let artifactDigests ← normalizeDigests trace.provenance.artifactDigests
  let diagnostics ← normalizeFields trace.diagnostics .duplicateDiagnosticField none
  let events ← normalizeEvents none trace.events
  return {
    run := trace.run
    provenance := { trace.provenance with artifactDigests := artifactDigests }
    events := events
    diagnostics := diagnostics }

/-! ### What is normalised -/

/-- Fields that pass. -/
structure ValidFields (fields : List TraceFieldV0) : Prop where
  identifiers : ∀ field ∈ fields, validIdentifier field.name = true
  values : ∀ field ∈ fields, validValue field.value = true
  nodup : (fields.map TraceFieldV0.name).Nodup

variable {fields : List TraceFieldV0} {previousId : Option UInt64}

theorem normalizeFields_eq_ok {fields' : List TraceFieldV0} {duplicateCode : TraceErrorCode}
    {eventId : Option UInt64} :
    normalizeFields fields duplicateCode eventId = .ok fields' ↔ ValidFields fields ∧
    sortFields fields = fields' := by
  simp only [normalizeFields, bind_eq_ok, refuseIf_eq_ok, pure_eq_ok, Bool.not_eq_true,
    exists_const]
  rw [sortFields, ordersKeys_stringLe.neighbours_sortByKey]
  constructor
  · rintro ⟨⟨⟩, hfields, hnodup, hsorted⟩
    rw [forM_eq_ok] at hfields
    simp only [checkField, bind_eq_ok, refuseIf_eq_ok, Bool.not_eq_false, exists_const] at hfields
    exact ⟨⟨fun field hfield => (hfields field hfield).1,
      fun field hfield => (hfields field hfield).2, hnodup⟩, hsorted⟩
  · rintro ⟨hvalid, hsorted⟩
    refine ⟨(), forM_eq_ok.mpr ?_, hvalid.nodup, hsorted⟩
    intro field hfield
    simp only [checkField, bind_eq_ok, refuseIf_eq_ok, Bool.not_eq_false, exists_const]
    exact ⟨hvalid.identifiers field hfield, hvalid.values field hfield⟩

/-- An event that passes by itself. -/
structure ValidEvent (event : TraceEventV0) : Prop where
  subsystem : validIdentifier event.subsystem = true
  type : validIdentifier event.type = true
  guest : ∀ guest, event.guest = some guest → validIdentifier guest.object = true
  stable : ValidFields event.stable
  diagnostics : ValidFields event.diagnostics

/-- An event with its fields in order. -/
def sortEvent (event : TraceEventV0) : TraceEventV0 :=
  { event with stable := sortFields event.stable, diagnostics := sortFields event.diagnostics }

theorem normalizeEvent_eq_ok {event event' : TraceEventV0} :
    normalizeEvent previousId event = .ok event' ↔
      (∀ previous, previousId = some previous → previous < event.id) ∧ ValidEvent event ∧
      sortEvent event = event' := by
  have hprevious : ¬ previousId.any (fun previous => decide (event.id ≤ previous)) = true ↔
      ∀ previous, previousId = some previous → previous < event.id := by
    cases previousId <;> simp
  have hguest : ¬ event.guest.any (fun guest => !validIdentifier guest.object) = true ↔
      ∀ guest, event.guest = some guest → validIdentifier guest.object = true := by
    cases event.guest <;> simp
  simp only [normalizeEvent, bind_eq_ok, refuseIf_eq_ok, pure_eq_ok, exists_const,
    normalizeFields_eq_ok, not_or, Bool.not_eq_false, hprevious, hguest]
  constructor
  · rintro ⟨hid, ⟨hsubsystem, htype⟩, hguests, _, ⟨hstable, rfl⟩, _, ⟨hdiagnostics, rfl⟩, hevent⟩
    exact ⟨hid, ⟨hsubsystem, htype, hguests, hstable, hdiagnostics⟩, hevent⟩
  · rintro ⟨hid, hvalid, hevent⟩
    exact ⟨hid, ⟨hvalid.subsystem, hvalid.type⟩, hvalid.guest, _, ⟨hvalid.stable, rfl⟩, _,
      ⟨hvalid.diagnostics, rfl⟩, hevent⟩

/-- Events whose ids increase. -/
def Increasing (events : List TraceEventV0) : Prop :=
  events.Pairwise fun earlier later => earlier.id < later.id

theorem normalizeEvents_eq_ok {events events' : List TraceEventV0} :
    normalizeEvents previousId events = .ok events' ↔
      (∀ previous, previousId = some previous → ∀ event ∈ events, previous < event.id) ∧
      Increasing events ∧
        (∀ event ∈ events, ValidEvent event) ∧ events.map sortEvent = events' := by
  induction events generalizing previousId events' with
  | nil => simp [normalizeEvents, Increasing]
  | cons event events ih =>
    simp only [normalizeEvents, bind_eq_ok, pure_eq_ok, normalizeEvent_eq_ok, ih, Increasing,
      List.pairwise_cons, List.forall_mem_cons, List.map_cons]
    constructor
    · rintro ⟨_, ⟨hprevious, hvalid, rfl⟩, _, ⟨hbehind, hincreasing, hvalids, rfl⟩, rfl⟩
      have hbehind := hbehind event.id rfl
      refine ⟨?_, ⟨hbehind, hincreasing⟩, ⟨hvalid, hvalids⟩, rfl⟩
      intro previous hp
      exact ⟨hprevious previous hp,
        fun later hlater => UInt64.lt_trans (hprevious previous hp) (hbehind later hlater)⟩
    · rintro ⟨hprevious, ⟨hbehind, hincreasing⟩, ⟨hvalid, hvalids⟩, rfl⟩
      refine ⟨_, ⟨fun previous hp => (hprevious previous hp).1, hvalid, rfl⟩, _,
        ⟨?_, hincreasing, hvalids, rfl⟩, rfl⟩
      rintro previous hp
      cases hp
      exact hbehind

theorem normalizeDigests_eq_ok {digests digests' : List ByteString} :
    normalizeDigests digests = .ok digests' ↔
      (∀ digest ∈ digests, validSha256 digest = true) ∧ digests.Nodup ∧
      sortDigests digests = digests' := by
  simp only [normalizeDigests, bind_eq_ok, refuseIf_eq_ok, pure_eq_ok, exists_const,
    Bool.not_eq_true]
  rw [sortDigests, ordersKeys_stringLe.neighbours_sortByKey, List.map_id]
  simp

/-- A run that passes. -/
structure ValidRun (run : TraceRunMetadataV0) : Prop where
  targetKind : validIdentifier run.targetKind = true
  platformFamily : validIdentifier run.platformFamily = true
  architecture : validIdentifier run.architecture = true
  probe : checkProbe run = .ok ()

/-- Provenance that passes. -/
structure ValidProvenance (provenance : TraceProvenanceV0) : Prop where
  sourceKind : validIdentifier provenance.sourceKind = true
  name : validIdentifier provenance.producer.name = true
  version : validIdentifier provenance.producer.version = true
  commit : ∀ commit, provenance.producer.commit = some commit → validIdentifier commit = true
  digests : ∀ digest ∈ provenance.artifactDigests, validSha256 digest = true
  nodup : provenance.artifactDigests.Nodup

/-- A trace that passes. -/
structure ValidTrace (trace : TraceDocumentV0) : Prop where
  run : ValidRun trace.run
  provenance : ValidProvenance trace.provenance
  diagnostics : ValidFields trace.diagnostics
  increasing : Increasing trace.events
  events : ∀ event ∈ trace.events, ValidEvent event

/-- A trace with its fields and digests in order. -/
def sortTrace (trace : TraceDocumentV0) : TraceDocumentV0 where
  run := trace.run
  provenance :=
    { trace.provenance with artifactDigests := sortDigests trace.provenance.artifactDigests }
  events := trace.events.map sortEvent
  diagnostics := sortFields trace.diagnostics

theorem validIdentifiers_iff (trace : TraceDocumentV0) :
    validIdentifiers trace = true ↔
      (validIdentifier trace.run.targetKind = true ∧
        validIdentifier trace.run.platformFamily = true ∧ validIdentifier trace.run.architecture =
        true) ∧ validIdentifier trace.provenance.sourceKind = true ∧
      validIdentifier trace.provenance.producer.name = true ∧
      validIdentifier trace.provenance.producer.version = true ∧
      ∀ commit, trace.provenance.producer.commit = some commit → validIdentifier commit = true := by
  have hcommit : trace.provenance.producer.commit.all validIdentifier = true ↔
      ∀ commit, trace.provenance.producer.commit = some commit → validIdentifier commit = true := by
    cases trace.provenance.producer.commit <;> simp
  simp only [validIdentifiers, Bool.and_eq_true, hcommit, and_assoc]

/-- **Exactly the valid traces are normalised**, and normalising only puts fields and digests in
order. -/
theorem normalizeTraceV0_eq_ok {trace trace' : TraceDocumentV0} :
    normalizeTraceV0 trace = .ok trace' ↔ ValidTrace trace ∧ sortTrace trace = trace' := by
  simp only [normalizeTraceV0, bind_eq_ok, refuseIf_eq_ok, pure_eq_ok, exists_const,
    Bool.not_eq_false, normalizeFields_eq_ok, normalizeDigests_eq_ok, normalizeEvents_eq_ok,
    validIdentifiers_iff]
  constructor
  · rintro ⟨⟨⟨htarget, hplatform, harchitecture⟩, hsource, hname, hversion, hcommit⟩, ⟨⟩, hprobe, _,
      ⟨hdigests, hnodup, rfl⟩, _, ⟨hdiagnostics, rfl⟩, _, ⟨-, hincreasing, hevents, rfl⟩, htrace⟩
    exact ⟨⟨⟨htarget, hplatform, harchitecture, hprobe⟩,
      ⟨hsource, hname, hversion, hcommit, hdigests, hnodup⟩, hdiagnostics, hincreasing, hevents⟩,
      htrace⟩
  · rintro ⟨hvalid, htrace⟩
    obtain ⟨⟨htarget, hplatform, harchitecture, hprobe⟩, hprovenance, hdiagnostics, hincreasing,
      hevents⟩ := hvalid
    obtain ⟨hsource, hname, hversion, hcommit, hdigests, hnodup⟩ := hprovenance
    refine ⟨⟨⟨htarget, hplatform, harchitecture⟩, hsource, hname, hversion, hcommit⟩, (), hprobe, _,
      ⟨hdigests, hnodup, rfl⟩, _, ⟨hdiagnostics, rfl⟩, _, ⟨?_, hincreasing, hevents, rfl⟩, htrace⟩
    intro previous hp
    cases hp

theorem validTrace_iff (trace : TraceDocumentV0) :
    ValidTrace trace ↔ normalizeTraceV0 trace = .ok (sortTrace trace) := by
  rw [normalizeTraceV0_eq_ok]
  exact (and_iff_left rfl).symm

theorem ValidFields.sort (h : ValidFields fields) : ValidFields (sortFields fields) := by
  refine ⟨fun field hfield => h.identifiers field (mem_sortByKey.mp hfield),
    fun field hfield => h.values field (mem_sortByKey.mp hfield), ?_⟩
  exact ((sortByKey_perm stringLe TraceFieldV0.name fields).map _).nodup_iff.mpr h.nodup

theorem ValidFields.increasing (h : ValidFields fields) :
    ((sortFields fields).map TraceFieldV0.name).Pairwise (· < ·) := by
  have hsorted : ((sortFields fields).map TraceFieldV0.name).Pairwise (· ≤ ·) := by
    rw [List.pairwise_map]
    refine (ordersKeys_stringLe.pairwise_sortByKey TraceFieldV0.name fields).imp ?_
    intro a b hab
    exact of_decide_eq_true hab
  refine (hsorted.and h.sort.nodup).imp ?_
  rintro a b ⟨hle, hne⟩
  by_contra hlt
  exact hne (List.le_antisymm hle (List.not_lt.mp hlt))

end Astraea.Trace
