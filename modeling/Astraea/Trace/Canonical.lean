import Astraea.Trace.Serialization

/-!
# What a serialised trace says

A serialised trace is UTF-8, and a JSON text that a parser takes. The value it reads has keys
in increasing order, and `readDocument` finds every field of the normalised trace in it. So
two traces have the same text exactly when they are normalised to the same trace:
`serializeTraceV0_canonical`.
-/

namespace Astraea.Trace

open Astraea.Base Astraea.Core

/-! ### Reading a trace from its value -/

section Read

variable (json : Json)

/-- A member that is a text. -/
def readText (key : String) : Option ByteString := (json.get? (bytesOf key)).bind Json.text?

/-- A 64-bit number behind its `0x`. -/
def readU64Text (text : ByteString) : Option UInt64 :=
  if text.take 2 = bytesOf "0x" then (readHex 0 (text.drop 2)).map UInt64.ofNat else none

/-- A member that is a number, written as a text. -/
def readU64 (key : String) : Option UInt64 := (readText json key).bind readU64Text

/-- A value, by the type it says it has. -/
def readValue : Option TraceValueV0 :=
  (readText json "type").bind fun type =>
    if type = bytesOf "u64" then (readU64 json "value").map .u64
    else if type = bytesOf "bool" then ((json.get? (bytesOf "value")).bind Json.bool?).map .bool
    else if type = bytesOf "utf8" then (readText json "value").map .text
    else if type = bytesOf "bytes" then ((readText json "value").bind readHexBytes).map .bytes
    else none

/-- The members of an object, as fields. -/
def readMembers : List (List UInt8 × Json) → Option (List TraceFieldV0)
  | [] => some []
  | member :: members =>
    (readValue member.2).bind fun value => (readMembers members).map fun fields =>
      ⟨member.1, value⟩ :: fields

/-- A member that is an object of fields. -/
def readFields (key : String) : Option (List TraceFieldV0) :=
  ((json.get? (bytesOf key)).bind Json.members?).bind readMembers

/-- A member that need not be there. -/
def readOptional {α : Type} (key : String) (read : Json → Option α) : Option (Option α) :=
  match json.get? (bytesOf key) with
  | none => some none
  | some member => (read member).map some

/-- Each item of an array. -/
def readItems {α : Type} (read : Json → Option α) : List Json → Option (List α)
  | [] => some []
  | item :: items =>
    (read item).bind fun value => (readItems read items).map fun values => value :: values

/-- A member that is an array. -/
def readArray {α : Type} (key : String) (read : Json → Option α) : Option (List α) :=
  ((json.get? (bytesOf key)).bind Json.items?).bind (readItems read)

/-- The guest location, from its object. -/
def readGuest : Option GuestLocationV0 :=
  (readText json "object").bind fun object => (readU64 json "offset").map fun offset =>
    ⟨object, offset⟩

/-- An event, from its object. -/
def readEvent : Option TraceEventV0 := do
  let diagnostics ← readFields json "diagnostics"
  let guest ← readOptional json "guest" readGuest
  let id ← readU64 json "id"
  let stable ← readFields json "stable"
  let subsystem ← readText json "subsystem"
  let type ← readText json "type"
  return { id, subsystem, type, guest, stable, diagnostics }

/-- The producer, from its object. -/
def readProducer : Option TraceProducerV0 := do
  let commit ← readOptional json "commit" Json.text?
  let name ← readText json "name"
  let version ← readText json "version"
  return { name, version, commit }

/-- The provenance, from its object. -/
def readProvenance : Option TraceProvenanceV0 := do
  let artifactDigests ← readArray json "artifact_digests" Json.text?
  let producer ← (json.get? (bytesOf "producer")).bind readProducer
  let sourceKind ← readText json "source_kind"
  return { sourceKind, producer, artifactDigests }

/-- A probe: its id and its version. -/
def readProbe : Option (ByteString × UInt64) := do
  let id ← readText json "id"
  let version ← (json.get? (bytesOf "version")).bind Json.natural?
  return (id, UInt64.ofNat version)

/-- The run, from its object. -/
def readRun : Option TraceRunMetadataV0 := do
  let architecture ← readText json "architecture"
  let caseSha256 ← readOptional json "case_sha256" Json.text?
  let platformFamily ← readText json "platform_family"
  let probe ← readOptional json "probe" readProbe
  let targetKind ← readText json "target_kind"
  return {
    targetKind
    platformFamily
    architecture
    probeId := probe.map Prod.fst
    probeVersion := probe.map Prod.snd
    caseSha256 }

/-- A document, from its object. -/
def readDocument : Option TraceDocumentV0 := do
  let diagnostics ← readFields json "diagnostics"
  let events ← readArray json "events" readEvent
  let provenance ← (json.get? (bytesOf "provenance")).bind readProvenance
  let run ← (json.get? (bytesOf "run")).bind readRun
  return { run, provenance, events, diagnostics }

end Read

theorem readU64Text_hexDigits (value : UInt64) :
    readU64Text (bytesOf "0x" ++ hexDigits 16 value.toNat) = some value := by
  have hread := readHex_hexDigits 16 value.toNat 0 value.toNat_lt
  rw [Nat.mul_zero, Nat.zero_add] at hread
  have htake : (bytesOf "0x" ++ hexDigits 16 value.toNat).take 2 = bytesOf "0x" :=
    List.take_left' rfl
  have hdrop : (bytesOf "0x" ++ hexDigits 16 value.toNat).drop 2 = hexDigits 16 value.toNat :=
    List.drop_left' rfl
  rw [readU64Text, if_pos htake, hdrop, hread, Option.map_some, UInt64.ofNat_toNat]

theorem readValue_valueJson (value : TraceValueV0) : readValue (valueJson value) = some value := by
  cases value with
  | u64 value =>
    have htype : readText (valueJson (.u64 value)) "type" = some (bytesOf "u64") := rfl
    have hvalue : readText (valueJson (.u64 value)) "value" =
      some (bytesOf "0x" ++ hexDigits 16 value.toNat) := rfl
    rw [readValue, htype, Option.bind_some, if_pos rfl, readU64, hvalue, Option.bind_some,
      readU64Text_hexDigits, Option.map_some]
  | bool value => rfl
  | text value => rfl
  | bytes value =>
    have htype : readText (valueJson (.bytes value)) "type" = some (bytesOf "bytes") := rfl
    have hvalue : readText (valueJson (.bytes value)) "value" = some (hexBytes value) := rfl
    rw [readValue, htype, Option.bind_some, if_neg (by decide), if_neg (by decide),
      if_neg (by decide), if_pos rfl, hvalue, Option.bind_some, readHexBytes_hexBytes,
      Option.map_some]

theorem readMembers_fields (fields : List TraceFieldV0) :
    readMembers (fields.map fun field => (field.name, valueJson field.value)) = some fields := by
  induction fields with
  | nil => rfl
  | cons field fields ih =>
    rw [List.map_cons, readMembers, readValue_valueJson, Option.bind_some, ih, Option.map_some]

theorem readItems_map {α : Type} {read : Json → Option α} {write : α → Json} (values : List α)
    (h : ∀ value ∈ values, read (write value) = some value) :
    readItems read (values.map write) = some values := by
  induction values with
  | nil => rfl
  | cons value values ih =>
    rw [List.forall_mem_cons] at h
    rw [List.map_cons, readItems, h.1, Option.bind_some, ih h.2, Option.map_some]

variable {key : String} {run : TraceRunMetadataV0} {value : ByteString} {trace : TraceDocumentV0}

theorem readFields_of_get? {json : Json} {fields : List TraceFieldV0}
    (h : json.get? (bytesOf key) = some (fieldsJson fields)) :
    readFields json key = some fields := by
  rw [readFields, h, Option.bind_some, fieldsJson, Json.members?, Option.bind_some,
    readMembers_fields]

theorem readU64_of_get? {json : Json} {value : UInt64}
    (h : json.get? (bytesOf key) = some (.string (bytesOf "0x" ++ hexDigits 16 value.toNat))) :
    readU64 json key = some value := by
  rw [readU64, readText, h, Option.bind_some, Json.text?, Option.bind_some, readU64Text_hexDigits]

theorem readText_of_get? {json : Json} {text : ByteString}
    (h : json.get? (bytesOf key) = some (.string text)) :
    readText json key = some text := by
  rw [readText, h, Option.bind_some, Json.text?]

theorem readOptional_of_get? {α : Type} {json : Json} {read : Json → Option α} {write : α → Json}
    {value : Option α} (h : json.get? (bytesOf key) = value.map write)
    (hread : ∀ a, value = some a → read (write a) = some a) :
    readOptional json key read = some value := by
  unfold readOptional
  rw [h]
  cases value with
  | none => rfl
  | some a => simp only [Option.map_some, hread a rfl]

theorem readGuest_guestJson (guest : GuestLocationV0) :
    readGuest (guestJson guest) = some guest := by
  have hobject : readText (guestJson guest) "object" = some guest.object := readText_of_get? rfl
  have hoffset : readU64 (guestJson guest) "offset" = some guest.offset := readU64_of_get? rfl
  rw [readGuest, hobject, Option.bind_some, hoffset, Option.map_some]

theorem readEvent_eventJson (event : TraceEventV0) : readEvent (eventJson event) = some event := by
  have hdiagnostics : readFields (eventJson event) "diagnostics" = some event.diagnostics :=
    readFields_of_get? rfl
  have hguest : readOptional (eventJson event) "guest" readGuest = some event.guest := by
    refine readOptional_of_get? ?_ fun guest _ => readGuest_guestJson guest
    unfold eventJson
    cases event.guest <;> rfl
  have hid : readU64 (eventJson event) "id" = some event.id := by
    refine readU64_of_get? ?_
    unfold eventJson
    cases event.guest <;> rfl
  have hstable : readFields (eventJson event) "stable" = some event.stable := by
    refine readFields_of_get? ?_
    unfold eventJson
    cases event.guest <;> rfl
  have hsubsystem : readText (eventJson event) "subsystem" = some event.subsystem := by
    refine readText_of_get? ?_
    unfold eventJson
    cases event.guest <;> rfl
  have htype : readText (eventJson event) "type" = some event.type := by
    refine readText_of_get? ?_
    unfold eventJson
    cases event.guest <;> rfl
  simp only [readEvent, hdiagnostics, hguest, hid, hstable, hsubsystem, htype, Option.bind_eq_bind,
    Option.bind_some, Option.pure_def]

theorem readProducer_producerJson (producer : TraceProducerV0) :
    readProducer (producerJson producer) = some producer := by
  have hcommit : readOptional (producerJson producer) "commit" Json.text? =
      some producer.commit := by
    refine @readOptional_of_get? _ _ _ _ Json.string _ ?_ fun commit _ => rfl
    unfold producerJson
    cases producer.commit <;> rfl
  have hname : readText (producerJson producer) "name" = some producer.name := by
    refine readText_of_get? ?_
    unfold producerJson
    cases producer.commit <;> rfl
  have hversion : readText (producerJson producer) "version" = some producer.version := by
    refine readText_of_get? ?_
    unfold producerJson
    cases producer.commit <;> rfl
  simp only [readProducer, hcommit, hname, hversion, Option.bind_eq_bind, Option.bind_some,
    Option.pure_def]

theorem readProvenance_provenanceJson (provenance : TraceProvenanceV0) :
    readProvenance (provenanceJson provenance) = some provenance := by
  have hdigests : readArray (provenanceJson provenance) "artifact_digests" Json.text? =
      some provenance.artifactDigests := by
    show readItems Json.text? (provenance.artifactDigests.map Json.string) = _
    exact readItems_map _ fun digest _ => rfl
  have hproducer : (provenanceJson provenance).get? (bytesOf "producer") =
    some (producerJson provenance.producer) := rfl
  have hsource : readText (provenanceJson provenance) "source_kind" = some provenance.sourceKind :=
    readText_of_get? rfl
  simp only [readProvenance, hdigests, hproducer, hsource, readProducer_producerJson,
    Option.bind_eq_bind, Option.bind_some, Option.pure_def]

theorem readProbe_probeJson (id : ByteString) (version : UInt64) :
    readProbe (probeJson id version) = some (id, version) := by
  have hid : readText (probeJson id version) "id" = some id := readText_of_get? rfl
  have hversion : (probeJson id version).get? (bytesOf "version") =
    some (.number version.toNat 0) := rfl
  have hnatural : Json.natural? (.number version.toNat 0) = some version.toNat := by
    rw [Json.natural?, if_pos ⟨by omega, rfl⟩, Int.natAbs_natCast]
  simp only [readProbe, hid, hversion, hnatural, Option.bind_eq_bind, Option.bind_some,
    Option.pure_def, UInt64.ofNat_toNat]

/-- A run is read back, where an id and a version of a probe go together. -/
theorem readRun_runJson (hprobe : run.probeId.isSome = run.probeVersion.isSome) :
    readRun (runJson run) = some run := by
  have harchitecture : readText (runJson run) "architecture" = some run.architecture :=
    readText_of_get? rfl
  have hcase : readOptional (runJson run) "case_sha256" Json.text? = some run.caseSha256 := by
    refine @readOptional_of_get? _ _ _ _ Json.string _ ?_ fun digest _ => rfl
    unfold runJson
    cases run.caseSha256 <;> cases run.probeId <;> rfl
  have hplatform : readText (runJson run) "platform_family" = some run.platformFamily := by
    refine readText_of_get? ?_
    unfold runJson
    cases run.caseSha256 <;> rfl
  have hprobes : readOptional (runJson run) "probe" readProbe =
      some (run.probeId.map fun id => (id, run.probeVersion.getD 0)) := by
    refine @readOptional_of_get? _ _ _ _ (fun probe => probeJson probe.1 probe.2) _ ?_
      fun probe _ => readProbe_probeJson probe.1 probe.2
    unfold runJson
    cases run.caseSha256 <;> cases run.probeId <;> rfl
  have htarget : readText (runJson run) "target_kind" = some run.targetKind := by
    refine readText_of_get? ?_
    unfold runJson
    cases run.caseSha256 <;> cases run.probeId <;> rfl
  simp only [readRun, harchitecture, hcase, hplatform, hprobes, htarget, Option.bind_eq_bind,
    Option.bind_some, Option.pure_def]
  obtain ⟨targetKind, platformFamily, architecture, probeId, probeVersion, caseSha256⟩ := run
  cases probeId <;> cases probeVersion <;> first | rfl | cases hprobe

/-- **The trace is read back from its value.** -/
theorem readDocument_documentJson {value : TraceDocumentV0}
    (hprobe : value.run.probeId.isSome = value.run.probeVersion.isSome) :
    readDocument (documentJson value) = some value := by
  have hdiagnostics : readFields (documentJson value) "diagnostics" = some value.diagnostics :=
    readFields_of_get? rfl
  have hevents : readArray (documentJson value) "events" readEvent = some value.events := by
    show readItems readEvent (value.events.map eventJson) = _
    exact readItems_map _ fun event _ => readEvent_eventJson event
  have hprovenance : (documentJson value).get? (bytesOf "provenance") =
    some (provenanceJson value.provenance) := rfl
  have hrun : (documentJson value).get? (bytesOf "run") = some (runJson value.run) := rfl
  simp only [readDocument, hdiagnostics, hevents, hprovenance, hrun, readProvenance_provenanceJson,
    readRun_runJson hprobe, Option.bind_eq_bind, Option.bind_some, Option.pure_def]

/-! ### Texts -/

theorem isContinuation_of_continuation {byte : UInt8} (h : continuation byte = true) :
    IsContinuation byte := by
  simp only [continuation, Bool.and_eq_true, decide_eq_true_eq, UInt8.le_iff_toNat_le] at h
  exact h

/-- A second byte that may stand behind a first one, of which two leave less room: the least byte
makes the character short, the greatest one a character there is not. -/
theorem secondByte_iff {low high least greatest first second : UInt8} (hne : low ≠ high)
    (hleast : 0x80 ≤ least.toNat) (hgreatest : greatest.toNat ≤ 0xbf) :
    (if first = low then decide (least ≤ second) && decide (second ≤ 0xbf)
      else if first = high then decide (0x80 ≤ second) && decide (second ≤ greatest)
      else continuation second) = true ↔
      IsContinuation second ∧ (first.toNat = low.toNat → least.toNat ≤ second.toNat) ∧
        (first.toNat = high.toNat → second.toNat ≤ greatest.toNat) := by
  have hbounds : IsContinuation second ↔ (0x80 : UInt8) ≤ second ∧ second ≤ 0xbf := by
    simp only [IsContinuation, UInt8.le_iff_toNat_le]
    rfl
  rw [hbounds, UInt8.toNat_inj, UInt8.toNat_inj, ← UInt8.le_iff_toNat_le, ← UInt8.le_iff_toNat_le]
  split_ifs with hlow hhigh
  · simp only [Bool.and_eq_true, decide_eq_true_eq, hlow, hne, true_implies, false_implies,
      and_true]
    exact ⟨fun h => ⟨⟨UInt8.le_trans hleast h.1, h.2⟩, h.1⟩, fun h => ⟨h.2, h.1.2⟩⟩
  · simp only [Bool.and_eq_true, decide_eq_true_eq, hhigh, hne.symm, true_implies, false_implies,
      true_and]
    exact ⟨fun h => ⟨⟨h.1, UInt8.le_trans h.2 hgreatest⟩, h.2⟩, fun h => ⟨h.1.1, h.2⟩⟩
  · simp only [continuation, Bool.and_eq_true, decide_eq_true_eq, hlow, hhigh, false_implies,
      and_true]

theorem validSecondOfThree_iff {first second : UInt8} :
    validSecondOfThree first second = true ↔ IsContinuation second ∧
      (first.toNat = 0xe0 → 0xa0 ≤ second.toNat) ∧ (first.toNat = 0xed → second.toNat ≤ 0x9f) :=
  secondByte_iff (by decide) (by decide) (by decide)

theorem validSecondOfFour_iff {first second : UInt8} :
    validSecondOfFour first second = true ↔ IsContinuation second ∧
      (first.toNat = 0xf0 → 0x90 ≤ second.toNat) ∧ (first.toNat = 0xf4 → second.toNat ≤ 0x8f) :=
  secondByte_iff (by decide) (by decide) (by decide)

theorem toNat_between {low high byte : UInt8} (h : low ≤ byte ∧ byte ≤ high) :
    low.toNat ≤ byte.toNat ∧ byte.toNat ≤ high.toNat :=
  ⟨UInt8.le_iff_toNat_le.mp h.1, UInt8.le_iff_toNat_le.mp h.2⟩

theorem isUtf8_of_validSecondOfThree {first second third : UInt8}
    (hfirst : 0xe0 ≤ first ∧ first ≤ 0xef) (hthird : continuation third = true)
    (hsecond : validSecondOfThree first second = true) : IsUtf8 [first, second, third] := by
  have hfirst : 0xe0 ≤ first.toNat ∧ first.toNat ≤ 0xef := toNat_between hfirst
  have hthird := isContinuation_of_continuation hthird
  obtain ⟨hsecond, hshort, hsurrogate⟩ := validSecondOfThree_iff.mp hsecond
  refine isUtf8_three hfirst hsecond hthird ?_ ?_ <;> unfold IsContinuation at hsecond hthird
    <;> unfold valueOfThree <;> omega

theorem isUtf8_of_validSecondOfFour {first second third fourth : UInt8}
    (hfirst : 0xf0 ≤ first ∧ first ≤ 0xf4) (hthird : continuation third = true)
    (hfourth : continuation fourth = true) (hsecond : validSecondOfFour first second = true) :
    IsUtf8 [first, second, third, fourth] := by
  have hfirst : 0xf0 ≤ first.toNat ∧ first.toNat ≤ 0xf4 := toNat_between hfirst
  have hthird := isContinuation_of_continuation hthird
  have hfourth := isContinuation_of_continuation hfourth
  obtain ⟨hsecond, hshort, hlarge⟩ := validSecondOfFour_iff.mp hsecond
  refine isUtf8_four hfirst hsecond hthird hfourth ?_ ?_ <;>
    unfold IsContinuation at hsecond hthird hfourth <;> unfold valueOfFour <;> omega

/-- **What `valid_utf8` accepts is UTF-8.** -/
theorem isUtf8_of_validUtf8 {bytes : ByteString} (h : validUtf8 bytes = true) : IsUtf8 bytes := by
  fun_induction validUtf8 bytes with
  | case1 => exact isUtf8_nil
  | case2 first rest hfirst ih =>
    have hascii : IsUtf8 [first] := isUtf8_of_ascii (by
      simpa using lt_of_le_of_lt (UInt8.le_iff_toNat_le.mp hfirst) (by decide))
    exact hascii.append (ih h)
  | case3 first hascii hfirst second rest ih =>
    rw [Bool.and_eq_true] at h
    exact (isUtf8_two (toNat_between hfirst) (isContinuation_of_continuation h.1)).append (ih h.2)
  | case4 => cases h
  | case5 first hascii htwo hfirst second third rest ih =>
    rw [Bool.and_eq_true, Bool.and_eq_true] at h
    exact (isUtf8_of_validSecondOfThree hfirst h.1.1 h.1.2).append (ih h.2)
  | case6 => cases h
  | case7 first hascii htwo hthree hfirst second third fourth rest ih =>
    rw [Bool.and_eq_true, Bool.and_eq_true, Bool.and_eq_true] at h
    exact (isUtf8_of_validSecondOfFour hfirst h.1.1.1 h.1.1.2 h.1.2).append (ih h.2)
  | case8 => cases h
  | case9 => cases h

theorem isUtf8_of_validIdentifier (h : validIdentifier value = true) : IsUtf8 value := by
  refine isUtf8_of_ascii ?_
  intro byte hbyte
  have hchar : isIdentifierChar byte = true := by
    cases value with
    | nil => cases h
    | cons first rest =>
      rw [validIdentifier, Bool.and_eq_true, List.all_eq_true] at h
      exact h.2 byte hbyte
  simp only [isIdentifierChar, isIdentifierStart, Bool.or_eq_true, Bool.and_eq_true,
    decide_eq_true_eq, beq_iff_eq, UInt8.le_iff_toNat_le, ← UInt8.toNat_inj] at hchar
  change (((((97 ≤ byte.toNat ∧ byte.toNat ≤ 122) ∨ (48 ≤ byte.toNat ∧ byte.toNat ≤ 57)) ∨
    byte.toNat = 46) ∨ byte.toNat = 95) ∨ byte.toNat = 58) ∨ byte.toNat = 45 at hchar
  omega

theorem isUtf8_of_validSha256 (h : validSha256 value = true) : IsUtf8 value := by
  simp only [validSha256, Bool.and_eq_true, List.isPrefixOf_iff_prefix, List.all_eq_true] at h
  obtain ⟨⟨-, rest, rfl⟩, hdigits⟩ := h
  rw [List.drop_left] at hdigits
  refine IsUtf8.append (isUtf8_of_all_ascii (by decide)) (isUtf8_of_ascii ?_)
  intro byte hbyte
  have hdigit := hdigits byte hbyte
  simp only [Bool.or_eq_true, Bool.and_eq_true, decide_eq_true_eq, UInt8.le_iff_toNat_le] at hdigit
  change (48 ≤ byte.toNat ∧ byte.toNat ≤ 57) ∨ (97 ≤ byte.toNat ∧ byte.toNat ≤ 102) at hdigit
  omega

theorem isUtf8_bytesOf_hex (width value : ℕ) : IsUtf8 (bytesOf "0x" ++ hexDigits width value) := by
  refine IsUtf8.append (isUtf8_of_all_ascii (by decide)) (isUtf8_of_ascii ?_)
  intro byte hbyte
  have := hexDigits_ascii hbyte
  omega

theorem isUtf8_hexBytes (bytes : List UInt8) : IsUtf8 (hexBytes bytes) := by
  refine isUtf8_of_ascii ?_
  intro byte hbyte
  obtain ⟨value, -, hdigit⟩ := List.mem_flatMap.mp hbyte
  have := hexDigits_ascii hdigit
  omega

/-! ### The value of a normalised trace -/

/-- What is said of the value of a trace: its texts are UTF-8 and its keys increase. -/
def WellFormed (json : Json) : Prop := json.AllStrings IsUtf8 ∧ json.KeysIncrease

theorem wellFormed_string {text : ByteString} (h : IsUtf8 text) : WellFormed (.string text) :=
  ⟨.string h, .string text⟩

theorem wellFormed_object {members : List (List UInt8 × Json)}
    (hkeys : (members.map Prod.fst).Pairwise (· < ·))
    (hmembers : ∀ member ∈ members, IsUtf8 member.1 ∧ WellFormed member.2) :
    WellFormed (.object members) :=
  ⟨.object (fun member hmember => (hmembers member hmember).1) fun member hmember =>
    (hmembers member hmember).2.1,
      .object hkeys fun member hmember => (hmembers member hmember).2.2⟩

theorem wellFormed_array {items : List Json} (hitems : ∀ item ∈ items, WellFormed item) :
    WellFormed (.array items) :=
  ⟨.array fun item hitem => (hitems item hitem).1, .array fun item hitem => (hitems item hitem).2⟩

/-- A text of the source in ASCII. -/
def isAscii (text : String) : Bool := (bytesOf text).all fun byte => decide (byte.toNat < 128)

theorem isUtf8_of_isAscii {text : String} (h : isAscii text = true) : IsUtf8 (bytesOf text) :=
  isUtf8_of_ascii (by simpa [isAscii] using h)

theorem wellFormed_of_keys {members : List (List UInt8 × Json)} (keys : List String)
    (hnames : members.map Prod.fst = keys.map bytesOf)
    (hincrease : (keys.map bytesOf).Pairwise (· < ·)) (hascii : keys.all isAscii = true)
    (hvalues : ∀ json ∈ members.map Prod.snd, WellFormed json) : WellFormed (.object members) := by
  refine wellFormed_object (hnames ▸ hincrease) ?_
  intro member hmember
  refine ⟨?_, hvalues _ (List.mem_map_of_mem hmember)⟩
  have hkey : member.1 ∈ keys.map bytesOf := hnames ▸ List.mem_map_of_mem hmember
  obtain ⟨key, hkey, hbytes⟩ := List.mem_map.mp hkey
  rw [← hbytes]
  exact isUtf8_of_isAscii (List.all_eq_true.mp hascii key hkey)

theorem wellFormed_ascii {text : String} (h : isAscii text = true) :
    WellFormed (.string (bytesOf text)) :=
  wellFormed_string (isUtf8_of_isAscii h)

theorem wellFormed_valueJson {value : TraceValueV0} (h : validValue value = true) :
    WellFormed (valueJson value) := by
  cases value with
  | u64 value =>
    refine wellFormed_of_keys ["type", "value"] rfl (by decide) (by decide) ?_
    simp only [List.map_cons, List.map_nil, List.forall_mem_cons]
    exact ⟨wellFormed_ascii (by decide), wellFormed_string (isUtf8_bytesOf_hex 16 _), by simp⟩
  | bool value =>
    refine wellFormed_of_keys ["type", "value"] rfl (by decide) (by decide) ?_
    simp only [List.map_cons, List.map_nil, List.forall_mem_cons]
    exact ⟨wellFormed_ascii (by decide), ⟨.bool value, .bool value⟩, by simp⟩
  | text value =>
    refine wellFormed_of_keys ["type", "value"] rfl (by decide) (by decide) ?_
    simp only [List.map_cons, List.map_nil, List.forall_mem_cons]
    exact ⟨wellFormed_ascii (by decide), wellFormed_string (isUtf8_of_validUtf8 h), by simp⟩
  | bytes value =>
    refine wellFormed_of_keys ["encoding", "type", "value"] rfl (by decide) (by decide) ?_
    simp only [List.map_cons, List.map_nil, List.forall_mem_cons]
    exact ⟨wellFormed_ascii (by decide), wellFormed_ascii (by decide),
      wellFormed_string (isUtf8_hexBytes value), by simp⟩

theorem wellFormed_fieldsJson {fields : List TraceFieldV0} (h : ValidFields fields) :
    WellFormed (fieldsJson (sortFields fields)) := by
  refine wellFormed_object ?_ ?_
  · rw [List.map_map]
    exact h.increasing
  · intro member hmember
    obtain ⟨field, hfield, rfl⟩ := List.mem_map.mp hmember
    have hfield := mem_sortByKey.mp hfield
    exact ⟨isUtf8_of_validIdentifier (h.identifiers field hfield),
      wellFormed_valueJson (h.values field hfield)⟩

theorem wellFormed_identifier (h : validIdentifier value = true) : WellFormed (.string value) :=
  wellFormed_string (isUtf8_of_validIdentifier h)

theorem wellFormed_eventJson {event : TraceEventV0} (h : ValidEvent event) :
    WellFormed (eventJson (sortEvent event)) := by
  have hguest : ∀ guest, event.guest = some guest → WellFormed (guestJson guest) := by
    intro guest hguest
    refine wellFormed_of_keys ["kind", "object", "offset"] rfl (by decide) (by decide) ?_
    simp only [List.map_cons, List.map_nil, List.forall_mem_cons]
    exact ⟨wellFormed_ascii (by decide), wellFormed_identifier (h.guest guest hguest),
      wellFormed_string (isUtf8_bytesOf_hex 16 _), by simp⟩
  have hrest : ∀ json ∈ [Json.string (bytesOf "0x" ++ hexDigits 16 event.id.toNat),
      fieldsJson (sortFields event.stable), .string event.subsystem, .string event.type],
      WellFormed json := by
    simp only [List.forall_mem_cons]
    exact ⟨wellFormed_string (isUtf8_bytesOf_hex 16 _), wellFormed_fieldsJson h.stable,
      wellFormed_identifier h.subsystem, wellFormed_identifier h.type, by simp⟩
  have hdiagnostics := wellFormed_fieldsJson h.diagnostics
  unfold eventJson sortEvent
  dsimp only
  cases hcase : event.guest with
  | none =>
    refine wellFormed_of_keys ["diagnostics", "id", "stable", "subsystem", "type"] rfl (by decide)
      (by decide) ?_
    exact List.forall_mem_cons.mpr ⟨hdiagnostics, hrest⟩
  | some guest =>
    refine wellFormed_of_keys ["diagnostics", "guest", "id", "stable", "subsystem", "type"] rfl
      (by decide) (by decide) ?_
    exact List.forall_mem_cons.mpr
      ⟨hdiagnostics, List.forall_mem_cons.mpr ⟨hguest guest hcase, hrest⟩⟩

theorem wellFormed_provenanceJson {provenance : TraceProvenanceV0}
    (h : ValidProvenance provenance) :
    WellFormed (provenanceJson { provenance with
      artifactDigests := sortDigests provenance.artifactDigests }) := by
  have hproducer : WellFormed (producerJson provenance.producer) := by
    have hrest : ∀ json ∈ [Json.string provenance.producer.name,
        .string provenance.producer.version], WellFormed json := by
      simp only [List.forall_mem_cons]
      exact ⟨wellFormed_identifier h.name, wellFormed_identifier h.version, by simp⟩
    unfold producerJson
    cases hcase : provenance.producer.commit with
    | none => exact wellFormed_of_keys ["name", "version"] rfl (by decide) (by decide) hrest
    | some commit =>
      refine wellFormed_of_keys ["commit", "name", "version"] rfl (by decide) (by decide) ?_
      exact List.forall_mem_cons.mpr ⟨wellFormed_identifier (h.commit commit hcase), hrest⟩
  have hdigests :
      WellFormed (.array ((sortDigests provenance.artifactDigests).map Json.string)) := by
    refine wellFormed_array ?_
    intro item hitem
    obtain ⟨digest, hdigest, rfl⟩ := List.mem_map.mp hitem
    exact wellFormed_string (isUtf8_of_validSha256 (h.digests digest (mem_sortByKey.mp hdigest)))
  refine wellFormed_of_keys ["artifact_digests", "producer", "source_kind"] rfl (by decide)
    (by decide) ?_
  simp only [List.map_cons, List.map_nil, List.forall_mem_cons]
  exact ⟨hdigests, hproducer, wellFormed_identifier h.sourceKind, by simp⟩

theorem checkProbe_eq_ok (h : checkProbe run = .ok ()) :
    run.probeId.isSome = run.probeVersion.isSome ∧
    (∀ id, run.probeId = some id → validIdentifier id = true) ∧
      ∀ digest, run.caseSha256 = some digest → validSha256 digest = true := by
  simp only [checkProbe, bind_eq_ok, refuseIf_eq_ok, exists_const, ne_eq, not_not] at h
  obtain ⟨hprobe, hid, -, -, hcase⟩ := h
  refine ⟨hprobe, ?_, ?_⟩
  · intro id hsome
    simpa [hsome] using hid
  · intro digest hsome
    simpa [hsome] using hcase

theorem wellFormed_runJson (h : ValidRun run) : WellFormed (runJson run) := by
  obtain ⟨-, hid, hdigest⟩ := checkProbe_eq_ok h.probe
  have hprobe : ∀ id, run.probeId = some id →
      WellFormed (probeJson id (run.probeVersion.getD 0)) := by
    intro id hsome
    refine wellFormed_of_keys ["id", "version"] rfl (by decide) (by decide) ?_
    simp only [List.map_cons, List.map_nil, List.forall_mem_cons]
    exact ⟨wellFormed_identifier (hid id hsome), ⟨.number _ _, .number _ _⟩, by simp⟩
  have harchitecture := wellFormed_identifier h.architecture
  have hplatform := wellFormed_identifier h.platformFamily
  have htarget : ∀ json ∈ [Json.string run.targetKind], WellFormed json := by
    simpa using wellFormed_identifier h.targetKind
  unfold runJson
  cases hcase : run.caseSha256 with
  | none =>
    cases hprobeId : run.probeId with
    | none =>
      refine wellFormed_of_keys ["architecture", "platform_family", "target_kind"] rfl (by decide)
        (by decide) ?_
      exact List.forall_mem_cons.mpr ⟨harchitecture, List.forall_mem_cons.mpr ⟨hplatform, htarget⟩⟩
    | some id =>
      refine wellFormed_of_keys ["architecture", "platform_family", "probe", "target_kind"] rfl
        (by decide) (by decide) ?_
      exact List.forall_mem_cons.mpr ⟨harchitecture, List.forall_mem_cons.mpr ⟨hplatform,
        List.forall_mem_cons.mpr ⟨hprobe id hprobeId, htarget⟩⟩⟩
  | some digest =>
    have hdigest := wellFormed_string (isUtf8_of_validSha256 (hdigest digest hcase))
    cases hprobeId : run.probeId with
    | none =>
      refine wellFormed_of_keys ["architecture", "case_sha256", "platform_family", "target_kind"]
        rfl (by decide) (by decide) ?_
      exact List.forall_mem_cons.mpr ⟨harchitecture,
        List.forall_mem_cons.mpr ⟨hdigest, List.forall_mem_cons.mpr ⟨hplatform, htarget⟩⟩⟩
    | some id =>
      refine wellFormed_of_keys ["architecture", "case_sha256", "platform_family", "probe",
        "target_kind"] rfl (by decide)
        (by decide) ?_
      exact List.forall_mem_cons.mpr
        ⟨harchitecture, List.forall_mem_cons.mpr ⟨hdigest,
        List.forall_mem_cons.mpr ⟨hplatform,
        List.forall_mem_cons.mpr ⟨hprobe id hprobeId, htarget⟩⟩⟩⟩

theorem wellFormed_documentJson (h : ValidTrace trace) :
    WellFormed (documentJson (sortTrace trace)) := by
  have hevents : WellFormed (.array ((trace.events.map sortEvent).map eventJson)) := by
    refine wellFormed_array ?_
    intro item hitem
    obtain ⟨event', hevent', rfl⟩ := List.mem_map.mp hitem
    obtain ⟨event, hevent, rfl⟩ := List.mem_map.mp hevent'
    exact wellFormed_eventJson (h.events event hevent)
  refine wellFormed_of_keys ["diagnostics", "events", "provenance", "run", "schema"] rfl (by decide)
    (by decide) ?_
  simp only [List.map_cons, List.map_nil, List.forall_mem_cons]
  exact ⟨wellFormed_fieldsJson h.diagnostics, hevents, wellFormed_provenanceJson h.provenance,
    wellFormed_runJson h.run, wellFormed_ascii (by decide), by simp⟩

theorem serializeTraceV0_eq_ok {host : Host} {output : ByteString}
    (h : serializeTraceV0 host trace = .ok output) :
    ValidTrace trace ∧ output = serializeDocument (sortTrace trace) := by
  simp only [serializeTraceV0, bind_eq_ok, pure_eq_ok, normalizeTraceV0_eq_ok] at h
  obtain ⟨_, ⟨hvalid, rfl⟩, ⟨⟩, -, rfl⟩ := h
  exact ⟨hvalid, rfl⟩

/-- A parser reads the normalised trace from the output. -/
theorem readDocument_parse (h : ValidTrace trace) :
    (Json.parse (serializeDocument (sortTrace trace))).bind readDocument =
      some (sortTrace trace) := by
  have hprobe : (sortTrace trace).run.probeId.isSome = (sortTrace trace).run.probeVersion.isSome :=
    (checkProbe_eq_ok h.run.probe).1
  rw [serializeDocument_eq, Json.parse_render, Option.bind_some, readDocument_documentJson hprobe]

/-- **Serialisation is canonical.** Two outputs are the same exactly when the traces are normalised
to the same trace; and an output is UTF-8, and a JSON text with increasing keys from which the
normalised trace is read back. -/
theorem serializeTraceV0_canonical {host host' : Host} {trace trace' : TraceDocumentV0}
    {output output' : ByteString} (h : serializeTraceV0 host trace = .ok output)
    (h' : serializeTraceV0 host' trace' = .ok output') :
    (output = output' ↔ normalizeTraceV0 trace = normalizeTraceV0 trace') ∧ IsUtf8 output ∧
      ∃ json normalized, normalizeTraceV0 trace = .ok normalized ∧ Json.parse output = some json ∧
        json.KeysIncrease ∧
        readDocument json = some normalized := by
  obtain ⟨hvalid, rfl⟩ := serializeTraceV0_eq_ok h
  obtain ⟨hvalid', rfl⟩ := serializeTraceV0_eq_ok h'
  have hnormalized := (validTrace_iff trace).mp hvalid
  have hnormalized' := (validTrace_iff trace').mp hvalid'
  have hread := readDocument_parse hvalid
  have hformed := wellFormed_documentJson hvalid
  refine ⟨?_, ?_, documentJson (sortTrace trace), sortTrace trace, hnormalized, ?_, hformed.2, ?_⟩
  · rw [hnormalized, hnormalized', Except.ok.injEq]
    constructor
    · intro houtput
      rw [houtput, readDocument_parse hvalid', Option.some_inj] at hread
      exact hread.symm
    · intro hsame
      rw [hsame]
  · rw [serializeDocument_eq]
    exact Json.isUtf8_render hformed.1
  · rw [serializeDocument_eq, Json.parse_render]
  · rwa [serializeDocument_eq, Json.parse_render, Option.bind_some] at hread

/-- A trace with a field of each type, a text with a quote, a line feed and an umlaut among them. -/
def textTrace : TraceDocumentV0 where
  run :=
    ⟨bytesOf "emulator", bytesOf "desktop", bytesOf "x86_64", some (bytesOf "probe"), some 3, none⟩
  provenance := ⟨bytesOf "emulator", ⟨bytesOf "astraea", bytesOf "1", some (bytesOf "0a1b")⟩, []⟩
  events := [⟨7, bytesOf "cpu", bytesOf "step", some ⟨bytesOf "image", 0x40⟩,
    [⟨bytesOf "text", .text [34, 10, 0xc3, 0xbc]⟩, ⟨bytesOf "bytes", .bytes [0, 255]⟩,
      ⟨bytesOf "flag", .bool true⟩], []⟩]
  diagnostics := [⟨bytesOf "count", .u64 12⟩]

theorem textTrace_reads :
    ∃ output json, serializeTraceV0 Host.plentiful textTrace = .ok output ∧ IsUtf8 output ∧
      Json.parse output = some json ∧
      readDocument json = some (sortTrace textTrace) := by
  have hnormalized : normalizeTraceV0 textTrace = .ok (sortTrace textTrace) := by decide
  have houtput : serializeTraceV0 Host.plentiful textTrace =
      .ok (serializeDocument (sortTrace textTrace)) := by
    rw [serializeTraceV0, hnormalized]
    rfl
  obtain ⟨-, hutf8, json, normalized, hnormalized', hparse, -, hread⟩ :=
    serializeTraceV0_canonical houtput houtput
  rw [hnormalized, Except.ok.injEq] at hnormalized'
  exact ⟨_, json, houtput, hutf8, hparse, hnormalized' ▸ hread⟩

end Astraea.Trace
