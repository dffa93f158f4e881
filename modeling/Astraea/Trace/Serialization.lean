import Astraea.Base.Json
import Astraea.Core.HostAllocation
import Astraea.Trace.V0

/-!
# Canonical serialisation

`serialize_trace_v0` writes a normalised trace as one JSON text, by hand: the keys of each
object in the order of their bytes, 64-bit numbers as hexadecimal strings, no white space.

The functions `append…` give the bytes that the functions of the source append. `documentJson`
is the value the text stands for, `serializeDocument_eq` says that the text is that value as
it is rendered, and `readDocument` gets the trace back from it.
-/

namespace Astraea.Trace

open Astraea.Base Astraea.Core

/-! ### The writer -/

/-- One turn of the loop of `append_json_string`. -/
def appendJsonChar (byte : UInt8) : ByteString :=
  if byte = 34 then bytesOf "\\\""
  else if byte = 92 then bytesOf "\\\\"
  else if byte < 0x20 then
    bytesOf "\\u00" ++ [hexDigit (byte >>> 4 &&& 0x0f).toNat, hexDigit (byte &&& 0x0f).toNat]
  else [byte]

/-- `append_json_string`. -/
def appendJsonString (value : ByteString) : ByteString :=
  bytesOf "\"" ++ value.flatMap appendJsonChar ++ bytesOf "\""

/-- `append_u64_hex`; the digits are those of the shifts from 60 down to 0. -/
def appendU64Hex (value : UInt64) : ByteString :=
  bytesOf "\"0x" ++ hexDigits 16 value.toNat ++ bytesOf "\""

/-- `append_decimal`; no 64-bit number needs more than the 32 characters there is room for. -/
def appendDecimal (value : UInt64) : ByteString := decimal value.toNat

/-- `append_bytes_hex`. -/
def appendBytesHex (bytes : List UInt8) : ByteString :=
  bytesOf "\"" ++ hexBytes bytes ++ bytesOf "\""

/-- `append_value`. -/
def appendValue : TraceValueV0 → ByteString
  | .u64 value => bytesOf "\x7b\"type\":\"u64\",\"value\":" ++ appendU64Hex value ++ bytesOf "\x7d"
  | .bool value =>
    bytesOf "\x7b\"type\":\"bool\",\"value\":" ++
      bytesOf (if value = true then "true" else "false") ++ bytesOf "\x7d"
  | .text value =>
    bytesOf "\x7b\"type\":\"utf8\",\"value\":" ++ appendJsonString value ++ bytesOf "\x7d"
  | .bytes value =>
    bytesOf "\x7b\"encoding\":\"hex\",\"type\":\"bytes\",\"value\":" ++ appendBytesHex value ++
      bytesOf "\x7d"

/-- A loop that puts a comma before every piece but the first. -/
def appendSeparated : List ByteString → ByteString
  | [] => []
  | first :: rest => first ++ rest.flatMap fun piece => bytesOf "," ++ piece

/-- `append_fields`. -/
def appendFields (fields : List TraceFieldV0) : ByteString :=
  bytesOf "\x7b" ++
    appendSeparated (fields.map fun field =>
      appendJsonString field.name ++ bytesOf ":" ++ appendValue field.value) ++
  bytesOf "\x7d"

/-- Where an event happened, in `append_event`. -/
def appendGuest : Option GuestLocationV0 → ByteString
  | none => []
  | some guest =>
    bytesOf ",\"guest\":\x7b\"kind\":\"object_offset\",\"object\":" ++
      appendJsonString guest.object ++
      bytesOf ",\"offset\":" ++ appendU64Hex guest.offset ++ bytesOf "\x7d"

/-- `append_event`. -/
def appendEvent (event : TraceEventV0) : ByteString :=
  bytesOf "\x7b\"diagnostics\":" ++ appendFields event.diagnostics ++ appendGuest event.guest ++
    bytesOf ",\"id\":" ++
    appendU64Hex event.id ++ bytesOf ",\"stable\":" ++ appendFields event.stable ++
      bytesOf ",\"subsystem\":" ++
    appendJsonString event.subsystem ++ bytesOf ",\"type\":" ++ appendJsonString event.type ++
      bytesOf "\x7d"

/-- The commit and the comma behind it, in `append_provenance`. -/
def appendCommit : Option ByteString → ByteString
  | none => []
  | some commit => bytesOf "\"commit\":" ++ appendJsonString commit ++ bytesOf ","

/-- `append_provenance`. -/
def appendProvenance (provenance : TraceProvenanceV0) : ByteString :=
  bytesOf "\x7b\"artifact_digests\":[" ++ appendSeparated
    (provenance.artifactDigests.map appendJsonString) ++ bytesOf "],\"producer\":\x7b" ++
    appendCommit provenance.producer.commit ++ bytesOf "\"name\":" ++
    appendJsonString provenance.producer.name ++ bytesOf ",\"version\":" ++
      appendJsonString provenance.producer.version ++
    bytesOf "\x7d,\"source_kind\":" ++ appendJsonString provenance.sourceKind ++ bytesOf "\x7d"

/-- The digest of the case, in `append_run`. -/
def appendCase : Option ByteString → ByteString
  | none => []
  | some digest => bytesOf ",\"case_sha256\":" ++ appendJsonString digest

/-- The probe, in `append_run`; a probe that was accepted has a version. -/
def appendProbe (id : Option ByteString) (version : Option UInt64) : ByteString :=
  match id with
  | none => []
  | some id =>
    bytesOf ",\"probe\":\x7b\"id\":" ++ appendJsonString id ++ bytesOf ",\"version\":" ++
      appendDecimal (version.getD 0) ++
      bytesOf "\x7d"

/-- `append_run`. -/
def appendRun (run : TraceRunMetadataV0) : ByteString :=
  bytesOf "\x7b\"architecture\":" ++ appendJsonString run.architecture ++
    appendCase run.caseSha256 ++
    bytesOf ",\"platform_family\":" ++ appendJsonString run.platformFamily ++
      appendProbe run.probeId run.probeVersion ++
    bytesOf ",\"target_kind\":" ++ appendJsonString run.targetKind ++ bytesOf "\x7d"

/-- The output for a normalised trace. -/
def serializeDocument (value : TraceDocumentV0) : ByteString :=
  bytesOf "\x7b\"diagnostics\":" ++ appendFields value.diagnostics ++ bytesOf ",\"events\":[" ++
    appendSeparated (value.events.map appendEvent) ++ bytesOf "],\"provenance\":" ++
      appendProvenance value.provenance ++
    bytesOf ",\"run\":" ++ appendRun value.run ++ bytesOf ",\"schema\":\"" ++ kTraceSchemaV0 ++
      bytesOf "\"\x7d"

/-- `serialize_trace_v0`. -/
def serializeTraceV0 (host : Host) (trace : TraceDocumentV0) : Except TraceError ByteString := do
  let normalized ← normalizeTraceV0 trace
  allocate host .traceSerialization ⟨.hostAllocationFailure, none⟩ ⟨.hostSizeUnrepresentable, none⟩
  return serializeDocument normalized

/-! ### The value a text stands for -/

/-- A value, with its type. -/
def valueJson : TraceValueV0 → Json
  | .u64 value =>
    .object [(bytesOf "type", .string (bytesOf "u64")),
      (bytesOf "value", .string (bytesOf "0x" ++ hexDigits 16 value.toNat))]
  | .bool value => .object [(bytesOf "type", .string (bytesOf "bool")),
      (bytesOf "value", .bool value)]
  | .text value => .object [(bytesOf "type", .string (bytesOf "utf8")),
      (bytesOf "value", .string value)]
  | .bytes value =>
    .object [(bytesOf "encoding", .string (bytesOf "hex")),
      (bytesOf "type", .string (bytesOf "bytes")), (bytesOf "value", .string (hexBytes value))]

/-- Fields, as an object. -/
def fieldsJson (fields : List TraceFieldV0) : Json :=
  .object (fields.map fun field => (field.name, valueJson field.value))

/-- A guest location, as an object. -/
def guestJson (guest : GuestLocationV0) : Json :=
  .object [(bytesOf "kind", .string (bytesOf "object_offset")),
    (bytesOf "object", .string guest.object),
    (bytesOf "offset", .string (bytesOf "0x" ++ hexDigits 16 guest.offset.toNat))]

/-- An event, as an object. -/
def eventJson (event : TraceEventV0) : Json :=
  .object ([(bytesOf "diagnostics", fieldsJson event.diagnostics)] ++
    (event.guest.elim [] fun guest => [(bytesOf "guest", guestJson guest)]) ++
    [(bytesOf "id", .string (bytesOf "0x" ++ hexDigits 16 event.id.toNat)),
      (bytesOf "stable", fieldsJson event.stable),
      (bytesOf "subsystem", .string event.subsystem), (bytesOf "type", .string event.type)])

/-- A producer, as an object. -/
def producerJson (producer : TraceProducerV0) : Json :=
  .object ((producer.commit.elim [] fun commit => [(bytesOf "commit", .string commit)]) ++
    [(bytesOf "name", .string producer.name), (bytesOf "version", .string producer.version)])

/-- A provenance, as an object. -/
def provenanceJson (provenance : TraceProvenanceV0) : Json :=
  .object [(bytesOf "artifact_digests", .array (provenance.artifactDigests.map .string)),
    (bytesOf "producer", producerJson provenance.producer),
      (bytesOf "source_kind", .string provenance.sourceKind)]

/-- A probe, as an object. -/
def probeJson (id : ByteString) (version : UInt64) : Json :=
  .object [(bytesOf "id", .string id), (bytesOf "version", .number version.toNat 0)]

/-- A run, as an object. -/
def runJson (run : TraceRunMetadataV0) : Json :=
  .object ([(bytesOf "architecture", .string run.architecture)] ++
    (run.caseSha256.elim [] fun digest => [(bytesOf "case_sha256", .string digest)]) ++
    [(bytesOf "platform_family", .string run.platformFamily)] ++
    (run.probeId.elim [] fun id => [(bytesOf "probe", probeJson id (run.probeVersion.getD 0))]) ++
    [(bytesOf "target_kind", .string run.targetKind)])

/-- A document, as an object. -/
def documentJson (value : TraceDocumentV0) : Json :=
  .object [(bytesOf "diagnostics", fieldsJson value.diagnostics),
    (bytesOf "events", .array (value.events.map eventJson)),
    (bytesOf "provenance", provenanceJson value.provenance), (bytesOf "run", runJson value.run),
    (bytesOf "schema", .string kTraceSchemaV0)]

/-! ### The writer renders the value -/

theorem appendJsonChar_eq (byte : UInt8) : appendJsonChar byte = Json.escapeByte byte := by
  unfold appendJsonChar Json.escapeByte
  split_ifs
  · rfl
  · rfl
  · have hhigh : (byte >>> 4 &&& 0x0f).toNat = byte.toNat >>> 4 &&& 0xf := by
      rw [UInt8.toNat_and, UInt8.toNat_shiftRight]
      rfl
    rw [hhigh, UInt8.toNat_and]
    rfl
  · rfl

theorem appendJsonString_eq (value : ByteString) :
    appendJsonString value = Json.renderString value := by
  rw [appendJsonString, List.flatMap_congr fun byte _ => appendJsonChar_eq byte]
  rfl

theorem hexDigits_plain {width value : ℕ} {byte : UInt8} (h : byte ∈ hexDigits width value) :
    32 ≤ byte.toNat ∧ byte ≠ 34 ∧ byte ≠ 92 := by
  have hdigit := hexDigits_ascii h
  refine ⟨by omega, ?_, ?_⟩
  · rintro rfl
    revert hdigit
    decide
  · rintro rfl
    revert hdigit
    decide

theorem appendU64Hex_eq (value : UInt64) :
    appendU64Hex value = Json.renderString (bytesOf "0x" ++ hexDigits 16 value.toNat) := by
  rw [Json.renderString_plain]
  · rfl
  · rw [List.forall_mem_append]
    refine ⟨?_, fun byte hbyte => hexDigits_plain hbyte⟩
    change ∀ byte ∈ [(48 : UInt8), 120], 32 ≤ byte.toNat ∧ byte ≠ 34 ∧ byte ≠ 92
    rw [List.forall_mem_cons, List.forall_mem_singleton]
    decide

theorem appendBytesHex_eq (bytes : List UInt8) :
    appendBytesHex bytes = Json.renderString (hexBytes bytes) := by
  rw [Json.renderString_plain]
  · rfl
  · intro byte hbyte
    obtain ⟨value, -, hdigit⟩ := List.mem_flatMap.mp hbyte
    exact hexDigits_plain hdigit

theorem appendSeparated_eq (pieces : List ByteString) :
    appendSeparated pieces = Json.separated pieces := by
  cases pieces <;> rfl

theorem render_object (members : List (List UInt8 × Json)) :
    Json.render (.object members) =
      bytesOf "\x7b" ++
        (appendSeparated (members.map fun member =>
          Json.renderString member.1 ++ (bytesOf ":" ++ member.2.render)) ++ bytesOf "\x7d") := by
  rw [Json.render_object, appendSeparated_eq]
  rfl

theorem render_array (items : List Json) :
    Json.render (.array items) =
      bytesOf "[" ++ (appendSeparated (items.map Json.render) ++ bytesOf "]") := by
  rw [Json.render_array, appendSeparated_eq]
  rfl

theorem appendValue_eq (value : TraceValueV0) : appendValue value = (valueJson value).render := by
  cases value with
  | u64 value =>
    have htext : bytesOf "\x7b\"type\":\"u64\",\"value\":" =
      bytesOf "\x7b" ++ (Json.renderString (bytesOf "type") ++
        (bytesOf ":" ++ (Json.renderString (bytesOf "u64") ++
          (bytesOf "," ++ (Json.renderString (bytesOf "value") ++
          bytesOf ":"))))) := by decide
    rw [appendValue, valueJson, render_object, htext, appendU64Hex_eq]
    simp only [List.map_cons, List.map_nil, appendSeparated, List.flatMap_cons, List.flatMap_nil,
      Json.render, List.append_assoc, List.append_nil]
  | bool value =>
    have htext : bytesOf "\x7b\"type\":\"bool\",\"value\":" =
      bytesOf "\x7b" ++ (Json.renderString (bytesOf "type") ++
        (bytesOf ":" ++ (Json.renderString (bytesOf "bool") ++
          (bytesOf "," ++ (Json.renderString (bytesOf "value") ++
          bytesOf ":"))))) := by decide
    have hvalue : bytesOf (if value = true then "true" else "false") =
      (Json.bool value).render := by cases value <;> rfl
    rw [appendValue, valueJson, render_object, htext, hvalue]
    simp only [List.map_cons, List.map_nil, appendSeparated, List.flatMap_cons, List.flatMap_nil,
      List.append_assoc, List.append_nil]
    rfl
  | text value =>
    have htext : bytesOf "\x7b\"type\":\"utf8\",\"value\":" =
      bytesOf "\x7b" ++ (Json.renderString (bytesOf "type") ++
        (bytesOf ":" ++ (Json.renderString (bytesOf "utf8") ++
          (bytesOf "," ++ (Json.renderString (bytesOf "value") ++
          bytesOf ":"))))) := by decide
    rw [appendValue, valueJson, render_object, htext, appendJsonString_eq]
    simp only [List.map_cons, List.map_nil, appendSeparated, List.flatMap_cons, List.flatMap_nil,
      Json.render, List.append_assoc, List.append_nil]
  | bytes value =>
    have htext : bytesOf "\x7b\"encoding\":\"hex\",\"type\":\"bytes\",\"value\":" =
      bytesOf "\x7b" ++
        (Json.renderString (bytesOf "encoding") ++
          (bytesOf ":" ++ (Json.renderString (bytesOf "hex") ++ (bytesOf "," ++
          (Json.renderString (bytesOf "type") ++
            (bytesOf ":" ++ (Json.renderString (bytesOf "bytes") ++ (bytesOf "," ++
            (Json.renderString (bytesOf "value") ++ bytesOf ":"))))))))) := by decide
    rw [appendValue, valueJson, render_object, htext, appendBytesHex_eq]
    simp only [List.map_cons, List.map_nil, appendSeparated, List.flatMap_cons, List.flatMap_nil,
      Json.render, List.append_assoc, List.append_nil]

theorem appendFields_eq (fields : List TraceFieldV0) :
    appendFields fields = (fieldsJson fields).render := by
  rw [appendFields, fieldsJson, render_object, List.map_map]
  simp only [appendJsonString_eq, appendValue_eq, List.append_assoc, Function.comp_def]

/-- The text before the value of a member that is not the first. -/
def nextMember (key : String) : ByteString :=
  bytesOf "," ++ (Json.renderString (bytesOf key) ++ bytesOf ":")

theorem appendGuest_eq (guest : GuestLocationV0) :
    appendGuest (some guest) = nextMember "guest" ++ (guestJson guest).render := by
  have htext : bytesOf ",\"guest\":\x7b\"kind\":\"object_offset\",\"object\":" =
    nextMember "guest" ++ (bytesOf "\x7b" ++
      (Json.renderString (bytesOf "kind") ++
        (bytesOf ":" ++ (Json.renderString (bytesOf "object_offset") ++ (bytesOf "," ++
        (Json.renderString (bytesOf "object") ++ bytesOf ":")))))) := by decide
  have hoffset : bytesOf ",\"offset\":" =
    bytesOf "," ++ (Json.renderString (bytesOf "offset") ++ bytesOf ":") := by decide
  rw [appendGuest, guestJson, render_object, htext, hoffset, appendJsonString_eq, appendU64Hex_eq]
  simp only [List.map_cons, List.map_nil, appendSeparated, List.flatMap_cons, List.flatMap_nil,
    Json.render, List.append_assoc, List.append_nil]

theorem appendEvent_eq (event : TraceEventV0) : appendEvent event = (eventJson event).render := by
  have hfirst : bytesOf "\x7b\"diagnostics\":" =
      bytesOf "\x7b" ++ (Json.renderString (bytesOf "diagnostics") ++ bytesOf ":") := by
    decide
  have hid : bytesOf ",\"id\":" = nextMember "id" := by decide
  have hstable : bytesOf ",\"stable\":" = nextMember "stable" := by decide
  have hsubsystem : bytesOf ",\"subsystem\":" = nextMember "subsystem" := by decide
  have htype : bytesOf ",\"type\":" = nextMember "type" := by decide
  rw [appendEvent, eventJson, render_object, hfirst, hid, hstable, hsubsystem, htype,
    appendFields_eq, appendFields_eq, appendU64Hex_eq, appendJsonString_eq, appendJsonString_eq]
  cases event.guest with
  | none =>
    simp only [appendGuest, Option.elim_none, nextMember, List.cons_append, List.nil_append,
      List.map_cons, List.map_nil, appendSeparated, List.flatMap_cons, List.flatMap_nil,
      Json.render, List.append_assoc, List.append_nil]
  | some guest =>
    rw [appendGuest_eq]
    simp only [Option.elim_some, nextMember, List.cons_append, List.nil_append, List.map_cons,
      List.map_nil, appendSeparated, List.flatMap_cons, List.flatMap_nil, Json.render,
      List.append_assoc, List.append_nil]

theorem appendProvenance_eq (provenance : TraceProvenanceV0) :
    appendProvenance provenance = (provenanceJson provenance).render := by
  have hdigests : bytesOf "\x7b\"artifact_digests\":[" =
      bytesOf "\x7b" ++ (Json.renderString (bytesOf "artifact_digests") ++
        (bytesOf ":" ++ bytesOf "[")) := by decide
  have hproducer : bytesOf "],\"producer\":\x7b" =
    bytesOf "]" ++ (nextMember "producer" ++ bytesOf "\x7b") := by decide
  have hname : bytesOf "\"name\":" = Json.renderString (bytesOf "name") ++ bytesOf ":" := by decide
  have hversion : bytesOf ",\"version\":" = nextMember "version" := by decide
  have hsource : bytesOf "\x7d,\"source_kind\":" =
    bytesOf "\x7d" ++ nextMember "source_kind" := by decide
  have hcommit : bytesOf "\"commit\":" = Json.renderString (bytesOf "commit") ++
    bytesOf ":" := by decide
  rw [appendProvenance, provenanceJson, render_object, hdigests, hproducer, hname, hversion,
    hsource]
  simp only [List.map_cons, List.map_nil, render_array, producerJson, render_object,
    appendJsonString_eq]
  have hstrings : (provenance.artifactDigests.map appendJsonString) =
      (provenance.artifactDigests.map Json.string).map Json.render := by
    rw [List.map_map]
    refine List.map_congr_left ?_
    intro digest _
    rw [appendJsonString_eq, Function.comp_apply, Json.render]
  rw [hstrings]
  cases provenance.producer.commit with
  | none =>
    simp only [appendCommit, Option.elim_none, nextMember, List.nil_append, List.map_cons,
      List.map_nil, appendSeparated, List.flatMap_cons, List.flatMap_nil, Json.render,
      List.append_assoc, List.append_nil]
  | some commit =>
    simp only [appendCommit, appendJsonString_eq, hcommit, Option.elim_some, nextMember,
      List.cons_append, List.nil_append, List.map_cons, List.map_nil, appendSeparated,
      List.flatMap_cons, List.flatMap_nil, Json.render, List.append_assoc, List.append_nil]

theorem appendDecimal_eq (value : UInt64) :
    appendDecimal value = (Json.number value.toNat 0).render := by
  rw [Json.render, signedDecimal, if_neg (by omega), Int.natAbs_natCast, Json.renderExponent,
    if_pos rfl, List.append_nil, appendDecimal]

theorem appendProbe_eq (id : ByteString) (version : Option UInt64) :
    appendProbe (some id) version =
      nextMember "probe" ++ (probeJson id (version.getD 0)).render := by
  have hid : bytesOf ",\"probe\":\x7b\"id\":" =
      nextMember "probe" ++
        (bytesOf "\x7b" ++ (Json.renderString (bytesOf "id") ++ bytesOf ":")) := by decide
  have hversion : bytesOf ",\"version\":" = nextMember "version" := by decide
  rw [appendProbe, probeJson, render_object, hid, hversion, appendJsonString_eq, appendDecimal_eq]
  simp only [nextMember, List.map_cons, List.map_nil, appendSeparated, List.flatMap_cons,
    List.flatMap_nil, Json.render, List.append_assoc, List.append_nil]

theorem appendRun_eq (run : TraceRunMetadataV0) : appendRun run = (runJson run).render := by
  have hfirst : bytesOf "\x7b\"architecture\":" =
      bytesOf "\x7b" ++ (Json.renderString (bytesOf "architecture") ++ bytesOf ":") := by
    decide
  have hplatform : bytesOf ",\"platform_family\":" = nextMember "platform_family" := by decide
  have htarget : bytesOf ",\"target_kind\":" = nextMember "target_kind" := by decide
  have hcase : bytesOf ",\"case_sha256\":" = nextMember "case_sha256" := by decide
  have hcases : appendCase run.caseSha256 = run.caseSha256.elim [] fun digest =>
      nextMember "case_sha256" ++ Json.renderString digest := by
    cases run.caseSha256 with
    | none => rfl
    | some digest => rw [appendCase, hcase, appendJsonString_eq, Option.elim_some]
  have hprobe : appendProbe run.probeId run.probeVersion =
      run.probeId.elim [] fun id =>
        nextMember "probe" ++ (probeJson id (run.probeVersion.getD 0)).render := by
    cases run.probeId with
    | none => rfl
    | some id => rw [appendProbe_eq, Option.elim_some]
  rw [appendRun, runJson, render_object, hfirst, hplatform, htarget, hcases, hprobe,
    appendJsonString_eq, appendJsonString_eq, appendJsonString_eq]
  cases run.caseSha256 <;> cases run.probeId <;>
    simp only [Option.elim_none, Option.elim_some, nextMember, List.cons_append, List.nil_append,
      List.map_cons, List.map_nil, appendSeparated, List.flatMap_cons, List.flatMap_nil,
      Json.render, List.append_assoc, List.append_nil]

/-- **The output is the value, rendered.** -/
theorem serializeDocument_eq (value : TraceDocumentV0) :
    serializeDocument value = (documentJson value).render := by
  have hfirst : bytesOf "\x7b\"diagnostics\":" =
      bytesOf "\x7b" ++ (Json.renderString (bytesOf "diagnostics") ++ bytesOf ":") := by
    decide
  have hevents : bytesOf ",\"events\":[" = nextMember "events" ++ bytesOf "[" := by decide
  have hprovenance : bytesOf "],\"provenance\":" =
    bytesOf "]" ++ nextMember "provenance" := by decide
  have hrun : bytesOf ",\"run\":" = nextMember "run" := by decide
  have hschema : bytesOf ",\"schema\":\"" ++ (kTraceSchemaV0 ++ bytesOf "\"\x7d") =
      nextMember "schema" ++ (Json.renderString kTraceSchemaV0 ++ bytesOf "\x7d") := by decide
  have heach : value.events.map appendEvent = (value.events.map eventJson).map Json.render := by
    rw [List.map_map]
    exact List.map_congr_left fun event _ => appendEvent_eq event
  rw [serializeDocument, List.append_assoc, List.append_assoc, hschema, documentJson, render_object,
    hfirst, hevents, hprovenance, hrun, heach, appendFields_eq, appendProvenance_eq, appendRun_eq]
  simp only [nextMember, List.map_cons, List.map_nil, appendSeparated, List.flatMap_cons,
    List.flatMap_nil, render_array, List.append_assoc, List.append_nil]
  simp only [Json.render]

end Astraea.Trace
