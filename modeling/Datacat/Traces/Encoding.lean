import Datacat.Otlp.Encoding
import Datacat.Traces.Grpc

/-!
# The Canonical OTLP/JSON Encoding of Traces

The document of a protobuf request, and the HTTP request it is read as.

## Main results

- `deserialize_encodeRequest`: the documents that the HTTP endpoint accepts are those of the
  requests whose attributes are readable.
-/

namespace Datacat.Traces.Encoding

open Basics Otlp Otlp.Encoding

/-! ## Documents -/

def encodeEvent (e : Grpc.Event) : Value :=
  .record [
    ("timeUnixNano", encodeFixed64 e.timeUnixNano),
    ("name", encodeText e.name),
    ("attributes", encodeList (e.attributes.map encodeKeyValue))]

def encodeLink (l : Grpc.Link) : Value :=
  .record [
    ("traceId", encodeId l.traceId),
    ("spanId", encodeId l.spanId),
    ("attributes", encodeList (l.attributes.map encodeKeyValue))]

def encodeStatus (st : Grpc.Status) : Value :=
  .record [("message", encodeText st.message), ("code", encodeEnum st.code)]

def encodeSpan (s : Grpc.Span) : Value :=
  .record [
    ("traceId", encodeId s.traceId),
    ("spanId", encodeId s.spanId),
    ("parentSpanId", encodeId s.parentSpanId),
    ("name", encodeText s.name),
    ("kind", encodeEnum s.kind),
    ("startTimeUnixNano", encodeFixed64 s.startTimeUnixNano),
    ("endTimeUnixNano", encodeFixed64 s.endTimeUnixNano),
    ("attributes", encodeList (s.attributes.map encodeKeyValue)),
    ("events", encodeList (s.events.map encodeEvent)),
    ("links", encodeList (s.links.map encodeLink)),
    ("status", s.status.map encodeStatus)]

def encodeScopeSpans (ss : Grpc.ScopeSpans) : Value :=
  .record [
    ("scope", ss.scope.map encodeScope),
    ("spans", encodeList (ss.spans.map encodeSpan))]

def encodeResourceSpans (rs : Grpc.ResourceSpans) : Value :=
  .record [
    ("resource", rs.resource.map encodeResource),
    ("scopeSpans", encodeList (rs.scopeSpans.map encodeScopeSpans))]

def encodeRequest (req : Grpc.ExportTraceServiceRequest) : Value :=
  .record [("resourceSpans", encodeList (req.resourceSpans.map encodeResourceSpans))]

/-! ## The requests the documents stand for -/

/-- The HTTP form of an enumeration value. -/
def enumeration (n : Int32) : Option Int64 := if n = 0 then none else some n.toInt64

def event (e : Grpc.Event) : SpanEvent where
  timeUnixNano := fixed64 e.timeUnixNano
  name := text e.name
  attributes := e.attributes.map keyValue

def link (l : Grpc.Link) : SpanLink where
  traceId := Proto.hexOpt l.traceId
  spanId := Proto.hexOpt l.spanId
  attributes := l.attributes.map keyValue

def status (st : Grpc.Status) : SpanStatus where
  code := enumeration st.code
  message := text st.message

def span (s : Grpc.Span) : Span where
  traceId := Proto.hexOpt s.traceId
  spanId := Proto.hexOpt s.spanId
  parentSpanId := Proto.hexOpt s.parentSpanId
  name := text s.name
  kind := enumeration s.kind
  startTimeUnixNano := fixed64 s.startTimeUnixNano
  endTimeUnixNano := fixed64 s.endTimeUnixNano
  attributes := s.attributes.map keyValue
  events := s.events.map event
  links := s.links.map link
  status := s.status.map status

def scopeSpans (ss : Grpc.ScopeSpans) : ScopeSpans where
  scope := ss.scope.map scope
  spans := ss.spans.map span

def resourceSpans (rs : Grpc.ResourceSpans) : ResourceSpans where
  resource := rs.resource.map resource
  scopeSpans := rs.scopeSpans.map scopeSpans

def request (req : Grpc.ExportTraceServiceRequest) : ExportTraceServiceRequest where
  resourceSpans := req.resourceSpans.map resourceSpans

/-! ## Readable requests -/

/-- Attributes of a span, of its events and of its links. -/
def spanAttributes (s : Grpc.Span) : List Proto.KeyValue :=
  s.attributes ++ (s.events.flatMap (·.attributes) ++ s.links.flatMap (·.attributes))

def eventReadable (e : Grpc.Event) : Bool := e.attributes.all keyValueReadable

def linkReadable (l : Grpc.Link) : Bool := l.attributes.all keyValueReadable

def spanReadable (s : Grpc.Span) : Bool :=
  s.attributes.all keyValueReadable && s.events.all eventReadable && s.links.all linkReadable

def scopeSpansReadable (ss : Grpc.ScopeSpans) : Bool := ss.spans.all spanReadable

def resourceSpansReadable (rs : Grpc.ResourceSpans) : Bool :=
  rs.resource.all resourceReadable && rs.scopeSpans.all scopeSpansReadable

def requestReadable (req : Grpc.ExportTraceServiceRequest) : Bool :=
  req.resourceSpans.all resourceSpansReadable

theorem spanReadable_iff (s : Grpc.Span) :
    spanReadable s = true ↔ ∀ kv ∈ spanAttributes s, keyValueReadable kv = true := by
  simp only [spanReadable, eventReadable, linkReadable, Bool.and_eq_true, List.all_eq_true,
    spanAttributes, List.forall_mem_append, List.mem_flatMap]
  grind

/-! ## Reading the documents -/

theorem deserialize_encodeEvent (e : Grpc.Event) :
    SpanEvent.deserialize (encodeEvent e)
      = if eventReadable e then some (event e) else none := by
  rw [SpanEvent.deserialize, encodeEvent, Value.fields_record (by simp)]
  simp only [Option.bind_eq_bind, Option.bind_some, fieldOf_cons, String.reduceEq, if_false,
    if_true, read_encodeFixed64, read_encodeText, read_encodeKeyValues, bind_readable,
    Option.pure_def]
  rfl

theorem deserialize_encodeLink (l : Grpc.Link) :
    SpanLink.deserialize (encodeLink l) = if linkReadable l then some (link l) else none := by
  rw [SpanLink.deserialize, encodeLink, Value.fields_record (by simp)]
  simp only [Option.bind_eq_bind, Option.bind_some, fieldOf_cons, String.reduceEq, if_false,
    if_true, read_encodeId, read_encodeKeyValues, bind_readable, Option.pure_def]
  rfl

theorem deserialize_encodeStatus (st : Grpc.Status) :
    SpanStatus.deserialize (encodeStatus st) = some (status st) := by
  rw [SpanStatus.deserialize, encodeStatus, Value.fields_record (by simp)]
  simp only [Option.bind_eq_bind, Option.bind_some, fieldOf_cons, String.reduceEq, if_false,
    if_true, read_encodeText, read_encodeEnum, Option.pure_def]
  rfl

theorem read_encodeStatus (st : Option Grpc.Status) :
    defaulted (st.map encodeStatus) none (Value.readOption SpanStatus.deserialize)
      = some (st.map status) := by
  cases st with
  | none => rfl
  | some st => exact congrArg (Option.map some) (deserialize_encodeStatus st)

theorem deserialize_encodeSpan (s : Grpc.Span) :
    Span.deserialize (encodeSpan s) = if spanReadable s then some (span s) else none := by
  have hevents := readVec_encodeList s.events fun e _ => deserialize_encodeEvent e
  have hlinks := readVec_encodeList s.links fun l _ => deserialize_encodeLink l
  rw [Span.deserialize, encodeSpan, Value.fields_record (by simp)]
  simp only [Option.bind_eq_bind, Option.bind_some, fieldOf_cons, String.reduceEq, if_false,
    if_true, read_encodeId, read_encodeText, read_encodeEnum, read_encodeFixed64,
    read_encodeKeyValues, hevents, hlinks, read_encodeStatus, bind_readable, Option.pure_def]
  rw [spanReadable]
  simp only [Bool.and_eq_true, ite_and]
  rfl

theorem deserialize_encodeScopeSpans (ss : Grpc.ScopeSpans) :
    ScopeSpans.deserialize (encodeScopeSpans ss)
      = if scopeSpansReadable ss then some (scopeSpans ss) else none := by
  have hspans := readVec_encodeList ss.spans fun s _ => deserialize_encodeSpan s
  rw [ScopeSpans.deserialize, encodeScopeSpans, Value.fields_record (by simp)]
  simp only [Option.bind_eq_bind, Option.bind_some, fieldOf_cons, String.reduceEq, if_false,
    if_true, read_encodeScope, hspans, bind_readable, Option.pure_def]
  rfl

theorem deserialize_encodeResourceSpans (rs : Grpc.ResourceSpans) :
    ResourceSpans.deserialize (encodeResourceSpans rs)
      = if resourceSpansReadable rs then some (resourceSpans rs) else none := by
  have hscopes := readVec_encodeList rs.scopeSpans fun ss _ => deserialize_encodeScopeSpans ss
  rw [ResourceSpans.deserialize, encodeResourceSpans, Value.fields_record (by simp)]
  simp only [Option.bind_eq_bind, Option.bind_some, fieldOf_cons, String.reduceEq, if_false,
    if_true, read_encodeResource, hscopes, bind_readable, Option.pure_def]
  rw [resourceSpansReadable]
  simp only [Bool.and_eq_true, ite_and]
  rfl

theorem deserialize_encodeRequest (req : Grpc.ExportTraceServiceRequest) :
    ExportTraceServiceRequest.deserialize (encodeRequest req)
      = if requestReadable req then some (request req) else none := by
  have hresources := readVec_encodeList req.resourceSpans
    fun rs _ => deserialize_encodeResourceSpans rs
  rw [ExportTraceServiceRequest.deserialize, encodeRequest, Value.fields_record (by simp)]
  simp only [Option.bind_eq_bind, Option.bind_some, fieldOf_cons, if_true, hresources,
    bind_readable, Option.pure_def]
  rfl

end Datacat.Traces.Encoding
