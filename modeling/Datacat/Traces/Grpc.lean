import Datacat.Otlp.Proto
import Datacat.Traces.Model

/-!
# Traces over OTLP/gRPC

The protobuf messages of traces, as far as the service reads them, and their flattening into
stored spans.
-/

namespace Datacat.Traces.Grpc

open Basics Otlp
open Otlp.Proto (KeyValue Resource InstrumentationScope attrsToMap hex hexOpt nz)

structure Event where
  timeUnixNano : UInt64
  name : String
  attributes : List KeyValue

structure Link where
  traceId : List UInt8
  spanId : List UInt8
  attributes : List KeyValue

structure Status where
  message : String
  code : Int32

structure Span where
  traceId : List UInt8
  spanId : List UInt8
  parentSpanId : List UInt8
  name : String
  kind : Int32
  startTimeUnixNano : UInt64
  endTimeUnixNano : UInt64
  attributes : List KeyValue
  events : List Event
  links : List Link
  status : Option Status

structure ScopeSpans where
  scope : Option InstrumentationScope
  spans : List Span

structure ResourceSpans where
  resource : Option Resource
  scopeSpans : List ScopeSpans

structure ExportTraceServiceRequest where
  resourceSpans : List ResourceSpans

def protoEventsToJson (events : List Event) : Value :=
  .array (events.map fun e => .ofMap (BTreeMap.ofEntries [
    ("time", optionJson ((nz e.timeUnixNano).map DateTime.toRfc3339)),
    ("name", .string e.name),
    ("attributes", .ofMap (attrsToMap e.attributes))]))

def protoLinksToJson (links : List Link) : Value :=
  .array (links.map fun l => .ofMap (BTreeMap.ofEntries [
    ("trace_id", .string (hex l.traceId)),
    ("span_id", .string (hex l.spanId)),
    ("attributes", .ofMap (attrsToMap l.attributes))]))

/-- Start of the span: its own, else the reception. -/
def Span.startTime (s : Span) (receivedAt : DateTime) : DateTime :=
  (nz s.startTimeUnixNano).getD receivedAt

/-- The stored span of a span whose identifiers are `traceId` and `spanId`. -/
def Span.toStored (s : Span) (traceId spanId : String) (receivedAt : DateTime)
    (resourceAttrs : Map) (serviceName scopeName : Option String) : StoredSpan :=
  assembleSpan receivedAt traceId spanId (hexOpt s.parentSpanId) (s.startTime receivedAt)
    (nz s.endTimeUnixNano) s.name (some (clampTo 5 s.kind.toInt64)) serviceName scopeName
    (s.status.map fun st => clampTo 2 st.code.toInt64)
    ((s.status.map (·.message)).filter fun m => !m.isEmpty)
    (attrsToMap s.attributes) resourceAttrs (protoEventsToJson s.events)
    (protoLinksToJson s.links)

/-- Flattens a request, with the bounds of `otlpToSpans`. -/
def protoToSpans (req : ExportTraceServiceRequest) (receivedAt : DateTime)
    (limits : ValidationLimits) (maxRecords : Nat) : Option SpansParse := do
  let window ← skewWindow receivedAt limits
  return (forEach (fun out rs =>
    let resourceAttrs := (rs.resource.map fun r => attrsToMap r.attributes).getD BTreeMap.empty
    let serviceName := (resourceAttrs.get "service.name").bind Value.asStr
    forEach (fun out ss =>
      let scopeName := (ss.scope.map (·.name)).filter fun s => !s.isEmpty
      forEach (fun out s =>
        if maxRecords < out.stored.length then .stop out
        else
          match hexOpt s.traceId, hexOpt s.spanId with
          | some traceId, some spanId =>
            if outsideWindow window (s.startTime receivedAt) then
              .next { out with droppedSkew := out.droppedSkew + 1 }
            else
              .next { out with stored := out.stored
                ++ [s.toStored traceId spanId receivedAt resourceAttrs serviceName scopeName] }
          | _, _ => .next { out with droppedInvalid := out.droppedInvalid + 1 })
        ss.spans out) rs.scopeSpans out)
    req.resourceSpans { stored := [], droppedSkew := 0, droppedInvalid := 0 }).state

/-! ## One loop -/

/-- A span with its resource and its scope. -/
structure SpanContext where
  resource : Option Resource
  scope : Option InstrumentationScope
  span : Span

/-- A span that has both identifiers. -/
structure IdentifiedSpan where
  context : SpanContext
  traceId : String
  spanId : String

namespace SpanContext

def resourceAttrs (c : SpanContext) : Map :=
  (c.resource.map fun r => attrsToMap r.attributes).getD BTreeMap.empty

def identify (c : SpanContext) : Option IdentifiedSpan :=
  match hexOpt c.span.traceId, hexOpt c.span.spanId with
  | some traceId, some spanId => some { context := c, traceId := traceId, spanId := spanId }
  | _, _ => none

end SpanContext

namespace IdentifiedSpan

def inWindow (window : DateTime × DateTime) (receivedAt : DateTime) (c : IdentifiedSpan) : Bool :=
  !outsideWindow window (c.context.span.startTime receivedAt)

def stored (receivedAt : DateTime) (c : IdentifiedSpan) : StoredSpan :=
  c.context.span.toStored c.traceId c.spanId receivedAt c.context.resourceAttrs
    ((c.context.resourceAttrs.get "service.name").bind Value.asStr)
    ((c.context.scope.map (·.name)).filter fun s => !s.isEmpty)

end IdentifiedSpan

/-- All spans of a request, in order. -/
def ExportTraceServiceRequest.spans (req : ExportTraceServiceRequest) : List SpanContext :=
  req.resourceSpans.flatMap fun rs => rs.scopeSpans.flatMap fun ss => ss.spans.map fun s =>
    { resource := rs.resource, scope := ss.scope, span := s }

theorem protoToSpans_eq_forEach (req : ExportTraceServiceRequest) (receivedAt : DateTime)
    (limits : ValidationLimits) (maxRecords : Nat) :
    protoToSpans req receivedAt limits maxRecords =
      (skewWindow receivedAt limits).map fun window =>
        (forEach (guardedBody (fun out => decide (maxRecords < out.stored.length))
          (SpansParse.push SpanContext.identify (·.inWindow window receivedAt)
            (·.stored receivedAt))) req.spans
          { stored := [], droppedSkew := 0, droppedInvalid := 0 }).state := by
  rw [protoToSpans]
  cases skewWindow receivedAt limits with
  | none => rfl
  | some window =>
    refine congrArg some (congrArg Flow.state ?_)
    -- The three loops are one over the spans of the request.
    rw [ExportTraceServiceRequest.spans, ← forEach_flatMap]
    refine forEach_congr (fun rs _ out => ?_) _
    rw [← forEach_flatMap]
    refine forEach_congr (fun ss _ out => ?_) _
    rw [forEach_map]
    refine forEach_congr (fun s _ out => ?_) _
    unfold guardedBody
    simp only [SpansParse.push, SpanContext.identify, decide_eq_true_eq]
    by_cases hfull : maxRecords < out.stored.length
    · rw [if_pos hfull, if_pos hfull]
    · rw [if_neg hfull, if_neg hfull]
      -- Without both ids the span is invalid, and its time is not looked at.
      cases hexOpt s.traceId with
      | none => rfl
      | some traceId =>
        cases hexOpt s.spanId with
        | none => rfl
        | some spanId =>
          by_cases hout : outsideWindow window (s.startTime receivedAt) = true
          · simp [hout, IdentifiedSpan.inWindow]
          · simp [hout, IdentifiedSpan.inWindow, IdentifiedSpan.stored,
              SpanContext.resourceAttrs]

theorem protoToSpans_eq (req : ExportTraceServiceRequest) (receivedAt : DateTime)
    (limits : ValidationLimits) (maxRecords : Nat) :
    protoToSpans req receivedAt limits maxRecords =
      (skewWindow receivedAt limits).map fun window =>
        SpansParse.collected SpanContext.identify (·.inWindow window receivedAt)
          (·.stored receivedAt) maxRecords req.spans := by
  rw [protoToSpans_eq_forEach]
  simp only [SpansParse.forEach_push_eq]

theorem protoToSpans_stored (req : ExportTraceServiceRequest) (receivedAt : DateTime)
    (limits : ValidationLimits) (maxRecords : Nat) :
    (protoToSpans req receivedAt limits maxRecords).map SpansParse.stored =
      (skewWindow receivedAt limits).map fun window =>
        (((req.spans.filterMap SpanContext.identify).filter (·.inWindow window receivedAt)).take
          (maxRecords + 1)).map (·.stored receivedAt) := by
  rw [protoToSpans_eq, Option.map_map]
  rfl

end Datacat.Traces.Grpc
