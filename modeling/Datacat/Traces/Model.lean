import Datacat.Basics.Flow
import Datacat.Config
import Datacat.Otlp.Common
import Datacat.Otlp.Json

/-!
# Traces over OTLP/HTTP

The JSON wire format of traces, the stored span, and the flattening of a request into stored
spans. A span is identified by its start, its trace and its own identifier; one without
identifiers is dropped.
-/

namespace Datacat.Traces

open Basics Otlp
open Otlp.Json (KeyValue Resource Scope StringOrNum attrsToMap)

/-! ## Wire format -/

structure SpanEvent where
  timeUnixNano : Option StringOrNum
  name : Option String
  attributes : List KeyValue

structure SpanLink where
  traceId : Option String
  spanId : Option String
  attributes : List KeyValue

structure SpanStatus where
  code : Option Int64
  message : Option String

structure Span where
  traceId : Option String
  spanId : Option String
  parentSpanId : Option String
  name : Option String
  kind : Option Int64
  startTimeUnixNano : Option StringOrNum
  endTimeUnixNano : Option StringOrNum
  attributes : List KeyValue
  events : List SpanEvent
  links : List SpanLink
  status : Option SpanStatus

structure ScopeSpans where
  scope : Option Scope
  spans : List Span

structure ResourceSpans where
  resource : Option Resource
  scopeSpans : List ScopeSpans

structure ExportTraceServiceRequest where
  resourceSpans : List ResourceSpans

def SpanEvent.deserialize (doc : Value) : Option SpanEvent := do
  let field ← doc.node.fields ["timeUnixNano", "name", "attributes"]
  return {
    timeUnixNano :=
      ← defaulted (field "timeUnixNano") none (Value.readOption StringOrNum.deserialize)
    name := ← defaulted (field "name") none (Value.readOption Value.readString)
    attributes := ← defaulted (field "attributes") [] (Value.readVec KeyValue.deserialize) }

def SpanLink.deserialize (doc : Value) : Option SpanLink := do
  let field ← doc.node.fields ["traceId", "spanId", "attributes"]
  return {
    traceId := ← defaulted (field "traceId") none (Value.readOption Value.readString)
    spanId := ← defaulted (field "spanId") none (Value.readOption Value.readString)
    attributes := ← defaulted (field "attributes") [] (Value.readVec KeyValue.deserialize) }

def SpanStatus.deserialize (doc : Value) : Option SpanStatus := do
  let field ← doc.node.fields ["code", "message"]
  return {
    code := ← defaulted (field "code") none (Value.readOption Value.readI64)
    message := ← defaulted (field "message") none (Value.readOption Value.readString) }

def Span.deserialize (doc : Value) : Option Span := do
  let field ← doc.node.fields ["traceId", "spanId", "parentSpanId", "name", "kind",
    "startTimeUnixNano", "endTimeUnixNano", "attributes", "events", "links", "status"]
  return {
    traceId := ← defaulted (field "traceId") none (Value.readOption Value.readString)
    spanId := ← defaulted (field "spanId") none (Value.readOption Value.readString)
    parentSpanId := ← defaulted (field "parentSpanId") none (Value.readOption Value.readString)
    name := ← defaulted (field "name") none (Value.readOption Value.readString)
    kind := ← defaulted (field "kind") none (Value.readOption Value.readI64)
    startTimeUnixNano :=
      ← defaulted (field "startTimeUnixNano") none (Value.readOption StringOrNum.deserialize)
    endTimeUnixNano :=
      ← defaulted (field "endTimeUnixNano") none (Value.readOption StringOrNum.deserialize)
    attributes := ← defaulted (field "attributes") [] (Value.readVec KeyValue.deserialize)
    events := ← defaulted (field "events") [] (Value.readVec SpanEvent.deserialize)
    links := ← defaulted (field "links") [] (Value.readVec SpanLink.deserialize)
    status := ← defaulted (field "status") none (Value.readOption SpanStatus.deserialize) }

def ScopeSpans.deserialize (doc : Value) : Option ScopeSpans := do
  let field ← doc.node.fields ["scope", "spans"]
  return {
    scope := ← defaulted (field "scope") none (Value.readOption Scope.deserialize)
    spans := ← defaulted (field "spans") [] (Value.readVec Span.deserialize) }

def ResourceSpans.deserialize (doc : Value) : Option ResourceSpans := do
  let field ← doc.node.fields ["resource", "scopeSpans"]
  return {
    resource := ← defaulted (field "resource") none (Value.readOption Resource.deserialize)
    scopeSpans := ← defaulted (field "scopeSpans") [] (Value.readVec ScopeSpans.deserialize) }

def ExportTraceServiceRequest.deserialize (doc : Value) : Option ExportTraceServiceRequest := do
  let field ← doc.node.fields ["resourceSpans"]
  return {
    resourceSpans :=
      ← defaulted (field "resourceSpans") [] (Value.readVec ResourceSpans.deserialize) }

/-! ## Stored spans -/

structure StoredSpan where
  traceId : String
  spanId : String
  parentSpanId : Option String
  startTime : DateTime
  endTime : Option DateTime
  durationMs : Option F64
  name : String
  kind : Option Int16
  serviceName : Option String
  scopeName : Option String
  statusCode : Option Int16
  statusMessage : Option String
  tenantId : Option String
  actorId : Option String
  sessionId : Option String
  receivedAt : DateTime
  resourceAttributes : Value
  spanAttributes : Value
  events : Value
  links : Value
deriving DecidableEq

/-- The primary key of the table. -/
def StoredSpan.key (s : StoredSpan) : DateTime × String × String :=
  (s.startTime, s.traceId, s.spanId)

/-- `approx_content_bytes`: the size of what varies in a span. -/
def StoredSpan.approxContentBytes [FloatFormat] (s : StoredSpan) : Nat :=
  s.name.utf8ByteSize + s.traceId.utf8ByteSize + s.spanId.utf8ByteSize + optLen s.parentSpanId
    + optLen s.serviceName + optLen s.scopeName + optLen s.statusMessage
    + jsonByteLen s.resourceAttributes + jsonByteLen s.spanAttributes + jsonByteLen s.events
    + jsonByteLen s.links

structure SpansParse where
  stored : List StoredSpan
  droppedSkew : Nat
  /-- Spans without usable identifiers. -/
  droppedInvalid : Nat
deriving DecidableEq

/-- `n.clamp(0, max) as i16`. -/
def clampTo (max : Int) (n : Int64) : Int16 := Int16.ofInt (Max.max 0 (min n.toInt max))

def optionJson (s : Option String) : Value :=
  match s with
  | some s => .string s
  | none => .null

def eventsToJson (events : List SpanEvent) : Value :=
  .array (events.map fun e => .ofMap (BTreeMap.ofEntries [
    ("time", optionJson
      (((e.timeUnixNano.bind StringOrNum.asU64).bind nanosToDt).map DateTime.toRfc3339)),
    ("name", .string (e.name.getD "")),
    ("attributes", .ofMap (attrsToMap e.attributes))]))

def linksToJson (links : List SpanLink) : Value :=
  .array (links.map fun l => .ofMap (BTreeMap.ofEntries [
    ("trace_id", .string (l.traceId.getD "")),
    ("span_id", .string (l.spanId.getD "")),
    ("attributes", .ofMap (attrsToMap l.attributes))]))

/-- `(end - start).num_microseconds().unwrap_or(0) as f64 / 1000.0`. -/
def durationMillis (startTime endTime : DateTime) : F64 :=
  F64.div (F64.ofInt ((DateTime.numMicroseconds startTime endTime).getD 0).toInt) (F64.ofInt 1000)

/-- Start of the span: its own, else the reception. -/
def Span.startTime (s : Span) (receivedAt : DateTime) : DateTime :=
  (Json.nanos s.startTimeUnixNano).getD receivedAt

/-- The stored span of a span whose identifiers are `traceId` and `spanId`. -/
def Span.toStored (s : Span) (traceId spanId : String) (receivedAt : DateTime)
    (resourceAttrs : Map) (serviceName scopeName : Option String) : StoredSpan :=
  let startTime := s.startTime receivedAt
  let endTime := Json.nanos s.endTimeUnixNano
  let spanAttrs := attrsToMap s.attributes
  let c := correlate spanAttrs resourceAttrs
  { traceId := traceId
    spanId := spanId
    parentSpanId := s.parentSpanId.filter fun v => !v.isEmpty
    startTime := startTime
    endTime := endTime
    durationMs := endTime.map fun e => durationMillis startTime e
    name := s.name.getD ""
    kind := s.kind.map (clampTo 5)
    serviceName := serviceName
    scopeName := scopeName
    statusCode := (s.status.bind (·.code)).map (clampTo 2)
    statusMessage := (s.status.bind (·.message)).filter fun m => !m.isEmpty
    tenantId := c.tenantId
    actorId := c.actorId
    sessionId := c.sessionId
    receivedAt := receivedAt
    resourceAttributes := .ofMap resourceAttrs
    spanAttributes := .ofMap spanAttrs
    events := eventsToJson s.events
    links := linksToJson s.links }

/-- A stored span from normalized fields, for the other transport. -/
def assembleSpan (receivedAt : DateTime) (traceId spanId : String) (parentSpanId : Option String)
    (startTime : DateTime) (endTime : Option DateTime) (name : String) (kind : Option Int16)
    (serviceName scopeName : Option String) (statusCode : Option Int16)
    (statusMessage : Option String) (spanAttrs resourceAttrs : Map) (events links : Value) :
    StoredSpan :=
  let c := correlate spanAttrs resourceAttrs
  { traceId := traceId
    spanId := spanId
    parentSpanId := parentSpanId
    startTime := startTime
    endTime := endTime
    durationMs := endTime.map fun e => durationMillis startTime e
    name := name
    kind := kind
    serviceName := serviceName
    scopeName := scopeName
    statusCode := statusCode
    statusMessage := statusMessage
    tenantId := c.tenantId
    actorId := c.actorId
    sessionId := c.sessionId
    receivedAt := receivedAt
    resourceAttributes := .ofMap resourceAttrs
    spanAttributes := .ofMap spanAttrs
    events := events
    links := links }

/-- Flattens a request. At most `maxRecords + 1` spans are kept, spans without identifiers and
spans outside the skew window are dropped. -/
def otlpToSpans (req : ExportTraceServiceRequest) (receivedAt : DateTime)
    (limits : ValidationLimits) (maxRecords : Nat) : Option SpansParse := do
  let window ← skewWindow receivedAt limits
  return (forEach (fun out rs =>
    let resourceAttrs := (rs.resource.map fun r => attrsToMap r.attributes).getD BTreeMap.empty
    let serviceName := lookup resourceAttrs ["service.name"]
    forEach (fun out ss =>
      let scopeName := ss.scope.bind (·.name)
      forEach (fun out s =>
        if maxRecords < out.stored.length then .stop out
        else
          match s.traceId.filter fun v => !v.isEmpty, s.spanId.filter fun v => !v.isEmpty with
          | some traceId, some spanId =>
            if outsideWindow window (s.startTime receivedAt) then
              .next { out with droppedSkew := out.droppedSkew + 1 }
            else
              .next { out with stored := out.stored
                ++ [s.toStored traceId spanId receivedAt resourceAttrs serviceName scopeName] }
          | _, _ => .next { out with droppedInvalid := out.droppedInvalid + 1 })
        ss.spans out) rs.scopeSpans out)
    req.resourceSpans { stored := [], droppedSkew := 0, droppedInvalid := 0 }).state

/-! ## One loop -/

/-- What an innermost loop does with a span when it is not full. -/
def SpansParse.push {α β : Type} (identify : α → Option β) (inWindow : β → Bool)
    (stored : β → StoredSpan) (out : SpansParse) (c : α) : SpansParse :=
  match identify c with
  | none => { out with droppedInvalid := out.droppedInvalid + 1 }
  | some d =>
    if inWindow d then { out with stored := out.stored ++ [stored d] }
    else { out with droppedSkew := out.droppedSkew + 1 }

/-- A loop over spans stores the first `maxRecords + 1` identified ones of the window. -/
theorem SpansParse.forEach_push {α β : Type} (identify : α → Option β) (inWindow : β → Bool)
    (stored : β → StoredSpan) (maxRecords : Nat) (cs : List α) :
    (forEach (guardedBody (fun out => decide (maxRecords < out.stored.length))
        (SpansParse.push identify inWindow stored)) cs
        { stored := [], droppedSkew := 0, droppedInvalid := 0 }).state.stored =
      (((cs.filterMap identify).filter inWindow).take (maxRecords + 1)).map stored := by
  -- One span adds at most one row.
  have hstep : ∀ out c, (SpansParse.push identify inWindow stored out c).stored
      = out.stored ++ (((identify c).filter inWindow).map stored).toList := by
    intro out c
    unfold SpansParse.push
    cases identify c with
    | none => simp
    | some d => by_cases hd : inWindow d = true <;> simp [hd, Option.filter_some]
  have hkeep : cs.filterMap (fun c => ((identify c).filter inWindow).map stored)
      = ((cs.filterMap identify).filter inWindow).map stored := by
    induction cs with
    | nil => rfl
    | cons c cs ih =>
      cases hc : identify c with
      | none => simp [hc, ih]
      | some d => by_cases hd : inWindow d = true <;> simp [hc, hd, ih, Option.filter_some]
  rw [stored_collect maxRecords SpansParse.stored _ _ _ (fun _ => rfl) hstep, hkeep,
    ← List.map_take]
  rfl

/-- What the loop gives, from the spans it visits. -/
def SpansParse.collected {α β : Type} (identify : α → Option β) (inWindow : β → Bool)
    (stored : β → StoredSpan) (maxRecords : Nat) (cs : List α) : SpansParse :=
  let seen := visited (fun c => (identify c).any inWindow) (maxRecords + 1) cs
  { stored := (((cs.filterMap identify).filter inWindow).take (maxRecords + 1)).map stored
    droppedSkew := seen.countP fun c => (identify c).any fun d => !inWindow d
    droppedInvalid := seen.countP fun c => (identify c).isNone }

theorem SpansParse.foldl_push_counts {α β : Type} (identify : α → Option β)
    (inWindow : β → Bool) (stored : β → StoredSpan) (cs : List α) (out : SpansParse) :
    (cs.foldl (SpansParse.push identify inWindow stored) out).droppedSkew
        = out.droppedSkew + cs.countP (fun c => (identify c).any fun d => !inWindow d) ∧
      (cs.foldl (SpansParse.push identify inWindow stored) out).droppedInvalid
        = out.droppedInvalid + cs.countP fun c => (identify c).isNone := by
  induction cs generalizing out with
  | nil => exact ⟨rfl, rfl⟩
  | cons c cs ih =>
    obtain ⟨hskew, hinvalid⟩ := ih (SpansParse.push identify inWindow stored out c)
    rw [List.foldl_cons, hskew, hinvalid]
    cases hc : identify c with
    | none => simp [SpansParse.push, hc, Nat.add_assoc, Nat.add_comm 1]
    | some d =>
      by_cases hd : inWindow d = true
      · simp [SpansParse.push, hc, hd]
      · simp [SpansParse.push, hc, hd, Nat.add_assoc, Nat.add_comm 1]

theorem SpansParse.forEach_push_eq {α β : Type} (identify : α → Option β) (inWindow : β → Bool)
    (stored : β → StoredSpan) (maxRecords : Nat) (cs : List α) :
    (forEach (guardedBody (fun out => decide (maxRecords < out.stored.length))
        (SpansParse.push identify inWindow stored)) cs
        { stored := [], droppedSkew := 0, droppedInvalid := 0 }).state =
      SpansParse.collected identify inWindow stored maxRecords cs := by
  -- The loop ends where as many spans of the window as there is room for were seen.
  have hreached := reached_eq_visited maxRecords (fun out : SpansParse => out.stored.length) _
    (fun c => (identify c).any inWindow) (SpansParse.push identify inWindow stored)
    (fun _ => rfl)
    (by
      intro out c
      unfold SpansParse.push
      cases identify c with
      | none => rfl
      | some d => by_cases hd : inWindow d = true <;> simp [hd])
    cs { stored := [], droppedSkew := 0, droppedInvalid := 0 }
  have hstored := SpansParse.forEach_push identify inWindow stored maxRecords cs
  obtain ⟨hskew, hinvalid⟩ := SpansParse.foldl_push_counts identify inWindow stored
    (visited (fun c => (identify c).any inWindow) (maxRecords + 1) cs)
    { stored := [], droppedSkew := 0, droppedInvalid := 0 }
  rw [forEach_guardedBody, hreached] at hstored ⊢
  rw [Nat.zero_add] at hskew hinvalid
  exact (SpansParse.mk.injEq ..).mpr ⟨hstored, hskew, hinvalid⟩

/-- Spans of another form, identified and placed in the window alike, are collected alike. -/
theorem SpansParse.collected_map {α α' β β' : Type} {identify : α → Option β}
    {identify' : α' → Option β'} {inWindow : β → Bool} {inWindow' : β' → Bool} (f : α → α')
    (g : β → β') (hidentify : ∀ c, identify' (f c) = (identify c).map g)
    (hwindow : ∀ d, inWindow' (g d) = inWindow d) (stored : β' → StoredSpan) (maxRecords : Nat)
    (cs : List α) :
    SpansParse.collected identify' inWindow' stored maxRecords (cs.map f)
      = SpansParse.collected identify inWindow (fun d => stored (g d)) maxRecords cs := by
  have hkeep : (fun c => (identify' c).any inWindow') ∘ f = fun c => (identify c).any inWindow := by
    funext c
    simp only [Function.comp_apply, hidentify, Option.any_map, hwindow]
  have hstored : (cs.map f).filterMap identify' = (cs.filterMap identify).map g := by
    rw [List.filterMap_map, List.map_filterMap]
    exact List.filterMap_congr fun c _ => hidentify c
  have hinside : inWindow' ∘ g = inWindow := funext hwindow
  unfold SpansParse.collected
  dsimp only
  rw [visited_map, hkeep, hstored, List.filter_map, hinside, ← List.map_take, List.map_map,
    List.countP_map, List.countP_map]
  simp only [Function.comp_def, hidentify, Option.any_map, Option.isNone_map, hwindow]

/-- Two ways to store spans give the same when they agree on those that are stored. -/
theorem SpansParse.collected_eq_iff {α β : Type} {identify : α → Option β} {inWindow : β → Bool}
    {stored stored' : β → StoredSpan} {maxRecords : Nat} {cs : List α} :
    SpansParse.collected identify inWindow stored maxRecords cs
        = SpansParse.collected identify inWindow stored' maxRecords cs
      ↔ ∀ d ∈ ((cs.filterMap identify).filter inWindow).take (maxRecords + 1),
          stored d = stored' d := by
  unfold SpansParse.collected
  rw [SpansParse.mk.injEq, List.map_inj_left]
  exact and_iff_left ⟨rfl, rfl⟩

/-- A span with its resource and its scope. -/
structure SpanContext where
  resource : Option Resource
  scope : Option Scope
  span : Span

/-- A span that has both identifiers. -/
structure IdentifiedSpan where
  context : SpanContext
  traceId : String
  spanId : String

namespace SpanContext

def resourceAttrs (c : SpanContext) : Map :=
  (c.resource.map fun r => attrsToMap r.attributes).getD BTreeMap.empty

def identify (c : SpanContext) : Option IdentifiedSpan :=
  match c.span.traceId.filter fun v => !v.isEmpty, c.span.spanId.filter fun v => !v.isEmpty with
  | some traceId, some spanId => some { context := c, traceId := traceId, spanId := spanId }
  | _, _ => none

end SpanContext

namespace IdentifiedSpan

def inWindow (window : DateTime × DateTime) (receivedAt : DateTime) (c : IdentifiedSpan) : Bool :=
  !outsideWindow window (c.context.span.startTime receivedAt)

def stored (receivedAt : DateTime) (c : IdentifiedSpan) : StoredSpan :=
  c.context.span.toStored c.traceId c.spanId receivedAt c.context.resourceAttrs
    (lookup c.context.resourceAttrs ["service.name"]) (c.context.scope.bind (·.name))

end IdentifiedSpan

/-- All spans of a request, in order. -/
def ExportTraceServiceRequest.spans (req : ExportTraceServiceRequest) : List SpanContext :=
  req.resourceSpans.flatMap fun rs => rs.scopeSpans.flatMap fun ss => ss.spans.map fun s =>
    { resource := rs.resource, scope := ss.scope, span := s }

/-- The three nested loops are one loop over the spans. -/
theorem otlpToSpans_eq_forEach (req : ExportTraceServiceRequest) (receivedAt : DateTime)
    (limits : ValidationLimits) (maxRecords : Nat) :
    otlpToSpans req receivedAt limits maxRecords =
      (skewWindow receivedAt limits).map fun window =>
        (forEach (guardedBody (fun out => decide (maxRecords < out.stored.length))
          (SpansParse.push SpanContext.identify (·.inWindow window receivedAt)
            (·.stored receivedAt))) req.spans
          { stored := [], droppedSkew := 0, droppedInvalid := 0 }).state := by
  rw [otlpToSpans]
  cases skewWindow receivedAt limits with
  | none => rfl
  | some window =>
    refine congrArg some (congrArg Flow.state ?_)
    -- The three loops are one over the spans of the request.
    rw [ExportTraceServiceRequest.spans, ← forEach_flatMap]
    refine forEach_congr (fun rs _ out => ?_) _
    rw [← forEach_flatMap]
    refine forEach_congr (fun ss _ out => ?_) _
    rw [forEach_map]
    refine forEach_congr (fun s _ out => ?_) _
    unfold guardedBody
    simp only [SpansParse.push, SpanContext.identify, decide_eq_true_eq]
    by_cases hfull : maxRecords < out.stored.length
    · rw [if_pos hfull, if_pos hfull]
    · rw [if_neg hfull, if_neg hfull]
      -- Without both ids the span is invalid, and its time is not looked at.
      cases s.traceId.filter fun v => !v.isEmpty with
      | none => rfl
      | some traceId =>
        cases s.spanId.filter fun v => !v.isEmpty with
        | none => rfl
        | some spanId =>
          by_cases hout : outsideWindow window (s.startTime receivedAt) = true
          · simp [hout, IdentifiedSpan.inWindow]
          · simp [hout, IdentifiedSpan.inWindow, IdentifiedSpan.stored,
              SpanContext.resourceAttrs]

theorem otlpToSpans_eq (req : ExportTraceServiceRequest) (receivedAt : DateTime)
    (limits : ValidationLimits) (maxRecords : Nat) :
    otlpToSpans req receivedAt limits maxRecords =
      (skewWindow receivedAt limits).map fun window =>
        SpansParse.collected SpanContext.identify (·.inWindow window receivedAt)
          (·.stored receivedAt) maxRecords req.spans := by
  rw [otlpToSpans_eq_forEach]
  simp only [SpansParse.forEach_push_eq]

theorem otlpToSpans_stored (req : ExportTraceServiceRequest) (receivedAt : DateTime)
    (limits : ValidationLimits) (maxRecords : Nat) :
    (otlpToSpans req receivedAt limits maxRecords).map SpansParse.stored =
      (skewWindow receivedAt limits).map fun window =>
        (((req.spans.filterMap SpanContext.identify).filter (·.inWindow window receivedAt)).take
          (maxRecords + 1)).map (·.stored receivedAt) := by
  rw [otlpToSpans_eq, Option.map_map]
  rfl

end Datacat.Traces
