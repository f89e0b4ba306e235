import Datacat.Otlp.Agreement
import Datacat.Traces.Encoding

/-!
# Agreement of the Two Transports of Spans

One protobuf request, flattened directly and through its canonical OTLP/JSON document. When
its attribute values convert equally, the HTTP endpoint refuses a document with an empty
attribute key; otherwise the two sides visit, drop and store the same spans, but for three
fields: a kind or a status code at its default and an empty `service.name` are absent over
HTTP and stored over gRPC.

## Main results

- `stored_ident`: the span stored over HTTP, from the one stored over gRPC.
- `overHttp_eq_protoToSpans_iff`: when the two flattenings agree.
-/

namespace Datacat.Traces.Encoding

open Basics Otlp Otlp.Encoding

/-! ## Values of a request -/

/-- Attributes of the resources, of the spans, and of their events and links. -/
def attributes (req : Grpc.ExportTraceServiceRequest) : List Proto.KeyValue :=
  req.resourceSpans.flatMap fun rs =>
    (rs.resource.map (·.attributes)).getD []
      ++ rs.scopeSpans.flatMap fun ss => ss.spans.flatMap spanAttributes

/-- Values of the attributes. -/
def values (req : Grpc.ExportTraceServiceRequest) : List Proto.AnyValue :=
  (attributes req).filterMap (·.value)

/-- What a span and its resource say converts equally. -/
structure ContextConverts (c : Grpc.SpanContext) : Prop where
  resource : ∀ r, c.resource = some r → ∀ kv ∈ r.attributes, ∀ v, kv.value = some v →
    ConvertsEqually v
  span : ∀ kv ∈ spanAttributes c.span, ∀ v, kv.value = some v → ConvertsEqually v

theorem contextConverts_of_values {req : Grpc.ExportTraceServiceRequest}
    (h : ∀ v ∈ values req, ConvertsEqually v) {c : Grpc.SpanContext} (hc : c ∈ req.spans) :
    ContextConverts c := by
  simp only [Grpc.ExportTraceServiceRequest.spans, List.mem_flatMap, List.mem_map] at hc
  obtain ⟨rs, hrs, ss, hss, s, hs, rfl⟩ := hc
  simp only [values, attributes, List.mem_append, List.mem_filterMap, List.mem_flatMap] at h
  constructor
  · intro res hres kv hkv v hv
    refine h v ⟨kv, ⟨rs, hrs, .inl ?_⟩, hv⟩
    simpa [show rs.resource = some res from hres] using hkv
  · intro kv hkv v hv
    exact h v ⟨kv, ⟨rs, hrs, .inr ⟨ss, hss, s, hs, hkv⟩⟩, hv⟩

/-- When the values convert equally, the document is accepted exactly when no attribute key is
empty. -/
theorem requestReadable_iff {req : Grpc.ExportTraceServiceRequest}
    (h : ∀ v ∈ values req, ConvertsEqually v) :
    requestReadable req = true ↔ ∀ kv ∈ attributes req, kv.key ≠ "" := by
  have hattribute : ∀ kv ∈ attributes req, keyValueReadable kv = true ↔ kv.key ≠ "" :=
    fun kv hkv => keyValueReadable_iff fun v hv => h v (List.mem_filterMap.mpr ⟨kv, hkv, hv⟩)
  calc requestReadable req = true
      ↔ ∀ kv ∈ attributes req, keyValueReadable kv = true := by
        simp only [requestReadable, resourceSpansReadable, scopeSpansReadable, spanReadable_iff,
          attributes, List.all_eq_true, Bool.and_eq_true, all_resourceReadable_iff,
          List.mem_flatMap, List.mem_append]
        constructor
        · rintro hall kv ⟨rs, hrs, hres | ⟨ss, hss, s, hs, hkv⟩⟩
          · exact (hall rs hrs).1 kv hres
          · exact (hall rs hrs).2 ss hss s hs kv hkv
        · intro hall rs hrs
          refine ⟨fun kv hkv => hall kv ⟨rs, hrs, .inl hkv⟩, fun ss hss s hs kv hkv => ?_⟩
          exact hall kv ⟨rs, hrs, .inr ⟨ss, hss, s, hs, hkv⟩⟩
    _ ↔ ∀ kv ∈ attributes req, kv.key ≠ "" := forall₂_congr hattribute

/-! ## Spans side by side -/

/-- The HTTP span of a protobuf span. -/
def context (c : Grpc.SpanContext) : SpanContext where
  resource := c.resource.map resource
  scope := c.scope.map scope
  span := span c.span

/-- The same of a span with its identifiers. -/
def ident (d : Grpc.IdentifiedSpan) : IdentifiedSpan where
  context := context d.context
  traceId := d.traceId
  spanId := d.spanId

theorem spans_request (req : Grpc.ExportTraceServiceRequest) :
    (request req).spans = req.spans.map context := by
  simp only [ExportTraceServiceRequest.spans, Grpc.ExportTraceServiceRequest.spans, request,
    resourceSpans, scopeSpans, List.flatMap_map, List.map_flatMap, List.map_map]
  rfl

theorem startTime_span (s : Grpc.Span) (receivedAt : DateTime) :
    (span s).startTime receivedAt = s.startTime receivedAt := by
  rw [Span.startTime, Grpc.Span.startTime, span, nanos_fixed64]

/-- The two transports identify the same spans. -/
theorem identify_context (c : Grpc.SpanContext) :
    (context c).identify = c.identify.map ident := by
  have htrace : (context c).span.traceId.filter (fun v => !v.isEmpty)
      = Proto.hexOpt c.span.traceId := Proto.hexOpt_filter c.span.traceId
  have hspan : (context c).span.spanId.filter (fun v => !v.isEmpty)
      = Proto.hexOpt c.span.spanId := Proto.hexOpt_filter c.span.spanId
  rw [SpanContext.identify, Grpc.SpanContext.identify, htrace, hspan]
  cases Proto.hexOpt c.span.traceId with
  | none => rfl
  | some traceId => cases Proto.hexOpt c.span.spanId <;> rfl

theorem inWindow_ident (d : Grpc.IdentifiedSpan) (window : DateTime × DateTime)
    (receivedAt : DateTime) : (ident d).inWindow window receivedAt = d.inWindow window receivedAt := by
  show (!outsideWindow window ((span d.context.span).startTime receivedAt)) = _
  rw [startTime_span]
  rfl

theorem context_of_identify {c : Grpc.SpanContext} {d : Grpc.IdentifiedSpan}
    (h : c.identify = some d) : d.context = c := by
  unfold Grpc.SpanContext.identify at h
  split at h
  · rw [← Option.some.inj h]
  · cases h

/-! ## Fields side by side -/

theorem getD_text (s : String) : (text s).getD "" = s := by
  rw [text]
  cases hempty : s.isEmpty with
  | true => rw [String.isEmpty_iff.mp hempty]; rfl
  | false => rfl

theorem text_eq_filter (s : String) : text s = (some s).filter fun s => !s.isEmpty := by
  rw [text, Option.filter_some]
  cases s.isEmpty <;> rfl

theorem eventsToJson_event {events : List Grpc.Event}
    (h : ∀ e ∈ events, ∀ kv ∈ e.attributes, ∀ v, kv.value = some v → ConvertsEqually v) :
    eventsToJson (events.map event) = Grpc.protoEventsToJson events := by
  rw [eventsToJson, Grpc.protoEventsToJson, List.map_map]
  refine congrArg Value.array (List.map_congr_left fun e he => ?_)
  -- zero is no time on either side
  have htime : ((fixed64 e.timeUnixNano).bind Json.StringOrNum.asU64).bind nanosToDt
      = Proto.nz e.timeUnixNano := by
    rw [asU64_fixed64, Proto.nz]
    by_cases hzero : e.timeUnixNano = 0
    · rw [if_pos hzero, if_neg (not_not.mpr hzero), Option.bind_none]
    · rw [if_neg hzero, if_pos hzero, Option.bind_some]
  simp only [Function.comp_apply, event]
  rw [htime, getD_text, attrsToMap_keyValue (h e he)]

theorem linksToJson_link {links : List Grpc.Link}
    (h : ∀ l ∈ links, ∀ kv ∈ l.attributes, ∀ v, kv.value = some v → ConvertsEqually v) :
    linksToJson (links.map link) = Grpc.protoLinksToJson links := by
  rw [linksToJson, Grpc.protoLinksToJson, List.map_map]
  refine congrArg Value.array (List.map_congr_left fun l hl => ?_)
  -- an identifier that is not set is the empty text on both sides
  have hid (bytes : List UInt8) : (Proto.hexOpt bytes).getD "" = Proto.hex bytes := by
    cases bytes <;> rfl
  simp only [Function.comp_apply, link]
  rw [hid, hid, attrsToMap_keyValue (h l hl)]

theorem enumeration_map {n : Int32} (max : Int) :
    (enumeration n).map (clampTo max) = some (clampTo max n.toInt64) ↔ n ≠ 0 := by
  unfold enumeration
  split
  · exact ⟨nofun, fun h => absurd ‹_› h⟩
  · exact ⟨fun _ => ‹_›, fun _ => rfl⟩

theorem resourceAttrs_context {c : Grpc.SpanContext} (h : ContextConverts c) :
    (context c).resourceAttrs = c.resourceAttrs :=
  resourceAttrs_resource h.resource

/-- The two transports store the same span, but for what is at its default. -/
theorem stored_ident {d : Grpc.IdentifiedSpan} (h : ContextConverts d.context)
    (receivedAt : DateTime) :
    (ident d).stored receivedAt =
      { d.stored receivedAt with
        kind := (enumeration d.context.span.kind).map (clampTo 5)
        statusCode :=
          (d.context.span.status.bind fun st => enumeration st.code).map (clampTo 2)
        serviceName := (d.stored receivedAt).serviceName.filter (!·.isEmpty) } := by
  have hattributes := attrsToMap_keyValue fun kv hkv => h.span kv (List.mem_append_left _ hkv)
  have hevents := eventsToJson_event fun e he kv hkv =>
    h.span kv (List.mem_append_right _ (List.mem_append_left _
      (List.mem_flatMap.mpr ⟨e, he, hkv⟩)))
  have hlinks := linksToJson_link fun l hl kv hkv =>
    h.span kv (List.mem_append_right _ (List.mem_append_right _
      (List.mem_flatMap.mpr ⟨l, hl, hkv⟩)))
  -- An empty message is left out of the JSON, and dropped over gRPC.
  have hmessage : ((d.context.span.status.map status).bind (·.message)).filter (fun m => !m.isEmpty)
      = (d.context.span.status.map (·.message)).filter fun m => !m.isEmpty := by
    cases d.context.span.status with
    | none => rfl
    | some st =>
      show (text st.message).filter _ = (some st.message).filter _
      rw [text_eq_filter, Option.filter_filter]
      simp only [Bool.and_self]
  have hcode : (d.context.span.status.map status).bind (·.code)
      = d.context.span.status.bind fun st => enumeration st.code := by
    cases d.context.span.status <;> rfl
  rw [IdentifiedSpan.stored, Grpc.IdentifiedSpan.stored, Span.toStored, Grpc.Span.toStored,
    assembleSpan]
  simp only [ident, resourceAttrs_context h, lookup_single]
  simp only [context, scopeName_scope, startTime_span]
  simp only [span, nanos_fixed64, hattributes, hevents, hlinks, getD_text, hmessage, hcode,
    Proto.hexOpt_filter]

/-- No field of the stored span is at a default that HTTP leaves out. -/
structure Alike (d : Grpc.IdentifiedSpan) : Prop where
  kind : d.context.span.kind ≠ 0
  statusCode : ∀ st, d.context.span.status = some st → st.code ≠ 0
  serviceName : (d.context.resourceAttrs.get "service.name").bind Value.asStr ≠ some ""

theorem filter_nonempty_eq_iff (s : Option String) :
    s.filter (!·.isEmpty) = s ↔ s ≠ some "" := by
  cases s with
  | none => simp
  | some s => by_cases hs : s = "" <;> simp [hs, Option.filter_some]

theorem stored_ident_eq_iff {d : Grpc.IdentifiedSpan} (h : ContextConverts d.context)
    (receivedAt : DateTime) :
    (ident d).stored receivedAt = d.stored receivedAt ↔ Alike d := by
  have hfields {s : StoredSpan} {kind statusCode : Option Int16} {serviceName : Option String} :
      { s with kind := kind, statusCode := statusCode, serviceName := serviceName } = s ↔
        kind = s.kind ∧ serviceName = s.serviceName ∧ statusCode = s.statusCode := by
    rw [StoredSpan.mk.injEq]
    simp only [true_and, and_true]
  -- A code that is 0 is left out of the JSON.
  have hstatus : (d.context.span.status.bind fun st => enumeration st.code).map (clampTo 2)
        = d.context.span.status.map (fun st => clampTo 2 st.code.toInt64)
      ↔ ∀ st, d.context.span.status = some st → st.code ≠ 0 := by
    cases d.context.span.status with
    | none => exact iff_of_true rfl nofun
    | some st =>
      refine (enumeration_map 2).trans ⟨fun hne st' hst => ?_, fun hall => hall st rfl⟩
      rwa [← Option.some.inj hst]
  rw [stored_ident h, hfields]
  constructor
  · intro heq
    obtain ⟨hkind, hservice, hcode⟩ := heq
    exact ⟨(enumeration_map 5).mp hkind, hstatus.mp hcode, (filter_nonempty_eq_iff _).mp hservice⟩
  · intro halike
    exact ⟨(enumeration_map 5).mpr halike.kind,
      (filter_nonempty_eq_iff _).mpr halike.serviceName, hstatus.mpr halike.statusCode⟩

/-! ## Requests side by side -/

/-- The spans that are stored. -/
def kept (req : Grpc.ExportTraceServiceRequest) (receivedAt : DateTime)
    (window : DateTime × DateTime) (maxRecords : Nat) : List Grpc.IdentifiedSpan :=
  ((req.spans.filterMap Grpc.SpanContext.identify).filter (·.inWindow window receivedAt)).take
    (maxRecords + 1)

theorem contextConverts_of_kept {req : Grpc.ExportTraceServiceRequest}
    (h : ∀ v ∈ values req, ConvertsEqually v) {receivedAt : DateTime}
    {window : DateTime × DateTime} {maxRecords : Nat} {d : Grpc.IdentifiedSpan}
    (hd : d ∈ kept req receivedAt window maxRecords) : ContextConverts d.context := by
  obtain ⟨c, hc, hidentify⟩ :=
    List.mem_filterMap.mp (List.mem_filter.mp (List.mem_of_mem_take hd)).1
  rw [context_of_identify hidentify]
  exact contextConverts_of_values h hc

/-- The document is flattened into the same spans, in HTTP form, with the same counts. -/
theorem otlpToSpans_request (req : Grpc.ExportTraceServiceRequest) (receivedAt : DateTime)
    (limits : ValidationLimits) (maxRecords : Nat) :
    otlpToSpans (request req) receivedAt limits maxRecords =
      (skewWindow receivedAt limits).map fun window =>
        SpansParse.collected Grpc.SpanContext.identify (·.inWindow window receivedAt)
          (fun d => (ident d).stored receivedAt) maxRecords req.spans := by
  rw [otlpToSpans_eq, spans_request]
  refine congrArg (Option.map · _) (funext fun window => ?_)
  exact SpansParse.collected_map context ident identify_context
    (fun d => inWindow_ident d window receivedAt) _ maxRecords req.spans

theorem otlpToSpans_request_eq_iff {req : Grpc.ExportTraceServiceRequest}
    (hvalues : ∀ v ∈ values req, ConvertsEqually v) (receivedAt : DateTime)
    (limits : ValidationLimits) (maxRecords : Nat) :
    otlpToSpans (request req) receivedAt limits maxRecords
        = Grpc.protoToSpans req receivedAt limits maxRecords
      ↔ ∀ window, skewWindow receivedAt limits = some window →
          ∀ d ∈ kept req receivedAt window maxRecords, Alike d := by
  rw [otlpToSpans_request, Grpc.protoToSpans_eq]
  cases skewWindow receivedAt limits with
  | none => exact iff_of_true rfl nofun
  | some window =>
    rw [Option.map_some, Option.map_some, Option.some.injEq, SpansParse.collected_eq_iff]
    have halike : (∀ d ∈ kept req receivedAt window maxRecords,
          (ident d).stored receivedAt = d.stored receivedAt)
        ↔ ∀ d ∈ kept req receivedAt window maxRecords, Alike d :=
      forall₂_congr fun d hd => stored_ident_eq_iff (contextConverts_of_kept hvalues hd) receivedAt
    refine halike.trans ⟨fun hall window' hwindow => ?_, fun hall => hall window rfl⟩
    rwa [← Option.some.inj hwindow]

/-- The flattening of the canonical document; none when the endpoint refuses it. -/
def overHttp (req : Grpc.ExportTraceServiceRequest) (receivedAt : DateTime)
    (limits : ValidationLimits) (maxRecords : Nat) : Option (Option SpansParse) :=
  (ExportTraceServiceRequest.deserialize (encodeRequest req)).map
    (otlpToSpans · receivedAt limits maxRecords)

theorem overHttp_eq (req : Grpc.ExportTraceServiceRequest) (receivedAt : DateTime)
    (limits : ValidationLimits) (maxRecords : Nat) :
    overHttp req receivedAt limits maxRecords =
      if requestReadable req then some (otlpToSpans (request req) receivedAt limits maxRecords)
      else none := by
  rw [overHttp, deserialize_encodeRequest]
  split <;> rfl

/-- **Agreement of the transports.** When the attribute values of a request convert equally, the
HTTP endpoint flattens its canonical document into the same stored spans as the gRPC endpoint
flattens the message, with the same counts, exactly when no attribute key is empty and no span
stored has its kind, the code of its status or its service name at the default. -/
theorem overHttp_eq_protoToSpans_iff (req : Grpc.ExportTraceServiceRequest)
    (hvalues : ∀ v ∈ values req, ConvertsEqually v) (receivedAt : DateTime)
    (limits : ValidationLimits) (maxRecords : Nat) :
    overHttp req receivedAt limits maxRecords
        = some (Grpc.protoToSpans req receivedAt limits maxRecords)
      ↔ (∀ kv ∈ attributes req, kv.key ≠ "") ∧
        ∀ window, skewWindow receivedAt limits = some window →
          ∀ d ∈ kept req receivedAt window maxRecords, Alike d := by
  rw [← requestReadable_iff hvalues, overHttp_eq, ← otlpToSpans_request_eq_iff hvalues]
  by_cases hreadable : requestReadable req = true
  · rw [if_pos hreadable, Option.some.injEq]
    exact (and_iff_right hreadable).symm
  · rw [if_neg hreadable]
    exact iff_of_false nofun fun h => hreadable h.1

/-- The counts agree whenever the document is accepted. -/
theorem counts_overHttp {req : Grpc.ExportTraceServiceRequest} {receivedAt : DateTime}
    {limits : ValidationLimits} {maxRecords : Nat} {parse : Option SpansParse}
    (h : overHttp req receivedAt limits maxRecords = some parse) :
    parse.map (fun p => (p.stored.length, p.droppedSkew, p.droppedInvalid))
      = (Grpc.protoToSpans req receivedAt limits maxRecords).map fun p =>
          (p.stored.length, p.droppedSkew, p.droppedInvalid) := by
  rw [overHttp_eq] at h
  split at h
  · rw [← Option.some.inj h, otlpToSpans_request, Grpc.protoToSpans_eq]
    cases skewWindow receivedAt limits with
    | none => rfl
    | some window =>
      simp only [Option.map_some, SpansParse.collected, List.length_map]
  · cases h

/-! ## One span over both transports -/

/-- A request with one span of some kind. -/
def oneSpan (kind : Int32) : Grpc.ExportTraceServiceRequest where
  resourceSpans := [{
    resource := none
    scopeSpans := [{
      scope := none
      spans := [{
        traceId := [1, 2]
        spanId := [3]
        parentSpanId := []
        name := "GET /"
        kind := kind
        startTimeUnixNano := 1782036000000000000
        endTimeUnixNano := 1782036000000500000
        attributes := [{ key := "k", value := some (.stringValue "v") }]
        events := [{ timeUnixNano := 0, name := "retry", attributes := [] }]
        links := []
        status := some { message := "", code := 1 } }] }] }]

def spanTime : DateTime := ⟨1782036000000000000⟩

/-- With a kind, the two transports store the same span. -/
theorem overHttp_eq_protoToSpans_server :
    overHttp (oneSpan 2) spanTime testLimits 2048
      = some (Grpc.protoToSpans (oneSpan 2) spanTime testLimits 2048) := by
  have hvalues : ∀ v ∈ values (oneSpan 2), ConvertsEqually v := by decide +kernel
  have hkeys : ∀ kv ∈ attributes (oneSpan 2), kv.key ≠ "" := by decide
  refine (overHttp_eq_protoToSpans_iff (oneSpan 2) hvalues spanTime testLimits 2048).mpr
    ⟨hkeys, fun window _ d hd => ?_⟩
  obtain ⟨c, hc, hidentify⟩ :=
    List.mem_filterMap.mp (List.mem_filter.mp (List.mem_of_mem_take hd)).1
  obtain rfl : c = ⟨none, none, _⟩ := List.mem_singleton.mp hc
  rw [← Option.some.inj hidentify]
  exact ⟨by decide, by decide, by decide⟩

/-- Without a kind, HTTP stores none and gRPC stores zero. -/
theorem overHttp_ne_protoToSpans_noKind :
    (∀ v ∈ values (oneSpan 0), ConvertsEqually v) ∧
      (overHttp (oneSpan 0) spanTime testLimits 2048).map (·.map fun p => p.stored.map (·.kind))
        = some (some [none]) ∧
      (Grpc.protoToSpans (oneSpan 0) spanTime testLimits 2048).map (fun p => p.stored.map (·.kind))
        = some [some 0] := by
  refine ⟨by decide +kernel, by decide +kernel, by decide +kernel⟩

end Datacat.Traces.Encoding
