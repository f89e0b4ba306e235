import Datacat.Ingest.Storable
import Datacat.Metrics.Dedup

/-!
# Accepted Records and the Database

What a record must be for its row to be stored, in terms of what was received. The validators
accept records that are not.

## Main results

- `Accepted.storable_iff`: an accepted record gives a row that can be stored exactly when no text
  that it brings holds U+0000 and no indexed one is too long.
- `flush_succeeds_iff`: a flush goes through exactly when this is so of all records of its batch.
-/

namespace Datacat

open Basics Ingest Otlp Otlp.Json

/-! ## Attributes -/

namespace Otlp.Json

/-- The text that a value is. -/
def AnyValue.text : AnyValue → Option String
  | { stringValue := some s, .. } => some s
  | ⟨none, none, none, none, none, none, bytes⟩ => bytes
  | _ => none

mutual

/-- The texts that the value of an attribute brings, keys included, can be stored. -/
def AnyValue.Plain : AnyValue → Prop
  | { stringValue := some s, .. } => Datacat.Plain s
  | { intValue := some _, .. } => True
  | { doubleValue := some _, .. } => True
  | { boolValue := some _, .. } => True
  | { arrayValue := some ⟨values⟩, .. } => ValuesPlain values
  | { kvlistValue := some ⟨values⟩, .. } => AttributesPlain values
  | { bytesValue := some bytes, .. } => Datacat.Plain bytes
  | _ => True

def ValuesPlain : List AnyValue → Prop
  | [] => True
  | v :: rest => v.Plain ∧ ValuesPlain rest

/-- The same of attributes: one that a later one of the same key shadows brings nothing. -/
def AttributesPlain : List KeyValue → Prop
  | [] => True
  | { key, value := some v } :: rest =>
    (key ∈ rest.map KeyValue.key ∨ Datacat.Plain key ∧ v.Plain) ∧ AttributesPlain rest
  | { key, value := none } :: rest =>
    (key ∈ rest.map KeyValue.key ∨ Datacat.Plain key) ∧ AttributesPlain rest

end

end Otlp.Json

/-! ## Fit records -/

structure Events.IncomingEvent.Fit (ev : Events.IncomingEvent) : Prop where
  eventName : Plain ev.eventName
  tenantId : ∀ s ∈ ev.tenantId, Plain s
  actorId : Plain ev.actorId
  sessionId : Plain ev.sessionId
  /-- Keys and values at any depth. -/
  properties : ∀ v ∈ ev.properties, v.hasNul = false

structure Logs.RecordContext.Fit (c : Logs.RecordContext) : Prop where
  severityText : ∀ s ∈ c.record.severityText, Plain s
  /-- A body that is not a text is serialized, and its U+0000 escaped. -/
  body : ∀ v ∈ c.record.body, ∀ s ∈ v.text, Plain s
  scopeName : ∀ s ∈ c.scope.bind (·.name), Plain s
  traceId : ∀ s ∈ c.record.traceId, Plain s
  spanId : ∀ s ∈ c.record.spanId, Plain s
  attributes : AttributesPlain c.record.attributes
  resource : ∀ r ∈ c.resource, AttributesPlain r.attributes

structure Traces.SpanContext.Fit (maxKey : Nat) (c : Traces.SpanContext) : Prop where
  traceId : ∀ s ∈ c.span.traceId, PlainKey maxKey s
  spanId : ∀ s ∈ c.span.spanId, PlainKey maxKey s
  parentSpanId : ∀ s ∈ c.span.parentSpanId, Plain s
  name : ∀ s ∈ c.span.name, Plain s
  scopeName : ∀ s ∈ c.scope.bind (·.name), Plain s
  statusMessage : ∀ s ∈ c.span.status.bind (·.message), Plain s
  attributes : AttributesPlain c.span.attributes
  resource : ∀ r ∈ c.resource, AttributesPlain r.attributes
  events : ∀ e ∈ c.span.events, (∀ s ∈ e.name, Plain s) ∧ AttributesPlain e.attributes
  links : ∀ l ∈ c.span.links,
    (∀ s ∈ l.traceId, Plain s) ∧ (∀ s ∈ l.spanId, Plain s) ∧ AttributesPlain l.attributes

def Metrics.Point.attributes : Metrics.Point → List KeyValue
  | .number _ p => p.attributes
  | .histogram p => p.attributes

structure Metrics.PointContext.Fit (maxKey : Nat) (c : Metrics.PointContext) : Prop where
  metricName : ∀ s ∈ c.metric.name, PlainKey maxKey s
  unit : ∀ s ∈ c.metric.unit, Plain s
  scopeName : ∀ s ∈ c.scope.bind (·.name), Plain s
  attributes : AttributesPlain c.point.attributes
  resource : ∀ r ∈ c.resource, AttributesPlain r.attributes

/-! ## Plain texts -/

section Texts

theorem plain_empty : Plain "" := rfl

/-- An empty text that is left out would have done no harm. -/
theorem forall_plain_filter (text : Option String) :
    (∀ s ∈ text.filter fun s => !s.isEmpty, Plain s) ↔ ∀ s ∈ text, Plain s := by
  cases text with
  | none => simp
  | some t =>
    by_cases ht : t = ""
    · simp [ht, plain_empty]
    · simp [Option.filter, ht]

theorem plain_getD (text : Option String) : Plain (text.getD "") ↔ ∀ s ∈ text, Plain s := by
  cases text with
  | none => simp [plain_empty]
  | some t => simp

theorem hasNul_string_getD (text : Option String) :
    (Value.string (text.getD "")).hasNul = false ↔ ∀ s ∈ text, Plain s := by
  rw [Value.hasNul]
  exact plain_getD text

theorem plain_toRfc3339 (t : DateTime) : Plain t.toRfc3339 := by
  unfold Plain hasNul
  rw [← Bool.not_eq_true]
  intro h
  have hchar := List.all_eq_true.mp t.toRfc3339_isTimeChar _ (List.contains_iff_mem.mp h)
  revert hchar
  decide

theorem hasNul_ofMap_iff {m : Map} : (Value.ofMap m).hasNul = false ↔
    ∀ e ∈ m.entries, Plain e.1 ∧ e.2.hasNul = false := by
  rw [Value.ofMap, Value.hasNul, Value.hasNulEntries_eq_any, List.any_eq_false]
  simp [Plain]

theorem hasNul_ofEntries_iff (entries : List (String × Value)) :
    (Value.ofMap (BTreeMap.ofEntries entries)).hasNul = false ↔
      BTreeMap.HoldsOnLast (fun key v => Plain key ∧ v.hasNul = false) entries :=
  hasNul_ofMap_iff.trans
    (BTreeMap.forall_entries_ofEntries (P := fun key v => Plain key ∧ v.hasNul = false) entries)

end Texts

namespace Otlp.Json

theorem keys_keyValuesToJson (attrs : List KeyValue) :
    (keyValuesToJson attrs).map Prod.fst = attrs.map KeyValue.key := by
  rw [keyValuesToJson_eq_map, List.map_map]
  rfl

mutual

theorem hasNul_anyvalueToJson : ∀ v : AnyValue, (anyvalueToJson v).hasNul = false ↔ v.Plain
  | ⟨some s, _, _, _, _, _, _⟩ => by
    simp only [anyvalueToJson, AnyValue.Plain, Value.hasNul, Datacat.Plain]
  | ⟨none, some n, _, _, _, _, _⟩ => by
    simp only [anyvalueToJson, AnyValue.Plain]
    cases n.asU64 <;> simp [Value.hasNul]
  | ⟨none, none, some d, _, _, _, _⟩ => by
    simp only [anyvalueToJson, AnyValue.Plain]
    cases Number.ofF64 d <;> simp [Value.hasNul]
  | ⟨none, none, none, some b, _, _, _⟩ => by
    simp only [anyvalueToJson, AnyValue.Plain, Value.hasNul]
  | ⟨none, none, none, none, some ⟨values⟩, _, _⟩ => by
    simp only [anyvalueToJson, AnyValue.Plain, Value.hasNul]
    exact hasNulItems_anyvaluesToJson values
  | ⟨none, none, none, none, none, some ⟨values⟩, _⟩ => by
    simp only [anyvalueToJson, AnyValue.Plain, hasNul_ofEntries_iff]
    exact holdsOnLast_keyValuesToJson values
  | ⟨none, none, none, none, none, none, some bytes⟩ => by
    simp only [anyvalueToJson, AnyValue.Plain, Value.hasNul, Datacat.Plain]
  | ⟨none, none, none, none, none, none, none⟩ => by
    simp only [anyvalueToJson, AnyValue.Plain, Value.hasNul]

theorem hasNulItems_anyvaluesToJson : ∀ values : List AnyValue,
    Value.hasNulItems (anyvaluesToJson values) = false ↔ ValuesPlain values
  | [] => by simp [anyvaluesToJson, ValuesPlain, Value.hasNulItems]
  | v :: rest => by
    rw [anyvaluesToJson, ValuesPlain, Value.hasNulItems, Bool.or_eq_false_iff,
      hasNul_anyvalueToJson v, hasNulItems_anyvaluesToJson rest]

theorem holdsOnLast_keyValuesToJson : ∀ attrs : List KeyValue,
    BTreeMap.HoldsOnLast (fun key v => Datacat.Plain key ∧ v.hasNul = false)
      (keyValuesToJson attrs) ↔ AttributesPlain attrs
  | [] => by simp [keyValuesToJson, AttributesPlain, BTreeMap.HoldsOnLast]
  | ⟨key, some v⟩ :: rest => by
    rw [keyValuesToJson, AttributesPlain, BTreeMap.HoldsOnLast, keys_keyValuesToJson,
      hasNul_anyvalueToJson v, holdsOnLast_keyValuesToJson rest]
  | ⟨key, none⟩ :: rest => by
    rw [keyValuesToJson, AttributesPlain, BTreeMap.HoldsOnLast, keys_keyValuesToJson,
      holdsOnLast_keyValuesToJson rest]
    simp [Value.hasNul]

end

theorem hasNul_attrsToMap (attrs : List KeyValue) :
    (Value.ofMap (attrsToMap attrs)).hasNul = false ↔ AttributesPlain attrs := by
  rw [attrsToMap, hasNul_ofEntries_iff]
  exact holdsOnLast_keyValuesToJson attrs

theorem hasNul_resourceAttrs (resource : Option Resource) :
    (Value.ofMap ((resource.map fun r => attrsToMap r.attributes).getD BTreeMap.empty)).hasNul
        = false ↔ ∀ r ∈ resource, AttributesPlain r.attributes := by
  cases resource with
  | none => simp [Value.ofMap, BTreeMap.empty, Value.hasNul, Value.hasNulEntries]
  | some r =>
    rw [Option.map_some, Option.getD_some, hasNul_attrsToMap]
    simp

theorem text_eq_some_iff (v : AnyValue) (s : String) :
    v.text = some s ↔ anyvalueToJson v = .string s := by
  match v with
  | ⟨some t, _, _, _, _, _, _⟩ => simp [AnyValue.text, anyvalueToJson]
  | ⟨none, some n, _, _, _, _, _⟩ =>
    simp only [AnyValue.text, anyvalueToJson]
    cases n.asU64 <;> simp
  | ⟨none, none, some d, _, _, _, _⟩ =>
    simp only [AnyValue.text, anyvalueToJson]
    cases Number.ofF64 d <;> simp
  | ⟨none, none, none, some b, _, _, _⟩ => simp [AnyValue.text, anyvalueToJson]
  | ⟨none, none, none, none, some ⟨values⟩, _, _⟩ => simp [AnyValue.text, anyvalueToJson]
  | ⟨none, none, none, none, none, some ⟨values⟩, _⟩ =>
    simp [AnyValue.text, anyvalueToJson, Value.ofMap]
  | ⟨none, none, none, none, none, none, some bytes⟩ => simp [AnyValue.text, anyvalueToJson]
  | ⟨none, none, none, none, none, none, none⟩ => simp [AnyValue.text, anyvalueToJson]

/-- What is not a text is serialized, and holds no U+0000. -/
theorem plain_anyvalueToString [FloatFormat] [LawfulFloatFormat] (v : AnyValue) :
    Datacat.Plain (anyvalueToString v) ↔ ∀ s ∈ v.text, Datacat.Plain s := by
  have htext := text_eq_some_iff v
  unfold anyvalueToString
  split
  · rename_i s hs
    simp [(htext s).mpr hs]
  · rename_i hother
    have hnone : v.text = none := by
      rw [Option.eq_none_iff_forall_ne_some]
      exact fun s hs => hother s ((htext s).mp hs)
    simp [hnone, Datacat.Plain, Value.hasNul_toJsonString]

end Otlp.Json

/-! ## Rows and their records -/

section Correlation

variable {own resource : Map}

theorem plain_lookup (h : (Value.ofMap resource).hasNul = false) (keys : List String) :
    ∀ s ∈ lookup resource keys, Plain s :=
  fun _ hs => hasNul_of_lookup h hs

/-- What correlates a record comes from its attributes. -/
theorem plain_lookup_or (hown : (Value.ofMap own).hasNul = false)
    (hresource : (Value.ofMap resource).hasNul = false) (keys : List String) :
    ∀ s ∈ (lookup own keys).or (lookup resource keys), Plain s := by
  intro s hs
  cases Option.or_eq_some_iff.mp hs with
  | inl h => exact plain_lookup hown keys s h
  | inr h => exact plain_lookup hresource keys s h.2

end Correlation

theorem plainKey_getD {maxKey : Nat} (text : Option String) :
    PlainKey maxKey (text.getD "") ↔ ∀ s ∈ text, PlainKey maxKey s := by
  cases text with
  | none => simp [PlainKey, hasNul]
  | some t => simp

theorem hasNul_objectProperties {properties : Option Value} {index : Nat} {v : Value}
    (h : Events.objectProperties properties index = .ok v) :
    v.hasNul = false ↔ ∀ w ∈ properties, w.hasNul = false := by
  unfold Events.objectProperties at h
  split at h
  · obtain rfl := Except.ok.inj h
    simp [Value.hasNul, Value.hasNulEntries]
  · obtain rfl := Except.ok.inj h
    simp [Value.hasNul, Value.hasNulEntries]
  · obtain rfl := Except.ok.inj h
    simp
  · contradiction

namespace Traces

theorem hasNul_eventsToJson (events : List SpanEvent) : (eventsToJson events).hasNul = false ↔
    ∀ e ∈ events, (∀ s ∈ e.name, Plain s) ∧ AttributesPlain e.attributes := by
  rw [eventsToJson, Value.hasNul, Value.hasNulItems_eq_any, List.any_map, List.any_eq_false]
  refine forall₂_congr fun e _ => ?_
  -- the time is a text of the program's own
  have htime (t : Option DateTime) : (optionJson (t.map DateTime.toRfc3339)).hasNul = false := by
    cases t with
    | none => rfl
    | some t => exact plain_toRfc3339 t
  have hkeys : Plain "time" ∧ Plain "name" ∧ Plain "attributes" := ⟨rfl, rfl, rfl⟩
  rw [Function.comp_apply, Bool.not_eq_true, hasNul_ofEntries_iff]
  simp only [BTreeMap.HoldsOnLast, List.map_cons, List.map_nil, List.mem_cons, List.not_mem_nil,
    String.reduceEq, or_false, false_or, and_true, true_and, htime, hkeys, hasNul_string_getD,
    hasNul_attrsToMap]

theorem hasNul_linksToJson (links : List SpanLink) : (linksToJson links).hasNul = false ↔
    ∀ l ∈ links, (∀ s ∈ l.traceId, Plain s) ∧ (∀ s ∈ l.spanId, Plain s) ∧
      AttributesPlain l.attributes := by
  rw [linksToJson, Value.hasNul, Value.hasNulItems_eq_any, List.any_map, List.any_eq_false]
  refine forall₂_congr fun l _ => ?_
  have hkeys : Plain "trace_id" ∧ Plain "span_id" ∧ Plain "attributes" := ⟨rfl, rfl, rfl⟩
  rw [Function.comp_apply, Bool.not_eq_true, hasNul_ofEntries_iff]
  simp only [BTreeMap.HoldsOnLast, List.map_cons, List.map_nil, List.mem_cons, List.not_mem_nil,
    String.reduceEq, or_false, false_or, and_true, true_and, hkeys, hasNul_string_getD,
    hasNul_attrsToMap]

/-- The identifiers of an identified span are its own. -/
theorem SpanContext.identify_eq_some {c : SpanContext} {i : IdentifiedSpan}
    (h : c.identify = some i) :
    i.context = c ∧ c.span.traceId = some i.traceId ∧ c.span.spanId = some i.spanId := by
  unfold identify at h
  split at h
  · rename_i traceId spanId htrace hspan
    obtain rfl := Option.some.inj h
    exact ⟨rfl, Option.eq_some_of_filter_eq_some htrace, Option.eq_some_of_filter_eq_some hspan⟩
  · contradiction

end Traces

theorem Metrics.hasNul_bucketsJson (bounds : List F64) (counts : List UInt64) :
    (bucketsJson bounds counts).hasNul = false := by
  have hdouble (x : F64) : (doubleJson x).hasNul = false := by
    unfold doubleJson
    split <;> rfl
  have hkeys : Plain "bounds" ∧ Plain "counts" := ⟨rfl, rfl⟩
  rw [bucketsJson, hasNul_ofEntries_iff]
  simp [BTreeMap.HoldsOnLast, hkeys, hdouble, Value.hasNul, Value.hasNulItems_eq_any]

section Rows

variable [FloatFormat] [LawfulFloatFormat] {maxKey : Nat}

theorem Events.IncomingEvent.storable_iff {ev : Events.IncomingEvent} {receivedAt : DateTime}
    {limits : ValidationLimits} {index : Nat} {e : Events.StoredEvent}
    (h : Events.checkEvent ev receivedAt limits index = some (.ok (.ok e))) :
    Storable maxKey .events e ↔ ev.Fit := by
  obtain ⟨hcheck, he⟩ := Events.checkEvent_ok h
  have hproperties := hasNul_objectProperties (Events.checkStructure_properties hcheck)
  rw [storable_events, hproperties, he]
  constructor
  · intro hrow
    obtain ⟨hname, htenant, hactor, hsession, hprops⟩ := hrow
    exact ⟨hname, htenant, hactor, hsession, hprops⟩
  · intro hfit
    exact ⟨hfit.eventName, hfit.tenantId, hfit.actorId, hfit.sessionId, hfit.properties⟩

theorem Logs.RecordContext.storable_iff [Sha256] (receivedAt : DateTime)
    (c : Logs.RecordContext) : Storable maxKey .logs (c.stored receivedAt) ↔ c.Fit := by
  rw [storable_logs]
  show (∀ s ∈ c.record.severityText, Plain s) ∧
    (∀ s ∈ c.record.body.map anyvalueToString, Plain s) ∧
    (∀ s ∈ lookup c.resourceAttrs ["service.name"], Plain s) ∧
    (∀ s ∈ c.scope.bind (·.name), Plain s) ∧
    (∀ s ∈ c.record.traceId.filter fun s => !s.isEmpty, Plain s) ∧
    (∀ s ∈ c.record.spanId.filter fun s => !s.isEmpty, Plain s) ∧
    (∀ s ∈ (correlate (attrsToMap c.record.attributes) c.resourceAttrs).tenantId, Plain s) ∧
    (∀ s ∈ (correlate (attrsToMap c.record.attributes) c.resourceAttrs).actorId, Plain s) ∧
    (∀ s ∈ (correlate (attrsToMap c.record.attributes) c.resourceAttrs).sessionId, Plain s) ∧
    (Value.ofMap c.resourceAttrs).hasNul = false ∧
    (Value.ofMap (attrsToMap c.record.attributes)).hasNul = false ↔ c.Fit
  have hresource := hasNul_resourceAttrs c.resource
  have hattributes := hasNul_attrsToMap c.record.attributes
  have hbody : (∀ s ∈ c.record.body.map anyvalueToString, Plain s) ↔
      ∀ v ∈ c.record.body, ∀ s ∈ v.text, Plain s := by
    cases c.record.body with
    | none => simp
    | some v => simpa using plain_anyvalueToString v
  rw [forall_plain_filter, forall_plain_filter, hbody]
  constructor
  · intro h
    obtain ⟨hseverity, hbody, _, hscope, htrace, hspan, _, _, _, hres, hattrs⟩ := h
    exact ⟨hseverity, hbody, hscope, htrace, hspan, hattributes.mp hattrs, hresource.mp hres⟩
  · intro hfit
    have hres := hresource.mpr hfit.resource
    have hattrs := hattributes.mpr hfit.attributes
    exact ⟨hfit.severityText, hfit.body, plain_lookup hres _, hfit.scopeName, hfit.traceId,
      hfit.spanId, plain_lookup_or hattrs hres _, plain_lookup_or hattrs hres _,
      plain_lookup_or hattrs hres _, hres, hattrs⟩

theorem Traces.SpanContext.storable_iff {c : Traces.SpanContext} {i : Traces.IdentifiedSpan}
    (h : c.identify = some i) (receivedAt : DateTime) :
    Storable maxKey .traces (i.stored receivedAt) ↔ c.Fit maxKey := by
  obtain ⟨rfl, htraceId, hspanId⟩ := Traces.SpanContext.identify_eq_some h
  rw [storable_traces]
  show PlainKey maxKey i.traceId ∧ PlainKey maxKey i.spanId ∧
    (∀ s ∈ i.context.span.parentSpanId.filter fun v => !v.isEmpty, Plain s) ∧
    Plain (i.context.span.name.getD "") ∧
    (∀ s ∈ lookup i.context.resourceAttrs ["service.name"], Plain s) ∧
    (∀ s ∈ i.context.scope.bind (·.name), Plain s) ∧
    (∀ s ∈ (i.context.span.status.bind (·.message)).filter fun m => !m.isEmpty, Plain s) ∧
    (∀ s ∈ (correlate (attrsToMap i.context.span.attributes) i.context.resourceAttrs).tenantId,
      Plain s) ∧
    (∀ s ∈ (correlate (attrsToMap i.context.span.attributes) i.context.resourceAttrs).actorId,
      Plain s) ∧
    (∀ s ∈ (correlate (attrsToMap i.context.span.attributes) i.context.resourceAttrs).sessionId,
      Plain s) ∧
    (Value.ofMap i.context.resourceAttrs).hasNul = false ∧
    (Value.ofMap (attrsToMap i.context.span.attributes)).hasNul = false ∧
    (Traces.eventsToJson i.context.span.events).hasNul = false ∧
    (Traces.linksToJson i.context.span.links).hasNul = false ↔ i.context.Fit maxKey
  have hresource := hasNul_resourceAttrs i.context.resource
  have hattributes := hasNul_attrsToMap i.context.span.attributes
  rw [forall_plain_filter, forall_plain_filter, plain_getD, Traces.hasNul_eventsToJson,
    Traces.hasNul_linksToJson]
  constructor
  · intro h
    obtain ⟨htrace, hspan, hparent, hname, _, hscope, hmessage, _, _, _, hres, hattrs, hevents,
      hlinks⟩ := h
    exact {
      traceId := by simpa [htraceId] using htrace
      spanId := by simpa [hspanId] using hspan
      parentSpanId := hparent
      name := hname
      scopeName := hscope
      statusMessage := hmessage
      attributes := hattributes.mp hattrs
      resource := hresource.mp hres
      events := hevents
      links := hlinks }
  · intro hfit
    -- What is looked up in the attributes is as plain as they are.
    have hres := hresource.mpr hfit.resource
    have hattrs := hattributes.mpr hfit.attributes
    exact ⟨hfit.traceId _ htraceId, hfit.spanId _ hspanId, hfit.parentSpanId, hfit.name,
      plain_lookup hres _, hfit.scopeName, hfit.statusMessage, plain_lookup_or hattrs hres _,
      plain_lookup_or hattrs hres _, plain_lookup_or hattrs hres _, hres, hattrs, hfit.events,
      hfit.links⟩

theorem Metrics.PointContext.storable_iff [Sha256] (receivedAt : DateTime)
    (c : Metrics.PointContext) :
    Storable maxKey .metrics (Metrics.assemble (c.fields receivedAt)) ↔ c.Fit maxKey := by
  have hfields : (c.fields receivedAt).metricName = c.metric.name.getD "" ∧
      (c.fields receivedAt).unit = c.metric.unit.filter (fun u => !u.isEmpty) ∧
      (c.fields receivedAt).serviceName = lookup c.resourceAttrs ["service.name"] ∧
      (c.fields receivedAt).scopeName = c.scope.bind (·.name) ∧
      (c.fields receivedAt).attrs = attrsToMap c.point.attributes ∧
      (c.fields receivedAt).resourceAttrs = c.resourceAttrs := by
    unfold Metrics.PointContext.fields Metrics.Point.attributes
    cases c.point <;> exact ⟨rfl, rfl, rfl, rfl, rfl, rfl⟩
  -- The buckets are numbers only.
  have hbuckets : ∀ v ∈ (c.fields receivedAt).buckets, v.hasNul = false := by
    unfold Metrics.PointContext.fields
    cases c.point with
    | number metricType p => simp [Metrics.NumberDataPoint.fields]
    | histogram p => simp [Metrics.HistogramDataPoint.fields, Metrics.hasNul_bucketsJson]
  obtain ⟨hname, hunit, hservice, hscope, hattrs, hresource⟩ := hfields
  have hresourceNul := hasNul_resourceAttrs c.resource
  have hattrsNul := hasNul_attrsToMap c.point.attributes
  rw [storable_metrics]
  simp only [Metrics.assemble, correlate, hname, hunit, hservice, hscope, hattrs, hresource,
    plainKey_getD, forall_plain_filter]
  constructor
  · intro h
    obtain ⟨hname, _, hunit, _, _, hscope, _, _, _, hres, hattrs⟩ := h
    exact ⟨hname, hunit, hscope, hattrsNul.mp hattrs, hresourceNul.mp hres⟩
  · intro hfit
    have hres := hresourceNul.mpr hfit.resource
    have hattrs := hattrsNul.mpr hfit.attributes
    exact ⟨hfit.metricName, (Metrics.MetricType.hasNul_text _), hfit.unit, hbuckets,
      plain_lookup hres _, hfit.scopeName, plain_lookup_or hattrs hres _,
      plain_lookup_or hattrs hres _, plain_lookup_or hattrs hres _, hres, hattrs⟩

end Rows

/-! ## Accepted records -/

/-- A record as it is received, with what surrounds it in its request. -/
def Domain.Source : Domain → Type
  | .events => Events.IncomingEvent
  | .logs => Logs.RecordContext
  | .traces => Traces.SpanContext
  | .metrics => Metrics.PointContext

/-- No text of the record that is kept holds U+0000, and no text that is a key of an index is
longer than `maxKey` bytes. -/
def Domain.Fit (maxKey : Nat) : (d : Domain) → d.Source → Prop
  | .events => Events.IncomingEvent.Fit
  | .logs => Logs.RecordContext.Fit
  | .traces => Traces.SpanContext.Fit maxKey
  | .metrics => Metrics.PointContext.Fit maxKey

section Acceptance

variable [FloatFormat] [Sha256]

/-- The record is accepted, and stored as the row. -/
inductive Accepted : (d : Domain) → d.Source → d.Row → Prop where
  | event {ev : Events.IncomingEvent} {receivedAt : DateTime} {limits : ValidationLimits}
      {index : Nat} {e : Events.StoredEvent}
      (h : Events.checkEvent ev receivedAt limits index = some (.ok (.ok e))) :
      Accepted .events ev e
  | log {req : Logs.ExportLogsServiceRequest} {receivedAt : DateTime} {limits : ValidationLimits}
      {maxRecords : Nat} {out : Logs.LogsParse} {c : Logs.RecordContext}
      (h : Logs.otlpToLogs req receivedAt limits maxRecords = some out) (hc : c ∈ req.records)
      (hstored : c.stored receivedAt ∈ out.stored) :
      Accepted .logs c (c.stored receivedAt)
  | span {req : Traces.ExportTraceServiceRequest} {receivedAt : DateTime}
      {limits : ValidationLimits} {maxRecords : Nat} {out : Traces.SpansParse}
      {c : Traces.SpanContext} {i : Traces.IdentifiedSpan}
      (h : Traces.otlpToSpans req receivedAt limits maxRecords = some out) (hc : c ∈ req.spans)
      (hi : c.identify = some i) (hstored : i.stored receivedAt ∈ out.stored) :
      Accepted .traces c (i.stored receivedAt)
  | point {req : Metrics.ExportMetricsServiceRequest} {receivedAt : DateTime}
      {limits : ValidationLimits} {maxRecords : Nat} {out : Metrics.MetricsParse}
      {c : Metrics.PointContext}
      (h : Metrics.otlpToMetrics req receivedAt limits maxRecords = some out)
      (hc : c ∈ req.points) (hstored : Metrics.assemble (c.fields receivedAt) ∈ out.stored) :
      Accepted .metrics c (Metrics.assemble (c.fields receivedAt))

/-! Every row that a request stores is the row of an accepted record. -/

theorem Logs.exists_accepted {req : Logs.ExportLogsServiceRequest} {receivedAt : DateTime}
    {limits : ValidationLimits} {maxRecords : Nat} {out : Logs.LogsParse} {l : Logs.StoredLog}
    (h : Logs.otlpToLogs req receivedAt limits maxRecords = some out) (hl : l ∈ out.stored) :
    ∃ c : Logs.RecordContext, Accepted .logs c l := by
  have hout := h
  rw [Logs.otlpToLogs_eq] at hout
  obtain ⟨window, -, rfl⟩ := Option.map_eq_some_iff.mp hout
  obtain ⟨c, hc, rfl⟩ := List.mem_map.mp hl
  exact ⟨c, .log h (List.mem_of_mem_filter (List.mem_of_mem_take hc)) hl⟩

theorem Traces.exists_accepted {req : Traces.ExportTraceServiceRequest} {receivedAt : DateTime}
    {limits : ValidationLimits} {maxRecords : Nat} {out : Traces.SpansParse}
    {s : Traces.StoredSpan} (h : Traces.otlpToSpans req receivedAt limits maxRecords = some out)
    (hs : s ∈ out.stored) : ∃ c : Traces.SpanContext, Accepted .traces c s := by
  have hout := h
  rw [Traces.otlpToSpans_eq] at hout
  obtain ⟨window, -, rfl⟩ := Option.map_eq_some_iff.mp hout
  obtain ⟨i, hi, rfl⟩ := List.mem_map.mp hs
  obtain ⟨c, hc, hidentify⟩ :=
    List.mem_filterMap.mp (List.mem_of_mem_filter (List.mem_of_mem_take hi))
  exact ⟨c, .span h hc hidentify hs⟩

theorem Metrics.exists_accepted {req : Metrics.ExportMetricsServiceRequest}
    {receivedAt : DateTime} {limits : ValidationLimits} {maxRecords : Nat}
    {out : Metrics.MetricsParse} {p : Metrics.StoredMetricPoint}
    (h : Metrics.otlpToMetrics req receivedAt limits maxRecords = some out)
    (hp : p ∈ out.stored) : ∃ c : Metrics.PointContext, Accepted .metrics c p := by
  have hout := h
  rw [Metrics.otlpToMetrics_eq] at hout
  obtain ⟨window, -, rfl⟩ := Option.map_eq_some_iff.mp hout
  obtain ⟨c, hc, rfl⟩ := List.mem_map.mp hp
  exact ⟨c, .point h (List.mem_of_mem_filter (List.mem_of_mem_take hc)) hp⟩

variable [LawfulFloatFormat] {maxKey : Nat} {d : Domain}

/-- An accepted record gives a row that can be stored exactly when it is fit. -/
theorem Accepted.storable_iff {source : d.Source} {r : d.Row} (h : Accepted d source r) :
    Storable maxKey d r ↔ d.Fit maxKey source := by
  cases h with
  | event h => exact Events.IncomingEvent.storable_iff h
  | @log _ receivedAt _ _ _ c _ _ _ => exact c.storable_iff receivedAt
  | @span _ receivedAt _ _ _ _ _ _ _ hi _ => exact Traces.SpanContext.storable_iff hi receivedAt
  | @point _ receivedAt _ _ _ c _ _ _ => exact c.storable_iff receivedAt

/-- **Accepted is not storable**: each accepted record of a batch can be stored exactly when it is
fit, and the flush of the batch goes through exactly when they all are. -/
theorem flush_succeeds_iff (batch : List (d.Source × d.Row))
    (h : ∀ x ∈ batch, Accepted d x.1 x.2) :
    (∀ x ∈ batch, Storable maxKey d x.2 ↔ d.Fit maxKey x.1) ∧
      (CopyAndMerge maxKey d (batchText (batch.map Prod.snd)) ↔
        ∀ x ∈ batch, d.Fit maxKey x.1) := by
  have hrows : ∀ x ∈ batch, Storable maxKey d x.2 ↔ d.Fit maxKey x.1 :=
    fun x hx => (h x hx).storable_iff
  refine ⟨hrows, ?_⟩
  rw [copyAndMerge_iff, List.forall_mem_map]
  exact forall₂_congr hrows

end Acceptance

/-! ## A name with U+0000 -/

section Sample

/-- An event that is nothing but its name. -/
def bareEvent (eventName : String) : Events.IncomingEvent where
  eventId := ⟨Vector.replicate 16 0⟩
  eventName := eventName
  tenantId := none
  actorId := "actor"
  sessionId := "session"
  timestampClient := ⟨1782036000000000000⟩
  properties := none

def bareRow (eventName : String) : Domain.Row .events :=
  ({ eventId := ⟨Vector.replicate 16 0⟩
     eventName := eventName
     tenantId := none
     actorId := "actor"
     sessionId := "session"
     timestampClient := ⟨1782036000000000000⟩
     receivedAt := ⟨1782036000000000000⟩
     properties := .object [] } : Events.StoredEvent)

/-- The text of a batch of such events. -/
def bareBatch (names : List String) : List Char :=
  let _ : FloatFormat := FloatFormat.ofBits
  batchText (names.map bareRow)

theorem bareEvent_fit : (bareEvent "login").Fit where
  eventName := rfl
  tenantId := nofun
  actorId := rfl
  sessionId := rfl
  properties := nofun

theorem accepted_login :
    @Accepted FloatFormat.ofBits Sha256.standard .events (bareEvent "login") (bareRow "login") :=
  @Accepted.event FloatFormat.ofBits Sha256.standard _ ⟨1782036000000000000⟩ testLimits 0 _ rfl

theorem accepted_nul :
    @Accepted FloatFormat.ofBits Sha256.standard .events (bareEvent "a\x00") (bareRow "a\x00") :=
  @Accepted.event FloatFormat.ofBits Sha256.standard _ ⟨1782036000000000000⟩ testLimits 0 _ rfl

theorem flush_succeeds_login :
    @CopyAndMerge FloatFormat.ofBits 2704 .events (bareBatch ["login"]) := by
  let _ : FloatFormat := FloatFormat.ofBits
  have _ : LawfulFloatFormat := FloatFormat.ofBits_lawful
  let _ : Sha256 := Sha256.standard
  have hall : ∀ x ∈ [(bareEvent "login", bareRow "login")],
      Accepted .events x.1 x.2 ∧ Domain.Fit 2704 .events x.1 := by
    intro x hx
    obtain rfl := List.mem_singleton.mp hx
    exact ⟨accepted_login, bareEvent_fit⟩
  exact (flush_succeeds_iff (d := .events) [(bareEvent "login", bareRow "login")]
    fun x hx => (hall x hx).1).2.mpr fun x hx => (hall x hx).2

/-- The event whose name holds U+0000 is accepted like the other, cannot be stored, and loses
the batch that both are in. -/
theorem not_flush_succeeds_nul :
    @Accepted FloatFormat.ofBits Sha256.standard .events (bareEvent "login") (bareRow "login") ∧
      @Accepted FloatFormat.ofBits Sha256.standard .events (bareEvent "a\x00")
        (bareRow "a\x00") ∧
      @Storable FloatFormat.ofBits 2704 .events (bareRow "login") ∧
      ¬@Storable FloatFormat.ofBits 2704 .events (bareRow "a\x00") ∧
      ¬@CopyAndMerge FloatFormat.ofBits 2704 .events (bareBatch ["login", "a\x00"]) := by
  let _ : FloatFormat := FloatFormat.ofBits
  have _ : LawfulFloatFormat := FloatFormat.ofBits_lawful
  have hbad : ¬Storable 2704 .events (bareRow "a\x00") := by
    intro h
    have hname : hasNul "a\x00" = false := ((storable_events _).mp h).1
    exact absurd hname (by decide)
  refine ⟨accepted_login, accepted_nul, ?_, hbad, ?_⟩
  · exact (storable_events _).mpr ⟨rfl, nofun, rfl, rfl, rfl⟩
  · intro h
    have hrows := (copyAndMerge_iff (d := .events) _).mp h
    exact hbad (hrows _ (List.mem_cons_of_mem _ (List.mem_singleton_self _)))

end Sample

end Datacat
