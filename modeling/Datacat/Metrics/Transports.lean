import Datacat.Metrics.Encoding
import Datacat.Otlp.Agreement

/-!
# Agreement of the Two Transports of Metrics

One protobuf request, flattened directly and through its canonical OTLP/JSON document. When
its attribute values convert equally and its number points are finite, four kinds of request
are stored differently: an empty attribute key or a non-finite sum or bound makes the HTTP
endpoint refuse the document, a negative integer is absent over HTTP, and so is the count of
a histogram that counts nothing.

## Main results

- `fields_context`: the fields of a point over HTTP, from those over gRPC.
- `overHttp_eq_protoToMetrics_iff`: when the two flattenings agree.
-/

namespace Datacat.Metrics.Encoding

open Basics Otlp Otlp.Encoding

/-! ## Values of a request -/

/-- Attributes of the points of a metric. -/
def dataAttributes : Option Grpc.Data → List Proto.KeyValue
  | some (.gauge points) | some (.sum points) => points.flatMap (·.attributes)
  | some (.histogram points) => points.flatMap (·.attributes)
  | _ => []

/-- Attributes of the resources and of the points. -/
def attributes (req : Grpc.ExportMetricsServiceRequest) : List Proto.KeyValue :=
  req.resourceMetrics.flatMap fun rm =>
    (rm.resource.map (·.attributes)).getD []
      ++ rm.scopeMetrics.flatMap fun sm => sm.metrics.flatMap fun m => dataAttributes m.data

/-- Values of the attributes. -/
def values (req : Grpc.ExportMetricsServiceRequest) : List Proto.AnyValue :=
  (attributes req).filterMap (·.value)

/-- Doubles that the number points of a metric report. -/
def dataDoubles : Option Grpc.Data → List F64
  | some (.gauge points) | some (.sum points) => points.filterMap double
  | _ => []

/-- Sums and bounds of a histogram. -/
def dataBounds : Option Grpc.Data → List F64
  | some (.histogram points) => points.flatMap fun p => p.sum.toList ++ p.explicitBounds
  | _ => []

def metrics (req : Grpc.ExportMetricsServiceRequest) : List Grpc.Metric :=
  req.resourceMetrics.flatMap fun rm => rm.scopeMetrics.flatMap (·.metrics)

/-- Doubles that number points report. -/
def doubles (req : Grpc.ExportMetricsServiceRequest) : List F64 :=
  (metrics req).flatMap fun m => dataDoubles m.data

/-- Sums and bounds of the histograms. -/
def bounds (req : Grpc.ExportMetricsServiceRequest) : List F64 :=
  (metrics req).flatMap fun m => dataBounds m.data

/-- The value of the point is reported alike: no negative integer, no empty histogram. -/
def reportsAlike : Grpc.Point → Bool
  | .number _ p => (int p).all fun i => 0 ≤ i.toInt
  | .histogram p => p.count != 0

/-! ## Readable requests -/

theorem numbersReadable_iff (points : List Grpc.NumberDataPoint) :
    points.all numberReadable = true ↔
      (∀ kv ∈ points.flatMap (·.attributes), keyValueReadable kv = true) ∧
        ∀ x ∈ points.filterMap double, x.isFinite = true := by
  simp only [List.all_eq_true, numberReadable, Bool.and_eq_true, List.mem_filterMap,
    List.mem_flatMap, Option.all_eq_true]
  constructor
  · intro h
    constructor
    · rintro kv ⟨p, hp, hkv⟩
      exact (h p hp).2 kv hkv
    · rintro x ⟨p, hp, hx⟩
      exact (h p hp).1 x hx
  · rintro ⟨hattributes, hdoubles⟩ p hp
    exact ⟨fun x hx => hdoubles x ⟨p, hp, hx⟩, fun kv hkv => hattributes kv ⟨p, hp, hkv⟩⟩

theorem histogramsReadable_iff (points : List Grpc.HistogramDataPoint) :
    points.all histogramReadable = true ↔
      (∀ kv ∈ points.flatMap (·.attributes), keyValueReadable kv = true) ∧
        ∀ x ∈ points.flatMap (fun p => p.sum.toList ++ p.explicitBounds), x.isFinite = true := by
  simp only [List.all_eq_true, histogramReadable, Bool.and_eq_true, List.mem_flatMap,
    List.mem_append, Option.mem_toList, Option.all_eq_true]
  constructor
  · intro h
    constructor
    · rintro kv ⟨p, hp, hkv⟩
      exact (h p hp).2 kv hkv
    · rintro x ⟨p, hp, hsum | hbound⟩
      · exact (h p hp).1.1 x hsum
      · exact (h p hp).1.2 x hbound
  · rintro ⟨hattributes, hbounds⟩ p hp
    refine ⟨⟨?_, ?_⟩, fun kv hkv => hattributes kv ⟨p, hp, hkv⟩⟩
    · exact fun x hx => hbounds x ⟨p, hp, .inl hx⟩
    · exact fun x hx => hbounds x ⟨p, hp, .inr hx⟩

/-- The points of a metric are readable when their attributes are and their doubles are
finite. -/
theorem dataReadable_iff (data : Option Grpc.Data) :
    dataReadable data = true ↔ (∀ kv ∈ dataAttributes data, keyValueReadable kv = true) ∧
      (∀ x ∈ dataDoubles data, x.isFinite = true) ∧ ∀ x ∈ dataBounds data, x.isFinite = true := by
  cases data with
  | none => simp [dataReadable, dataAttributes, dataDoubles, dataBounds]
  | some data =>
    cases data with
    | gauge points =>
      simpa [dataReadable, dataAttributes, dataBounds, dataDoubles] using numbersReadable_iff points
    | sum points =>
      simpa [dataReadable, dataAttributes, dataBounds, dataDoubles] using numbersReadable_iff points
    | histogram points =>
      simpa [dataReadable, dataAttributes, dataBounds, dataDoubles]
        using histogramsReadable_iff points
    | exponentialHistogram => simp [dataReadable, dataAttributes, dataDoubles, dataBounds]
    | summary => simp [dataReadable, dataAttributes, dataDoubles, dataBounds]

/-- When the values convert equally and the number points are finite, the document is accepted
exactly when no attribute key is empty and the histograms are finite. -/
theorem requestReadable_iff {req : Grpc.ExportMetricsServiceRequest}
    (hvalues : ∀ v ∈ values req, ConvertsEqually v)
    (hdoubles : ∀ x ∈ doubles req, x.isFinite = true) :
    requestReadable req = true ↔
      (∀ kv ∈ attributes req, kv.key ≠ "") ∧ ∀ x ∈ bounds req, x.isFinite = true := by
  have hattribute : ∀ kv ∈ attributes req, keyValueReadable kv = true ↔ kv.key ≠ "" := by
    intro kv hkv
    apply keyValueReadable_iff
    intro v hv
    exact hvalues v (List.mem_filterMap.mpr ⟨kv, hkv, hv⟩)
  calc requestReadable req = true
      ↔ (∀ kv ∈ attributes req, keyValueReadable kv = true) ∧
          (∀ x ∈ doubles req, x.isFinite = true) ∧ ∀ x ∈ bounds req, x.isFinite = true := by
        simp only [requestReadable, resourceMetricsReadable, scopeMetricsReadable, metricReadable,
          List.all_eq_true, Bool.and_eq_true, dataReadable_iff, all_resourceReadable_iff,
          attributes, doubles, bounds, metrics, List.forall_mem_flatMap, List.forall_mem_append]
        constructor
        · intro h
          -- the attributes of the metrics, their doubles and their bounds
          exact ⟨fun rm hrm => ⟨(h rm hrm).1, fun sm hsm m hm => ((h rm hrm).2 sm hsm m hm).1⟩,
            fun rm hrm sm hsm m hm => ((h rm hrm).2 sm hsm m hm).2.1,
            fun rm hrm sm hsm m hm => ((h rm hrm).2 sm hsm m hm).2.2⟩
        · rintro ⟨hattributes, hnumbers, hhistograms⟩ rm hrm
          refine ⟨(hattributes rm hrm).1, fun sm hsm m hm => ?_⟩
          exact ⟨(hattributes rm hrm).2 sm hsm m hm, hnumbers rm hrm sm hsm m hm,
            hhistograms rm hrm sm hsm m hm⟩
    _ ↔ (∀ kv ∈ attributes req, kv.key ≠ "") ∧ ∀ x ∈ bounds req, x.isFinite = true := by
        rw [forall₂_congr hattribute]
        exact and_congr_right fun _ => and_iff_right hdoubles

/-! ## Points side by side -/

def pointAttributes : Grpc.Point → List Proto.KeyValue
  | .number _ p => p.attributes
  | .histogram p => p.attributes

/-- What a point and its resource say converts equally. -/
structure ContextConverts (c : Grpc.PointContext) : Prop where
  resource : ∀ r, c.resource = some r → ∀ kv ∈ r.attributes, ∀ v, kv.value = some v →
    ConvertsEqually v
  point : ∀ kv ∈ pointAttributes c.point, ∀ v, kv.value = some v → ConvertsEqually v

theorem mem_dataAttributes {m : Grpc.Metric} {p : Grpc.Point} (hp : p ∈ m.points)
    {kv : Proto.KeyValue} (hkv : kv ∈ pointAttributes p) : kv ∈ dataAttributes m.data := by
  unfold Grpc.Metric.points at hp
  split at hp
  · contradiction
  · split at hp
    all_goals rename_i hdata
    · obtain ⟨q, hq, rfl⟩ := List.mem_map.mp hp
      rw [hdata]
      exact List.mem_flatMap.mpr ⟨q, hq, hkv⟩
    · obtain ⟨q, hq, rfl⟩ := List.mem_map.mp hp
      rw [hdata]
      exact List.mem_flatMap.mpr ⟨q, hq, hkv⟩
    · obtain ⟨q, hq, rfl⟩ := List.mem_map.mp hp
      rw [hdata]
      exact List.mem_flatMap.mpr ⟨q, hq, hkv⟩
    · contradiction

theorem contextConverts_of_values {req : Grpc.ExportMetricsServiceRequest}
    (h : ∀ v ∈ values req, ConvertsEqually v) {c : Grpc.PointContext} (hc : c ∈ req.points) :
    ContextConverts c := by
  simp only [Grpc.ExportMetricsServiceRequest.points, List.mem_flatMap, List.mem_map] at hc
  obtain ⟨rm, hrm, sm, hsm, m, hm, p, hp, rfl⟩ := hc
  simp only [values, attributes, List.mem_append, List.mem_filterMap, List.mem_flatMap] at h
  constructor
  · intro r hr kv hkv v hv
    refine h v ⟨kv, ⟨rm, hrm, .inl ?_⟩, hv⟩
    simpa [show rm.resource = some r from hr] using hkv
  · intro kv hkv v hv
    exact h v ⟨kv, ⟨rm, hrm, .inr ⟨sm, hsm, m, hm, mem_dataAttributes hp hkv⟩⟩, hv⟩

def point : Grpc.Point → Point
  | .number metricType p => .number metricType (number p)
  | .histogram p => .histogram (histogram p)

/-- The HTTP point of a protobuf point. -/
def context (c : Grpc.PointContext) : PointContext where
  resource := c.resource.map resource
  scope := c.scope.map scope
  metric := metric c.metric
  point := point c.point

theorem name_metric (m : Grpc.Metric) : (metric m).name.getD "" = m.name := by
  rw [metric, text]
  split
  · rename_i hempty
    exact (String.isEmpty_iff.mp hempty).symm
  · rfl

theorem unit_metric (m : Grpc.Metric) :
    ((metric m).unit.filter fun u => !u.isEmpty)
      = if m.unit.isEmpty then none else some m.unit := by
  show (text m.unit).filter (fun u => !u.isEmpty) = _
  rw [text]
  cases hunit : m.unit.isEmpty with
  | true => rfl
  | false => simp [Option.filter_some, hunit]

theorem points_metric (m : Grpc.Metric) : (metric m).points = m.points.map point := by
  rw [Metric.points, Grpc.Metric.points, name_metric]
  split
  · rfl
  · obtain ⟨name, unit, data⟩ := m
    rcases data with _ | (points | points | points | _ | _)
    all_goals simp [metric, Metric.numbers, Metric.histogramPoints, numbers, histograms, point,
      Function.comp_def]

theorem points_request (req : Grpc.ExportMetricsServiceRequest) :
    (request req).points = req.points.map context := by
  simp only [ExportMetricsServiceRequest.points, Grpc.ExportMetricsServiceRequest.points,
    request, resourceMetrics, scopeMetrics, List.flatMap_map, List.map_flatMap, List.map_map,
    points_metric]
  rfl

/-! ## The fields of a point -/

theorem asU64_str (n : UInt64) : (Json.StringOrNum.str (toString n.toNat)).asU64 = some n := by
  show parseU64 (trim (toString n.toNat).toList) = some n
  rw [trim_toString, parseU64_toString]

/-- A negative integer is absent over HTTP. -/
theorem valueInt_number (p : Grpc.NumberDataPoint) :
    ((number p).asInt.bind Json.StringOrNum.asU64).map UInt64.toInt64
      = (int p).filter fun i => 0 ≤ i.toInt := by
  rw [number]
  cases int p with
  | none => rfl
  | some i =>
    rw [Option.map_some, Option.bind_some, asU64_toString, Option.filter_some]
    by_cases hi : 0 ≤ i.toInt
    · simp [hi]
    · simp [hi]

theorem toInt64_eq_zero (n : UInt64) : n.toInt64 = 0 ↔ n = 0 := by
  constructor
  · intro h
    exact congrArg Int64.toUInt64 h
  · rintro rfl
    rfl

/-- A count of zero is absent over HTTP. -/
theorem count_histogram (p : Grpc.HistogramDataPoint) :
    ((histogram p).count.bind Json.StringOrNum.asU64).map UInt64.toInt64
      = (some p.count.toInt64).filter (· != 0) := by
  show ((fixed64 p.count).bind Json.StringOrNum.asU64).map UInt64.toInt64 = _
  rw [asU64_fixed64, Option.filter_some]
  by_cases hcount : p.count = 0
  · simp [hcount]
  · simp [hcount, toInt64_eq_zero]

theorem buckets_histogram (p : Grpc.HistogramDataPoint) :
    (histogram p).bucketCounts.filterMap Json.StringOrNum.asU64 = p.bucketCounts := by
  show (p.bucketCounts.map fun n => Json.StringOrNum.str (toString n.toNat)).filterMap _ = _
  rw [List.filterMap_map]
  refine (List.filterMap_congr fun n _ => ?_).trans List.filterMap_some
  exact asU64_str n

theorem resourceAttrs_context {c : Grpc.PointContext} (h : ContextConverts c) :
    (context c).resourceAttrs = c.resourceAttrs :=
  resourceAttrs_resource h.resource

/-- What the HTTP transport makes of normalized fields: an empty service name, a negative
integer and a count of zero are absent. -/
def overJson (f : MetricFields) : MetricFields where
  receivedAt := f.receivedAt
  time := f.time
  metricName := f.metricName
  metricType := f.metricType
  unit := f.unit
  valueDouble := f.valueDouble
  valueInt := f.valueInt.filter fun i => 0 ≤ i.toInt
  count := f.count.filter (· != 0)
  sum := f.sum
  buckets := f.buckets
  serviceName := f.serviceName.filter (!·.isEmpty)
  scopeName := f.scopeName
  attrs := f.attrs
  resourceAttrs := f.resourceAttrs

/-- The fields over HTTP are those over gRPC, but for what the documents cannot say. -/
theorem fields_context {c : Grpc.PointContext} (h : ContextConverts c) (receivedAt : DateTime) :
    (context c).fields receivedAt = overJson (c.fields receivedAt) := by
  have hresource := resourceAttrs_context h
  have hname : (context c).metric.name.getD "" = c.metric.name := name_metric c.metric
  have hunit : (context c).metric.unit.filter _ = _ := unit_metric c.metric
  have hscope : (context c).scope.bind (·.name) = _ := scopeName_scope c.scope
  cases hp : c.point with
  | number metricType p =>
    -- The point over JSON is the one over gRPC, and so are its attributes.
    have hpoint : (context c).point = .number metricType (number p) := by
      rw [context, hp, point]
    have hattrs : Json.attrsToMap (number p).attributes = Proto.attrsToMap p.attributes := by
      apply attrsToMap_keyValue
      simpa [hp, pointAttributes] using h.point
    simp only [PointContext.fields, Grpc.PointContext.fields, hpoint, hp, hresource, hname, hunit,
      hscope, lookup_single, NumberDataPoint.fields, Grpc.NumberDataPoint.fields, hattrs,
      valueInt_number, overJson]
    simp only [number, nanos_fixed64]
    rfl
  | histogram p =>
    have hpoint : (context c).point = .histogram (histogram p) := by
      rw [context, hp, point]
    have hattrs : Json.attrsToMap (histogram p).attributes = Proto.attrsToMap p.attributes := by
      apply attrsToMap_keyValue
      simpa [hp, pointAttributes] using h.point
    simp only [PointContext.fields, Grpc.PointContext.fields, hpoint, hp, hresource, hname, hunit,
      hscope, lookup_single, HistogramDataPoint.fields, Grpc.HistogramDataPoint.fields, hattrs,
      count_histogram, buckets_histogram, overJson]
    simp only [histogram, nanos_fixed64]
    rfl

/-- The point says nothing that is lost over HTTP. -/
theorem reportsAlike_iff (c : Grpc.PointContext) (receivedAt : DateTime) :
    reportsAlike c.point = true ↔
      (overJson (c.fields receivedAt)).valueInt = (c.fields receivedAt).valueInt ∧
        (overJson (c.fields receivedAt)).count = (c.fields receivedAt).count := by
  obtain ⟨resource?, scope?, m, p⟩ := c
  cases p with
  | number metricType p =>
    obtain ⟨time, value, attributes⟩ := p
    rcases value with _ | (d | i)
    all_goals simp [reportsAlike, int, overJson, Grpc.PointContext.fields,
      Grpc.NumberDataPoint.fields, Option.filter_some]
  | histogram p =>
    simp [reportsAlike, overJson, Grpc.PointContext.fields, Grpc.HistogramDataPoint.fields,
      Option.filter_some, toInt64_eq_zero]

section Assembly

variable [FloatFormat] [Sha256]

/-- What the transports are compared on: when, what and how much. -/
def measured (p : StoredMetricPoint) :
    DateTime × Uuid × MetricType × Option Int64 × Option F64 × Option Int64 × Option F64
      × Option Value :=
  (p.time, p.pointId, p.metricType, p.valueInt, p.valueDouble, p.count, p.sum, p.buckets)

/-- The identifier hashes an absent service name as an empty one, so what the HTTP transport
leaves out is seen on the integer and the count only. -/
theorem measured_overJson_iff (f : MetricFields) :
    measured (assemble (overJson f)) = measured (assemble f) ↔
      (overJson f).valueInt = f.valueInt ∧ (overJson f).count = f.count := by
  constructor
  · intro h
    simp only [measured, assemble, Prod.mk.injEq] at h
    exact ⟨h.2.2.2.1, h.2.2.2.2.2.1⟩
  · rintro ⟨hint, hcount⟩
    have hservice : (f.serviceName.filter (!·.isEmpty)).getD "" = f.serviceName.getD "" := by
      cases f.serviceName with
      | none => rfl
      | some s => by_cases hs : s = "" <;> simp [hs, Option.filter_some]
    have hid : (assemble (overJson f)).pointId = (assemble f).pointId := by
      simp only [assemble, hint, hcount, dedupId, dedupBytes]
      simp only [overJson, hservice]
    rw [measured, measured, hid]
    simp only [assemble, hint, hcount]
    rfl

/-! ## Requests side by side -/

/-- The points that are stored. -/
def kept (req : Grpc.ExportMetricsServiceRequest) (receivedAt : DateTime)
    (window : DateTime × DateTime) (maxRecords : Nat) : List Grpc.PointContext :=
  (req.points.filter fun c => !outsideWindow window (c.fields receivedAt).time).take
    (maxRecords + 1)

/-- The flattening of the canonical document; none when the endpoint refuses it. -/
def overHttp (req : Grpc.ExportMetricsServiceRequest) (receivedAt : DateTime)
    (limits : ValidationLimits) (maxRecords : Nat) : Option (Option MetricsParse) :=
  (ExportMetricsServiceRequest.deserialize (encodeRequest req)).map
    (otlpToMetrics · receivedAt limits maxRecords)

theorem overHttp_eq (req : Grpc.ExportMetricsServiceRequest) (receivedAt : DateTime)
    (limits : ValidationLimits) (maxRecords : Nat) :
    overHttp req receivedAt limits maxRecords =
      if requestReadable req then some (otlpToMetrics (request req) receivedAt limits maxRecords)
      else none := by
  rw [overHttp, deserialize_encodeRequest]
  split <;> rfl

/-- What the transports are compared on, point by point. -/
def MetricsParse.measurements (out : MetricsParse) :
    List (DateTime × Uuid × MetricType × Option Int64 × Option F64 × Option Int64 × Option F64
      × Option Value) :=
  out.stored.map measured

section Comparison

variable {req : Grpc.ExportMetricsServiceRequest}
  (hvalues : ∀ v ∈ values req, ConvertsEqually v)
  (receivedAt : DateTime) (limits : ValidationLimits) (maxRecords : Nat)
include hvalues

theorem measurements_request (window : DateTime × DateTime)
    (hwindow : skewWindow receivedAt limits = some window) :
    (otlpToMetrics (request req) receivedAt limits maxRecords).map MetricsParse.measurements
      = some ((kept req receivedAt window maxRecords).map fun c =>
          measured (assemble (overJson (c.fields receivedAt)))) := by
  have hcontext : ∀ c ∈ req.points, (context c).fields receivedAt
      = overJson (c.fields receivedAt) := by
    intro c hc
    exact fields_context (contextConverts_of_values hvalues hc) receivedAt
  -- The time is the same on both, so the same points are in the window.
  have hfilter : (req.points.map context).filter
        (fun c => !outsideWindow window (c.fields receivedAt).time)
      = (req.points.filter fun c => !outsideWindow window (c.fields receivedAt).time).map
          context := by
    rw [List.filter_map]
    refine congrArg (List.map context) (List.filter_congr fun c hc => ?_)
    rw [Function.comp_apply, hcontext c hc]
    rfl
  rw [otlpToMetrics_eq, points_request, hwindow, Option.map_some, Option.map_some]
  simp only [MetricsParse.measurements, hfilter, ← List.map_take, List.map_map]
  refine congrArg some (List.map_congr_left fun c hc => ?_)
  have hmem := (List.mem_filter.mp (List.mem_of_mem_take hc)).1
  simp only [Function.comp_apply, hcontext c hmem]

/-- The measurements agree exactly when each of the points that are stored reports alike. -/
theorem measurements_request_eq_iff :
    (otlpToMetrics (request req) receivedAt limits maxRecords).map MetricsParse.measurements
        = (Grpc.protoToMetrics req receivedAt limits maxRecords).map MetricsParse.measurements
      ↔ ∀ window, skewWindow receivedAt limits = some window →
          ∀ c ∈ kept req receivedAt window maxRecords, reportsAlike c.point = true := by
  cases hwindow : skewWindow receivedAt limits with
  | none =>
    rw [otlpToMetrics_eq, Grpc.protoToMetrics_eq, hwindow]
    simp
  | some window =>
    rw [measurements_request hvalues receivedAt limits maxRecords window hwindow,
      Grpc.protoToMetrics_eq, hwindow]
    simp only [Option.map_some, Option.some.injEq, MetricsParse.measurements, List.map_map,
      forall_eq']
    rw [← kept, List.map_inj_left]
    refine forall₂_congr fun c _ => ?_
    rw [Function.comp_apply, measured_overJson_iff, reportsAlike_iff c receivedAt]

end Comparison

end Assembly

/-! ## One gauge over both transports -/

/-- A request with one point of a gauge. -/
def gaugeRequest (value : Int64) : Grpc.ExportMetricsServiceRequest where
  resourceMetrics := [{
    resource := none
    scopeMetrics := [{
      scope := none
      metrics := [{
        name := "temperature"
        unit := "Cel"
        data := some (.gauge [{
          timeUnixNano := 1782036000000000000
          value := some (.asInt value)
          attributes := [{ key := "room", value := some (.stringValue "a") }] }]) }] }] }]

def gaugeTime : DateTime := ⟨1782036000000000000⟩

end Datacat.Metrics.Encoding
