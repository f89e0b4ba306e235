import Datacat.Basics.Digest
import Datacat.Basics.Flow
import Datacat.Config
import Datacat.Otlp.Common
import Datacat.Otlp.Json

/-!
# Metrics over OTLP/HTTP

The JSON wire format of metrics, the stored data point, and the flattening of a request into
stored points. Gauges and sums carry number points, histograms their own; summaries and
exponential histograms are not read at all.
-/

namespace Datacat.Metrics

open Basics Otlp
open Otlp.Json (KeyValue Resource Scope StringOrNum attrsToMap)

/-! ## Wire format -/

structure NumberDataPoint where
  timeUnixNano : Option StringOrNum
  asDouble : Option F64
  asInt : Option StringOrNum
  attributes : List KeyValue

structure NumberData where
  dataPoints : List NumberDataPoint

structure HistogramDataPoint where
  timeUnixNano : Option StringOrNum
  count : Option StringOrNum
  sum : Option F64
  bucketCounts : List StringOrNum
  explicitBounds : List F64
  attributes : List KeyValue

structure HistogramData where
  dataPoints : List HistogramDataPoint

structure Metric where
  name : Option String
  unit : Option String
  gauge : Option NumberData
  sum : Option NumberData
  histogram : Option HistogramData

structure ScopeMetrics where
  scope : Option Scope
  metrics : List Metric

structure ResourceMetrics where
  resource : Option Resource
  scopeMetrics : List ScopeMetrics

structure ExportMetricsServiceRequest where
  resourceMetrics : List ResourceMetrics

def NumberDataPoint.deserialize (doc : Value) : Option NumberDataPoint := do
  let field ← doc.node.fields ["timeUnixNano", "asDouble", "asInt", "attributes"]
  return {
    timeUnixNano :=
      ← defaulted (field "timeUnixNano") none (Value.readOption StringOrNum.deserialize)
    asDouble := ← defaulted (field "asDouble") none (Value.readOption Value.readF64)
    asInt := ← defaulted (field "asInt") none (Value.readOption StringOrNum.deserialize)
    attributes := ← defaulted (field "attributes") [] (Value.readVec KeyValue.deserialize) }

def NumberData.deserialize (doc : Value) : Option NumberData := do
  let field ← doc.node.fields ["dataPoints"]
  return {
    dataPoints := ← defaulted (field "dataPoints") [] (Value.readVec NumberDataPoint.deserialize) }

def HistogramDataPoint.deserialize (doc : Value) : Option HistogramDataPoint := do
  let field ← doc.node.fields ["timeUnixNano", "count", "sum", "bucketCounts", "explicitBounds",
    "attributes"]
  return {
    timeUnixNano :=
      ← defaulted (field "timeUnixNano") none (Value.readOption StringOrNum.deserialize)
    count := ← defaulted (field "count") none (Value.readOption StringOrNum.deserialize)
    sum := ← defaulted (field "sum") none (Value.readOption Value.readF64)
    bucketCounts := ← defaulted (field "bucketCounts") [] (Value.readVec StringOrNum.deserialize)
    explicitBounds := ← defaulted (field "explicitBounds") [] (Value.readVec Value.readF64)
    attributes := ← defaulted (field "attributes") [] (Value.readVec KeyValue.deserialize) }

def HistogramData.deserialize (doc : Value) : Option HistogramData := do
  let field ← doc.node.fields ["dataPoints"]
  return {
    dataPoints :=
      ← defaulted (field "dataPoints") [] (Value.readVec HistogramDataPoint.deserialize) }

def Metric.deserialize (doc : Value) : Option Metric := do
  let field ← doc.node.fields ["name", "unit", "gauge", "sum", "histogram"]
  return {
    name := ← defaulted (field "name") none (Value.readOption Value.readString)
    unit := ← defaulted (field "unit") none (Value.readOption Value.readString)
    gauge := ← defaulted (field "gauge") none (Value.readOption NumberData.deserialize)
    sum := ← defaulted (field "sum") none (Value.readOption NumberData.deserialize)
    histogram := ← defaulted (field "histogram") none (Value.readOption HistogramData.deserialize) }

def ScopeMetrics.deserialize (doc : Value) : Option ScopeMetrics := do
  let field ← doc.node.fields ["scope", "metrics"]
  return {
    scope := ← defaulted (field "scope") none (Value.readOption Scope.deserialize)
    metrics := ← defaulted (field "metrics") [] (Value.readVec Metric.deserialize) }

def ResourceMetrics.deserialize (doc : Value) : Option ResourceMetrics := do
  let field ← doc.node.fields ["resource", "scopeMetrics"]
  return {
    resource := ← defaulted (field "resource") none (Value.readOption Resource.deserialize)
    scopeMetrics :=
      ← defaulted (field "scopeMetrics") [] (Value.readVec ScopeMetrics.deserialize) }

def ExportMetricsServiceRequest.deserialize (doc : Value) :
    Option ExportMetricsServiceRequest := do
  let field ← doc.node.fields ["resourceMetrics"]
  return {
    resourceMetrics :=
      ← defaulted (field "resourceMetrics") [] (Value.readVec ResourceMetrics.deserialize) }

/-! ## Stored points -/

inductive MetricType where
  | gauge
  | sum
  | histogram
deriving DecidableEq

def MetricType.text : MetricType → String
  | .gauge => "gauge"
  | .sum => "sum"
  | .histogram => "histogram"

structure StoredMetricPoint where
  pointId : Uuid
  time : DateTime
  metricName : String
  metricType : MetricType
  unit : Option String
  valueDouble : Option F64
  valueInt : Option Int64
  count : Option Int64
  sum : Option F64
  /-- `{ "bounds": [...], "counts": [...] }` for a histogram, none for a gauge or a sum. -/
  buckets : Option Value
  serviceName : Option String
  scopeName : Option String
  tenantId : Option String
  actorId : Option String
  sessionId : Option String
  receivedAt : DateTime
  resourceAttributes : Value
  attributes : Value
deriving DecidableEq

/-- The primary key of the table. -/
def StoredMetricPoint.key (p : StoredMetricPoint) : DateTime × Uuid := (p.time, p.pointId)

/-- `approx_content_bytes`: the size of what varies in a point. -/
def StoredMetricPoint.approxContentBytes [FloatFormat] (p : StoredMetricPoint) : Nat :=
  p.metricName.utf8ByteSize + optLen p.unit + optLen p.serviceName + optLen p.scopeName
    + (p.buckets.map jsonByteLen).getD 0 + jsonByteLen p.resourceAttributes
    + jsonByteLen p.attributes

structure MetricsParse where
  stored : List StoredMetricPoint
  droppedSkew : Nat
deriving DecidableEq

/-- Fields of a point once normalized, whatever the transport. -/
structure MetricFields where
  receivedAt : DateTime
  time : DateTime
  metricName : String
  metricType : MetricType
  unit : Option String
  valueDouble : Option F64
  valueInt : Option Int64
  count : Option Int64
  sum : Option F64
  buckets : Option Value
  serviceName : Option String
  scopeName : Option String
  attrs : Map
  resourceAttrs : Map

/-- A double in a JSON text that the program builds: `null` when it is not finite. -/
def doubleJson (x : F64) : Value :=
  match Number.ofF64 x with
  | some n => .number n
  | none => .null

/-- Bounds and counts of a histogram. -/
def bucketsJson (bounds : List F64) (counts : List UInt64) : Value :=
  .ofMap (BTreeMap.ofEntries [
    ("bounds", .array (bounds.map doubleJson)),
    ("counts", .array (counts.map fun n => .number (.ofU64 n)))])

section Assembly

variable [FloatFormat] [Sha256]

/-- The bytes that `dedupId` hashes. -/
def dedupBytes (time : DateTime) (metricName : String) (metricType : MetricType)
    (serviceName : Option String) (valueDouble : Option F64) (valueInt count : Option Int64)
    (sum : Option F64) (buckets : Option Value) (attributes : Value) : List UInt8 :=
  leBytes 8 (time.timestampNanosOpt.getD 0).toUInt64.toNat
    ++ asBytes metricName ++ [0]
    ++ asBytes metricType.text ++ [0]
    ++ asBytes (serviceName.getD "") ++ [0]
    ++ leBytes 8 (valueDouble.getD ⟨0⟩).bits.toNat
    ++ leBytes 8 (valueInt.getD 0).toUInt64.toNat
    ++ leBytes 8 (count.getD 0).toUInt64.toNat
    ++ leBytes 8 (sum.getD ⟨0⟩).bits.toNat
    ++ asBytes ((buckets.map Value.toJsonString).getD "") ++ [0]
    ++ asBytes attributes.toJsonString

/-- Deterministic identifier: a hash of the normalized content. -/
def dedupId (time : DateTime) (metricName : String) (metricType : MetricType)
    (serviceName : Option String) (valueDouble : Option F64) (valueInt count : Option Int64)
    (sum : Option F64) (buckets : Option Value) (attributes : Value) : Uuid :=
  truncatedDigest (dedupBytes time metricName metricType serviceName valueDouble valueInt count
    sum buckets attributes)

/-- Correlation and identifier, shared by both transports. -/
def assemble (f : MetricFields) : StoredMetricPoint :=
  let c := correlate f.attrs f.resourceAttrs
  let attributes := Value.ofMap f.attrs
  { pointId := dedupId f.time f.metricName f.metricType f.serviceName f.valueDouble f.valueInt
      f.count f.sum f.buckets attributes
    time := f.time
    metricName := f.metricName
    metricType := f.metricType
    unit := f.unit
    valueDouble := f.valueDouble
    valueInt := f.valueInt
    count := f.count
    sum := f.sum
    buckets := f.buckets
    serviceName := f.serviceName
    scopeName := f.scopeName
    tenantId := c.tenantId
    actorId := c.actorId
    sessionId := c.sessionId
    receivedAt := f.receivedAt
    resourceAttributes := .ofMap f.resourceAttrs
    attributes := attributes }

/-- Normalized fields of a gauge or sum point. -/
def NumberDataPoint.fields (p : NumberDataPoint) (receivedAt : DateTime) (metricName : String)
    (metricType : MetricType) (unit serviceName scopeName : Option String)
    (resourceAttrs : Map) : MetricFields where
  receivedAt := receivedAt
  time := (Json.nanos p.timeUnixNano).getD receivedAt
  metricName := metricName
  metricType := metricType
  unit := unit
  valueDouble := p.asDouble
  valueInt := (p.asInt.bind StringOrNum.asU64).map UInt64.toInt64
  count := none
  sum := none
  buckets := none
  serviceName := serviceName
  scopeName := scopeName
  attrs := attrsToMap p.attributes
  resourceAttrs := resourceAttrs

/-- Normalized fields of a histogram point. -/
def HistogramDataPoint.fields (p : HistogramDataPoint) (receivedAt : DateTime)
    (metricName : String) (unit serviceName scopeName : Option String)
    (resourceAttrs : Map) : MetricFields where
  receivedAt := receivedAt
  time := (Json.nanos p.timeUnixNano).getD receivedAt
  metricName := metricName
  metricType := .histogram
  unit := unit
  valueDouble := none
  valueInt := none
  count := (p.count.bind StringOrNum.asU64).map UInt64.toInt64
  sum := p.sum
  buckets := some (bucketsJson p.explicitBounds (p.bucketCounts.filterMap StringOrNum.asU64))
  serviceName := serviceName
  scopeName := scopeName
  attrs := attrsToMap p.attributes
  resourceAttrs := resourceAttrs

/-- What the loops do with one point: stop when full, drop it when it is outside the window,
store it otherwise. -/
def pushPoint (window : DateTime × DateTime) (maxRecords : Nat) (out : MetricsParse)
    (f : MetricFields) : Flow MetricsParse :=
  if maxRecords < out.stored.length then .stop out
  else if outsideWindow window f.time then .next { out with droppedSkew := out.droppedSkew + 1 }
  else .next { out with stored := out.stored ++ [assemble f] }

/-- The gauge, then the sum. -/
def Metric.numbers (m : Metric) : List (MetricType × List NumberDataPoint) :=
  (m.gauge.map fun g => (MetricType.gauge, g.dataPoints)).toList
    ++ (m.sum.map fun s => (MetricType.sum, s.dataPoints)).toList

/-- Flattens a request. At most `maxRecords + 1` points are kept, points outside the skew
window are dropped, metrics without a name are skipped. -/
def otlpToMetrics (req : ExportMetricsServiceRequest) (receivedAt : DateTime)
    (limits : ValidationLimits) (maxRecords : Nat) : Option MetricsParse := do
  let window ← skewWindow receivedAt limits
  return (forEach (fun out rm =>
    let resourceAttrs := (rm.resource.map fun r => attrsToMap r.attributes).getD BTreeMap.empty
    let serviceName := lookup resourceAttrs ["service.name"]
    forEach (fun out sm =>
      let scopeName := sm.scope.bind (·.name)
      forEach (fun out m =>
        let name := m.name.getD ""
        if name.isEmpty then .next out
        else
          let unit := m.unit.filter fun u => !u.isEmpty
          (forEach (fun out (numbers : MetricType × List NumberDataPoint) =>
            forEach (fun out (p : NumberDataPoint) => pushPoint window maxRecords out
              (p.fields receivedAt name numbers.1 unit serviceName scopeName resourceAttrs))
              numbers.2 out) m.numbers out).andThen fun out =>
          match m.histogram with
          | none => .next out
          | some h =>
            forEach (fun out (p : HistogramDataPoint) => pushPoint window maxRecords out
              (p.fields receivedAt name unit serviceName scopeName resourceAttrs))
              h.dataPoints out)
        sm.metrics out) rm.scopeMetrics out)
    req.resourceMetrics { stored := [], droppedSkew := 0 }).state

/-! ## One loop -/

/-- A loop over points keeps the first `maxRecords + 1` ones of the window and counts the ones
dropped before. -/
theorem forEach_pushPoint {α : Type} (fields : α → MetricFields) (window : DateTime × DateTime)
    (maxRecords : Nat) (cs : List α) :
    (forEach (fun out c => pushPoint window maxRecords out (fields c)) cs
        { stored := [], droppedSkew := 0 }).state =
      { stored := ((cs.filter fun c => !outsideWindow window (fields c).time).take
          (maxRecords + 1)).map fun c => assemble (fields c)
        droppedSkew :=
          refused (fun c => !outsideWindow window (fields c).time) (maxRecords + 1) cs } := by
  let step (out : MetricsParse) (c : α) : MetricsParse :=
    if outsideWindow window (fields c).time then { out with droppedSkew := out.droppedSkew + 1 }
    else { out with stored := out.stored ++ [assemble (fields c)] }
  have hbody : ∀ c ∈ cs, ∀ out, pushPoint window maxRecords out (fields c)
      = guardedBody (fun out => decide (maxRecords < out.stored.length)) step out c := by
    intro c _ out
    simp only [pushPoint, guardedBody, step, decide_eq_true_eq]
    split_ifs <;> rfl
  -- What is stored and what is counted, as for any guarded loop.
  obtain ⟨hstored, hdropped⟩ := forEach_tally maxRecords MetricsParse.stored
    MetricsParse.droppedSkew (fun out => decide (maxRecords < out.stored.length))
    (fun c => !outsideWindow window (fields c).time) (fun c => assemble (fields c)) step
    (fun _ => rfl)
    (fun _ c h => by simp [step, (Bool.not_eq_true' _).mp h])
    (fun _ c h => by simp [step, (Bool.not_eq_false' ..).mp h]) cs { stored := [], droppedSkew := 0 }
  rw [forEach_congr hbody, MetricsParse.mk.injEq]
  exact ⟨by simpa using hstored, by simpa using hdropped⟩

/-- A point of a metric. -/
inductive Point where
  | number (metricType : MetricType) (p : NumberDataPoint)
  | histogram (p : HistogramDataPoint)

/-- Its own time stamp. -/
def Point.ownTime : Point → Option DateTime
  | .number _ p => Json.nanos p.timeUnixNano
  | .histogram p => Json.nanos p.timeUnixNano

def Metric.histogramPoints (m : Metric) : List HistogramDataPoint :=
  match m.histogram with
  | some h => h.dataPoints
  | none => []

/-- Points in the order they are stored; none when the metric has no name. -/
def Metric.points (m : Metric) : List Point :=
  if (m.name.getD "").isEmpty then []
  else m.numbers.flatMap (fun numbers => numbers.2.map (.number numbers.1))
    ++ m.histogramPoints.map .histogram

/-- A point with its metric, its scope and its resource. -/
structure PointContext where
  resource : Option Resource
  scope : Option Scope
  metric : Metric
  point : Point

namespace PointContext

def resourceAttrs (c : PointContext) : Map :=
  (c.resource.map fun r => attrsToMap r.attributes).getD BTreeMap.empty

def fields (receivedAt : DateTime) (c : PointContext) : MetricFields :=
  match c.point with
  | .number metricType p =>
    p.fields receivedAt (c.metric.name.getD "") metricType
      (c.metric.unit.filter fun u => !u.isEmpty) (lookup c.resourceAttrs ["service.name"])
      (c.scope.bind (·.name)) c.resourceAttrs
  | .histogram p =>
    p.fields receivedAt (c.metric.name.getD "")
      (c.metric.unit.filter fun u => !u.isEmpty) (lookup c.resourceAttrs ["service.name"])
      (c.scope.bind (·.name)) c.resourceAttrs

theorem time_fields (receivedAt : DateTime) (c : PointContext) :
    (c.fields receivedAt).time = c.point.ownTime.getD receivedAt := by
  rw [fields]
  cases c.point <;> rfl

end PointContext

/-- All points of a request, in order. -/
def ExportMetricsServiceRequest.points (req : ExportMetricsServiceRequest) : List PointContext :=
  req.resourceMetrics.flatMap fun rm => rm.scopeMetrics.flatMap fun sm =>
    sm.metrics.flatMap fun m => m.points.map fun p =>
      { resource := rm.resource, scope := sm.scope, metric := m, point := p }

theorem otlpToMetrics_eq (req : ExportMetricsServiceRequest) (receivedAt : DateTime)
    (limits : ValidationLimits) (maxRecords : Nat) :
    otlpToMetrics req receivedAt limits maxRecords =
      (skewWindow receivedAt limits).map fun window =>
        let inWindow (c : PointContext) : Bool := !outsideWindow window (c.fields receivedAt).time
        { stored := ((req.points.filter inWindow).take (maxRecords + 1)).map fun c =>
            assemble (c.fields receivedAt)
          droppedSkew := refused inWindow (maxRecords + 1) req.points } := by
  rw [otlpToMetrics]
  cases skewWindow receivedAt limits with
  | none => rfl
  | some window =>
    refine congrArg some (Eq.trans (congrArg Flow.state ?_) (forEach_pushPoint _ _ _ _))
    -- the nested loops are one loop over the points
    rw [ExportMetricsServiceRequest.points, ← forEach_flatMap]
    refine forEach_congr (fun rm _ out => ?_) _
    rw [← forEach_flatMap]
    refine forEach_congr (fun sm _ out => ?_) _
    rw [← forEach_flatMap]
    refine forEach_congr (fun m _ out => ?_) _
    rw [forEach_map, Metric.points]
    by_cases hname : (m.name.getD "").isEmpty = true
    · simp [hname]
    · rw [if_neg hname, if_neg hname, forEach_append, ← forEach_flatMap, Metric.histogramPoints]
      simp only [forEach_map]
      refine congrArg₂ Flow.andThen rfl (funext fun out => ?_)
      rw [forEach_map]
      cases m.histogram <;> rfl

end Assembly

end Datacat.Metrics
