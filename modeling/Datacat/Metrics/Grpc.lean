import Datacat.Metrics.Model
import Datacat.Otlp.Proto

/-!
# Metrics over OTLP/gRPC

The protobuf messages of metrics, as far as the service reads them, and their flattening into
stored points.
-/

namespace Datacat.Metrics.Grpc

open Basics Otlp
open Otlp.Proto (KeyValue Resource InstrumentationScope attrsToMap nz)

inductive NumValue where
  | asDouble (d : F64)
  | asInt (i : Int64)

structure NumberDataPoint where
  timeUnixNano : UInt64
  value : Option NumValue
  attributes : List KeyValue

structure HistogramDataPoint where
  timeUnixNano : UInt64
  count : UInt64
  sum : Option F64
  bucketCounts : List UInt64
  explicitBounds : List F64
  attributes : List KeyValue

/-- `metric::Data`. The points of the last two kinds are not read, only their number is kept. -/
inductive Data where
  | gauge (dataPoints : List NumberDataPoint)
  | sum (dataPoints : List NumberDataPoint)
  | histogram (dataPoints : List HistogramDataPoint)
  | exponentialHistogram (dataPoints : Nat)
  | summary (dataPoints : Nat)

structure Metric where
  name : String
  unit : String
  data : Option Data

structure ScopeMetrics where
  scope : Option InstrumentationScope
  metrics : List Metric

structure ResourceMetrics where
  resource : Option Resource
  scopeMetrics : List ScopeMetrics

structure ExportMetricsServiceRequest where
  resourceMetrics : List ResourceMetrics

section Assembly

variable [FloatFormat] [Sha256]

/-- Normalized fields of a gauge or sum point, as `push_number` assembles them. -/
def NumberDataPoint.fields (p : NumberDataPoint) (receivedAt : DateTime) (metricName : String)
    (metricType : MetricType) (unit serviceName scopeName : Option String)
    (resourceAttrs : Map) : MetricFields where
  receivedAt := receivedAt
  time := (nz p.timeUnixNano).getD receivedAt
  metricName := metricName
  metricType := metricType
  unit := unit
  valueDouble :=
    match p.value with
    | some (.asDouble d) => some d
    | _ => none
  valueInt :=
    match p.value with
    | some (.asInt i) => some i
    | _ => none
  count := none
  sum := none
  buckets := none
  serviceName := serviceName
  scopeName := scopeName
  attrs := attrsToMap p.attributes
  resourceAttrs := resourceAttrs

/-- Normalized fields of a histogram point. -/
def HistogramDataPoint.fields (p : HistogramDataPoint) (receivedAt : DateTime)
    (metricName : String) (unit serviceName scopeName : Option String)
    (resourceAttrs : Map) : MetricFields where
  receivedAt := receivedAt
  time := (nz p.timeUnixNano).getD receivedAt
  metricName := metricName
  metricType := .histogram
  unit := unit
  valueDouble := none
  valueInt := none
  count := some p.count.toInt64
  sum := p.sum
  buckets := some (bucketsJson p.explicitBounds p.bucketCounts)
  serviceName := serviceName
  scopeName := scopeName
  attrs := attrsToMap p.attributes
  resourceAttrs := resourceAttrs

/-- Flattens a request, with the bounds of `otlpToMetrics`. -/
def protoToMetrics (req : ExportMetricsServiceRequest) (receivedAt : DateTime)
    (limits : ValidationLimits) (maxRecords : Nat) : Option MetricsParse := do
  let window ← skewWindow receivedAt limits
  return (forEach (fun out rm =>
    let resourceAttrs := (rm.resource.map fun r => attrsToMap r.attributes).getD BTreeMap.empty
    let serviceName := (resourceAttrs.get "service.name").bind Value.asStr
    forEach (fun out sm =>
      let scopeName := (sm.scope.map (·.name)).filter fun s => !s.isEmpty
      forEach (fun out m =>
        if m.name.isEmpty then .next out
        else
          let unit := if m.unit.isEmpty then none else some m.unit
          match m.data with
          | some (.gauge points) =>
            forEach (fun out (p : NumberDataPoint) => pushPoint window maxRecords out
              (p.fields receivedAt m.name .gauge unit serviceName scopeName resourceAttrs))
              points out
          | some (.sum points) =>
            forEach (fun out (p : NumberDataPoint) => pushPoint window maxRecords out
              (p.fields receivedAt m.name .sum unit serviceName scopeName resourceAttrs))
              points out
          | some (.histogram points) =>
            forEach (fun out (p : HistogramDataPoint) => pushPoint window maxRecords out
              (p.fields receivedAt m.name unit serviceName scopeName resourceAttrs))
              points out
          -- summaries and exponential histograms are not stored
          | _ => .next out)
        sm.metrics out) rm.scopeMetrics out)
    req.resourceMetrics { stored := [], droppedSkew := 0 }).state

/-! ## One loop -/

/-- A point of a metric. -/
inductive Point where
  | number (metricType : MetricType) (p : NumberDataPoint)
  | histogram (p : HistogramDataPoint)

/-- Its own time stamp. -/
def Point.ownTime : Point → Option DateTime
  | .number _ p => nz p.timeUnixNano
  | .histogram p => nz p.timeUnixNano

/-- Points in the order they are stored; none when the metric has no name. -/
def Metric.points (m : Metric) : List Point :=
  if m.name.isEmpty then []
  else
    match m.data with
    | some (.gauge points) => points.map (.number .gauge)
    | some (.sum points) => points.map (.number .sum)
    | some (.histogram points) => points.map .histogram
    | _ => []

/-- A point with its metric, its scope and its resource. -/
structure PointContext where
  resource : Option Resource
  scope : Option InstrumentationScope
  metric : Metric
  point : Point

namespace PointContext

def resourceAttrs (c : PointContext) : Map :=
  (c.resource.map fun r => attrsToMap r.attributes).getD BTreeMap.empty

def fields (receivedAt : DateTime) (c : PointContext) : MetricFields :=
  let unit := if c.metric.unit.isEmpty then none else some c.metric.unit
  let serviceName := (c.resourceAttrs.get "service.name").bind Value.asStr
  let scopeName := (c.scope.map (·.name)).filter fun s => !s.isEmpty
  match c.point with
  | .number metricType p =>
    p.fields receivedAt c.metric.name metricType unit serviceName scopeName c.resourceAttrs
  | .histogram p =>
    p.fields receivedAt c.metric.name unit serviceName scopeName c.resourceAttrs

theorem time_fields (receivedAt : DateTime) (c : PointContext) :
    (c.fields receivedAt).time = c.point.ownTime.getD receivedAt := by
  rw [fields]
  cases c.point <;> rfl

end PointContext

/-- All points of a request, in order. -/
def ExportMetricsServiceRequest.points (req : ExportMetricsServiceRequest) : List PointContext :=
  req.resourceMetrics.flatMap fun rm => rm.scopeMetrics.flatMap fun sm =>
    sm.metrics.flatMap fun m => m.points.map fun p =>
      { resource := rm.resource, scope := sm.scope, metric := m, point := p }

theorem protoToMetrics_eq (req : ExportMetricsServiceRequest) (receivedAt : DateTime)
    (limits : ValidationLimits) (maxRecords : Nat) :
    protoToMetrics req receivedAt limits maxRecords =
      (skewWindow receivedAt limits).map fun window =>
        let inWindow (c : PointContext) : Bool := !outsideWindow window (c.fields receivedAt).time
        { stored := ((req.points.filter inWindow).take (maxRecords + 1)).map fun c =>
            assemble (c.fields receivedAt)
          droppedSkew := refused inWindow (maxRecords + 1) req.points } := by
  rw [protoToMetrics]
  cases skewWindow receivedAt limits with
  | none => rfl
  | some window =>
    refine congrArg some (Eq.trans (congrArg Flow.state ?_) (forEach_pushPoint _ _ _ _))
    -- The loops are one over the points of the request.
    rw [ExportMetricsServiceRequest.points, ← forEach_flatMap]
    refine forEach_congr (fun rm _ out => ?_) _
    rw [← forEach_flatMap]
    refine forEach_congr (fun sm _ out => ?_) _
    rw [← forEach_flatMap]
    refine forEach_congr (fun m _ out => ?_) _
    rw [forEach_map, Metric.points]
    by_cases hname : m.name.isEmpty = true
    · -- A metric without a name has no point.
      rw [if_pos hname, if_pos hname]
      rfl
    · rw [if_neg hname, if_neg hname]
      cases m.data with
      | none => rfl
      | some data =>
        cases data with
        | gauge points =>
          show _ = forEach _ (points.map (Point.number .gauge)) out
          rw [forEach_map]
          rfl
        | sum points =>
          show _ = forEach _ (points.map (Point.number .sum)) out
          rw [forEach_map]
          rfl
        | histogram points =>
          show _ = forEach _ (points.map Point.histogram) out
          rw [forEach_map]
          rfl
        | exponentialHistogram => rfl
        | summary => rfl

end Assembly

end Datacat.Metrics.Grpc
