import Datacat.Metrics.Grpc
import Datacat.Otlp.Encoding

/-!
# The Canonical OTLP/JSON Encoding of Metrics

The document of a protobuf request, and the HTTP request it is read as. The points of a
summary or of an exponential histogram are under fields that the HTTP types do not have.

## Main results

- `deserialize_encodeRequest`: the documents that the HTTP endpoint accepts are those of the
  requests whose attributes are readable and whose doubles are finite.
-/

namespace Datacat.Metrics.Encoding

open Basics Otlp Otlp.Encoding

/-! ## Documents -/

def double (p : Grpc.NumberDataPoint) : Option F64 :=
  match p.value with
  | some (.asDouble d) => some d
  | _ => none

def int (p : Grpc.NumberDataPoint) : Option Int64 :=
  match p.value with
  | some (.asInt i) => some i
  | _ => none

/-- The field of the `value` oneof that is set is written, at its default too. -/
def encodeNumber (p : Grpc.NumberDataPoint) : Value :=
  .record [
    ("timeUnixNano", encodeFixed64 p.timeUnixNano),
    ("asDouble", (double p).map encodeF64),
    ("asInt", (int p).map encodeI64),
    ("attributes", encodeList (p.attributes.map encodeKeyValue))]

def encodeHistogram (p : Grpc.HistogramDataPoint) : Value :=
  .record [
    ("timeUnixNano", encodeFixed64 p.timeUnixNano),
    ("count", encodeFixed64 p.count),
    ("sum", p.sum.map encodeF64),
    ("bucketCounts", encodeList (p.bucketCounts.map encodeU64)),
    ("explicitBounds", encodeList (p.explicitBounds.map encodeF64)),
    ("attributes", encodeList (p.attributes.map encodeKeyValue))]

def encodeNumbers (points : List Grpc.NumberDataPoint) : Value :=
  .record [("dataPoints", encodeList (points.map encodeNumber))]

def encodeHistograms (points : List Grpc.HistogramDataPoint) : Value :=
  .record [("dataPoints", encodeList (points.map encodeHistogram))]

/-- Points that no reader looks into. -/
def encodeUnread (points : Nat) : Value :=
  .record [("dataPoints", encodeList (List.replicate points (.record [])))]

/-- The field of the `data` oneof. -/
def encodeData : Option Grpc.Data → List (String × Option Value)
  | none => []
  | some (.gauge points) => [("gauge", some (encodeNumbers points))]
  | some (.sum points) => [("sum", some (encodeNumbers points))]
  | some (.histogram points) => [("histogram", some (encodeHistograms points))]
  | some (.exponentialHistogram points) => [("exponentialHistogram", some (encodeUnread points))]
  | some (.summary points) => [("summary", some (encodeUnread points))]

def encodeMetric (m : Grpc.Metric) : Value :=
  .record (("name", encodeText m.name) :: ("unit", encodeText m.unit) :: encodeData m.data)

def encodeScopeMetrics (sm : Grpc.ScopeMetrics) : Value :=
  .record [
    ("scope", sm.scope.map encodeScope),
    ("metrics", encodeList (sm.metrics.map encodeMetric))]

def encodeResourceMetrics (rm : Grpc.ResourceMetrics) : Value :=
  .record [
    ("resource", rm.resource.map encodeResource),
    ("scopeMetrics", encodeList (rm.scopeMetrics.map encodeScopeMetrics))]

def encodeRequest (req : Grpc.ExportMetricsServiceRequest) : Value :=
  .record [("resourceMetrics", encodeList (req.resourceMetrics.map encodeResourceMetrics))]

/-! ## The requests the documents stand for -/

def number (p : Grpc.NumberDataPoint) : NumberDataPoint where
  timeUnixNano := fixed64 p.timeUnixNano
  asDouble := double p
  asInt := (int p).map fun i => .str (toString i.toInt)
  attributes := p.attributes.map keyValue

def histogram (p : Grpc.HistogramDataPoint) : HistogramDataPoint where
  timeUnixNano := fixed64 p.timeUnixNano
  count := fixed64 p.count
  sum := p.sum
  bucketCounts := p.bucketCounts.map fun n => .str (toString n.toNat)
  explicitBounds := p.explicitBounds
  attributes := p.attributes.map keyValue

def numbers (points : List Grpc.NumberDataPoint) : NumberData where
  dataPoints := points.map number

def histograms (points : List Grpc.HistogramDataPoint) : HistogramData where
  dataPoints := points.map histogram

def metric (m : Grpc.Metric) : Metric where
  name := text m.name
  unit := text m.unit
  gauge :=
    match m.data with
    | some (.gauge points) => some (numbers points)
    | _ => none
  sum :=
    match m.data with
    | some (.sum points) => some (numbers points)
    | _ => none
  histogram :=
    match m.data with
    | some (.histogram points) => some (histograms points)
    | _ => none

def scopeMetrics (sm : Grpc.ScopeMetrics) : ScopeMetrics where
  scope := sm.scope.map scope
  metrics := sm.metrics.map metric

def resourceMetrics (rm : Grpc.ResourceMetrics) : ResourceMetrics where
  resource := rm.resource.map resource
  scopeMetrics := rm.scopeMetrics.map scopeMetrics

def request (req : Grpc.ExportMetricsServiceRequest) : ExportMetricsServiceRequest where
  resourceMetrics := req.resourceMetrics.map resourceMetrics

/-! ## Readable requests -/

def numberReadable (p : Grpc.NumberDataPoint) : Bool :=
  (double p).all F64.isFinite && p.attributes.all keyValueReadable

def histogramReadable (p : Grpc.HistogramDataPoint) : Bool :=
  p.sum.all F64.isFinite && p.explicitBounds.all F64.isFinite
    && p.attributes.all keyValueReadable

def dataReadable : Option Grpc.Data → Bool
  | some (.gauge points) | some (.sum points) => points.all numberReadable
  | some (.histogram points) => points.all histogramReadable
  | _ => true

def metricReadable (m : Grpc.Metric) : Bool := dataReadable m.data

def scopeMetricsReadable (sm : Grpc.ScopeMetrics) : Bool := sm.metrics.all metricReadable

def resourceMetricsReadable (rm : Grpc.ResourceMetrics) : Bool :=
  rm.resource.all resourceReadable && rm.scopeMetrics.all scopeMetricsReadable

def requestReadable (req : Grpc.ExportMetricsServiceRequest) : Bool :=
  req.resourceMetrics.all resourceMetricsReadable

/-! ## Reading the documents -/

theorem read_encodeDouble (x : Option F64) :
    defaulted (x.map encodeF64) none (Value.readOption Value.readF64)
      = if x.all F64.isFinite then some x else none := by
  cases x with
  | none => rfl
  | some x =>
    rw [Option.map_some, defaulted_some, readOption_encodeF64]
    rfl

theorem read_encodeInt (i : Option Int64) :
    defaulted (i.map encodeI64) none (Value.readOption Json.StringOrNum.deserialize)
      = some (i.map fun i => .str (toString i.toInt)) := by
  cases i <;> rfl

theorem deserialize_encodeNumber (p : Grpc.NumberDataPoint) :
    NumberDataPoint.deserialize (encodeNumber p)
      = if numberReadable p then some (number p) else none := by
  rw [NumberDataPoint.deserialize, encodeNumber, Value.fields_record (by simp)]
  simp only [Option.bind_eq_bind, Option.bind_some, fieldOf_cons, String.reduceEq, if_false,
    if_true, read_encodeFixed64, read_encodeDouble, read_encodeInt, read_encodeKeyValues,
    bind_readable, Option.pure_def]
  rw [numberReadable]
  simp only [Bool.and_eq_true, ite_and]
  rfl

theorem readVec_bucketCounts (counts : List UInt64) :
    defaulted (encodeList (counts.map encodeU64)) []
        (Value.readVec Json.StringOrNum.deserialize)
      = some (counts.map fun n => .str (toString n.toNat)) := by
  have hcount : ∀ n ∈ counts, Json.StringOrNum.deserialize (encodeU64 n)
      = if (fun _ => true : UInt64 → Bool) n then some (.str (toString n.toNat)) else none :=
    fun _ _ => rfl
  simpa using readVec_encodeList counts hcount

theorem readVec_explicitBounds (bounds : List F64) :
    defaulted (encodeList (bounds.map encodeF64)) [] (Value.readVec Value.readF64)
      = if bounds.all F64.isFinite then some bounds else none := by
  have h := readVec_encodeList bounds fun x _ => readF64_encodeF64 x
  simpa using h

theorem deserialize_encodeHistogram (p : Grpc.HistogramDataPoint) :
    HistogramDataPoint.deserialize (encodeHistogram p)
      = if histogramReadable p then some (histogram p) else none := by
  rw [HistogramDataPoint.deserialize, encodeHistogram, Value.fields_record (by simp)]
  simp only [Option.bind_eq_bind, Option.bind_some, fieldOf_cons, String.reduceEq, if_false,
    if_true, read_encodeFixed64, read_encodeDouble, readVec_bucketCounts, readVec_explicitBounds,
    read_encodeKeyValues, bind_readable, Option.pure_def]
  rw [histogramReadable]
  simp only [Bool.and_eq_true, ite_and]
  rfl

theorem deserialize_encodeNumbers (points : List Grpc.NumberDataPoint) :
    NumberData.deserialize (encodeNumbers points)
      = if points.all numberReadable then some (numbers points) else none := by
  have hpoints := readVec_encodeList points fun p _ => deserialize_encodeNumber p
  rw [NumberData.deserialize, encodeNumbers, Value.fields_record (by simp)]
  simp only [Option.bind_eq_bind, Option.bind_some, fieldOf_cons, if_true, hpoints,
    bind_readable, Option.pure_def]
  rfl

theorem deserialize_encodeHistograms (points : List Grpc.HistogramDataPoint) :
    HistogramData.deserialize (encodeHistograms points)
      = if points.all histogramReadable then some (histograms points) else none := by
  have hpoints := readVec_encodeList points fun p _ => deserialize_encodeHistogram p
  rw [HistogramData.deserialize, encodeHistograms, Value.fields_record (by simp)]
  simp only [Option.bind_eq_bind, Option.bind_some, fieldOf_cons, if_true, hpoints,
    bind_readable, Option.pure_def]
  rfl

theorem readOption_encodeNumbers (points : List Grpc.NumberDataPoint) :
    Value.readOption NumberData.deserialize (encodeNumbers points)
      = if points.all numberReadable then some (some (numbers points)) else none := by
  have hread := Value.readOption_record NumberData.deserialize
    [("dataPoints", encodeList (points.map encodeNumber))]
  rw [encodeNumbers, hread, ← encodeNumbers, deserialize_encodeNumbers]
  split <;> rfl

theorem readOption_encodeHistograms (points : List Grpc.HistogramDataPoint) :
    Value.readOption HistogramData.deserialize (encodeHistograms points)
      = if points.all histogramReadable then some (some (histograms points)) else none := by
  have hread := Value.readOption_record HistogramData.deserialize
    [("dataPoints", encodeList (points.map encodeHistogram))]
  rw [encodeHistograms, hread, ← encodeHistograms, deserialize_encodeHistograms]
  split <;> rfl

theorem deserialize_encodeMetric (m : Grpc.Metric) :
    Metric.deserialize (encodeMetric m)
      = if metricReadable m then some (metric m) else none := by
  obtain ⟨name, unit, data⟩ := m
  have hnodup : ((("name", encodeText name) :: ("unit", encodeText unit)
      :: encodeData data).map Prod.fst).Nodup := by
    rcases data with _ | (_ | _ | _ | _ | _) <;> simp [encodeData]
  rw [Metric.deserialize, encodeMetric, Value.fields_record hnodup]
  simp only [Option.bind_eq_bind, Option.bind_some, fieldOf_cons, String.reduceEq, if_false,
    if_true, read_encodeText, Option.pure_def]
  -- at most one of the three fields is present
  cases data with
  | none => rfl
  | some data =>
    cases data with
    | gauge points =>
      simp only [encodeData, fieldOf_cons, fieldOf_nil, String.reduceEq, if_false, if_true,
        defaulted_some, defaulted_none, readOption_encodeNumbers, bind_readable, Option.bind_some]
      rfl
    | sum points =>
      simp only [encodeData, fieldOf_cons, fieldOf_nil, String.reduceEq, if_false, if_true,
        defaulted_some, defaulted_none, readOption_encodeNumbers, bind_readable, Option.bind_some]
      rfl
    | histogram points =>
      simp only [encodeData, fieldOf_cons, fieldOf_nil, String.reduceEq, if_false, if_true,
        defaulted_some, defaulted_none, readOption_encodeHistograms, bind_readable,
        Option.bind_some]
      rfl
    | exponentialHistogram => rfl
    | summary => rfl

theorem deserialize_encodeScopeMetrics (sm : Grpc.ScopeMetrics) :
    ScopeMetrics.deserialize (encodeScopeMetrics sm)
      = if scopeMetricsReadable sm then some (scopeMetrics sm) else none := by
  have hmetrics := readVec_encodeList sm.metrics fun m _ => deserialize_encodeMetric m
  rw [ScopeMetrics.deserialize, encodeScopeMetrics, Value.fields_record (by simp)]
  simp only [Option.bind_eq_bind, Option.bind_some, fieldOf_cons, String.reduceEq, if_false,
    if_true, read_encodeScope, hmetrics, bind_readable, Option.pure_def]
  rfl

theorem deserialize_encodeResourceMetrics (rm : Grpc.ResourceMetrics) :
    ResourceMetrics.deserialize (encodeResourceMetrics rm)
      = if resourceMetricsReadable rm then some (resourceMetrics rm) else none := by
  have hscopes := readVec_encodeList rm.scopeMetrics
    fun sm _ => deserialize_encodeScopeMetrics sm
  rw [ResourceMetrics.deserialize, encodeResourceMetrics, Value.fields_record (by simp)]
  simp only [Option.bind_eq_bind, Option.bind_some, fieldOf_cons, String.reduceEq, if_false,
    if_true, read_encodeResource, hscopes, bind_readable, Option.pure_def]
  rw [resourceMetricsReadable]
  simp only [Bool.and_eq_true, ite_and]
  rfl

theorem deserialize_encodeRequest (req : Grpc.ExportMetricsServiceRequest) :
    ExportMetricsServiceRequest.deserialize (encodeRequest req)
      = if requestReadable req then some (request req) else none := by
  have hresources := readVec_encodeList req.resourceMetrics
    fun rm _ => deserialize_encodeResourceMetrics rm
  rw [ExportMetricsServiceRequest.deserialize, encodeRequest, Value.fields_record (by simp)]
  simp only [Option.bind_eq_bind, Option.bind_some, fieldOf_cons, if_true, hresources,
    bind_readable, Option.pure_def]
  rfl

end Datacat.Metrics.Encoding
