import Datacat.Api.Export

/-!
# The Records of a Request

The records that an export request submits, and what becomes of each: a row to store, or
nothing when it is outside the skew window, without identifiers, or of a metric that is not
read. Points of summaries and exponential histograms are submitted too, though the HTTP types
have no field for them: they are counted in the document.

## Main results

- `Submission`: the records of a request, with the proof that its flattening stores the first
  rows that they give.
-/

namespace Datacat

open Basics

/-- A record becomes a row when it is kept. -/
theorem reduceOption_map_ite {α β : Type} (keep : α → Bool) (build : α → β) (xs : List α) :
    (xs.map fun x => if keep x then some (build x) else none).reduceOption
      = (xs.filter keep).map build := by
  induction xs with
  | nil => rfl
  | cons x xs ih =>
    cases hx : keep x <;> simp [hx, ih]

theorem reduceOption_flatMap {α β : Type} (f : α → List (Option β)) (xs : List α) :
    (xs.flatMap f).reduceOption = xs.flatMap fun x => (f x).reduceOption := by
  induction xs with
  | nil => rfl
  | cons x xs ih => rw [List.flatMap_cons, List.flatMap_cons, List.reduceOption_append, ih]

/-- The records of a group, dropped all together or not at all. -/
def unlessDropped {α : Type} (dropped : Bool) (xs : List α) : List (Option α) :=
  xs.map fun x => if dropped then none else some x

theorem reduceOption_unlessDropped {α : Type} (dropped : Bool) (xs : List α) :
    (unlessDropped dropped xs).reduceOption = if dropped then [] else xs := by
  unfold unlessDropped
  cases dropped with
  | true => exact (congrArg _ (List.map_const' ..)).trans List.reduceOption_replicate_none
  | false => exact (List.filterMap_map ..).trans List.filterMap_some

/-! ## Points -/

namespace Metrics

/-- All points that the types of the HTTP wire hold; none stands for one of a metric without a
name. -/
def Metric.submitted (m : Metric) : List (Option Point) :=
  unlessDropped (m.name.getD "").isEmpty
    (m.numbers.flatMap (fun (numbers : MetricType × List NumberDataPoint) =>
      numbers.2.map (.number numbers.1)) ++ m.histogramPoints.map .histogram)

theorem Metric.reduceOption_submitted (m : Metric) : m.submitted.reduceOption = m.points :=
  reduceOption_unlessDropped ..

/-- The points of a request, with what surrounds them. -/
def ExportMetricsServiceRequest.submitted (req : ExportMetricsServiceRequest) :
    List (Option PointContext) :=
  req.resourceMetrics.flatMap fun rm => rm.scopeMetrics.flatMap fun sm =>
    sm.metrics.flatMap fun m => m.submitted.map fun p => p.map fun p =>
      { resource := rm.resource, scope := sm.scope, metric := m, point := p }

theorem ExportMetricsServiceRequest.reduceOption_submitted (req : ExportMetricsServiceRequest) :
    req.submitted.reduceOption = req.points := by
  unfold submitted points
  simp only [reduceOption_flatMap, List.reduceOption_map, Metric.reduceOption_submitted]

/-- The items of the array that a field of a document holds. -/
def itemsOf (names : List String) (name : String) (doc : Value) : List Value :=
  match (doc.node.fields names).bind fun field => field name with
  | some (.array items) => items
  | _ => []

/-- How many points a metric has under the two kinds that the HTTP types have no field for. -/
def unreadPoints (metric : Value) : Nat :=
  match metric with
  | .object entries =>
    (entries.map fun e =>
      if e.1 = "exponentialHistogram" ∨ e.1 = "summary" then
        (itemsOf ["dataPoints"] "dataPoints" e.2).length
      else 0).sum
  | _ => 0

/-- How many such points a document has. -/
def unread (doc : Value) : Nat :=
  ((itemsOf ["resourceMetrics"] "resourceMetrics" doc).map fun rm =>
    ((itemsOf ["resource", "scopeMetrics"] "scopeMetrics" rm).map fun sm =>
      ((itemsOf ["scope", "metrics"] "metrics" sm).map unreadPoints).sum).sum).sum

/-- All points of a metric; none stands for one of a metric without a name, or of a kind that
is not read. -/
def Grpc.Metric.submitted (m : Grpc.Metric) : List (Option Grpc.Point) :=
  match m.data with
  | some (.gauge points) => unlessDropped m.name.isEmpty (points.map (.number .gauge))
  | some (.sum points) => unlessDropped m.name.isEmpty (points.map (.number .sum))
  | some (.histogram points) => unlessDropped m.name.isEmpty (points.map .histogram)
  | some (.exponentialHistogram points) => List.replicate points none
  | some (.summary points) => List.replicate points none
  | none => []

theorem Grpc.Metric.reduceOption_submitted (m : Grpc.Metric) :
    m.submitted.reduceOption = m.points := by
  unfold submitted points
  cases m.data with
  | none => exact (ite_self []).symm
  | some data =>
    cases data with
    | gauge points | sum points | histogram points => exact reduceOption_unlessDropped ..
    | exponentialHistogram points | summary points =>
      rw [List.reduceOption_replicate_none]
      split <;> rfl

def Grpc.ExportMetricsServiceRequest.submitted (req : Grpc.ExportMetricsServiceRequest) :
    List (Option Grpc.PointContext) :=
  req.resourceMetrics.flatMap fun rm => rm.scopeMetrics.flatMap fun sm =>
    sm.metrics.flatMap fun m => m.submitted.map fun p => p.map fun p =>
      { resource := rm.resource, scope := sm.scope, metric := m, point := p }

theorem Grpc.ExportMetricsServiceRequest.reduceOption_submitted
    (req : Grpc.ExportMetricsServiceRequest) : req.submitted.reduceOption = req.points := by
  unfold submitted points
  simp only [reduceOption_flatMap, List.reduceOption_map, Grpc.Metric.reduceOption_submitted]

end Metrics

/-! ## Submissions -/

namespace Api

open Ingest

/-- What a request submits to a domain: how it is flattened, how many records it has, and the
row that each gives inside a skew window, none for a record that gives no row. -/
structure Submission (d : Signal) where
  flatten : Flattening d
  count : Nat
  rows : DateTime → DateTime × DateTime → List (Option d.Row)
  length_rows : ∀ receivedAt window, (rows receivedAt window).length = count
  /-- The flattening stores the first rows. -/
  flatten_stored : ∀ receivedAt limits maxRecords,
    (flatten receivedAt limits maxRecords).map Flattened.stored =
      (skewWindow receivedAt limits).map fun window =>
        (rows receivedAt window).reduceOption.take (maxRecords + 1)

/-- What a request whose body is read is flattened into. -/
theorem Submission.stored_eq {d : Signal} (submission : Submission d) {receivedAt : DateTime}
    {limits : ValidationLimits} {maxRecords : Nat} {parsed : Flattened d}
    (h : submission.flatten receivedAt limits maxRecords = some parsed) :
    ∃ window, skewWindow receivedAt limits = some window ∧
      parsed.stored = (submission.rows receivedAt window).reduceOption.take (maxRecords + 1) := by
  have hstored := submission.flatten_stored receivedAt limits maxRecords
  rw [h] at hstored
  obtain ⟨window, hwindow, heq⟩ := Option.map_eq_some_iff.mp hstored.symm
  exact ⟨window, hwindow, heq.symm⟩

theorem map_flatten {d : Signal} {R : Type} (submission : R → Submission d) (req : Option R) :
    req.map (fun r => (submission r).flatten) = (req.map submission).map Submission.flatten :=
  (Option.map_map ..).symm

theorem take_filter_map {α β : Type} (keep : α → Bool) (build : α → β) (n : Nat) (xs : List α) :
    ((xs.filter keep).take n).map build =
      (xs.map fun x => if keep x then some (build x) else none).reduceOption.take n := by
  rw [reduceOption_map_ite, List.map_take]

theorem reduceOption_map_bind {α β : Type} (f : α → Option β) (xs : List (Option α)) :
    (xs.map fun x => x.bind f).reduceOption = (xs.reduceOption.map f).reduceOption := by
  induction xs with
  | nil => rfl
  | cons x xs ih =>
    cases x with
    | none => exact ih
    | some a => cases ha : f a <;> simp [ha, ih]

theorem take_identified_map {α β γ : Type} (identify : α → Option β) (keep : β → Bool)
    (build : β → γ) (n : Nat) (xs : List α) :
    (((xs.filterMap identify).filter keep).take n).map build =
      (xs.map fun x => ((identify x).filter keep).map build).reduceOption.take n := by
  rw [List.map_take]
  refine congrArg (List.take n) ?_
  induction xs with
  | nil => rfl
  | cons x xs ih =>
    cases hx : identify x with
    | none => simp [hx, ih]
    | some y => by_cases hy : keep y = true <;> simp [hx, hy, ih, Option.filter_some]

def otlpSpansSubmission (req : Traces.ExportTraceServiceRequest) : Submission .spans where
  flatten := otlpSpans req
  count := req.spans.length
  rows receivedAt window := req.spans.map fun c =>
    (c.identify.filter (·.inWindow window receivedAt)).map (·.stored receivedAt)
  length_rows _ _ := List.length_map ..
  flatten_stored receivedAt limits maxRecords := by
    unfold otlpSpans
    rw [Option.map_map]
    refine (Traces.otlpToSpans_stored req receivedAt limits maxRecords).trans ?_
    refine congrArg (Option.map · _) (funext fun window => ?_)
    exact take_identified_map ..

def protoSpansSubmission (req : Traces.Grpc.ExportTraceServiceRequest) : Submission .spans where
  flatten := protoSpans req
  count := req.spans.length
  rows receivedAt window := req.spans.map fun c =>
    (c.identify.filter (·.inWindow window receivedAt)).map (·.stored receivedAt)
  length_rows _ _ := List.length_map ..
  flatten_stored receivedAt limits maxRecords := by
    unfold protoSpans
    rw [Option.map_map]
    refine (Traces.Grpc.protoToSpans_stored req receivedAt limits maxRecords).trans ?_
    refine congrArg (Option.map · _) (funext fun window => ?_)
    exact take_identified_map ..


section Hashed

variable [FloatFormat] [Sha256]

def otlpLogsSubmission (req : Logs.ExportLogsServiceRequest) : Submission .logs where
  flatten := otlpLogs req
  count := req.records.length
  rows receivedAt window := req.records.map fun c =>
    if c.inWindow window receivedAt then some (c.stored receivedAt) else none
  length_rows _ _ := List.length_map ..
  flatten_stored receivedAt limits maxRecords := by
    unfold otlpLogs
    rw [Logs.otlpToLogs_eq, Option.map_map, Option.map_map]
    refine congrArg (Option.map · _) (funext fun window => ?_)
    exact take_filter_map ..

def protoLogsSubmission (req : Logs.Grpc.ExportLogsServiceRequest) : Submission .logs where
  flatten := protoLogs req
  count := req.records.length
  rows receivedAt window := req.records.map fun c =>
    if c.inWindow window receivedAt then some (c.stored receivedAt) else none
  length_rows _ _ := List.length_map ..
  flatten_stored receivedAt limits maxRecords := by
    unfold protoLogs
    rw [Logs.Grpc.protoToLogs_eq, Option.map_map, Option.map_map]
    refine congrArg (Option.map · _) (funext fun window => ?_)
    exact take_filter_map ..

/-- The rows of a request and of the `unread` points of its document. -/
def otlpPointRows (req : Metrics.ExportMetricsServiceRequest) (unread : Nat)
    (receivedAt : DateTime) (window : DateTime × DateTime) :
    List (Option Metrics.StoredMetricPoint) :=
  (req.submitted.map fun p => p.bind fun c =>
    if !outsideWindow window (c.fields receivedAt).time then
      some (Metrics.assemble (c.fields receivedAt))
    else none) ++ List.replicate unread none

theorem reduceOption_otlpPointRows (req : Metrics.ExportMetricsServiceRequest) (unread : Nat)
    (receivedAt : DateTime) (window : DateTime × DateTime) :
    (otlpPointRows req unread receivedAt window).reduceOption =
      (req.points.map fun c =>
        if !outsideWindow window (c.fields receivedAt).time then
          some (Metrics.assemble (c.fields receivedAt))
        else none).reduceOption := by
  rw [otlpPointRows, List.reduceOption_append, List.reduceOption_replicate_none, List.append_nil,
    reduceOption_map_bind, req.reduceOption_submitted]

/-- `unread` is the number of points that the document has and the request has no field for. -/
def otlpMetricsSubmission (req : Metrics.ExportMetricsServiceRequest) (unread : Nat) :
    Submission .metricPoints where
  flatten := otlpMetrics req
  count := req.submitted.length + unread
  rows := otlpPointRows req unread
  length_rows receivedAt window := by
    show (otlpPointRows req unread receivedAt window).length = _
    rw [otlpPointRows, List.length_append, List.length_map, List.length_replicate]
  flatten_stored receivedAt limits maxRecords := by
    unfold otlpMetrics
    rw [Metrics.otlpToMetrics_eq, Option.map_map, Option.map_map]
    refine congrArg (Option.map · _) (funext fun window => ?_)
    refine Eq.trans ?_ (congrArg (List.take (maxRecords + 1))
      (reduceOption_otlpPointRows req unread receivedAt window).symm)
    exact take_filter_map ..

def protoPointRows (req : Metrics.Grpc.ExportMetricsServiceRequest) (receivedAt : DateTime)
    (window : DateTime × DateTime) : List (Option Metrics.StoredMetricPoint) :=
  req.submitted.map fun p => p.bind fun c =>
    if !outsideWindow window (c.fields receivedAt).time then
      some (Metrics.assemble (c.fields receivedAt))
    else none

theorem reduceOption_protoPointRows (req : Metrics.Grpc.ExportMetricsServiceRequest)
    (receivedAt : DateTime) (window : DateTime × DateTime) :
    (protoPointRows req receivedAt window).reduceOption =
      (req.points.map fun c =>
        if !outsideWindow window (c.fields receivedAt).time then
          some (Metrics.assemble (c.fields receivedAt))
        else none).reduceOption := by
  rw [protoPointRows, reduceOption_map_bind, req.reduceOption_submitted]

def protoMetricsSubmission (req : Metrics.Grpc.ExportMetricsServiceRequest) :
    Submission .metricPoints where
  flatten := protoMetrics req
  count := req.submitted.length
  rows := protoPointRows req
  length_rows _ _ := List.length_map ..
  flatten_stored receivedAt limits maxRecords := by
    unfold protoMetrics
    rw [Metrics.Grpc.protoToMetrics_eq, Option.map_map, Option.map_map]
    refine congrArg (Option.map · _) (funext fun window => ?_)
    refine Eq.trans ?_ (congrArg (List.take (maxRecords + 1))
      (reduceOption_protoPointRows req receivedAt window).symm)
    exact take_filter_map ..

/-- What a request submits, none when its body is not a request. -/
def Export.submission : (e : Export) → Option (Submission e.signal)
  | httpLogs body => (body.bind Logs.ExportLogsServiceRequest.deserialize).map otlpLogsSubmission
  | httpTraces body =>
    (body.bind Traces.ExportTraceServiceRequest.deserialize).map otlpSpansSubmission
  | httpMetrics body =>
    body.bind fun doc => (Metrics.ExportMetricsServiceRequest.deserialize doc).map fun req =>
      otlpMetricsSubmission req (Metrics.unread doc)
  | grpcLogs req => some (protoLogsSubmission req)
  | grpcTraces req => some (protoSpansSubmission req)
  | grpcMetrics req => some (protoMetricsSubmission req)

/-- It is flattened as its handler flattens it. -/
theorem Export.flattening_eq (e : Export) :
    e.flattening = e.submission.map Submission.flatten := by
  cases e with
  | httpLogs body => exact map_flatten otlpLogsSubmission _
  | httpTraces body => exact map_flatten otlpSpansSubmission _
  | httpMetrics body =>
    cases body with
    | none => rfl
    | some doc => exact map_flatten (fun req => otlpMetricsSubmission req (Metrics.unread doc)) _
  | grpcLogs req | grpcTraces req | grpcMetrics req => rfl

end Hashed

end Api

end Datacat
