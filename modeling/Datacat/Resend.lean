import Datacat.Logs.Grpc
import Datacat.Metrics.Grpc
import Datacat.Traces.Grpc

/-!
# Resent Requests

One request, flattened at two instants of reception. A record is stored under a key that
starts with its instant: its own time stamp, or else the reception. The signals and the
transports differ in what a record is and in what else is in the key; what follows from their
common shape is proved once.

## Main results

- `Flattening.keys_eq_iff`: when both flattenings give the same keys.
- `keys_eq_iff_selfTimed`: the same of every endpoint.
-/

namespace Datacat

open Basics Otlp

/-- A flattening of requests into keyed rows: the first records of the window are stored, each
under a key that depends on the reception only where the record has no time stamp. -/
structure Flattening where
  Request : Type
  Key : Type
  /-- A record that can be stored, with its scope and its resource. -/
  Record : Type
  /-- The keys of what is stored. -/
  keys : Request → DateTime → ValidationLimits → Nat → Option (List Key)
  records : Request → List Record
  ownTime : Record → Option DateTime
  key : DateTime → Record → Key
  time : Key → DateTime
  keys_eq : ∀ req receivedAt limits maxRecords,
    keys req receivedAt limits maxRecords = (skewWindow receivedAt limits).map fun window =>
      (((records req).filter fun c =>
        !outsideWindow window ((ownTime c).getD receivedAt)).take (maxRecords + 1)).map
          (key receivedAt)
  time_key : ∀ receivedAt c, time (key receivedAt c) = (ownTime c).getD receivedAt
  key_own : ∀ c, (ownTime c).isSome → ∀ t₁ t₂, key t₁ c = key t₂ c

namespace Flattening

variable (F : Flattening)

/-- Every record is inside the window around the reception. -/
def AllInWindow (req : F.Request) (receivedAt : DateTime) (limits : ValidationLimits) : Prop :=
  ∃ window, skewWindow receivedAt limits = some window ∧
    ∀ c ∈ F.records req, outsideWindow window ((F.ownTime c).getD receivedAt) = false

/-- Every record that is stored has its own time stamp. -/
def SelfTimed (req : F.Request) (maxRecords : Nat) : Prop :=
  ∀ c ∈ (F.records req).take (maxRecords + 1), (F.ownTime c).isSome

theorem keys_of_allInWindow {req : F.Request} {receivedAt : DateTime} {limits : ValidationLimits}
    (h : F.AllInWindow req receivedAt limits) (maxRecords : Nat) :
    F.keys req receivedAt limits maxRecords
      = some (((F.records req).take (maxRecords + 1)).map (F.key receivedAt)) := by
  obtain ⟨window, hwindow, hall⟩ := h
  rw [F.keys_eq, hwindow, Option.map_some, List.filter_eq_self.mpr]
  intro c hc
  rw [hall c hc]
  rfl

/-- The keys at two instants are the same exactly when the instants are, or when no stored
record relies on the reception. -/
theorem keys_eq_iff {req : F.Request} {t₁ t₂ : DateTime} {limits : ValidationLimits}
    (h₁ : F.AllInWindow req t₁ limits) (h₂ : F.AllInWindow req t₂ limits) (maxRecords : Nat) :
    F.keys req t₁ limits maxRecords = F.keys req t₂ limits maxRecords
      ↔ t₁ = t₂ ∨ F.SelfTimed req maxRecords := by
  rw [F.keys_of_allInWindow h₁, F.keys_of_allInWindow h₂, Option.some.injEq, List.map_inj_left]
  constructor
  · intro hkeys
    by_cases hself : F.SelfTimed req maxRecords
    · exact .inr hself
    · left
      simp only [SelfTimed, not_forall] at hself
      obtain ⟨c, hc, hnone⟩ := hself
      -- the key of that record is where the two instants are seen
      have htime := congrArg F.time (hkeys c hc)
      rw [F.time_key, F.time_key, Option.not_isSome_iff_eq_none.mp hnone] at htime
      exact htime
  · rintro (rfl | hself) c hc
    · rfl
    · exact F.key_own c (hself c hc) t₁ t₂

end Flattening

/-! ## The endpoints -/

section Endpoints

variable [FloatFormat] [Sha256]

def httpLogs : Flattening where
  Request := Logs.ExportLogsServiceRequest
  Key := DateTime × Uuid
  Record := Logs.RecordContext
  keys req receivedAt limits maxRecords :=
    (Logs.otlpToLogs req receivedAt limits maxRecords).map (·.stored.map Logs.StoredLog.key)
  records req := req.records
  ownTime c := (Json.nanos c.record.timeUnixNano).or (Json.nanos c.record.observedTimeUnixNano)
  key receivedAt c := (c.stored receivedAt).key
  time := Prod.fst
  keys_eq req receivedAt limits maxRecords := by
    rw [Logs.otlpToLogs_eq, Option.map_map]
    simp only [Function.comp_def, List.map_map]
    rfl
  time_key _ _ := rfl
  key_own c hown t₁ t₂ := by
    obtain ⟨t, ht⟩ := Option.isSome_iff_exists.mp hown
    simp only [Logs.StoredLog.key, Logs.RecordContext.stored, Logs.assembleLog,
      Logs.LogRecord.fields, Logs.LogRecord.logTime, ht, Option.getD_some]

def grpcLogs : Flattening where
  Request := Logs.Grpc.ExportLogsServiceRequest
  Key := DateTime × Uuid
  Record := Logs.Grpc.RecordContext
  keys req receivedAt limits maxRecords :=
    (Logs.Grpc.protoToLogs req receivedAt limits maxRecords).map (·.stored.map Logs.StoredLog.key)
  records req := req.records
  ownTime c := (Proto.nz c.record.timeUnixNano).or (Proto.nz c.record.observedTimeUnixNano)
  key receivedAt c := (c.stored receivedAt).key
  time := Prod.fst
  keys_eq req receivedAt limits maxRecords := by
    rw [Logs.Grpc.protoToLogs_eq, Option.map_map]
    simp only [Function.comp_def, List.map_map]
    rfl
  time_key _ _ := rfl
  key_own c hown t₁ t₂ := by
    obtain ⟨t, ht⟩ := Option.isSome_iff_exists.mp hown
    simp only [Logs.StoredLog.key, Logs.Grpc.RecordContext.stored, Logs.assembleLog,
      Logs.Grpc.LogRecord.fields, Logs.Grpc.LogRecord.logTime, ht, Option.getD_some]

def httpSpans : Flattening where
  Request := Traces.ExportTraceServiceRequest
  Key := DateTime × String × String
  Record := Traces.IdentifiedSpan
  keys req receivedAt limits maxRecords :=
    (Traces.otlpToSpans req receivedAt limits maxRecords).map (·.stored.map Traces.StoredSpan.key)
  records req := req.spans.filterMap Traces.SpanContext.identify
  ownTime c := Json.nanos c.context.span.startTimeUnixNano
  key receivedAt c := (c.stored receivedAt).key
  time := Prod.fst
  keys_eq req receivedAt limits maxRecords := by
    have hstored := congrArg (Option.map (List.map Traces.StoredSpan.key))
      (Traces.otlpToSpans_stored req receivedAt limits maxRecords)
    rw [Option.map_map, Option.map_map] at hstored
    simp only [Function.comp_def, List.map_map] at hstored
    exact hstored
  time_key _ _ := rfl
  key_own c hown t₁ t₂ := by
    obtain ⟨t, ht⟩ := Option.isSome_iff_exists.mp hown
    simp only [Traces.StoredSpan.key, Traces.IdentifiedSpan.stored, Traces.Span.toStored,
      Traces.Span.startTime, ht, Option.getD_some]

def grpcSpans : Flattening where
  Request := Traces.Grpc.ExportTraceServiceRequest
  Key := DateTime × String × String
  Record := Traces.Grpc.IdentifiedSpan
  keys req receivedAt limits maxRecords :=
    (Traces.Grpc.protoToSpans req receivedAt limits maxRecords).map
      (·.stored.map Traces.StoredSpan.key)
  records req := req.spans.filterMap Traces.Grpc.SpanContext.identify
  ownTime c := Proto.nz c.context.span.startTimeUnixNano
  key receivedAt c := (c.stored receivedAt).key
  time := Prod.fst
  keys_eq req receivedAt limits maxRecords := by
    have hstored := congrArg (Option.map (List.map Traces.StoredSpan.key))
      (Traces.Grpc.protoToSpans_stored req receivedAt limits maxRecords)
    rw [Option.map_map, Option.map_map] at hstored
    simp only [Function.comp_def, List.map_map] at hstored
    exact hstored
  time_key _ _ := rfl
  key_own c hown t₁ t₂ := by
    obtain ⟨t, ht⟩ := Option.isSome_iff_exists.mp hown
    simp only [Traces.StoredSpan.key, Traces.Grpc.IdentifiedSpan.stored,
      Traces.Grpc.Span.toStored, Traces.assembleSpan, Traces.Grpc.Span.startTime, ht,
      Option.getD_some]

def httpMetrics : Flattening where
  Request := Metrics.ExportMetricsServiceRequest
  Key := DateTime × Uuid
  Record := Metrics.PointContext
  keys req receivedAt limits maxRecords :=
    (Metrics.otlpToMetrics req receivedAt limits maxRecords).map
      (·.stored.map Metrics.StoredMetricPoint.key)
  records req := req.points
  ownTime c := c.point.ownTime
  key receivedAt c := (Metrics.assemble (c.fields receivedAt)).key
  time := Prod.fst
  keys_eq req receivedAt limits maxRecords := by
    rw [Metrics.otlpToMetrics_eq, Option.map_map]
    simp only [Function.comp_def, List.map_map, Metrics.PointContext.time_fields]
  time_key receivedAt c := c.time_fields receivedAt
  key_own c hown t₁ t₂ := by
    obtain ⟨t, ht⟩ := Option.isSome_iff_exists.mp hown
    obtain ⟨resource, scope, metric, point⟩ := c
    cases point with
    | number metricType p =>
      simp only [Metrics.Point.ownTime] at ht
      simp only [Metrics.StoredMetricPoint.key, Metrics.assemble, Metrics.PointContext.fields,
        Metrics.PointContext.resourceAttrs, Metrics.NumberDataPoint.fields, ht, Option.getD_some]
    | histogram p =>
      simp only [Metrics.Point.ownTime] at ht
      simp only [Metrics.StoredMetricPoint.key, Metrics.assemble, Metrics.PointContext.fields,
        Metrics.PointContext.resourceAttrs, Metrics.HistogramDataPoint.fields, ht, Option.getD_some]

def grpcMetrics : Flattening where
  Request := Metrics.Grpc.ExportMetricsServiceRequest
  Key := DateTime × Uuid
  Record := Metrics.Grpc.PointContext
  keys req receivedAt limits maxRecords :=
    (Metrics.Grpc.protoToMetrics req receivedAt limits maxRecords).map
      (·.stored.map Metrics.StoredMetricPoint.key)
  records req := req.points
  ownTime c := c.point.ownTime
  key receivedAt c := (Metrics.assemble (c.fields receivedAt)).key
  time := Prod.fst
  keys_eq req receivedAt limits maxRecords := by
    rw [Metrics.Grpc.protoToMetrics_eq, Option.map_map]
    simp only [Function.comp_def, List.map_map, Metrics.Grpc.PointContext.time_fields]
  time_key receivedAt c := c.time_fields receivedAt
  key_own c hown t₁ t₂ := by
    obtain ⟨t, ht⟩ := Option.isSome_iff_exists.mp hown
    obtain ⟨resource, scope, metric, point⟩ := c
    cases point with
    | number metricType p =>
      simp only [Metrics.Grpc.Point.ownTime] at ht
      simp only [Metrics.StoredMetricPoint.key, Metrics.assemble, Metrics.Grpc.PointContext.fields,
        Metrics.Grpc.PointContext.resourceAttrs, Metrics.Grpc.NumberDataPoint.fields, ht,
        Option.getD_some]
    | histogram p =>
      simp only [Metrics.Grpc.Point.ownTime] at ht
      simp only [Metrics.StoredMetricPoint.key, Metrics.assemble, Metrics.Grpc.PointContext.fields,
        Metrics.Grpc.PointContext.resourceAttrs, Metrics.Grpc.HistogramDataPoint.fields, ht,
        Option.getD_some]

/-- What the service receives OTLP requests on. -/
inductive Endpoint where
  | httpLogs
  | httpSpans
  | httpMetrics
  | grpcLogs
  | grpcSpans
  | grpcMetrics

def Endpoint.flattening : Endpoint → Flattening
  | .httpLogs => Datacat.httpLogs
  | .httpSpans => Datacat.httpSpans
  | .httpMetrics => Datacat.httpMetrics
  | .grpcLogs => Datacat.grpcLogs
  | .grpcSpans => Datacat.grpcSpans
  | .grpcMetrics => Datacat.grpcMetrics

/-- **Resends**: whatever the signal and the transport, a request that is received twice, with
all its records inside the window each time, is flattened into the same keys exactly when it is
received at one instant, or when every record that is stored has its own time stamp. -/
theorem keys_eq_iff_selfTimed (e : Endpoint) (req : e.flattening.Request) {t₁ t₂ : DateTime}
    (limits : ValidationLimits) (maxRecords : Nat)
    (h₁ : e.flattening.AllInWindow req t₁ limits) (h₂ : e.flattening.AllInWindow req t₂ limits) :
    e.flattening.keys req t₁ limits maxRecords = e.flattening.keys req t₂ limits maxRecords
      ↔ t₁ = t₂ ∨ e.flattening.SelfTimed req maxRecords :=
  e.flattening.keys_eq_iff h₁ h₂ maxRecords

end Endpoints

/-! ## One log, sent twice -/

def pingRecord (timeUnixNano : Option Json.StringOrNum) : Logs.LogRecord where
  timeUnixNano := timeUnixNano
  observedTimeUnixNano := none
  severityNumber := none
  severityText := none
  body := some { Json.AnyValue.empty with stringValue := some "ping" }
  attributes := []
  traceId := none
  spanId := none

def pingRequest (timeUnixNano : Option Json.StringOrNum) : Logs.ExportLogsServiceRequest where
  resourceLogs := [{
    resource := none
    scopeLogs := [{ scope := none, logRecords := [pingRecord timeUnixNano] }] }]

def firstTime : DateTime := ⟨1782036000000000000⟩

def secondTime : DateTime := ⟨1782036005000000000⟩

/-- The logs endpoint, with the standard digest. -/
def standardLogs : Flattening := @httpLogs FloatFormat.ofBits Sha256.standard

theorem pingRequest_inWindow {timeUnixNano : Option Json.StringOrNum} {receivedAt : DateTime}
    (h : (skewWindow receivedAt testLimits).any (fun window =>
      !outsideWindow window ((Json.nanos timeUnixNano).getD receivedAt)) = true) :
    standardLogs.AllInWindow (pingRequest timeUnixNano) receivedAt testLimits := by
  obtain ⟨window, hwindow, hinside⟩ := (Option.any_eq_true _ _).mp h
  refine ⟨window, hwindow, fun c hc => ?_⟩
  have hrecords : standardLogs.records (pingRequest timeUnixNano)
      = [{ resource := none, scope := none, record := pingRecord timeUnixNano }] := rfl
  rw [hrecords] at hc
  obtain rfl := List.mem_singleton.mp hc
  have htime : standardLogs.ownTime
      { resource := none, scope := none, record := pingRecord timeUnixNano }
      = Json.nanos timeUnixNano := by
    show (Json.nanos timeUnixNano).or (Json.nanos none) = Json.nanos timeUnixNano
    exact Option.or_none
  rw [htime]
  simpa using hinside

/-- With its own time stamp, the log has one key. -/
theorem keys_eq_iff_selfTimed_ping :
    standardLogs.keys (pingRequest (some (.str "1782036000000000000"))) firstTime testLimits 2048
      = standardLogs.keys (pingRequest (some (.str "1782036000000000000"))) secondTime testLimits
          2048 := by
  have h₁ := @pingRequest_inWindow (some (.str "1782036000000000000")) firstTime (by decide +kernel)
  have h₂ := @pingRequest_inWindow (some (.str "1782036000000000000")) secondTime
    (by decide +kernel)
  refine (@keys_eq_iff_selfTimed FloatFormat.ofBits Sha256.standard .httpLogs _ _ _ testLimits 2048
    h₁ h₂).mpr (.inr fun c hc => ?_)
  obtain rfl := List.mem_singleton.mp hc
  decide +kernel

/-- Without one, it has another key each time it is received. -/
theorem keys_ne_of_fallback :
    standardLogs.AllInWindow (pingRequest none) firstTime testLimits ∧
      standardLogs.AllInWindow (pingRequest none) secondTime testLimits ∧
      standardLogs.keys (pingRequest none) firstTime testLimits 2048
        ≠ standardLogs.keys (pingRequest none) secondTime testLimits 2048 := by
  have h₁ := @pingRequest_inWindow none firstTime (by decide +kernel)
  have h₂ := @pingRequest_inWindow none secondTime (by decide +kernel)
  refine ⟨h₁, h₂, ?_⟩
  rw [ne_eq, standardLogs.keys_eq_iff h₁ h₂, not_or]
  refine ⟨by decide, fun hself => ?_⟩
  have hrecord := hself { resource := none, scope := none, record := pingRecord none }
    (List.mem_cons_self ..)
  exact absurd hrecord (by decide +kernel)

end Datacat
