import Datacat.Events.Model
import Datacat.Ingest.Csv
import Datacat.Logs.Model
import Datacat.Metrics.Model
import Datacat.Traces.Model

/-!
# Rows of the Four Domains

How each kind of stored record is written, and what the database reads back.

## Main results

- `parse_batchText`: whatever the domain, the text of a batch is read as one record for each
  of the batch, whose fields are those of the record in the order of the `COPY` statement.
-/

namespace Datacat

open Basics Ingest

/-! ## Fields -/

def optField (s : Option String) : Csv.Field := (s.map .quoted).getD .null

def tsField (t : Option DateTime) : Csv.Field := (t.map fun t => .bare t.toRfc3339.toList).getD .null

def numField (n : Option Int64) : Csv.Field :=
  (n.map fun n => .bare (toString n.toInt).toList).getD .null

def f64Field (x : Option F64) : Csv.Field := (x.map fun x => .bare x.display).getD .null

section Fields

@[simp] theorem text_bare (w : List Char) : (Csv.Field.bare w).text = w := rfl

@[simp] theorem text_quoted (s : String) : (Csv.Field.quoted s).text = pushCsvQuoted s := rfl

@[simp] theorem text_optField (s : Option String) : (optField s).text = pushCsvOpt s := by
  cases s <;> rfl

@[simp] theorem text_tsField (t : Option DateTime) : (tsField t).text = pushCsvTs t := by
  cases t <;> rfl

@[simp] theorem text_numField (n : Option Int64) : (numField n).text = pushCsvNum n := by
  cases n <;> rfl

@[simp] theorem text_f64Field (x : Option F64) : (f64Field x).text = pushCsvF64 x := by
  cases x <;> rfl

@[simp] theorem value_bare (w : List Char) : (Csv.Field.bare w).value = some (String.ofList w) :=
  rfl

@[simp] theorem value_quoted (s : String) : (Csv.Field.quoted s).value = some s := rfl

@[simp] theorem value_optField (s : Option String) : (optField s).value = s := by
  cases s <;> rfl

@[simp] theorem value_tsField (t : Option DateTime) :
    (tsField t).value = t.map DateTime.toRfc3339 := by
  cases t <;> simp [tsField, Csv.Field.value]

@[simp] theorem value_numField (n : Option Int64) :
    (numField n).value = n.map fun n => toString n.toInt := by
  cases n <;> simp [numField, Csv.Field.value]

@[simp] theorem value_f64Field (x : Option F64) :
    (f64Field x).value = x.map fun x => String.ofList x.display := by
  cases x <;> rfl

/-! ## Texts that are written without quotes -/

@[simp] theorem plain_quoted (s : String) : (Csv.Field.quoted s).Plain := trivial

@[simp] theorem plain_optField (s : Option String) : (optField s).Plain := by
  cases s <;> trivial

/-- The digits of an identifier and its dashes are plain. -/
@[simp] theorem plain_uuid (u : Uuid) : (Csv.Field.bare u.text).Plain := by
  have hdigit : ∀ n, n < 16 → F64.isNumberChar (hexDigit n) = true := by decide
  have hdash : F64.isNumberChar '-' = true := by decide
  have hgroup : ∀ bytes, (hexChars bytes).all F64.isNumberChar = true := by
    intro bytes
    rw [hexChars, List.all_flatMap, List.all_eq_true]
    intro b _
    simp [hdigit _ (Nat.mod_lt b.toNat (by decide : 0 < 16)),
      hdigit (b.toNat / 16) (by have := b.toNat_lt; omega)]
  refine ⟨by simp [Uuid.text], fun c hc => ?_⟩
  apply Csv.isPlain_of_class (p := F64.isNumberChar) (by decide) (by decide) (by decide)
  have hall : u.text.all F64.isNumberChar = true := by
    simp [Uuid.text, hgroup, hdash]
  exact List.all_eq_true.mp hall c hc

@[simp] theorem plain_time (t : DateTime) : (Csv.Field.bare t.toRfc3339.toList).Plain := by
  refine ⟨by simp [DateTime.toRfc3339], fun c hc => ?_⟩
  apply Csv.isPlain_of_class (p := DateTime.isTimeChar) (by decide) (by decide) (by decide)
  exact List.all_eq_true.mp t.toRfc3339_isTimeChar c hc

theorem plain_int (i : Int) : (Csv.Field.bare (toString i).toList).Plain := by
  have hdigits : ∀ n : Nat, (toString n).toList ≠ [] ∧
      ∀ c ∈ (toString n).toList, F64.isNumberChar c = true := by
    intro n
    refine ⟨?_, fun c hc => by simp [F64.isNumberChar, isDigit_of_mem_toString hc]⟩
    rw [show (toString n).toList = Nat.toDigits 10 n from Nat.toList_repr]
    exact Nat.toDigits_ne_nil
  have hall : (toString i).toList ≠ [] ∧
      ∀ c ∈ (toString i).toList, F64.isNumberChar c = true := by
    rcases lt_or_ge i 0 with hneg | hpos
    · rw [toString_of_neg hneg, String.toList_append]
      refine ⟨by simp, fun c hc => ?_⟩
      rcases List.mem_append.mp hc with hc | hc
      · obtain rfl := List.mem_singleton.mp hc
        decide
      · exact (hdigits _).2 c hc
    · rw [toString_of_nonneg hpos]
      exact hdigits _
  refine ⟨hall.1, fun c hc => ?_⟩
  apply Csv.isPlain_of_class (p := F64.isNumberChar) (by decide) (by decide) (by decide)
  exact hall.2 c hc

theorem plain_f64 (x : F64) : (Csv.Field.bare x.display).Plain := by
  refine ⟨x.display_ne_nil, fun c hc => ?_⟩
  apply Csv.isPlain_of_class (p := F64.isNumberChar) (by decide) (by decide) (by decide)
  exact x.display_isNumberChar c hc

@[simp] theorem plain_tsField (t : Option DateTime) : (tsField t).Plain := by
  cases t with
  | none => trivial
  | some t => exact plain_time t

@[simp] theorem plain_numField (n : Option Int64) : (numField n).Plain := by
  cases n with
  | none => trivial
  | some n => exact plain_int n.toInt

@[simp] theorem plain_f64Field (x : Option F64) : (f64Field x).Plain := by
  cases x with
  | none => trivial
  | some x => exact plain_f64 x

end Fields

/-! ## Statements -/

def Events.copyStatement : String :=
  "COPY events_staging (event_id, event_name, tenant_id, actor_id, session_id, "
    ++ "timestamp_client, received_at, properties) FROM STDIN WITH (FORMAT csv)"

theorem copyColumns_events : copyColumns Events.copyStatement = [
    "event_id", "event_name", "tenant_id", "actor_id", "session_id",
    "timestamp_client", "received_at", "properties"] := by
  decide +kernel

def Logs.copyStatement : String :=
  "COPY logs_staging (log_id, log_time, observed_time, received_at, "
    ++ "severity_number, severity_text, body, service_name, scope_name, trace_id, "
    ++ "span_id, tenant_id, actor_id, session_id, resource_attributes, "
    ++ "log_attributes) FROM STDIN WITH (FORMAT csv)"

theorem copyColumns_logs : copyColumns Logs.copyStatement = [
    "log_id", "log_time", "observed_time", "received_at", "severity_number",
    "severity_text", "body", "service_name", "scope_name", "trace_id", "span_id",
    "tenant_id", "actor_id", "session_id", "resource_attributes",
    "log_attributes"] := by
  decide +kernel

def Traces.copyStatement : String :=
  "COPY spans_staging (trace_id, span_id, parent_span_id, start_time, end_time, "
    ++ "duration_ms, name, kind, service_name, scope_name, status_code, "
    ++ "status_message, tenant_id, actor_id, session_id, received_at, "
    ++ "resource_attributes, span_attributes, events, links) FROM STDIN WITH (FORMAT "
    ++ "csv)"

theorem copyColumns_traces : copyColumns Traces.copyStatement = [
    "trace_id", "span_id", "parent_span_id", "start_time", "end_time", "duration_ms",
    "name", "kind", "service_name", "scope_name", "status_code", "status_message",
    "tenant_id", "actor_id", "session_id", "received_at", "resource_attributes",
    "span_attributes", "events", "links"] := by
  decide +kernel

def Metrics.copyStatement : String :=
  "COPY metric_points_staging (point_id, time, metric_name, metric_type, unit, "
    ++ "value_double, value_int, count, sum, buckets, service_name, scope_name, "
    ++ "tenant_id, actor_id, session_id, received_at, resource_attributes, "
    ++ "attributes) FROM STDIN WITH (FORMAT csv)"

theorem copyColumns_metrics : copyColumns Metrics.copyStatement = [
    "point_id", "time", "metric_name", "metric_type", "unit", "value_double",
    "value_int", "count", "sum", "buckets", "service_name", "scope_name", "tenant_id",
    "actor_id", "session_id", "received_at", "resource_attributes", "attributes"] := by
  decide +kernel

/-! ## The four kinds of records -/

section Records

variable [FloatFormat]

/-! ### Events -/

/-- A field as the database reads it. -/
def Events.StoredEvent.column (e : Events.StoredEvent) : String → Option String
  | "event_id" => some (String.ofList e.eventId.text)
  | "event_name" => some e.eventName
  | "tenant_id" => e.tenantId
  | "actor_id" => some e.actorId
  | "session_id" => some e.sessionId
  | "timestamp_client" => some e.timestampClient.toRfc3339
  | "received_at" => some e.receivedAt.toRfc3339
  | "properties" => some e.properties.toJsonString
  | _ => none

/-- The values of a row, in the order of the columns. -/
theorem Events.StoredEvent.map_column (e : Events.StoredEvent) :
    (copyColumns Events.copyStatement).map e.column = [
      some (String.ofList e.eventId.text),
      some e.eventName,
      e.tenantId,
      some e.actorId,
      some e.sessionId,
      some e.timestampClient.toRfc3339,
      some e.receivedAt.toRfc3339,
      some e.properties.toJsonString] := by
  rw [copyColumns_events]
  rfl

instance : Ingestable Events.StoredEvent where
  copyStatement := Events.copyStatement
  ensurePartitionsStatement := "SELECT datacat_ensure_partitions_for_staging()"
  mergeStatement := "SELECT datacat_merge_staging()"
  stagingTable := "events_staging"
  label := "events"
  writeCsvRow e :=
    e.eventId.text
      ++ [','] ++ pushCsvQuoted e.eventName
      ++ [','] ++ pushCsvOpt e.tenantId
      ++ [','] ++ pushCsvQuoted e.actorId
      ++ [','] ++ pushCsvQuoted e.sessionId
      ++ [','] ++ e.timestampClient.toRfc3339.toList
      ++ [','] ++ e.receivedAt.toRfc3339.toList
      ++ [','] ++ pushCsvQuoted e.properties.toJsonString
      ++ ['\n']

instance : Columns Events.StoredEvent where
  fields e := [
    .bare e.eventId.text,
    .quoted e.eventName,
    optField e.tenantId,
    .quoted e.actorId,
    .quoted e.sessionId,
    .bare e.timestampClient.toRfc3339.toList,
    .bare e.receivedAt.toRfc3339.toList,
    .quoted e.properties.toJsonString]
  column := Events.StoredEvent.column
  writeCsvRow_eq e := by simp [Ingestable.writeCsvRow, Csv.row]
  plain e := by simp
  fields_ne_nil _ := List.cons_ne_nil _ _
  value_fields e := by
    show _ = (copyColumns Events.copyStatement).map e.column
    rw [e.map_column]
    simp

/-! ### Logs -/

/-- A field as the database reads it. -/
def Logs.StoredLog.column (l : Logs.StoredLog) : String → Option String
  | "log_id" => some (String.ofList l.logId.text)
  | "log_time" => some l.logTime.toRfc3339
  | "observed_time" => l.observedTime.map DateTime.toRfc3339
  | "received_at" => some l.receivedAt.toRfc3339
  | "severity_number" => l.severityNumber.map fun n => toString n.toInt
  | "severity_text" => l.severityText
  | "body" => l.body
  | "service_name" => l.serviceName
  | "scope_name" => l.scopeName
  | "trace_id" => l.traceId
  | "span_id" => l.spanId
  | "tenant_id" => l.tenantId
  | "actor_id" => l.actorId
  | "session_id" => l.sessionId
  | "resource_attributes" => some l.resourceAttributes.toJsonString
  | "log_attributes" => some l.logAttributes.toJsonString
  | _ => none

/-- The values of a row, in the order of the columns. -/
theorem Logs.StoredLog.map_column (l : Logs.StoredLog) :
    (copyColumns Logs.copyStatement).map l.column = [
      some (String.ofList l.logId.text),
      some l.logTime.toRfc3339,
      l.observedTime.map DateTime.toRfc3339,
      some l.receivedAt.toRfc3339,
      l.severityNumber.map fun n => toString n.toInt,
      l.severityText,
      l.body,
      l.serviceName,
      l.scopeName,
      l.traceId,
      l.spanId,
      l.tenantId,
      l.actorId,
      l.sessionId,
      some l.resourceAttributes.toJsonString,
      some l.logAttributes.toJsonString] := by
  rw [copyColumns_logs]
  rfl

instance : Ingestable Logs.StoredLog where
  copyStatement := Logs.copyStatement
  ensurePartitionsStatement := "SELECT datacat_ensure_log_partitions_for_staging()"
  mergeStatement := "SELECT datacat_merge_log_staging()"
  stagingTable := "logs_staging"
  label := "logs"
  writeCsvRow l :=
    l.logId.text
      ++ [','] ++ l.logTime.toRfc3339.toList
      ++ [','] ++ pushCsvTs l.observedTime
      ++ [','] ++ l.receivedAt.toRfc3339.toList
      ++ [','] ++ pushCsvNum (l.severityNumber.map Int16.toInt64)
      ++ [','] ++ pushCsvOpt l.severityText
      ++ [','] ++ pushCsvOpt l.body
      ++ [','] ++ pushCsvOpt l.serviceName
      ++ [','] ++ pushCsvOpt l.scopeName
      ++ [','] ++ pushCsvOpt l.traceId
      ++ [','] ++ pushCsvOpt l.spanId
      ++ [','] ++ pushCsvOpt l.tenantId
      ++ [','] ++ pushCsvOpt l.actorId
      ++ [','] ++ pushCsvOpt l.sessionId
      ++ [','] ++ pushCsvQuoted l.resourceAttributes.toJsonString
      ++ [','] ++ pushCsvQuoted l.logAttributes.toJsonString
      ++ ['\n']

instance : Columns Logs.StoredLog where
  fields l := [
    .bare l.logId.text,
    .bare l.logTime.toRfc3339.toList,
    tsField l.observedTime,
    .bare l.receivedAt.toRfc3339.toList,
    numField (l.severityNumber.map Int16.toInt64),
    optField l.severityText,
    optField l.body,
    optField l.serviceName,
    optField l.scopeName,
    optField l.traceId,
    optField l.spanId,
    optField l.tenantId,
    optField l.actorId,
    optField l.sessionId,
    .quoted l.resourceAttributes.toJsonString,
    .quoted l.logAttributes.toJsonString]
  column := Logs.StoredLog.column
  writeCsvRow_eq l := by simp [Ingestable.writeCsvRow, Csv.row]
  plain l := by simp
  fields_ne_nil _ := List.cons_ne_nil _ _
  value_fields l := by
    show _ = (copyColumns Logs.copyStatement).map l.column
    rw [l.map_column]
    simp [Function.comp_def]

/-! ### Spans -/

/-- A field as the database reads it. -/
def Traces.StoredSpan.column (s : Traces.StoredSpan) : String → Option String
  | "trace_id" => some s.traceId
  | "span_id" => some s.spanId
  | "parent_span_id" => s.parentSpanId
  | "start_time" => some s.startTime.toRfc3339
  | "end_time" => s.endTime.map DateTime.toRfc3339
  | "duration_ms" => s.durationMs.map fun x => String.ofList x.display
  | "name" => some s.name
  | "kind" => s.kind.map fun n => toString n.toInt
  | "service_name" => s.serviceName
  | "scope_name" => s.scopeName
  | "status_code" => s.statusCode.map fun n => toString n.toInt
  | "status_message" => s.statusMessage
  | "tenant_id" => s.tenantId
  | "actor_id" => s.actorId
  | "session_id" => s.sessionId
  | "received_at" => some s.receivedAt.toRfc3339
  | "resource_attributes" => some s.resourceAttributes.toJsonString
  | "span_attributes" => some s.spanAttributes.toJsonString
  | "events" => some s.events.toJsonString
  | "links" => some s.links.toJsonString
  | _ => none

/-- The values of a row, in the order of the columns. -/
theorem Traces.StoredSpan.map_column (s : Traces.StoredSpan) :
    (copyColumns Traces.copyStatement).map s.column = [
      some s.traceId,
      some s.spanId,
      s.parentSpanId,
      some s.startTime.toRfc3339,
      s.endTime.map DateTime.toRfc3339,
      s.durationMs.map fun x => String.ofList x.display,
      some s.name,
      s.kind.map fun n => toString n.toInt,
      s.serviceName,
      s.scopeName,
      s.statusCode.map fun n => toString n.toInt,
      s.statusMessage,
      s.tenantId,
      s.actorId,
      s.sessionId,
      some s.receivedAt.toRfc3339,
      some s.resourceAttributes.toJsonString,
      some s.spanAttributes.toJsonString,
      some s.events.toJsonString,
      some s.links.toJsonString] := by
  rw [copyColumns_traces]
  rfl

instance : Ingestable Traces.StoredSpan where
  copyStatement := Traces.copyStatement
  ensurePartitionsStatement := "SELECT datacat_ensure_span_partitions_for_staging()"
  mergeStatement := "SELECT datacat_merge_span_staging()"
  stagingTable := "spans_staging"
  label := "traces"
  writeCsvRow s :=
    pushCsvQuoted s.traceId
      ++ [','] ++ pushCsvQuoted s.spanId
      ++ [','] ++ pushCsvOpt s.parentSpanId
      ++ [','] ++ s.startTime.toRfc3339.toList
      ++ [','] ++ pushCsvTs s.endTime
      ++ [','] ++ pushCsvF64 s.durationMs
      ++ [','] ++ pushCsvQuoted s.name
      ++ [','] ++ pushCsvNum (s.kind.map Int16.toInt64)
      ++ [','] ++ pushCsvOpt s.serviceName
      ++ [','] ++ pushCsvOpt s.scopeName
      ++ [','] ++ pushCsvNum (s.statusCode.map Int16.toInt64)
      ++ [','] ++ pushCsvOpt s.statusMessage
      ++ [','] ++ pushCsvOpt s.tenantId
      ++ [','] ++ pushCsvOpt s.actorId
      ++ [','] ++ pushCsvOpt s.sessionId
      ++ [','] ++ s.receivedAt.toRfc3339.toList
      ++ [','] ++ pushCsvQuoted s.resourceAttributes.toJsonString
      ++ [','] ++ pushCsvQuoted s.spanAttributes.toJsonString
      ++ [','] ++ pushCsvQuoted s.events.toJsonString
      ++ [','] ++ pushCsvQuoted s.links.toJsonString
      ++ ['\n']

instance : Columns Traces.StoredSpan where
  fields s := [
    .quoted s.traceId,
    .quoted s.spanId,
    optField s.parentSpanId,
    .bare s.startTime.toRfc3339.toList,
    tsField s.endTime,
    f64Field s.durationMs,
    .quoted s.name,
    numField (s.kind.map Int16.toInt64),
    optField s.serviceName,
    optField s.scopeName,
    numField (s.statusCode.map Int16.toInt64),
    optField s.statusMessage,
    optField s.tenantId,
    optField s.actorId,
    optField s.sessionId,
    .bare s.receivedAt.toRfc3339.toList,
    .quoted s.resourceAttributes.toJsonString,
    .quoted s.spanAttributes.toJsonString,
    .quoted s.events.toJsonString,
    .quoted s.links.toJsonString]
  column := Traces.StoredSpan.column
  writeCsvRow_eq s := by simp [Ingestable.writeCsvRow, Csv.row]
  plain s := by simp
  fields_ne_nil _ := List.cons_ne_nil _ _
  value_fields s := by
    show _ = (copyColumns Traces.copyStatement).map s.column
    rw [s.map_column]
    simp [Function.comp_def]

/-! ### Data points -/

/-- A field as the database reads it. -/
def Metrics.StoredMetricPoint.column (p : Metrics.StoredMetricPoint) : String → Option String
  | "point_id" => some (String.ofList p.pointId.text)
  | "time" => some p.time.toRfc3339
  | "metric_name" => some p.metricName
  | "metric_type" => some p.metricType.text
  | "unit" => p.unit
  | "value_double" => p.valueDouble.map fun x => String.ofList x.display
  | "value_int" => p.valueInt.map fun n => toString n.toInt
  | "count" => p.count.map fun n => toString n.toInt
  | "sum" => p.sum.map fun x => String.ofList x.display
  | "buckets" => p.buckets.map Value.toJsonString
  | "service_name" => p.serviceName
  | "scope_name" => p.scopeName
  | "tenant_id" => p.tenantId
  | "actor_id" => p.actorId
  | "session_id" => p.sessionId
  | "received_at" => some p.receivedAt.toRfc3339
  | "resource_attributes" => some p.resourceAttributes.toJsonString
  | "attributes" => some p.attributes.toJsonString
  | _ => none

/-- The values of a row, in the order of the columns. -/
theorem Metrics.StoredMetricPoint.map_column (p : Metrics.StoredMetricPoint) :
    (copyColumns Metrics.copyStatement).map p.column = [
      some (String.ofList p.pointId.text),
      some p.time.toRfc3339,
      some p.metricName,
      some p.metricType.text,
      p.unit,
      p.valueDouble.map fun x => String.ofList x.display,
      p.valueInt.map fun n => toString n.toInt,
      p.count.map fun n => toString n.toInt,
      p.sum.map fun x => String.ofList x.display,
      p.buckets.map Value.toJsonString,
      p.serviceName,
      p.scopeName,
      p.tenantId,
      p.actorId,
      p.sessionId,
      some p.receivedAt.toRfc3339,
      some p.resourceAttributes.toJsonString,
      some p.attributes.toJsonString] := by
  rw [copyColumns_metrics]
  rfl

instance : Ingestable Metrics.StoredMetricPoint where
  copyStatement := Metrics.copyStatement
  ensurePartitionsStatement := "SELECT datacat_ensure_metric_partitions_for_staging()"
  mergeStatement := "SELECT datacat_merge_metric_staging()"
  stagingTable := "metric_points_staging"
  label := "metrics"
  writeCsvRow p :=
    p.pointId.text
      ++ [','] ++ p.time.toRfc3339.toList
      ++ [','] ++ pushCsvQuoted p.metricName
      ++ [','] ++ pushCsvQuoted p.metricType.text
      ++ [','] ++ pushCsvOpt p.unit
      ++ [','] ++ pushCsvF64 p.valueDouble
      ++ [','] ++ pushCsvNum p.valueInt
      ++ [','] ++ pushCsvNum p.count
      ++ [','] ++ pushCsvF64 p.sum
      ++ [','] ++ pushCsvOpt (p.buckets.map Value.toJsonString)
      ++ [','] ++ pushCsvOpt p.serviceName
      ++ [','] ++ pushCsvOpt p.scopeName
      ++ [','] ++ pushCsvOpt p.tenantId
      ++ [','] ++ pushCsvOpt p.actorId
      ++ [','] ++ pushCsvOpt p.sessionId
      ++ [','] ++ p.receivedAt.toRfc3339.toList
      ++ [','] ++ pushCsvQuoted p.resourceAttributes.toJsonString
      ++ [','] ++ pushCsvQuoted p.attributes.toJsonString
      ++ ['\n']

instance : Columns Metrics.StoredMetricPoint where
  fields p := [
    .bare p.pointId.text,
    .bare p.time.toRfc3339.toList,
    .quoted p.metricName,
    .quoted p.metricType.text,
    optField p.unit,
    f64Field p.valueDouble,
    numField p.valueInt,
    numField p.count,
    f64Field p.sum,
    optField (p.buckets.map Value.toJsonString),
    optField p.serviceName,
    optField p.scopeName,
    optField p.tenantId,
    optField p.actorId,
    optField p.sessionId,
    .bare p.receivedAt.toRfc3339.toList,
    .quoted p.resourceAttributes.toJsonString,
    .quoted p.attributes.toJsonString]
  column := Metrics.StoredMetricPoint.column
  writeCsvRow_eq p := by simp [Ingestable.writeCsvRow, Csv.row]
  plain p := by simp
  fields_ne_nil _ := List.cons_ne_nil _ _
  value_fields p := by
    show _ = (copyColumns Metrics.copyStatement).map p.column
    rw [p.map_column]
    simp

/-! ## All domains -/

/-- A kind of records, with its own staging table, batcher and target table. -/
inductive Domain where
  | events
  | logs
  | traces
  | metrics

/-- What a domain stores. -/
def Domain.Row : Domain → Type
  | .events => Events.StoredEvent
  | .logs => Logs.StoredLog
  | .traces => Traces.StoredSpan
  | .metrics => Metrics.StoredMetricPoint

instance (d : Domain) : Columns d.Row :=
  match d with
  | .events => inferInstanceAs (Columns Events.StoredEvent)
  | .logs => inferInstanceAs (Columns Logs.StoredLog)
  | .traces => inferInstanceAs (Columns Traces.StoredSpan)
  | .metrics => inferInstanceAs (Columns Metrics.StoredMetricPoint)

/-- **Round trip of a batch**: one record for each of the batch, in order, whose fields are
those of the record in the order of the columns of the `COPY` statement. An absent text is
NULL and an empty one is empty; quotes, commas, line ends and backslashes come back. -/
theorem parse_batchText (d : Domain) (buf : List d.Row) :
    Csv.parse (batchText buf) =
      some (buf.map fun r =>
        (copyColumns (Ingestable.copyStatement d.Row)).map (Columns.column r)) :=
  parse_batch buf

end Records

end Datacat
