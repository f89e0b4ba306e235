import Datacat.Ingest.Rows
import Datacat.Otlp.Json

/-!
# What the Database Accepts

A batch is copied and merged as a whole: one row that the database refuses loses the batch. It
refuses U+0000 in a text, the escape of U+0000 in a JSON text, and a text too long for the index it
is a key of. The validators look at none of them.

## Main results

- `copyAndMerge_iff`: a batch goes through exactly when each of its rows does.
- `storable_events`, `storable_logs`, `storable_traces`, `storable_metrics`: which values a row
  must have.
-/

namespace Datacat

open Basics Ingest

/-! ## Columns -/

inductive ColumnType where
  | text
  | indexedText
  | jsonb
  | other
deriving DecidableEq

def Events.columnType : String → ColumnType
  | "event_name" | "tenant_id" | "actor_id" | "session_id" => .text
  | "properties" => .jsonb
  | _ => .other

def Logs.columnType : String → ColumnType
  | "severity_text" | "body" | "service_name" | "scope_name" | "trace_id" | "span_id"
  | "tenant_id" | "actor_id" | "session_id" => .text
  | "resource_attributes" | "log_attributes" => .jsonb
  | _ => .other

def Traces.columnType : String → ColumnType
  | "trace_id" | "span_id" => .indexedText
  | "parent_span_id" | "name" | "service_name" | "scope_name" | "status_message" | "tenant_id"
  | "actor_id" | "session_id" => .text
  | "resource_attributes" | "span_attributes" | "events" | "links" => .jsonb
  | _ => .other

def Metrics.columnType : String → ColumnType
  | "metric_name" => .indexedText
  | "metric_type" | "unit" | "service_name" | "scope_name" | "tenant_id" | "actor_id"
  | "session_id" => .text
  | "buckets" | "resource_attributes" | "attributes" => .jsonb
  | _ => .other

/-- The types of the columns, from the definitions of the tables. -/
def Domain.columnType : Domain → String → ColumnType
  | .events => Events.columnType
  | .logs => Logs.columnType
  | .traces => Traces.columnType
  | .metrics => Metrics.columnType

/-- The text can be stored. -/
def Plain (s : String) : Prop := hasNul s = false

/-- The text can be stored and be a key of an index of keys of `maxKey` bytes at most. -/
def PlainKey (maxKey : Nat) (s : String) : Prop := hasNul s = false ∧ s.utf8ByteSize ≤ maxKey

/-- The database accepts the value of a column. -/
def ColumnType.Accepts (maxKey : Nat) : ColumnType → Option String → Prop
  | .text, value => ∀ s ∈ value, Plain s
  | .indexedText, value => ∀ s ∈ value, PlainKey maxKey s
  | .jsonb, value => ∀ s ∈ value, hasNulEscape s.toList = false
  | .other, _ => True

/-- The columns of the rows that are copied. -/
def Domain.columns [FloatFormat] (d : Domain) : List String :=
  copyColumns (Ingestable.copyStatement d.Row)

/-- The database accepts a row of values. -/
def AcceptsRow [FloatFormat] (maxKey : Nat) (d : Domain) (values : List (Option String)) : Prop :=
  ∀ x ∈ d.columns.zip values, (d.columnType x.1).Accepts maxKey x.2

/-- `COPY` and merge of the text of a batch, all or nothing. -/
def CopyAndMerge [FloatFormat] (maxKey : Nat) (d : Domain) (text : List Char) : Prop :=
  ∃ rows, Csv.parse text = some rows ∧ ∀ values ∈ rows, AcceptsRow maxKey d values

/-- The row of a record can be copied and merged. -/
def Storable [FloatFormat] (maxKey : Nat) (d : Domain) (r : d.Row) : Prop :=
  ∀ c ∈ d.columns, (d.columnType c).Accepts maxKey (Columns.column r c)

section Batches

variable [FloatFormat] {maxKey : Nat} {d : Domain}

theorem acceptsRow_iff (r : d.Row) :
    AcceptsRow maxKey d (d.columns.map (Columns.column r)) ↔ Storable maxKey d r := by
  unfold AcceptsRow Storable
  rw [← List.map_prod_left_eq_zip]
  constructor
  · intro h c hc
    exact h (c, Columns.column r c) (List.mem_map.mpr ⟨c, hc, rfl⟩)
  · intro h x hx
    obtain ⟨c, hc, rfl⟩ := List.mem_map.mp hx
    exact h c hc

/-- A batch goes through when each of its rows does. -/
theorem copyAndMerge_iff (buf : List d.Row) :
    CopyAndMerge maxKey d (batchText buf) ↔ ∀ r ∈ buf, Storable maxKey d r := by
  unfold CopyAndMerge
  rw [parse_batchText]
  constructor
  · rintro ⟨rows, hrows, hall⟩ r hr
    obtain rfl := Option.some.inj hrows
    exact (acceptsRow_iff r).mp (hall _ (List.mem_map_of_mem hr))
  · intro h
    refine ⟨_, rfl, fun values hvalues => ?_⟩
    obtain ⟨r, hr, rfl⟩ := List.mem_map.mp hvalues
    exact (acceptsRow_iff r).mpr (h r hr)

/-- The text of a JSON value is accepted when no string or key of the value holds U+0000. -/
theorem accepts_json [LawfulFloatFormat] (v : Value) :
    hasNulEscape v.toJsonString.toList = false ↔ v.hasNul = false := by
  have htext := Value.hasNulEscape_text v []
  rw [List.append_nil] at htext
  rw [Value.toJsonString, String.toList_ofList, htext]
  simp [hasNulEscape]

/-! ## The four kinds of rows -/

theorem storable_events [LawfulFloatFormat] (e : Events.StoredEvent) :
    Storable maxKey .events e ↔
      Plain e.eventName ∧ (∀ s ∈ e.tenantId, Plain s) ∧ Plain e.actorId ∧ Plain e.sessionId ∧
        e.properties.hasNul = false := by
  unfold Storable
  rw [Domain.columns]
  show (∀ c ∈ copyColumns Events.copyStatement,
    (Events.columnType c).Accepts maxKey (e.column c)) ↔ _
  rw [copyColumns_events]
  simp [Events.columnType, ColumnType.Accepts, Events.StoredEvent.column, accepts_json]

theorem storable_logs [LawfulFloatFormat] (l : Logs.StoredLog) :
    Storable maxKey .logs l ↔
      (∀ s ∈ l.severityText, Plain s) ∧ (∀ s ∈ l.body, Plain s) ∧
        (∀ s ∈ l.serviceName, Plain s) ∧ (∀ s ∈ l.scopeName, Plain s) ∧
        (∀ s ∈ l.traceId, Plain s) ∧ (∀ s ∈ l.spanId, Plain s) ∧ (∀ s ∈ l.tenantId, Plain s) ∧
        (∀ s ∈ l.actorId, Plain s) ∧ (∀ s ∈ l.sessionId, Plain s) ∧
        l.resourceAttributes.hasNul = false ∧ l.logAttributes.hasNul = false := by
  unfold Storable
  rw [Domain.columns]
  show (∀ c ∈ copyColumns Logs.copyStatement,
    (Logs.columnType c).Accepts maxKey (l.column c)) ↔ _
  rw [copyColumns_logs]
  simp [Logs.columnType, ColumnType.Accepts, Logs.StoredLog.column, accepts_json]

theorem storable_traces [LawfulFloatFormat] (s : Traces.StoredSpan) :
    Storable maxKey .traces s ↔
      PlainKey maxKey s.traceId ∧ PlainKey maxKey s.spanId ∧ (∀ t ∈ s.parentSpanId, Plain t) ∧
        Plain s.name ∧ (∀ t ∈ s.serviceName, Plain t) ∧ (∀ t ∈ s.scopeName, Plain t) ∧
        (∀ t ∈ s.statusMessage, Plain t) ∧ (∀ t ∈ s.tenantId, Plain t) ∧
        (∀ t ∈ s.actorId, Plain t) ∧ (∀ t ∈ s.sessionId, Plain t) ∧
        s.resourceAttributes.hasNul = false ∧ s.spanAttributes.hasNul = false ∧
        s.events.hasNul = false ∧ s.links.hasNul = false := by
  unfold Storable
  rw [Domain.columns]
  show (∀ c ∈ copyColumns Traces.copyStatement,
    (Traces.columnType c).Accepts maxKey (s.column c)) ↔ _
  rw [copyColumns_traces]
  simp [Traces.columnType, ColumnType.Accepts, Traces.StoredSpan.column, accepts_json]

theorem storable_metrics [LawfulFloatFormat] (p : Metrics.StoredMetricPoint) :
    Storable maxKey .metrics p ↔
      PlainKey maxKey p.metricName ∧ Plain p.metricType.text ∧ (∀ t ∈ p.unit, Plain t) ∧
        (∀ v ∈ p.buckets, v.hasNul = false) ∧ (∀ t ∈ p.serviceName, Plain t) ∧
        (∀ t ∈ p.scopeName, Plain t) ∧ (∀ t ∈ p.tenantId, Plain t) ∧
        (∀ t ∈ p.actorId, Plain t) ∧ (∀ t ∈ p.sessionId, Plain t) ∧
        p.resourceAttributes.hasNul = false ∧ p.attributes.hasNul = false := by
  unfold Storable
  rw [Domain.columns]
  show (∀ c ∈ copyColumns Metrics.copyStatement,
    (Metrics.columnType c).Accepts maxKey (p.column c)) ↔ _
  rw [copyColumns_metrics]
  simp [Metrics.columnType, ColumnType.Accepts, Metrics.StoredMetricPoint.column, accepts_json]

end Batches

end Datacat
