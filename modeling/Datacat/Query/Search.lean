import Datacat.Basics.Selection
import Datacat.Db.Service
import Datacat.Query.Logs

/-!
# Searches

The searches of the query layer: logs, events, points of metrics, and the spans of a trace. Each is
a condition on the columns of its table, in the order of its instants, up to a limit. They read what
the database holds, where instants are rounded; an instant of a request is rounded on its own, when
it is bound.

## Main results

- `Search.finds`: a search over any table.
- `read_your_writes`: a search over the table of a service, at any moment of any run.
-/

namespace Datacat

open Basics

/-! ## Rows as the database holds them -/

/-- A row once the database has rounded its instants. -/
def Domain.asStored (stamp : DateTime → DateTime) : (d : Domain) → d.Row → d.Row
  | .events, e => show Events.StoredEvent from
    { (show Events.StoredEvent from e) with
      timestampClient := stamp (Events.StoredEvent.timestampClient e)
      receivedAt := stamp (Events.StoredEvent.receivedAt e) }
  | .logs, l => show Logs.StoredLog from
    { (show Logs.StoredLog from l) with
      logTime := stamp (Logs.StoredLog.logTime l)
      observedTime := (Logs.StoredLog.observedTime l).map stamp
      receivedAt := stamp (Logs.StoredLog.receivedAt l) }
  | .traces, s => show Traces.StoredSpan from
    { (show Traces.StoredSpan from s) with
      startTime := stamp (Traces.StoredSpan.startTime s)
      endTime := (Traces.StoredSpan.endTime s).map stamp
      receivedAt := stamp (Traces.StoredSpan.receivedAt s) }
  | .metrics, p => show Metrics.StoredMetricPoint from
    { (show Metrics.StoredMetricPoint from p) with
      time := stamp (Metrics.StoredMetricPoint.time p)
      receivedAt := stamp (Metrics.StoredMetricPoint.receivedAt p) }

theorem Domain.recordKey_asStored (stamp : DateTime → DateTime) (d : Domain) (r : d.Row) :
    d.recordKey (d.asStored stamp r) = d.key stamp r := by
  cases d <;> rfl

namespace Query

/-! ## Columns -/

structure EventRow where
  eventId : Uuid
  eventName : String
  actorId : String
  sessionId : String
  tenantId : Option String
  timestampClient : DateTime
  properties : Value

def EventRow.ofStored (e : Events.StoredEvent) : EventRow where
  eventId := e.eventId
  eventName := e.eventName
  actorId := e.actorId
  sessionId := e.sessionId
  tenantId := e.tenantId
  timestampClient := e.timestampClient
  properties := e.properties

structure SpanRow where
  traceId : String
  spanId : String
  parentSpanId : Option String
  startTime : DateTime
  endTime : Option DateTime
  durationMs : Option F64
  name : String
  kind : Option Int16
  serviceName : Option String
  statusCode : Option Int16
  statusMessage : Option String
  sessionId : Option String
  spanAttributes : Value

def SpanRow.ofStored (s : Traces.StoredSpan) : SpanRow where
  traceId := s.traceId
  spanId := s.spanId
  parentSpanId := s.parentSpanId
  startTime := s.startTime
  endTime := s.endTime
  durationMs := s.durationMs
  name := s.name
  kind := s.kind
  serviceName := s.serviceName
  statusCode := s.statusCode
  statusMessage := s.statusMessage
  sessionId := s.sessionId
  spanAttributes := s.spanAttributes

structure MetricRow where
  time : DateTime
  metricName : String
  metricType : String
  unit : Option String
  valueDouble : Option F64
  valueInt : Option Int64
  count : Option Int64
  sum : Option F64
  buckets : Option Value
  serviceName : Option String
  scopeName : Option String
  attributes : Value

def MetricRow.ofStored (p : Metrics.StoredMetricPoint) : MetricRow where
  time := p.time
  metricName := p.metricName
  metricType := p.metricType.text
  unit := p.unit
  valueDouble := p.valueDouble
  valueInt := p.valueInt
  count := p.count
  sum := p.sum
  buckets := p.buckets
  serviceName := p.serviceName
  scopeName := p.scopeName
  attributes := p.attributes

/-- What a search of the domain answers of each row. -/
def Columns : Domain → Type
  | .events => EventRow
  | .logs => LogRow
  | .traces => SpanRow
  | .metrics => MetricRow

def columns : (d : Domain) → d.Row → Columns d
  | .events, e => EventRow.ofStored e
  | .logs, l => LogRow.ofStored l
  | .traces, s => SpanRow.ofStored s
  | .metrics, p => MetricRow.ofStored p

/-! ## Requests -/

structure EventsParams where
  actor : Option String := none
  session : Option String := none
  tenant : Option String := none
  name : Option String := none
  «from» : Option String := none
  «to» : Option String := none
  limit : Option Int64 := none

structure MetricsParams where
  name : Option String := none
  service : Option String := none
  «from» : Option String := none
  «to» : Option String := none
  limit : Option Int64 := none

/-- `<instant> >= <from> AND <instant> <= <to>`, as far as they are given. -/
def within (since upTo : Option DateTime) (t : DateTime) : Bool :=
  (since.all fun start => decide (start ≤ t)) && (upTo.all fun stop => decide (t ≤ stop))

/-- The `WHERE` of `search_events`. -/
def EventsParams.selects (p : EventsParams) (since upTo : Option DateTime)
    (e : Events.StoredEvent) : Bool :=
  columnEquals (some e.actorId) p.actor && columnEquals (some e.sessionId) p.session &&
    columnEquals e.tenantId p.tenant && columnEquals (some e.eventName) p.name &&
    within since upTo e.timestampClient

/-- The `WHERE` of `search_metrics`. -/
def MetricsParams.selects (p : MetricsParams) (since upTo : Option DateTime)
    (point : Metrics.StoredMetricPoint) : Bool :=
  columnEquals (some point.metricName) p.name && columnEquals point.serviceName p.service &&
    within since upTo point.time

/-- A search of a domain: its `WHERE`, its `ORDER BY` and its `LIMIT`. -/
structure Search (d : Domain) where
  selects : d.Row → Bool
  newestFirst : Bool
  limit : Option Nat

/-- `ORDER BY <instant> [DESC]`. -/
def Search.Before {d : Domain} (q : Search d) (a b : d.Row) : Prop :=
  if q.newestFirst then (d.recordKey b).1 ≤ (d.recordKey a).1
  else (d.recordKey a).1 ≤ (d.recordKey b).1

def Search.Answers {d : Domain} (q : Search d) (table answer : List d.Row) : Prop :=
  Limited q.Before q.limit (table.filter q.selects) answer

inductive Request : Domain → Type where
  | logs (p : LogsParams) : Request .logs
  | events (p : EventsParams) : Request .events
  | metrics (p : MetricsParams) : Request .metrics
  | trace (traceId : String) : Request .traces

section Requests

variable (letters : Like.LetterCase) (rfc3339 : String → Except String DateTime)
  (bound : DateTime → DateTime)

/-- `search_logs`, `search_events`, `search_metrics` and `get_trace`, up to the query. -/
def Request.search : {d : Domain} → Request d → Except AppError (Search d)
  | _, .logs p => do
    let since ← parseTs rfc3339 p.«from»
    let upTo ← parseTs rfc3339 p.«to»
    return ⟨p.selects letters (since.map bound) (upTo.map bound), true,
      some (clampLimit p.limit 100 1000)⟩
  | _, .events p => do
    let since ← parseTs rfc3339 p.«from»
    let upTo ← parseTs rfc3339 p.«to»
    return ⟨p.selects (since.map bound) (upTo.map bound), true,
      some (clampLimit p.limit 100 1000)⟩
  | _, .metrics p => do
    let since ← parseTs rfc3339 p.«from»
    let upTo ← parseTs rfc3339 p.«to»
    return ⟨p.selects (since.map bound) (upTo.map bound), true,
      some (clampLimit p.limit 100 1000)⟩
  | _, .trace traceId => .ok ⟨fun s => Traces.StoredSpan.traceId s == traceId, false, none⟩

/-- The answers to a request. -/
def Request.Answers {d : Domain} (req : Request d) (table : List d.Row)
    (answer : Except AppError (List (Columns d))) : Prop :=
  match req.search letters rfc3339 bound with
  | .error e => answer = .error e
  | .ok q => ∃ rows : List d.Row, q.Answers table rows ∧ answer = .ok (rows.map (columns d))

end Requests

/-- A search of the logs, where the instants of the request are bound as they are. -/
theorem answers_logs_iff {letters : Like.LetterCase} {rfc3339 : String → Except String DateTime}
    {p : LogsParams} {table : List Logs.StoredLog} {answer : Except AppError (List LogRow)} :
    (Request.logs p).Answers letters rfc3339 id table answer ↔
      SearchLogs letters rfc3339 table p answer := by
  have hsearch : (Request.logs p).search letters rfc3339 id =
      (parseTs rfc3339 p.«from»).bind fun since => (parseTs rfc3339 p.«to»).bind fun upTo =>
        .ok ⟨p.selects letters (since.map id) (upTo.map id), true,
          some (clampLimit p.limit 100 1000)⟩ := rfl
  simp only [Option.map_id, id_eq] at hsearch
  unfold Request.Answers SearchLogs
  rw [hsearch]
  cases parseTs rfc3339 p.«from» with
  | error e => rfl
  | ok since =>
    cases parseTs rfc3339 p.«to» with
    | error e => rfl
    | ok upTo =>
      constructor
      · rintro ⟨rows, ⟨ordered, hordered, rfl⟩, hanswer⟩
        exact ⟨ordered, hordered.perm, hordered.pairwise, hanswer⟩
      · rintro ⟨ordered, hperm, hpairwise, hanswer⟩
        exact ⟨_, ⟨ordered, ⟨hperm, hpairwise⟩, rfl⟩, hanswer⟩

/-! ## What a search finds -/

section Finds

variable {d : Domain} {stamp : DateTime → DateTime} {q : Search d} {table : Table (d.key stamp)}
  {answer : List d.Row}

/-- Where an instant stands in the order is that of any record of its key. -/
theorem Search.before_congr {a b b' : d.Row} (h : d.recordKey b = d.recordKey b') :
    q.Before a b ↔ q.Before a b' := by
  unfold Search.Before
  rw [h]

/-- **A search of a table.** Its rows are rows of the table that it selects, in their order and none
twice; and where it selects every record of a key in the table, that key is answered, or the answer
is full of rows that come before it. -/
theorem Search.finds (h : q.Answers (table.rows.map (d.asStored stamp)) answer) :
    (answer.Pairwise q.Before ∧ (answer.map d.recordKey).Nodup ∧
      ∀ row ∈ answer, q.selects row = true ∧ ∃ r ∈ table.rows, row = d.asStored stamp r) ∧
      ∀ r, d.key stamp r ∈ table.keys →
        (∀ r' ∈ table.rows, d.key stamp r' = d.key stamp r →
          q.selects (d.asStored stamp r') = true) →
        (∃ row ∈ answer, d.recordKey row = d.key stamp r) ∨
          some answer.length = q.limit ∧ ∀ row ∈ answer, q.Before row (d.asStored stamp r) := by
  have hkeys : ((table.rows.map (d.asStored stamp)).map d.recordKey).Nodup := by
    have hmap : (table.rows.map (d.asStored stamp)).map d.recordKey = table.keys := by
      rw [List.map_map]
      exact List.map_congr_left fun r _ => d.recordKey_asStored stamp r
    rw [hmap]
    exact table.nodup
  refine ⟨⟨h.pairwise, h.nodup_map (hkeys.sublist (List.filter_sublist.map _)), ?_⟩, ?_⟩
  · intro row hrow
    obtain ⟨hmem, hselects⟩ := List.mem_filter.mp (h.mem hrow)
    obtain ⟨r, hr, rfl⟩ := List.mem_map.mp hmem
    exact ⟨hselects, r, hr, rfl⟩
  · intro r hkey hselects
    -- The table has one row of the key, and the search selects it.
    obtain ⟨r', hr', heq⟩ := List.mem_map.mp hkey
    have hstored : d.recordKey (d.asStored stamp r') = d.recordKey (d.asStored stamp r) := by
      rw [d.recordKey_asStored, d.recordKey_asStored, heq]
    have hmem : d.asStored stamp r' ∈ (table.rows.map (d.asStored stamp)).filter q.selects :=
      List.mem_filter.mpr ⟨List.mem_map_of_mem hr', hselects r' hr' heq⟩
    rcases h.complete hmem with hfound | ⟨hfull, hbefore⟩
    · refine .inl ⟨_, hfound, ?_⟩
      rw [d.recordKey_asStored, heq]
    · exact .inr ⟨hfull, fun row hrow => (Search.before_congr hstored).mp (hbefore row hrow)⟩

end Finds

/-! ## Over runs -/

section Runs

open Db

variable {letters : Like.LetterCase} {rfc3339 : String → Except String DateTime}
  {bound stamp : DateTime → DateTime} {d : Domain} {req : Request d} {q : Search d}
  {flushBatchSize channelCapacity : Nat} {start s : Service d stamp}
  {events : List (Service.Event d)} {answer : List (Columns d)}

/-- The records that a run can have stored. -/
def Known (start : Service d stamp) (events : List (Service.Event d)) (r : d.Row) : Prop :=
  (r ∈ start.table.rows ∨ r ∈ start.staging) ∨ r ∈ Service.accepted events

/-- **Read your writes.** At any moment of a run of the service, whatever its faults and kills: a
search answers records that were accepted or there at the start, that it selects, in their order
and none twice; and a record of a flush that succeeded, whose partition was not dropped, is answered
where the search selects every record of its key, unless the limit is reached with records that
come before it. -/
theorem read_your_writes (hq : req.search letters rfc3339 bound = .ok q)
    (h : Run (Service.Step flushBatchSize channelCapacity) start events s)
    (hstart : Service.Fresh channelCapacity start)
    (hanswer : req.Answers letters rfc3339 bound (s.table.rows.map (d.asStored stamp)) (.ok answer)) :
    ∃ rows : List d.Row, answer = rows.map (columns d) ∧
      (rows.Pairwise q.Before ∧ (rows.map d.recordKey).Nodup ∧
        ∀ row ∈ rows, q.selects row = true ∧
          ∃ r, Known start events r ∧ row = d.asStored stamp r) ∧
      ∀ buf n, .flushed buf (some n) ∈ events → ∀ r ∈ buf, Service.Spared stamp events r →
        (∀ r', Known start events r' → d.key stamp r' = d.key stamp r →
          q.selects (d.asStored stamp r') = true) →
        (∃ row ∈ rows, d.recordKey row = d.key stamp r) ∨
          some rows.length = q.limit ∧ ∀ row ∈ rows, q.Before row (d.asStored stamp r) := by
  have hmemory : start.memory = [] := by
    unfold Service.memory
    rw [hstart.2]
    rfl
  have hknown {r : d.Row} (hr : r ∈ s.table.rows) : Known start events r :=
    Service.accepted_of_mem_tables h hmemory (.inl hr)
  unfold Request.Answers at hanswer
  rw [hq] at hanswer
  obtain ⟨rows, hrows, heq⟩ := hanswer
  obtain ⟨⟨hsorted, hnodup, hsound⟩, hcomplete⟩ := Search.finds hrows
  refine ⟨rows, Except.ok.inj heq, ⟨hsorted, hnodup, ?_⟩, ?_⟩
  · intro row hrow
    obtain ⟨hselects, r, hr, hstored⟩ := hsound row hrow
    exact ⟨hselects, r, hknown hr, hstored⟩
  · intro buf n hflushed r hr hspared hselects
    have hkey := (Service.inv_of_run h hstart).stored buf n hflushed r hr hspared
    exact hcomplete r hkey fun r' hr' => hselects r' (hknown hr')

/-- The database has an answer. -/
theorem exists_answer (hq : req.search letters rfc3339 bound = .ok q) (table : List d.Row) :
    ∃ answer, req.Answers letters rfc3339 bound table (.ok answer) := by
  have htotal (a b : d.Row) : q.Before a b ∨ q.Before b a := by
    unfold Search.Before
    split
    · exact le_total _ _
    · exact le_total _ _
  have htrans (a b c : d.Row) (hab : q.Before a b) (hbc : q.Before b c) : q.Before a c := by
    unfold Search.Before at hab hbc ⊢
    split_ifs at hab hbc ⊢
    · exact le_trans hbc hab
    · exact le_trans hab hbc
  obtain ⟨rows, hrows⟩ := exists_limited htotal htrans q.limit (table.filter q.selects)
  refine ⟨rows.map (columns d), ?_⟩
  unfold Request.Answers
  rw [hq]
  exact ⟨rows, hrows, rfl⟩

end Runs

section Sample

open Db

/-- The events of a session. -/
def sessionEvents : Request .events := .events { session := some "s" }

theorem read_your_writes_lossy :
    ∃ (s : Service .events id) (rows : List Domain.events.Row),
      Run (Service.Step 1 8) Service.freshService Service.lossy s ∧
        ((∃ row ∈ rows, Domain.events.recordKey row =
            Domain.events.key id (receivedAtSecond 2)) ∨ rows.length = 100) := by
  obtain ⟨s, hrun⟩ := Service.run_lossy
  have hq : sessionEvents.search asciiLetters (fun _ => .error "") id =
      .ok ⟨EventsParams.selects { session := some "s" } none none, true, some 100⟩ := rfl
  obtain ⟨answer, hanswer⟩ := exists_answer hq (s.table.rows.map (Domain.events.asStored id))
  obtain ⟨rows, -, -, hfound⟩ := read_your_writes hq hrun ⟨rfl, rfl⟩ hanswer
  refine ⟨s, rows, hrun, ?_⟩
  have hmem : .flushed [receivedAtSecond 2] (some 1) ∈ Service.lossy := by
    simp [Service.lossy]
  refine (hfound _ 1 hmem _ (List.mem_singleton_self _) ?_ ?_).imp id fun h => Option.some.inj h.1
  · intro cutoff hpurge
    simp [Service.lossy] at hpurge
  · rintro r' ((hr' | hr') | hr') -
    · cases hr'
    · cases hr'
    · -- What was accepted is of the session.
      have haccepted : Service.accepted Service.lossy =
          [receivedAtSecond 1, receivedAtSecond 2, receivedAtSecond 3] := rfl
      rw [haccepted] at hr'
      simp only [List.mem_cons, List.not_mem_nil, or_false] at hr'
      rcases hr' with rfl | rfl | rfl <;> rfl

end Sample

end Query

end Datacat
