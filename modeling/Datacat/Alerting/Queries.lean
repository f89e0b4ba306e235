import Datacat.Alerting.Rules
import Datacat.Events.Model
import Datacat.Logs.Model
import Datacat.Metrics.Model
import Datacat.Traces.Model

/-!
# The Queries of the Rules

Each kind of rule reads the tables through queries of its own. A query is a list of conditions on
the rows of one table and an aggregate of the rows that satisfy them all. A condition on a column
that is null is not satisfied.

The aggregates of the database are parameters; what the program does with a null or an integer
where it expects a double is its own.
-/

namespace Datacat.Alerting

open Basics

/-! ## Tables -/

structure Database where
  logs : List Logs.StoredLog
  events : List Events.StoredEvent
  spans : List Traces.StoredSpan
  metricPoints : List Metrics.StoredMetricPoint

/-- A row, with the columns that the queries name; null where the table has no such column. -/
structure Row where
  /-- The column that partitions the table. -/
  time : DateTime
  tenantId : Option String
  serviceName : Option String := none
  severityNumber : Option Int16 := none
  severityText : Option String := none
  body : Option String := none
  traceId : Option String := none
  logAttributes : Value := .null
  name : Option String := none
  statusCode : Option Int16 := none
  durationMs : Option F64 := none
  eventName : Option String := none
  metricName : Option String := none
  /-- `coalesce(value_double, value_int::double precision)`. -/
  value : Option F64 := none

def Row.ofLog (l : Logs.StoredLog) : Row :=
  { time := l.logTime, tenantId := l.tenantId, serviceName := l.serviceName,
    severityNumber := l.severityNumber, severityText := l.severityText, body := l.body,
    traceId := l.traceId, logAttributes := l.logAttributes }

def Row.ofEvent (e : Events.StoredEvent) : Row :=
  { time := e.timestampClient, tenantId := e.tenantId, eventName := some e.eventName }

def Row.ofSpan (s : Traces.StoredSpan) : Row :=
  { time := s.startTime, tenantId := s.tenantId, serviceName := s.serviceName,
    traceId := some s.traceId, name := some s.name, statusCode := s.statusCode,
    durationMs := s.durationMs }

def Row.ofMetricPoint (p : Metrics.StoredMetricPoint) : Row :=
  { time := p.time, tenantId := p.tenantId, serviceName := p.serviceName,
    metricName := some p.metricName,
    value := p.valueDouble.or (p.valueInt.map fun n => F64.ofInt n.toInt) }

/-- `table_of` and `time_col`. -/
def Database.table (db : Database) : Source → List Row
  | .logs => db.logs.map Row.ofLog
  | .events => db.events.map Row.ofEvent
  | .spans => db.spans.map Row.ofSpan
  | .metrics => db.metricPoints.map Row.ofMetricPoint

/-! ## Conditions -/

/-- A condition of a `WHERE`: whether it is true of a row. -/
abbrev Filter := Row → Bool

/-- `AND <column> = <value>`, when there is a value. -/
def equals (column : Row → Option String) (value : Option String) : List Filter :=
  (value.map fun value row => column row == some value).toList

/-- `AND severity_number >= <n>`. -/
def severityAtLeast (n : Int16) : Filter := fun row => row.severityNumber.any fun m => n ≤ m

/-- `AND status_code = 2`. -/
def isError : Filter := fun row => row.statusCode == some 2

/-- `windowed_query`: the rows of `[from, to]`. -/
def windowed (start stop : DateTime) : List Filter :=
  [fun row => decide (start ≤ row.time), fun row => decide (row.time ≤ stop)]

/-- `push_tenant_filter`. -/
def tenantFilter (r : Rule) : List Filter := equals Row.tenantId r.tenant

/-- `push_base_filter`. -/
def baseFilter (r : Rule) : List Filter :=
  (match r.source with
    | .logs => equals Row.serviceName r.service
    | .spans => equals Row.serviceName r.service ++ equals Row.name r.operation
    | .events => equals Row.eventName r.eventName
    | .metrics => equals Row.serviceName r.service ++ equals Row.metricName r.metricName)
  ++ tenantFilter r

/-- `push_error_predicate`. -/
def errorPredicate (r : Rule) : List Filter :=
  match r.source with
  | .logs => [severityAtLeast (r.severityMin.getD 17)]
  | .spans => [isError]
  | .events | .metrics => []

/-- `push_count_filter`. -/
def countFilter (r : Rule) : List Filter :=
  baseFilter r
  ++ (if r.source = .logs then (r.severityMin.map severityAtLeast).toList else [])
  ++ if r.errorOnly then errorPredicate r else []

/-- The conditions of `metric_threshold`. -/
def metricFilter (r : Rule) : List Filter :=
  equals Row.metricName (some (r.metricName.getD "")) ++ equals Row.serviceName r.service
  ++ tenantFilter r

/-- `push_span_filter`. -/
def spanFilter (r : Rule) : List Filter :=
  equals Row.serviceName r.service ++ equals Row.name r.operation ++ equals Row.tenantId r.tenant
  ++ if r.errorOnly then [isError] else []

/-- `push_log_group_filters`. -/
def logGroupFilters (r : Rule) : List Filter :=
  equals Row.serviceName r.service ++ (r.severityMin.map severityAtLeast).toList
  ++ equals Row.tenantId r.tenant

/-- The rows of a table that satisfy the conditions. -/
def select (db : Database) (source : Source) (filters : List Filter) : List Row :=
  (db.table source).filter fun row => filters.all fun f => f row

/-! ## Aggregates -/

/-- Why a rule has no value: an error is logged and the rule skipped, a panic ends the task. -/
inductive Failure where
  | error
  | panic

/-- What the database makes of the rows. -/
structure Engine where
  /-- An aggregate of doubles other than `count`: null over no rows, an error on overflow. -/
  aggregate : Agg → List F64 → Except Failure (Option F64)
  /-- The value on the row that `ORDER BY <time> DESC LIMIT 1` gives. -/
  latest : List (DateTime × Option F64) → Option (Option F64)
  /-- `attributes ->> key`. -/
  attributeText : Value → String → Option String
  /-- Whether an expression is the same in `SELECT` and `GROUP BY` when it is written with
  another parameter of the same value; it is not one in PostgreSQL. -/
  identifiesParameters : Bool

/-- The column of a row that is fetched. -/
inductive Scalar where
  | null
  | float8 (x : F64)
  | int8 (n : Int)

/-- `fetch_optional` of an `f64`, and 0 for no row: a null or an integer is not decoded. -/
def decodeF64 : Option Scalar → Except Failure F64
  | none => .ok (F64.ofInt 0)
  | some (.float8 x) => .ok x
  | some _ => .error .error

def Scalar.ofOption : Option F64 → Scalar
  | some x => .float8 x
  | none => .null

/-- The aggregate of a column, or its value on the latest row. -/
def fetchAggregate (engine : Engine) (agg : Agg) (column : Row → Option F64) (rows : List Row) :
    Except Failure F64 :=
  match agg with
  | .last =>
    decodeF64 ((engine.latest (rows.map fun row => (row.time, column row))).map Scalar.ofOption)
  | .count => decodeF64 (some (.int8 (rows.filterMap column).length))
  | agg => do decodeF64 (some (.ofOption (← engine.aggregate agg (rows.filterMap column))))

/-- `SELECT count(*)`. -/
def countRows (db : Database) (source : Source) (filters : List Filter) : Int :=
  (select db source filters).length

/-! ## Windows -/

/-- `n as i64`. -/
def asI64 (n : Nat) : Int := (BitVec.ofNat 64 n).toInt

/-- `n as i32`. -/
def asI32 (n : Nat) : Int := (BitVec.ofNat 32 n).toInt

/-- `now - chrono::Duration::seconds(secs as i64)`. -/
def secondsBefore (now : DateTime) (secs : Nat) : Except Failure DateTime :=
  if (asI64 secs).natAbs ≤ (2 ^ 63 - 1) / 1000 then
    match now.checkedAdd (-(asI64 secs * 1000000000)) with
    | some t => .ok t
    | none => .error .panic
  else .error .panic

/-! ## Values -/

/-- `compute_count`. -/
def computeCount (db : Database) (r : Rule) (start stop : DateTime) : F64 :=
  F64.ofInt (countRows db r.source (windowed start stop ++ countFilter r))

/-- `compute_metric`. -/
def computeMetric (engine : Engine) (db : Database) (r : Rule) (start stop : DateTime) :
    Except Failure F64 :=
  fetchAggregate engine (r.agg.getD .avg) Row.value
    (select db .metrics (windowed start stop ++ metricFilter r))

/-- `compute_error_ratio`. -/
def computeErrorRatio (db : Database) (r : Rule) (start stop : DateTime) : F64 :=
  let total := countRows db r.source (windowed start stop ++ baseFilter r)
  if total.toNat < max r.minCount 1 then F64.ofInt 0
  else
    let errors :=
      countRows db r.source (windowed start stop ++ baseFilter r ++ errorPredicate r)
    (F64.ofInt errors).div (F64.ofInt total)

/-- `compute_span_duration`. -/
def computeSpanDuration (engine : Engine) (db : Database) (r : Rule) (start stop : DateTime) :
    Except Failure F64 :=
  fetchAggregate engine (r.agg.getD .p95) Row.durationMs
    (select db .spans
      (windowed start stop ++ (fun row => row.durationMs.isSome) :: spanFilter r))

/-- `compute_relative_change`. -/
def computeRelativeChange (db : Database) (r : Rule) (start stop : DateTime) :
    Except Failure F64 :=
  match start.checkedAdd (-(stop.nanos - start.nanos)) with
  | none => .error .panic
  | some previousStart =>
    let current := countRows db r.source (windowed start stop ++ countFilter r)
    let previous := countRows db r.source (windowed previousStart start ++ countFilter r)
    let base := (F64.ofInt previous).max (F64.ofInt (max r.minCount 1 : Nat))
    .ok ((F64.ofInt current).div base)

/-- The starts of `generate_series`. -/
def series (start stop : DateTime) (step : Int) : List DateTime :=
  let span := if 0 < step then stop.nanos - start.nanos else start.nanos - stop.nanos
  if span < 0 then []
  else (List.range (span.toNat / step.natAbs + 1)).map fun i => ⟨start.nanos + i * step⟩

/-- `bucket_counts`: the rows of each bucket, those without any included. -/
def bucketCounts (db : Database) (r : Rule) (start stop : DateTime) : Except Failure (List Int) :=
  let step := asI32 r.windowSecs * 1000000000
  if step = 0 then .error .error
  else
    .ok ((series start ⟨stop.nanos - step⟩ step).map fun b =>
      countRows db r.source ((fun row => decide (b ≤ row.time)) ::
        (fun row => decide (row.time.nanos < b.nanos + step)) :: countFilter r))

/-- `compute_anomaly`. -/
def computeAnomaly (db : Database) (r : Rule) (now : DateTime) : Except Failure F64 := do
  let baseline := r.baselineSecs.getD (min (r.windowSecs * 30) (2 ^ 64 - 1))
  let start ← secondsBefore now baseline
  let historyEnd ← secondsBefore now r.windowSecs
  let buckets ← bucketCounts db r start historyEnd
  if buckets.length < 3 then return F64.ofInt 0
  let n := F64.ofInt buckets.length
  let mean := (F64.ofInt buckets.sum).div n
  if mean.lt (F64.ofInt r.minCount) then return F64.ofInt 0
  let squares := buckets.map fun c => ((F64.ofInt c).sub mean).mul ((F64.ofInt c).sub mean)
  let deviation := ((squares.foldl F64.add (F64.ofInt 0)).div n).sqrt
  if deviation.lt (F64.ofRat (1 / 1000000000)) then return F64.ofInt 0
  return ((computeCount db r historyEnd now).sub mean).div deviation

/-- `compute_value`. -/
def computeValue (engine : Engine) (db : Database) (r : Rule) (now : DateTime) :
    Except Failure F64 := do
  let start ← secondsBefore now r.windowSecs
  match r.kind with
  | .logGroupCount | .logNewSignature | .composite => throw .error
  | .logCount | .telemetryCount => return computeCount db r start now
  | .metricThreshold => computeMetric engine db r start now
  | .errorRatio => return computeErrorRatio db r start now
  | .spanDuration => computeSpanDuration engine db r start now
  | .relativeChange => computeRelativeChange db r start now
  | .anomaly => computeAnomaly db r now

/-! ## Groups -/

/-- `push_group_expr`, on a row. -/
def groupKey (engine : Engine) (expr : GroupExpr) (row : Row) : Option String :=
  match expr with
  | .column name =>
    if name = "body" then row.body
    else if name = "service_name" then row.serviceName
    else if name = "severity_text" then row.severityText
    else row.traceId
  | .attr key => engine.attributeText row.logAttributes key

/-- The query is accepted: the key of an attribute is a parameter of its own at each place. -/
def groupable (engine : Engine) : GroupExpr → Bool
  | .column _ => true
  | .attr _ => engine.identifiesParameters

/-- `GROUP BY`, with `count(*)`. -/
def countGroups (keys : List (Option String)) : List (Option String × Nat) :=
  keys.dedup.map fun key => (key, keys.count key)

/-- The groups whose key is not null. -/
def namedGroups (groups : List (Option String × Nat)) : List (String × F64) :=
  groups.filterMap fun g => g.1.map fun key => (key, F64.ofInt g.2)

/-- `key NOT IN (keys)`: not true when the answer hangs on a null. -/
def notIn (key : Option String) (keys : List (Option String)) : Bool :=
  keys.isEmpty || (key.isSome && !keys.contains key && !keys.contains none)

/-- `compute_groups`. -/
def computeGroups (engine : Engine) (db : Database) (r : Rule) (now : DateTime) :
    Except Failure (List (String × F64)) := do
  let start ← secondsBefore now r.windowSecs
  let expr ← (r.groupExpr.mapError fun _ => .error)
  if !groupable engine expr then throw .error
  let rows := select db .logs (windowed start now ++ logGroupFilters r)
  return namedGroups (countGroups (rows.map (groupKey engine expr)))

/-- `compute_novel_groups`. -/
def computeNovelGroups (engine : Engine) (db : Database) (r : Rule) (now : DateTime) :
    Except Failure (List (String × F64)) := do
  let start ← secondsBefore now r.windowSecs
  let baselineStart ← secondsBefore now (r.baselineSecs.getD 86400)
  let expr ← (r.groupExpr.mapError fun _ => .error)
  if !groupable engine expr then throw .error
  let rows := select db .logs (windowed start now ++ logGroupFilters r)
  let baseline := select db .logs
    ((fun row => decide (baselineStart ≤ row.time)) :: (fun row => decide (row.time < start)) ::
      logGroupFilters r)
  let known := baseline.map (groupKey engine expr)
  return namedGroups ((countGroups (rows.map (groupKey engine expr))).filter fun g =>
    notIn g.1 known)

/-! ## What a rule computes -/

/-- What the queries of a rule give: a value, the number of conditions met or the groups. -/
inductive Computed where
  | scalar (value : F64)
  | composite (met : Nat)
  | groups (groups : List (String × F64))

/-- The number of conditions of a composite that are met. -/
def conditionsMet (engine : Engine) (db : Database) (now : DateTime) :
    List Rule → Except Failure Nat
  | [] => .ok 0
  | c :: cs => do
    let value ← computeValue engine db c now
    let met ← conditionsMet engine db now cs
    return if c.comparator.compare value c.threshold then met + 1 else met

/-- The queries of a rule. -/
def compute (engine : Engine) (db : Database) (r : Rule) (now : DateTime) :
    Except Failure Computed :=
  match r.kind with
  | .logGroupCount => (computeGroups engine db r now).map .groups
  | .logNewSignature => (computeNovelGroups engine db r now).map .groups
  | .composite => (conditionsMet engine db now r.conditions).map .composite
  | _ => (computeValue engine db r now).map .scalar

end Datacat.Alerting
