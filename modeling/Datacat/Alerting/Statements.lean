import Datacat.Alerting.Queries
import Datacat.Basics.Sql

/-!
# The Statements of the Rules

The text of each query and the values that are bound in it, as they are sent, and what a database
answers to a text: it reads the characters again, as the table, the expressions of the `SELECT`, the
conditions of the `WHERE` and what comes after them.

## Main results

- `computed_of_statements`: a rule that is computed through the statements it sends gets what the
  conditions of its kind give.
-/

namespace Datacat.Alerting

open Basics Basics.Sql

/-! ## Values -/

/-- A value that is bound, or a number of the text. -/
inductive Argument where
  | text (s : String)
  | int2 (n : Int16)
  | int8 (n : Int)
  | timestamptz (t : DateTime)

abbrev Statement := QueryBuilder Argument

/-! ## Tables and columns -/

/-- `table_of`. -/
def tableOf : Source → String
  | .logs => "logs"
  | .events => "events"
  | .spans => "spans"
  | .metrics => "metric_points"

/-- `time_col`. -/
def timeCol : Source → String
  | .logs => "log_time"
  | .events => "timestamp_client"
  | .spans => "start_time"
  | .metrics => "time"

/-! ## Texts -/

/-- `windowed_query`. -/
def windowedQuery (select : String) (source : Source) (start stop : DateTime) : Statement :=
  (((QueryBuilder.new ("SELECT " ++ select ++ " FROM " ++ tableOf source ++ " WHERE " ++
    timeCol source ++ " >= ")).pushBind (.timestamptz start)).push
      (" AND " ++ timeCol source ++ " <= ")).pushBind (.timestamptz stop)

/-- `if let Some(value) = value { qb.push(" AND <column> = ").push_bind(value.clone()); }` -/
def pushEquals (column : String) (value : Option String) (qb : Statement) : Statement :=
  qb.pushSome (" AND " ++ column ++ " = ") (value.map .text)

def pushSeverityAtLeast (n : Int16) (qb : Statement) : Statement :=
  (qb.push " AND severity_number >= ").pushBind (.int2 n)

def pushSeverityMin (r : Rule) (qb : Statement) : Statement :=
  qb.pushSome " AND severity_number >= " (r.severityMin.map .int2)

def pushTenantFilter (r : Rule) (qb : Statement) : Statement := pushEquals "tenant_id" r.tenant qb

def pushBaseFilter (r : Rule) (qb : Statement) : Statement :=
  pushTenantFilter r <|
    match r.source with
    | .logs => pushEquals "service_name" r.service qb
    | .spans => pushEquals "name" r.operation (pushEquals "service_name" r.service qb)
    | .events => pushEquals "event_name" r.eventName qb
    | .metrics => pushEquals "metric_name" r.metricName (pushEquals "service_name" r.service qb)

def pushErrorPredicate (r : Rule) (qb : Statement) : Statement :=
  match r.source with
  | .logs => pushSeverityAtLeast (r.severityMin.getD 17) qb
  | .spans => qb.push " AND status_code = 2"
  | .events | .metrics => qb

def pushCountFilter (r : Rule) (qb : Statement) : Statement :=
  let qb := pushBaseFilter r qb
  let qb := if r.source = .logs then pushSeverityMin r qb else qb
  if r.errorOnly then pushErrorPredicate r qb else qb

def pushSpanFilter (r : Rule) (qb : Statement) : Statement :=
  let qb := pushEquals "tenant_id" r.tenant
    (pushEquals "name" r.operation (pushEquals "service_name" r.service qb))
  if r.errorOnly then qb.push " AND status_code = 2" else qb

def pushLogGroupFilters (r : Rule) (qb : Statement) : Statement :=
  pushEquals "tenant_id" r.tenant (pushSeverityMin r (pushEquals "service_name" r.service qb))

def pushGroupExpr (group : GroupExpr) (qb : Statement) : Statement :=
  match group with
  | .column name => qb.push name
  | .attr key => (qb.push "log_attributes ->> ").pushBind (.text key)

/-- The text of `percentile`. -/
def Agg.percentile : Agg → Option String
  | .p50 => some "0.5"
  | .p90 => some "0.9"
  | .p95 => some "0.95"
  | .p99 => some "0.99"
  | _ => none

/-- `agg_sql_expr`, which `last` does not reach. -/
def aggSqlExpr (agg : Agg) (val : String) : String :=
  match agg.percentile with
  | some p => "percentile_cont(" ++ p ++ ") WITHIN GROUP (ORDER BY " ++ val ++ ")"
  | none => agg.label ++ "(" ++ val ++ ")"

/-- The value of a point. -/
def pointValue : String := "coalesce(value_double, value_int::double precision)"

/-! ## Statements -/

/-- `q_cur`, `q_prev` and the query of `compute_count`. -/
def countStatement (r : Rule) (start stop : DateTime) : Statement :=
  pushCountFilter r (windowedQuery "count(*)" r.source start stop)

/-- `q_total`. -/
def totalStatement (r : Rule) (start stop : DateTime) : Statement :=
  pushBaseFilter r (windowedQuery "count(*)" r.source start stop)

/-- `q_err`. -/
def errorsStatement (r : Rule) (start stop : DateTime) : Statement :=
  pushErrorPredicate r (pushBaseFilter r (windowedQuery "count(*)" r.source start stop))

/-- The conditions of `compute_metric`. -/
def pushMetricFilter (r : Rule) (qb : Statement) : Statement :=
  pushTenantFilter r (pushEquals "service_name" r.service
    ((qb.push " AND metric_name = ").pushBind (.text (r.metricName.getD ""))))

/-- The query of `compute_metric`. -/
def metricStatement (r : Rule) (start stop : DateTime) : Statement :=
  let agg := r.agg.getD .avg
  if agg = .last then
    (pushMetricFilter r (windowedQuery pointValue .metrics start stop)).push
      " ORDER BY time DESC LIMIT 1"
  else pushMetricFilter r (windowedQuery (aggSqlExpr agg pointValue) .metrics start stop)

/-- The query of `compute_span_duration`. -/
def spanDurationStatement (r : Rule) (start stop : DateTime) : Statement :=
  let agg := r.agg.getD .p95
  if agg = .last then
    (pushSpanFilter r ((windowedQuery "duration_ms" .spans start stop).push
      " AND duration_ms IS NOT NULL")).push " ORDER BY start_time DESC LIMIT 1"
  else
    pushSpanFilter r ((windowedQuery (aggSqlExpr agg "duration_ms") .spans start stop).push
      " AND duration_ms IS NOT NULL")

/-- What the queries of the groups have before their `GROUP BY`. -/
def logsOfWindow (r : Rule) (group : GroupExpr) (start now : DateTime) : Statement :=
  let qb := ((pushGroupExpr group (QueryBuilder.new "SELECT ")).push
    " AS gk, count(*) FROM logs WHERE log_time >= ").pushBind (.timestamptz start)
  pushLogGroupFilters r ((qb.push " AND log_time <= ").pushBind (.timestamptz now))

/-- The query of `compute_groups`. -/
def groupsStatement (r : Rule) (group : GroupExpr) (start now : DateTime) : Statement :=
  pushGroupExpr group ((logsOfWindow r group start now).push " GROUP BY ")

/-- `NOT IN (SELECT <e>`, after the `HAVING` of `compute_novel_groups`. -/
def pushNotIn (group : GroupExpr) (qb : Statement) : Statement :=
  pushGroupExpr group ((pushGroupExpr group (qb.push " HAVING ")).push " NOT IN (SELECT ")

/-- The query of `compute_novel_groups`. -/
def novelGroupsStatement (r : Rule) (group : GroupExpr) (baselineStart start now : DateTime) :
    Statement :=
  let qb := ((pushNotIn group (groupsStatement r group start now)).push
    " FROM logs WHERE log_time >= ").pushBind (.timestamptz baselineStart)
  (pushLogGroupFilters r ((qb.push " AND log_time < ").pushBind (.timestamptz start))).push ")"

/-! ## What the database reads -/

/-- The columns of a text type that the conditions name. -/
def textColumn (source : Source) (column : String) : Option (Row → Option String) :=
  if column = "tenant_id" then some Row.tenantId
  else if column = "service_name" ∧ source ≠ .events then some Row.serviceName
  else if column = "name" ∧ source = .spans then some Row.name
  else if column = "event_name" ∧ source = .events then some Row.eventName
  else if column = "metric_name" ∧ source = .metrics then some Row.metricName
  else none

/-- The columns of small integers. -/
def int2Column (source : Source) (column : String) : Option (Row → Option Int16) :=
  if column = "severity_number" ∧ source = .logs then some Row.severityNumber
  else if column = "status_code" ∧ source = .spans then some Row.statusCode
  else none

/-- The comparisons of the columns of a table. -/
def schema (source : Source) : Schema Row Argument where
  compare column c value :=
    match c, value with
    | .eq, .text s => (textColumn source column).map fun get row => get row == some s
    | .ge, .int2 n => (int2Column source column).map fun get row => (get row).any fun m => n ≤ m
    | .eq, .int8 n => (int2Column source column).map fun get row =>
        (get row).any fun m => m.toInt == n
    | .ge, .timestamptz t =>
        if column = timeCol source then some fun row => decide (t ≤ row.time) else none
    | .le, .timestamptz t =>
        if column = timeCol source then some fun row => decide (row.time ≤ t) else none
    | .lt, .timestamptz t =>
        if column = timeCol source then some fun row => decide (row.time < t) else none
    | _, _ => none
  isNotNull column :=
    if column = "duration_ms" ∧ source = .spans then some fun row => row.durationMs.isSome else none
  number n := .int8 n

/-- A `SELECT` that was read. -/
structure Query where
  source : Source
  selection : List String
  filters : List Filter
  after : List String

def Source.ofTable (table : String) : Option Source :=
  [Source.logs, .events, .spans, .metrics].find? fun source => tableOf source == table

/-- `SELECT <selection> FROM <table> WHERE <filters> <after>`. -/
def readQuery (arguments : List Argument) (ws : List String) : Option Query := do
  let table ← (ws.takeWhile fun w => w != "WHERE").getLast?
  let source ← Source.ofTable table
  let (before, filters, after) ← readStatement (schema source) arguments ws
  let selection := before.tail.dropLast.dropLast
  if before = "SELECT" :: (selection ++ ["FROM", table]) then
    return ⟨source, selection, filters, after⟩
  else none

/-- An expression that is a double. -/
def readDouble (source : Source) (ws : List String) : Option (Row → Option F64) :=
  if ws = ["duration_ms"] ∧ source = .spans then some Row.durationMs
  else if ws = ["coalesce", "(", "value_double", ",", "value_int::double", "precision", ")"] ∧
      source = .metrics then some Row.value
  else none

/-- What one row is made of. -/
inductive Selection where
  | rows
  | aggregate (agg : Agg) (column : Row → Option F64)
  | value (column : Row → Option F64)

/-- The function and its argument, in brackets. -/
def readCall : List String → Option (Agg × List String)
  | "percentile_cont" :: "(" :: p :: ")" :: "WITHIN" :: "GROUP" :: "(" :: "ORDER" :: "BY" :: e => do
    let agg ← [Agg.p50, .p90, .p95, .p99].find? fun agg => agg.percentile == some p
    return (agg, e.dropLast)
  | name :: "(" :: e => do
    let agg ← [Agg.avg, .max, .min, .sum, .count].find? fun agg => agg.label == name
    return (agg, e.dropLast)
  | _ => none

def readSelection (source : Source) (ws : List String) : Option Selection :=
  if ws = ["count", "(", "*", ")"] then some .rows
  else
    match readCall ws with
    | some (agg, e) => (readDouble source e).map (.aggregate agg)
    | none => (readDouble source ws).map .value

/-- The value in the row that a query gives, if it gives one. -/
def Query.scalar (engine : Engine) (db : Database) (q : Query) : Except Failure (Option Scalar) :=
  let rows := select db q.source q.filters
  match readSelection q.source q.selection with
  | some .rows => if q.after = [] then .ok (some (.int8 rows.length)) else .error .error
  | some (.aggregate .count column) =>
    if q.after = [] then .ok (some (.int8 (rows.filterMap column).length)) else .error .error
  | some (.aggregate agg column) =>
    if q.after = [] then
      (engine.aggregate agg (rows.filterMap column)).map fun x => some (Scalar.ofOption x)
    else .error .error
  | some (.value column) =>
    if q.after = ["ORDER", "BY", timeCol q.source, "DESC", "LIMIT", "1"] then
      .ok ((engine.latest (rows.map fun row => (row.time, column row))).map Scalar.ofOption)
    else .error .error
  | none => .error .error

/-- The expression of a group. -/
def readGroupExpr (arguments : List Argument) : List String → Option GroupExpr
  | [column] =>
    if column ∈ ["body", "service_name", "severity_text", "trace_id"] then some (.column column)
    else none
  | [attributes, arrow, key] =>
    if attributes = "log_attributes" ∧ arrow = "->>" then
      match Operand.ofWord key with
      | some (.bound (n + 1)) =>
        match arguments[n]? with
        | some (.text key) => some (.attr key)
        | _ => none
      | _ => none
    else none
  | _ => none

/-- An expression at the place of another is the same: in the text, or once its values are bound. -/
def sameExpr (engine : Engine) (arguments : List Argument) (e e' : List String) : Bool :=
  e == e' || engine.identifiesParameters &&
    match readGroupExpr arguments e, readGroupExpr arguments e' with
    | some (.column name), some (.column name') => name == name'
    | some (.attr key), some (.attr key') => key == key'
    | _, _ => false

/-- `SELECT <e> AS gk, count(*) FROM logs WHERE <filters> GROUP BY <e>`, of a query whose `GROUP BY`
ends where `rest` begins. -/
def Query.groups (engine : Engine) (db : Database) (arguments : List Argument) (q : Query) :
    Except Failure (List (Option String × Nat)) :=
  let e := q.selection.takeWhile fun w => w != "AS"
  let by' := (q.after.drop 2).takeWhile fun w => w != "HAVING"
  match readGroupExpr arguments e with
  | some group =>
    if q.source = .logs ∧ q.selection = e ++ ["AS", "gk", ",", "count", "(", "*", ")"] ∧
        q.after.take 2 = ["GROUP", "BY"] ∧ sameExpr engine arguments e by' then
      .ok (countGroups ((select db .logs q.filters).map (groupKey engine group)))
    else .error .error
  | none => .error .error

/-- `HAVING <e> NOT IN (SELECT <e> FROM logs WHERE <filters>)`, of what comes after the
`WHERE` of a query that gives groups of `<e>`. -/
def Query.having (engine : Engine) (db : Database) (arguments : List Argument) (q : Query) :
    Except Failure (Option String → Bool) :=
  match (q.after.dropWhile fun w => w != "HAVING").tail with
  | [] => .ok fun _ => true
  | having =>
    let e := having.takeWhile fun w => w != "NOT"
    let inner := (having.drop (e.length + 3)).dropLast
    match readQuery arguments inner with
    | some sub =>
      match readGroupExpr arguments sub.selection with
      | some group =>
        if sub.source = .logs ∧ sub.after = [] ∧
            having = e ++ ["NOT", "IN", "("] ++ inner ++ [")"] ∧
            sameExpr engine arguments (q.selection.takeWhile fun w => w != "AS") e then
          .ok fun key => notIn key ((select db .logs sub.filters).map (groupKey engine group))
        else .error .error
      | none => .error .error
    | none => .error .error

/-- `fetch_all` of the groups and their counts. -/
def fetchGroups (engine : Engine) (db : Database) (qb : Statement) :
    Except Failure (List (Option String × Nat)) :=
  match readQuery qb.arguments (words qb.query) with
  | some q => do
    let groups ← q.groups engine db qb.arguments
    let having ← q.having engine db qb.arguments
    return groups.filter fun g => having g.1
  | none => .error .error

/-- The value of the only row, if there is one. -/
def fetchScalar (engine : Engine) (db : Database) (qb : Statement) :
    Except Failure (Option Scalar) :=
  match readQuery qb.arguments (words qb.query) with
  | some q => q.scalar engine db
  | none => .error .error

/-- `fetch_one` of an `i64`. -/
def fetchCount (engine : Engine) (db : Database) (qb : Statement) : Except Failure Int := do
  match ← fetchScalar engine db qb with
  | some (.int8 n) => return n
  | _ => throw .error

/-! ## What is read of the conditions -/

section Conditions

variable {source : Source} {qb : Statement} {before : List String} {filters : List Filter}
  {r : Rule} {start stop : DateTime}

theorem words_tableOf (source : Source) : words (tableOf source).toList = [tableOf source] := by
  cases source <;> decide

theorem words_timeCol (source : Source) : words (timeCol source).toList = [timeCol source] := by
  cases source <;> decide

theorem plain_timeCol (source : Source) :
    isEnd (timeCol source) = false ∧ timeCol source ≠ "AND" := by
  cases source <;> decide

theorem reads_windowedQuery (select : String) :
    Reads (schema source) (windowedQuery select source start stop)
      ("SELECT" :: (words select.toList ++ ["FROM", tableOf source])) (windowed start stop) := by
  obtain ⟨hends, hand⟩ := plain_timeCol source
  have hfirst : Reads (schema source) ((QueryBuilder.new ("SELECT " ++ select ++ " FROM " ++
      tableOf source ++ " WHERE " ++ timeCol source ++ " >= ")).pushBind (.timestamptz start))
      ("SELECT" :: (words select.toList ++ ["FROM", tableOf source]))
      [fun row => decide (start ≤ row.time)] := by
    refine reads_first (QueryBuilder.new "") (c := .ge) (w := ">=")
      (t := "SELECT".toList ++ ' ' :: (select.toList ++ ' ' :: ("FROM".toList ++
        ' ' :: ((tableOf source).toList ++ ' ' :: ("WHERE".toList ++
          ' ' :: ((timeCol source).toList ++ ' ' :: ">=".toList))))))
      ?_ ?_ rfl ⟨hends, by decide⟩ ⟨hand, by decide⟩ (if_pos rfl)
    · simp [String.toList_append]
    · show words ([] ++ _) = _
      rw [List.nil_append, words_append_space, words_append_space, words_append_space,
        words_append_space, words_append_space, words_append_space, words_tableOf, words_timeCol]
      show ["SELECT"] ++ (words select.toList ++ (["FROM"] ++ ([tableOf source] ++ (["WHERE"] ++
        ([timeCol source] ++ [">="]))))) = _
      simp
  exact hfirst.bind (conjunct_of_column (w := "<=") rfl ⟨words_timeCol source, by decide⟩ rfl
    ⟨hends, by decide⟩ ⟨hand, by decide⟩) (if_pos rfl)

theorem conjunct_textColumn {column : String} {get : Row → Option String}
    (h : textColumn source column = some get) :
    Conjunct (" AND " ++ column ++ " = ") column .eq := by
  have hmem : column ∈ ["tenant_id", "service_name", "name", "event_name", "metric_name"] := by
    unfold textColumn at h
    grind
  have hplain : words column.toList = [column] ∧ isEnd column = false ∧ column ≠ "AND" := by
    simp only [List.mem_cons, List.not_mem_nil, or_false] at hmem
    rcases hmem with rfl | rfl | rfl | rfl | rfl <;> decide
  exact conjunct_of_column (w := "=") rfl ⟨hplain.1, by decide⟩ rfl ⟨hplain.2.1, by decide⟩
    ⟨hplain.2.2, by decide⟩

theorem reads_pushEquals (h : Reads (schema source) qb before filters) (column : String)
    {get : Row → Option String} (hcolumn : textColumn source column = some get)
    (value : Option String) :
    Reads (schema source) (pushEquals column value qb) before (filters ++ equals get value) := by
  refine h.bindSome (conjunct_textColumn hcolumn) (f := fun s row => get row == some s) ?_ value
  intro s
  show (textColumn source column).map _ = _
  rw [hcolumn]
  rfl

theorem conjunct_severity : Conjunct " AND severity_number >= " "severity_number" .ge :=
  ⟨"AND severity_number >=".toList, ">=", by decide, by decide, rfl, by decide, by decide,
    by decide, by decide⟩

theorem reads_severityAtLeast (h : Reads (schema .logs) qb before filters) (n : Int16) :
    Reads (schema .logs) (pushSeverityAtLeast n qb) before (filters ++ [severityAtLeast n]) :=
  h.bind conjunct_severity rfl

theorem reads_severityMin (h : Reads (schema .logs) qb before filters) (r : Rule) :
    Reads (schema .logs) (pushSeverityMin r qb) before
      (filters ++ (r.severityMin.map severityAtLeast).toList) :=
  h.bindSome conjunct_severity (fun _ => rfl) r.severityMin

/-- The number of the text is that of the column. -/
theorem isError_eq : (fun row : Row => row.statusCode.any fun m => m.toInt == 2) = isError := by
  funext row
  unfold isError
  cases row.statusCode with
  | none => rfl
  | some m =>
    show (m.toInt == (2 : Int16).toInt) = (m == 2)
    rw [Bool.eq_iff_iff, beq_iff_eq, beq_iff_eq, Int16.toInt_inj]

theorem reads_isError (h : Reads (schema .spans) qb before filters) :
    Reads (schema .spans) (qb.push " AND status_code = 2") before (filters ++ [isError]) := by
  refine h.push ["status_code", "=", "2"]
    ⟨"AND status_code = 2".toList, by decide, by decide, by decide⟩ ?_
  rw [← isError_eq]
  rfl

theorem reads_duration (h : Reads (schema .spans) qb before filters) :
    Reads (schema .spans) (qb.push " AND duration_ms IS NOT NULL") before
      (filters ++ [fun row => row.durationMs.isSome]) :=
  h.push ["duration_ms", "IS", "NOT", "NULL"]
    ⟨"AND duration_ms IS NOT NULL".toList, by decide, by decide, by decide⟩ rfl

theorem reads_baseFilter (h : Reads (schema r.source) qb before filters) :
    Reads (schema r.source) (pushBaseFilter r qb) before (filters ++ baseFilter r) := by
  unfold pushBaseFilter baseFilter
  rw [← List.append_assoc]
  refine reads_pushEquals ?_ "tenant_id" (if_pos rfl) r.tenant
  cases hsource : r.source with
  | logs =>
    rw [hsource] at h
    exact reads_pushEquals h "service_name" rfl r.service
  | spans =>
    rw [hsource] at h
    rw [← List.append_assoc]
    exact reads_pushEquals (reads_pushEquals h "service_name" rfl r.service) "name" rfl r.operation
  | events =>
    rw [hsource] at h
    exact reads_pushEquals h "event_name" rfl r.eventName
  | metrics =>
    rw [hsource] at h
    rw [← List.append_assoc]
    exact reads_pushEquals (reads_pushEquals h "service_name" rfl r.service) "metric_name" rfl
      r.metricName

theorem reads_errorPredicate (h : Reads (schema r.source) qb before filters) :
    Reads (schema r.source) (pushErrorPredicate r qb) before (filters ++ errorPredicate r) := by
  unfold pushErrorPredicate errorPredicate
  cases hsource : r.source with
  | logs =>
    rw [hsource] at h
    exact reads_severityAtLeast h _
  | spans =>
    rw [hsource] at h
    exact reads_isError h
  | events | metrics =>
    rw [hsource] at h
    rw [List.append_nil]
    exact h

theorem reads_countFilter (h : Reads (schema r.source) qb before filters) :
    Reads (schema r.source) (pushCountFilter r qb) before (filters ++ countFilter r) := by
  have hseverity : Reads (schema r.source)
      (if r.source = .logs then pushSeverityMin r (pushBaseFilter r qb) else pushBaseFilter r qb)
      before (filters ++ (baseFilter r ++
        if r.source = .logs then (r.severityMin.map severityAtLeast).toList else [])) := by
    have hbase := reads_baseFilter h
    rw [← List.append_assoc]
    by_cases hsource : r.source = .logs
    · rw [if_pos hsource, if_pos hsource]
      rw [hsource] at hbase ⊢
      exact reads_severityMin hbase r
    · rw [if_neg hsource, if_neg hsource, List.append_nil]
      exact hbase
  unfold pushCountFilter countFilter
  rw [← List.append_assoc]
  cases r.errorOnly with
  | true => exact reads_errorPredicate hseverity
  | false =>
    simp only [Bool.false_eq_true, if_false, List.append_nil]
    exact hseverity

theorem reads_metricFilter (h : Reads (schema .metrics) qb before filters) :
    Reads (schema .metrics) (pushMetricFilter r qb) before (filters ++ metricFilter r) := by
  have hmetric : Reads (schema .metrics)
      ((qb.push " AND metric_name = ").pushBind (.text (r.metricName.getD ""))) before
      (filters ++ equals Row.metricName (some (r.metricName.getD ""))) :=
    reads_pushEquals h "metric_name" rfl (some (r.metricName.getD ""))
  unfold metricFilter
  rw [← List.append_assoc, ← List.append_assoc]
  exact reads_pushEquals (reads_pushEquals hmetric "service_name" rfl r.service) "tenant_id" rfl
    r.tenant

theorem reads_spanFilter (h : Reads (schema .spans) qb before filters) :
    Reads (schema .spans) (pushSpanFilter r qb) before (filters ++ spanFilter r) := by
  have hequals := reads_pushEquals (reads_pushEquals (reads_pushEquals h "service_name" rfl
    r.service) "name" rfl r.operation) "tenant_id" rfl r.tenant
  rw [List.append_assoc, List.append_assoc, ← List.append_assoc (equals _ _)] at hequals
  unfold pushSpanFilter spanFilter
  rw [← List.append_assoc]
  cases r.errorOnly with
  | true => exact reads_isError hequals
  | false =>
    rw [if_neg (by decide), if_neg (by decide), List.append_nil]
    exact hequals

theorem reads_logGroupFilters (h : Reads (schema .logs) qb before filters) :
    Reads (schema .logs) (pushLogGroupFilters r qb) before (filters ++ logGroupFilters r) := by
  unfold logGroupFilters
  rw [← List.append_assoc, ← List.append_assoc]
  exact reads_pushEquals (reads_severityMin (reads_pushEquals h "service_name" rfl r.service) r)
    "tenant_id" rfl r.tenant

end Conditions

/-! ## What is read of the statements -/

section Reading

variable {source : Source} {qb : Statement} {before selection after : List String}
  {filters : List Filter} {arguments : List Argument}

/-- A query read back from its words. -/
theorem readQuery_eq {clause : List String} (hselection : "WHERE" ∉ selection)
    (hends : ∀ w ∈ clause, isEnd w = false)
    (hread : readConditions (schema source) arguments clause = some filters)
    (hafter : ∀ w ∈ after.head?, isEnd w = true) :
    readQuery arguments ("SELECT" :: (selection ++ ["FROM", tableOf source]) ++
      "WHERE" :: (clause ++ after)) = some ⟨source, selection, filters, after⟩ := by
  have hbefore : "WHERE" ∉ "SELECT" :: (selection ++ ["FROM", tableOf source]) := by
    have htable : "WHERE" ≠ tableOf source := by cases source <;> decide
    simp [hselection, htable]
  have hsource : Source.ofTable (tableOf source) = some source := by
    cases source <;> decide
  have hsplit : selection ++ ["FROM", tableOf source] =
      (selection ++ ["FROM"]) ++ [tableOf source] := by simp
  have hlast : ("SELECT" :: (selection ++ ["FROM", tableOf source])).getLast? =
      some (tableOf source) := by
    rw [hsplit, ← List.cons_append, List.getLast?_concat]
  have hselect : ("SELECT" :: (selection ++ ["FROM", tableOf source])).tail.dropLast.dropLast =
      selection := by
    rw [List.tail_cons, hsplit, List.dropLast_concat, List.dropLast_concat]
  unfold readQuery
  rw [takeWhile_where hbefore, hlast]
  simp only [Option.bind_eq_bind, Option.bind_some, hsource]
  rw [readStatement_eq hbefore hends hread hafter]
  simp only [Option.bind_some, hselect, if_true]
  rfl

/-- A query that was built so far, with what comes after it. -/
theorem readQuery_of_reads
    (h : Reads (schema source) qb ("SELECT" :: (selection ++ ["FROM", tableOf source])) filters)
    (hselection : "WHERE" ∉ selection) (harguments : qb.arguments <+: arguments)
    (after : List String) (hafter : ∀ w ∈ after.head?, isEnd w = true) :
    readQuery arguments (words qb.query ++ after) = some ⟨source, selection, filters, after⟩ := by
  obtain ⟨clause, hclause, hends, hread⟩ := h
  obtain ⟨more, rfl⟩ := harguments
  rw [hclause, List.append_assoc]
  exact readQuery_eq hselection hends (readConditions_append hread) hafter

end Reading

/-! ## Values that are fetched -/

section Values

variable {engine : Engine} {db : Database} {source : Source} {qb : Statement}
  {selection : List String} {filters : List Filter} {r : Rule} {agg : Agg}
  {column : Row → Option F64}

theorem fetchScalar_of_reads
    (h : Reads (schema source) qb ("SELECT" :: (selection ++ ["FROM", tableOf source])) filters)
    (hselection : "WHERE" ∉ selection) :
    fetchScalar engine db qb = (⟨source, selection, filters, []⟩ : Query).scalar engine db := by
  have hread := readQuery_of_reads h hselection (List.prefix_refl _) [] (by simp)
  unfold fetchScalar
  rw [List.append_nil] at hread
  rw [hread]

theorem fetchCount_of_reads
    (h : Reads (schema source) qb
      ("SELECT" :: (words "count(*)".toList ++ ["FROM", tableOf source])) filters) :
    fetchCount engine db qb = .ok (countRows db source filters) := by
  unfold fetchCount
  rw [fetchScalar_of_reads h (by decide)]
  rfl

/-- The latest value. -/
theorem fetchScalar_latest
    (h : Reads (schema source) qb ("SELECT" :: (selection ++ ["FROM", tableOf source])) filters)
    (hselection : "WHERE" ∉ selection)
    (hcolumn : readSelection source selection = some (.value column)) {text : String}
    (htext : text = " ORDER BY " ++ timeCol source ++ " DESC LIMIT 1") :
    fetchScalar engine db (qb.push text) >>= decodeF64 =
      fetchAggregate engine .last column (select db source filters) := by
  have hwords : words (qb.push text).query =
      words qb.query ++ ["ORDER", "BY", timeCol source, "DESC", "LIMIT", "1"] := by
    have hshape : text.toList =
        ' ' :: ("ORDER BY".toList ++ ' ' :: ((timeCol source).toList ++
          ' ' :: "DESC LIMIT 1".toList)) := by
      rw [htext]
      simp [String.toList_append]
    show words (qb.query ++ text.toList) = _
    rw [hshape, words_append_space, words_append_space, words_append_space, words_timeCol]
    rfl
  have hread := readQuery_of_reads h hselection (List.prefix_refl _)
    ["ORDER", "BY", timeCol source, "DESC", "LIMIT", "1"] (by simp [isEnd])
  unfold fetchScalar
  rw [hwords]
  show (match readQuery qb.arguments _ with
    | some q => q.scalar engine db
    | none => .error .error) >>= decodeF64 = _
  rw [hread]
  simp only [Query.scalar, hcolumn, if_true]
  rfl

/-- An aggregate. -/
theorem fetchScalar_aggregate
    (h : Reads (schema source) qb ("SELECT" :: (selection ++ ["FROM", tableOf source])) filters)
    (hselection : "WHERE" ∉ selection) (hlast : agg ≠ .last)
    (hcolumn : readSelection source selection = some (.aggregate agg column)) :
    fetchScalar engine db qb >>= decodeF64 =
      fetchAggregate engine agg column (select db source filters) := by
  rw [fetchScalar_of_reads h hselection]
  unfold Query.scalar
  rw [hcolumn]
  cases agg with
  | last => exact absurd rfl hlast
  | count => rfl
  | avg | max | min | sum | p50 | p90 | p95 | p99 =>
    show (engine.aggregate _ _).map _ >>= decodeF64 = engine.aggregate _ _ >>= _
    cases engine.aggregate _ _ <;> rfl

theorem words_aggSqlExpr (hlast : agg ≠ .last) (val : String) :
    words (aggSqlExpr agg val).toList =
      (agg.percentile.elim [agg.label, "("] fun p =>
        ["percentile_cont", "(", p, ")", "WITHIN", "GROUP", "(", "ORDER", "BY"]) ++
          (words val.toList ++ [")"]) := by
  -- The argument stands between a blank or a bracket and a bracket.
  have hplain : ∀ name : String, words (name ++ "(" ++ val ++ ")").toList =
      words name.toList ++ "(" :: (words val.toList ++ [")"]) := by
    intro name
    have hshape : (name ++ "(" ++ val ++ ")").toList =
        name.toList ++ '(' :: (val.toList ++ ')' :: []) := by simp [String.toList_append]
    rw [hshape, words_append_bracket (.inl rfl), words_append_bracket (.inr (.inl rfl))]
    rfl
  have hpercentile : ∀ p : String,
      words ("percentile_cont(" ++ p ++ ") WITHIN GROUP (ORDER BY " ++ val ++ ")").toList =
        ["percentile_cont", "("] ++ (words p.toList ++
          [")", "WITHIN", "GROUP", "(", "ORDER", "BY"] ++ (words val.toList ++ [")"])) := by
    intro p
    have hshape : ("percentile_cont(" ++ p ++ ") WITHIN GROUP (ORDER BY " ++ val ++ ")").toList =
        "percentile_cont".toList ++ '(' :: (p.toList ++ ')' ::
          (" WITHIN GROUP (ORDER BY".toList ++ ' ' :: (val.toList ++ ')' :: []))) := by
      simp [String.toList_append]
    rw [hshape, words_append_bracket (.inl rfl), words_append_bracket (.inr (.inl rfl)),
      words_append_space, words_append_bracket (.inr (.inl rfl)),
      show words "percentile_cont".toList = ["percentile_cont"] by decide,
      show words " WITHIN GROUP (ORDER BY".toList = ["WITHIN", "GROUP", "(", "ORDER", "BY"] by
        decide]
    simp [words]
  cases agg with
  | last => exact absurd rfl hlast
  | avg => exact hplain "avg"
  | max => exact hplain "max"
  | min => exact hplain "min"
  | sum => exact hplain "sum"
  | count => exact hplain "count"
  | p50 => exact hpercentile "0.5"
  | p90 => exact hpercentile "0.9"
  | p95 => exact hpercentile "0.95"
  | p99 => exact hpercentile "0.99"

theorem readSelection_point (hlast : agg ≠ .last) :
    "WHERE" ∉ words (aggSqlExpr agg pointValue).toList ∧
      readSelection .metrics (words (aggSqlExpr agg pointValue).toList) =
        some (.aggregate agg Row.value) := by
  have hvalue : words pointValue.toList =
      ["coalesce", "(", "value_double", ",", "value_int::double", "precision", ")"] := by decide
  rw [words_aggSqlExpr hlast, hvalue]
  cases agg with
  | last => exact absurd rfl hlast
  | avg | max | min | sum | count | p50 | p90 | p95 | p99 => exact ⟨by decide, rfl⟩

theorem readSelection_duration (hlast : agg ≠ .last) :
    "WHERE" ∉ words (aggSqlExpr agg "duration_ms").toList ∧
      readSelection .spans (words (aggSqlExpr agg "duration_ms").toList) =
        some (.aggregate agg Row.durationMs) := by
  have hduration : words "duration_ms".toList = ["duration_ms"] := by decide
  rw [words_aggSqlExpr hlast, hduration]
  cases agg with
  | last => exact absurd rfl hlast
  | avg | max | min | sum | count | p50 | p90 | p95 | p99 => exact ⟨by decide, rfl⟩

end Values

/-! ## Groups that are fetched -/

/-- The groups that a rule may ask for. -/
def GroupExpr.Allowed : GroupExpr → Prop
  | .column name => name ∈ ["body", "service_name", "severity_text", "trace_id"]
  | .attr _ => True

/-- The words of an expression whose key, if it has one, is the `n`th value. -/
def exprWords (n : Nat) : GroupExpr → List String
  | .column name => [name]
  | .attr _ => ["log_attributes", "->>", String.ofList (parameter n)]

/-- The values of an expression. -/
def exprArguments : GroupExpr → List Argument
  | .column _ => []
  | .attr key => [.text key]

section Expressions

variable {engine : Engine} {r : Rule} {group : GroupExpr} {qb : Statement}
  {arguments : List Argument} {m n : Nat}

theorem allowed_of_groupExpr (h : r.groupExpr = .ok group) : group.Allowed := by
  unfold Rule.groupExpr at h
  dsimp only at h
  split at h
  next hmem =>
    cases h
    exact hmem
  next =>
    split at h
    next => cases h; trivial
    next => cases h

theorem words_column {name : String}
    (h : name ∈ ["body", "service_name", "severity_text", "trace_id"]) :
    words name.toList = [name] := by
  simp only [List.mem_cons, List.not_mem_nil, or_false] at h
  rcases h with rfl | rfl | rfl | rfl <;> decide

theorem arguments_pushGroupExpr (group : GroupExpr) (qb : Statement) :
    (pushGroupExpr group qb).arguments = qb.arguments ++ exprArguments group := by
  cases group with
  | column name => exact (List.append_nil _).symm
  | attr key => rfl

/-- An expression after a text that ends with a blank. -/
theorem words_pushGroupExpr (hgroup : group.Allowed) {text : String} {t : List Char}
    (htext : text.toList = t ++ [' ']) :
    words (pushGroupExpr group (qb.push text)).query =
      words (qb.query ++ t) ++ exprWords (qb.arguments.length + 1) group := by
  cases group with
  | column name =>
    show words (qb.query ++ text.toList ++ name.toList) = _
    rw [htext, ← List.append_assoc, List.append_assoc _ [' '], List.singleton_append,
      words_append_space, words_column hgroup]
    rfl
  | attr key =>
    show words (qb.query ++ text.toList ++ "log_attributes ->> ".toList ++
      parameter (qb.arguments.length + 1)) = _
    rw [htext, show "log_attributes ->> ".toList = "log_attributes ->>".toList ++ [' '] from rfl,
      ← List.append_assoc, ← List.append_assoc, List.append_assoc _ [' '], List.singleton_append,
      words_append_space, List.append_assoc _ [' '], List.singleton_append, words_append_space,
      words_parameter, List.append_assoc]
    rfl

/-- An expression is read back once its values are bound. -/
theorem readGroupExpr_exprWords (hgroup : group.Allowed) (bound : List Argument)
    (h : bound ++ exprArguments group <+: arguments) :
    readGroupExpr arguments (exprWords (bound.length + 1) group) = some group := by
  obtain ⟨more, rfl⟩ := h
  cases group with
  | column name => exact if_pos hgroup
  | attr key =>
    have hkey : (bound ++ exprArguments (.attr key) ++ more)[bound.length]? =
        some (.text key) := by
      rw [List.append_assoc, List.getElem?_append_right (le_refl _), Nat.sub_self]
      rfl
    simp only [exprWords, readGroupExpr, Operand.ofWord_parameter, hkey, and_self, if_true]

theorem ne_keyword (hgroup : group.Allowed) {w : String}
    (hw : w ∈ ["AS", "WHERE", "HAVING", "NOT"]) : ∀ x ∈ exprWords n group, (x != w) = true := by
  intro x hx
  rw [bne_iff_ne]
  rintro rfl
  cases group with
  | column name =>
    have hname : x = name := List.mem_singleton.mp hx
    have hcolumn : name ∈ ["body", "service_name", "severity_text", "trace_id"] := hgroup
    rw [← hname] at hcolumn
    simp only [List.mem_cons, List.not_mem_nil, or_false] at hw hcolumn
    rcases hw with rfl | rfl | rfl | rfl <;> exact absurd hcolumn (by decide)
  | attr key =>
    have hparameter : ∀ cs : List Char, cs.head? ≠ some '$' →
        String.ofList cs ≠ String.ofList (parameter n) := by
      intro cs hcs h
      rw [String.ofList_injective h] at hcs
      exact hcs rfl
    simp only [List.mem_cons, List.not_mem_nil, or_false] at hw
    simp only [exprWords, List.mem_cons, List.not_mem_nil, or_false] at hx
    rcases hw with rfl | rfl | rfl | rfl
    · exact hx.elim (by decide) fun hx => hx.elim (by decide) (hparameter "AS".toList (by decide))
    · exact hx.elim (by decide) fun hx =>
        hx.elim (by decide) (hparameter "WHERE".toList (by decide))
    · exact hx.elim (by decide) fun hx =>
        hx.elim (by decide) (hparameter "HAVING".toList (by decide))
    · exact hx.elim (by decide) fun hx => hx.elim (by decide) (hparameter "NOT".toList (by decide))

theorem takeWhile_exprWords (hgroup : group.Allowed) {w : String}
    (hw : w ∈ ["AS", "WHERE", "HAVING", "NOT"]) (rest : List String) :
    (exprWords n group ++ w :: rest).takeWhile (fun x => x != w) = exprWords n group := by
  rw [List.takeWhile_append_of_pos (ne_keyword hgroup hw),
    List.takeWhile_cons_of_neg (by simp), List.append_nil]

/-- The key of an attribute is another parameter at another place. -/
theorem sameExpr_exprWords (engine : Engine) (hne : m ≠ n)
    (hread : readGroupExpr arguments (exprWords m group) = some group)
    (hread' : readGroupExpr arguments (exprWords n group) = some group) :
    sameExpr engine arguments (exprWords m group) (exprWords n group) = groupable engine group := by
  unfold sameExpr
  rw [hread, hread']
  cases group with
  | column name => simp [exprWords, groupable]
  | attr key =>
    have hwords : exprWords m (.attr key) ≠ exprWords n (.attr key) := by
      intro h
      simp only [exprWords, List.cons.injEq, true_and, and_true] at h
      exact hne (parameter_injective (String.ofList_injective h))
    rw [beq_eq_false_iff_ne.mpr hwords]
    simp [groupable]

end Expressions

section Groups

variable {engine : Engine} {db : Database} {r : Rule} {group : GroupExpr} {qb : Statement}
  {arguments : List Argument} {filters : List Filter} {m n : Nat} {start now t : DateTime}

theorem prefix_pushLogGroupFilters (r : Rule) (qb : Statement) :
    qb.arguments <+: (pushLogGroupFilters r qb).arguments :=
  ((QueryBuilder.prefix_pushSome _ _).trans (QueryBuilder.prefix_pushSome _ _)).trans
    (QueryBuilder.prefix_pushSome _ _)

/-- The first condition of a query of logs. -/
theorem reads_fromLogs (qb : Statement) {text : String} {u : List Char} {more : List String}
    (htext : text.toList = ' ' :: (u ++ [' ']))
    (hwords : words u = more ++ ["FROM", "logs", "WHERE", "log_time", ">="]) :
    Reads (schema .logs) ((qb.push text).pushBind (.timestamptz t))
      (words qb.query ++ more ++ ["FROM", "logs"]) [fun row => decide (t ≤ row.time)] := by
  refine reads_first qb (t := ' ' :: u) (w := ">=") (c := .ge) htext ?_ rfl
    ⟨by decide, by decide⟩ ⟨by decide, by decide⟩ (if_pos (rfl : "log_time" = timeCol .logs))
  rw [words_append_space, hwords]
  simp

/-- The first values of the query are the key of the group and the ends of the window. -/
theorem logsOfWindow_arguments (r : Rule) (group : GroupExpr) (start now : DateTime) :
    exprArguments group ++ [.timestamptz start, .timestamptz now] <+:
      (logsOfWindow r group start now).arguments := by
  have hselect : (pushGroupExpr group (QueryBuilder.new "SELECT ")).arguments =
      exprArguments group := arguments_pushGroupExpr group _
  have hwindow := prefix_pushLogGroupFilters r ((((pushGroupExpr group (QueryBuilder.new
    "SELECT ")).push " AS gk, count(*) FROM logs WHERE log_time >= ").pushBind
      (.timestamptz start)).push " AND log_time <= " |>.pushBind (.timestamptz now))
  refine List.IsPrefix.trans ?_ hwindow
  show _ <+: (pushGroupExpr group (QueryBuilder.new "SELECT ")).arguments ++
    [.timestamptz start] ++ [.timestamptz now]
  rw [hselect, List.append_assoc]
  exact List.prefix_refl _

theorem reads_logsOfWindow (hgroup : group.Allowed) :
    Reads (schema .logs) (logsOfWindow r group start now)
      ("SELECT" :: (exprWords 1 group ++ ["AS", "gk", ",", "count", "(", "*", ")"] ++
        ["FROM", tableOf .logs])) (windowed start now ++ logGroupFilters r) := by
  have hselect : words (pushGroupExpr group (QueryBuilder.new "SELECT ")).query =
      "SELECT" :: exprWords 1 group := by
    have hwords : words (pushGroupExpr group ((QueryBuilder.new "").push "SELECT ")).query =
        words ([] ++ "SELECT".toList) ++ exprWords 1 group :=
      words_pushGroupExpr hgroup rfl
    exact hwords
  have hfirst : Reads (schema .logs) (((pushGroupExpr group (QueryBuilder.new "SELECT ")).push
      " AS gk, count(*) FROM logs WHERE log_time >= ").pushBind (.timestamptz start))
      (words (pushGroupExpr group (QueryBuilder.new "SELECT ")).query ++
        ["AS", "gk", ",", "count", "(", "*", ")"] ++ ["FROM", "logs"])
      [fun row => decide (start ≤ row.time)] :=
    reads_fromLogs _ (u := "AS gk, count(*) FROM logs WHERE log_time >=".toList) (by decide)
      (by decide)
  rw [hselect] at hfirst
  have hconjunct : Conjunct " AND log_time <= " "log_time" .le :=
    ⟨"AND log_time <=".toList, "<=", by decide, by decide, rfl, by decide, by decide, by decide,
      by decide⟩
  have hupper : (schema .logs).compare "log_time" .le (.timestamptz now) =
      some fun row => decide (row.time ≤ now) := rfl
  exact reads_logGroupFilters (hfirst.bind hconjunct hupper)

/-- The groups of a query that names them in its `SELECT` and in its `GROUP BY`. -/
theorem groups_eq (engine : Engine) (db : Database) (filters : List Filter)
    (hgroup : group.Allowed) (hne : m ≠ n) {rest : List String}
    (hread : readGroupExpr arguments (exprWords m group) = some group)
    (hread' : readGroupExpr arguments (exprWords n group) = some group)
    (hrest : rest = [] ∨ ∃ having, rest = "HAVING" :: having) :
    (⟨.logs, exprWords m group ++ ["AS", "gk", ",", "count", "(", "*", ")"], filters,
      "GROUP" :: "BY" :: (exprWords n group ++ rest)⟩ : Query).groups engine db arguments =
        if groupable engine group then
          .ok (countGroups ((select db .logs filters).map (groupKey engine group)))
        else .error .error := by
  have hby : (exprWords n group ++ rest).takeWhile (fun w => w != "HAVING") =
      exprWords n group := by
    rcases hrest with rfl | ⟨having, rfl⟩
    · rw [List.append_nil]
      exact List.takeWhile_eq_self_iff.mpr (ne_keyword hgroup (by decide))
    · exact takeWhile_exprWords hgroup (by decide) having
  unfold Query.groups
  dsimp only
  rw [takeWhile_exprWords hgroup (by decide), hread]
  rw [show List.drop 2 ("GROUP" :: "BY" :: (exprWords n group ++ rest)) =
    exprWords n group ++ rest from rfl, hby,
    sameExpr_exprWords engine hne hread hread']
  simp

/-- What the `SELECT` and the `GROUP BY` of the groups of a window are read as, in a statement that
goes on after them. -/
theorem readQuery_groups (hgroup : group.Allowed)
    (harguments : (logsOfWindow r group start now).arguments <+: arguments) (rest : List String) :
    readQuery arguments (words (groupsStatement r group start now).query ++ rest) =
      some ⟨.logs, exprWords 1 group ++ ["AS", "gk", ",", "count", "(", "*", ")"],
        windowed start now ++ logGroupFilters r,
        "GROUP" :: "BY" ::
          (exprWords ((logsOfWindow r group start now).arguments.length + 1) group ++ rest)⟩ := by
  have hwords : words (groupsStatement r group start now).query =
      words (logsOfWindow r group start now).query ++ ["GROUP", "BY"] ++
        exprWords ((logsOfWindow r group start now).arguments.length + 1) group := by
    have hby : words (groupsStatement r group start now).query =
        words ((logsOfWindow r group start now).query ++ ' ' :: "GROUP BY".toList) ++
          exprWords ((logsOfWindow r group start now).arguments.length + 1) group :=
      words_pushGroupExpr hgroup (by decide)
    rw [hby, words_append_space]
    rfl
  have hselection : "WHERE" ∉ exprWords 1 group ++ ["AS", "gk", ",", "count", "(", "*", ")"] := by
    intro hmem
    rcases List.mem_append.mp hmem with hexpr | htail
    · exact absurd (ne_keyword hgroup (w := "WHERE") (by decide) _ hexpr) (by decide)
    · exact absurd htail (by decide)
  rw [hwords, List.append_assoc, List.append_assoc]
  exact readQuery_of_reads (reads_logsOfWindow hgroup) hselection harguments _ (by simp [isEnd])

/-- The numbers of the parameters in the `SELECT` and after the `WHERE`. -/
theorem one_ne_arguments {bound : List Argument}
    (h : (logsOfWindow r group start now).arguments <+: bound) : 1 ≠ bound.length + 1 := by
  have hlength := ((logsOfWindow_arguments r group start now).trans h).length_le
  simp only [List.length_append, List.length_cons, List.length_nil] at hlength
  omega

theorem readGroupExpr_select (hgroup : group.Allowed)
    (harguments : (logsOfWindow r group start now).arguments <+: arguments) :
    readGroupExpr arguments (exprWords 1 group) = some group :=
  readGroupExpr_exprWords hgroup []
    (((List.prefix_append _ _).trans (logsOfWindow_arguments r group start now)).trans harguments)

theorem fetchGroups_groups (hgroup : group.Allowed) :
    fetchGroups engine db (groupsStatement r group start now) =
      if groupable engine group then
        .ok (countGroups ((select db .logs (windowed start now ++ logGroupFilters r)).map
          (groupKey engine group)))
      else .error .error := by
  have harguments : (groupsStatement r group start now).arguments =
      (logsOfWindow r group start now).arguments ++ exprArguments group :=
    arguments_pushGroupExpr group _
  have hprefix : (logsOfWindow r group start now).arguments <+:
      (groupsStatement r group start now).arguments := by
    rw [harguments]
    exact List.prefix_append _ _
  have hread := readQuery_groups hgroup hprefix []
  have hgroups := groups_eq engine db (windowed start now ++ logGroupFilters r) hgroup
    (one_ne_arguments (List.prefix_refl _)) (readGroupExpr_select hgroup hprefix)
    (readGroupExpr_exprWords hgroup _ (by rw [harguments])) (.inl rfl)
  have hnone : (exprWords ((logsOfWindow r group start now).arguments.length + 1) group).dropWhile
      (fun w => w != "HAVING") = [] :=
    List.dropWhile_eq_nil_iff.mpr (ne_keyword hgroup (by decide))
  unfold fetchGroups
  rw [List.append_nil] at hread
  rw [hread]
  dsimp only
  rw [hgroups]
  split
  next =>
    have hhaving : (⟨.logs, exprWords 1 group ++ ["AS", "gk", ",", "count", "(", "*", ")"],
        windowed start now ++ logGroupFilters r, "GROUP" :: "BY" ::
          (exprWords ((logsOfWindow r group start now).arguments.length + 1) group ++ [])⟩ :
        Query).having engine db (groupsStatement r group start now).arguments =
          .ok fun _ => true := by
      unfold Query.having
      dsimp only
      rw [List.append_nil, List.dropWhile_cons_of_pos (by decide),
        List.dropWhile_cons_of_pos (by decide), hnone]
      rfl
    rw [hhaving]
    show Except.ok (List.filter (fun _ => true) _) = _
    rw [List.filter_true]
  next => rfl

/-- The rows of the baseline, in the inner query. -/
theorem reads_baseline (qb : Statement) (t start : DateTime) :
    Reads (schema .logs)
      (pushLogGroupFilters r ((((qb.push " FROM logs WHERE log_time >= ").pushBind
        (.timestamptz t)).push " AND log_time < ").pushBind (.timestamptz start)))
      (words qb.query ++ ["FROM", "logs"])
      ((fun row => decide (t ≤ row.time)) :: (fun row => decide (row.time < start)) ::
        logGroupFilters r) := by
  have hfirst : Reads (schema .logs)
      ((qb.push " FROM logs WHERE log_time >= ").pushBind (.timestamptz t))
      (words qb.query ++ [] ++ ["FROM", "logs"]) [fun row => decide (t ≤ row.time)] :=
    reads_fromLogs qb (u := "FROM logs WHERE log_time >=".toList) (by decide) (by decide)
  have hconjunct : Conjunct " AND log_time < " "log_time" .lt :=
    ⟨"AND log_time <".toList, "<", by decide, by decide, rfl, by decide, by decide, by decide,
      by decide⟩
  have hupper : (schema .logs).compare "log_time" .lt (.timestamptz start) =
      some fun row => decide (row.time < start) := rfl
  rw [List.append_nil] at hfirst
  exact reads_logGroupFilters (hfirst.bind hconjunct hupper)

/-- `HAVING <e> NOT IN (<inner>)`. -/
theorem having_eq (engine : Engine) (db : Database) (filters : List Filter)
    (hgroup : group.Allowed) (hne : m ≠ n) {k : Nat} {inner : List String} {sub : Query}
    (hread : readGroupExpr arguments (exprWords m group) = some group)
    (hread' : readGroupExpr arguments (exprWords n group) = some group)
    (hsub : readQuery arguments inner = some sub) (hsource : sub.source = .logs ∧ sub.after = [])
    (hexpr : readGroupExpr arguments sub.selection = some group)
    (hallowed : groupable engine group = true) :
    (⟨.logs, exprWords m group ++ ["AS", "gk", ",", "count", "(", "*", ")"], filters,
      "GROUP" :: "BY" :: (exprWords k group ++ "HAVING" :: (exprWords n group ++
        "NOT" :: "IN" :: "(" :: (inner ++ [")"])))⟩ : Query).having engine db arguments =
      .ok fun key => notIn key ((select db .logs sub.filters).map (groupKey engine group)) := by
  have hafter : ((("GROUP" :: "BY" :: (exprWords k group ++ "HAVING" :: (exprWords n group ++
      "NOT" :: "IN" :: "(" :: (inner ++ [")"])))).dropWhile fun w => w != "HAVING").tail) =
      exprWords n group ++ "NOT" :: "IN" :: "(" :: (inner ++ [")"]) := by
    rw [List.dropWhile_cons_of_pos (by decide), List.dropWhile_cons_of_pos (by decide),
      List.dropWhile_append_of_pos (ne_keyword hgroup (by decide)),
      List.dropWhile_cons_of_neg (by decide), List.tail_cons]
  have hinner : ((exprWords n group ++ "NOT" :: "IN" :: "(" :: (inner ++ [")"])).drop
      ((exprWords n group).length + 3)).dropLast = inner := by
    rw [← List.drop_drop, List.drop_left]
    show (inner ++ [")"]).dropLast = inner
    exact List.dropLast_concat
  have hcons : ∃ w ws, exprWords n group ++ "NOT" :: "IN" :: "(" :: (inner ++ [")"]) = w :: ws := by
    cases group with
    | column name => exact ⟨_, _, rfl⟩
    | attr key => exact ⟨_, _, rfl⟩
  have hshape : exprWords n group ++ "NOT" :: "IN" :: "(" :: (inner ++ [")"]) =
      exprWords n group ++ ["NOT", "IN", "("] ++ inner ++ [")"] := by simp
  have hsame := sameExpr_exprWords engine hne hread hread'
  obtain ⟨w, ws, hcons⟩ := hcons
  unfold Query.having
  dsimp only
  rw [hafter, hcons]
  dsimp only
  rw [← hcons, takeWhile_exprWords hgroup (by decide), hinner, hsub]
  dsimp only
  rw [hexpr]
  dsimp only
  rw [takeWhile_exprWords hgroup (by decide), hsame,
    if_pos ⟨hsource.1, hsource.2, hshape, hallowed⟩]

/-- The words of `HAVING <e> NOT IN (SELECT <e>`. -/
theorem words_pushNotIn (hgroup : group.Allowed) (qb : Statement) :
    words (pushNotIn group qb).query = words qb.query ++ "HAVING" ::
      (exprWords (qb.arguments.length + 1) group ++ "NOT" :: "IN" :: "(" :: "SELECT" ::
        exprWords ((qb.arguments ++ exprArguments group).length + 1) group) := by
  let having := pushGroupExpr group (qb.push " HAVING ")
  have hhaving : words having.query = words (qb.query ++ ' ' :: "HAVING".toList) ++
      exprWords (qb.arguments.length + 1) group := words_pushGroupExpr hgroup (by decide)
  have hopened : words (pushNotIn group qb).query =
      words (having.query ++ ' ' :: "NOT IN (SELECT".toList) ++
        exprWords (having.arguments.length + 1) group := words_pushGroupExpr hgroup (by decide)
  have hnumber : having.arguments = qb.arguments ++ exprArguments group :=
    arguments_pushGroupExpr group _
  rw [hopened, words_append_space, hhaving, words_append_space, hnumber,
    show words "HAVING".toList = ["HAVING"] by decide,
    show words "NOT IN (SELECT".toList = ["NOT", "IN", "(", "SELECT"] by decide]
  simp

theorem arguments_pushNotIn (group : GroupExpr) (qb : Statement) :
    (pushNotIn group qb).arguments = qb.arguments ++ exprArguments group ++ exprArguments group :=
  (arguments_pushGroupExpr group _).trans
    (congrArg (· ++ exprArguments group) (arguments_pushGroupExpr group _))

/-- The key is bound at each of its places, and stays where it is. -/
theorem novelGroups_arguments (r : Rule) (group : GroupExpr) (t start now : DateTime) :
    (logsOfWindow r group start now).arguments ++ exprArguments group ++ exprArguments group ++
      exprArguments group <+: (novelGroupsStatement r group t start now).arguments := by
  let opened := pushNotIn group (groupsStatement r group start now)
  let bounded := (((opened.push " FROM logs WHERE log_time >= ").pushBind
    (.timestamptz t)).push " AND log_time < ").pushBind (.timestamptz start)
  have hbounded : opened.arguments <+: bounded.arguments :=
    (List.prefix_append _ _).trans (List.prefix_append _ _)
  have hopened : opened.arguments = (logsOfWindow r group start now).arguments ++
      exprArguments group ++ exprArguments group ++ exprArguments group := by
    have hgrouped : (groupsStatement r group start now).arguments =
        (logsOfWindow r group start now).arguments ++ exprArguments group :=
      arguments_pushGroupExpr group _
    rw [← hgrouped]
    exact arguments_pushNotIn group _
  rw [← hopened]
  exact hbounded.trans (prefix_pushLogGroupFilters r bounded)

theorem fetchGroups_novel (hgroup : group.Allowed) (t : DateTime) :
    fetchGroups engine db (novelGroupsStatement r group t start now) =
      if groupable engine group then
        .ok ((countGroups ((select db .logs (windowed start now ++ logGroupFilters r)).map
          (groupKey engine group))).filter fun g =>
            notIn g.1 ((select db .logs ((fun row => decide (t ≤ row.time)) ::
              (fun row => decide (row.time < start)) :: logGroupFilters r)).map
                (groupKey engine group)))
      else .error .error := by
  let outer := logsOfWindow r group start now
  let grouped := groupsStatement r group start now
  let final := novelGroupsStatement r group t start now
  -- The values bound when each expression is written.
  have hgrouped : grouped.arguments = outer.arguments ++ exprArguments group :=
    arguments_pushGroupExpr group _
  have hinnerKey : grouped.arguments ++ exprArguments group ++ exprArguments group <+:
      final.arguments := by
    rw [hgrouped]
    exact novelGroups_arguments r group t start now
  have hhavingKey : grouped.arguments ++ exprArguments group <+: final.arguments :=
    (List.prefix_append _ _).trans hinnerKey
  have hgroupKey : outer.arguments ++ exprArguments group <+: final.arguments := by
    rw [← hgrouped]
    exact (List.prefix_append _ _).trans hhavingKey
  have houter : outer.arguments <+: final.arguments := (List.prefix_append _ _).trans hgroupKey
  have hgroupedOuter : outer.arguments <+: grouped.arguments := by
    rw [hgrouped]
    exact List.prefix_append _ _
  -- The words: those of the groups, and the inner query in brackets.
  obtain ⟨clause, hclause, hends, hconditions⟩ :=
    reads_baseline (r := r) (pushNotIn group grouped) t start
  let e := exprWords ((grouped.arguments ++ exprArguments group).length + 1) group
  let inner := "SELECT" :: (e ++ ["FROM", tableOf .logs]) ++ "WHERE" :: (clause ++ [])
  let rest := exprWords (grouped.arguments.length + 1) group ++ "NOT" :: "IN" :: "(" ::
    (inner ++ [")"])
  have hwords : words final.query = words grouped.query ++ "HAVING" :: rest := by
    have hclose : words final.query = words (pushLogGroupFilters r
        (((((pushNotIn group grouped).push " FROM logs WHERE log_time >= ").pushBind
          (.timestamptz t)).push " AND log_time < ").pushBind (.timestamptz start))).query ++
            [")"] := words_append_bracket (.inr (.inl rfl)) _ []
    rw [hclose, hclause, words_pushNotIn hgroup]
    simp [rest, inner, e, tableOf]
  have hselection : "WHERE" ∉ e := fun hmem =>
    absurd (ne_keyword hgroup (w := "WHERE") (by decide) _ hmem) (by decide)
  have hinner : readQuery final.arguments inner = some ⟨.logs, e,
      (fun row => decide (t ≤ row.time)) :: (fun row => decide (row.time < start)) ::
        logGroupFilters r, []⟩ :=
    readQuery_eq hselection hends hconditions (by simp)
  have hselect := readGroupExpr_select hgroup houter
  have hread := readQuery_groups hgroup houter ("HAVING" :: rest)
  have hgroups := groups_eq engine db (windowed start now ++ logGroupFilters r) hgroup
    (one_ne_arguments (List.prefix_refl _)) hselect
    (readGroupExpr_exprWords hgroup _ hgroupKey) (.inr ⟨rest, rfl⟩)
  show (match readQuery final.arguments (words final.query) with
    | some q => do
      let groups ← q.groups engine db final.arguments
      let having ← q.having engine db final.arguments
      return groups.filter fun g : Option String × Nat => having g.1
    | none => (.error .error : Except Failure (List (Option String × Nat)))) = _
  rw [hwords, hread]
  dsimp only
  rw [hgroups]
  split
  next hallowed =>
    rw [having_eq engine db _ hgroup (one_ne_arguments hgroupedOuter) hselect
      (readGroupExpr_exprWords hgroup _ hhavingKey) hinner ⟨rfl, rfl⟩
      (readGroupExpr_exprWords hgroup _ hinnerKey) hallowed]
    rfl
  next => rfl

end Groups

/-! ## The computations over the statements -/

namespace Sent

variable (engine : Engine) (db : Database) (r : Rule)

/-- `compute_count`. -/
def computeCount (start stop : DateTime) : Except Failure F64 := do
  return F64.ofInt (← fetchCount engine db (countStatement r start stop))

/-- `compute_metric`. -/
def computeMetric (start stop : DateTime) : Except Failure F64 := do
  decodeF64 (← fetchScalar engine db (metricStatement r start stop))

/-- `compute_error_ratio`. -/
def computeErrorRatio (start stop : DateTime) : Except Failure F64 := do
  let total ← fetchCount engine db (totalStatement r start stop)
  if total.toNat < max r.minCount 1 then return F64.ofInt 0
  let errors ← fetchCount engine db (errorsStatement r start stop)
  return (F64.ofInt errors).div (F64.ofInt total)

/-- `compute_span_duration`. -/
def computeSpanDuration (start stop : DateTime) : Except Failure F64 := do
  decodeF64 (← fetchScalar engine db (spanDurationStatement r start stop))

/-- `compute_relative_change`. -/
def computeRelativeChange (start stop : DateTime) : Except Failure F64 :=
  match start.checkedAdd (-(stop.nanos - start.nanos)) with
  | none => .error .panic
  | some previousStart => do
    let current ← fetchCount engine db (countStatement r start stop)
    let previous ← fetchCount engine db (countStatement r previousStart start)
    let base := (F64.ofInt previous).max (F64.ofInt (max r.minCount 1 : Nat))
    return (F64.ofInt current).div base

/-- `compute_value`; the statement of the buckets of an anomaly, which joins, is not read. -/
def computeValue (now : DateTime) : Except Failure F64 := do
  let start ← secondsBefore now r.windowSecs
  match r.kind with
  | .logGroupCount | .logNewSignature | .composite => throw .error
  | .logCount | .telemetryCount => computeCount engine db r start now
  | .metricThreshold => computeMetric engine db r start now
  | .errorRatio => computeErrorRatio engine db r start now
  | .spanDuration => computeSpanDuration engine db r start now
  | .relativeChange => computeRelativeChange engine db r start now
  | .anomaly => computeAnomaly db r now

/-- `compute_groups`. -/
def computeGroups (now : DateTime) : Except Failure (List (String × F64)) := do
  let start ← secondsBefore now r.windowSecs
  let expr ← (r.groupExpr.mapError fun _ => .error)
  return namedGroups (← fetchGroups engine db (groupsStatement r expr start now))

/-- `compute_novel_groups`. -/
def computeNovelGroups (now : DateTime) : Except Failure (List (String × F64)) := do
  let start ← secondsBefore now r.windowSecs
  let baselineStart ← secondsBefore now (r.baselineSecs.getD 86400)
  let expr ← (r.groupExpr.mapError fun _ => .error)
  return namedGroups
    (← fetchGroups engine db (novelGroupsStatement r expr baselineStart start now))

/-- The number of conditions of a composite that are met. -/
def conditionsMet (now : DateTime) : List Rule → Except Failure Nat
  | [] => .ok 0
  | c :: cs => do
    let value ← computeValue engine db c now
    let met ← conditionsMet now cs
    return if c.comparator.compare value c.threshold then met + 1 else met

/-- The queries of a rule, as the statements that are sent. -/
def compute (now : DateTime) : Except Failure Computed :=
  match r.kind with
  | .logGroupCount => (computeGroups engine db r now).map .groups
  | .logNewSignature => (computeNovelGroups engine db r now).map .groups
  | .composite => (conditionsMet engine db now r.conditions).map .composite
  | _ => (computeValue engine db r now).map .scalar

end Sent

section Computations

variable {engine : Engine} {db : Database} {r : Rule}

theorem fetchCount_count (start stop : DateTime) :
    fetchCount engine db (countStatement r start stop) =
      .ok (countRows db r.source (windowed start stop ++ countFilter r)) :=
  fetchCount_of_reads (reads_countFilter (reads_windowedQuery "count(*)"))

example : (countStatement { kind := .logCount, tenant := some "acme" } ⟨0⟩ ⟨1⟩).query =
    ("SELECT count(*) FROM logs WHERE log_time >= $1 AND log_time <= $2 " ++
      "AND tenant_id = $3").toList := by
  decide

theorem fetchCount_total (start stop : DateTime) :
    fetchCount engine db (totalStatement r start stop) =
      .ok (countRows db r.source (windowed start stop ++ baseFilter r)) :=
  fetchCount_of_reads (reads_baseFilter (reads_windowedQuery "count(*)"))

theorem fetchCount_errors (start stop : DateTime) :
    fetchCount engine db (errorsStatement r start stop) =
      .ok (countRows db r.source (windowed start stop ++ baseFilter r ++ errorPredicate r)) :=
  fetchCount_of_reads (reads_errorPredicate (reads_baseFilter (reads_windowedQuery "count(*)")))

theorem computeMetric_sent (start stop : DateTime) :
    Sent.computeMetric engine db r start stop = computeMetric engine db r start stop := by
  unfold Sent.computeMetric computeMetric metricStatement
  dsimp only
  by_cases hlast : r.agg.getD .avg = .last
  · rw [if_pos hlast, hlast]
    exact fetchScalar_latest (reads_metricFilter (reads_windowedQuery pointValue)) (by decide) rfl
      rfl
  · rw [if_neg hlast]
    obtain ⟨hselection, hread⟩ := readSelection_point hlast
    exact fetchScalar_aggregate (reads_metricFilter (reads_windowedQuery _)) hselection hlast hread

theorem computeSpanDuration_sent (start stop : DateTime) :
    Sent.computeSpanDuration engine db r start stop =
      computeSpanDuration engine db r start stop := by
  have hfilters : windowed start stop ++ [fun row : Row => row.durationMs.isSome] ++ spanFilter r =
      windowed start stop ++ (fun row => row.durationMs.isSome) :: spanFilter r :=
    List.append_assoc _ _ _
  unfold Sent.computeSpanDuration computeSpanDuration spanDurationStatement
  dsimp only
  rw [← hfilters]
  by_cases hlast : r.agg.getD .p95 = .last
  · rw [if_pos hlast, hlast]
    exact fetchScalar_latest (reads_spanFilter (reads_duration (reads_windowedQuery _)))
      (by decide) rfl rfl
  · rw [if_neg hlast]
    obtain ⟨hselection, hread⟩ := readSelection_duration hlast
    exact fetchScalar_aggregate (reads_spanFilter (reads_duration (reads_windowedQuery _)))
      hselection hlast hread

theorem computeErrorRatio_sent (start stop : DateTime) :
    Sent.computeErrorRatio engine db r start stop = .ok (computeErrorRatio db r start stop) := by
  unfold Sent.computeErrorRatio computeErrorRatio
  rw [fetchCount_total, fetchCount_errors]
  dsimp only
  show (if _ then _ else _ : Except Failure F64) = _
  split <;> rfl

theorem computeRelativeChange_sent (start stop : DateTime) :
    Sent.computeRelativeChange engine db r start stop = computeRelativeChange db r start stop := by
  unfold Sent.computeRelativeChange computeRelativeChange
  cases start.checkedAdd (-(stop.nanos - start.nanos)) with
  | none => rfl
  | some previousStart =>
    dsimp only
    rw [fetchCount_count, fetchCount_count]
    rfl

theorem computeValue_sent (now : DateTime) :
    Sent.computeValue engine db r now = computeValue engine db r now := by
  unfold Sent.computeValue computeValue
  cases secondsBefore now r.windowSecs with
  | error e => rfl
  | ok start =>
    show (match r.kind with
      | .logGroupCount | .logNewSignature | .composite => throw Failure.error
      | .logCount | .telemetryCount => Sent.computeCount engine db r start now
      | .metricThreshold => Sent.computeMetric engine db r start now
      | .errorRatio => Sent.computeErrorRatio engine db r start now
      | .spanDuration => Sent.computeSpanDuration engine db r start now
      | .relativeChange => Sent.computeRelativeChange engine db r start now
      | .anomaly => computeAnomaly db r now : Except Failure F64) = _
    have hcount : Sent.computeCount engine db r start now =
        .ok (computeCount db r start now) := by
      unfold Sent.computeCount
      rw [fetchCount_count]
      rfl
    rw [hcount, computeMetric_sent, computeErrorRatio_sent, computeSpanDuration_sent,
      computeRelativeChange_sent]
    rfl

theorem computeGroups_sent (now : DateTime) :
    Sent.computeGroups engine db r now = computeGroups engine db r now := by
  unfold Sent.computeGroups computeGroups
  cases secondsBefore now r.windowSecs with
  | error e => rfl
  | ok start =>
    cases hgroup : r.groupExpr with
    | error e => rfl
    | ok group =>
      show (fetchGroups engine db (groupsStatement r group start now) >>= fun groups =>
        Except.ok (namedGroups groups)) = _
      rw [fetchGroups_groups (allowed_of_groupExpr hgroup)]
      show _ = (if (!groupable engine group) = true then _ else _ : Except Failure _)
      cases groupable engine group <;> rfl

theorem computeNovelGroups_sent (now : DateTime) :
    Sent.computeNovelGroups engine db r now = computeNovelGroups engine db r now := by
  unfold Sent.computeNovelGroups computeNovelGroups
  cases secondsBefore now r.windowSecs with
  | error e => rfl
  | ok start =>
    cases secondsBefore now (r.baselineSecs.getD 86400) with
    | error e => rfl
    | ok baselineStart =>
      cases hgroup : r.groupExpr with
      | error e => rfl
      | ok group =>
        show (fetchGroups engine db (novelGroupsStatement r group baselineStart start now) >>=
          fun groups => Except.ok (namedGroups groups)) = _
        rw [fetchGroups_novel (allowed_of_groupExpr hgroup)]
        show _ = (if (!groupable engine group) = true then _ else _ : Except Failure _)
        cases groupable engine group <;> rfl

theorem conditionsMet_sent (now : DateTime) (conditions : List Rule) :
    Sent.conditionsMet engine db now conditions = conditionsMet engine db now conditions := by
  induction conditions with
  | nil => rfl
  | cons c cs ih =>
    unfold Sent.conditionsMet conditionsMet
    rw [computeValue_sent, ih]

/-- **What a rule computes through the texts it sends is what its conditions give.** -/
theorem computed_of_statements (engine : Engine) (db : Database) (r : Rule) (now : DateTime) :
    Sent.compute engine db r now = compute engine db r now := by
  unfold Sent.compute compute
  cases r.kind with
  | logGroupCount => exact congrArg (Except.map Computed.groups) (computeGroups_sent now)
  | logNewSignature => exact congrArg (Except.map Computed.groups) (computeNovelGroups_sent now)
  | composite =>
    exact congrArg (Except.map Computed.composite) (conditionsMet_sent now r.conditions)
  | logCount | metricThreshold | telemetryCount | errorRatio | spanDuration | relativeChange
  | anomaly => exact congrArg (Except.map Computed.scalar) (computeValue_sent now)

end Computations

end Datacat.Alerting
