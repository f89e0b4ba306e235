import Datacat.Alerting.Eval
import Datacat.Alerting.Windows

/-!
# Aggregates

A rule on a metric, or on the durations of spans, fetches one aggregate of the rows of its window.
The aggregate is null when there is no value, and so is the column of a point without a number. A
null is not decoded: the evaluation ends with an error, and the state stays as it was. A count is
not decoded either, since it is an integer.

## Main results

- `fetchAggregate_returned_iff`: when what is fetched is the aggregate of the values, and 0 where
  there is none.
- `aggregates_iff`: the same for both kinds of rules, with the evaluation on 0 of a rule whose data
  have gone.
-/

namespace Datacat.Alerting

open Basics

/-! ## The property -/

/-- What is documented of the database: an aggregate of nothing is null, and the latest row is one
of the latest. -/
structure Engine.Documented (engine : Engine) : Prop where
  aggregate_nil : ∀ agg, engine.aggregate agg [] = .ok none
  latest_eq_none_iff : ∀ rows, engine.latest rows = none ↔ rows = []
  latest_mem : ∀ rows value, engine.latest rows = some value →
    ∃ time, (time, value) ∈ rows ∧ ∀ p ∈ rows, p.1 ≤ time

/-- The aggregate of the values that are not null; 0 when there is none. -/
def IsAggregate (engine : Engine) (agg : Agg) (column : Row → Option F64) (rows : List Row)
    (x : F64) : Prop :=
  if rows.filterMap column = [] then x = F64.ofInt 0
  else
    match agg with
    | .count => x = F64.ofInt (rows.filterMap column).length
    | .last => ∃ row ∈ rows, column row = some x ∧
        ∀ row' ∈ rows, (column row').isSome = true → row'.time ≤ row.time
    | agg => engine.aggregate agg (rows.filterMap column) = .ok (some x)

/-- The points of the metric in a window. -/
def metricRows (db : Database) (r : Rule) (start stop : DateTime) : List Row :=
  select db .metrics (windowed start stop ++ metricFilter r)

/-- The spans of the rule in a window. -/
def spanRows (db : Database) (r : Rule) (start stop : DateTime) : List Row :=
  select db .spans (windowed start stop ++ spanFilter r)

/-- The rule is evaluated on 0, in whatever state. -/
def EvaluatedOnZero (engine : Engine) (db : Database) (r : Rule) (now : DateTime) : Prop :=
  ∀ (round : Round) (state : AlertEngineState), round.rule = r → round.now = now →
    evaluateRule engine db round state =
      some (round.performComputed state (.scalar (F64.ofInt 0)))

/-- A rule on a metric gets the aggregate of its values, and 0 when its data have gone. -/
structure MetricHolds (engine : Engine) (db : Database) (r : Rule) (start stop : DateTime) :
    Prop where
  returned : ∃ x, computeMetric engine db r start stop = .ok x ∧
    IsAggregate engine (r.agg.getD .avg) Row.value (metricRows db r start stop) x
  gone : (metricRows db r start stop).filterMap Row.value = [] → r.kind = .metricThreshold →
    secondsBefore stop r.windowSecs = .ok start → EvaluatedOnZero engine db r stop

/-- A rule on the durations of spans gets the aggregate of these, and 0 when there is none. -/
structure SpanHolds (engine : Engine) (db : Database) (r : Rule) (start stop : DateTime) :
    Prop where
  returned : ∃ x, computeSpanDuration engine db r start stop = .ok x ∧
    IsAggregate engine (r.agg.getD .p95) Row.durationMs (spanRows db r start stop) x
  gone : (spanRows db r start stop).filterMap Row.durationMs = [] → r.kind = .spanDuration →
    secondsBefore stop r.windowSecs = .ok start → EvaluatedOnZero engine db r stop

/-- There is a value, and the database computes the aggregate. -/
def Aggregable (engine : Engine) (agg : Agg) (values : List F64) : Prop :=
  values ≠ [] ∧ ∃ x, engine.aggregate agg values = .ok (some x)

/-- What the query answers is decoded. -/
def Answered (engine : Engine) (agg : Agg) (column : Row → Option F64) (rows : List Row) : Prop :=
  agg ≠ .count ∧
    (agg = .last → engine.latest (rows.map fun row => (row.time, column row)) ≠ some none) ∧
    (agg ≠ .last → Aggregable engine agg (rows.filterMap column))

/-! ## What is fetched -/

section Fetched

variable {engine : Engine} {agg : Agg} {column : Row → Option F64} {rows : List Row}

/-- The value on the latest row, when it has one. -/
theorem fetchAggregate_last_iff (hengine : engine.Documented) :
    (∃ x, fetchAggregate engine .last column rows = .ok x ∧
        IsAggregate engine .last column rows x) ↔
      engine.latest (rows.map fun row => (row.time, column row)) ≠ some none := by
  unfold fetchAggregate IsAggregate
  dsimp only
  cases hlatest : engine.latest (rows.map fun row => (row.time, column row)) with
  | none =>
    -- There is no row, and 0 is returned.
    obtain rfl : rows = [] := List.map_eq_nil_iff.mp ((hengine.latest_eq_none_iff _).mp hlatest)
    constructor
    · intro _
      exact nofun
    · intro _
      refine ⟨F64.ofInt 0, rfl, ?_⟩
      rw [if_pos List.filterMap_nil]
  | some value =>
    cases value with
    | none =>
      constructor
      · rintro ⟨x, hx, -⟩
        cases hx
      · intro h
        exact absurd rfl h
    | some x =>
      obtain ⟨time, hmem, hmax⟩ := hengine.latest_mem _ _ hlatest
      obtain ⟨row, hrow, hpair⟩ := List.mem_map.mp hmem
      obtain ⟨rfl, hvalue⟩ := Prod.mk.inj hpair
      constructor
      · intro _
        exact fun h => Option.some_ne_none x (Option.some.inj h)
      · intro _
        have hvalues : rows.filterMap column ≠ [] :=
          List.ne_nil_of_mem (List.mem_filterMap.mpr ⟨row, hrow, hvalue⟩)
        refine ⟨x, rfl, ?_⟩
        rw [if_neg hvalues]
        refine ⟨row, hrow, hvalue, fun row' hrow' _ => ?_⟩
        exact hmax _ (List.mem_map_of_mem hrow')

/-- The other aggregates go through the engine. -/
theorem fetchAggregate_eq (hcount : agg ≠ .count) (hlast : agg ≠ .last) :
    fetchAggregate engine agg column rows =
      (engine.aggregate agg (rows.filterMap column)).bind fun value =>
        decodeF64 (some (.ofOption value)) := by
  cases agg with
  | count => exact absurd rfl hcount
  | last => exact absurd rfl hlast
  | _ => rfl

theorem isAggregate_iff {x : F64} (hcount : agg ≠ .count) (hlast : agg ≠ .last)
    (hvalues : rows.filterMap column ≠ []) :
    IsAggregate engine agg column rows x ↔
      engine.aggregate agg (rows.filterMap column) = .ok (some x) := by
  unfold IsAggregate
  rw [if_neg hvalues]
  cases agg with
  | count => exact absurd rfl hcount
  | last => exact absurd rfl hlast
  | _ => rfl

/-- The aggregate, when it is not null. -/
theorem fetchAggregate_iff (hengine : engine.Documented) (hcount : agg ≠ .count)
    (hlast : agg ≠ .last) :
    (∃ x, fetchAggregate engine agg column rows = .ok x ∧
        IsAggregate engine agg column rows x) ↔
      Aggregable engine agg (rows.filterMap column) := by
  rw [fetchAggregate_eq hcount hlast]
  constructor
  · rintro ⟨x, hx, haggregate⟩
    -- Without a value the aggregate is null, which is not decoded.
    have hvalues : rows.filterMap column ≠ [] := by
      intro hnone
      rw [hnone, hengine.aggregate_nil agg] at hx
      cases hx
    exact ⟨hvalues, x, (isAggregate_iff hcount hlast hvalues).mp haggregate⟩
  · rintro ⟨hvalues, x, hx⟩
    refine ⟨x, ?_, (isAggregate_iff hcount hlast hvalues).mpr hx⟩
    rw [hx]
    rfl

/-- What is fetched is the aggregate when the answer of the query is decoded. -/
theorem fetchAggregate_returned_iff (hengine : engine.Documented) :
    (∃ x, fetchAggregate engine agg column rows = .ok x ∧
        IsAggregate engine agg column rows x) ↔
      Answered engine agg column rows := by
  unfold Answered
  by_cases hcount : agg = .count
  · -- A count is a BIGINT, which no query decodes as an f64.
    subst hcount
    constructor
    · rintro ⟨x, hx, -⟩
      cases hx
    · intro h
      exact absurd rfl h.1
  · by_cases hlast : agg = .last
    · subst hlast
      -- It is the latest row that decides, whatever its value.
      rw [fetchAggregate_last_iff hengine]
      constructor
      · intro h
        exact ⟨hcount, fun _ => h, fun h => absurd rfl h⟩
      · intro h
        exact h.2.1 rfl
    · -- The others are null without a value.
      rw [fetchAggregate_iff hengine hcount hlast]
      constructor
      · intro h
        exact ⟨hcount, fun h => absurd h hlast, fun _ => h⟩
      · intro h
        exact h.2.2 hlast

theorem filterMap_filter_isSome (column : Row → Option F64) (rows : List Row) :
    (rows.filter fun row => (column row).isSome).filterMap column = rows.filterMap column := by
  rw [List.filterMap_filter]
  apply List.filterMap_congr
  intro row _
  cases column row <;> rfl

/-- The rows whose column is null play no part in an aggregate. -/
theorem isAggregate_filter {x : F64} :
    IsAggregate engine agg column (rows.filter fun row => (column row).isSome) x ↔
      IsAggregate engine agg column rows x := by
  unfold IsAggregate
  rw [filterMap_filter_isSome]
  cases agg with
  | last =>
    -- The last one looks at the rows, the others at the values only.
    have hmem {row : Row} : row ∈ rows.filter (fun row => (column row).isSome) ↔
        row ∈ rows ∧ (column row).isSome = true := List.mem_filter
    by_cases hnone : rows.filterMap column = []
    · rw [if_pos hnone, if_pos hnone]
    · rw [if_neg hnone, if_neg hnone]
      constructor
      · rintro ⟨row, hrow, hvalue, hmax⟩
        exact ⟨row, (hmem.mp hrow).1, hvalue,
          fun row' hrow' hsome => hmax row' (hmem.mpr ⟨hrow', hsome⟩) hsome⟩
      · rintro ⟨row, hrow, hvalue, hmax⟩
        refine ⟨row, hmem.mpr ⟨hrow, ?_⟩, hvalue,
          fun row' hrow' hsome => hmax row' (hmem.mp hrow').1 hsome⟩
        rw [hvalue]
        rfl
  | _ => rfl

end Fetched

/-! ## The rules -/

section Rules

variable {engine : Engine} {db : Database} {r : Rule} {start stop : DateTime}

/-- A rule that gets the aggregate is evaluated on 0 when it has no value. -/
theorem evaluatedOnZero_of_returned {agg : Agg} {column : Row → Option F64} {rows : List Row}
    {result : Except Failure F64} (hcompute : compute engine db r stop = result.map .scalar)
    (hreturned : ∃ x, result = .ok x ∧ IsAggregate engine agg column rows x)
    (hnone : rows.filterMap column = []) : EvaluatedOnZero engine db r stop := by
  obtain ⟨x, rfl, haggregate⟩ := hreturned
  unfold IsAggregate at haggregate
  rw [if_pos hnone] at haggregate
  rintro round state rfl rfl
  unfold evaluateRule
  rw [hcompute, haggregate]
  rfl

theorem metricHolds_iff (hengine : engine.Documented) :
    MetricHolds engine db r start stop ↔
      Answered engine (r.agg.getD .avg) Row.value (metricRows db r start stop) := by
  rw [← fetchAggregate_returned_iff hengine]
  constructor
  · intro h
    exact h.returned
  · intro hreturned
    refine ⟨hreturned, fun hnone hkind hstart => ?_⟩
    have hcompute : compute engine db r stop =
        (computeMetric engine db r start stop).map .scalar := by
      rw [compute, hkind, computeValue, hstart, hkind]
      rfl
    exact evaluatedOnZero_of_returned hcompute hreturned hnone

/-- The query of the durations asks for those that are not null. -/
theorem computeSpanDuration_eq :
    computeSpanDuration engine db r start stop =
      fetchAggregate engine (r.agg.getD .p95) Row.durationMs
        ((spanRows db r start stop).filter fun row => row.durationMs.isSome) := by
  unfold computeSpanDuration spanRows select
  rw [List.filter_filter]
  congr 1
  apply List.filter_congr
  intro row _
  rw [List.all_append, List.all_append, List.all_cons, Bool.and_left_comm]

/-- Of the durations, the latest is one. -/
theorem answered_spanRows_iff (hengine : engine.Documented) (agg : Agg) (rows : List Row) :
    Answered engine agg Row.durationMs (rows.filter fun row => row.durationMs.isSome) ↔
      agg ≠ .count ∧
        (agg ≠ .last → Aggregable engine agg (rows.filterMap Row.durationMs)) := by
  have hlatest : engine.latest ((rows.filter fun row => row.durationMs.isSome).map
      fun row => (row.time, row.durationMs)) ≠ some none := by
    intro hnull
    obtain ⟨time, hmem, -⟩ := hengine.latest_mem _ _ hnull
    obtain ⟨row, hrow, hpair⟩ := List.mem_map.mp hmem
    have hsome := (List.mem_filter.mp hrow).2
    rw [(Prod.mk.inj hpair).2] at hsome
    cases hsome
  unfold Answered
  rw [filterMap_filter_isSome]
  exact and_congr_right fun _ => and_iff_right fun _ => hlatest

theorem spanHolds_iff (hengine : engine.Documented) :
    SpanHolds engine db r start stop ↔
      r.agg.getD .p95 ≠ .count ∧
        (r.agg.getD .p95 ≠ .last → Aggregable engine (r.agg.getD .p95)
          ((spanRows db r start stop).filterMap Row.durationMs)) := by
  have hreturned : (∃ x, computeSpanDuration engine db r start stop = .ok x ∧
      IsAggregate engine (r.agg.getD .p95) Row.durationMs (spanRows db r start stop) x) ↔
        r.agg.getD .p95 ≠ .count ∧
          (r.agg.getD .p95 ≠ .last → Aggregable engine (r.agg.getD .p95)
            ((spanRows db r start stop).filterMap Row.durationMs)) := by
    rw [← answered_spanRows_iff hengine, ← fetchAggregate_returned_iff hengine,
      computeSpanDuration_eq]
    exact exists_congr fun x => and_congr_right fun _ => isAggregate_filter.symm
  -- The rule is evaluated on 0 as soon as a value is returned.
  rw [← hreturned]
  constructor
  · intro h
    exact h.returned
  · intro hreturned
    refine ⟨hreturned, fun hnone hkind hstart => ?_⟩
    have hcompute : compute engine db r stop =
        (computeSpanDuration engine db r start stop).map .scalar := by
      rw [compute, hkind, computeValue, hstart, hkind]
      rfl
    exact evaluatedOnZero_of_returned hcompute hreturned hnone

/-- **Aggregates.** A rule on a metric gets the aggregate exactly when it is not a count, when the
latest point has a value in the case of the last one, and when there is a value and the database
aggregates without an error in the other cases. For the durations of spans the same holds, but the
last one needs nothing. -/
theorem aggregates_iff (hengine : engine.Documented) (db : Database) (r : Rule)
    (start stop : DateTime) :
    (MetricHolds engine db r start stop ↔
      Answered engine (r.agg.getD .avg) Row.value (metricRows db r start stop)) ∧
    (SpanHolds engine db r start stop ↔
      r.agg.getD .p95 ≠ .count ∧
        (r.agg.getD .p95 ≠ .last → Aggregable engine (r.agg.getD .p95)
          ((spanRows db r start stop).filterMap Row.durationMs))) :=
  ⟨metricHolds_iff hengine, spanHolds_iff hengine⟩

end Rules

/-! ## A database that aggregates -/

/-- A row of the latest time. -/
def latestOf {α : Type} : List (DateTime × α) → Option (DateTime × α)
  | [] => none
  | p :: rows =>
    match latestOf rows with
    | none => some p
    | some q => if p.1 < q.1 then some q else some p

theorem latestOf_spec {α : Type} (rows : List (DateTime × α)) :
    (latestOf rows = none ↔ rows = []) ∧
      ∀ p, latestOf rows = some p → p ∈ rows ∧ ∀ p' ∈ rows, p'.1 ≤ p.1 := by
  induction rows with
  | nil => exact ⟨Iff.intro (fun _ => rfl) fun _ => rfl, nofun⟩
  | cons p rows ih =>
    obtain ⟨hnone, hsome⟩ := ih
    unfold latestOf
    cases hlatest : latestOf rows with
    | none =>
      -- It is the only row.
      obtain rfl := hnone.mp hlatest
      refine ⟨Iff.intro nofun nofun, ?_⟩
      rintro _ ⟨⟩
      exact ⟨List.mem_singleton.mpr rfl, fun p' hp' => (List.mem_singleton.mp hp').symm ▸ le_rfl⟩
    | some q =>
      obtain ⟨hq, hmax⟩ := hsome q hlatest
      dsimp only
      by_cases hlt : p.1 < q.1
      · -- A later row comes after it.
        rw [if_pos hlt]
        refine ⟨Iff.intro nofun nofun, ?_⟩
        rintro _ ⟨⟩
        exact ⟨List.mem_cons_of_mem _ hq, List.forall_mem_cons.mpr ⟨hlt.le, hmax⟩⟩
      · -- None of the rows after it is later.
        rw [if_neg hlt]
        refine ⟨Iff.intro nofun nofun, ?_⟩
        rintro _ ⟨⟩
        refine ⟨List.mem_cons_self, List.forall_mem_cons.mpr ⟨le_rfl, ?_⟩⟩
        exact fun p' hp' => (hmax p' hp').trans (not_lt.mp hlt)

/-- A database, as far as averages, sums and maxima go. -/
def plainEngine : Engine where
  aggregate agg
    | [] => .ok none
    | x :: xs =>
      match agg with
      | .avg => .ok (some ((xs.foldl F64.add x).div (F64.ofInt (xs.length + 1))))
      | .sum => .ok (some (xs.foldl F64.add x))
      | .max => .ok (some (xs.foldl F64.max x))
      | _ => .error .error
  latest rows := (latestOf rows).map Prod.snd
  attributeText _ _ := none
  identifiesParameters := false

theorem documented_plainEngine : plainEngine.Documented where
  aggregate_nil _ := rfl
  latest_eq_none_iff rows := by
    rw [← (latestOf_spec rows).1]
    exact Option.map_eq_none_iff
  latest_mem rows value h := by
    obtain ⟨⟨time, value⟩, hlatest, rfl⟩ := Option.map_eq_some_iff.mp h
    exact ⟨time, (latestOf_spec rows).2 _ hlatest⟩

/-- A rule on the mean load of a minute. -/
def load : Rule :=
  { name := "load", kind := .metricThreshold, metricName := some "load", agg := some .avg,
    windowSecs := 60 }

/-- A point of a second; a histogram has no value. -/
def pointAt (secs : Int) (value : Option F64) : Metrics.StoredMetricPoint where
  pointId := ⟨.replicate 16 0⟩
  time := ⟨secs * 1000000000⟩
  metricName := "load"
  metricType := .gauge
  unit := none
  valueDouble := value
  valueInt := none
  count := none
  sum := none
  buckets := none
  serviceName := none
  scopeName := none
  tenantId := none
  actorId := none
  sessionId := none
  receivedAt := ⟨secs * 1000000000⟩
  resourceAttributes := .object []
  attributes := .object []

def onlyPoints (points : List Metrics.StoredMetricPoint) : Database := ⟨[], [], [], points⟩

theorem aggregates_iff_load :
    MetricHolds plainEngine
      (onlyPoints [pointAt 10 (some (F64.ofInt 1)), pointAt 20 none, pointAt 30 (some (F64.ofInt 3))])
      load ⟨0⟩ ⟨60 * 1000000000⟩ := by
  apply (aggregates_iff documented_plainEngine _ _ _ _).1.mpr
  refine ⟨by decide, fun h => absurd h (by decide), fun _ => ⟨?_, _, rfl⟩⟩
  decide +kernel

/-- The data have gone, and the rule keeps firing. -/
theorem not_metricHolds_load :
    load.validate = .ok () ∧ ¬ MetricHolds plainEngine (onlyPoints []) load ⟨0⟩ ⟨60 * 1000000000⟩ ∧
      ∀ state, evaluateRule plainEngine (onlyPoints [])
        ⟨load, [], fun _ _ => true, ⟨60 * 1000000000⟩⟩ state = some (state, []) := by
  refine ⟨rfl, ?_, fun state => rfl⟩
  rintro ⟨⟨x, hx, -⟩, -⟩
  cases hx

end Datacat.Alerting
