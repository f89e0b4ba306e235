import Datacat.Alerting.Windows
import Datacat.Basics.Rounding
import Datacat.Db.Staging

/-!
# Error Ratios

An error ratio is computed by two queries: one counts the rows of the window, the other those in
error among them. They are two statements of the database, outside of any transaction, and the
ingest task commits merges of its own between them. The second query sees rows that the first one
did not count.

## Main results

- `prefix_of_run`: merges only add rows to what the first query saw.
- `errorRatio_iff`: the ratio is in the unit interval exactly when the rows in error that arrive
  between the queries are at most the rows that were there and are not in error, up to what the
  conversion to doubles tells apart.
-/

namespace Datacat.Alerting

open Basics

/-! ## Two queries -/

/-- `compute_error_ratio`, with what each of its queries finds in the database. -/
def errorRatio (first second : Database) (r : Rule) (start stop : DateTime) : F64 :=
  let total := countRows first r.source (windowed start stop ++ baseFilter r)
  if total.toNat < max r.minCount 1 then F64.ofInt 0
  else
    let errors :=
      countRows second r.source (windowed start stop ++ baseFilter r ++ errorPredicate r)
    (F64.ofInt errors).div (F64.ofInt total)

theorem errorRatio_self (db : Database) (r : Rule) (start stop : DateTime) :
    errorRatio db db r start stop = computeErrorRatio db r start stop := rfl

/-- The value is in `[0, 1]`. -/
def InUnit (value : F64) : Prop :=
  (F64.ofInt 0).le value = true ∧ value.le (F64.ofInt 1) = true

/-! ## The ingest tasks -/

/-- The stores of the four domains, each with a task that writes to it. -/
abbrev Stores (stamp : DateTime → DateTime) := ∀ d : Domain, Db.Store d stamp

section Stores

variable {stamp : DateTime → DateTime}

/-- What the queries see of them. -/
def Stores.database (s : Stores stamp) : Database where
  logs := (s .logs).table.rows
  events := (s .events).table.rows
  spans := (s .traces).table.rows
  metricPoints := (s .metrics).table.rows

/-- One of the tasks takes a step. -/
def Stores.Step (s : Stores stamp) (a : Σ d, Db.Action d) (s' : Stores stamp) : Prop :=
  Db.Step (s a.1) a.2 (s' a.1) ∧ ∀ d, d ≠ a.1 → s' d = s d

variable {s s' : Stores stamp} {a : Σ d, Db.Action d} {labels : List (Σ d, Db.Action d)}

theorem Stores.Step.rows_prefix (h : Stores.Step s a s') (d : Domain) :
    (s d).table.rows <+: (s' d).table.rows := by
  by_cases hd : d = a.1
  · subst hd
    exact h.1.table.1
  · rw [h.2 d hd]

theorem Stores.rows_prefix_of_run (h : Run Stores.Step s labels s') (d : Domain) :
    (s d).table.rows <+: (s' d).table.rows := by
  induction h with
  | nil => exact List.prefix_rfl
  | snoc hrun hstep ih => exact ih.trans (hstep.rows_prefix d)

/-- The merges only add rows to what the queries see. -/
theorem Stores.prefix_of_run (h : Run Stores.Step s labels s') (source : Source) :
    s.database.table source <+: s'.database.table source := by
  have hrows := Stores.rows_prefix_of_run h
  cases source with
  | logs => exact (hrows .logs).map Row.ofLog
  | events => exact (hrows .events).map Row.ofEvent
  | spans => exact (hrows .traces).map Row.ofSpan
  | metrics => exact (hrows .metrics).map Row.ofMetricPoint

end Stores

/-! ## What is counted -/

section Counts

variable {first second : Database} {r : Rule} {start stop : DateTime}

/-- The rows that the first query counts. -/
def ratioRows (db : Database) (r : Rule) (start stop : DateTime) : List Row :=
  select db r.source (windowed start stop ++ baseFilter r)

/-- `push_error_predicate`, of a row. -/
def inError (r : Rule) (row : Row) : Bool := (errorPredicate r).all fun f => f row

/-- The rows of the window that are not in error. -/
def healthy (db : Database) (r : Rule) (start stop : DateTime) : Nat :=
  (ratioRows db r start stop).countP fun row => !inError r row

/-- The rows in error of the window that are merged between the queries. -/
def arrived (first second : Database) (r : Rule) (start stop : DateTime) : Nat :=
  ((second.table r.source).drop (first.table r.source).length).countP fun row =>
    (windowed start stop ++ baseFilter r ++ errorPredicate r).all fun f => f row

/-- There is no sample, or what is merged between the queries does not outnumber the rows that are
not in error by anything that a double shows. -/
def RatioWhen (first second : Database) (r : Rule) (start stop : DateTime) : Prop :=
  let total := (ratioRows first r start stop).length
  let excess := arrived first second r start stop - healthy first r start stop
  total < max r.minCount 1 ∨ excess = 0 ∨
    F64.ofInt (total + excess : Nat) = F64.ofInt (total : Nat)

theorem length_ratioRows (first : Database) (r : Rule) (start stop : DateTime) :
    (ratioRows first r start stop).length =
      (ratioRows first r start stop).countP (inError r) + healthy first r start stop := by
  unfold healthy
  rw [List.length_eq_countP_add_countP (inError r)]
  simp

/-- The second query counts the rows in error that were there and those that arrived. -/
theorem errors_eq (h : first.table r.source <+: second.table r.source) :
    countRows second r.source (windowed start stop ++ baseFilter r ++ errorPredicate r) =
      ((ratioRows first r start stop).countP (inError r) + arrived first second r start stop : Nat)
    := by
  obtain ⟨rest, hrest⟩ := h
  unfold countRows ratioRows arrived select inError
  rw [← hrest, List.filter_append, List.length_append, List.drop_left, List.countP_filter,
    List.countP_eq_length_filter, List.countP_eq_length_filter]
  simp only [List.all_append, Bool.and_comm]

end Counts

/-! ## The ratio -/

section Ratio

variable {first second : Database} {r : Rule} {start stop : DateTime}

theorem ofInt_natCast (n : Nat) : F64.ofInt n = F64.ofRat n := by
  unfold F64.ofInt
  rw [Int.cast_natCast]

theorem inUnit_zero : InUnit (F64.ofInt 0) := by
  unfold InUnit
  rw [show F64.ofInt 0 = F64.ofRat 0 from ofInt_natCast 0,
    show F64.ofInt 1 = F64.ofRat 1 by simpa using ofInt_natCast 1]
  exact ⟨(F64.ofRat_le_ofRat_iff le_rfl le_rfl).mpr le_rfl,
    (F64.ofRat_le_ofRat_iff le_rfl zero_le_one).mpr (F64.roundMagnitude_mono zero_le_one)⟩

/-- A quotient of counts is in the unit interval exactly when its doubles are in order. -/
theorem inUnit_div_iff {errors total : Nat} (htotal : 1 ≤ total) :
    InUnit ((F64.ofInt errors).div (F64.ofInt total)) ↔
      errors ≤ total ∨ F64.ofInt errors = F64.ofInt total := by
  have herrors : (0 : ℚ) ≤ errors := Nat.cast_nonneg errors
  have hone : (1 : ℚ) ≤ total := Nat.one_le_cast.mpr htotal
  have hpos : (0 : ℚ) ≤ total := Nat.cast_nonneg total
  unfold InUnit
  rw [ofInt_natCast, ofInt_natCast, show F64.ofInt 0 = F64.ofRat 0 from ofInt_natCast 0,
    show F64.ofInt 1 = F64.ofRat 1 by simpa using ofInt_natCast 1,
    and_iff_right (F64.zero_le_div herrors hpos), F64.div_le_one_iff herrors hone,
    F64.ofRat_eq_iff herrors hpos]
  constructor
  · intro h
    rcases Nat.lt_or_ge total errors with hlt | hle
    · exact .inr (h.antisymm (F64.roundMagnitude_mono (by exact_mod_cast hlt.le)))
    · exact .inl hle
  · rintro (hle | heq)
    · exact F64.roundMagnitude_mono (by exact_mod_cast hle)
    · exact heq.le

theorem inUnit_iff_of_isPrefix (h : first.table r.source <+: second.table r.source) :
    InUnit (errorRatio first second r start stop) ↔ RatioWhen first second r start stop := by
  have htotal : countRows first r.source (windowed start stop ++ baseFilter r) =
      ((ratioRows first r start stop).length : Nat) := rfl
  unfold errorRatio RatioWhen
  dsimp only
  rw [htotal, errors_eq h, Int.toNat_natCast]
  split
  · rename_i hfew
    exact iff_of_true inUnit_zero (.inl hfew)
  · rename_i hmany
    rw [or_iff_right hmany, inUnit_div_iff (le_of_max_le_right (not_lt.mp hmany))]
    have hlength := length_ratioRows first r start stop
    -- Past the rows that are not in error, the errors exceed the total by the excess.
    rcases Nat.lt_or_ge (healthy first r start stop) (arrived first second r start stop)
      with hlt | hle
    · rw [or_iff_right (by omega), or_iff_right (by omega)]
      have hexcess : (ratioRows first r start stop).countP (inError r) +
          arrived first second r start stop = (ratioRows first r start stop).length +
            (arrived first second r start stop - healthy first r start stop) := by
        omega
      rw [hexcess]
    · exact iff_of_true (.inl (by omega)) (.inl (by omega))

/-- Up to 2^53 rows, doubles show any excess. -/
theorem ratioWhen_iff_of_le (hfew : (ratioRows first r start stop).length < 2 ^ 53) :
    RatioWhen first second r start stop ↔
      (ratioRows first r start stop).length < max r.minCount 1 ∨
        arrived first second r start stop ≤ healthy first r start stop := by
  unfold RatioWhen
  dsimp only
  apply or_congr_right
  rw [← Nat.sub_eq_zero_iff_le]
  apply or_iff_left_of_imp
  intro heq
  by_contra hne
  rw [ofInt_natCast, ofInt_natCast,
    F64.ofRat_eq_iff (Nat.cast_nonneg _) (Nat.cast_nonneg _)] at heq
  have hlt := F64.roundMagnitude_lt (Nat.lt_add_of_pos_right (Nat.pos_of_ne_zero hne)) hfew
  omega

/-- Without a merge between the queries, the ratio is one. -/
theorem inUnit_computeErrorRatio (db : Database) (r : Rule) (start stop : DateTime) :
    InUnit (computeErrorRatio db r start stop) := by
  rw [← errorRatio_self, inUnit_iff_of_isPrefix List.prefix_rfl]
  have hnone : arrived db db r start stop = 0 := by
    unfold arrived
    rw [List.drop_length, List.countP_nil]
  unfold RatioWhen
  rw [hnone, Nat.zero_sub]
  exact .inr (.inl rfl)

variable {stamp : DateTime → DateTime} {before after : Stores stamp}
  {labels : List (Σ d, Db.Action d)}

/-- **Error ratios.** Whatever the ingest tasks do between the two queries, the ratio is in the unit
interval exactly when there is no sample or the rows in error that are merged meanwhile are at most
those of the window that are not in error, up to what the conversion to doubles tells apart. -/
theorem errorRatio_iff (h : Run Stores.Step before labels after) :
    InUnit (errorRatio before.database after.database r start stop) ↔
      RatioWhen before.database after.database r start stop :=
  inUnit_iff_of_isPrefix (Stores.prefix_of_run h r.source)

end Ratio

/-! ## A batch between the queries -/

/-- The logs, when the other domains have nothing. -/
def storesOf (logs : Db.Store .logs id) : Stores id
  | .logs => logs
  | .events => ⟨[], [], ⟨[], List.Pairwise.nil⟩, .idle⟩
  | .traces => ⟨[], [], ⟨[], List.Pairwise.nil⟩, .idle⟩
  | .metrics => ⟨[], [], ⟨[], List.Pairwise.nil⟩, .idle⟩

theorem run_storesOf {s s' : Db.Store .logs id} {labels : List (Db.Action .logs)}
    (h : Run Db.Step s labels s') :
    Run Stores.Step (storesOf s) (labels.map (Sigma.mk Domain.logs)) (storesOf s') := by
  induction h with
  | nil => exact .nil
  | snoc hrun hstep ih =>
    rw [List.map_append, List.map_singleton]
    refine .snoc ih ⟨hstep, fun d hd => ?_⟩
    cases d with
    | logs => exact absurd rfl hd
    | events => rfl
    | traces => rfl
    | metrics => rfl

/-- The share of the errors among the logs of a minute. -/
def errorShare : Rule :=
  { name := "errors", kind := .errorRatio, source := .logs, windowSecs := 60 }

/-- A log of the second 30, of some severity. -/
def logOf (id : UInt8) (severity : Int16) : Domain.logs.Row :=
  ({ logId := ⟨.replicate 16 id⟩
     logTime := ⟨30 * 1000000000⟩
     observedTime := none
     receivedAt := ⟨30 * 1000000000⟩
     severityNumber := some severity
     severityText := none
     body := none
     serviceName := none
     scopeName := none
     traceId := none
     spanId := none
     tenantId := none
     actorId := none
     sessionId := none
     resourceAttributes := .object []
     logAttributes := .object [] } : Logs.StoredLog)

/-- The first query finds one log, which is not in error. -/
def calm : Db.Store .logs id where
  partitions := []
  staging := []
  table := ⟨[logOf 0 9], List.nodup_singleton _⟩
  phase := .idle

/-- Once a batch is merged. -/
def calmThen (batch : List Domain.logs.Row) : Db.Store .logs id :=
  { calm with staging := batch }.drained batch

theorem run_calmThen {batch : List Domain.logs.Row} (hbatch : batch ≠ [])
    (horder : Db.ReceivedInOrder id batch) :
    ∃ labels, Run Stores.Step (storesOf calm) labels (storesOf (calmThen batch)) := by
  have hrun : Run Db.Step calm [.copy batch, .ensure, .merge batch
      (calm.table.insertAll (distinctOn (Domain.logs.key id) batch)).2] (calmThen batch) := by
    apply Run.cons_iff.mpr ⟨_, .copy rfl hbatch, _⟩
    apply Run.cons_iff.mpr ⟨_, .ensure rfl, _⟩
    have hroutable := Db.routable_ensurePartitions { calm with staging := batch }
    exact Run.single (.merge (.inl rfl) hroutable .rfl horder)
  exact ⟨_, run_storesOf hrun⟩

/-- One log in error arrives: all of the logs counted are in error. -/
theorem errorRatio_iff_errorShare :
    InUnit (errorRatio (storesOf calm).database (storesOf (calmThen [logOf 1 17])).database
      errorShare ⟨0⟩ ⟨60 * 1000000000⟩) := by
  obtain ⟨labels, hrun⟩ := @run_calmThen [logOf 1 17] (List.cons_ne_nil _ _)
    (List.pairwise_singleton _ _)
  apply (errorRatio_iff hrun).mpr
  apply (ratioWhen_iff_of_le (by decide +kernel)).mpr
  decide +kernel

/-- Two arrive, and the ratio is 2. -/
theorem not_inUnit_errorShare :
    errorShare.validate = .ok () ∧
      (∃ labels, Run Stores.Step (storesOf calm) labels
        (storesOf (calmThen [logOf 1 17, logOf 2 17]))) ∧
      ¬ InUnit (errorRatio (storesOf calm).database
        (storesOf (calmThen [logOf 1 17, logOf 2 17])).database errorShare
        ⟨0⟩ ⟨60 * 1000000000⟩) := by
  obtain ⟨labels, hrun⟩ := @run_calmThen [logOf 1 17, logOf 2 17] (List.cons_ne_nil _ _)
    (List.pairwise_pair.mpr fun _ => le_rfl)
  refine ⟨rfl, ⟨labels, hrun⟩, ?_⟩
  rw [inUnit_iff_of_isPrefix (Stores.prefix_of_run hrun _), ratioWhen_iff_of_le (by decide +kernel)]
  decide +kernel

end Datacat.Alerting
