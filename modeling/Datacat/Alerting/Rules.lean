import Datacat.Basics.BTreeMap
import Datacat.Basics.Float64
import Datacat.Basics.Text

/-!
# Alerting Rules

The schema of the rules, their validation, and the filter that a project puts on its own. A
composite rule holds conditions that are rules themselves.
-/

namespace Datacat.Alerting

open Basics

inductive RuleKind where
  | logCount
  | logGroupCount
  | metricThreshold
  | telemetryCount
  | errorRatio
  | spanDuration
  | relativeChange
  | composite
  | logNewSignature
  | anomaly
deriving DecidableEq

/-- The `Debug` text. -/
def RuleKind.debug : RuleKind → String
  | logCount => "LogCount"
  | logGroupCount => "LogGroupCount"
  | metricThreshold => "MetricThreshold"
  | telemetryCount => "TelemetryCount"
  | errorRatio => "ErrorRatio"
  | spanDuration => "SpanDuration"
  | relativeChange => "RelativeChange"
  | composite => "Composite"
  | logNewSignature => "LogNewSignature"
  | anomaly => "Anomaly"

/-- How the conditions of a composite are combined. -/
inductive BoolOp where
  | all
  | any
deriving DecidableEq

inductive Source where
  | logs
  | events
  | spans
  | metrics
deriving DecidableEq

inductive Action where
  | slack (channel : Option String)
  /-- An e-mail to the recipients given (`to`), or to those of the configuration. -/
  | email (recipients : Option (List String))
  | webhook (url : String) (headers : BTreeMap String String)

inductive Agg where
  | avg
  | max
  | min
  | sum
  | count
  | last
  | p50
  | p90
  | p95
  | p99
deriving DecidableEq

def Agg.label : Agg → String
  | avg => "avg"
  | max => "max"
  | min => "min"
  | sum => "sum"
  | count => "count"
  | last => "last"
  | p50 => "p50"
  | p90 => "p90"
  | p95 => "p95"
  | p99 => "p99"

inductive Comparator where
  | gt
  | gte
  | lt
  | lte
deriving DecidableEq

/-- `value <comparator> threshold`. -/
def Comparator.compare (c : Comparator) (value threshold : F64) : Bool :=
  match c with
  | gt => threshold.lt value
  | gte => threshold.le value
  | lt => value.lt threshold
  | lte => value.le threshold

/-- No comparison holds of a value that is not a number. -/
@[simp] theorem Comparator.compare_nan (c : Comparator) (threshold : F64) :
    c.compare F64.nan threshold = false := by
  cases c with
  | gt => exact F64.lt_nan threshold
  | gte => exact F64.le_nan threshold
  | lt => exact F64.nan_lt threshold
  | lte => exact F64.nan_le threshold

def Comparator.symbol : Comparator → String
  | gt => ">"
  | gte => ">="
  | lt => "<"
  | lte => "<="

def defaultSeverity : String := "warning"

/-- The fields of `Rule`, its conditions apart. -/
structure RuleFields where
  name : String := ""
  kind : RuleKind
  source : Source := .logs
  service : Option String := none
  tenant : Option String := none
  severityMin : Option Int16 := none
  metricName : Option String := none
  agg : Option Agg := none
  eventName : Option String := none
  operation : Option String := none
  errorOnly : Bool := false
  /-- A `u64`, as the other numbers of seconds and of rows. -/
  minCount : Nat := 0
  baselineSecs : Option Nat := none
  windowSecs : Nat := 0
  comparator : Comparator := .gt
  threshold : F64 := ⟨0⟩
  cooldownSecs : Nat := 0
  severity : String := defaultSeverity
  groupBy : Option String := none
  op : Option BoolOp := none
  actions : List Action := []

structure Rule extends RuleFields where
  /-- The conditions of a composite. -/
  conditions : List Rule := []

/-- What a grouped rule groups by: a column of the white list or a key of the attributes. -/
inductive GroupExpr where
  | column (name : String)
  | attr (key : String)

/-! ## Validation -/

/-- Whether the rule has one state for each group. -/
def RuleKind.isGrouped : RuleKind → Bool
  | .logGroupCount | .logNewSignature => true
  | _ => false

/-- `group_expr`. -/
def Rule.groupExpr (r : Rule) : Except String GroupExpr :=
  let groupBy := r.groupBy.getD "body"
  if groupBy ∈ ["body", "service_name", "severity_text", "trace_id"] then .ok (.column groupBy)
  else
    match groupBy.toList.dropPrefix? "attr:".toList with
    | some (c :: cs) => .ok (.attr (String.ofList (c :: cs)))
    | _ => .error ("règle '" ++ r.name ++ "': group_by non supporté '" ++ groupBy ++
        "' (body|service_name|severity_text|trace_id|attr:<clé>)")

/-- A webhook needs an address. -/
def Action.validate (name : String) : Action → Except String Unit
  | .webhook url _ =>
    if (trim url.toList).isEmpty then .error ("règle '" ++ name ++ "': action webhook sans url")
    else .ok ()
  | _ => .ok ()

/-- What the kinds of rules that look at a window ask. -/
def Rule.validateKind (r : Rule) (asCondition : Bool) : Except String Unit :=
  match r.kind with
  | .metricThreshold =>
    if (r.metricName.getD "").isEmpty then
      .error ("règle '" ++ r.name ++ "': metric_threshold exige metric_name")
    else if r.agg.isNone then
      .error ("règle '" ++ r.name ++
        "': metric_threshold exige agg (avg|max|min|sum|count|last|p50..p99)")
    else .ok ()
  | .errorRatio =>
    if r.source = .logs ∨ r.source = .spans then .ok ()
    else .error ("règle '" ++ r.name ++ "': error_ratio exige source=logs ou source=spans")
  | .logGroupCount | .logNewSignature =>
    if asCondition then
      .error ("règle '" ++ r.name ++ "': " ++ r.kind.debug ++
        " ne peut pas être une sous-condition (non scalaire)")
    else r.groupExpr.map fun _ => ()
  | _ => .ok ()

mutual

/-- `validate_inner`. -/
def Rule.validateInner (asCondition : Bool) : Rule → Except String Unit
  | ⟨fields, conditions⟩ => do
    if fields.kind = .composite then
      if asCondition then throw ("règle '" ++ fields.name ++ "': composite imbriqué interdit")
      if conditions.isEmpty then throw ("règle '" ++ fields.name ++ "': composite sans conditions")
      Rule.validateConditions conditions
    else
      if fields.windowSecs = 0 then
        throw ("règle '" ++ fields.name ++ "': window_secs doit être > 0")
      Rule.validateKind ⟨fields, conditions⟩ asCondition
    forM fields.actions (Action.validate fields.name)

def Rule.validateConditions : List Rule → Except String Unit
  | [] => .ok ()
  | c :: cs => do
    Rule.validateInner true c
    Rule.validateConditions cs

end

/-- `validate`: a rule of the first level has a name. -/
def Rule.validate (r : Rule) : Except String Unit := do
  if (trim r.name.toList).isEmpty then throw "règle sans nom"
  r.validateInner false

/-- `parse_rules`, once the document is read: the rules when they are all valid. -/
def parseRules (rules : List Rule) : Except String (List Rule) := do
  forM rules Rule.validate
  return rules

/-! ## The filter of a project -/

mutual

/-- `apply_project_filter`. -/
def Rule.applyProjectFilter (service tenant : Option String) : Rule → Rule
  | ⟨fields, conditions⟩ =>
    { fields with
      service := fields.service.or service
      tenant := fields.tenant.or tenant
      conditions := Rule.applyProjectFilters service tenant conditions }

def Rule.applyProjectFilters (service tenant : Option String) : List Rule → List Rule
  | [] => []
  | c :: cs =>
    Rule.applyProjectFilter service tenant c :: Rule.applyProjectFilters service tenant cs

end

theorem Rule.applyProjectFilters_eq_map (service tenant : Option String) (rules : List Rule) :
    Rule.applyProjectFilters service tenant rules =
      rules.map (Rule.applyProjectFilter service tenant) := by
  induction rules with
  | nil => rfl
  | cons r rules ih => rw [Rule.applyProjectFilters, ih, List.map_cons]

/-- `load_project`, the rules: filtered, then validated. -/
def loadRules (service tenant : Option String) (rules : List Rule) : Except String (List Rule) :=
  parseRules (rules.map (Rule.applyProjectFilter service tenant))

/-! ## What validation gives -/

section Accepted

variable {r : Rule} {rules accepted : List Rule}

theorem forM_ok_iff {α : Type} {f : α → Except String Unit} {items : List α} :
    forM items f = .ok () ↔ ∀ x ∈ items, f x = .ok () := by
  induction items with
  | nil => simp [pure, Except.pure]
  | cons x items ih =>
    rw [List.forM_cons, List.forall_mem_cons, ← ih]
    cases hx : f x with
    | error e => simp [bind, Except.bind]
    | ok u => simp [bind, Except.bind]

theorem parseRules_eq_ok (h : parseRules rules = .ok accepted) :
    accepted = rules ∧ ∀ r ∈ rules, r.validate = .ok () := by
  unfold parseRules at h
  cases hall : forM rules Rule.validate with
  | error e =>
    rw [hall] at h
    cases h
  | ok u =>
    rw [hall] at h
    exact ⟨(Except.ok.inj h).symm, forM_ok_iff.mp hall⟩

theorem validateInner_of_validate (h : r.validate = .ok ()) : r.validateInner false = .ok () := by
  unfold Rule.validate at h
  split at h
  · cases h
  · exact h

/-- An accepted composite has conditions. -/
theorem conditions_ne_nil_of_validate (h : r.validate = .ok ()) (hkind : r.kind = .composite) :
    r.conditions ≠ [] := by
  have hinner := validateInner_of_validate h
  obtain ⟨fields, conditions⟩ := r
  rintro rfl
  rw [Rule.validateInner, if_pos hkind] at hinner
  cases hinner

end Accepted

end Datacat.Alerting
