import Datacat.Alerting.Rules

/-!
# Notifications

An alert is the transition of a rule's state, with the text that describes the rule. The dispatcher
says who is told: those that the rule's actions name, resolved once, or else the defaults. It
finds the resolved ones by the name of the rule.

## Main results

- `forRule_eq_configured`: among rules of different names, each is dispatched as it is configured.
-/

namespace Datacat.Alerting

open Basics

/-! ## Alerts -/

inductive AlertState where
  | firing
  | resolved
deriving DecidableEq

def AlertState.label : AlertState → String
  | firing => "FIRING"
  | resolved => "RESOLVED"

structure Alert where
  ruleName : String
  severity : String
  state : AlertState
  value : F64
  threshold : F64
  description : String
  groupKey : Option String
deriving DecidableEq

/-! ## Descriptions -/

/-- `source_desc`: the source and its filters. -/
def sourceDesc (r : RuleFields) : String :=
  let source :=
    match r.source with
    | .logs => "logs"
    | .events => "events"
    | .spans => "spans"
    | .metrics => "metrics"
  " ".intercalate ([source]
    ++ (r.service.map fun s => "service=" ++ s).toList
    ++ (r.severityMin.map fun n => "severity>=" ++ toString n.toInt).toList
    ++ (r.eventName.map fun s => "event=" ++ s).toList
    ++ (r.operation.map fun s => "op=" ++ s).toList
    ++ (r.metricName.map fun s => "metric=" ++ s).toList
    ++ if r.errorOnly then ["errors"] else [])

/-- The comparison with the threshold, and its unit. -/
def RuleFields.comparison (r : RuleFields) (unit : String) : String :=
  r.comparator.symbol ++ " " ++ String.ofList r.threshold.display ++ unit

/-- `over <window>s`. -/
def RuleFields.overWindow (r : RuleFields) : String := " over " ++ toString r.windowSecs ++ "s"

/-- The logs counted, by service and severity. -/
def RuleFields.countedLogs (r : RuleFields) : String :=
  "count(logs service=" ++ r.service.getD "*"
    ++ ((r.severityMin.map fun n => ", severity>=" ++ toString n.toInt).getD "") ++ ")"

mutual

/-- `describe`. -/
def describe : Rule → String
  | ⟨r, conditions⟩ =>
    match r.kind with
    | .logCount => r.countedLogs ++ " " ++ r.comparison "" ++ r.overWindow
    | .logGroupCount =>
      r.countedLogs ++ " by " ++ r.groupBy.getD "body" ++ " " ++ r.comparison "" ++ r.overWindow
    | .metricThreshold =>
      (r.agg.getD .avg).label ++ "(" ++ r.metricName.getD "" ++ ") " ++ r.comparison "" ++
        r.overWindow
    | .telemetryCount =>
      "count(" ++ sourceDesc r ++ ") " ++ r.comparison "" ++ r.overWindow
    | .errorRatio =>
      "error_ratio(" ++ sourceDesc r ++ ") " ++ r.comparison "" ++ r.overWindow
    | .spanDuration =>
      (r.agg.getD .p95).label ++ "(span.duration_ms service=" ++ r.service.getD "*"
        ++ ((r.operation.map fun o => " op=" ++ o).getD "")
        ++ (if r.errorOnly then " errors" else "") ++ ") " ++ r.comparison "ms" ++ r.overWindow
    | .relativeChange =>
      "change(" ++ sourceDesc r ++ ") " ++ r.comparison "x" ++ " vs previous "
        ++ toString r.windowSecs ++ "s"
    | .composite =>
      let parts := describeAll conditions
      match r.op.getD .all with
      | .all => "ALL of [" ++ " AND ".intercalate parts ++ "]"
      | .any => "ANY of [" ++ " OR ".intercalate parts ++ "]"
    | .logNewSignature =>
      "new signature(" ++ sourceDesc r ++ " by " ++ r.groupBy.getD "body" ++ ", baseline "
        ++ toString (r.baselineSecs.getD 86400) ++ "s) " ++ r.comparison "" ++ r.overWindow
    | .anomaly =>
      "anomaly(count " ++ sourceDesc r ++ ") z " ++ r.comparison "" ++ r.overWindow ++ " baseline "
        ++ toString (r.baselineSecs.getD (min (r.windowSecs * 30) (2 ^ 64 - 1))) ++ "s"

def describeAll : List Rule → List String
  | [] => []
  | c :: cs => describe c :: describeAll cs

end

example : describe
    { kind := .metricThreshold, metricName := some "http.server.duration", agg := some .avg,
      windowSecs := 300, threshold := F64.ofInt 500 } =
      "avg(http.server.duration) > 500 over 300s" := by decide +kernel

/-! ## Channels -/

structure SlackBot where
  token : String
  defaultChannel : String

structure EmailConfig where
  smtpHost : String
  smtpPort : UInt16
  username : Option String
  password : Option String
  sender : String
  recipients : List String
deriving DecidableEq

/-- `dyn Notifier`, by what it was built of. -/
inductive Notifier where
  | slack (token channel : String)
  | email (config : EmailConfig)
  | webhook (url : String) (headers : BTreeMap String String)
deriving DecidableEq

structure DispatchSettings where
  slack : Option SlackBot
  email : Option EmailConfig
  /-- Whether `EmailNotifier::new` accepts the configuration. -/
  emailAccepted : EmailConfig → Bool

/-- `resolve_action`: the notifier of an action, if it can be resolved. -/
def resolveAction (settings : DispatchSettings) : Action → List Notifier
  | .slack channel =>
    match settings.slack with
    | some bot => [.slack bot.token (channel.getD bot.defaultChannel)]
    | none => []
  | .email recipients =>
    match settings.email with
    | some base =>
      let config := { base with recipients := recipients.getD base.recipients }
      if config.recipients.isEmpty then []
      else if settings.emailAccepted config then [.email config] else []
    | none => []
  | .webhook url headers => [.webhook url headers]

structure Dispatcher where
  defaults : List Notifier
  /-- The notifiers of the rules that have actions, by name. -/
  perRule : BTreeMap String (List Notifier)

namespace Dispatcher

/-- `with_defaults`. -/
def withDefaults (defaults : List Notifier) : Dispatcher := ⟨defaults, .empty⟩

/-- The notifiers of a rule with actions enter the map under its name. -/
def addRule (settings : DispatchSettings) (perRule : BTreeMap String (List Notifier)) (r : Rule) :
    BTreeMap String (List Notifier) :=
  if r.actions.isEmpty then perRule
  else perRule.insert r.name (r.actions.flatMap (resolveAction settings))

def build (rules : List Rule) (settings : DispatchSettings) (defaults : List Notifier) :
    Dispatcher :=
  ⟨defaults, rules.foldl (addRule settings) .empty⟩

/-- `for_rule`. -/
def forRule (d : Dispatcher) (r : Rule) : List Notifier := (d.perRule.get r.name).getD d.defaults

end Dispatcher

/-- What a rule configures: the notifiers of its actions, or the defaults when it has none. -/
def Rule.configured (r : Rule) (settings : DispatchSettings) (defaults : List Notifier) :
    List Notifier :=
  if r.actions.isEmpty then defaults else r.actions.flatMap (resolveAction settings)

section Dispatch

variable {rules : List Rule} {settings : DispatchSettings} {defaults : List Notifier} {r : Rule}
  {name : String}

/-- An entry stays while more rules are added. -/
theorem isSome_foldl_addRule {perRule : BTreeMap String (List Notifier)}
    (h : (perRule.get name).isSome = true) :
    ((rules.foldl (Dispatcher.addRule settings) perRule).get name).isSome = true := by
  induction rules generalizing perRule with
  | nil => exact h
  | cons r rules ih =>
    rw [List.foldl_cons]
    apply ih
    unfold Dispatcher.addRule
    split
    · exact h
    · rw [BTreeMap.get_insert]
      split
      · rfl
      · exact h

/-- A rule with actions has an entry. -/
theorem isSome_of_mem (perRule : BTreeMap String (List Notifier)) (hr : r ∈ rules)
    (hactions : r.actions.isEmpty = false) :
    ((rules.foldl (Dispatcher.addRule settings) perRule).get r.name).isSome = true := by
  induction rules generalizing perRule with
  | nil => cases hr
  | cons r' rules ih =>
    rw [List.foldl_cons]
    rcases List.mem_cons.mp hr with rfl | hr
    · apply isSome_foldl_addRule
      unfold Dispatcher.addRule
      rw [hactions, if_neg Bool.false_ne_true, BTreeMap.get_insert, if_pos rfl]
      rfl
    · exact ih _ hr

/-- The entry of a name comes from a rule of this name, or was there before. -/
theorem get_foldl_addRule (perRule : BTreeMap String (List Notifier)) :
    (rules.foldl (Dispatcher.addRule settings) perRule).get name = perRule.get name ∨
      ∃ r ∈ rules, r.name = name ∧ r.actions.isEmpty = false ∧
        (rules.foldl (Dispatcher.addRule settings) perRule).get name =
          some (r.actions.flatMap (resolveAction settings)) := by
  induction rules generalizing perRule with
  | nil => exact .inl rfl
  | cons r rules ih =>
    rw [List.foldl_cons]
    rcases ih (Dispatcher.addRule settings perRule r) with hkeep | ⟨r', hr', hname, hactions, hget⟩
    · rw [hkeep]
      unfold Dispatcher.addRule
      cases hactions : r.actions.isEmpty with
      | true => exact .inl rfl
      | false =>
        by_cases hname : r.name = name
        · refine .inr ⟨r, List.mem_cons_self, hname, hactions, ?_⟩
          rw [if_neg Bool.false_ne_true, BTreeMap.get_insert, if_pos hname.symm]
        · rw [if_neg Bool.false_ne_true, BTreeMap.get_insert, if_neg (Ne.symm hname)]
          exact .inl rfl
    · exact .inr ⟨r', List.mem_cons_of_mem _ hr', hname, hactions, hget⟩

/-- A rule is dispatched as a rule of its name is configured. -/
theorem exists_forRule_eq_configured (hr : r ∈ rules) :
    ∃ r' ∈ rules, r'.name = r.name ∧
      (Dispatcher.build rules settings defaults).forRule r = r'.configured settings defaults := by
  have hget := @get_foldl_addRule rules settings r.name .empty
  unfold Dispatcher.build Dispatcher.forRule Rule.configured
  rcases hget with hnone | ⟨r', hr', hname, hactions, hsome⟩
  · rw [BTreeMap.get_empty] at hnone
    refine ⟨r, hr, rfl, ?_⟩
    cases hactions : r.actions.isEmpty with
    | true => rw [if_pos rfl, hnone, Option.getD_none]
    | false =>
      have hentry := @isSome_of_mem rules settings r .empty hr hactions
      rw [hnone] at hentry
      cases hentry
  · refine ⟨r', hr', hname, ?_⟩
    rw [hsome, hactions, if_neg Bool.false_ne_true, Option.getD_some]

/-- **Dispatch.** Among rules of different names, each rule goes to the notifiers it configured. -/
theorem forRule_eq_configured (hr : r ∈ rules) (hnames : ∀ r' ∈ rules, r'.name = r.name → r' = r) :
    (Dispatcher.build rules settings defaults).forRule r = r.configured settings defaults := by
  obtain ⟨r', hr', hname, hforRule⟩ := exists_forRule_eq_configured hr
  rw [hforRule, hnames r' hr' hname]

end Dispatch

end Datacat.Alerting
