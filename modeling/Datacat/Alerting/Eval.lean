import Datacat.Alerting.Queries
import Datacat.Alerting.Transition

/-!
# The Evaluator

Every rule is computed, and what it computes moves the states of its keys. A rule without groups
has one key, its name; a grouped rule has one for each group, its name and the group joined by two
colons, and finds those that fired before by this beginning.

## Main results

- `run_evaluateOnce`: a round of evaluations is a run of the state machine of the keys.
-/

namespace Datacat.Alerting

open Basics

/-! ## Applying what was computed -/

/-- The evaluations one after the other. -/
def perform (state : AlertEngineState) (es : List Evaluation) : AlertEngineState × List Label :=
  (stateOf state es, labelsOf state es)

/-- What the evaluations of a rule at an instant share. -/
structure Round where
  rule : Rule
  notifiers : List Notifier
  sends : Sends
  now : DateTime

namespace Round

/-- An evaluation of the only key of the rule. -/
def single (round : Round) (breaching : Bool) (value : F64) : Evaluation where
  key := round.rule.name
  breaching := breaching
  rule := round.rule
  value := value
  groupKey := none
  notifiers := round.notifiers
  sends := round.sends
  now := round.now

/-- `{name}::{group}`. -/
def groupStateKey (name group : String) : String := name ++ "::" ++ group

/-- An evaluation of the key of a group. -/
def group (round : Round) (group : String) (breaching : Bool) (value : F64) : Evaluation where
  key := groupStateKey round.rule.name group
  breaching := breaching
  rule := round.rule
  value := value
  groupKey := some group
  notifiers := round.notifiers
  sends := round.sends
  now := round.now

/-- The groups that fire and are not among those seen. -/
def staleGroups (round : Round) (seen : List String) (state : AlertEngineState) : List String :=
  state.entries.filterMap fun (key, entry) =>
    match key.toList.dropPrefix? (round.rule.name ++ "::").toList with
    | some group =>
      if entry.firing && !seen.contains (String.ofList group) then some (String.ofList group)
      else none
    | none => none

/-- The groups computed, then those that fired and have gone. -/
def performGroups (round : Round) (state : AlertEngineState) (groups : List (String × F64)) :
    AlertEngineState × List Label :=
  let computed := perform state (groups.map fun g =>
    round.group g.1 (round.rule.comparator.compare g.2 round.rule.threshold) g.2)
  let stale := perform computed.1
    ((round.staleGroups (groups.map Prod.fst) computed.1).map fun g =>
      round.group g false (F64.ofInt 0))
  (stale.1, computed.2 ++ stale.2)

/-- `evaluate_scalar_rule`, `evaluate_composite_rule` and `evaluate_group_rule`, once the queries
have answered. -/
def performComputed (round : Round) (state : AlertEngineState) :
    Computed → AlertEngineState × List Label
  | .scalar value =>
    perform state [round.single (round.rule.comparator.compare value round.rule.threshold) value]
  | .composite met =>
    let breaching :=
      match round.rule.op.getD .all with
      | .all => met == round.rule.conditions.length
      | .any => decide (1 ≤ met)
    perform state [round.single breaching (F64.ofInt met)]
  | .groups groups => round.performGroups state groups

end Round

/-- One rule of `evaluate_once`: an error of its queries leaves the state, a panic ends all. -/
def evaluateRule (engine : Engine) (db : Database) (round : Round) (state : AlertEngineState) :
    Option (AlertEngineState × List Label) :=
  match compute engine db round.rule round.now with
  | .ok computed => some (round.performComputed state computed)
  | .error .error => some (state, [])
  | .error .panic => none

/-- `evaluate_once`. -/
def evaluateOnce (engine : Engine) (db : Database) (dispatcher : Dispatcher) (sends : Sends)
    (now : DateTime) : List Rule → AlertEngineState → Option (AlertEngineState × List Label)
  | [], state => some (state, [])
  | r :: rules, state => do
    let (state, labels) ← evaluateRule engine db ⟨r, dispatcher.forRule r, sends, now⟩ state
    let (state, rest) ← evaluateOnce engine db dispatcher sends now rules state
    return (state, labels ++ rest)

/-- The number of alerts that `evaluate_once` reports. -/
def notifiedCount (labels : List Label) : Nat := labels.countP fun x => anySent x.2

section Runs

variable {engine : Engine} {db : Database} {round : Round} {state state' : AlertEngineState}
  {labels : List Label} {rules : List Rule} {dispatcher : Dispatcher} {sends : Sends}
  {now : DateTime}

theorem run_perform (state : AlertEngineState) (es : List Evaluation) :
    Run Step state (perform state es).2 (perform state es).1 := run_labelsOf state es

theorem run_performComputed (round : Round) (state : AlertEngineState) (computed : Computed) :
    Run Step state (round.performComputed state computed).2
      (round.performComputed state computed).1 := by
  cases computed with
  | scalar value => exact run_perform _ _
  | composite met => exact run_perform _ _
  | groups groups => exact Run.append_iff.mpr ⟨_, run_perform _ _, run_perform _ _⟩

theorem run_evaluateRule (h : evaluateRule engine db round state = some (state', labels)) :
    Run Step state labels state' := by
  unfold evaluateRule at h
  split at h
  · rename_i computed _
    obtain ⟨rfl, rfl⟩ := Prod.mk.inj (Option.some.inj h)
    exact run_performComputed round state computed
  · obtain ⟨rfl, rfl⟩ := Prod.mk.inj (Option.some.inj h)
    exact .nil
  · cases h

/-- The first rule, then the others from the state it leaves. -/
theorem evaluateOnce_cons {r : Rule}
    (h : evaluateOnce engine db dispatcher sends now (r :: rules) state = some (state', labels)) :
    ∃ mid first rest,
      evaluateRule engine db ⟨r, dispatcher.forRule r, sends, now⟩ state = some (mid, first) ∧
      evaluateOnce engine db dispatcher sends now rules mid = some (state', rest) ∧
      labels = first ++ rest := by
  rw [evaluateOnce, Option.bind_eq_bind, Option.bind_eq_some_iff] at h
  obtain ⟨⟨mid, first⟩, hfirst, h⟩ := h
  dsimp only at h
  rw [Option.bind_eq_some_iff] at h
  obtain ⟨⟨last, rest⟩, hrest, h⟩ := h
  obtain ⟨rfl, rfl⟩ := Prod.mk.inj (Option.some.inj h)
  exact ⟨mid, first, rest, hfirst, hrest, rfl⟩

/-- **A round is a run.** Evaluating all rules is a run of the state machine of the keys. -/
theorem run_evaluateOnce
    (h : evaluateOnce engine db dispatcher sends now rules state = some (state', labels)) :
    Run Step state labels state' := by
  induction rules generalizing state labels with
  | nil =>
    obtain ⟨rfl, rfl⟩ := Prod.mk.inj (Option.some.inj h)
    exact .nil
  | cons r rules ih =>
    obtain ⟨mid, first, rest, hfirst, hrest, rfl⟩ := evaluateOnce_cons h
    exact Run.append_iff.mpr ⟨mid, run_evaluateRule hfirst, ih hrest⟩

end Runs

end Datacat.Alerting
