import Datacat.Alerting.Notify
import Datacat.Basics.Run
import Datacat.Basics.Time

/-!
# Transitions and Cooldown

Each state key is firing or not, and remembers when a notification about it was last delivered. An
evaluation that changes the state notifies, unless the last notification is less than a cooldown
old; the state changes in either case.

A run is a sequence of evaluations of any keys. What was announced is read off the deliveries, so
that it can be compared with the state.

## Main results

- `cooldown_respected`: two notifications of a key are a cooldown apart, each tells a change.
- `announced_eq_iff`: the last notification still tells the state when an even number of changes
  was kept silent since.
-/

namespace Datacat.Alerting

open Basics

/-! ## The state machine -/

structure RuleState where
  firing : Bool := false
  lastNotified : Option DateTime := none
deriving DecidableEq

/-- `HashMap<String, RuleState>`. -/
abbrev AlertEngineState := BTreeMap String RuleState

/-- The state of a key, the default one when it has none. -/
def AlertEngineState.entry (state : AlertEngineState) (key : String) : RuleState :=
  (state.get key).getD {}

/-- What an evaluation has to tell. -/
def transition (firing breaching : Bool) : Option AlertState :=
  match firing, breaching with
  | false, true => some .firing
  | true, false => some .resolved
  | _, _ => none

/-- Less than a cooldown has passed; a clock that stepped back counts as no time. -/
def inCooldown (lastNotified : Option DateTime) (cooldownSecs : Nat) (now : DateTime) : Bool :=
  match lastNotified with
  | none => false
  | some last => decide ((now.nanos - last.nanos).toNat < cooldownSecs * 1000000000)

/-- One alert handed to one notifier. -/
structure Delivery where
  notifier : Notifier
  alert : Alert
  ok : Bool
deriving DecidableEq

/-- Whether handing an alert to the notifier at a place of the list succeeds. -/
abbrev Sends := Alert → Nat → Bool

def sendAll (sends : Sends) (notifiers : List Notifier) (alert : Alert) : List Delivery :=
  notifiers.mapIdx fun i notifier => ⟨notifier, alert, sends alert i⟩

/-- `any_sent`. -/
def anySent (deliveries : List Delivery) : Bool := deliveries.any Delivery.ok

/-- One call of `process_transition`. -/
structure Evaluation where
  key : String
  breaching : Bool
  rule : Rule
  value : F64
  groupKey : Option String
  notifiers : List Notifier
  sends : Sends
  now : DateTime

namespace Evaluation

def alert (e : Evaluation) (state : AlertState) : Alert where
  ruleName := e.rule.name
  severity := e.rule.severity
  state := state
  value := e.value
  threshold := e.rule.threshold
  description := describe e.rule
  groupKey := e.groupKey

/-- The alert to send, when the state of the key changes outside the cooldown. -/
def due (e : Evaluation) (entry : RuleState) : Option Alert :=
  match transition entry.firing e.breaching with
  | none => none
  | some state =>
    if inCooldown entry.lastNotified e.rule.cooldownSecs e.now then none else some (e.alert state)

/-- What is sent. -/
def deliveries (e : Evaluation) (entry : RuleState) : List Delivery :=
  match e.due entry with
  | none => []
  | some alert => sendAll e.sends e.notifiers alert

/-- The state of the key afterwards. -/
def after (e : Evaluation) (entry : RuleState) : RuleState where
  firing := e.breaching
  lastNotified := if anySent (e.deliveries entry) then some e.now else entry.lastNotified

end Evaluation

/-- `process_transition`. -/
def processTransition (state : AlertEngineState) (e : Evaluation) :
    AlertEngineState × List Delivery :=
  let entry := state.entry e.key
  (state.insert e.key (e.after entry), e.deliveries entry)

/-! ## Runs -/

/-- An evaluation, with what it sent. -/
abbrev Label := Evaluation × List Delivery

def Step (state : AlertEngineState) (x : Label) (state' : AlertEngineState) : Prop :=
  processTransition state x.1 = (state', x.2)

/-- A notification about the key was delivered. -/
def Delivered (k : String) (x : Label) : Prop := x.1.key = k ∧ anySent x.2 = true

instance (k : String) (x : Label) : Decidable (Delivered k x) := instDecidableAnd

section Steps

variable {state state' start : AlertEngineState} {x : Label} {labels : List Label} {k : String}
  {c : Nat} {e : Evaluation} {entry : RuleState}

theorem Step.entry_self (h : Step state x state') :
    state'.entry x.1.key = x.1.after (state.entry x.1.key) := by
  obtain ⟨hstate, -⟩ := Prod.mk.inj h
  rw [← hstate, AlertEngineState.entry, BTreeMap.get_insert, if_pos rfl, Option.getD_some]

theorem Step.deliveries (h : Step state x state') :
    x.2 = x.1.deliveries (state.entry x.1.key) :=
  ((Prod.mk.inj h).2).symm

/-- Other keys keep their state. -/
theorem Step.get_other (h : Step state x state') (hk : k ≠ x.1.key) :
    state'.get k = state.get k := by
  obtain ⟨hstate, -⟩ := Prod.mk.inj h
  rw [← hstate, BTreeMap.get_insert, if_neg hk]

theorem Step.entry_other (h : Step state x state') (hk : k ≠ x.1.key) :
    state'.entry k = state.entry k := by
  rw [AlertEngineState.entry, h.get_other hk]
  rfl

theorem anySent_sendAll {sends : Sends} {notifiers : List Notifier} {alert : Alert} :
    anySent (sendAll sends notifiers alert) = true ↔ ∃ i < notifiers.length, sends alert i = true := by
  unfold anySent sendAll
  rw [List.any_eq_true]
  constructor
  · rintro ⟨d, hd, hok⟩
    obtain ⟨i, hi, rfl⟩ := List.mem_mapIdx.mp hd
    exact ⟨i, hi, hok⟩
  · rintro ⟨i, hi, hok⟩
    exact ⟨_, List.mem_mapIdx.mpr ⟨i, hi, rfl⟩, hok⟩

theorem transition_eq_none_iff {firing breaching : Bool} :
    transition firing breaching = none ↔ breaching = firing := by
  cases firing <;> cases breaching <;> simp [transition]

/-- What is sent tells a change, outside the cooldown. -/
theorem Evaluation.due_of_sent (h : anySent (e.deliveries entry) = true) :
    e.breaching ≠ entry.firing ∧
      inCooldown entry.lastNotified e.rule.cooldownSecs e.now = false := by
  unfold Evaluation.deliveries Evaluation.due at h
  cases htransition : transition entry.firing e.breaching with
  | none =>
    rw [htransition] at h
    cases h
  | some s =>
    have hchange : e.breaching ≠ entry.firing := fun heq => by
      rw [transition_eq_none_iff.mpr heq] at htransition
      cases htransition
    refine ⟨hchange, ?_⟩
    cases hcool : inCooldown entry.lastNotified e.rule.cooldownSecs e.now with
    | false => rfl
    | true =>
      rw [htransition, hcool] at h
      cases h

/-- A cooldown of a second or more keeps a clock that stepped back silent. -/
theorem le_of_not_inCooldown {last now : DateTime} (hc : 1 ≤ c)
    (h : inCooldown (some last) c now = false) :
    last.nanos + c * 1000000000 ≤ now.nanos := by
  have hle : ¬ (now.nanos - last.nanos).toNat < c * 1000000000 := of_decide_eq_false h
  omega

/-! ## Respect of the cooldown -/

/-- The instant of the last notification about a key. -/
def notifiedAt (k : String) (start : Option DateTime) (labels : List Label) : Option DateTime :=
  labels.foldl (fun last x => if Delivered k x then some x.1.now else last) start

theorem notifiedAt_snoc (start : Option DateTime) (labels : List Label) (x : Label) :
    notifiedAt k start (labels ++ [x]) =
      if Delivered k x then some x.1.now else notifiedAt k start labels := by
  unfold notifiedAt
  rw [List.foldl_concat]

/-- The state remembers the last notification. -/
theorem lastNotified_of_run (h : Run Step start labels state) :
    (state.entry k).lastNotified = notifiedAt k (start.entry k).lastNotified labels := by
  induction h with
  | nil => rfl
  | @snoc labels s s' x _ hstep ih =>
    rw [notifiedAt_snoc]
    by_cases hk : x.1.key = k
    · rw [← hk] at ih ⊢
      have hiff : Delivered x.1.key x ↔ anySent x.2 = true := and_iff_right rfl
      rw [hstep.entry_self, Evaluation.after, ih, ← hstep.deliveries]
      simp only [hiff]
    · rw [hstep.entry_other (Ne.symm hk), ih, if_neg fun hdelivered => hk hdelivered.1]

theorem notifiedAt_of_not_delivered {between : List Label} {last : Option DateTime}
    (h : ∀ z ∈ between, ¬ Delivered k z) : notifiedAt k last between = last := by
  induction between generalizing last with
  | nil => rfl
  | cons z between ih =>
    obtain ⟨hz, hbetween⟩ := List.forall_mem_cons.mp h
    unfold notifiedAt
    rw [List.foldl_cons, if_neg hz]
    exact ih hbetween

/-- **Respect of the cooldown.** Along a run in which a key belongs to one rule, each notification
about it comes a cooldown after the last one or later and tells a change of its state; an
evaluation that delivers nothing starts no cooldown, and no evaluation touches another key. -/
theorem cooldown_respected (h : Run Step start labels state) (hc : 1 ≤ c)
    (hrule : ∀ x ∈ labels, x.1.key = k → x.1.rule.cooldownSecs = c) :
    (∀ before x between y after, labels = before ++ x :: (between ++ y :: after) →
      Delivered k x → Delivered k y → (∀ z ∈ between, ¬ Delivered k z) →
      x.1.now.nanos + c * 1000000000 ≤ y.1.now.nanos) ∧
    ∀ before x after s s', labels = before ++ x :: after → Run Step start before s → Step s x s' →
      (Delivered k x → (s'.entry k).firing ≠ (s.entry k).firing) ∧
      (anySent x.2 = false → (s'.entry x.1.key).lastNotified = (s.entry x.1.key).lastNotified) ∧
      ∀ k', k' ≠ x.1.key → s'.get k' = s.get k' := by
  constructor
  · intro before x between y after hlabels hx hy hbetween
    subst hlabels
    rw [List.append_cons, ← List.append_assoc, List.append_cons] at h
    obtain ⟨s', hprefix, -⟩ := Run.append_iff.mp h
    obtain ⟨s, hrun, hstep⟩ := Run.snoc_iff.mp hprefix
    -- Nothing was delivered in between, so the key still remembers the first instant.
    have hlast : (s.entry k).lastNotified = some x.1.now := by
      rw [lastNotified_of_run hrun, notifiedAt, List.foldl_append, List.foldl_concat, if_pos hx]
      exact notifiedAt_of_not_delivered hbetween
    -- The second evaluation was delivered, hence due after the cooldown.
    have hsent : anySent (y.1.deliveries (s.entry k)) = true := by
      rw [← hy.1, ← hstep.deliveries]
      exact hy.2
    obtain ⟨-, hcool⟩ := Evaluation.due_of_sent hsent
    rw [hlast, hrule y (by simp) hy.1] at hcool
    exact le_of_not_inCooldown hc hcool
  · intro before x after s s' hlabels hrun hstep
    refine ⟨fun hx => ?_, fun hnone => ?_, fun k' hk' => hstep.get_other hk'⟩
    · have hsent : anySent (x.1.deliveries (s.entry x.1.key)) = true := by
        rw [← hstep.deliveries]
        exact hx.2
      rw [← hx.1, hstep.entry_self]
      exact (Evaluation.due_of_sent hsent).1
    · rw [hstep.entry_self, Evaluation.after, ← hstep.deliveries, hnone]
      rfl

/-! ## Agreement of what was announced -/

/-- The state that a notification announces. -/
def announcement (x : Label) : Option AlertState :=
  (x.2.find? Delivery.ok).map fun d => d.alert.state

/-- What an observer of a key has seen: the state found last, the one announced last (resolved
when none was), and the changes kept silent by the cooldown since. -/
structure History where
  firing : Bool := false
  announced : AlertState := .resolved
  notifiedAt : Option DateTime := none
  silenced : Nat := 0

/-- The observer looks at one more evaluation. -/
def History.next (k : String) (h : History) (x : Label) : History :=
  if x.1.key ≠ k then h
  else
    match announcement x with
    | some state => ⟨x.1.breaching, state, some x.1.now, 0⟩
    | none =>
      let silent := decide (x.1.breaching ≠ h.firing) &&
        inCooldown h.notifiedAt x.1.rule.cooldownSecs x.1.now
      { h with
        firing := x.1.breaching
        silenced := h.silenced + if silent then 1 else 0 }

def History.of (k : String) (labels : List Label) : History := labels.foldl (History.next k) {}

/-- The state of a key, as it would be announced. -/
def AlertState.ofFiring (firing : Bool) : AlertState := if firing then .firing else .resolved

theorem History.of_snoc (k : String) (labels : List Label) (x : Label) :
    History.of k (labels ++ [x]) = (History.of k labels).next k x := by
  unfold History.of
  rw [List.foldl_concat]

/-- The observer knows the state, and is misled by an odd number of silent changes only. -/
structure Observed (k : String) (labels : List Label) (state : AlertEngineState) : Prop where
  firing : (History.of k labels).firing = (state.entry k).firing
  notifiedAt : (History.of k labels).notifiedAt = (state.entry k).lastNotified
  announced : (History.of k labels).announced = .ofFiring (state.entry k).firing ↔
    Even (History.of k labels).silenced

/-- Every notification about the key goes to somebody, and arrives. -/
def Reliable (k : String) (labels : List Label) : Prop :=
  ∀ x ∈ labels, x.1.key = k → x.1.notifiers ≠ [] ∧ ∀ alert i, x.1.sends alert i = true

theorem announcement_of_due {alert : Alert} (hdue : e.due entry = some alert)
    (hsome : e.notifiers ≠ []) (hsends : ∀ alert i, e.sends alert i = true) :
    announcement (e, e.deliveries entry) = some alert.state := by
  unfold announcement Evaluation.deliveries
  rw [hdue]
  dsimp only
  obtain ⟨n, rest, hn⟩ := List.exists_cons_of_ne_nil hsome
  rw [hn, sendAll, List.mapIdx_cons, List.find?_cons_of_pos]
  · rfl
  · exact hsends alert 0

theorem announcement_of_not_due (hdue : e.due entry = none) :
    announcement (e, e.deliveries entry) = none := by
  unfold announcement Evaluation.deliveries
  rw [hdue]
  rfl

/-- A change is due outside the cooldown, and is announced as the state found. -/
theorem due_eq (e : Evaluation) (entry : RuleState) :
    e.due entry =
      if e.breaching ≠ entry.firing ∧
          inCooldown entry.lastNotified e.rule.cooldownSecs e.now = false then
        some (e.alert (.ofFiring e.breaching))
      else none := by
  unfold Evaluation.due
  cases hcool : inCooldown entry.lastNotified e.rule.cooldownSecs e.now <;>
    cases hfiring : entry.firing <;> cases hbreaching : e.breaching <;>
      simp [transition, AlertState.ofFiring]

theorem Observed.other (h : Observed k labels state) (hstep : Step state x state')
    (hk : x.1.key ≠ k) : Observed k (labels ++ [x]) state' := by
  have hentry := hstep.entry_other (Ne.symm hk)
  have hnext : History.of k (labels ++ [x]) = History.of k labels := by
    rw [History.of_snoc, History.next, if_pos hk]
  refine ⟨?_, ?_, ?_⟩
  · rw [hnext, hentry, h.firing]
  · rw [hnext, hentry, h.notifiedAt]
  · rw [hnext, hentry, h.announced]

theorem anySent_deliveries (hsome : e.notifiers ≠ []) (hsends : ∀ alert i, e.sends alert i = true) :
    anySent (e.deliveries entry) = (e.due entry).isSome := by
  unfold Evaluation.deliveries
  cases e.due entry with
  | none => rfl
  | some alert =>
    exact anySent_sendAll.mpr ⟨0, List.length_pos_of_ne_nil hsome, hsends alert 0⟩

/-- Announcing the other state is what makes the announcement right again. -/
theorem ofFiring_eq_iff_of_change {announced : AlertState} {firing breaching : Bool}
    (hchange : breaching ≠ firing) :
    announced = .ofFiring breaching ↔ ¬ announced = .ofFiring firing := by
  cases announced <;> cases firing <;> cases breaching <;>
    simp_all [AlertState.ofFiring]

/-- An evaluation of the key that is due resets what the observer knows. -/
theorem Observed.due {alert : Alert} (hstep : Step state x state')
    (hdue : x.1.due (state.entry x.1.key) = some alert) (hsome : x.1.notifiers ≠ [])
    (hsends : ∀ alert i, x.1.sends alert i = true) :
    History.of x.1.key (labels ++ [x]) = ⟨x.1.breaching, .ofFiring x.1.breaching, some x.1.now, 0⟩ ∧
      state'.entry x.1.key = ⟨x.1.breaching, some x.1.now⟩ := by
  have hstate : alert.state = .ofFiring x.1.breaching := by
    rw [due_eq] at hdue
    split at hdue
    · rw [← Option.some.inj hdue]
      rfl
    · cases hdue
  have hannounced : announcement x = some alert.state := by
    have hlabel : x = (x.1, x.1.deliveries (state.entry x.1.key)) := by rw [← hstep.deliveries]
    rw [hlabel]
    exact announcement_of_due hdue hsome hsends
  constructor
  · rw [History.of_snoc, History.next, if_neg (not_not.mpr rfl), hannounced, ← hstate]
  · rw [hstep.entry_self, Evaluation.after, anySent_deliveries hsome hsends, hdue]
    rfl

/-- An evaluation of the key that is not due leaves the announcement, and counts a change. -/
theorem Observed.silent (h : Observed x.1.key labels state) (hstep : Step state x state')
    (hdue : x.1.due (state.entry x.1.key) = none) : Observed x.1.key (labels ++ [x]) state' := by
  obtain ⟨hfiring, hnotified, hannounced⟩ := h
  have hnone : announcement x = none := by
    have hlabel : x = (x.1, x.1.deliveries (state.entry x.1.key)) := by rw [← hstep.deliveries]
    rw [hlabel]
    exact announcement_of_not_due hdue
  have hafter : state'.entry x.1.key = ⟨x.1.breaching, (state.entry x.1.key).lastNotified⟩ := by
    rw [hstep.entry_self, Evaluation.after, Evaluation.deliveries, hdue]
    rfl
  have hhistory : History.of x.1.key (labels ++ [x]) =
      { History.of x.1.key labels with
        firing := x.1.breaching
        notifiedAt := (state.entry x.1.key).lastNotified
        silenced := (History.of x.1.key labels).silenced +
          if x.1.breaching ≠ (state.entry x.1.key).firing then 1 else 0 } := by
    rw [History.of_snoc, History.next, if_neg (not_not.mpr rfl), hnone, hfiring, hnotified]
    dsimp only
    by_cases hchange : x.1.breaching ≠ (state.entry x.1.key).firing
    · -- A change that is not due falls into the cooldown.
      have hcool : inCooldown (state.entry x.1.key).lastNotified x.1.rule.cooldownSecs x.1.now =
          true := by
        rw [due_eq] at hdue
        by_contra hopen
        rw [if_pos ⟨hchange, Bool.not_eq_true _ ▸ hopen⟩] at hdue
        cases hdue
      rw [decide_eq_true hchange, hcool, if_pos hchange]
      rfl
    · rw [decide_eq_false hchange, if_neg hchange]
      rfl
  -- Each silent change flips the state once, and the announcement stays.
  refine ⟨?_, ?_, ?_⟩
  · rw [hhistory, hafter]
  · rw [hhistory, hafter]
  · rw [hhistory, hafter]
    dsimp only
    by_cases hchange : x.1.breaching ≠ (state.entry x.1.key).firing
    · rw [if_pos hchange, Nat.even_add_one, ← hannounced, ofFiring_eq_iff_of_change hchange]
    · rw [if_neg hchange, Nat.add_zero, ← hannounced, not_not.mp hchange]

theorem Observed.step (h : Observed k labels state) (hstep : Step state x state')
    (hreliable : x.1.key = k → x.1.notifiers ≠ [] ∧ ∀ alert i, x.1.sends alert i = true) :
    Observed k (labels ++ [x]) state' := by
  by_cases hk : x.1.key = k
  · subst hk
    obtain ⟨hsome, hsends⟩ := hreliable rfl
    cases hdue : x.1.due (state.entry x.1.key) with
    | none => exact h.silent hstep hdue
    | some alert =>
      obtain ⟨hhistory, hentry⟩ := @Observed.due state state' x labels alert hstep hdue hsome hsends
      refine ⟨?_, ?_, ?_⟩
      · rw [hhistory, hentry]
      · rw [hhistory, hentry]
      · rw [hhistory, hentry]
        exact iff_of_true rfl ⟨0, rfl⟩
  · exact h.other hstep hk

theorem observed_of_run (h : Run Step .empty labels state) (hreliable : Reliable k labels) :
    Observed k labels state := by
  induction h with
  | nil => exact ⟨rfl, rfl, by simp [History.of, AlertState.ofFiring, AlertEngineState.entry]⟩
  | @snoc labels s s' x _ hstep ih =>
    refine (ih fun y hy => hreliable y (List.mem_append_left _ hy)).step hstep ?_
    exact hreliable x (by simp)

/-- **Agreement.** When every notification about a key arrives, the state that the last one
announced is the state of the key if and only if an even number of changes was kept silent by the
cooldown since. A change found after the cooldown is announced at once. -/
theorem announced_eq_iff (h : Run Step .empty (labels ++ [x]) state)
    (hreliable : Reliable x.1.key (labels ++ [x]))
    (hover : ∀ last, (History.of x.1.key labels).notifiedAt = some last →
      last.nanos + x.1.rule.cooldownSecs * 1000000000 ≤ x.1.now.nanos) :
    ((History.of x.1.key (labels ++ [x])).announced = .ofFiring (state.entry x.1.key).firing ↔
      Even (History.of x.1.key (labels ++ [x])).silenced) ∧
    (x.1.breaching ≠ (History.of x.1.key labels).firing →
      (History.of x.1.key (labels ++ [x])).announced = .ofFiring (state.entry x.1.key).firing) := by
  have hobserved := observed_of_run h hreliable
  refine ⟨hobserved.announced, fun hchange => ?_⟩
  obtain ⟨s, hrun, hstep⟩ := Run.snoc_iff.mp h
  have hbefore := observed_of_run hrun fun y hy => hreliable y (List.mem_append_left _ hy)
  obtain ⟨hsome, hsends⟩ := hreliable x (by simp) rfl
  -- The cooldown is over, in the state as in the history.
  have hopen : inCooldown (s.entry x.1.key).lastNotified x.1.rule.cooldownSecs x.1.now = false := by
    rw [← hbefore.notifiedAt]
    cases hlast : (History.of x.1.key labels).notifiedAt with
    | none => rfl
    | some last =>
      have hle := hover last hlast
      refine decide_eq_false ?_
      omega
  have hdue : x.1.due (s.entry x.1.key) = some (x.1.alert (.ofFiring x.1.breaching)) := by
    rw [due_eq, if_pos ⟨hbefore.firing ▸ hchange, hopen⟩]
  obtain ⟨hhistory, hentry⟩ := @Observed.due s state x labels _ hstep hdue hsome hsends
  rw [hhistory, hentry]

/-- The evaluations one after the other, with what they send. -/
def labelsOf (state : AlertEngineState) : List Evaluation → List Label
  | [] => []
  | e :: es => (e, (processTransition state e).2) :: labelsOf (processTransition state e).1 es

def stateOf (state : AlertEngineState) (es : List Evaluation) : AlertEngineState :=
  es.foldl (fun s e => (processTransition s e).1) state

theorem run_labelsOf (start : AlertEngineState) (es : List Evaluation) :
    Run Step start (labelsOf start es) (stateOf start es) := by
  induction es generalizing start with
  | nil => exact .nil
  | cons e es ih => exact Run.cons_iff.mpr ⟨_, rfl, ih _⟩

theorem mem_of_mem_labelsOf {es : List Evaluation} (h : x ∈ labelsOf start es) : x.1 ∈ es := by
  induction es generalizing start with
  | nil => cases h
  | cons e es ih =>
    rcases List.mem_cons.mp h with rfl | h
    · exact List.mem_cons_self
    · exact List.mem_cons_of_mem _ (ih h)

end Steps

/-- A rule with a cooldown of ten minutes. -/
def errorsRule : Rule :=
  { name := "errs", kind := .logCount, windowSecs := 300, cooldownSecs := 600 }

/-- The rule is evaluated at a second; one channel is told, and always reached. -/
def errorsAt (secs : Int) (breaching : Bool) : Evaluation where
  key := "errs"
  breaching := breaching
  rule := errorsRule
  value := F64.ofInt 3
  groupKey := none
  notifiers := [.slack "xoxb" "#alerts"]
  sends := fun _ _ => true
  now := ⟨secs * 1000000000⟩

/-- Fires, is resolved too early to tell, fires again while the clock is back, and is resolved. -/
def errorsRun : List Evaluation :=
  [errorsAt 0 true, errorsAt 10 false, errorsAt (-5) true, errorsAt 600 false]

theorem cooldown_respected_errors :
    (∀ before x between y after,
      labelsOf .empty errorsRun = before ++ x :: (between ++ y :: after) →
      Delivered "errs" x → Delivered "errs" y → (∀ z ∈ between, ¬ Delivered "errs" z) →
      x.1.now.nanos + (600 : Nat) * 1000000000 ≤ y.1.now.nanos) ∧
    ∀ before x after s s', labelsOf .empty errorsRun = before ++ x :: after →
      Run Step .empty before s → Step s x s' →
      (Delivered "errs" x → (s'.entry "errs").firing ≠ (s.entry "errs").firing) ∧
      (anySent x.2 = false → (s'.entry x.1.key).lastNotified = (s.entry x.1.key).lastNotified) ∧
      ∀ k', k' ≠ x.1.key → s'.get k' = s.get k' := by
  refine cooldown_respected (run_labelsOf .empty errorsRun) (by decide) fun x hx _ => ?_
  have hmem : x.1 ∈ errorsRun := mem_of_mem_labelsOf hx
  simp only [errorsRun, List.mem_cons, List.not_mem_nil, or_false] at hmem
  rcases hmem with h | h | h | h
  all_goals rw [h]; rfl

theorem announced_eq_iff_errors :
    ((History.of "errs" (labelsOf .empty errorsRun)).announced =
        .ofFiring ((stateOf .empty errorsRun).entry "errs").firing ↔
      Even (History.of "errs" (labelsOf .empty errorsRun)).silenced) ∧
    (false ≠ (History.of "errs" ((labelsOf .empty errorsRun).take 3)).firing →
      (History.of "errs" (labelsOf .empty errorsRun)).announced =
        .ofFiring ((stateOf .empty errorsRun).entry "errs").firing) := by
  let x : Label := (errorsAt 600 false,
    (processTransition (stateOf .empty (errorsRun.take 3)) (errorsAt 600 false)).2)
  have hsplit : labelsOf .empty errorsRun = (labelsOf .empty errorsRun).take 3 ++ [x] := rfl
  have hrun := run_labelsOf .empty errorsRun
  have hreliable : Reliable "errs" (labelsOf .empty errorsRun) := by
    intro y hy _
    have hmem : y.1 ∈ errorsRun := mem_of_mem_labelsOf hy
    simp only [errorsRun, List.mem_cons, List.not_mem_nil, or_false] at hmem
    rcases hmem with h | h | h | h
    all_goals rw [h]; exact ⟨List.cons_ne_nil _ _, fun _ _ => rfl⟩
  -- The last evaluation comes ten minutes after the only notification.
  rw [hsplit] at hrun hreliable
  refine @announced_eq_iff _ x _ hrun hreliable fun last hlast => ?_
  have hfirst : (History.of "errs" ((labelsOf .empty errorsRun).take 3)).notifiedAt = some ⟨0⟩ := by
    decide +kernel
  obtain rfl : ⟨0⟩ = last := Option.some.inj (hfirst.symm.trans hlast)
  decide

/-- The resolution falls into the cooldown; ten minutes later the key is still resolved, and the
last notification still says that it fires. -/
theorem announced_ne_errors :
    Reliable "errs" (labelsOf .empty [errorsAt 0 true, errorsAt 10 false, errorsAt 600 false]) ∧
      (History.of "errs" (labelsOf .empty [errorsAt 0 true, errorsAt 10 false])).notifiedAt =
        some ⟨0⟩ ∧
      (History.of "errs"
        (labelsOf .empty [errorsAt 0 true, errorsAt 10 false, errorsAt 600 false])).announced =
          .firing ∧
      ((stateOf .empty [errorsAt 0 true, errorsAt 10 false, errorsAt 600 false]).entry
        "errs").firing = false := by
  refine ⟨fun y hy _ => ?_, ?_, ?_, ?_⟩
  · have hmem := mem_of_mem_labelsOf hy
    simp only [List.mem_cons, List.not_mem_nil, or_false] at hmem
    rcases hmem with h | h | h
    all_goals rw [h]; exact ⟨List.cons_ne_nil _ _, fun _ _ => rfl⟩
  · decide +kernel
  · decide +kernel
  · decide +kernel

end Datacat.Alerting
