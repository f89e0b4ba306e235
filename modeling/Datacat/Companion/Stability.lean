import Datacat.Basics.Run
import Datacat.Companion.Liveness

/-!
# Stability of the Monitor

One tick of the monitor looks at every expected companion in the order of the configuration. What
it remembers from one tick to the next is a single bit for each id.

Two entries of the configuration may have one id. They share the bit, so that the alerts of the id
still alternate (`alternating_of_run`); where the silence lies between their two timeouts, each
one turns the bit the other way, and every tick tells that the companion is down and that it is
back. `monitor_stable_iff` says when a second tick is silent.
-/

namespace Datacat.Liveness

open Basics Alerting Settings

/-! ## One companion -/

/-- The companion has never been seen, or not for longer than its timeout. -/
def Overdue (registry : CompanionRegistry) (c : ExpectedCompanion) (now : DateTime) : Prop :=
  ∀ t, registry.lastSeen.get c.id = some t → (c.timeout : Int) < now.nanos - t.nanos

/-- What the monitor remembers of an id. -/
def isFiring (firing : BTreeMap String Bool) (id : String) : Bool := (firing.get id).getD false

theorem isFiring_insert (firing : BTreeMap String Bool) (key : String) (down : Bool)
    (id : String) :
    isFiring (firing.insert key down) id = if id = key then down else isFiring firing id := by
  unfold isFiring
  rw [BTreeMap.get_insert]
  split_ifs <;> rfl

section Evaluate

variable (registry : CompanionRegistry) (c : ExpectedCompanion) (now : DateTime)
  (firing : BTreeMap String Bool)

open Classical in
/-- The bit that `evaluate` leaves is whether the companion is overdue. -/
theorem evaluate_firing :
    (evaluate registry c now firing).2 =
      firing.insert c.id (decide (Overdue registry c now)) := by
  unfold evaluate
  apply congrArg (firing.insert c.id)
  unfold Overdue
  cases registry.lastSeen.get c.id with
  | none => simp
  | some t =>
    apply decide_eq_decide.mpr
    constructor
    · intro hlong t' ht'
      obtain rfl := Option.some.inj ht'
      have hnat : c.timeout < (now.nanos - t.nanos).toNat := hlong
      omega
    · intro hlong
      have hint := hlong t rfl
      show c.timeout < (now.nanos - t.nanos).toNat
      omega

open Classical in
/-- The alert of a transition, by the bit before and the bit after. -/
theorem evaluate_state :
    (evaluate registry c now firing).1.map Alert.state =
      match isFiring firing c.id, decide (Overdue registry c now) with
      | false, true => some .firing
      | true, false => some .resolved
      | _, _ => none := by
  have hdown : (firing.insert c.id _) = _ := evaluate_firing registry c now firing
  have hget := congrArg (fun m => isFiring m c.id) hdown
  rw [isFiring_insert, isFiring_insert, if_pos rfl, if_pos rfl] at hget
  rw [← hget]
  unfold evaluate isFiring
  rw [Option.map_map]
  exact Option.map_id' ..

theorem evaluate_ruleName {alert : Alert} (h : (evaluate registry c now firing).1 = some alert) :
    alert.ruleName = "companion/" ++ c.id := by
  obtain ⟨state, -, rfl⟩ := Option.map_eq_some_iff.mp h
  rfl

open Classical in
theorem evaluate_silent_iff :
    (evaluate registry c now firing).1 = none ↔
      isFiring firing c.id = decide (Overdue registry c now) := by
  rw [← Option.map_eq_none_iff, evaluate_state]
  cases isFiring firing c.id <;> cases decide (Overdue registry c now) <;> simp

end Evaluate

/-! ## One tick -/

/-- One tick of `run_monitor_loop`: the alerts in order, and the companions that are firing. -/
def tick (registry : CompanionRegistry) (now : DateTime) :
    List ExpectedCompanion → BTreeMap String Bool → List Alert × BTreeMap String Bool
  | [], firing => ([], firing)
  | c :: expected, firing =>
    let (alert, firing) := evaluate registry c now firing
    let (alerts, firing) := tick registry now expected firing
    (alert.toList ++ alerts, firing)

section Tick

variable {registry : CompanionRegistry} {now : DateTime}

open Classical in
/-- A tick is silent exactly when every bit is already right. -/
theorem tick_silent_iff {expected : List ExpectedCompanion} {firing : BTreeMap String Bool} :
    (tick registry now expected firing).1 = [] ↔
      ∀ c ∈ expected, isFiring firing c.id = decide (Overdue registry c now) := by
  induction expected generalizing firing with
  | nil => simp [tick]
  | cons c expected ih =>
    rw [List.forall_mem_cons, ← evaluate_silent_iff]
    show (evaluate registry c now firing).1.toList ++
      (tick registry now expected (evaluate registry c now firing).2).1 = [] ↔ _
    rw [List.append_eq_nil_iff, Option.toList_eq_nil_iff, ih]
    apply and_congr_right
    intro hsilent
    -- A silent evaluation writes the bit that is there.
    have hsame : ∀ id, isFiring (evaluate registry c now firing).2 id = isFiring firing id := by
      intro id
      rw [evaluate_firing, isFiring_insert]
      split_ifs with hid
      · rw [hid]
        exact ((evaluate_silent_iff registry c now firing).mp hsilent).symm
      · rfl
    simp only [hsame]

theorem tick_firing_of_notMem {expected : List ExpectedCompanion} {firing : BTreeMap String Bool}
    {id : String} (h : ∀ c ∈ expected, c.id ≠ id) :
    isFiring (tick registry now expected firing).2 id = isFiring firing id := by
  induction expected generalizing firing with
  | nil => rfl
  | cons c expected ih =>
    obtain ⟨hc, hexpected⟩ := List.forall_mem_cons.mp h
    show isFiring (tick registry now expected (evaluate registry c now firing).2).2 id = _
    rw [ih hexpected, evaluate_firing, isFiring_insert, if_neg (Ne.symm hc)]

open Classical in
/-- The last entry of an id leaves its bit. -/
theorem exists_tick_firing {expected : List ExpectedCompanion} {firing : BTreeMap String Bool}
    {c : ExpectedCompanion} (hc : c ∈ expected) :
    ∃ d ∈ expected, d.id = c.id ∧
      isFiring (tick registry now expected firing).2 c.id = decide (Overdue registry d now) := by
  induction expected generalizing firing c with
  | nil => cases hc
  | cons e expected ih =>
    show ∃ d ∈ e :: expected, d.id = c.id ∧
      isFiring (tick registry now expected (evaluate registry e now firing).2).2 c.id = _
    by_cases hlater : ∃ d ∈ expected, d.id = c.id
    · obtain ⟨d, hd, hid⟩ := hlater
      obtain ⟨last, hlast, hsame, hbit⟩ :=
        @ih (evaluate registry e now firing).2 d hd
      rw [hid] at hsame hbit
      exact ⟨last, List.mem_cons_of_mem _ hlast, hsame, hbit⟩
    · have hnone : ∀ d ∈ expected, d.id ≠ c.id := fun d hd hid => hlater ⟨d, hd, hid⟩
      rcases List.mem_cons.mp hc with rfl | hmem
      · refine ⟨c, List.mem_cons_self .., rfl, ?_⟩
        rw [tick_firing_of_notMem hnone, evaluate_firing, isFiring_insert, if_pos rfl]
      · exact absurd rfl (hnone c hmem)

/-- Two entries of one id agree on whether it is silent for too long. -/
def Agree (registry : CompanionRegistry) (now : DateTime) (expected : List ExpectedCompanion) :
    Prop :=
  ∀ c ∈ expected, ∀ d ∈ expected, c.id = d.id → ∀ t, registry.lastSeen.get c.id = some t →
    (now.nanos - t.nanos ≤ c.timeout ↔ now.nanos - t.nanos ≤ d.timeout)

theorem agree_iff {expected : List ExpectedCompanion} :
    Agree registry now expected ↔ ∀ c ∈ expected, ∀ d ∈ expected, c.id = d.id →
      (Overdue registry c now ↔ Overdue registry d now) := by
  unfold Agree Overdue
  refine forall₂_congr fun c _ => forall₂_congr fun d _ => forall_congr' fun hid => ?_
  rw [← hid]
  cases registry.lastSeen.get c.id with
  | none => simp
  | some t =>
    simp only [Option.some.injEq, forall_eq']
    omega

open Classical in
/-- The second of two ticks with one registry and one instant. -/
theorem tick_tick_silent_iff {expected : List ExpectedCompanion}
    {firing : BTreeMap String Bool} :
    (tick registry now expected (tick registry now expected firing).2).1 = [] ↔
      Agree registry now expected := by
  rw [tick_silent_iff, agree_iff]
  constructor
  · intro hsilent c hc d hd hid
    apply decide_eq_decide.mp
    rw [← hsilent c hc, ← hsilent d hd, hid]
  · intro hagree c hc
    obtain ⟨d, hd, hid, hbit⟩ := @exists_tick_firing registry now expected firing c hc
    rw [hbit]
    exact decide_eq_decide.mpr (hagree d hd c hc hid)

end Tick

/-! ## Runs -/

/-- The main instance, as the monitor sees it. -/
structure Monitor where
  registry : CompanionRegistry := {}
  firing : BTreeMap String Bool := BTreeMap.empty

/-- A heartbeat arrives, or the monitor looks at one companion; it sends its alerts while
heartbeats arrive, so that both may come in any order. -/
inductive Step (s : AppState) (expected : List ExpectedCompanion) :
    Monitor → Option Alert → Monitor → Prop where
  | heartbeat {m : Monitor} (call : Call) (hb : Heartbeat) :
      Step s expected m none { m with registry := (Liveness.heartbeat s m.registry call hb).2 }
  | look {m : Monitor} {c : ExpectedCompanion} (hc : c ∈ expected) (now : DateTime) :
      Step s expected m (evaluate m.registry c now m.firing).1
        { m with firing := (evaluate m.registry c now m.firing).2 }

/-- What was told of an id, oldest first. -/
def statesOf (id : String) (alerts : List Alert) : List AlertState :=
  (alerts.filter fun alert => alert.ruleName = "companion/" ++ id).map Alert.state

theorem statesOf_append (id : String) (first second : List Alert) :
    statesOf id (first ++ second) = statesOf id first ++ statesOf id second := by
  unfold statesOf
  rw [List.filter_append, List.map_append]

/-- Firing, resolved, firing and so on. -/
structure Alternating (states : List AlertState) : Prop where
  starts : ∀ state ∈ states.head?, state = .firing
  alternates : states.IsChain (· ≠ ·)

/-- The alerts of an id alternate up to now, the last one as its bit is. -/
structure Tracks (states : List AlertState) (firing : Bool) : Prop extends Alternating states where
  last : ∀ state ∈ states.getLast?, (state = .firing ↔ firing = true)
  quiet : states = [] → firing = false

theorem Tracks.append_firing {states : List AlertState} (h : Tracks states false) :
    Tracks (states ++ [.firing]) true where
  starts := by
    cases states with
    | nil => simp
    | cons state states => simpa using h.starts
  alternates := by
    refine h.alternates.append (List.isChain_singleton _) ?_
    intro x hx y hy hxy
    obtain rfl : AlertState.firing = y := by simpa using hy
    exact Bool.false_ne_true ((h.last x hx).mp hxy)
  last := by simp
  quiet := by simp

theorem Tracks.append_resolved {states : List AlertState} (h : Tracks states true) :
    Tracks (states ++ [.resolved]) false where
  starts := by
    cases states with
    | nil => exact absurd (h.quiet rfl) (by simp)
    | cons state states => simpa using h.starts
  alternates := by
    refine h.alternates.append (List.isChain_singleton _) ?_
    intro x hx y hy hxy
    obtain rfl : AlertState.resolved = y := by simpa using hy
    have hfiring := (h.last x hx).mpr rfl
    rw [hxy] at hfiring
    cases hfiring
  last := by simp
  quiet := by simp

section Runs

variable {s : AppState} {expected : List ExpectedCompanion}

/-- **One step.** -/
theorem Step.tracks {m m' : Monitor} {alert : Option Alert} (h : Step s expected m alert m')
    {id : String} {states : List AlertState} (htracks : Tracks states (isFiring m.firing id)) :
    Tracks (states ++ statesOf id alert.toList) (isFiring m'.firing id) := by
  cases h with
  | heartbeat call hb =>
    -- A heartbeat alerts nobody.
    show Tracks (states ++ []) _
    rw [List.append_nil]
    exact htracks
  | @look c hc now =>
    classical
    show Tracks _ (isFiring (evaluate m.registry c now m.firing).2 id)
    have hstate := evaluate_state m.registry c now m.firing
    rw [evaluate_firing, isFiring_insert]
    cases halert : (evaluate m.registry c now m.firing).1 with
    | none =>
      show Tracks (states ++ []) _
      rw [List.append_nil]
      -- Silent: the bit of the companion that was looked at stays as it was.
      split_ifs with hid
      · rw [← (evaluate_silent_iff ..).mp halert, ← hid]
        exact htracks
      · exact htracks
    | some alert =>
      have hname := evaluate_ruleName _ _ _ _ halert
      split_ifs with hid
      · -- The alert is about this id: it tells what the bit becomes.
        have htold : statesOf id [alert] = [alert.state] := by
          unfold statesOf
          rw [List.filter_singleton, hname, hid]
          simp
        show Tracks (states ++ statesOf id [alert]) _
        rw [htold]
        rw [hid] at htracks
        rw [halert] at hstate
        -- An alert says that the bit and the silence disagreed.
        cases hbit : isFiring m.firing c.id <;> cases hdown : decide (Overdue m.registry c now)
        all_goals rw [hbit, hdown] at hstate
        · cases hstate
        · rw [Option.some.inj hstate]
          rw [hbit] at htracks
          exact htracks.append_firing
        · rw [Option.some.inj hstate]
          rw [hbit] at htracks
          exact htracks.append_resolved
        · cases hstate
      · -- The alert is about another companion.
        have hother : statesOf id [alert] = [] := by
          unfold statesOf
          rw [List.filter_singleton, hname]
          have hne : ¬"companion/" ++ c.id = "companion/" ++ id := by
            intro heq
            exact hid ((String.append_right_inj _).mp heq).symm
          simp [hne]
        show Tracks (states ++ statesOf id [alert]) _
        rw [hother, List.append_nil]
        exact htracks

theorem tracks_of_run {labels : List (Option Alert)} {m : Monitor}
    (h : Run (Step s expected) {} labels m) (id : String) :
    Tracks (statesOf id labels.reduceOption) (isFiring m.firing id) := by
  induction h with
  | nil => exact ⟨⟨by simp [statesOf], List.isChain_nil⟩, by simp [statesOf], fun _ => rfl⟩
  | snoc _ hstep ih =>
    rw [List.reduceOption_append, statesOf_append]
    exact hstep.tracks ih

/-- In every order of heartbeats and evaluations, the alerts of an id alternate. -/
theorem alternating_of_run {labels : List (Option Alert)} {m : Monitor}
    (h : Run (Step s expected) {} labels m) (id : String) :
    Alternating (statesOf id labels.reduceOption) :=
  (tracks_of_run h id).toAlternating

/-- A tick without heartbeats in between is a run. -/
theorem run_tick {m : Monitor} (now : DateTime) {looked : List ExpectedCompanion}
    (hlooked : ∀ c ∈ looked, c ∈ expected) :
    ∃ labels, labels.reduceOption = (tick m.registry now looked m.firing).1 ∧
      Run (Step s expected) m labels
        { m with firing := (tick m.registry now looked m.firing).2 } := by
  induction looked generalizing m with
  | nil => exact ⟨[], rfl, .nil⟩
  | cons c looked ih =>
    obtain ⟨hc, hrest⟩ := List.forall_mem_cons.mp hlooked
    obtain ⟨labels, halerts, hrun⟩ :=
      @ih { m with firing := (evaluate m.registry c now m.firing).2 } hrest
    refine ⟨(evaluate m.registry c now m.firing).1 :: labels, ?_,
      Run.cons_iff.mpr ⟨_, .look hc now, hrun⟩⟩
    have htick : (tick m.registry now (c :: looked) m.firing).1 =
        (evaluate m.registry c now m.firing).1.toList ++ labels.reduceOption := by
      rw [halerts]
      rfl
    rw [htick]
    cases (evaluate m.registry c now m.firing).1 <;> rfl

end Runs

/-- **Stability of the monitor.** A second tick with the same registry and instant is silent
exactly when the entries of one id agree on its silence; and in every run the alerts of an id
alternate. -/
theorem monitor_stable_iff (expected : List ExpectedCompanion) (registry : CompanionRegistry)
    (now : DateTime) (firing : BTreeMap String Bool) :
    ((tick registry now expected (tick registry now expected firing).2).1 = [] ↔
      Agree registry now expected) ∧
    ∀ (s : AppState) (labels : List (Option Alert)) (m : Monitor),
      Run (Step s expected) {} labels m →
        ∀ id, Alternating (statesOf id labels.reduceOption) :=
  ⟨tick_tick_silent_iff, fun _ _ _ hrun id => alternating_of_run hrun id⟩

section Sample

/-- A configuration that gives one companion two timeouts. -/
def twoTimeouts : CompanionsSection where
  expected := [{ id := "edge", timeout := "60s" }, { id := "edge", timeout := "120s" }]

/-- After 90 seconds of silence, one entry tells that the companion is down and the other that it
is back, again and again. -/
theorem not_monitor_stable :
    ¬∀ (companions : CompanionsSection) (monitor : CompanionMonitor),
      companions.build = .ok monitor →
        ∀ (registry : CompanionRegistry) (now : DateTime) (firing : BTreeMap String Bool),
          (tick registry now monitor.expected
            (tick registry now monitor.expected firing).2).1 = [] := by
  intro h
  let registry : CompanionRegistry := CompanionRegistry.record {} "edge" ⟨0⟩
  let now : DateTime := ⟨90 * 1000000000⟩
  obtain ⟨monitor, hbuild, htick⟩ := Contexts.exists_of_any
    (show twoTimeouts.build.toOption.any (fun monitor => decide
        ((tick registry now monitor.expected
          (tick registry now monitor.expected BTreeMap.empty).2).1.map Alert.state =
        [.firing, .resolved])) = true by decide +kernel)
  have hsilent := h twoTimeouts monitor hbuild registry now BTreeMap.empty
  rw [hsilent] at htick
  cases htick

end Sample

end Datacat.Liveness
