import Datacat.Basics.History
import Datacat.Companion.Machine
import Datacat.Companion.Stability

/-!
# The Two-Sided Switch

The main instance and its companions watch each other. A companion sends a heartbeat, the main
instance records it and answers, the answer or its absence drives the machine of the companion; in
between, anything else may happen. The main instance stops and starts with nothing in its memory,
and so do the companions. A request that its companion has given up may still arrive, as may those
of other callers.

Each side remembers a history: the main instance the heartbeats since it started, a companion the
outcomes since it started. Neither sees the other's.

## Main results

- `Follows.step`: what both sides remember, one label more.
- `recorded_of_ok`: a beat that a companion takes for a success was recorded.
- `both_ends_alarm`: what each side tells, and when the alarm of one is that of both.
-/

namespace Datacat.Switch

open Basics Liveness Settings

/-! ## The system -/

/-- A heartbeat on its way, and the answer on its way back. -/
inductive Flight where
  | sent
  | accepted
  | refused

/-- The main instance, while it is up, and its companions. -/
structure Fleet (ι : Type) where
  main : Option Monitor := none
  machines : ι → Companion.StateMachine := fun _ => {}
  flights : ι → Option Flight := fun _ => none

inductive Event (ι : Type) where
  | send (i : ι)
  /-- The heartbeat of a companion reaches the main instance, which is in some state. -/
  | arrive (i : ι) (s : AppState) (call : Call)
  /-- So does a heartbeat that no companion waits for. -/
  | request (s : AppState) (call : Call) (hb : Heartbeat)
  | finish (i : ι) (beat : Companion.Beat)
  /-- The monitor evaluates a companion. -/
  | look (e : ExpectedCompanion) (now : DateTime)
  | stop
  | start
  | restart (i : ι)

/-- The main instance records the heartbeat, or refuses it. -/
def receive (m : Monitor) (s : AppState) (call : Call) (hb : Heartbeat) : Monitor :=
  { m with registry := (heartbeat s m.registry call hb).2 }

/-- The answer: 204, or the status of an error. -/
def answer (s : AppState) (m : Monitor) (call : Call) (hb : Heartbeat) : Flight :=
  match (heartbeat s m.registry call hb).1 with
  | .ok () => .accepted
  | .error _ => .refused

/-- Whether it is recorded does not depend on what else was. -/
def Recorded (s : AppState) (call : Call) (hb : Heartbeat) : Prop :=
  (heartbeat s {} call hb).1.isOk = true

instance (s : AppState) (call : Call) (hb : Heartbeat) : Decidable (Recorded s call hb) :=
  inferInstanceAs (Decidable (_ = true))

section System

variable {ι : Type} [DecidableEq ι]

namespace Fleet

def fly (f : Fleet ι) (i : ι) (flight : Option Flight) : Fleet ι :=
  { f with flights := Function.update f.flights i flight }

theorem flights_fly (f : Fleet ι) (i : ι) (flight : Option Flight) :
    (f.fly i flight).flights i = flight :=
  Function.update_self ..

theorem flights_fly_of_ne (f : Fleet ι) {i j : ι} (h : j ≠ i) (flight : Option Flight) :
    (f.fly i flight).flights j = f.flights j :=
  Function.update_of_ne h ..

/-- The monitor tells that the companion is down. -/
def Alarms (f : Fleet ι) (id : String) : Prop :=
  ∃ m, f.main = some m ∧ isFiring m.firing id = true

/-- `Agent::process`, once the request has an outcome. -/
def process (f : Fleet ι) (c : Companion.Config) (i : ι) (beat : Companion.Beat) : Fleet ι :=
  { f.fly i none with
    machines :=
      Function.update f.machines i ((f.machines i).apply beat c.failureThreshold).2 }

theorem flights_process (f : Fleet ι) (c : Companion.Config) (i : ι) (beat : Companion.Beat) :
    (f.process c i beat).flights i = none :=
  f.flights_fly i none

end Fleet

inductive Step (cs : ι → Companion.Config) (expected : List ExpectedCompanion) :
    Fleet ι → Event ι → Fleet ι → Prop where
  | send {f i} : f.flights i = none → Step cs expected f (.send i) (f.fly i (some .sent))
  | arrive {f m i} (s : AppState) (call : Call) : f.main = some m → f.flights i = some .sent →
      Step cs expected f (.arrive i s call)
        ({ f with main := some (receive m s call (heartbeatOf (cs i))) }.fly i
          (some (answer s m call (heartbeatOf (cs i)))))
  | request {f m} (s : AppState) (call : Call) (hb : Heartbeat) : f.main = some m →
      Step cs expected f (.request s call hb) { f with main := some (receive m s call hb) }
  /-- The answer is 2xx. -/
  | succeeds {f i} : f.flights i = some .accepted →
      Step cs expected f (.finish i .ok) (f.process (cs i) i .ok)
  /-- It is not, or it does not come in time. -/
  | fails {f i flight} : f.flights i = some flight →
      Step cs expected f (.finish i .failed) (f.process (cs i) i .failed)
  | look {f m e} (now : DateTime) : f.main = some m → e ∈ expected →
      Step cs expected f (.look e now)
        { f with main := some { m with firing := (evaluate m.registry e now m.firing).2 } }
  | stop {f m} : f.main = some m → Step cs expected f .stop { f with main := none }
  | start {f} : f.main = none → Step cs expected f .start { f with main := some {} }
  | restart {f i} :
      Step cs expected f (.restart i)
        { f.fly i none with machines := Function.update f.machines i {} }

/-! ## Histories -/

namespace Event

def isStop : Event ι → Bool
  | .stop => true
  | _ => false

def restarts (i : ι) : Event ι → Bool
  | .restart j => j = i
  | _ => false

/-- The instant at which a heartbeat of the id is recorded. -/
def records (cs : ι → Companion.Config) (id : String) : Event ι → Option DateTime
  | .arrive i s call =>
    if Recorded s call (heartbeatOf (cs i)) ∧ trimmed (heartbeatOf (cs i)).id = id then
      some call.receivedAt
    else none
  | .request s call hb =>
    if Recorded s call hb ∧ trimmed hb.id = id then some call.receivedAt else none
  | _ => none

/-- The outcome of a beat of the companion. -/
def outcome (i : ι) : Event ι → Option Companion.Beat
  | .finish j beat => if j = i then some beat else none
  | _ => none

end Event

/-- When heartbeats of the id were recorded since the main instance started, in that order. -/
def recorded (cs : ι → Companion.Config) (id : String) (labels : List (Event ι)) : List DateTime :=
  since Event.isStop (Event.records cs id) labels

/-- How the beats of the companion ended since it started. -/
def outcomes (i : ι) (labels : List (Event ι)) : List Companion.Beat :=
  since (Event.restarts i) (Event.outcome i) labels

/-- Each side remembers its history, and the main instance has none while it is down. -/
structure Follows (cs : ι → Companion.Config) (labels : List (Event ι)) (f : Fleet ι) : Prop where
  registry : ∀ m, f.main = some m → ∀ id,
    m.registry.lastSeen.get id = (recorded cs id labels).getLast?
  down : f.main = none → ∀ id, recorded cs id labels = []
  machines : ∀ i, f.machines i =
    (Companion.StateMachine.applyAll (cs i).failureThreshold {} (outcomes i labels)).2

end System

/-! ## One heartbeat -/

section Heartbeat

variable {s : AppState} {call : Call} {hb : Heartbeat} {m : Monitor}

theorem heartbeat_of_recorded (registry : CompanionRegistry) (h : Recorded s call hb) :
    heartbeat s registry call hb = (.ok (), registry.record (trimmed hb.id) call.receivedAt) := by
  unfold Recorded heartbeat at h
  unfold heartbeat
  dsimp only at h ⊢
  split at h
  · cases h
  · split_ifs at h with hempty
    · cases h
    · exact if_neg hempty

theorem heartbeat_of_refused (registry : CompanionRegistry) (h : ¬Recorded s call hb) :
    ∃ error, heartbeat s registry call hb = (.error error, registry) := by
  unfold Recorded heartbeat at h
  unfold heartbeat
  dsimp only at h ⊢
  split at h
  · exact ⟨_, rfl⟩
  · split_ifs at h with hempty
    · exact ⟨_, if_pos hempty⟩
    · exact absurd rfl h

theorem answer_eq_accepted_iff : answer s m call hb = .accepted ↔ Recorded s call hb := by
  unfold answer
  by_cases h : Recorded s call hb
  · rw [heartbeat_of_recorded _ h]
    exact iff_of_true rfl h
  · obtain ⟨error, heq⟩ := heartbeat_of_refused m.registry h
    rw [heq]
    exact iff_of_false nofun h

/-- The last heartbeat recorded of each id, one heartbeat more. -/
theorem get_receive (id : String) :
    (receive m s call hb).registry.lastSeen.get id =
      if Recorded s call hb ∧ trimmed hb.id = id then some call.receivedAt
      else m.registry.lastSeen.get id := by
  unfold receive
  by_cases h : Recorded s call hb
  · rw [heartbeat_of_recorded _ h]
    show (BTreeMap.insert _ _ _).get id = _
    rw [BTreeMap.get_insert]
    by_cases hid : id = trimmed hb.id
    · rw [if_pos hid, if_pos ⟨h, hid.symm⟩]
    · rw [if_neg hid, if_neg fun h' => hid h'.2.symm]
  · obtain ⟨error, heq⟩ := heartbeat_of_refused m.registry h
    rw [heq, if_neg fun h' => h h'.1]

end Heartbeat

/-! ## One step -/

section Steps

variable {ι : Type} {cs : ι → Companion.Config} {expected : List ExpectedCompanion}
  {labels : List (Event ι)} {f f' : Fleet ι} {a : Event ι}

theorem recorded_snoc (id : String) (labels : List (Event ι)) (a : Event ι) :
    recorded cs id (labels ++ [a]) =
      if a.isStop then [] else recorded cs id labels ++ (a.records cs id).toList :=
  since_snoc labels a

/-- While the main instance stays up, it forgets nothing. -/
theorem recorded_append {id : String} {first second : List (Event ι)} (hup : .stop ∉ second) :
    recorded cs id (first ++ second) =
      recorded cs id first ++ second.filterMap (Event.records cs id) := by
  apply since_append
  intro a ha
  cases a with
  | stop => exact absurd ha hup
  | _ => rfl

theorem recorded_of_quiet {id : String} (hstop : a.isStop = false)
    (hquiet : a.records cs id = none) : recorded cs id (labels ++ [a]) = recorded cs id labels := by
  rw [recorded_snoc, hstop, if_neg Bool.false_ne_true, hquiet]
  exact List.append_nil _

theorem getLast?_recorded {id : String} (hstop : a.isStop = false) :
    (recorded cs id (labels ++ [a])).getLast? =
      (a.records cs id).or (recorded cs id labels).getLast? := by
  rw [recorded_snoc, hstop, if_neg Bool.false_ne_true, List.getLast?_append]
  cases a.records cs id <;> rfl

variable [DecidableEq ι]

theorem outcomes_snoc (i : ι) (labels : List (Event ι)) (a : Event ι) :
    outcomes i (labels ++ [a]) =
      if a.restarts i then [] else outcomes i labels ++ (a.outcome i).toList :=
  since_snoc labels a

theorem outcomes_of_quiet {i : ι} (hrestart : a.restarts i = false) (hquiet : a.outcome i = none) :
    outcomes i (labels ++ [a]) = outcomes i labels := by
  rw [outcomes_snoc, hrestart, if_neg Bool.false_ne_true, hquiet]
  exact List.append_nil _

/-- The main instance remembers the last heartbeat of each id since it started. -/
theorem Follows.step_registry (hf : Follows cs labels f) (h : Step cs expected f a f') {m : Monitor}
    (hm : f'.main = some m) (id : String) :
    m.registry.lastSeen.get id = (recorded cs id (labels ++ [a])).getLast? := by
  cases h with
  | send hidle =>
    rw [recorded_of_quiet rfl rfl]
    exact hf.registry m hm id
  | @arrive m' i s call hup hsent =>
    obtain rfl := Option.some.inj hm
    rw [getLast?_recorded rfl, get_receive, hf.registry m' hup id]
    show _ = (ite _ _ _ : Option DateTime).or _
    split_ifs <;> rfl
  | @request m' s call hb hup =>
    obtain rfl := Option.some.inj hm
    rw [getLast?_recorded rfl, get_receive, hf.registry m' hup id]
    show _ = (ite _ _ _ : Option DateTime).or _
    split_ifs <;> rfl
  | succeeds hflight =>
    rw [recorded_of_quiet rfl rfl]
    exact hf.registry m hm id
  | fails hflight =>
    rw [recorded_of_quiet rfl rfl]
    exact hf.registry m hm id
  | @look m' e now hup he =>
    obtain rfl := Option.some.inj hm
    rw [recorded_of_quiet rfl rfl]
    exact hf.registry m' hup id
  | stop hup => cases hm
  | start hdown =>
    obtain rfl := Option.some.inj hm
    rw [recorded_of_quiet rfl rfl, hf.down hdown id]
    rfl
  | restart =>
    rw [recorded_of_quiet rfl rfl]
    exact hf.registry m hm id

theorem Follows.step_down (hf : Follows cs labels f) (h : Step cs expected f a f')
    (hdown : f'.main = none) (id : String) : recorded cs id (labels ++ [a]) = [] := by
  cases h with
  | send hidle =>
    rw [recorded_of_quiet rfl rfl]
    exact hf.down hdown id
  | arrive s call hup hsent => cases hdown
  | request s call hb hup => cases hdown
  | succeeds hflight =>
    rw [recorded_of_quiet rfl rfl]
    exact hf.down hdown id
  | fails hflight =>
    rw [recorded_of_quiet rfl rfl]
    exact hf.down hdown id
  | look now hup he => cases hdown
  | stop hup => exact recorded_snoc ..
  | start hdown' => cases hdown
  | restart =>
    rw [recorded_of_quiet rfl rfl]
    exact hf.down hdown id

/-- A companion remembers the outcomes since it started. -/
theorem Follows.step_machines (hf : Follows cs labels f) (h : Step cs expected f a f') (i : ι) :
    f'.machines i = (Companion.StateMachine.applyAll (cs i).failureThreshold {}
      (outcomes i (labels ++ [a]))).2 := by
  -- A beat drives the machine of its companion and no other.
  have hfinish : ∀ (j : ι) (beat : Companion.Beat),
      (f.process (cs j) j beat).machines i = (Companion.StateMachine.applyAll
        (cs i).failureThreshold {} (outcomes i (labels ++ [.finish j beat]))).2 := by
    intro j beat
    unfold Fleet.process
    by_cases hij : j = i
    · subst hij
      rw [outcomes_snoc, if_neg (by exact Bool.false_ne_true),
        show (Event.finish j beat).outcome j = some beat from if_pos rfl, Option.toList_some,
        Companion.StateMachine.applyAll_concat, ← hf.machines j]
      exact Function.update_self ..
    · rw [outcomes_of_quiet rfl (show (Event.finish j beat).outcome i = none from if_neg hij),
        ← hf.machines i]
      exact Function.update_of_ne (Ne.symm hij) ..
  cases h with
  | succeeds hflight => exact hfinish _ _
  | fails hflight => exact hfinish _ _
  | @restart j =>
    show Function.update f.machines j {} i = _
    by_cases hij : j = i
    · subst hij
      rw [outcomes_snoc, if_pos (show Event.restarts j (.restart j) = true from decide_eq_true rfl)]
      exact Function.update_self ..
    · rw [outcomes_of_quiet
          (show Event.restarts i (.restart j) = false from decide_eq_false hij) rfl,
        ← hf.machines i]
      exact Function.update_of_ne (Ne.symm hij) ..
  | send hidle =>
    rw [outcomes_of_quiet rfl rfl]
    exact hf.machines i
  | arrive s call hup hsent =>
    rw [outcomes_of_quiet rfl rfl]
    exact hf.machines i
  | request s call hb hup =>
    rw [outcomes_of_quiet rfl rfl]
    exact hf.machines i
  | look now hup he =>
    rw [outcomes_of_quiet rfl rfl]
    exact hf.machines i
  | stop hup =>
    rw [outcomes_of_quiet rfl rfl]
    exact hf.machines i
  | start hdown =>
    rw [outcomes_of_quiet rfl rfl]
    exact hf.machines i

/-- **One step.** -/
theorem Follows.step (hf : Follows cs labels f) (h : Step cs expected f a f') :
    Follows cs (labels ++ [a]) f' where
  registry _ hm id := hf.step_registry h hm id
  down hdown id := hf.step_down h hdown id
  machines i := hf.step_machines h i

/-- An acceptance on its way back was recorded, at this step or before. -/
theorem Step.accepted {i : ι} (h : Step cs expected f a f') (hflight : f'.flights i = some .accepted) :
    f.flights i = some .accepted ∨ ∃ t, a.records cs (trimmed (cs i).id) = some t := by
  -- A flight of another companion, or one that was just given up or sent, is none of this.
  have hother : ∀ (g : Fleet ι) (j : ι) (flight : Option Flight), flight ≠ some .accepted →
      (g.fly j flight).flights i = some .accepted → g.flights i = some .accepted := by
    intro g j flight hne h
    by_cases hij : i = j
    · subst hij
      exact absurd ((g.flights_fly i flight).symm.trans h) hne
    · exact (g.flights_fly_of_ne hij flight).symm.trans h
  cases h with
  | send hidle => exact .inl (hother f _ _ (by simp) hflight)
  | @arrive m j s call hup hsent =>
    by_cases hrecorded : Recorded s call (heartbeatOf (cs j))
    · by_cases hij : i = j
      · subst hij
        exact .inr ⟨call.receivedAt, if_pos ⟨hrecorded, rfl⟩⟩
      · exact .inl ((Fleet.flights_fly_of_ne _ hij _).symm.trans hflight)
    · refine .inl (hother _ j _ ?_ hflight)
      intro haccepted
      exact hrecorded (answer_eq_accepted_iff.mp (Option.some.inj haccepted))
  | request s call hb hup => exact .inl hflight
  | succeeds hsuccess => exact .inl (hother f _ none nofun hflight)
  | fails hfailed => exact .inl (hother f _ none nofun hflight)
  | look now hup he => exact .inl hflight
  | stop hup => exact .inl hflight
  | start hdown => exact .inl hflight
  | restart => exact .inl (hother f _ none nofun hflight)

/-- What the monitor tells goes by the last heartbeat that the main instance remembers. -/
theorem Follows.alarms_iff {e : ExpectedCompanion} {now : DateTime} (hf : Follows cs labels f)
    (h : Step cs expected f (.look e now) f') :
    f'.Alarms e.id ↔ ∀ t ∈ (recorded cs e.id labels).getLast?,
      (e.timeout : Int) < now.nanos - t.nanos := by
  classical
  cases h with
  | @look m _ _ hup he =>
    unfold Fleet.Alarms
    rw [← hf.registry m hup e.id]
    have hbit : isFiring (evaluate m.registry e now m.firing).2 e.id = true ↔
        Overdue m.registry e now := by
      rw [evaluate_firing, isFiring_insert, if_pos rfl, decide_eq_true_iff]
    constructor
    · rintro ⟨m', hm', hfiring⟩
      obtain rfl := Option.some.inj hm'
      exact hbit.mp hfiring
    · intro hoverdue
      exact ⟨_, rfl, hbit.mpr hoverdue⟩

/-- What a companion tells goes by the failures that its outcomes end with. -/
theorem Follows.firing_iff (hf : Follows cs labels f) (i : ι) :
    (f.machines i).firing = true ↔
      (cs i).failureThreshold.toNat ≤ Companion.trailingFailures (outcomes i labels) := by
  rw [hf.machines i]
  exact (Companion.counts_applyAll (cs i).threshold_ne_zero _).firing

end Steps

/-! ## Runs -/

section Runs

variable {ι : Type} [DecidableEq ι] {cs : ι → Companion.Config} {expected : List ExpectedCompanion}
  {labels before recent : List (Event ι)} {f mid late : Fleet ι}

theorem follows_nil (cs : ι → Companion.Config) : Follows cs [] {} where
  registry := nofun
  down _ _ := rfl
  machines _ := rfl

theorem follows_of_run (h : Run (Step cs expected) {} labels f) : Follows cs labels f := by
  induction h with
  | nil => exact follows_nil cs
  | snoc _ hstep ih => exact ih.step hstep

/-- **Successes were recorded.** Whatever a companion takes for a success, between two beats, the
main instance has recorded in the meantime. -/
theorem recorded_of_ok {i : ι} (h : Run (Step cs expected) mid recent f)
    (hmid : mid.flights i = none)
    (hok : f.flights i = some .accepted ∨ .finish i .ok ∈ recent) :
    recent.filterMap (Event.records cs (trimmed (cs i).id)) ≠ [] := by
  induction h with
  | nil =>
    rcases hok with hflight | hmem
    · rw [hmid] at hflight
      cases hflight
    · cases hmem
  | @snoc labels g g' a hrun hstep ih =>
    rw [List.filterMap_append]
    -- The success was on its way before this step, or it is recorded at it.
    have hcases : (g.flights i = some .accepted ∨ .finish i .ok ∈ labels) ∨
        ∃ t, a.records cs (trimmed (cs i).id) = some t := by
      rcases hok with hflight | hmem
      · exact (hstep.accepted hflight).imp_left .inl
      · rcases List.mem_append.mp hmem with hmem | hmem
        · exact .inl (.inr hmem)
        · rw [← List.mem_singleton.mp hmem] at hstep
          cases hstep with
          | succeeds hflight => exact .inl (.inl hflight)
    rcases hcases with hbefore | ⟨t, ht⟩
    · exact List.append_ne_nil_of_left_ne_nil (ih hbefore) _
    · apply List.append_ne_nil_of_right_ne_nil
      rw [List.filterMap_cons_some ht]
      exact List.cons_ne_nil _ _

theorem le_trailingFailures {earlier beats : List Companion.Beat} (h : .ok ∉ beats) :
    beats.length ≤ Companion.trailingFailures (earlier ++ beats) := by
  induction beats using List.reverseRecOn with
  | nil => exact Nat.zero_le _
  | append_singleton beats beat ih =>
    obtain ⟨hbeats, hbeat⟩ := not_or.mp (mt List.mem_append.mpr h)
    have hfailed : beat = .failed := by
      cases beat with
      | ok => exact absurd List.mem_cons_self hbeat
      | failed => rfl
    rw [hfailed, ← List.append_assoc, Companion.trailingFailures_concat_failed, List.length_append]
    exact Nat.succ_le_succ (ih hbeats)

/-- A companion whose beats were not recorded for long enough has raised its alarm. -/
theorem firing_of_unrecorded {i : ι} (hbefore : Run (Step cs expected) {} before mid)
    (hrecent : Run (Step cs expected) mid recent late) (hmid : mid.flights i = none)
    (hrestart : .restart i ∉ recent)
    (hbeats : (cs i).failureThreshold.toNat ≤ (recent.filterMap (Event.outcome i)).length)
    (hnone : recent.filterMap (Event.records cs (trimmed (cs i).id)) = []) :
    (late.machines i).firing = true := by
  have hfollows := follows_of_run (Run.append_iff.mpr ⟨mid, hbefore, hrecent⟩)
  have hkept : outcomes i (before ++ recent) =
      outcomes i before ++ recent.filterMap (Event.outcome i) := by
    apply since_append
    intro a ha
    cases a with
    | restart j => exact decide_eq_false fun hij => hrestart (hij ▸ ha)
    | _ => rfl
  have hfailed : .ok ∉ recent.filterMap (Event.outcome i) := by
    intro hok
    obtain ⟨a, ha, hbeat⟩ := List.mem_filterMap.mp hok
    cases a with
    | finish j beat =>
      dsimp only [Event.outcome] at hbeat
      split_ifs at hbeat with hij
      rw [Option.some.inj hbeat, hij] at ha
      exact recorded_of_ok hrecent hmid (.inr ha) hnone
    | _ => cases hbeat
  rw [hfollows.firing_iff, hkept]
  exact hbeats.trans (le_trailingFailures hfailed)

/-- **Both ends.** Just after the monitor has evaluated a companion, the main instance tells that it
is down exactly when the last heartbeat that it has recorded since it started, if there is one, is
older than the timeout; a companion tells that the main instance is unreachable exactly when its
last outcomes are failures, the threshold of them. Where a companion has made so many beats in the
meantime without starting again: when the main instance stayed up, and the meantime is no longer
than the timeout, then the companion is not told to be down unless it tells so too; and when nothing
was recorded, and what was before is too old, both do. -/
theorem both_ends_alarm {e : ExpectedCompanion} {now : DateTime}
    (hbefore : Run (Step cs expected) {} before mid)
    (hrecent : Run (Step cs expected) mid recent late)
    (hlook : Step cs expected late (.look e now) f) :
    (f.Alarms e.id ↔ ∀ t ∈ (recorded cs e.id (before ++ recent)).getLast?,
        (e.timeout : Int) < now.nanos - t.nanos) ∧
      (∀ i, (f.machines i).firing = true ↔ (cs i).failureThreshold.toNat ≤
        Companion.trailingFailures (outcomes i (before ++ recent))) ∧
      ∀ i, e.id = trimmed (cs i).id → mid.flights i = none → .restart i ∉ recent →
        (cs i).failureThreshold.toNat ≤ (recent.filterMap (Event.outcome i)).length →
        (.stop ∉ recent →
          (∀ t ∈ recent.filterMap (Event.records cs e.id), now.nanos - t.nanos ≤ e.timeout) →
          f.Alarms e.id → (f.machines i).firing = true) ∧
        (recent.filterMap (Event.records cs e.id) = [] →
          (∀ t ∈ (recorded cs e.id before).getLast?, (e.timeout : Int) < now.nanos - t.nanos) →
          f.Alarms e.id ∧ (f.machines i).firing = true) := by
  have hfollows := follows_of_run (Run.append_iff.mpr ⟨mid, hbefore, hrecent⟩)
  have halarms := hfollows.alarms_iff hlook
  have hmachines : f.machines = late.machines := by
    cases hlook with
    | look _ _ _ => rfl
  refine ⟨halarms, ?_, ?_⟩
  · intro i
    rw [hmachines]
    exact hfollows.firing_iff i
  · intro i hid hmid hrestart hbeats
    rw [hmachines]
    rw [hid]
    rw [hid] at halarms
    constructor
    · intro hup hwithin htold
      apply firing_of_unrecorded hbefore hrecent hmid hrestart hbeats
      -- What was recorded in the meantime would be recent enough.
      by_contra hsome
      obtain ⟨t, ht⟩ := Option.isSome_iff_exists.mp (List.getLast?_isSome.mpr hsome)
      have hlast : t ∈ (recorded cs (trimmed (cs i).id) (before ++ recent)).getLast? := by
        rw [recorded_append hup, List.getLast?_append, ht]
        exact Option.mem_some_self t
      have hold := halarms.mp htold t hlast
      have hnew := hwithin t (List.mem_of_getLast? ht)
      omega
    · intro hnone hold
      refine ⟨halarms.mpr ?_, firing_of_unrecorded hbefore hrecent hmid hrestart hbeats hnone⟩
      have hsilent : recorded cs (trimmed (cs i).id) (before ++ recent) =
          recorded cs (trimmed (cs i).id) before ∨
            recorded cs (trimmed (cs i).id) (before ++ recent) = [] :=
        since_append_of_silent (List.filterMap_eq_nil_iff.mp hnone)
      rcases hsilent with hkept | hreset
      · rw [hkept]
        exact hold
      · rw [hreset]
        exact nofun

end Runs

section Sample

def edge : ExpectedCompanion where
  id := Companion.edgeConfig.id
  timeout := 60 * 1000000000
  severity := "critical"
  id_not_blank := Companion.edgeConfig.id_not_blank

/-- A heartbeat is recorded and answered. -/
def connected : List (Event Unit) :=
  [.start, .send (), .arrive () openMain edgeCall, .finish () .ok]

/-- The next one is lost. -/
def severed : List (Event Unit) := [.send (), .finish () .failed]

abbrev EdgeStep : Fleet Unit → Event Unit → Fleet Unit → Prop :=
  Step (fun _ => Companion.edgeConfig) [edge]

theorem run_connected :
    ∃ mid, Run EdgeStep {} connected mid ∧ mid.flights () = none ∧ mid.main ≠ none := by
  have haccepted : answer openMain {} edgeCall (heartbeatOf Companion.edgeConfig) = .accepted :=
    answer_eq_accepted_iff.mpr (by decide +kernel)
  refine ⟨_, Run.cons_iff.mpr ⟨_, .start rfl, Run.cons_iff.mpr ⟨_, .send rfl,
    Run.cons_iff.mpr ⟨_, .arrive openMain edgeCall rfl (Fleet.flights_fly ..),
      Run.single (.succeeds ?_)⟩⟩⟩, Fleet.flights_process .., nofun⟩
  rw [haccepted]
  exact Fleet.flights_fly ..

theorem run_severed {mid : Fleet Unit} (hmid : mid.flights () = none) (hup : mid.main ≠ none) :
    ∃ late, Run EdgeStep mid severed late ∧ late.main ≠ none :=
  ⟨_, Run.cons_iff.mpr ⟨_, .send hmid, Run.single (.fails (Fleet.flights_fly ..))⟩, hup⟩

/-- A minute and a nanosecond after the heartbeat, the link is severed, and both sides tell. -/
theorem both_ends_alarm_severed :
    ∃ mid late f, Run EdgeStep {} connected mid ∧ Run EdgeStep mid severed late ∧
      EdgeStep late (.look edge ⟨60 * 1000000000 + 1⟩) f ∧ f.Alarms "edge" ∧
      (f.machines ()).firing = true := by
  obtain ⟨mid, hconnected, hmid, hup⟩ := run_connected
  obtain ⟨late, hsevered, hlate⟩ := run_severed hmid hup
  obtain ⟨m, hm⟩ := Option.ne_none_iff_exists'.mp hlate
  have hlook : EdgeStep late (.look edge ⟨60 * 1000000000 + 1⟩) _ :=
    .look _ hm List.mem_cons_self
  refine ⟨mid, late, _, hconnected, hsevered, hlook, ?_⟩
  apply ((both_ends_alarm hconnected hsevered hlook).2.2 () (by decide +kernel) hmid
    (by simp [severed]) (by decide)).2 rfl
  intro t ht
  have hrecorded : recorded (fun _ => Companion.edgeConfig) edge.id connected = [⟨0⟩] := by
    decide +kernel
  rw [hrecorded] at ht
  obtain rfl := Option.some.inj ht
  decide

end Sample

end Datacat.Switch
