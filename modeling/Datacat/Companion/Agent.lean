import Datacat.Companion.Config

/-!
# The Agent of a Companion

The agent counts the heartbeats that failed in a row. When the count reaches the threshold it
raises an alert of its own, and it clears the alert at the next heartbeat that succeeds. The alert
goes through a sink that may refuse it.

The machine is firing from the beat that reaches the threshold, whether or not the sink took the
alert. So an outage is announced at that beat or not at all (`Config.outage_announced_iff`).
-/

namespace Datacat.Companion

open Basics

/-! ## State machine -/

inductive Beat where
  /-- The main instance acknowledged the heartbeat. -/
  | ok
  | failed
deriving DecidableEq

inductive AlertState where
  | firing
  | resolved
deriving DecidableEq

structure StateMachine where
  consecutiveFailures : UInt32 := 0
  firing : Bool := false
deriving DecidableEq

/-- `n.saturating_add(1)`. -/
def saturatingSucc (n : UInt32) : UInt32 := if n = 0xFFFFFFFF then n else n + 1

/-- `StateMachine::apply`. -/
def StateMachine.apply (sm : StateMachine) (beat : Beat) (threshold : UInt32) :
    Option AlertState × StateMachine :=
  match beat with
  | .ok =>
    if sm.firing then (some .resolved, { consecutiveFailures := 0, firing := false })
    else (none, { sm with consecutiveFailures := 0 })
  | .failed =>
    let failures := saturatingSucc sm.consecutiveFailures
    if !sm.firing && decide (threshold ≤ failures) then
      (some .firing, { consecutiveFailures := failures, firing := true })
    else (none, { sm with consecutiveFailures := failures })

/-! ## Alerts -/

structure SelfAlert where
  id : String
  state : AlertState
  text : String
deriving DecidableEq

/-- `build_alert`. -/
def Config.buildAlert (c : Config) (state : AlertState) : SelfAlert where
  id := c.id
  state := state
  text :=
    match state with
    | .firing =>
      "Datacat companion '" ++ c.id ++ "' cannot reach Datacat main at " ++ c.mainUrl ++ " (" ++
        toString c.failureThreshold.toNat ++ " consecutive failed heartbeats)"
    | .resolved =>
      "Datacat companion '" ++ c.id ++ "' recovered: Datacat main at " ++ c.mainUrl ++
        " is reachable again"

/-- One turn of the agent's loop: how the heartbeat ended, and whether the sink would take an
alert now. -/
structure Turn where
  beat : Beat
  accepts : Bool
deriving DecidableEq

/-- `Agent::process`: the machine afterwards, and the alert that the sink took. A refused alert is
only logged. -/
def Config.process (c : Config) (sm : StateMachine) (turn : Turn) :
    StateMachine × Option SelfAlert :=
  match sm.apply turn.beat c.failureThreshold with
  | (none, sm') => (sm', none)
  | (some transition, sm') =>
    (sm', if turn.accepts then some (c.buildAlert transition) else none)

/-- The loop of `Agent::run`: the machine after the turns, and the alerts delivered. -/
def Config.run (c : Config) : StateMachine → List Turn → StateMachine × List SelfAlert
  | sm, [] => (sm, [])
  | sm, turn :: rest =>
    let (sm', delivered) := c.process sm turn
    let (last, alerts) := c.run sm' rest
    (last, delivered.toList ++ alerts)

theorem Config.run_cons (c : Config) (sm : StateMachine) (turn : Turn) (rest : List Turn) :
    c.run sm (turn :: rest) =
      ((c.run (c.process sm turn).1 rest).1,
        (c.process sm turn).2.toList ++ (c.run (c.process sm turn).1 rest).2) :=
  rfl

theorem Config.run_append (c : Config) (sm : StateMachine) (first second : List Turn) :
    (c.run sm (first ++ second)).1 = (c.run (c.run sm first).1 second).1 := by
  induction first generalizing sm with
  | nil => rfl
  | cons turn first ih =>
    rw [List.cons_append, Config.run_cons, Config.run_cons]
    exact ih _

/-! ## Outages -/

def Turn.down (turn : Turn) : Bool := turn.beat == .failed

theorem Turn.down_iff {turn : Turn} : turn.down = true ↔ turn.beat = .failed := beq_iff_eq

/-- The turns before the failures in a row that the turns end with. -/
def beforeOutage (turns : List Turn) : List Turn := turns.rdropWhile Turn.down

/-- The failures in a row that the turns end with, oldest first. -/
def outage (turns : List Turn) : List Turn := turns.rtakeWhile Turn.down

/-- An alert for the outage that the turns end with was delivered during it. -/
def Config.Announced (c : Config) (turns : List Turn) : Prop :=
  ∃ alert ∈ (c.run (c.run {} (beforeOutage turns)).1 (outage turns)).2, alert.state = .firing

/-- The turns end an outage of at least the threshold, on a beat at which the sink would take an
alert. -/
def Config.Announceable (c : Config) (turns : List Turn) : Prop :=
  c.failureThreshold.toNat ≤ (outage turns).length ∧
    ∃ turn, turns.getLast? = some turn ∧ turn.accepts = true

/-- The sink takes an alert at the beat at which the failures reach the threshold. -/
def Config.AcceptsAtThreshold (c : Config) (turns : List Turn) : Prop :=
  ∃ turn, (outage turns)[c.failureThreshold.toNat - 1]? = some turn ∧ turn.accepts = true

/-! ## What one turn does -/

/-- A success leaves the machine as it was built. -/
theorem Config.process_ok (c : Config) (sm : StateMachine) {turn : Turn} (h : turn.down = false) :
    (c.process sm turn).1 = {} := by
  have hbeat : turn.beat = .ok := by
    cases hb : turn.beat with
    | ok => rfl
    | failed => exact absurd (Turn.down_iff.mpr hb) (Bool.eq_false_iff.mp h)
  unfold Config.process StateMachine.apply
  rw [hbeat]
  cases sm.firing <;> simp

/-- While the machine is firing, a failure announces nothing. -/
theorem Config.process_firing (c : Config) {sm : StateMachine} {turn : Turn}
    (hfiring : sm.firing = true) (h : turn.down = true) :
    (c.process sm turn).1.firing = true ∧ (c.process sm turn).2 = none := by
  unfold Config.process StateMachine.apply
  rw [Turn.down_iff.mp h]
  simp [hfiring]

theorem saturatingSucc_toNat (n : UInt32) :
    (saturatingSucc n).toNat = min (n.toNat + 1) (2 ^ 32 - 1) := by
  have hlt := n.toNat_lt
  unfold saturatingSucc
  split
  · rename_i hmax
    rw [hmax]
    rfl
  · rename_i hmax
    have hne : n.toNat ≠ 2 ^ 32 - 1 := fun h => hmax (UInt32.toNat.inj h)
    rw [UInt32.toNat_add]
    show (n.toNat + 1) % 2 ^ 32 = _
    omega

/-- The count of a failure, as long as it stays within the threshold. -/
theorem saturatingSucc_toNat_of_lt {n threshold : UInt32} (h : n.toNat < threshold.toNat) :
    (saturatingSucc n).toNat = n.toNat + 1 := by
  have hlt := threshold.toNat_lt
  rw [saturatingSucc_toNat]
  omega

/-- A failure that does not reach the threshold is counted. -/
theorem Config.process_below (c : Config) {sm : StateMachine} {turn : Turn}
    (hidle : sm.firing = false) (h : turn.down = true)
    (hbelow : sm.consecutiveFailures.toNat + 1 < c.failureThreshold.toNat) :
    c.process sm turn =
      ({ consecutiveFailures := saturatingSucc sm.consecutiveFailures, firing := false }, none) := by
  have hcount := saturatingSucc_toNat_of_lt (Nat.lt_of_succ_lt hbelow)
  have hnot : ¬c.failureThreshold ≤ saturatingSucc sm.consecutiveFailures := by
    rw [UInt32.le_iff_toNat_le, hcount]
    omega
  unfold Config.process StateMachine.apply
  rw [Turn.down_iff.mp h]
  simp [hidle, hnot]

/-- The failure that reaches the threshold raises the alert. -/
theorem Config.process_reached (c : Config) {sm : StateMachine} {turn : Turn}
    (hidle : sm.firing = false) (h : turn.down = true)
    (hreached : sm.consecutiveFailures.toNat + 1 = c.failureThreshold.toNat) :
    (c.process sm turn).1.firing = true ∧
      (c.process sm turn).2 = if turn.accepts then some (c.buildAlert .firing) else none := by
  have hbelow : sm.consecutiveFailures.toNat < c.failureThreshold.toNat := by omega
  have hcount := saturatingSucc_toNat_of_lt hbelow
  have hle : c.failureThreshold ≤ saturatingSucc sm.consecutiveFailures := by
    rw [UInt32.le_iff_toNat_le, hcount]
    omega
  unfold Config.process StateMachine.apply
  rw [Turn.down_iff.mp h]
  simp [hidle, hle]

/-! ## What an outage does -/

/-- A machine that is firing stays silent to the end of the outage. -/
theorem Config.run_firing (c : Config) {sm : StateMachine} {turns : List Turn}
    (hfiring : sm.firing = true) (hdown : ∀ turn ∈ turns, turn.down = true) :
    (c.run sm turns).2 = [] := by
  induction turns generalizing sm with
  | nil => rfl
  | cons turn rest ih =>
    obtain ⟨hhead, htail⟩ := List.forall_mem_cons.mp hdown
    obtain ⟨hfiring', hnone⟩ := c.process_firing hfiring hhead
    rw [Config.run_cons, hnone, ih hfiring' htail]
    rfl

/-- An outage is announced at the failure that reaches the threshold, or not at all. -/
theorem Config.run_idle (c : Config) {sm : StateMachine} {turns : List Turn}
    (hidle : sm.firing = false)
    (hbelow : sm.consecutiveFailures.toNat < c.failureThreshold.toNat)
    (hdown : ∀ turn ∈ turns, turn.down = true) :
    (∃ alert ∈ (c.run sm turns).2, alert.state = .firing) ↔
      ∃ turn, turns[c.failureThreshold.toNat - 1 - sm.consecutiveFailures.toNat]? = some turn ∧
        turn.accepts = true := by
  induction turns generalizing sm with
  | nil => exact ⟨nofun, nofun⟩
  | cons turn rest ih =>
    obtain ⟨hhead, htail⟩ := List.forall_mem_cons.mp hdown
    rcases Nat.lt_or_eq_of_le (Nat.succ_le_of_lt hbelow) with hlt | hreached
    -- The count goes up, and the place of the alert is one turn nearer.
    · have hcount := saturatingSucc_toNat_of_lt hbelow
      rw [Config.run_cons, c.process_below hidle hhead hlt, Option.toList_none, List.nil_append]
      refine (ih rfl (hcount ▸ hlt) htail).trans ?_
      rw [show c.failureThreshold.toNat - 1 - sm.consecutiveFailures.toNat =
        c.failureThreshold.toNat - 1 - (saturatingSucc sm.consecutiveFailures).toNat + 1 by omega,
        List.getElem?_cons_succ]
    -- The alert goes out now, and nothing after it.
    · obtain ⟨hfiring, hsent⟩ := c.process_reached hidle hhead hreached
      rw [Config.run_cons, c.run_firing hfiring htail, hsent, List.append_nil,
        show c.failureThreshold.toNat - 1 - sm.consecutiveFailures.toNat = 0 by omega,
        List.getElem?_cons_zero]
      cases haccepts : turn.accepts with
      | true =>
        refine ⟨fun _ => ⟨turn, rfl, haccepts⟩, fun _ => ?_⟩
        exact ⟨c.buildAlert .firing, List.mem_singleton_self _, rfl⟩
      | false =>
        refine ⟨nofun, ?_⟩
        intro ⟨found, hfound, haccepted⟩
        rw [← Option.some.inj hfound, haccepts] at haccepted
        cases haccepted

/-- Before an outage the machine is as it was built. -/
theorem Config.run_beforeOutage (c : Config) (turns : List Turn) :
    (c.run {} (beforeOutage turns)).1 = {} := by
  by_cases hnil : beforeOutage turns = []
  · rw [hnil]
    rfl
  -- The turn before an outage is a success.
  · have hok := Bool.eq_false_iff.mpr (List.rdropWhile_last_not Turn.down turns hnil)
    rw [← List.dropLast_append_getLast hnil, Config.run_append]
    exact c.process_ok _ hok

/-- **Outages that are announced.** -/
theorem Config.outage_announced_iff (c : Config) (turns : List Turn) :
    (c.Announceable turns → c.Announced turns) ↔
      (c.Announceable turns → c.AcceptsAtThreshold turns) := by
  refine imp_congr_right fun _ => ?_
  unfold Config.Announced Config.AcceptsAtThreshold
  rw [c.run_beforeOutage]
  apply c.run_idle rfl
  · exact Nat.pos_of_ne_zero fun h => c.threshold_ne_zero (UInt32.toNat.inj h)
  · exact fun turn h => List.mem_rtakeWhile_imp h

/-- A node whose first failure is an outage. -/
def edgeConfig : Config where
  mainUrl := "https://main"
  id := "edge"
  token := "t"
  interval := 30 * 1000000000
  requestTimeout := heartbeatTimeout
  failureThreshold := 1
  alert := .webhook "https://hook" BTreeMap.empty
  id_not_blank := by decide
  threshold_ne_zero := by decide

/-- The network is down when the alert is raised and comes back before the main instance does: the
alert is lost. -/
theorem not_outage_announced :
    ¬∀ (c : Config) (turns : List Turn), c.Announceable turns → c.Announced turns := by
  intro h
  obtain ⟨alert, hmem, -⟩ :=
    h edgeConfig [⟨.failed, false⟩, ⟨.failed, true⟩] ⟨by decide, ⟨.failed, true⟩, rfl, rfl⟩
  exact List.not_mem_nil hmem

end Datacat.Companion
