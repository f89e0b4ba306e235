import Datacat.Alerting.Notify
import Datacat.Companion.Config
import Datacat.Settings
import Datacat.State

/-!
# Liveness of the Companions

The main instance keeps the instant of the last heartbeat of each companion. A monitor looks up
the companions that its configuration expects, and tells when one has been silent for longer than
its timeout.

The handler records a heartbeat under the trimmed id, while neither configuration trims: an id
with white space around it is accepted on both sides and never found. `companion_alive_iff`
says which companions the monitor sees alive after a heartbeat.
-/

namespace Datacat.Liveness

open Basics Alerting Settings

/-! ## Registry -/

/-- `CompanionRegistry`: when each companion was last seen. -/
structure CompanionRegistry where
  lastSeen : BTreeMap String DateTime := BTreeMap.empty

/-- `CompanionRegistry::record`. -/
def CompanionRegistry.record (registry : CompanionRegistry) (id : String) (now : DateTime) :
    CompanionRegistry :=
  { lastSeen := registry.lastSeen.insert id now }

structure Heartbeat where
  id : String

/-- `str::trim`, on strings. -/
def trimmed (s : String) : String := String.ofList (trim s.toList)

/-- The body that a companion posts. -/
def heartbeatOf (c : Companion.Config) : Heartbeat := ⟨c.id⟩

/-- `POST /v1/heartbeat`. -/
def heartbeat (s : AppState) (registry : CompanionRegistry) (call : Call) (hb : Heartbeat) :
    Except AppError Unit × CompanionRegistry :=
  match checkServiceToken s.config.logsAuth s.verifier call.verifiedAt call.token with
  | .error message => (.error (.unauthorized message), registry)
  | .ok () =>
    let id := trimmed hb.id
    if id.isEmpty then (.error (AppError.ofMessage "companion id requis"), registry)
    else (.ok (), registry.record id call.receivedAt)

/-- The registry after a sequence of requests. -/
def heartbeats (s : AppState) (registry : CompanionRegistry) (requests : List (Call × Heartbeat)) :
    CompanionRegistry :=
  requests.foldl (fun registry x => (heartbeat s registry x.1 x.2).2) registry

/-! ## Monitor -/

/-- `evaluate`: the alert of a transition, and the companions that are firing. -/
def evaluate (registry : CompanionRegistry) (c : ExpectedCompanion) (now : DateTime)
    (firing : BTreeMap String Bool) : Option Alert × BTreeMap String Bool :=
  let last := registry.lastSeen.get c.id
  -- A heartbeat from the future counts as one of this instant.
  let silentFor := last.map fun t => (now.nanos - t.nanos).toNat
  let down :=
    match silentFor with
    | some d => decide (c.timeout < d)
    | none => true
  let transition : Option AlertState :=
    match (firing.get c.id).getD false, down with
    | false, true => some .firing
    | true, false => some .resolved
    | _, _ => none
  let secs := (silentFor.map fun d => d / 1000000000).getD 0
  let description :=
    match last with
    | some _ =>
      "companion '" ++ c.id ++ "' silent for " ++ toString secs ++ "s (timeout " ++
        toString (c.timeout / 1000000000) ++ "s)"
    | none => "companion '" ++ c.id ++ "' never seen"
  (transition.map fun state =>
    { ruleName := "companion/" ++ c.id
      severity := c.severity
      state := state
      value := F64.ofInt (Int.ofNat secs)
      threshold := F64.ofInt (Int.ofNat (c.timeout / 1000000000))
      description := description
      groupKey := none },
    firing.insert c.id down)

/-- The monitor sees the companion alive at an instant. -/
def Alive (registry : CompanionRegistry) (c : ExpectedCompanion) (now : DateTime)
    (firing : BTreeMap String Bool) : Prop :=
  (evaluate registry c now firing).2.get c.id = some false

theorem alive_iff {registry : CompanionRegistry} {c : ExpectedCompanion} {now : DateTime}
    {firing : BTreeMap String Bool} :
    Alive registry c now firing ↔
      ∃ t, registry.lastSeen.get c.id = some t ∧ now.nanos - t.nanos ≤ c.timeout := by
  unfold Alive evaluate
  rw [BTreeMap.get_insert, if_pos rfl]
  cases registry.lastSeen.get c.id with
  | none => simp
  | some t => simp

/-! ## Ids in the registry -/

theorem trim_trim (cs : List Char) : trim (trim cs) = trim cs := by
  -- What is left of the front of the text does not start with white space.
  have hfront : (trim cs).dropWhile isWhitespace = trim cs := by
    rw [List.dropWhile_eq_self_iff]
    intro hpos
    have hsub : trim cs <+: cs.dropWhile isWhitespace :=
      List.rdropWhile_prefix isWhitespace _
    have hlong : 0 < (cs.dropWhile isWhitespace).length :=
      Nat.lt_of_lt_of_le hpos (List.IsPrefix.length_le hsub)
    rw [List.IsPrefix.getElem hsub hpos]
    exact List.dropWhile_get_zero_not isWhitespace cs hlong
  show ((trim cs).dropWhile isWhitespace).rdropWhile isWhitespace = trim cs
  rw [hfront]
  exact List.rdropWhile_idempotent isWhitespace _

theorem trimmed_trimmed (s : String) : trimmed (trimmed s) = trimmed s := by
  show String.ofList (trim (String.ofList (trim s.toList)).toList) = _
  rw [String.toList_ofList, trim_trim]
  rfl

/-- Every companion of the registry is there under a trimmed id. -/
def CompanionRegistry.Trimmed (registry : CompanionRegistry) : Prop :=
  ∀ id t, registry.lastSeen.get id = some t → trimmed id = id

/-- What a request does to the registry. -/
theorem heartbeat_cases (s : AppState) (registry : CompanionRegistry) (call : Call)
    (hb : Heartbeat) :
    (∃ error, heartbeat s registry call hb = (.error error, registry)) ∨
      heartbeat s registry call hb =
        (.ok (), registry.record (trimmed hb.id) call.receivedAt) := by
  unfold heartbeat
  dsimp only
  split
  · exact .inl ⟨_, rfl⟩
  · split
    · exact .inl ⟨_, rfl⟩
    · exact .inr rfl

theorem heartbeat_trimmed {s : AppState} {registry : CompanionRegistry} (h : registry.Trimmed)
    (call : Call) (hb : Heartbeat) : (heartbeat s registry call hb).2.Trimmed := by
  rcases heartbeat_cases s registry call hb with ⟨error, heq⟩ | heq
  · rw [heq]
    exact h
  · rw [heq]
    intro id t hget
    rw [CompanionRegistry.record, BTreeMap.get_insert] at hget
    split_ifs at hget with hid
    · rw [hid]
      exact trimmed_trimmed hb.id
    · exact h id t hget

theorem heartbeats_trimmed {s : AppState} {registry : CompanionRegistry} (h : registry.Trimmed)
    (requests : List (Call × Heartbeat)) : (heartbeats s registry requests).Trimmed := by
  induction requests generalizing registry with
  | nil => exact h
  | cons x requests ih => exact ih (heartbeat_trimmed h x.1 x.2)

theorem empty_trimmed : ({} : CompanionRegistry).Trimmed := nofun

/-! ## Instants in the registry -/

/-- The companion was last seen at an instant or later. -/
def CompanionRegistry.SeenSince (registry : CompanionRegistry) (id : String) (t : DateTime) :
    Prop :=
  ∃ last, registry.lastSeen.get id = some last ∧ t ≤ last

theorem heartbeat_seenSince {s : AppState} {registry : CompanionRegistry} {id : String}
    {t : DateTime} (h : registry.SeenSince id t) {call : Call} (ht : t ≤ call.receivedAt)
    (hb : Heartbeat) : (heartbeat s registry call hb).2.SeenSince id t := by
  rcases heartbeat_cases s registry call hb with ⟨error, heq⟩ | heq
  · rw [heq]
    exact h
  · rw [heq]
    unfold CompanionRegistry.SeenSince CompanionRegistry.record
    rw [BTreeMap.get_insert]
    split_ifs
    · exact ⟨call.receivedAt, rfl, ht⟩
    · exact h

theorem heartbeats_seenSince {s : AppState} {registry : CompanionRegistry} {id : String}
    {t : DateTime} (h : registry.SeenSince id t) {requests : List (Call × Heartbeat)}
    (ht : ∀ x ∈ requests, t ≤ x.1.receivedAt) : (heartbeats s registry requests).SeenSince id t := by
  induction requests generalizing registry with
  | nil => exact h
  | cons x requests ih =>
    obtain ⟨hx, hrest⟩ := List.forall_mem_cons.mp ht
    exact ih (heartbeat_seenSince h hx x.2) hrest

/-! ## From the companion to the monitor -/

/-- After a heartbeat that was accepted, and whatever comes later, the companion is alive until the
timeout when its id has no white space around it, and down otherwise. -/
theorem alive_after_heartbeat_iff {s : AppState} {c : Companion.Config} {e : ExpectedCompanion}
    {earlier later : List (Call × Heartbeat)} {call : Call} {now : DateTime}
    {firing : BTreeMap String Bool} (hid : e.id = c.id)
    (hok : (heartbeat s (heartbeats s {} earlier) call (heartbeatOf c)).1 = .ok ())
    (hlater : ∀ x ∈ later, call.receivedAt ≤ x.1.receivedAt)
    (hnow : now.nanos - call.receivedAt.nanos ≤ e.timeout) :
    Alive (heartbeats s (heartbeat s (heartbeats s {} earlier) call (heartbeatOf c)).2 later) e now
        firing ↔ trimmed c.id = c.id := by
  rw [alive_iff, hid]
  constructor
  · intro h
    obtain ⟨t, hget, -⟩ := h
    -- Only trimmed ids are recorded.
    have hearlier := heartbeats_trimmed (s := s) empty_trimmed earlier
    exact heartbeats_trimmed (heartbeat_trimmed hearlier call (heartbeatOf c)) later _ _ hget
  · intro htrimmed
    -- The heartbeat was accepted, so the id is recorded at its instant.
    have hseen : (heartbeat s (heartbeats s {} earlier) call (heartbeatOf c)).2.SeenSince c.id
        call.receivedAt := by
      rcases heartbeat_cases s (heartbeats s {} earlier) call (heartbeatOf c) with
        ⟨error, heq⟩ | heq
      · rw [heq] at hok
        cases hok
      · rw [heq]
        refine ⟨call.receivedAt, ?_, le_rfl⟩
        show (BTreeMap.insert _ (trimmed c.id) _).get c.id = _
        rw [BTreeMap.get_insert, if_pos htrimmed.symm]
    obtain ⟨last, hget, hle⟩ := heartbeats_seenSince hseen hlater
    have hnanos : call.receivedAt.nanos ≤ last.nanos := hle
    exact ⟨last, hget, by omega⟩

/-- **Companions seen alive.** An id that both configurations accept names one companion to the
agent and to the monitor exactly when it has no white space around it. -/
theorem companion_alive_iff {env : String → Option String} {file : Companion.FileConfig}
    {c : Companion.Config} {entry : CompanionEntry} {e : ExpectedCompanion} {s : AppState}
    {earlier later : List (Call × Heartbeat)} {call : Call} {now : DateTime}
    {firing : BTreeMap String Bool} (hc : file.intoConfig env = .ok c) (he : entry.build = .ok e)
    (hid : entry.id = file.id)
    (hok : (heartbeat s (heartbeats s {} earlier) call (heartbeatOf c)).1 = .ok ())
    (hlater : ∀ x ∈ later, call.receivedAt ≤ x.1.receivedAt)
    (hnow : now.nanos - call.receivedAt.nanos ≤ e.timeout) :
    Alive (heartbeats s (heartbeat s (heartbeats s {} earlier) call (heartbeatOf c)).2 later) e now
        firing ↔ trimmed file.id = file.id := by
  have hids : e.id = c.id := by
    rw [CompanionEntry.build_id he, hid, Companion.FileConfig.intoConfig_id hc]
  rw [alive_after_heartbeat_iff hids hok hlater hnow, Companion.FileConfig.intoConfig_id hc]

section Sample

/-- A main instance without authentication of its services. -/
def openMain : AppState where
  events := ⟨{ capacity := 8 }, {}⟩
  logs := ⟨{ capacity := 8 }, {}⟩
  spans := ⟨{ capacity := 8 }, {}⟩
  metricPoints := ⟨{ capacity := 8 }, {}⟩
  limiter := .new .default 0
  verifier := ⟨false, fun _ _ => .error "token malformé"⟩
  anomaly := .new .default
  limits := testLimits
  config := { maxLogsRecords := 2048, limits := testLimits, logsAuth := .none }

def edgeCall : Call where
  ip := .v4 0x7f000001
  token := some "t"
  now := 0
  verifiedAt := ⟨0⟩
  receivedAt := ⟨0⟩
  evicted := ⟨.v4 0, .v4 0⟩

/-- The file of a companion, with its id. -/
def edgeFile (id : String) : Companion.FileConfig where
  mainUrl := "https://main/"
  id := id
  token := "t"
  alert := { slack := none, webhook := some { url := "https://hook" } }

def noEnv : String → Option String := fun _ => none

theorem companion_alive_edge :
    ∃ c e, (edgeFile "edge").intoConfig noEnv = .ok c ∧
      CompanionEntry.build { id := "edge", timeout := "90s" } = .ok e ∧
      (Alive (heartbeats openMain (heartbeat openMain {} edgeCall (heartbeatOf c)).2 []) e
        ⟨90 * 1000000000⟩ BTreeMap.empty ↔ trimmed "edge" = "edge") := by
  obtain ⟨c, hc, -⟩ := Contexts.exists_of_any
    (show ((edgeFile "edge").intoConfig noEnv).toOption.any (fun _ => true) = true
      by decide +kernel)
  obtain ⟨e, he, htime⟩ := Contexts.exists_of_any
    (show (CompanionEntry.build { id := "edge", timeout := "90s" }).toOption.any
      (fun e => decide (e.timeout = 90 * 1000000000)) = true by decide +kernel)
  have hok : (heartbeat openMain (heartbeats openMain {} []) edgeCall (heartbeatOf c)).1 = .ok () := by
    unfold heartbeatOf
    rw [Companion.FileConfig.intoConfig_id hc]
    decide +kernel
  refine ⟨c, e, hc, he, ?_⟩
  apply companion_alive_iff hc he rfl hok (List.forall_mem_nil _)
  rw [of_decide_eq_true htime]
  decide

/-- An id with a blank in front: both configurations accept it, and the companion is never seen. -/
theorem not_companion_alive :
    ¬∀ (env : String → Option String) (file : Companion.FileConfig) (c : Companion.Config)
      (entry : CompanionEntry) (e : ExpectedCompanion) (s : AppState)
      (earlier later : List (Call × Heartbeat)) (call : Call) (now : DateTime)
      (firing : BTreeMap String Bool), file.intoConfig env = .ok c → entry.build = .ok e →
      entry.id = file.id →
      (heartbeat s (heartbeats s {} earlier) call (heartbeatOf c)).1 = .ok () →
      (∀ x ∈ later, call.receivedAt ≤ x.1.receivedAt) → call.receivedAt ≤ now →
      now.nanos - call.receivedAt.nanos ≤ e.timeout →
      Alive (heartbeats s (heartbeat s (heartbeats s {} earlier) call (heartbeatOf c)).2 later) e now
        firing := by
  intro h
  obtain ⟨c, hc, -⟩ := Contexts.exists_of_any
    (show ((edgeFile " edge").intoConfig noEnv).toOption.any (fun _ => true) = true
      by decide +kernel)
  obtain ⟨e, he, -⟩ := Contexts.exists_of_any
    (show (CompanionEntry.build { id := " edge", timeout := "90s" }).toOption.any
      (fun _ => true) = true by decide +kernel)
  have hbody : heartbeatOf c = ⟨" edge"⟩ :=
    congrArg Heartbeat.mk (Companion.FileConfig.intoConfig_id hc)
  have hok : (heartbeat openMain (heartbeats openMain {} []) edgeCall (heartbeatOf c)).1 = .ok () := by
    rw [hbody]
    decide +kernel
  have halive := h noEnv _ c _ e openMain [] [] edgeCall ⟨0⟩ BTreeMap.empty hc he rfl hok
    (List.forall_mem_nil _) le_rfl (Int.natCast_nonneg e.timeout)
  obtain ⟨t, hget, -⟩ := alive_iff.mp halive
  rw [hbody, CompanionEntry.build_id he] at hget
  -- The registry knows `edge` only.
  have hnone : (heartbeats openMain (heartbeat openMain (heartbeats openMain {} []) edgeCall
      ⟨" edge"⟩).2 []).lastSeen.get " edge" = none := by decide +kernel
  rw [hnone] at hget
  cases hget

end Sample

end Datacat.Liveness
