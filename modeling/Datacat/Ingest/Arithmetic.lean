import Datacat.Basics.Instants
import Datacat.Events.Model
import Datacat.Logs.Model
import Datacat.Metrics.Model
import Datacat.Security.Memory
import Datacat.Settings
import Datacat.Traces.Model

/-!
# Arithmetic of the Requests

A request is never to panic, but the configuration takes durations of any length and some are
added to an instant, subtracted from one or doubled by operators that panic. `noPanic_iff` says
which durations these are, and how long each may be.

The other durations of these functions are times elapsed, which stop at zero.
-/

namespace Datacat

open Basics Basics.Instants

namespace Security

/-! ## The guard -/

namespace AnomalyGuard

/-- `record_bad` with its addition; none when it panics. -/
def checkedRecordBad (g : AnomalyGuard) (ip : IpAddr) (now : Nat) (oldest soonest : IpAddr) :
    Option AnomalyGuard :=
  if ip.isUnspecified then some g
  else
    let g := g.ensureBadHeadroom ip now oldest
    let w := g.currentWindow ip now
    let count := w.count + 1
    if g.cfg.badRequestsThreshold ≤ count then
      let g := { g with bad := g.bad.insert ip ⟨0, now⟩ }
      let g := g.ensureBannedHeadroom now soonest
      (later now g.cfg.banDuration).map fun til => { g with banned := g.banned.insert ip til }
    else some { g with bad := g.bad.insert ip ⟨count, w.windowStart⟩ }

/-- `prune` with its products; none when one of them panics. The window is doubled for each
entry. -/
def checkedPrune (g : AnomalyGuard) (now : Nat) : Option AnomalyGuard :=
  (g.bad.entries.mapM fun _ => multiplied g.cfg.window 2).map fun _ => g.prune now

section Checked

variable {g : AnomalyGuard} {ip oldest soonest : IpAddr} {now : Nat}

instance : Decidable (g.Bans ip now) := inferInstanceAs (Decidable (_ ∧ _))

/-- Without a panic, `record_bad` is the one of the runs. -/
theorem checkedRecordBad_eq : g.checkedRecordBad ip now oldest soonest =
    if g.Bans ip now ∧ maxInstant < now + g.cfg.banDuration then none
    else some (g.recordBad ip now oldest soonest) := by
  have hreach : (g.ensureBadHeadroom ip now oldest).cfg.badRequestsThreshold ≤
      ((g.ensureBadHeadroom ip now oldest).currentWindow ip now).count + 1 ↔ g.Reaches ip now := by
    rw [currentWindow_ensureBadHeadroom, ensureBadHeadroom_cfg]
    rfl
  unfold checkedRecordBad recordBad
  by_cases hip : ip.isUnspecified = true
  · rw [if_pos hip, if_pos hip, if_neg fun h => Bool.eq_false_iff.mp h.1.1 hip]
  · have hspecified : ip.isUnspecified = false := Bool.eq_false_iff.mpr hip
    rw [if_neg hip, if_neg hip]
    dsimp only
    by_cases hbans : g.Reaches ip now
    · -- The room made for the ban leaves the configuration alone.
      rw [if_pos (hreach.mpr hbans), if_pos (hreach.mpr hbans), ensureBannedHeadroom_cfg]
      dsimp only
      rw [ensureBadHeadroom_cfg]
      unfold later
      by_cases hlate : now + g.cfg.banDuration ≤ maxInstant
      · rw [if_pos hlate, if_neg fun h => absurd h.2 (not_lt.mpr hlate)]
        rfl
      · rw [if_neg hlate, if_pos ⟨⟨hspecified, hbans⟩, not_le.mp hlate⟩]
        rfl
    · rw [if_neg fun h => hbans (hreach.mp h), if_neg fun h => hbans (hreach.mp h),
        if_neg fun h => hbans h.1.2]

theorem checkedRecordBad_isSome_iff :
    (g.checkedRecordBad ip now oldest soonest).isSome = true ↔
      (g.Bans ip now → now + g.cfg.banDuration ≤ maxInstant) := by
  rw [checkedRecordBad_eq]
  split
  · rename_i h
    exact iff_of_false Bool.false_ne_true fun hle => absurd (hle h.1) (not_le.mpr h.2)
  · rename_i h
    exact iff_of_true rfl fun hbans => not_lt.mp fun hlt => h ⟨hbans, hlt⟩

theorem checkedPrune_isSome_iff :
    (g.checkedPrune now).isSome = true ↔
      (g.bad.entries ≠ [] → g.cfg.window * 2 ≤ maxDuration) := by
  unfold checkedPrune
  rw [Option.isSome_map]
  cases hentries : g.bad.entries with
  | nil => exact iff_of_true rfl fun h => absurd rfl h
  | cons e entries =>
    unfold multiplied
    split
    · rename_i hle
      have hall : ∀ es : List (IpAddr × BadWindow),
          (es.mapM fun _ => some (g.cfg.window * 2)).isSome = true := by
        intro es
        induction es with
        | nil => rfl
        | cons e es ih =>
          obtain ⟨doubles, hdoubles⟩ := Option.isSome_iff_exists.mp ih
          rw [List.mapM_cons, hdoubles]
          rfl
      exact iff_of_true (hall _) fun _ => hle
    · rename_i hle
      exact iff_of_false (by simp) fun h => hle (h (List.cons_ne_nil _ _))

/-- A recorded request leaves a window to its address. -/
theorem bad_recordBad_ne_nil (hip : ip.isUnspecified = false) :
    (g.recordBad ip now oldest soonest).bad.entries ≠ [] := by
  have hget : ∃ w, (g.recordBad ip now oldest soonest).bad.get ip = some w := by
    unfold recordBad
    rw [hip]
    dsimp only
    rw [if_neg Bool.false_ne_true]
    split
    · rw [ensureBannedHeadroom_bad]
      exact ⟨_, (BTreeMap.get_insert ..).trans (if_pos rfl)⟩
    · exact ⟨_, (BTreeMap.get_insert ..).trans (if_pos rfl)⟩
  obtain ⟨w, hw⟩ := hget
  exact List.ne_nil_of_mem ((BTreeMap.get_eq_some_iff _ _ _).mp hw)

/-- A request that does not reach the threshold is counted. -/
theorem currentWindow_recordBad {k : Nat} (hip : ip.isUnspecified = false)
    (hcount : g.currentWindow ip now = ⟨k, now⟩) (hreach : ¬ g.Reaches ip now) :
    (g.recordBad ip now oldest soonest).currentWindow ip now = ⟨k + 1, now⟩ := by
  have hget : (g.recordBad ip now oldest soonest).bad.get ip = some ⟨k + 1, now⟩ := by
    have hbelow : ¬ g.cfg.badRequestsThreshold ≤ (g.currentWindow ip now).count + 1 := hreach
    unfold recordBad
    rw [hip]
    dsimp only
    rw [if_neg Bool.false_ne_true, currentWindow_ensureBadHeadroom, ensureBadHeadroom_cfg,
      if_neg hbelow, hcount]
    dsimp only
    rw [BTreeMap.get_insert, if_pos rfl]
  unfold currentWindow
  rw [hget]
  simp

end Checked

end AnomalyGuard

/-! ## The limiter -/

namespace RateLimiter

/-- The durations that `check` computes, when it goes to its end. -/
def durations (l : RateLimiter) (now : Nat) (ip : IpAddr) (sessionId : String) : List Nat :=
  let window := l.ipWindow now ip
  let ages := (window.live now l.cfg.ipSessionWindow).entries.map fun e => now - e.2
  [now - (l.sessionState now sessionId).bucket.last]
    ++ window.sessions.entries.map (fun e => now - e.2)
    ++ [l.cfg.ipSessionWindow - ages.max?.getD l.cfg.ipSessionWindow]
    ++ [now - l.globalBucket.last]

/-- `prune` with its product; none when it panics. -/
def checkedPrune (l : RateLimiter) (now : Nat) : Option RateLimiter :=
  (multiplied (max l.cfg.ipSessionWindow 300000000000) 2).map fun sessionTtl =>
    { l with
      sessions := l.sessions.retain fun _ s => decide (now - s.lastSeen < sessionTtl)
      ips := l.ips.filterMap fun _ w => pruneWindow l.cfg.ipSessionWindow now w }

variable {l : RateLimiter} {now : Nat}

/-- Without a panic, `prune` is the one of the runs. -/
theorem checkedPrune_eq_some {l' : RateLimiter} (h : l.checkedPrune now = some l') :
    l' = l.prune now := by
  obtain ⟨ttl, httl, rfl⟩ := Option.map_eq_some_iff.mp h
  rw [multiplied_eq_some httl]
  rfl

theorem checkedPrune_isSome_iff :
    (l.checkedPrune now).isSome = true ↔ sessionTtl l.cfg ≤ maxDuration := by
  unfold checkedPrune
  rw [Option.isSome_map]
  exact multiplied_isSome_iff

theorem durations_le {ip : IpAddr} {sessionId : String} (hnow : now ≤ maxInstant)
    (hwindow : l.cfg.ipSessionWindow ≤ maxDuration) :
    ∀ d ∈ l.durations now ip sessionId, d ≤ maxDuration := by
  intro d hd
  unfold durations at hd
  simp only [List.mem_append, List.mem_map, List.mem_singleton] at hd
  rcases hd with ((rfl | ⟨e, -, rfl⟩) | rfl) | rfl
  · exact elapsed_le hnow _
  · exact elapsed_le hnow _
  · exact (Nat.sub_le _ _).trans hwindow
  · exact elapsed_le hnow _

end RateLimiter

end Security

/-! ## The window of the records -/

theorem fromStd_eq_some_iff {nanos : Nat} {delta : Int} :
    DateTime.fromStd nanos = some delta ↔ nanos ≤ (2 ^ 63 - 1) * 1000000 ∧ delta = nanos := by
  unfold DateTime.fromStd
  rw [Option.ite_none_right_eq_some]
  exact and_congr_right fun _ => ⟨fun h => (Option.some.inj h).symm, fun h => congrArg some h.symm⟩

/-- The two bounds of the window are durations of the calendar and are dates. -/
structure SkewFits (limits : ValidationLimits) (receivedAt : DateTime) : Prop where
  past : limits.maxPastSkew ≤ (2 ^ 63 - 1) * 1000000
  future : limits.maxFutureSkew ≤ (2 ^ 63 - 1) * 1000000
  oldest : (⟨receivedAt.nanos - limits.maxPastSkew⟩ : DateTime).inRange = true
  newest : (⟨receivedAt.nanos + limits.maxFutureSkew⟩ : DateTime).inRange = true

theorem skewWindow_isSome_iff {receivedAt : DateTime} {limits : ValidationLimits} :
    (skewWindow receivedAt limits).isSome = true ↔ SkewFits limits receivedAt := by
  unfold skewWindow
  rw [Option.isSome_iff_exists]
  simp only [Option.bind_eq_bind, Option.bind_eq_some_iff, fromStd_eq_some_iff,
    DateTime.checkedAdd_eq_some_iff]
  constructor
  · rintro ⟨window, -, ⟨hpast, rfl⟩, -, ⟨holdest, rfl⟩, -, ⟨hfuture, rfl⟩, -, ⟨hnewest, rfl⟩, -⟩
    exact ⟨hpast, hfuture, holdest, hnewest⟩
  · intro h
    exact ⟨_, _, ⟨h.past, rfl⟩, _, ⟨h.oldest, rfl⟩, _, ⟨h.future, rfl⟩, _, ⟨h.newest, rfl⟩, rfl⟩

/-! ## Everything a request and the purges compute -/

namespace Ingest

open Settings Security

/-- What the service may know of its clients at an instant. -/
def Reached (c : IngestConfig) (now : Nat) (s : Tracking) : Prop :=
  ∃ created labels, created ≤ now ∧ (∀ x ∈ labels,
      Sum.elim RateLimiter.Label.now AnomalyGuard.Label.now x ≤ now) ∧
    Run Tracking.Step ⟨.new c.rateLimit created, .new c.anomaly⟩ labels s

/-- None of the functions panics, whatever the request, for a batch received at an instant of the
calendar and one of the monotonic clock. -/
structure NoPanic [FloatFormat] [Sha256] (c : IngestConfig) (receivedAt : DateTime) (now : Nat) :
    Prop where
  checkEvent : ∀ ev index, (Events.checkEvent ev receivedAt c.limits index).isSome = true
  otlpToLogs : ∀ req maxRecords,
    (Logs.otlpToLogs req receivedAt c.limits maxRecords).isSome = true
  otlpToSpans : ∀ req maxRecords,
    (Traces.otlpToSpans req receivedAt c.limits maxRecords).isSome = true
  otlpToMetrics : ∀ req maxRecords,
    (Metrics.otlpToMetrics req receivedAt c.limits maxRecords).isSome = true
  recordBad : ∀ s, Reached c now s → ∀ ip oldest soonest,
    (s.guard.checkedRecordBad ip now oldest soonest).isSome = true
  pruneGuard : ∀ s, Reached c now s → (s.guard.checkedPrune now).isSome = true
  check : ∀ s, Reached c now s → ∀ ip sessionId,
    ∀ d ∈ s.limiter.durations now ip sessionId, d ≤ maxDuration
  prune : ∀ s, Reached c now s → (s.limiter.checkedPrune now).isSome = true

/-- No configured duration is too long for what is done with it. -/
structure Bounded (c : IngestConfig) (receivedAt : DateTime) (now : Nat) : Prop where
  skew : SkewFits c.limits receivedAt
  ban : now + c.anomaly.banDuration ≤ maxInstant
  window : c.anomaly.window * 2 ≤ maxDuration
  sessionTtl : RateLimiter.sessionTtl c.rateLimit ≤ maxDuration

section Runs

variable {c : IngestConfig} {now : Nat}

theorem Reached.start : Reached c now ⟨.new c.rateLimit now, .new c.anomaly⟩ :=
  ⟨now, [], le_refl now, fun _ hx => absurd hx List.not_mem_nil, .nil⟩

theorem Reached.recordBad {l : RateLimiter} {g : AnomalyGuard} (h : Reached c now ⟨l, g⟩)
    (ip : IpAddr) : ∃ oldest soonest, Reached c now ⟨l, g.recordBad ip now oldest soonest⟩ := by
  obtain ⟨created, labels, hcreated, hlabels, hrun⟩ := h
  have hstep := @AnomalyGuard.Step.recordBad g now ip _ _
    (AnomalyGuard.minByKey_spec (g.purgedBad now) BadWindow.windowStart)
    (AnomalyGuard.minByKey_spec (g.activeBans now) id)
  refine ⟨_, _, created, _, hcreated, ?_, .snoc hrun (.guard hstep)⟩
  rw [List.forall_mem_append]
  exact ⟨hlabels, List.forall_mem_singleton.mpr (le_refl now)⟩

theorem Reached.cfg_eq {s : Tracking} (h : Reached c now s) :
    s.limiter.cfg = c.rateLimit ∧ s.guard.cfg = c.anomaly := by
  obtain ⟨created, labels, -, -, hrun⟩ := h
  exact Tracking.cfg_of_run hrun

/-- Whatever `dur` accepts is a duration. -/
theorem dur_le {s field : String} {nanos : Nat} (h : dur s field = .ok nanos) :
    nanos ≤ maxDuration := by
  unfold dur at h
  cases hparse : parseDuration durationTexts s with
  | error contexts =>
    rw [hparse] at h
    cases h
  | ok value =>
    rw [hparse] at h
    rw [← Except.ok.inj h]
    exact parseDuration_le hparse

theorem ipSessionWindow_le {i : IngestSection} (h : i.build = .ok c) :
    c.rateLimit.ipSessionWindow ≤ maxDuration := by
  obtain ⟨limits, -, h⟩ := Contexts.bind_eq_ok h
  obtain ⟨rateLimit, hrate, h⟩ := Contexts.bind_eq_ok h
  obtain ⟨anomaly, -, h⟩ := Contexts.bind_eq_ok h
  obtain rfl := Except.ok.inj h
  obtain ⟨ipSessionWindow, hwindow, hrate⟩ := Contexts.bind_eq_ok hrate
  obtain rfl := Except.ok.inj hrate
  exact dur_le hwindow

/-- As long as the threshold is not reached, the bad requests of an address are counted. -/
theorem exists_reached_count {ip : IpAddr} (hip : ip.isUnspecified = false) (k : Nat)
    (hk : k < max c.anomaly.badRequestsThreshold 1) :
    ∃ l g, Reached c now ⟨l, g⟩ ∧ g.currentWindow ip now = ⟨k, now⟩ := by
  induction k with
  | zero =>
    refine ⟨_, _, .start, ?_⟩
    unfold AnomalyGuard.currentWindow AnomalyGuard.new
    simp
  | succ k ih =>
    obtain ⟨l, g, hreached, hcount⟩ := ih (Nat.lt_of_succ_lt hk)
    -- One more request does not reach the threshold yet.
    have hbelow : ¬ g.Reaches ip now := by
      unfold AnomalyGuard.Reaches
      rw [hcount, hreached.cfg_eq.2]
      dsimp only
      omega
    obtain ⟨oldest, soonest, hnext⟩ := hreached.recordBad ip
    exact ⟨l, _, hnext, AnomalyGuard.currentWindow_recordBad hip hcount hbelow⟩

/-- One more bad request leads to a ban. -/
theorem exists_reached_bans {ip : IpAddr} (hip : ip.isUnspecified = false) :
    ∃ l g, Reached c now ⟨l, g⟩ ∧ g.Bans ip now := by
  obtain ⟨l, g, hreached, hcount⟩ := @exists_reached_count c now ip hip
    (max c.anomaly.badRequestsThreshold 1 - 1) (by omega)
  refine ⟨l, g, hreached, hip, ?_⟩
  unfold AnomalyGuard.Reaches
  rw [hcount, hreached.cfg_eq.2]
  dsimp only
  omega

end Runs

section Panics

variable [FloatFormat] [Sha256] {i : IngestSection} {c : IngestConfig} {receivedAt : DateTime}
  {now : Nat}

/-- The window of the skew decides for each kind of request. -/
theorem parses_of_skewFits (h : SkewFits c.limits receivedAt) :
    (∀ ev index, (Events.checkEvent ev receivedAt c.limits index).isSome = true) ∧
    (∀ req maxRecords, (Logs.otlpToLogs req receivedAt c.limits maxRecords).isSome = true) ∧
    (∀ req maxRecords, (Traces.otlpToSpans req receivedAt c.limits maxRecords).isSome = true) ∧
    (∀ req maxRecords, (Metrics.otlpToMetrics req receivedAt c.limits maxRecords).isSome = true) := by
  have hsome := skewWindow_isSome_iff.mpr h
  refine ⟨fun ev index => ?_, fun req maxRecords => ?_, fun req maxRecords => ?_,
    fun req maxRecords => ?_⟩
  · obtain ⟨window, hwindow⟩ := Option.isSome_iff_exists.mp hsome
    unfold Events.checkEvent
    split
    · rfl
    · rw [hwindow, Option.bind_eq_bind, Option.bind_some]
      split <;> rfl
  · rw [Logs.otlpToLogs_eq, Option.isSome_map]
    exact hsome
  · rw [Traces.otlpToSpans_eq, Option.isSome_map]
    exact hsome
  · rw [Metrics.otlpToMetrics_eq, Option.isSome_map]
    exact hsome

/-- An empty request already needs the window. -/
theorem NoPanic.skewFits (h : NoPanic c receivedAt now) : SkewFits c.limits receivedAt := by
  have hlogs := h.otlpToLogs ⟨[]⟩ 0
  rw [Logs.otlpToLogs_eq, Option.isSome_map] at hlogs
  exact skewWindow_isSome_iff.mp hlogs

/-- **No panic on the path of a request**, for a configuration that is accepted and instants that
exist, if and only if the configured durations are bounded: the skews by the calendar around the
reception, the ban by the clock, and the windows by half of the longest duration. -/
theorem noPanic_iff (h : i.build = .ok c) (hnow : now ≤ maxInstant) :
    NoPanic c receivedAt now ↔ Bounded c receivedAt now := by
  have hip : (IpAddr.v4 0xcb007109).isUnspecified = false := rfl
  constructor
  · intro hcalm
    refine ⟨hcalm.skewFits, ?_, ?_, ?_⟩
    · -- The threshold can be reached at this very instant.
      obtain ⟨l, g, hreached, hbans⟩ := @exists_reached_bans c now _ hip
      have hbanned := hcalm.recordBad _ hreached (.v4 0xcb007109) (.v4 0) (.v4 0)
      rw [AnomalyGuard.checkedRecordBad_isSome_iff, hreached.cfg_eq.2] at hbanned
      exact hbanned hbans
    · -- The window is doubled as soon as an address is followed.
      obtain ⟨oldest, soonest, hreached⟩ := (@Reached.start c now).recordBad (.v4 0xcb007109)
      have hpruned := hcalm.pruneGuard _ hreached
      rw [AnomalyGuard.checkedPrune_isSome_iff, hreached.cfg_eq.2] at hpruned
      exact hpruned (AnomalyGuard.bad_recordBad_ne_nil hip)
    · exact RateLimiter.checkedPrune_isSome_iff.mp (hcalm.prune _ .start)
  · intro hbounded
    obtain ⟨hevents, hlogs, hspans, hmetrics⟩ := parses_of_skewFits hbounded.skew
    refine ⟨hevents, hlogs, hspans, hmetrics, fun s hs ip oldest soonest => ?_, fun s hs => ?_,
      fun s hs ip sessionId => ?_, fun s hs => ?_⟩
    · rw [AnomalyGuard.checkedRecordBad_isSome_iff, hs.cfg_eq.2]
      exact fun _ => hbounded.ban
    · rw [AnomalyGuard.checkedPrune_isSome_iff, hs.cfg_eq.2]
      exact fun _ => hbounded.window
    · apply RateLimiter.durations_le hnow
      rw [hs.cfg_eq.1]
      exact ipSessionWindow_le h
    · rw [RateLimiter.checkedPrune_isSome_iff, hs.cfg_eq.1]
      exact hbounded.sessionTtl

end Panics

/-- The default durations, for a batch received one day after the epoch, one hour after the
start. -/
theorem noPanic_iff_default :
    let _ : FloatFormat := FloatFormat.ofBits
    let _ : Sha256 := Sha256.standard
    ∃ c : IngestConfig, ({} : IngestSection).build = .ok c ∧
      NoPanic c ⟨86400000000000⟩ 3600000000000 := by
  intro _ _
  obtain ⟨c, hbuild, hbounds⟩ := Contexts.exists_of_any
    (show ((({} : IngestSection).build).toOption.any fun c =>
      (skewWindow ⟨86400000000000⟩ c.limits).isSome &&
        decide (3600000000000 + c.anomaly.banDuration ≤ maxInstant) &&
        decide (c.anomaly.window * 2 ≤ maxDuration) &&
        decide (RateLimiter.sessionTtl c.rateLimit ≤ maxDuration)) = true by decide +kernel)
  simp only [Bool.and_eq_true, decide_eq_true_eq] at hbounds
  obtain ⟨⟨⟨hskew, hban⟩, hwindow⟩, hsessionTtl⟩ := hbounds
  have hnow : 3600000000000 ≤ maxInstant := (Nat.le_add_right _ _).trans hban
  refine ⟨c, hbuild, (noPanic_iff hbuild hnow).mpr ⟨?_, hban, hwindow, hsessionTtl⟩⟩
  exact skewWindow_isSome_iff.mp hskew

/-- A skew of a hundred million days is accepted, and every request panics. -/
theorem not_noPanic :
    let _ : FloatFormat := FloatFormat.ofBits
    let _ : Sha256 := Sha256.standard
    ¬ ∀ (i : IngestSection) (c : IngestConfig) (receivedAt : DateTime) (now : Nat),
      i.build = .ok c → now ≤ maxInstant → NoPanic c receivedAt now := by
  intro _ _ hcalm
  let i : IngestSection := { limits := { maxPastSkew := "100000000d" } }
  obtain ⟨c, hbuild, hnone⟩ := Contexts.exists_of_any
    (show (i.build.toOption.any fun c => (skewWindow ⟨0⟩ c.limits).isNone) = true by
      decide +kernel)
  have hfits := skewWindow_isSome_iff.mpr (hcalm i c ⟨0⟩ 0 hbuild (Nat.zero_le _)).skewFits
  rw [Option.isNone_iff_eq_none.mp hnone] at hfits
  cases hfits

end Ingest

end Datacat
