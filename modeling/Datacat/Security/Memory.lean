import Datacat.Security.BanLifetime
import Datacat.Security.Inert

/-!
# Memory of the Limiter and of the Guard

Both keep an entry for each session or address that a client may invent, so each of their maps has a
capacity. The maps of the limiter refuse what has no place; those of the guard evict. A guard with no
capacity at all still keeps the entry it is writing.

## Main results

- `Fits.step`: each operation of the two keeps the five bounds.
- `fits_of_run`: they hold after any sequence of operations, at any instants.
-/

namespace Datacat.Security

open Basics

namespace AnomalyGuard

variable {g g' : AnomalyGuard} {now : Nat} {ip oldest soonest : IpAddr}

/-- The window of an address is written where it has a place. -/
theorem len_ensureBadHeadroom_insert (w : BadWindow)
    (holdest : MinByKey (g.purgedBad now) BadWindow.windowStart oldest)
    (hlen : g.bad.len ≤ max g.cfg.maxTrackedIps 1) :
    ((g.ensureBadHeadroom ip now oldest).bad.insert ip w).len ≤ max g.cfg.maxTrackedIps 1 := by
  unfold ensureBadHeadroom
  split
  · rename_i hroom
    rw [Bool.or_eq_true, decide_eq_true_iff] at hroom
    rw [BTreeMap.len_insert]
    split
    · exact hlen
    · rename_i hnew
      exact (Nat.succ_le_of_lt (hroom.resolve_left hnew)).trans (le_max_left _ _)
  · split
    · exact (BTreeMap.len_insert_le _ _ _).trans ((Nat.succ_le_of_lt ‹_›).trans (le_max_left _ _))
    · -- The windows that are left fill the map, and the oldest of them goes.
      have hpurged : (g.purgedBad now).len ≤ max g.cfg.maxTrackedIps 1 :=
        (BTreeMap.len_retain_le _ _).trans hlen
      exact (BTreeMap.len_insert_le _ _ _).trans (len_remove_minByKey holdest hpurged)

theorem len_bad_recordBad (holdest : MinByKey (g.purgedBad now) BadWindow.windowStart oldest)
    (hlen : g.bad.len ≤ max g.cfg.maxTrackedIps 1) :
    (g.recordBad ip now oldest soonest).bad.len ≤ max g.cfg.maxTrackedIps 1 := by
  unfold recordBad
  split
  · exact hlen
  · dsimp only
    split
    · rw [ensureBannedHeadroom_bad]
      exact len_ensureBadHeadroom_insert _ holdest hlen
    · exact len_ensureBadHeadroom_insert _ holdest hlen

/-- No step lets the windows outgrow their places. -/
theorem len_bad_step {a : Label} (h : Step g a g') (hlen : g.bad.len ≤ max g.cfg.maxTrackedIps 1) :
    g'.bad.len ≤ max g'.cfg.maxTrackedIps 1 := by
  cases h with
  | recordBad holdest hsoonest =>
    rw [recordBad_cfg]
    exact len_bad_recordBad holdest hlen
  | isBanned =>
    rw [isBanned_cfg, isBanned_bad]
    exact hlen
  | prune => exact (BTreeMap.len_retain_le _ _).trans hlen

theorem Step.cfg_eq {a : Label} (h : Step g a g') : g'.cfg = g.cfg := by
  cases h with
  | recordBad => exact recordBad_cfg
  | isBanned => exact isBanned_cfg
  | prune => rfl

end AnomalyGuard

/-! ## Both -/

/-- What the service keeps about its clients. -/
structure Tracking where
  limiter : RateLimiter
  guard : AnomalyGuard

/-- An operation of one of the two. -/
inductive Tracking.Step : Tracking → RateLimiter.Label ⊕ AnomalyGuard.Label → Tracking → Prop where
  | limiter {l l' : RateLimiter} {g : AnomalyGuard} {a : RateLimiter.Label} :
      RateLimiter.Step l a l' → Step ⟨l, g⟩ (.inl a) ⟨l', g⟩
  | guard {l : RateLimiter} {g g' : AnomalyGuard} {a : AnomalyGuard.Label} :
      AnomalyGuard.Step g a g' → Step ⟨l, g⟩ (.inr a) ⟨l, g'⟩

variable {cfg : RateLimitConfig} {guardCfg : AnomalyConfig} {s s' : Tracking}
  {a : RateLimiter.Label ⊕ AnomalyGuard.Label}
  {labels : List (RateLimiter.Label ⊕ AnomalyGuard.Label)}

/-- The five maps are within their capacities. -/
structure Fits (cfg : RateLimitConfig) (guardCfg : AnomalyConfig) (s : Tracking) : Prop where
  sessions : s.limiter.sessions.len ≤ cfg.maxTrackedSessions
  ips : s.limiter.ips.len ≤ cfg.maxTrackedIps
  windows : ∀ ip w, s.limiter.ips.get ip = some w → w.sessions.len ≤ cfg.ipSessionCap
  bad : s.guard.bad.len ≤ max guardCfg.maxTrackedIps 1
  banned : s.guard.banned.len ≤ max guardCfg.maxTrackedIps 1

theorem len_filterMap_le {ν : Type} (m : BTreeMap IpAddr ν) (f : IpAddr → ν → Option ν) :
    (m.filterMap f).len ≤ m.len :=
  List.length_filterMap_le _ _

/-- The configurations stay. -/
theorem Tracking.Step.cfg_eq (h : Tracking.Step s a s') :
    s'.limiter.cfg = s.limiter.cfg ∧ s'.guard.cfg = s.guard.cfg := by
  cases h with
  | limiter hstep => exact ⟨hstep.cfg_eq, rfl⟩
  | guard hstep => exact ⟨rfl, hstep.cfg_eq⟩

theorem Tracking.cfg_of_run {created : Nat}
    (h : Run Tracking.Step ⟨.new cfg created, .new guardCfg⟩ labels s) :
    s.limiter.cfg = cfg ∧ s.guard.cfg = guardCfg := by
  induction h with
  | nil => exact ⟨rfl, rfl⟩
  | snoc _ hstep ih => exact ⟨hstep.cfg_eq.1.trans ih.1, hstep.cfg_eq.2.trans ih.2⟩

theorem Fits.step (h : Fits s.limiter.cfg s.guard.cfg s) (hstep : Tracking.Step s a s') :
    Fits s'.limiter.cfg s'.guard.cfg s' := by
  cases hstep with
  | @limiter l _ _ _ hstep =>
    cases hstep with
    | @check now ip sessionId n =>
      have hchecked := RateLimiter.checked l now ip sessionId n
      exact ⟨hchecked.sessions_len h.sessions, hchecked.ips_len h.ips,
        RateLimiter.WindowsCapped.check h.windows hchecked, h.bad, h.banned⟩
    | @prune now =>
      exact ⟨(BTreeMap.len_retain_le _ _).trans h.sessions, (len_filterMap_le _ _).trans h.ips,
        RateLimiter.WindowsCapped.prune h.windows now, h.bad, h.banned⟩
  | guard hstep =>
    exact ⟨h.sessions, h.ips, h.windows, AnomalyGuard.len_bad_step hstep h.bad,
      AnomalyGuard.len_banned_step hstep h.banned⟩

/-- **Memory bounds.** Whatever the configurations and the operations, at any instants, no map
outgrows its capacity. -/
theorem fits_of_run {created : Nat}
    (h : Run Tracking.Step ⟨.new cfg created, .new guardCfg⟩ labels s) : Fits cfg guardCfg s := by
  have hfits : Fits s.limiter.cfg s.guard.cfg s := by
    induction h with
    | nil => exact ⟨Nat.zero_le _, Nat.zero_le _, fun _ _ => nofun, Nat.zero_le _, Nat.zero_le _⟩
    | snoc _ hstep ih => exact ih.step hstep
  obtain ⟨hlimiter, hguard⟩ := Tracking.cfg_of_run h
  rw [hlimiter, hguard] at hfits
  exact hfits

/-- A guard that may track no address. -/
def noPlaces : AnomalyConfig := { AnomalyConfig.default with maxTrackedIps := 0 }

/-- A request, and a bad one from another address. -/
def oneOfEach : Tracking where
  limiter := ((RateLimiter.new RateLimiter.twoPerMinute 0).check 0 (.v4 1) "a" 1).2
  guard := (AnomalyGuard.new noPlaces).recordBad (.v4 2) 1
    (AnomalyGuard.minByKey ((AnomalyGuard.new noPlaces).purgedBad 1) BadWindow.windowStart)
    (AnomalyGuard.minByKey ((AnomalyGuard.new noPlaces).activeBans 1) id)

theorem fits_of_run_oneOfEach : Fits RateLimiter.twoPerMinute noPlaces oneOfEach := by
  have hcheck : Tracking.Step ⟨.new RateLimiter.twoPerMinute 0, .new noPlaces⟩ _
      ⟨oneOfEach.limiter, .new noPlaces⟩ :=
    .limiter (@RateLimiter.Step.check _ 0 (.v4 1) "a" 1)
  have hbad : Tracking.Step ⟨oneOfEach.limiter, .new noPlaces⟩ _ oneOfEach :=
    .guard (.recordBad (AnomalyGuard.minByKey_spec _ _) (AnomalyGuard.minByKey_spec _ _))
  exact fits_of_run (.snoc (Run.single hcheck) hbad)

end Datacat.Security
