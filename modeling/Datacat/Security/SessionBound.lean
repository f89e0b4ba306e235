import Datacat.Security.RateLimit

/-!
# Admission of a Session

What the bucket of a session grants inside an interval. Between two calls the bucket of a session
is worth `level`: what it holds and receives, or a full burst when the session is not tracked. A
call takes from the level what it grants. Pruning a session sets its level to a full burst, and
this is the only way to gain: it is no gain when the bucket had refilled.

## Main results

- `granted_le`: what a session is granted in an interval, in runs where no session is pruned
  before its bucket is full again.
- `refilled_of_ttl`: no session is, when a burst comes in while a session becomes idle.
-/

namespace Datacat.Security

open Basics

/-! ## Buckets over time -/

theorem secs_nonneg (d : Nat) : 0 ≤ secs d := by
  unfold secs
  positivity

theorem secs_mono {d e : Nat} (h : d ≤ e) : secs d ≤ secs e := by
  unfold secs
  gcongr

theorem secs_add (d e : Nat) : secs (d + e) = secs d + secs e := by
  unfold secs
  push_cast
  ring

namespace Bucket

theorem available_new (rate burst : ℚ) (now : Nat) :
    (Bucket.new rate burst now).available now = burst := by
  simp [Bucket.new, Bucket.available, secs]

/-- What comes in between two instants is bounded by the rate. -/
theorem available_le {b : Bucket} {now t : Nat} (hrate : 0 ≤ b.rate) (h : now ≤ t) :
    b.available t ≤ b.available now + secs (t - now) * b.rate := by
  have hin : 0 ≤ secs (t - now) * b.rate := mul_nonneg (secs_nonneg _) hrate
  have helapsed : secs (t - b.last) ≤ secs (now - b.last) + secs (t - now) := by
    rw [← secs_add]
    exact secs_mono (by omega)
  have hsum : secs (t - b.last) * b.rate ≤
      secs (now - b.last) * b.rate + secs (t - now) * b.rate := by
    rw [← add_mul]
    exact mul_le_mul_of_nonneg_right helapsed hrate
  unfold available
  rw [← min_add_add_right]
  apply le_min
  · exact (min_le_left _ _).trans (by linarith only [hsum])
  · exact (min_le_right _ _).trans (by linarith only [hin])

end Bucket

namespace RateLimiter

/-! ## Grants -/

/-- What a call takes from the bucket of a session inside an interval. -/
def Label.granted (key : String) (t₀ t₁ : Nat) : Label → ℚ
  | .check now _ sessionId n decision =>
    if sessionId = key ∧ decision.passesSession ∧ t₀ ≤ now ∧ now ≤ t₁ then cost n else 0
  | .prune _ => 0

/-- The total cost granted to a session in `[t₀, t₁]`. -/
def granted (key : String) (t₀ t₁ : Nat) (labels : List Label) : ℚ :=
  (labels.map (Label.granted key t₀ t₁)).sum

theorem granted_snoc (key : String) (t₀ t₁ : Nat) (labels : List Label) (a : Label) :
    granted key t₀ t₁ (labels ++ [a]) = granted key t₀ t₁ labels + a.granted key t₀ t₁ := by
  simp [granted]

theorem Label.granted_of_lt {key : String} {t₀ t₁ : Nat} {a : Label}
    (h : ¬ (t₀ ≤ a.now ∧ a.now ≤ t₁)) : a.granted key t₀ t₁ = 0 := by
  cases a with
  | check now ip sessionId n decision =>
    exact if_neg fun hall => h hall.2.2
  | prune now => rfl

/-- An interval that ends after the last call is as good as one that ends with it. -/
theorem granted_extend {key : String} {t₀ t t' : Nat} {labels : List Label}
    (h : ∀ a ∈ labels, a.now ≤ t) (ht : t ≤ t') :
    granted key t₀ t' labels = granted key t₀ t labels := by
  unfold granted
  refine congrArg List.sum (List.map_congr_left fun a ha => ?_)
  have hle := h a ha
  cases a with
  | check now ip sessionId n decision =>
    have hle : now ≤ t := hle
    simp [Label.granted, hle, hle.trans ht]
  | prune now => rfl

theorem granted_of_before {key : String} {t₀ t₁ : Nat} {labels : List Label}
    (h : ∀ a ∈ labels, a.now < t₀) : granted key t₀ t₁ labels = 0 := by
  unfold granted
  apply List.sum_eq_zero
  intro q hq
  obtain ⟨a, ha, rfl⟩ := List.mem_map.mp hq
  exact Label.granted_of_lt fun hin => absurd hin.1 (not_le.mpr (h a ha))

/-! ## The level of a session -/

/-- What the bucket of a session is worth at an instant. -/
def level (l : RateLimiter) (key : String) (t : Nat) : ℚ :=
  match l.sessions.get key with
  | some s => s.bucket.available t
  | none => l.cfg.sessionBurst

/-- Every bucket has the rate and the burst of the configuration, and was last asked when its
session was last seen. -/
def SessionsKept (l : RateLimiter) : Prop :=
  ∀ key s, l.sessions.get key = some s →
    s.bucket.rate = l.cfg.sessionPerSec ∧ s.bucket.burst = l.cfg.sessionBurst ∧
      s.bucket.last = s.lastSeen

/-- No bucket is in debt. -/
def Solvent (l : RateLimiter) : Prop :=
  ∀ key s, l.sessions.get key = some s → 0 ≤ s.bucket.tokens

theorem level_congr {l l' : RateLimiter} {key : String} {t : Nat} (hcfg : l'.cfg = l.cfg)
    (hget : l'.sessions.get key = l.sessions.get key) : l'.level key t = l.level key t := by
  unfold level
  rw [hcfg, hget]

theorem level_of_get {l : RateLimiter} {key : String} {s : SessionState} {t : Nat}
    (h : l.sessions.get key = some s) : l.level key t = s.bucket.available t := by
  unfold level
  rw [h]

theorem available_sessionState (l : RateLimiter) (key : String) (now : Nat) :
    (l.sessionState now key).bucket.available now = l.level key now := by
  unfold sessionState level
  cases l.sessions.get key with
  | none => exact Bucket.available_new _ _ _
  | some s => rfl

section Levels

variable {l : RateLimiter} {key : String} {t : Nat}

theorem SessionsKept.sessionState (hkept : l.SessionsKept) (key : String) (now : Nat) :
    (l.sessionState now key).bucket.rate = l.cfg.sessionPerSec ∧
      (l.sessionState now key).bucket.burst = l.cfg.sessionBurst := by
  unfold RateLimiter.sessionState
  cases h : l.sessions.get key with
  | none => exact ⟨rfl, rfl⟩
  | some s => exact ⟨(hkept key s h).1, (hkept key s h).2.1⟩

theorem SessionsKept.level_le (hkept : l.SessionsKept) (key : String) (t : Nat) :
    l.level key t ≤ l.cfg.sessionBurst := by
  unfold level
  cases h : l.sessions.get key with
  | none => exact le_refl _
  | some s =>
    have hburst := (hkept key s h).2.1
    exact (min_le_right _ _).trans hburst.le

theorem Solvent.level_nonneg (hsolvent : l.Solvent) (hkept : l.SessionsKept)
    (hrate : 0 ≤ l.cfg.sessionPerSec) (hburst : 0 ≤ l.cfg.sessionBurst) (key : String) (t : Nat) :
    0 ≤ l.level key t := by
  unfold level
  cases h : l.sessions.get key with
  | none => exact hburst
  | some s =>
    obtain ⟨hr, hb, -⟩ := hkept key s h
    refine le_min ?_ (hb ▸ hburst)
    have hin : 0 ≤ secs (t - s.bucket.last) * s.bucket.rate :=
      mul_nonneg (secs_nonneg _) (hr ▸ hrate)
    exact add_nonneg (hsolvent key s h) hin

theorem SessionsKept.level_le_add (hkept : l.SessionsKept) (hrate : 0 ≤ l.cfg.sessionPerSec)
    (key : String)
    {now : Nat} (h : now ≤ t) :
    l.level key t ≤ l.level key now + secs (t - now) * l.cfg.sessionPerSec := by
  have hin : 0 ≤ secs (t - now) * l.cfg.sessionPerSec := mul_nonneg (secs_nonneg _) hrate
  unfold level
  cases hget : l.sessions.get key with
  | none => exact le_add_of_nonneg_right hin
  | some s =>
    obtain ⟨hr, -⟩ := hkept key s hget
    rw [← hr] at hrate ⊢
    exact Bucket.available_le hrate h

/-! ## Calls -/

/-- A session after a call: it was there before, or the call asked its bucket. -/
theorem Checked.get_sessions {l' : RateLimiter} {now : Nat} {ip : IpAddr} {sessionId k : String}
    {n : UInt32} {d : Decision} {s : SessionState} (h : Checked l now ip sessionId n d l')
    (hs : l'.sessions.get k = some s) :
    l.sessions.get k = some s ∨
      s = ⟨((l.sessionState now sessionId).bucket.tryTake (cost n) now).2, now⟩ := by
  rw [h.frame.2] at hs
  by_cases hroom : l.Admits sessionId
  · have hset : (l.setSession sessionId
          ⟨((l.sessionState now sessionId).bucket.tryTake (cost n) now).2, now⟩).sessions.get k =
        some s := by
      rcases le_or_gt (cost n) ((l.sessionState now sessionId).bucket.available now) with hn | hn
      · rwa [sessionStep_granted hroom hn] at hs
      · rwa [sessionStep_refused hroom hn] at hs
    unfold setSession at hset
    dsimp only at hset
    rw [BTreeMap.get_insert] at hset
    split at hset
    · exact .inr (Option.some.inj hset).symm
    · exact .inl hset
  · rw [sessionStep_full hroom] at hs
    exact .inl hs

theorem SessionsKept.check (hkept : l.SessionsKept) {l' : RateLimiter} {now : Nat} {ip : IpAddr}
    {sessionId : String} {n : UInt32} {d : Decision} (h : Checked l now ip sessionId n d l') :
    l'.SessionsKept := by
  intro k s hs
  rw [h.frame.1]
  rcases h.get_sessions hs with hold | rfl
  · exact hkept k s hold
  · obtain ⟨hr, hb⟩ := hkept.sessionState sessionId now
    rcases le_or_gt (cost n) ((l.sessionState now sessionId).bucket.available now) with hn | hn
    · rw [Bucket.tryTake_ok hn]
      exact ⟨hr, hb, rfl⟩
    · rw [Bucket.tryTake_error hn]
      exact ⟨hr, hb, rfl⟩

theorem Solvent.check (hsolvent : l.Solvent) (hkept : l.SessionsKept)
    (hrate : 0 ≤ l.cfg.sessionPerSec) (hburst : 0 ≤ l.cfg.sessionBurst) {l' : RateLimiter}
    {now : Nat} {ip : IpAddr} {sessionId : String} {n : UInt32} {d : Decision}
    (h : Checked l now ip sessionId n d l') : l'.Solvent := by
  intro k s hs
  rcases h.get_sessions hs with hold | rfl
  · exact hsolvent k s hold
  · rcases le_or_gt (cost n) ((l.sessionState now sessionId).bucket.available now) with hn | hn
    · rw [Bucket.tryTake_ok hn]
      exact sub_nonneg.mpr hn
    · rw [Bucket.tryTake_error hn]
      dsimp only
      rw [available_sessionState]
      exact hsolvent.level_nonneg hkept hrate hburst sessionId now

theorem get_prune {k : String} {s : SessionState} {now : Nat}
    (hs : (l.prune now).sessions.get k = some s) : l.sessions.get k = some s := by
  unfold prune at hs
  exact ((BTreeMap.get_retain_eq_some_iff _ _ _ _).mp hs).1

theorem SessionsKept.prune (hkept : l.SessionsKept) (now : Nat) : (l.prune now).SessionsKept :=
  fun k s hs => hkept k s (get_prune hs)

theorem Solvent.prune (hsolvent : l.Solvent) (now : Nat) : (l.prune now).Solvent :=
  fun k s hs => hsolvent k s (get_prune hs)

theorem Checked.passesSession_iff {l' : RateLimiter} {now : Nat} {ip : IpAddr}
    {sessionId : String} {n : UInt32} {d : Decision} (h : Checked l now ip sessionId n d l') :
    d.passesSession = true ↔ (l.sessionStep now sessionId (cost n)).1 = none := by
  cases h with
  | session h₁ => rw [h₁]; simp [deny, Decision.passesSession]
  | ipSessions h₁ h₂ => rw [h₁]; simp [deny, Decision.passesSession]
  | global h₁ h₂ h₃ => rw [h₁]; simp [deny, Decision.passesSession]
  | allow h₁ h₂ h₃ => rw [h₁]; simp [Decision.passesSession]

theorem level_setSession (s : SessionState) :
    (l.setSession key s).level key t = s.bucket.available t := by
  unfold level setSession
  rw [BTreeMap.get_insert, if_pos rfl]

theorem get_setSession_of_ne {k : String} (s : SessionState) (h : k ≠ key) :
    (l.setSession key s).sessions.get k = l.sessions.get k := by
  unfold setSession
  dsimp only
  rw [BTreeMap.get_insert, if_neg h]

/-- The session part of a call takes from the level what it grants. -/
theorem SessionsKept.level_sessionStep (hkept : l.SessionsKept)
    (hrate : 0 ≤ l.cfg.sessionPerSec) (key : String) {now : Nat} (ht : now ≤ t)
    (sessionId : String) (n : ℚ) :
    (if sessionId = key ∧ (l.sessionStep now sessionId n).1 = none then n else 0) +
        (l.sessionStep now sessionId n).2.level key t ≤
      l.level key now + secs (t - now) * l.cfg.sessionPerSec := by
  have hwait := hkept.level_le_add hrate key ht
  by_cases hroom : l.Admits sessionId
  · by_cases hk : sessionId = key
    · subst hk
      obtain ⟨hr, -⟩ := hkept.sessionState sessionId now
      rw [← available_sessionState l sessionId now, ← hr]
      rcases le_or_gt n ((l.sessionState now sessionId).bucket.available now) with hn | hn
      · -- Granted: the bucket lost `n` and was refilled for `t - now`.
        rw [sessionStep_granted hroom hn, level_setSession, Bucket.tryTake_ok hn,
          if_pos ⟨rfl, rfl⟩]
        have hmin := min_le_left
          ((l.sessionState now sessionId).bucket.available now - n +
            secs (t - now) * (l.sessionState now sessionId).bucket.rate)
          (l.sessionState now sessionId).bucket.burst
        unfold Bucket.available at hmin ⊢
        linarith only [hmin]
      · -- Refused: the bucket is only refilled.
        rw [sessionStep_refused hroom hn, level_setSession, Bucket.tryTake_error hn,
          if_neg (by simp), zero_add]
        exact min_le_left _ _
    · -- Another session: its state is untouched.
      have hget (s : SessionState) : (l.setSession sessionId s).level key t = l.level key t :=
        level_congr rfl (get_setSession_of_ne s (Ne.symm hk))
      rw [if_neg fun hall => hk hall.1, zero_add]
      rcases le_or_gt n ((l.sessionState now sessionId).bucket.available now) with hn | hn
      · rwa [sessionStep_granted hroom hn, hget]
      · rwa [sessionStep_refused hroom hn, hget]
  · -- No place for a new session: nothing changes.
    rw [sessionStep_full hroom, if_neg (by simp), zero_add]
    exact hwait

theorem SessionsKept.level_check (hkept : l.SessionsKept) (hrate : 0 ≤ l.cfg.sessionPerSec)
    (key : String)
    {l' : RateLimiter} {now : Nat} {ip : IpAddr} {sessionId : String} {n : UInt32} {d : Decision}
    (ht : now ≤ t) (h : Checked l now ip sessionId n d l') :
    (if sessionId = key ∧ d.passesSession then cost n else 0) + l'.level key t ≤
      l.level key now + secs (t - now) * l.cfg.sessionPerSec := by
  have hstep := hkept.level_sessionStep hrate key ht sessionId (cost n)
  obtain ⟨hcfg, hsessions⟩ := h.frame
  have hcfg' := (@sessionStep_frame l now sessionId (cost n)).1
  have hlevel : l'.level key t = (l.sessionStep now sessionId (cost n)).2.level key t :=
    level_congr (hcfg.trans hcfg'.symm) (by rw [hsessions])
  simp only [h.passesSession_iff]
  rw [hlevel]
  exact hstep

/-! ## Pruning -/

/-- If the session is pruned at this instant, then its bucket is full again. -/
def Refilled (l : RateLimiter) (key : String) (now : Nat) : Prop :=
  ∀ s, l.sessions.get key = some s → sessionTtl l.cfg ≤ now - s.lastSeen →
    l.cfg.sessionBurst ≤ s.bucket.tokens + secs (now - s.bucket.last) * l.cfg.sessionPerSec

theorem SessionsKept.level_prune (hkept : l.SessionsKept) (hrate : 0 ≤ l.cfg.sessionPerSec)
    {now : Nat} (ht : now ≤ t) (hfull : l.Refilled key now) :
    (l.prune now).level key t ≤ l.level key t := by
  cases hget : l.sessions.get key with
  -- A session that is not there stays away.
  | none =>
    have hnone : (l.prune now).sessions.get key = none := by
      unfold RateLimiter.prune
      dsimp only
      rw [BTreeMap.get_retain, hget]
      rfl
    have hsame : (l.prune now).level key t = l.level key t :=
      level_congr rfl (hnone.trans hget.symm)
    exact hsame.le
  | some s =>
    by_cases hidle : now - s.lastSeen < sessionTtl l.cfg
    · -- A session that is not idle stays.
      have hsome : (l.prune now).sessions.get key = some s := by
        unfold RateLimiter.prune
        exact (BTreeMap.get_retain_eq_some_iff _ _ _ _).mpr ⟨hget, decide_eq_true hidle⟩
      have hsame : (l.prune now).level key t = l.level key t :=
        level_congr rfl (hsome.trans hget.symm)
      exact hsame.le
    · -- The session is pruned: it was worth a full burst already.
      obtain ⟨hr, hb, -⟩ := hkept key s hget
      have hburst := hfull s hget (not_lt.mp hidle)
      have helapsed : secs (now - s.bucket.last) * l.cfg.sessionPerSec ≤
          secs (t - s.bucket.last) * l.cfg.sessionPerSec :=
        mul_le_mul_of_nonneg_right (secs_mono (by omega)) hrate
      have hlevel : l.level key t = l.cfg.sessionBurst := by
        rw [level_of_get hget, Bucket.available, hr, hb]
        exact min_eq_right (by linarith only [hburst, helapsed])
      rw [hlevel]
      exact (hkept.prune now).level_le key t

end Levels

/-! ## Runs -/

/-- Whatever the clocks, buckets are kept. -/
theorem sessionsKept_of_run {cfg : RateLimitConfig} {created : Nat} {labels : List Label}
    {l : RateLimiter} (h : Run Step (.new cfg created) labels l) : l.SessionsKept := by
  induction h with
  | nil => exact fun key s hs => absurd hs (by simp [RateLimiter.new])
  | snoc _ hstep ih =>
    cases hstep with
    | check => exact ih.check (checked _ _ _ _ _)
    | prune => exact ih.prune _

theorem solvent_of_run {cfg : RateLimitConfig} {created : Nat} {labels : List Label}
    {l : RateLimiter} (hrate : 0 ≤ cfg.sessionPerSec) (hburst : 0 ≤ cfg.sessionBurst)
    (h : Run Step (.new cfg created) labels l) : l.Solvent := by
  induction h with
  | nil => exact fun key s hs => absurd hs (by simp [RateLimiter.new])
  | snoc hrun hstep ih =>
    have hcfg := cfg_of_run hrun
    have hkept := sessionsKept_of_run hrun
    cases hstep with
    | check => exact ih.check hkept (hcfg ▸ hrate) (hcfg ▸ hburst) (checked _ _ _ _ _)
    | prune => exact ih.prune _

/-- If the step prunes the session, its bucket is full again. -/
def PrunesRefilled (key : String) (l : RateLimiter) (a : Label) : Prop :=
  ∀ now, a = .prune now → l.Refilled key now

/-- What was granted since `t₀` and what the bucket is worth. -/
def Bounded (key : String) (t₀ : Nat) (labels : List Label) (l : RateLimiter) : Prop :=
  ∀ t, (∀ a ∈ labels, a.now ≤ t) →
    granted key t₀ t labels + l.level key t ≤
      l.cfg.sessionBurst + l.cfg.sessionPerSec * secs (t - t₀)

theorem Bounded.check {key : String} {t₀ : Nat} {labels : List Label} {l l' : RateLimiter}
    {now : Nat} {ip : IpAddr} {sessionId : String} {n : UInt32} {d : Decision}
    (h : Bounded key t₀ labels l) (hkept : l.SessionsKept) (hrate : 0 ≤ l.cfg.sessionPerSec)
    (hordered : Ordered (labels ++ [.check now ip sessionId n d]))
    (hcheck : Checked l now ip sessionId n d l') :
    Bounded key t₀ (labels ++ [.check now ip sessionId n d]) l' := by
  intro t ht
  have hnow : now ≤ t := ht (.check now ip sessionId n d) (by simp)
  have hbefore : ∀ a ∈ labels, a.now ≤ now := fun a ha => hordered.le_last ha
  have hcfg := hcheck.frame.1
  rw [granted_snoc, granted_extend hbefore hnow, hcfg]
  rcases le_or_gt t₀ now with hin | hout
  · -- The grant of this call comes out of the level at `now`.
    have hprev := h now hbefore
    have hlevel := hkept.level_check hrate key hnow hcheck
    have hgrant : (Label.check now ip sessionId n d).granted key t₀ t =
        if sessionId = key ∧ d.passesSession then cost n else 0 := by
      simp [Label.granted, hin, hnow]
    have hsplit : secs (t - t₀) = secs (now - t₀) + secs (t - now) := by
      rw [← secs_add]
      congr 1
      omega
    rw [hgrant, hsplit]
    linarith only [hprev, hlevel]
  · -- Nothing was granted in the interval yet.
    have hnone : granted key t₀ now labels = 0 :=
      granted_of_before fun a ha => (hbefore a ha).trans_lt hout
    have hgrant : (Label.check now ip sessionId n d).granted key t₀ t = 0 :=
      Label.granted_of_lt fun hall => absurd hall.1 (not_le.mpr hout)
    have hfull := (hkept.check hcheck).level_le key t
    have hin : 0 ≤ l.cfg.sessionPerSec * secs (t - t₀) := mul_nonneg hrate (secs_nonneg _)
    rw [hcfg] at hfull
    rw [hnone, hgrant]
    linarith only [hfull, hin]

theorem Bounded.prune {key : String} {t₀ : Nat} {labels : List Label} {l : RateLimiter}
    {now : Nat} (h : Bounded key t₀ labels l) (hkept : l.SessionsKept)
    (hrate : 0 ≤ l.cfg.sessionPerSec) (hfull : l.Refilled key now) :
    Bounded key t₀ (labels ++ [.prune now]) (l.prune now) := by
  intro t ht
  have hnow : now ≤ t := ht (.prune now) (by simp)
  have hprev := h t fun a ha => ht a (List.mem_append_left _ ha)
  have hlevel := hkept.level_prune hrate hnow hfull
  rw [granted_snoc, show (Label.prune now).granted key t₀ t = 0 from rfl, add_zero]
  exact (add_le_add_right hlevel _).trans hprev

section Admission

variable {cfg : RateLimitConfig} {created : Nat} {key : String} {labels : List Label}
  {l : RateLimiter}

theorem bounded_of_run (hrate : 0 ≤ cfg.sessionPerSec)
    (h : Run (fun l a l' => PrunesRefilled key l a ∧ Step l a l') (.new cfg created) labels l)
    (hordered : Ordered labels) (t₀ : Nat) : Bounded key t₀ labels l := by
  induction h with
  | nil =>
    intro t _
    have hin : 0 ≤ cfg.sessionPerSec * secs (t - t₀) := mul_nonneg hrate (secs_nonneg _)
    have hlevel : (RateLimiter.new cfg created).level key t = cfg.sessionBurst := rfl
    rw [hlevel]
    simpa [granted, RateLimiter.new] using hin
  | @snoc labels s s' a hrun hstep ih =>
    obtain ⟨hfull, hstep⟩ := hstep
    have hrun' := hrun.mono fun _ _ _ hall => hall.2
    have hkept := sessionsKept_of_run hrun'
    have hcfg : s.cfg = cfg := cfg_of_run hrun'
    have hrate' : 0 ≤ s.cfg.sessionPerSec := hcfg ▸ hrate
    cases hstep with
    | @check now ip sessionId n =>
      have hcheck := checked s now ip sessionId n
      exact (ih hordered.initial).check hkept hrate' hordered hcheck
    | prune => exact (ih hordered.initial).prune hkept hrate' (hfull _ rfl)

/-- **Admission of a session.** In a run in which the session is never pruned before its bucket
is full again, its grants inside an interval are at most a burst and what comes in meanwhile. -/
theorem granted_le (hrate : 0 ≤ cfg.sessionPerSec) (hburst : 0 ≤ cfg.sessionBurst)
    (h : Run (fun l a l' => PrunesRefilled key l a ∧ Step l a l') (.new cfg created) labels l)
    (hordered : Ordered labels) (t₀ t₁ : Nat) :
    granted key t₀ t₁ labels ≤ cfg.sessionBurst + cfg.sessionPerSec * secs (t₁ - t₀) := by
  induction h with
  | nil =>
    have hin : 0 ≤ cfg.sessionPerSec * secs (t₁ - t₀) := mul_nonneg hrate (secs_nonneg _)
    exact add_nonneg hburst hin
  | @snoc labels s s' a hrun hstep ih =>
    rcases le_or_gt a.now t₁ with hin | hout
    · -- The interval ends after every call so far.
      have hlast := (hrun.snoc hstep).mono fun _ _ _ hstep => hstep.2
      have hcfg : s'.cfg = cfg := cfg_of_run hlast
      have hall : ∀ b ∈ labels ++ [a], b.now ≤ t₁ := hordered.all_le hin
      have hnonneg := (solvent_of_run hrate hburst hlast).level_nonneg
        (sessionsKept_of_run hlast) (hcfg ▸ hrate) (hcfg ▸ hburst) key t₁
      have hsum := bounded_of_run hrate (hrun.snoc hstep) hordered t₀ t₁ hall
      rw [hcfg] at hsum
      linarith only [hsum, hnonneg]
    · -- The last call is outside the interval.
      rw [granted_snoc, Label.granted_of_lt fun hall => absurd hall.2 (not_le.mpr hout), add_zero]
      exact ih hordered.initial

/-- When a burst comes in while a session becomes idle, sessions are only pruned with a full
bucket. -/
theorem refilled_of_ttl (hrate : 0 ≤ cfg.sessionPerSec) (hburst : 0 ≤ cfg.sessionBurst)
    (h : Run Step (.new cfg created) labels l)
    (httl : cfg.sessionBurst ≤ cfg.sessionPerSec * secs (sessionTtl cfg)) (now : Nat) :
    l.Refilled key now := by
  intro s hs hidle
  have hlast := (sessionsKept_of_run h key s hs).2.2
  have htokens := solvent_of_run hrate hburst h key s hs
  have hcfg : l.cfg = cfg := cfg_of_run h
  rw [hcfg] at hidle ⊢
  have hcome : secs (sessionTtl cfg) * cfg.sessionPerSec ≤
      secs (now - s.bucket.last) * cfg.sessionPerSec :=
    mul_le_mul_of_nonneg_right (secs_mono (hlast ▸ hidle)) hrate
  linarith only [htokens, hcome, httl]

theorem prunesRefilled_of_ttl (hrate : 0 ≤ cfg.sessionPerSec) (hburst : 0 ≤ cfg.sessionBurst)
    (httl : cfg.sessionBurst ≤ cfg.sessionPerSec * secs (sessionTtl cfg))
    (h : Run Step (.new cfg created) labels l) :
    Run (fun l a l' => PrunesRefilled key l a ∧ Step l a l') (.new cfg created) labels l := by
  refine h.strengthen ?_
  rintro pre s a hpre now -
  exact refilled_of_ttl hrate hburst hpre httl now

end Admission

/-- A burst, an hour without a call, a purge and a burst again. -/
def hourApart : List Label :=
  [.check 0 (.v4 0x7f000001) "s" 1000 .allow, .prune 3600000000000,
    .check 3600000000000 (.v4 0x7f000001) "s" 1000 .allow]

theorem granted_le_hourApart :
    granted "s" 0 3600000000000 hourApart ≤ 1000 + 100 * secs (3600000000000 - 0) := by
  obtain ⟨l, hrun⟩ : ∃ l, Run Step (.new .default 0) hourApart l :=
    run_of_replay (by decide +kernel)
  refine @granted_le .default 0 "s" hourApart l (by decide +kernel) (by decide +kernel)
    (prunesRefilled_of_ttl (by decide +kernel) (by decide +kernel) (by decide +kernel) hrun) ?_
    0 3600000000000
  simp [Ordered, hourApart, Label.now]

/-- A burst of a thousand tokens that takes longer to come in than a session to become idle. -/
def slowRefill : RateLimitConfig :=
  { RateLimitConfig.default with sessionPerSec := 1, ipSessionWindow := 300000000000 }

/-- A burst, ten minutes without a call, a purge and a burst again. -/
def tenMinutesApart : List Label :=
  [.check 0 (.v4 0x7f000001) "s" 1000 .allow, .prune 600000000000,
    .check 600000000000 (.v4 0x7f000001) "s" 1000 .allow]

theorem granted_gt_tenMinutesApart :
    ∃ l, Run Step (.new slowRefill 0) tenMinutesApart l ∧ Ordered tenMinutesApart ∧
      0 ≤ slowRefill.sessionPerSec ∧ 0 ≤ slowRefill.sessionBurst ∧
      ¬ granted "s" 0 600000000000 tenMinutesApart ≤
        slowRefill.sessionBurst + slowRefill.sessionPerSec * secs (600000000000 - 0) := by
  obtain ⟨l, hrun⟩ : ∃ l, Run Step (.new slowRefill 0) tenMinutesApart l :=
    run_of_replay (by decide +kernel)
  refine ⟨l, hrun, ?_, by decide +kernel, by decide +kernel, by decide +kernel⟩
  simp [Ordered, tenMinutesApart, Label.now]

end RateLimiter

end Datacat.Security
