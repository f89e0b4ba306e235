import Datacat.Basics.BTreeMap
import Datacat.Basics.Net
import Datacat.Basics.Run

/-!
# The Rate Limiter

A token bucket per session, a sliding window of sessions per address and a global token bucket,
checked in this order. Instants and durations are in nanoseconds; tokens are exact rationals.

## Main results

- `RateLimiter.checked`: the one place where the outcomes of `check` are enumerated.
- `RateLimiter.Checked.ipOutcome`: what a check does to the windows of the addresses.
-/

namespace Datacat.Security

open Basics

/-- `RateLimitConfig`. -/
structure RateLimitConfig where
  globalPerSec : ℚ
  globalBurst : ℚ
  sessionPerSec : ℚ
  sessionBurst : ℚ
  ipSessionCap : Nat
  ipSessionWindow : Nat
  maxTrackedSessions : Nat
  maxTrackedIps : Nat

/-- `RateLimitSection::default`. -/
def RateLimitConfig.default : RateLimitConfig where
  globalPerSec := 50000
  globalBurst := 100000
  sessionPerSec := 100
  sessionBurst := 1000
  ipSessionCap := 200
  ipSessionWindow := 1800000000000
  maxTrackedSessions := 500000
  maxTrackedIps := 200000

/-- What denies a request. -/
inductive Scope where
  | session
  | ipSessions
  | global
deriving DecidableEq

def Scope.text : Scope → String
  | session => "session"
  | ipSessions => "ip_sessions"
  | global => "global"

inductive Decision where
  | allow
  | deny (scope : Scope) (retryAfterSecs : Nat)
deriving DecidableEq

/-- The session part of the call passed. -/
def Decision.passesSession : Decision → Bool
  | .deny .session _ => false
  | _ => true

/-- The address part of the call passed too, and the global net was asked. -/
def Decision.passesIp : Decision → Bool
  | .allow => true
  | .deny .global _ => true
  | .deny _ _ => false

/-- `as_secs_f64`. -/
def secs (nanos : Nat) : ℚ := nanos / 1000000000

/-! ## Token buckets -/

structure Bucket where
  tokens : ℚ
  last : Nat
  rate : ℚ
  burst : ℚ

namespace Bucket

def new (rate burst : ℚ) (now : Nat) : Bucket where
  tokens := burst
  last := now
  rate := rate
  burst := burst

/-- The tokens at an instant: `elapsed` is zero when the clock went back. -/
def available (b : Bucket) (now : Nat) : ℚ :=
  min (b.tokens + secs (now - b.last) * b.rate) b.burst

/-- The seconds to wait for a deficit, `u32::MAX` when nothing comes in. -/
def wait (b : Bucket) (deficit : ℚ) : ℚ := if 0 < b.rate then deficit / b.rate else 4294967295

/-- Takes `n` tokens, or gives the number of seconds to wait. -/
def tryTake (b : Bucket) (n : ℚ) (now : Nat) : Except ℚ Unit × Bucket :=
  let tokens := b.available now
  if n ≤ tokens then (.ok (), { b with tokens := tokens - n, last := now })
  else (.error (b.wait (n - tokens)), { b with tokens := tokens, last := now })

theorem tryTake_ok {b : Bucket} {n : ℚ} {now : Nat} (h : n ≤ b.available now) :
    b.tryTake n now = (.ok (), { b with tokens := b.available now - n, last := now }) :=
  if_pos h

theorem tryTake_error {b : Bucket} {n : ℚ} {now : Nat} (h : b.available now < n) :
    b.tryTake n now =
      (.error (b.wait (n - b.available now)), { b with tokens := b.available now, last := now }) :=
  if_neg (not_le.mpr h)

end Bucket

structure SessionState where
  bucket : Bucket
  lastSeen : Nat

/-! ## Sliding windows -/

structure IpWindow where
  sessions : BTreeMap String Nat
  lastSeen : Nat

namespace IpWindow

/-- The sessions still in the window. -/
def live (w : IpWindow) (now window : Nat) : BTreeMap String Nat :=
  w.sessions.retain fun _ seen => decide (now - seen < window)

/-- The seconds until the oldest session leaves the window, at least one. -/
def wait (w : IpWindow) (now window : Nat) : ℚ :=
  let oldest := ((w.live now window).entries.map fun e => now - e.2).max?.getD window
  max (secs (window - oldest)) 1

/-- Records a session, or gives the number of seconds to wait when the cap is reached. -/
def record (w : IpWindow) (session : String) (now cap window : Nat) :
    Except ℚ Unit × IpWindow :=
  let sessions := w.live now window
  if sessions.contains session then (.ok (), ⟨sessions.insert session now, now⟩)
  else if cap ≤ sessions.len then (.error (w.wait now window), ⟨sessions, now⟩)
  else (.ok (), ⟨sessions.insert session now, now⟩)

/-- A session that is in the window, or for which there is room. -/
def Seats (w : IpWindow) (session : String) (now cap window : Nat) : Prop :=
  (w.live now window).contains session = true ∨ (w.live now window).len < cap

theorem record_ok {w : IpWindow} {session : String} {now cap window : Nat}
    (h : w.Seats session now cap window) :
    w.record session now cap window =
      (.ok (), ⟨(w.live now window).insert session now, now⟩) := by
  unfold record
  dsimp only
  rcases h with hknown | hroom
  · rw [if_pos hknown]
  · rw [if_neg (not_le.mpr hroom), ite_self]

theorem record_error {w : IpWindow} {session : String} {now cap window : Nat}
    (h : ¬ w.Seats session now cap window) :
    w.record session now cap window =
      (.error (w.wait now window), ⟨w.live now window, now⟩) := by
  unfold Seats at h
  obtain ⟨hunknown, hfull⟩ := not_or.mp h
  unfold record
  dsimp only
  rw [if_neg hunknown, if_pos (not_lt.mp hfull)]

end IpWindow

/-! ## The limiter -/

structure RateLimiter where
  cfg : RateLimitConfig
  globalBucket : Bucket
  sessions : BTreeMap String SessionState
  ips : BTreeMap IpAddr IpWindow

/-- `wait_secs.ceil().max(1.0) as u64`. -/
def retryAfter (wait : ℚ) : Nat := min (max ⌈wait⌉ 1).toNat (2 ^ 64 - 1)

def deny (scope : Scope) (wait : ℚ) : Decision := .deny scope (retryAfter wait)

namespace RateLimiter

def new (cfg : RateLimitConfig) (now : Nat) : RateLimiter where
  cfg := cfg
  globalBucket := .new cfg.globalPerSec cfg.globalBurst now
  sessions := .empty
  ips := .empty

/-- A session's state, new when the session is not tracked. -/
def sessionState (l : RateLimiter) (now : Nat) (sessionId : String) : SessionState :=
  (l.sessions.get sessionId).getD
    ⟨.new l.cfg.sessionPerSec l.cfg.sessionBurst now, now⟩

/-- The first part of `check`: the limit of the session. -/
def sessionStep (l : RateLimiter) (now : Nat) (sessionId : String) (n : ℚ) :
    Option Decision × RateLimiter :=
  if !l.sessions.contains sessionId && decide (l.cfg.maxTrackedSessions ≤ l.sessions.len) then
    (some (deny .session 1), l)
  else
    let (taken, bucket) := (l.sessionState now sessionId).bucket.tryTake n now
    let l := { l with sessions := l.sessions.insert sessionId ⟨bucket, now⟩ }
    match taken with
    | .error wait => (some (deny .session wait), l)
    | .ok () => (none, l)

/-- An address's window, new when the address is not tracked. -/
def ipWindow (l : RateLimiter) (now : Nat) (ip : IpAddr) : IpWindow :=
  (l.ips.get ip).getD ⟨.empty, now⟩

/-- The second part: the cap on the sessions of an address, not applied to an unknown one. -/
def ipStep (l : RateLimiter) (now : Nat) (ip : IpAddr) (sessionId : String) :
    Option Decision × RateLimiter :=
  if ip.isUnspecified then (none, l)
  else if !l.ips.contains ip && decide (l.cfg.maxTrackedIps ≤ l.ips.len) then
    (some (deny .ipSessions 1), l)
  else
    let (recorded, window) :=
      (l.ipWindow now ip).record sessionId now l.cfg.ipSessionCap l.cfg.ipSessionWindow
    let l := { l with ips := l.ips.insert ip window }
    match recorded with
    | .error wait => (some (deny .ipSessions wait), l)
    | .ok () => (none, l)

/-- The last part: the global net. -/
def globalStep (l : RateLimiter) (now : Nat) (n : ℚ) : Option Decision × RateLimiter :=
  let (taken, bucket) := l.globalBucket.tryTake n now
  let l := { l with globalBucket := bucket }
  match taken with
  | .error wait => (some (deny .global wait), l)
  | .ok () => (none, l)

/-- `f64::from(n.max(1))`. -/
def cost (n : UInt32) : ℚ := (max n 1).toNat

def check (l : RateLimiter) (now : Nat) (ip : IpAddr) (sessionId : String) (n : UInt32) :
    Decision × RateLimiter :=
  match l.sessionStep now sessionId (cost n) with
  | (some decision, l) => (decision, l)
  | (none, l) =>
    match l.ipStep now ip sessionId with
    | (some decision, l) => (decision, l)
    | (none, l) =>
      match l.globalStep now (cost n) with
      | (some decision, l) => (decision, l)
      | (none, l) => (.allow, l)

/-- How long a session must be idle to be pruned. -/
def sessionTtl (cfg : RateLimitConfig) : Nat := max cfg.ipSessionWindow 300000000000 * 2

/-- What `prune` leaves of a window: nothing when no session is in it any more. -/
def pruneWindow (window now : Nat) (w : IpWindow) : Option IpWindow :=
  let sessions := w.live now window
  if sessions.entries.isEmpty then none else some ⟨sessions, w.lastSeen⟩

def prune (l : RateLimiter) (now : Nat) : RateLimiter :=
  { l with
    sessions := l.sessions.retain fun _ s => decide (now - s.lastSeen < sessionTtl l.cfg)
    ips := l.ips.filterMap fun _ w => pruneWindow l.cfg.ipSessionWindow now w }

/-! ## Outcomes of the parts -/

/-- A session that is tracked, or for which there is room. -/
def Admits (l : RateLimiter) (sessionId : String) : Prop :=
  l.sessions.contains sessionId = true ∨ l.sessions.len < l.cfg.maxTrackedSessions

instance (l : RateLimiter) (sessionId : String) : Decidable (l.Admits sessionId) :=
  inferInstanceAs (Decidable (_ ∨ _))

def AdmitsIp (l : RateLimiter) (ip : IpAddr) : Prop :=
  l.ips.contains ip = true ∨ l.ips.len < l.cfg.maxTrackedIps

/-- The session's state replaced. -/
def setSession (l : RateLimiter) (sessionId : String) (s : SessionState) : RateLimiter :=
  { l with sessions := l.sessions.insert sessionId s }

def setWindow (l : RateLimiter) (ip : IpAddr) (w : IpWindow) : RateLimiter :=
  { l with ips := l.ips.insert ip w }

def setGlobal (l : RateLimiter) (b : Bucket) : RateLimiter := { l with globalBucket := b }

section Parts

variable {l : RateLimiter} {now : Nat} {ip : IpAddr} {sessionId : String} {n : ℚ}

theorem not_admits_iff : ¬ l.Admits sessionId ↔
    (!l.sessions.contains sessionId && decide (l.cfg.maxTrackedSessions ≤ l.sessions.len)) =
      true := by
  unfold Admits
  cases l.sessions.contains sessionId <;> simp

theorem not_admitsIp_iff : ¬ l.AdmitsIp ip ↔
    (!l.ips.contains ip && decide (l.cfg.maxTrackedIps ≤ l.ips.len)) = true := by
  unfold AdmitsIp
  cases l.ips.contains ip <;> simp

theorem sessionStep_full (h : ¬ l.Admits sessionId) :
    l.sessionStep now sessionId n = (some (deny .session 1), l) := by
  unfold sessionStep
  rw [if_pos (not_admits_iff.mp h)]

theorem sessionStep_granted (h : l.Admits sessionId)
    (hn : n ≤ (l.sessionState now sessionId).bucket.available now) :
    l.sessionStep now sessionId n =
      (none, l.setSession sessionId
        ⟨((l.sessionState now sessionId).bucket.tryTake n now).2, now⟩) := by
  unfold sessionStep
  rw [if_neg (fun hfull => (not_admits_iff.mpr hfull) h), Bucket.tryTake_ok hn]
  rfl

theorem sessionStep_refused (h : l.Admits sessionId)
    (hn : (l.sessionState now sessionId).bucket.available now < n) :
    l.sessionStep now sessionId n =
      (some (deny .session ((l.sessionState now sessionId).bucket.wait
          (n - (l.sessionState now sessionId).bucket.available now))),
        l.setSession sessionId
          ⟨((l.sessionState now sessionId).bucket.tryTake n now).2, now⟩) := by
  unfold sessionStep
  rw [if_neg (fun hfull => (not_admits_iff.mpr hfull) h), Bucket.tryTake_error hn]
  rfl

theorem ipStep_unspecified (h : ip.isUnspecified = true) :
    l.ipStep now ip sessionId = (none, l) := by
  unfold ipStep
  rw [if_pos h]

theorem ipStep_full (hip : ip.isUnspecified = false) (h : ¬ l.AdmitsIp ip) :
    l.ipStep now ip sessionId = (some (deny .ipSessions 1), l) := by
  unfold ipStep
  rw [hip, if_neg Bool.false_ne_true, if_pos (not_admitsIp_iff.mp h)]

theorem ipStep_passed (hip : ip.isUnspecified = false) (h : l.AdmitsIp ip)
    (hseat : (l.ipWindow now ip).Seats sessionId now l.cfg.ipSessionCap l.cfg.ipSessionWindow) :
    l.ipStep now ip sessionId =
      (none, l.setWindow ip
        ⟨((l.ipWindow now ip).live now l.cfg.ipSessionWindow).insert sessionId now, now⟩) := by
  unfold ipStep
  rw [hip, if_neg Bool.false_ne_true, if_neg (fun hfull => (not_admitsIp_iff.mpr hfull) h),
    IpWindow.record_ok hseat]
  rfl

theorem ipStep_refused (hip : ip.isUnspecified = false) (h : l.AdmitsIp ip)
    (hseat : ¬ (l.ipWindow now ip).Seats sessionId now l.cfg.ipSessionCap
      l.cfg.ipSessionWindow) :
    l.ipStep now ip sessionId =
      (some (deny .ipSessions ((l.ipWindow now ip).wait now l.cfg.ipSessionWindow)),
        l.setWindow ip ⟨(l.ipWindow now ip).live now l.cfg.ipSessionWindow, now⟩) := by
  unfold ipStep
  rw [hip, if_neg Bool.false_ne_true, if_neg (fun hfull => (not_admitsIp_iff.mpr hfull) h),
    IpWindow.record_error hseat]
  rfl

theorem globalStep_granted (hn : n ≤ l.globalBucket.available now) :
    l.globalStep now n = (none, l.setGlobal (l.globalBucket.tryTake n now).2) := by
  unfold globalStep
  rw [Bucket.tryTake_ok hn]
  rfl

theorem globalStep_refused (hn : l.globalBucket.available now < n) :
    l.globalStep now n =
      (some (deny .global (l.globalBucket.wait (n - l.globalBucket.available now))),
        l.setGlobal (l.globalBucket.tryTake n now).2) := by
  unfold globalStep
  rw [Bucket.tryTake_error hn]
  rfl

/-! Each part only touches its own state. -/

theorem sessionStep_frame :
    (l.sessionStep now sessionId n).2.cfg = l.cfg ∧
      (l.sessionStep now sessionId n).2.globalBucket = l.globalBucket ∧
      (l.sessionStep now sessionId n).2.ips = l.ips := by
  by_cases hroom : l.Admits sessionId
  · rcases le_or_gt n ((l.sessionState now sessionId).bucket.available now) with hn | hn
    · rw [sessionStep_granted hroom hn]
      exact ⟨rfl, rfl, rfl⟩
    · rw [sessionStep_refused hroom hn]
      exact ⟨rfl, rfl, rfl⟩
  · rw [sessionStep_full hroom]
    exact ⟨rfl, rfl, rfl⟩

theorem ipStep_frame :
    (l.ipStep now ip sessionId).2.cfg = l.cfg ∧
      (l.ipStep now ip sessionId).2.globalBucket = l.globalBucket ∧
      (l.ipStep now ip sessionId).2.sessions = l.sessions := by
  cases hip : ip.isUnspecified with
  | true =>
    rw [ipStep_unspecified hip]
    exact ⟨rfl, rfl, rfl⟩
  | false =>
    by_cases hroom : l.AdmitsIp ip
    · by_cases hseat : (l.ipWindow now ip).Seats sessionId now l.cfg.ipSessionCap
          l.cfg.ipSessionWindow
      · rw [ipStep_passed hip hroom hseat]
        exact ⟨rfl, rfl, rfl⟩
      · rw [ipStep_refused hip hroom hseat]
        exact ⟨rfl, rfl, rfl⟩
    · rw [ipStep_full hip hroom]
      exact ⟨rfl, rfl, rfl⟩

theorem globalStep_frame :
    (l.globalStep now n).2.cfg = l.cfg ∧
      (l.globalStep now n).2.sessions = l.sessions ∧
      (l.globalStep now n).2.ips = l.ips := by
  rcases le_or_gt n (l.globalBucket.available now) with hn | hn
  · rw [globalStep_granted hn]
    exact ⟨rfl, rfl, rfl⟩
  · rw [globalStep_refused hn]
    exact ⟨rfl, rfl, rfl⟩

end Parts

/-- How a call of `check` goes: the parts run in order up to the first that denies. -/
inductive Checked (l : RateLimiter) (now : Nat) (ip : IpAddr) (sessionId : String) (n : UInt32) :
    Decision → RateLimiter → Prop where
  | session {wait : ℚ} {l' : RateLimiter} :
      l.sessionStep now sessionId (cost n) = (some (deny .session wait), l') →
      Checked l now ip sessionId n (deny .session wait) l'
  | ipSessions {wait : ℚ} {l₁ l' : RateLimiter} :
      l.sessionStep now sessionId (cost n) = (none, l₁) →
      l₁.ipStep now ip sessionId = (some (deny .ipSessions wait), l') →
      Checked l now ip sessionId n (deny .ipSessions wait) l'
  | global {wait : ℚ} {l₁ l₂ l' : RateLimiter} :
      l.sessionStep now sessionId (cost n) = (none, l₁) →
      l₁.ipStep now ip sessionId = (none, l₂) →
      l₂.globalStep now (cost n) = (some (deny .global wait), l') →
      Checked l now ip sessionId n (deny .global wait) l'
  | allow {l₁ l₂ l' : RateLimiter} :
      l.sessionStep now sessionId (cost n) = (none, l₁) →
      l₁.ipStep now ip sessionId = (none, l₂) →
      l₂.globalStep now (cost n) = (none, l') →
      Checked l now ip sessionId n .allow l'

theorem sessionStep_scope {l l' : RateLimiter} {now : Nat} {sessionId : String} {n : ℚ}
    {d : Decision} (h : l.sessionStep now sessionId n = (some d, l')) :
    ∃ wait, d = deny .session wait := by
  by_cases hroom : l.Admits sessionId
  · rcases le_or_gt n ((l.sessionState now sessionId).bucket.available now) with hn | hn
    · rw [sessionStep_granted hroom hn] at h
      cases h
    · rw [sessionStep_refused hroom hn] at h
      exact ⟨_, (Option.some.inj (Prod.mk.inj h).1).symm⟩
  · rw [sessionStep_full hroom] at h
    exact ⟨_, (Option.some.inj (Prod.mk.inj h).1).symm⟩

theorem ipStep_scope {l l' : RateLimiter} {now : Nat} {ip : IpAddr} {sessionId : String}
    {d : Decision} (h : l.ipStep now ip sessionId = (some d, l')) :
    ∃ wait, d = deny .ipSessions wait := by
  unfold ipStep at h
  split at h
  · cases h
  · split at h
    · exact ⟨_, (Option.some.inj (Prod.mk.inj h).1).symm⟩
    · dsimp only at h
      split at h
      · exact ⟨_, (Option.some.inj (Prod.mk.inj h).1).symm⟩
      · cases h

theorem globalStep_scope {l l' : RateLimiter} {now : Nat} {n : ℚ} {d : Decision}
    (h : l.globalStep now n = (some d, l')) : ∃ wait, d = deny .global wait := by
  unfold globalStep at h
  dsimp only at h
  split at h
  · exact ⟨_, (Option.some.inj (Prod.mk.inj h).1).symm⟩
  · cases h

/-- **Outcomes of `check`.** -/
theorem checked (l : RateLimiter) (now : Nat) (ip : IpAddr) (sessionId : String) (n : UInt32) :
    Checked l now ip sessionId n (l.check now ip sessionId n).1
      (l.check now ip sessionId n).2 := by
  unfold check
  -- The three parts in turn: the first that denies gives the answer.
  cases hsession : l.sessionStep now sessionId (cost n) with
  | mk d₁ l₁ =>
    cases d₁ with
    | some d =>
      obtain ⟨wait, rfl⟩ := sessionStep_scope hsession
      exact .session hsession
    | none =>
      dsimp only
      cases hip : l₁.ipStep now ip sessionId with
      | mk d₂ l₂ =>
        cases d₂ with
        | some d =>
          obtain ⟨wait, rfl⟩ := ipStep_scope hip
          exact .ipSessions hsession hip
        | none =>
          dsimp only
          cases hglobal : l₂.globalStep now (cost n) with
          | mk d₃ l₃ =>
            cases d₃ with
            | some d =>
              obtain ⟨wait, rfl⟩ := globalStep_scope hglobal
              exact .global hsession hip hglobal
            | none => exact .allow hsession hip hglobal

section Frames

variable {l l' : RateLimiter} {now : Nat} {ip : IpAddr} {sessionId : String} {n : UInt32}
  {d : Decision}

/-- The configuration stays, and the sessions are those after the first part. -/
theorem Checked.frame (h : Checked l now ip sessionId n d l') :
    l'.cfg = l.cfg ∧ l'.sessions = (l.sessionStep now sessionId (cost n)).2.sessions := by
  have hsession := @sessionStep_frame l now sessionId (cost n)
  -- The parts after the first leave the sessions alone.
  cases h with
  | session h₁ =>
    rw [h₁] at hsession ⊢
    exact ⟨hsession.1, rfl⟩
  | @ipSessions wait l₁ _ h₁ h₂ =>
    have hip := @ipStep_frame l₁ now ip sessionId
    rw [h₁] at hsession ⊢
    rw [h₂] at hip
    exact ⟨hip.1.trans hsession.1, hip.2.2⟩
  | @global wait l₁ l₂ _ h₁ h₂ h₃ =>
    have hip := @ipStep_frame l₁ now ip sessionId
    have hglobal := @globalStep_frame l₂ now (cost n)
    rw [h₁] at hsession ⊢
    rw [h₂] at hip
    rw [h₃] at hglobal
    exact ⟨hglobal.1.trans (hip.1.trans hsession.1), hglobal.2.1.trans hip.2.2⟩
  | @allow l₁ l₂ _ h₁ h₂ h₃ =>
    have hip := @ipStep_frame l₁ now ip sessionId
    have hglobal := @globalStep_frame l₂ now (cost n)
    rw [h₁] at hsession ⊢
    rw [h₂] at hip
    rw [h₃] at hglobal
    exact ⟨hglobal.1.trans (hip.1.trans hsession.1), hglobal.2.1.trans hip.2.2⟩

/-- What a call does to the windows. -/
inductive IpOutcome (l : RateLimiter) (now : Nat) (ip : IpAddr) (sessionId : String) :
    Decision → BTreeMap IpAddr IpWindow → Prop where
  | sessionDenied (wait : ℚ) : IpOutcome l now ip sessionId (deny .session wait) l.ips
  | unspecified (d : Decision) : ip.isUnspecified = true → d.passesIp = true →
      IpOutcome l now ip sessionId d l.ips
  | full (wait : ℚ) : ip.isUnspecified = false → ¬ l.AdmitsIp ip →
      IpOutcome l now ip sessionId (deny .ipSessions wait) l.ips
  | refused : ip.isUnspecified = false → l.AdmitsIp ip →
      ¬ (l.ipWindow now ip).Seats sessionId now l.cfg.ipSessionCap l.cfg.ipSessionWindow →
      IpOutcome l now ip sessionId
        (deny .ipSessions ((l.ipWindow now ip).wait now l.cfg.ipSessionWindow))
        (l.ips.insert ip ⟨(l.ipWindow now ip).live now l.cfg.ipSessionWindow, now⟩)
  | passed (d : Decision) : ip.isUnspecified = false → d.passesIp = true → l.AdmitsIp ip →
      (l.ipWindow now ip).Seats sessionId now l.cfg.ipSessionCap l.cfg.ipSessionWindow →
      IpOutcome l now ip sessionId d
        (l.ips.insert ip
          ⟨((l.ipWindow now ip).live now l.cfg.ipSessionWindow).insert sessionId now, now⟩)

/-- The address part, in a state with the windows and the configuration of `l`. -/
theorem ipStep_outcome {l₁ : RateLimiter} (hips : l₁.ips = l.ips) (hcfg : l₁.cfg = l.cfg) :
    (∀ d, (l₁.ipStep now ip sessionId).1 = some d →
      IpOutcome l now ip sessionId d (l₁.ipStep now ip sessionId).2.ips) ∧
    ((l₁.ipStep now ip sessionId).1 = none → ∀ d : Decision, d.passesIp = true →
      IpOutcome l now ip sessionId d (l₁.ipStep now ip sessionId).2.ips) := by
  have hwindow : l₁.ipWindow now ip = l.ipWindow now ip := by
    unfold ipWindow
    rw [hips]
  have hadmits : l₁.AdmitsIp ip ↔ l.AdmitsIp ip := by
    unfold AdmitsIp
    rw [hips, hcfg]
  cases hip : ip.isUnspecified with
  -- An unspecified address is not followed.
  | true =>
    rw [ipStep_unspecified hip, hips]
    exact ⟨fun d hd => absurd hd (by simp), fun _ d hd => .unspecified d hip hd⟩
  | false =>
    by_cases hroom : l.AdmitsIp ip
    · by_cases hseat : (l.ipWindow now ip).Seats sessionId now l.cfg.ipSessionCap
          l.cfg.ipSessionWindow
      · rw [ipStep_passed hip (hadmits.mpr hroom) (by rwa [hwindow, hcfg])]
        refine ⟨fun d hd => absurd hd (by simp), fun _ d hd => ?_⟩
        unfold setWindow
        rw [hwindow, hcfg, hips]
        exact .passed d hip hd hroom hseat
      · rw [ipStep_refused hip (hadmits.mpr hroom) (by rwa [hwindow, hcfg])]
        refine ⟨fun d hd => ?_, fun hnone => absurd hnone (by simp)⟩
        obtain rfl := Option.some.inj hd
        unfold setWindow
        rw [hwindow, hcfg, hips]
        exact .refused hip hroom hseat
    · -- No place for a new address.
      rw [ipStep_full hip (fun h => hroom (hadmits.mp h)), hips]
      refine ⟨fun d hd => ?_, fun hnone => absurd hnone (by simp)⟩
      obtain rfl := Option.some.inj hd
      exact .full 1 hip hroom

theorem Checked.ipOutcome (h : Checked l now ip sessionId n d l') :
    IpOutcome l now ip sessionId d l'.ips := by
  have hsession := @sessionStep_frame l now sessionId (cost n)
  -- Denied before the address part, by it, or after it.
  cases h with
  | session h₁ =>
    rw [h₁] at hsession
    rw [show l'.ips = l.ips from hsession.2.2]
    exact .sessionDenied _
  | @ipSessions wait l₁ _ h₁ h₂ =>
    rw [h₁] at hsession
    obtain ⟨hsome, -⟩ := @ipStep_outcome l now ip sessionId l₁ hsession.2.2 hsession.1
    rw [h₂] at hsome
    exact hsome _ rfl
  | @global wait l₁ l₂ _ h₁ h₂ h₃ =>
    have hglobal := (@globalStep_frame l₂ now (cost n)).2.2
    rw [h₁] at hsession
    rw [h₃] at hglobal
    obtain ⟨-, hnone⟩ := @ipStep_outcome l now ip sessionId l₁ hsession.2.2 hsession.1
    rw [h₂] at hnone
    rw [show l'.ips = l₂.ips from hglobal]
    exact hnone rfl _ rfl
  | @allow l₁ l₂ _ h₁ h₂ h₃ =>
    have hglobal := (@globalStep_frame l₂ now (cost n)).2.2
    rw [h₁] at hsession
    rw [h₃] at hglobal
    obtain ⟨-, hnone⟩ := @ipStep_outcome l now ip sessionId l₁ hsession.2.2 hsession.1
    rw [h₂] at hnone
    rw [show l'.ips = l₂.ips from hglobal]
    exact hnone rfl _ rfl

end Frames

/-! ## Runs -/

/-- A call and its answer. -/
inductive Label where
  | check (now : Nat) (ip : IpAddr) (sessionId : String) (n : UInt32) (decision : Decision)
  | prune (now : Nat)

def Label.now : Label → Nat
  | check now .. => now
  | prune now => now

inductive Step : RateLimiter → Label → RateLimiter → Prop where
  | check {l : RateLimiter} {now : Nat} {ip : IpAddr} {sessionId : String} {n : UInt32} :
      Step l (.check now ip sessionId n (l.check now ip sessionId n).1)
        (l.check now ip sessionId n).2
  | prune {l : RateLimiter} {now : Nat} : Step l (.prune now) (l.prune now)

theorem Step.check_inv {l l' : RateLimiter} {now : Nat} {ip : IpAddr} {sessionId : String}
    {n : UInt32} {d : Decision} (h : Step l (.check now ip sessionId n d) l') :
    Checked l now ip sessionId n d l' := by
  generalize ha : Label.check now ip sessionId n d = a at h
  cases h with
  | check =>
    cases ha
    exact RateLimiter.checked l now ip sessionId n
  | prune => cases ha

/-- The step that a label describes, when its decision is the one taken. -/
def replay (l : RateLimiter) : Label → Option RateLimiter
  | .check now ip sessionId n decision =>
    let (d, l') := l.check now ip sessionId n
    if d = decision then some l' else none
  | .prune now => some (l.prune now)

theorem step_of_replay {l l' : RateLimiter} {a : Label} (h : l.replay a = some l') :
    Step l a l' := by
  unfold replay at h
  cases a with
  | check now ip sessionId n decision =>
    dsimp only at h
    split at h
    · rename_i hd
      obtain rfl := Option.some.inj h
      rw [← hd]
      exact .check
    · cases h
  | prune now =>
    obtain rfl := Option.some.inj h
    exact .prune

theorem run_of_replay {l : RateLimiter} {labels : List Label}
    (h : (labels.foldlM replay l).isSome = true) : ∃ l', Run Step l labels l' := by
  obtain ⟨l', hl'⟩ := Option.isSome_iff_exists.mp h
  exact ⟨l', (Run.of_foldlM hl').mono fun _ _ _ => step_of_replay⟩

/-- Instants that never go back. -/
def Ordered (labels : List Label) : Prop := labels.Pairwise fun a b => a.now ≤ b.now

theorem Ordered.initial {labels : List Label} {a : Label} (h : Ordered (labels ++ [a])) :
    Ordered labels := (List.pairwise_append.mp h).1

theorem Ordered.le_last {labels : List Label} {a b : Label} (h : Ordered (labels ++ [a]))
    (hb : b ∈ labels) : b.now ≤ a.now :=
  (List.pairwise_append.mp h).2.2 b hb a (List.mem_singleton_self a)

/-- What the last call does not exceed, no call does. -/
theorem Ordered.all_le {labels : List Label} {a : Label} {t : Nat} (h : Ordered (labels ++ [a]))
    (hlast : a.now ≤ t) : ∀ b ∈ labels ++ [a], b.now ≤ t := by
  intro b hb
  rcases List.mem_append.mp hb with hb | hb
  · exact (h.le_last hb).trans hlast
  · rw [List.mem_singleton.mp hb]
    exact hlast

theorem Step.cfg_eq {l l' : RateLimiter} {a : Label} (h : Step l a l') : l'.cfg = l.cfg := by
  cases h with
  | check => exact (checked _ _ _ _ _).frame.1
  | prune => rfl

theorem cfg_of_run {l l' : RateLimiter} {labels : List Label} (h : Run Step l labels l') :
    l'.cfg = l.cfg := by
  induction h with
  | nil => rfl
  | snoc _ hstep ih => exact hstep.cfg_eq.trans ih

end RateLimiter

end Datacat.Security
