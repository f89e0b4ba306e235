import Datacat.Security.SessionBound

/-!
# A Session Alone with its Bucket

The bucket of a session as its own requests find it when nothing else is asked, and the shared
limiter, whose bucket for the session is the same. On a clock that never goes back, a session
whose requests are all granted may also leave some of them out.

## Main results

- `Checked.allowed`: with room for it, a request that its bucket grants is allowed.
- `grants_of_thinned`: leaving requests out never makes another one be refused.
-/

namespace Datacat.Security

open Basics

namespace RateLimiter

/-- What concerns a session: its own requests, and the purges. -/
inductive Ask where
  | take (now : Nat) (n : UInt32)
  | prune (now : Nat)

def Ask.now : Ask → Nat
  | take now _ => now
  | prune now => now

/-- The session pays for a request. -/
def spend (l : RateLimiter) (key : String) (now : Nat) (n : UInt32) : RateLimiter :=
  l.setSession key ⟨((l.sessionState now key).bucket.tryTake (cost n) now).2, now⟩

/-- The bucket of a session grants all its requests, when nothing else is asked. -/
def Grants (key : String) : RateLimiter → List Ask → Prop
  | _, [] => True
  | l, .take now n :: rest =>
    cost n ≤ (l.sessionState now key).bucket.available now ∧ Grants key (l.spend key now n) rest
  | l, .prune now :: rest => Grants key (l.prune now) rest

instance decidableGrants (key : String) :
    (l : RateLimiter) → (asks : List Ask) → Decidable (Grants key l asks)
  | _, [] => inferInstanceAs (Decidable True)
  | l, .take now n :: rest =>
    have := decidableGrants key (l.spend key now n) rest
    inferInstanceAs (Decidable (_ ∧ _))
  | l, .prune now :: rest => decidableGrants key (l.prune now) rest

/-! ## Room for a request -/

/-- What a request finds of the limits that it shares with other sessions: a place among the
sessions tracked and among those of its address, and enough in the global net. -/
structure Room (l : RateLimiter) (now : Nat) (ip : IpAddr) (key : String) (n : UInt32) : Prop where
  tracked : l.Admits key
  seated : ip.isUnspecified = false →
    l.AdmitsIp ip ∧
      (l.ipWindow now ip).Seats key now l.cfg.ipSessionCap l.cfg.ipSessionWindow
  net : cost n ≤ l.globalBucket.available now

theorem cost_nonneg (n : UInt32) : 0 ≤ cost n := by
  unfold cost
  exact Nat.cast_nonneg _

section Calls

variable {l l' : RateLimiter} {now : Nat} {ip : IpAddr} {key sessionId : String} {n : UInt32}
  {d : Decision}

/-- With room for it, a request that its bucket grants is allowed. -/
theorem Checked.allowed (h : Checked l now ip key n d l') (hroom : l.Room now ip key n)
    (hn : cost n ≤ (l.sessionState now key).bucket.available now) : d = .allow := by
  have hsession := sessionStep_granted hroom.tracked hn
  have hip : ((l.spend key now n).ipStep now ip key).1 = none := by
    cases hunspecified : ip.isUnspecified with
    | true => rw [ipStep_unspecified hunspecified]
    | false =>
      obtain ⟨hadmits, hseat⟩ := hroom.seated hunspecified
      have hpassed : (l.spend key now n).ipStep now ip key = (none, _) :=
        ipStep_passed hunspecified hadmits hseat
      rw [hpassed]
  cases h with
  | session h₁ =>
    rw [hsession] at h₁
    cases h₁
  | ipSessions h₁ h₂ =>
    rw [hsession] at h₁
    obtain rfl := (Prod.mk.inj h₁).2
    unfold spend at hip
    rw [h₂] at hip
    cases hip
  | @global wait l₁ l₂ _ h₁ h₂ h₃ =>
    rw [hsession] at h₁
    obtain rfl := (Prod.mk.inj h₁).2
    -- The parts before the net leave it as it was.
    have hglobal := (@ipStep_frame (l.spend key now n) now ip key).2.1
    unfold spend at hglobal
    rw [h₂] at hglobal
    have hnet : cost n ≤ l₂.globalBucket.available now := by
      rw [show l₂.globalBucket = l.globalBucket from hglobal]
      exact hroom.net
    rw [globalStep_granted hnet] at h₃
    cases h₃
  | allow h₁ h₂ h₃ => rfl

/-- What a call that is granted by the bucket leaves of the sessions. -/
theorem Checked.sessions_of_granted (h : Checked l now ip key n d l') (hadmits : l.Admits key)
    (hn : cost n ≤ (l.sessionState now key).bucket.available now) :
    l'.sessions = (l.spend key now n).sessions := by
  rw [h.frame.2, sessionStep_granted hadmits hn]
  rfl

/-- A call leaves the other sessions alone. -/
theorem Checked.get_of_ne (h : Checked l now ip sessionId n d l') (hne : key ≠ sessionId) :
    l'.sessions.get key = l.sessions.get key := by
  rw [h.frame.2]
  by_cases hadmits : l.Admits sessionId
  · rcases le_or_gt (cost n) ((l.sessionState now sessionId).bucket.available now) with hn | hn
    · rw [sessionStep_granted hadmits hn]
      exact get_setSession_of_ne _ hne
    · rw [sessionStep_refused hadmits hn]
      exact get_setSession_of_ne _ hne
  · rw [sessionStep_full hadmits]

end Calls

/-! ## Levels -/

section Levels

variable {l : RateLimiter} {key : String} {now u : Nat} {n : UInt32}

/-- The level after a request that is granted. -/
theorem SessionsKept.level_spend (hkept : l.SessionsKept) (hn : cost n ≤ l.level key now) :
    (l.spend key now n).level key u =
      min (l.level key now - cost n + secs (u - now) * l.cfg.sessionPerSec)
        l.cfg.sessionBurst := by
  obtain ⟨hrate, hburst⟩ := hkept.sessionState key now
  rw [← available_sessionState l] at hn ⊢
  unfold spend
  rw [level_setSession, Bucket.tryTake_ok hn, ← hrate, ← hburst]
  rfl

theorem SessionsKept.spend (hkept : l.SessionsKept) (hn : cost n ≤ l.level key now) :
    (l.spend key now n).SessionsKept := by
  obtain ⟨hrate, hburst⟩ := hkept.sessionState key now
  rw [← available_sessionState l] at hn
  intro k s hs
  unfold RateLimiter.spend setSession at hs
  dsimp only at hs
  rw [BTreeMap.get_insert] at hs
  split at hs
  · obtain rfl := Option.some.inj hs
    rw [Bucket.tryTake_ok hn]
    exact ⟨hrate, hburst, rfl⟩
  · exact hkept k s hs

/-- A request that is paid for never adds to the level. -/
theorem SessionsKept.level_spend_le (hkept : l.SessionsKept) (hn : cost n ≤ l.level key now)
    (hpast : ∀ s, l.sessions.get key = some s → s.lastSeen ≤ now) (hu : now ≤ u) :
    (l.spend key now n).level key u ≤ l.level key u := by
  rw [hkept.level_spend hn]
  cases hget : l.sessions.get key with
  | none =>
    have hlevel : l.level key u = l.cfg.sessionBurst := by
      unfold level
      rw [hget]
    rw [hlevel]
    exact min_le_right _ _
  | some s =>
    obtain ⟨hrate, hburst, hlast⟩ := hkept key s hget
    have hseen : s.bucket.last ≤ now := hlast ▸ hpast s hget
    -- What comes in until `u` comes in until `now`, and then after `now`.
    have helapsed : secs (u - s.bucket.last) = secs (now - s.bucket.last) + secs (u - now) := by
      rw [← secs_add]
      exact congrArg secs (by omega)
    have hlevel : l.level key now ≤
        s.bucket.tokens + secs (now - s.bucket.last) * l.cfg.sessionPerSec := by
      rw [level_of_get hget, ← hrate]
      exact min_le_left _ _
    have hcost := cost_nonneg n
    have hthen : l.level key u = min (s.bucket.tokens +
        (secs (now - s.bucket.last) + secs (u - now)) * l.cfg.sessionPerSec)
        l.cfg.sessionBurst := by
      rw [level_of_get hget, ← hrate, ← hburst, ← helapsed]
      rfl
    rw [hthen, add_mul]
    apply min_le_min_right
    linarith only [hlevel, hcost]

end Levels

/-! ## The shared limiter -/

/-- The limiter `shared`, asked by everyone, has the same bucket for the session as `alone`,
asked by the session only. -/
structure Mirrors (key : String) (alone shared : RateLimiter) : Prop where
  cfg : shared.cfg = alone.cfg
  get : shared.sessions.get key = alone.sessions.get key

section Mirrors

variable {key : String} {alone shared shared' : RateLimiter} {now : Nat} {ip : IpAddr}
  {sessionId : String} {n : UInt32} {d : Decision}

theorem get_spend (l : RateLimiter) (key : String) (now : Nat) (n : UInt32) :
    (l.spend key now n).sessions.get key =
      some ⟨((l.sessionState now key).bucket.tryTake (cost n) now).2, now⟩ := by
  unfold spend setSession
  rw [BTreeMap.get_insert, if_pos rfl]

theorem get_sessions_prune (l : RateLimiter) (key : String) (now : Nat) :
    (l.prune now).sessions.get key =
      (l.sessions.get key).filter fun s => decide (now - s.lastSeen < sessionTtl l.cfg) :=
  BTreeMap.get_retain ..

theorem Mirrors.sessionState (h : Mirrors key alone shared) (now : Nat) :
    shared.sessionState now key = alone.sessionState now key := by
  unfold RateLimiter.sessionState
  rw [h.get, h.cfg]

/-- A request of another session changes nothing. -/
theorem Mirrors.other (h : Mirrors key alone shared)
    (hcheck : Checked shared now ip sessionId n d shared') (hne : key ≠ sessionId) :
    Mirrors key alone shared' :=
  ⟨hcheck.frame.1.trans h.cfg, (hcheck.get_of_ne hne).trans h.get⟩

/-- A request of the session that its bucket grants is paid for in both. -/
theorem Mirrors.letIn (h : Mirrors key alone shared)
    (hcheck : Checked shared now ip key n d shared') (hadmits : shared.Admits key)
    (hn : cost n ≤ (alone.sessionState now key).bucket.available now) :
    Mirrors key (alone.spend key now n) shared' := by
  rw [← h.sessionState] at hn
  refine ⟨hcheck.frame.1.trans h.cfg, ?_⟩
  rw [hcheck.sessions_of_granted hadmits hn, get_spend, get_spend, h.sessionState]

theorem Mirrors.prune (h : Mirrors key alone shared) (now : Nat) :
    Mirrors key (alone.prune now) (shared.prune now) := by
  refine ⟨h.cfg, ?_⟩
  rw [get_sessions_prune, get_sessions_prune, h.get, h.cfg]

end Mirrors

/-! ## Leaving requests out -/

/-- Some requests of the session are left out. -/
inductive Thinned : List Ask → List Ask → Prop where
  | nil : Thinned [] []
  | keep (a : Ask) {asks asks' : List Ask} : Thinned asks asks' → Thinned (a :: asks) (a :: asks')
  | leaveOut (now : Nat) (n : UInt32) {asks asks' : List Ask} :
      Thinned asks asks' → Thinned (.take now n :: asks) asks'

/-- From an instant on, the limiter `spared` is at least as generous to a session as `asked`,
which was asked for more. -/
structure Covers (key : String) (asked spared : RateLimiter) (t : Nat) : Prop where
  cfg : spared.cfg = asked.cfg
  askedKept : asked.SessionsKept
  sparedKept : spared.SessionsKept
  past : ∀ s, asked.sessions.get key = some s → s.lastSeen ≤ t
  /-- A session that is purged where more was asked is purged. -/
  seen : ∀ s, spared.sessions.get key = some s →
    ∃ s₀, asked.sessions.get key = some s₀ ∧ s.lastSeen ≤ s₀.lastSeen
  level : ∀ u, t ≤ u → asked.level key u ≤ spared.level key u

section Covers

variable {key : String} {asked spared : RateLimiter} {t now : Nat} {n : UInt32}

theorem Covers.refl {l : RateLimiter} (hkept : l.SessionsKept)
    (hpast : ∀ s, l.sessions.get key = some s → s.lastSeen ≤ t) : Covers key l l t where
  cfg := rfl
  askedKept := hkept
  sparedKept := hkept
  past := hpast
  seen := fun s hs => ⟨s, hs, le_refl _⟩
  level := fun _ _ => le_refl _

theorem Covers.granted (h : Covers key asked spared t) (ht : t ≤ now)
    (hn : cost n ≤ (asked.sessionState now key).bucket.available now) :
    cost n ≤ (spared.sessionState now key).bucket.available now := by
  rw [available_sessionState] at hn ⊢
  exact hn.trans (h.level now ht)

theorem past_spend (l : RateLimiter) (key : String) (now : Nat) (n : UInt32) :
    ∀ s, (l.spend key now n).sessions.get key = some s → s.lastSeen ≤ now := by
  intro s hs
  rw [get_spend] at hs
  obtain rfl := Option.some.inj hs
  exact le_refl now

/-- A request that is left out. -/
theorem Covers.leaveOut (h : Covers key asked spared t) (ht : t ≤ now)
    (hn : cost n ≤ asked.level key now) :
    Covers key (asked.spend key now n) spared now := by
  have hpast : ∀ s, asked.sessions.get key = some s → s.lastSeen ≤ now :=
    fun s hs => (h.past s hs).trans ht
  refine ⟨h.cfg, h.askedKept.spend hn, h.sparedKept, past_spend asked key now n,
    ?_, ?_⟩
  · intro s hs
    obtain ⟨s₀, hs₀, hle⟩ := h.seen s hs
    exact ⟨_, get_spend .., hle.trans (hpast s₀ hs₀)⟩
  · intro u hu
    exact (h.askedKept.level_spend_le hn hpast hu).trans (h.level u (ht.trans hu))

/-- A request that both pay for. -/
theorem Covers.spend (h : Covers key asked spared t) (ht : t ≤ now)
    (hn : cost n ≤ asked.level key now) :
    Covers key (asked.spend key now n) (spared.spend key now n) now := by
  have hspared : cost n ≤ spared.level key now := hn.trans (h.level now ht)
  refine ⟨h.cfg, h.askedKept.spend hn, h.sparedKept.spend hspared,
    past_spend asked key now n, ?_, ?_⟩
  · intro s hs
    rw [get_spend] at hs
    obtain rfl := Option.some.inj hs
    exact ⟨_, get_spend .., le_refl now⟩
  · intro u hu
    rw [h.askedKept.level_spend hn, h.sparedKept.level_spend hspared, h.cfg]
    apply min_le_min_right
    have hle := h.level now ht
    linarith only [hle]

/-- A purge: what it takes from `spared` comes back as a full burst. -/
theorem Covers.prune (h : Covers key asked spared t) (ht : t ≤ now) :
    Covers key (asked.prune now) (spared.prune now) now := by
  have hseen : ∀ s, (spared.prune now).sessions.get key = some s →
      ∃ s₀, (asked.prune now).sessions.get key = some s₀ ∧ s.lastSeen ≤ s₀.lastSeen := by
    intro s hs
    rw [get_sessions_prune, Option.filter_eq_some_iff] at hs
    obtain ⟨hs, hfresh⟩ := hs
    obtain ⟨s₀, hs₀, hle⟩ := h.seen s hs
    refine ⟨s₀, ?_, hle⟩
    rw [get_sessions_prune, Option.filter_eq_some_iff]
    refine ⟨hs₀, ?_⟩
    rw [decide_eq_true_eq, h.cfg] at *
    omega
  refine ⟨h.cfg, h.askedKept.prune now, h.sparedKept.prune now, ?_, hseen, ?_⟩
  · exact fun s hs => (h.past s (get_prune hs)).trans ht
  · intro u hu
    cases hpruned : (spared.prune now).sessions.get key with
    | none =>
      have hfull : (spared.prune now).level key u = spared.cfg.sessionBurst := by
        unfold RateLimiter.level
        rw [hpruned]
        rfl
      rw [hfull, h.cfg]
      exact (h.askedKept.prune now).level_le key u
    | some s =>
      -- Neither of the two is purged.
      obtain ⟨s₀, hs₀, -⟩ := hseen s hpruned
      rw [level_of_get hpruned, level_of_get hs₀, ← level_of_get (get_prune hpruned),
        ← level_of_get (get_prune hs₀)]
      exact h.level u (ht.trans hu)

/-- On a clock that never goes back, what is granted is granted when less is asked. -/
theorem grants_of_thinned {asks asks' : List Ask} (hthin : Thinned asks asks') :
    ∀ {asked spared : RateLimiter} {t : Nat}, Covers key asked spared t →
      (∀ a ∈ asks, t ≤ a.now) → asks.Pairwise (fun a b => a.now ≤ b.now) →
      Grants key asked asks → Grants key spared asks' := by
  -- By induction on what is left out: the spared bucket never holds less.
  induction hthin with
  | nil => exact fun _ _ _ _ => trivial
  | keep a _ ih =>
    intro asked spared t h hfrom hordered hgrants
    obtain ⟨ht, -⟩ := List.forall_mem_cons.mp hfrom
    obtain ⟨hlater, htail⟩ := List.pairwise_cons.mp hordered
    cases a with
    | take now n =>
      have hlevel := hgrants.1
      rw [available_sessionState] at hlevel
      exact ⟨h.granted ht hgrants.1, ih (h.spend ht hlevel) hlater htail hgrants.2⟩
    | prune now => exact ih (h.prune ht) hlater htail hgrants
  | leaveOut now n _ ih =>
    intro asked spared t h hfrom hordered hgrants
    obtain ⟨ht, -⟩ := List.forall_mem_cons.mp hfrom
    obtain ⟨hlater, htail⟩ := List.pairwise_cons.mp hordered
    have hlevel := hgrants.1
    rw [available_sessionState] at hlevel
    exact ih (h.leaveOut ht hlevel) hlater htail hgrants.2

end Covers

end RateLimiter

end Datacat.Security
