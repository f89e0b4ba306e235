import Datacat.Security.GlobalBound
import Datacat.Security.IpCap
import Datacat.Security.OwnBucket

/-!
# Requests Denied by the Later Parts

A request that the address part or the global net denies has already paid its session's bucket,
and its session and its address may be tracked from then on. Two runs are compared: the run as it
was, and the run without these requests, started from the same limiter.

What they leave in the maps only concerns their own sessions and addresses (`Twin`), with two
exceptions. A map that they filled has no place for the session of someone else; and a session that
paid for them may be stopped by its own bucket, where without them it would have gone on to the
net. `denied_inert` says that nothing else is seen by the others.
-/

namespace Datacat.Security

open Basics

namespace Bucket

/-- Asking a bucket in between does not change what it holds later. -/
theorem available_available {b : Bucket} {now u : Nat} (htokens : b.tokens ≤ b.burst)
    (hlast : b.last ≤ now) (hu : now ≤ u) :
    Bucket.available { b with tokens := b.available now, last := now } u = b.available u := by
  have helapsed : secs (u - b.last) = secs (now - b.last) + secs (u - now) := by
    rw [← secs_add]
    exact congrArg secs (by omega)
  have hbefore := secs_nonneg (now - b.last)
  have hafter := secs_nonneg (u - now)
  unfold available
  dsimp only
  rw [helapsed, add_mul]
  rcases le_total 0 b.rate with hrate | hrate
  · -- What comes in is only ever cut at the burst.
    have hin : 0 ≤ secs (u - now) * b.rate := mul_nonneg hafter hrate
    rcases le_total (b.tokens + secs (now - b.last) * b.rate) b.burst with hroom | hfull
    · rw [min_eq_left hroom, add_assoc]
    · rw [min_eq_right hfull, min_eq_right (by linarith), min_eq_right (by linarith)]
  · -- With a negative rate the level only falls, and never reaches the burst.
    have hdown : secs (now - b.last) * b.rate ≤ 0 := mul_nonpos_of_nonneg_of_nonpos hbefore hrate
    rw [min_eq_left (show b.tokens + secs (now - b.last) * b.rate ≤ b.burst by linarith),
      add_assoc]

end Bucket

namespace RateLimiter

/-! ## The session part -/

/-- What a call does to the sessions. -/
inductive SessionOutcome (l : RateLimiter) (now : Nat) (sessionId : String) (n : UInt32) :
    Decision → BTreeMap String SessionState → Prop where
  | full : ¬ l.Admits sessionId →
      SessionOutcome l now sessionId n (deny .session 1) l.sessions
  | refused : l.Admits sessionId → l.level sessionId now < cost n →
      SessionOutcome l now sessionId n
        (deny .session ((l.sessionState now sessionId).bucket.wait
          (cost n - l.level sessionId now)))
        (l.spend sessionId now n).sessions
  | granted (d : Decision) : d.passesSession = true → l.Admits sessionId →
      cost n ≤ l.level sessionId now →
      SessionOutcome l now sessionId n d (l.spend sessionId now n).sessions

section Calls

variable {l l' : RateLimiter} {now : Nat} {ip : IpAddr} {sessionId : String} {n : UInt32}
  {d : Decision}

theorem Checked.sessionOutcome (h : Checked l now ip sessionId n d l') :
    SessionOutcome l now sessionId n d l'.sessions := by
  have hpasses := h.passesSession_iff
  rw [h.frame.2]
  by_cases hroom : l.Admits sessionId
  · rcases le_or_gt (cost n) (l.level sessionId now) with hn | hn
    · -- The bucket holds enough, and only the parts behind it may still deny.
      have hgranted := sessionStep_granted (n := cost n) hroom
        (by rwa [available_sessionState] : _ ≤ (l.sessionState now sessionId).bucket.available now)
      rw [hgranted] at hpasses ⊢
      exact .granted d (hpasses.mpr rfl) hroom hn
    · -- The bucket refuses, and the call ends there.
      have hrefused := sessionStep_refused (n := cost n) hroom
        (by rwa [available_sessionState] : (l.sessionState now sessionId).bucket.available now < _)
      cases h with
      | session h₁ =>
        rw [hrefused] at h₁ ⊢
        rw [← Option.some.inj (Prod.mk.inj h₁).1, available_sessionState]
        exact .refused hroom hn
      | ipSessions h₁ _ | global h₁ _ _ | allow h₁ _ _ =>
        rw [hrefused] at h₁
        cases h₁
  · -- No place in the table, and the state is the one of before.
    have hfull : l.sessionStep now sessionId (cost n) = (some (deny .session 1), l) :=
      sessionStep_full hroom
    cases h with
    | session h₁ =>
      rw [hfull] at h₁ ⊢
      rw [← Option.some.inj (Prod.mk.inj h₁).1]
      exact .full hroom
    | ipSessions h₁ _ | global h₁ _ _ | allow h₁ _ _ =>
      rw [hfull] at h₁
      cases h₁

/-- A call that passes the address part comes from no address, or is recorded in its window. -/
theorem Checked.ips_of_passesIp (h : Checked l now ip sessionId n d l') (hd : d.passesIp = true) :
    (ip.isUnspecified = true ∧ l'.ips = l.ips) ∨
      (ip.isUnspecified = false ∧ l.AdmitsIp ip ∧
        (l.ipWindow now ip).Seats sessionId now l.cfg.ipSessionCap l.cfg.ipSessionWindow ∧
        l'.ips = l.ips.insert ip
          ⟨((l.ipWindow now ip).live now l.cfg.ipSessionWindow).insert sessionId now, now⟩) := by
  have hout := h.ipOutcome
  generalize l'.ips = ips at hout
  cases hout with
  | sessionDenied _ => cases hd
  | unspecified _ hip _ => exact .inl ⟨hip, rfl⟩
  | full _ _ _ => cases hd
  | refused _ _ _ => cases hd
  | passed _ hip _ hroom hseat => exact .inr ⟨hip, hroom, hseat, rfl⟩

/-- An allowed call found room everywhere, and its bucket granted it. -/
theorem Checked.room_of_allow (h : Checked l now ip sessionId n .allow l') :
    l.Room now ip sessionId n ∧ cost n ≤ l.level sessionId now := by
  have hsession : l.Admits sessionId ∧ cost n ≤ l.level sessionId now := by
    have hout := h.sessionOutcome
    generalize l'.sessions = sessions at hout
    generalize hd : Decision.allow = d at hout
    cases hout with
    | full _ => cases hd
    | refused _ _ => cases hd
    | granted _ _ hroom hn => exact ⟨hroom, hn⟩
  refine ⟨⟨hsession.1, fun hip => ?_, ?_⟩, hsession.2⟩
  · rcases h.ips_of_passesIp rfl with ⟨hunspecified, -⟩ | ⟨-, hroom, hseat, -⟩
    · rw [hip] at hunspecified
      cases hunspecified
    · exact ⟨hroom, hseat⟩
  · rcases h.globalBucket_eq with ⟨hpasses, -⟩ | ⟨-, hn, -⟩ | ⟨⟨wait, hd⟩, -⟩
    · cases hpasses
    · exact hn
    · cases hd

/-- A call that the session part denies changes no window and takes nothing from the net. -/
theorem Checked.frame_of_sessionDenied (h : Checked l now ip sessionId n d l')
    (hd : d.passesSession = false) : l'.ips = l.ips ∧ l'.globalBucket = l.globalBucket := by
  constructor
  · have hout := h.ipOutcome
    generalize l'.ips = ips at hout
    cases hout with
    | sessionDenied _ | full _ _ _ => rfl
    | unspecified _ _ _ => rfl
    | refused _ _ _ => cases hd
    | passed _ _ hpasses _ _ =>
      -- What passes the address part has passed the session part.
      rcases d with _ | ⟨scope, _⟩
      · cases hd
      · cases scope with
        | session => exact absurd hpasses Bool.false_ne_true
        | ipSessions | global => cases hd
  · rcases h.globalBucket_eq with ⟨-, heq⟩ | ⟨rfl, -⟩ | ⟨⟨wait, rfl⟩, -⟩
    · exact heq
    · cases hd
    · cases hd

end Calls

/-! ## Sessions -/

section Levels

variable {l : RateLimiter} {key : String} {now u : Nat} {n : UInt32}

/-- The level after a request that is refused. -/
theorem SessionsKept.level_refuse (hkept : l.SessionsKept) (hn : l.level key now < cost n) :
    (l.spend key now n).level key u =
      min (l.level key now + secs (u - now) * l.cfg.sessionPerSec) l.cfg.sessionBurst := by
  obtain ⟨hrate, hburst⟩ := hkept.sessionState key now
  rw [← available_sessionState l] at hn ⊢
  unfold RateLimiter.spend
  rw [level_setSession, Bucket.tryTake_error hn, ← hrate, ← hburst]
  rfl

theorem SessionsKept.refuse (hkept : l.SessionsKept) (hn : l.level key now < cost n) :
    (l.spend key now n).SessionsKept := by
  obtain ⟨hrate, hburst⟩ := hkept.sessionState key now
  rw [← available_sessionState l] at hn
  intro k s hs
  unfold RateLimiter.spend setSession at hs
  dsimp only at hs
  rw [BTreeMap.get_insert] at hs
  split at hs
  · obtain rfl := Option.some.inj hs
    rw [Bucket.tryTake_error hn]
    exact ⟨hrate, hburst, rfl⟩
  · exact hkept k s hs

end Levels

section Covers

variable {key : String} {asked asked' spared spared' : RateLimiter} {t now : Nat} {n : UInt32}

/-- A request that both buckets refuse. -/
theorem Covers.refuse (h : Covers key asked spared t) (ht : t ≤ now)
    (hasked : asked.level key now < cost n) (hspared : spared.level key now < cost n) :
    Covers key (asked.spend key now n) (spared.spend key now n) now := by
  refine ⟨h.cfg, h.askedKept.refuse hasked, h.sparedKept.refuse hspared,
    past_spend asked key now n, ?_, ?_⟩
  · intro s hs
    rw [get_spend] at hs
    obtain rfl := Option.some.inj hs
    exact ⟨_, get_spend .., le_refl now⟩
  · intro u hu
    rw [h.askedKept.level_refuse hasked, h.sparedKept.level_refuse hspared, h.cfg]
    apply min_le_min_right
    have hle := h.level now ht
    linarith only [hle]

/-- Only the entry of the session counts. -/
theorem Covers.congr (h : Covers key asked spared t) (ht : t ≤ now)
    (hasked : asked'.SessionsKept) (hspared : spared'.SessionsKept)
    (hcfg : asked'.cfg = asked.cfg) (hcfg' : spared'.cfg = spared.cfg)
    (hget : asked'.sessions.get key = asked.sessions.get key)
    (hget' : spared'.sessions.get key = spared.sessions.get key) :
    Covers key asked' spared' now where
  cfg := by rw [hcfg, hcfg', h.cfg]
  askedKept := hasked
  sparedKept := hspared
  past := by
    rw [hget]
    exact fun s hs => (h.past s hs).trans ht
  seen := by
    rw [hget, hget']
    exact h.seen
  level := by
    intro u hu
    rw [level_congr hcfg hget, level_congr hcfg' hget']
    exact h.level u (ht.trans hu)

end Covers

/-- The sessions of the run `l` and of the run `l'` without its denied requests, from an instant
on: outside the sessions that had such a request they are the same. -/
structure SessionsTwin (touched : Set String) (l l' : RateLimiter) (t : Nat) : Prop where
  covers : ∀ key, Covers key l l' t
  same : ∀ key, key ∉ touched → l'.sessions.get key = l.sessions.get key
  room : l.sessions.len ≤ l.cfg.maxTrackedSessions

section Sessions

variable {touched : Set String} {l l' l₁ l₁' : RateLimiter} {t now : Nat} {ip ip' : IpAddr}
  {sessionId : String} {n : UInt32} {d d' : Decision}

theorem SessionsTwin.contains (h : SessionsTwin touched l l' t) (key : String)
    (hkey : l'.sessions.contains key = true) : l.sessions.contains key = true := by
  obtain ⟨s, hs⟩ := Option.isSome_iff_exists.mp hkey
  obtain ⟨s₀, hs₀, -⟩ := (h.covers key).seen s hs
  exact Option.isSome_iff_exists.mpr ⟨s₀, hs₀⟩

/-- Who has a place has one without the denied requests. -/
theorem SessionsTwin.admits (h : SessionsTwin touched l l' t) {key : String}
    (hroom : l.Admits key) : l'.Admits key := by
  unfold Admits at hroom ⊢
  rw [(h.covers key).cfg]
  cases hkey : l'.sessions.contains key with
  | true => exact .inl rfl
  | false =>
    refine .inr ?_
    rcases hroom with hknown | hfree
    · exact lt_of_lt_of_le (BTreeMap.len_lt_of_contains h.contains hknown hkey) h.room
    · exact lt_of_le_of_lt (BTreeMap.len_le_of_contains h.contains) hfree

theorem SessionsTwin.sessionState (h : SessionsTwin touched l l' t) {key : String}
    (hkey : key ∉ touched) (now : Nat) : l'.sessionState now key = l.sessionState now key := by
  unfold RateLimiter.sessionState
  rw [h.same key hkey, (h.covers key).cfg]

theorem SessionsTwin.level_eq (h : SessionsTwin touched l l' t) {key : String}
    (hkey : key ∉ touched) (now : Nat) : l'.level key now = l.level key now :=
  level_congr (h.covers key).cfg (h.same key hkey)

/-- A session that has a place leaves room for the others. -/
theorem Checked.sessions_len (h : Checked l now ip sessionId n d l₁)
    (hlen : l.sessions.len ≤ l.cfg.maxTrackedSessions) :
    l₁.sessions.len ≤ l₁.cfg.maxTrackedSessions := by
  have hspend (hroom : l.Admits sessionId) :
      (l.spend sessionId now n).sessions.len ≤ l.cfg.maxTrackedSessions := by
    unfold RateLimiter.spend setSession
    dsimp only
    rw [BTreeMap.len_insert]
    split
    · exact hlen
    · rename_i hnew
      rcases hroom with hknown | hfree
      · exact absurd hknown hnew
      · exact hfree
  rw [h.frame.1]
  have hout := h.sessionOutcome
  generalize l₁.sessions = sessions at hout ⊢
  cases hout with
  | full _ => exact hlen
  | refused hroom _ => exact hspend hroom
  | granted _ _ hroom _ => exact hspend hroom

/-- A request that both runs get, when both do the same to the session. -/
theorem SessionsTwin.both (h : SessionsTwin touched l l' t) (ht : t ≤ now)
    (hl : Checked l now ip sessionId n d l₁) (hl' : Checked l' now ip' sessionId n d' l₁')
    (hcovers : Covers sessionId l₁ l₁' now)
    (hsame : sessionId ∉ touched →
      l₁'.sessions.get sessionId = l₁.sessions.get sessionId) :
    SessionsTwin touched l₁ l₁' now where
  covers := by
    intro key
    by_cases hkey : key = sessionId
    · rw [hkey]
      exact hcovers
    · -- Another session: the call leaves its bucket as it is in both runs.
      have hold := h.covers key
      exact hold.congr ht (hold.askedKept.check hl) (hold.sparedKept.check hl') hl.frame.1
        hl'.frame.1 (hl.get_of_ne hkey) (hl'.get_of_ne hkey)
  same := by
    intro key htouched
    by_cases hkey : key = sessionId
    · rw [hkey] at htouched ⊢
      exact hsame htouched
    · rw [hl.get_of_ne hkey, hl'.get_of_ne hkey]
      exact h.same key htouched
  room := hl.sessions_len h.room

/-- A request that only the first run gets, of a session that is touched. -/
theorem SessionsTwin.left (h : SessionsTwin touched l l' t) (ht : t ≤ now)
    (hl : Checked l now ip sessionId n d l₁) (hd : d.passesSession = true)
    (htouched : sessionId ∈ touched) : SessionsTwin touched l₁ l' now where
  covers := by
    intro key
    have hold := h.covers key
    by_cases hkey : key = sessionId
    · subst hkey
      -- The first run spends more, so its bucket still holds no more than the other.
      have hout := hl.sessionOutcome
      generalize hsessions : l₁.sessions = sessions at hout
      cases hout with
      | full _ | refused _ _ => cases hd
      | granted _ _ _ hn =>
        refine (hold.leaveOut ht hn).congr le_rfl (hold.askedKept.check hl) hold.sparedKept
          hl.frame.1 rfl ?_ rfl
        rw [hsessions]
    · exact hold.congr ht (hold.askedKept.check hl) hold.sparedKept hl.frame.1 rfl
        (hl.get_of_ne hkey) rfl
  same := by
    intro key hkey
    have hne : key ≠ sessionId := by
      rintro rfl
      exact hkey htouched
    rw [hl.get_of_ne hne]
    exact h.same key hkey
  room := hl.sessions_len h.room

theorem SessionsTwin.prune (h : SessionsTwin touched l l' t) (ht : t ≤ now) :
    SessionsTwin touched (l.prune now) (l'.prune now) now where
  covers := fun key => (h.covers key).prune ht
  same := by
    intro key hkey
    rw [get_sessions_prune, get_sessions_prune, h.same key hkey, (h.covers key).cfg]
  room := (BTreeMap.len_retain_le _ _).trans h.room

end Sessions

/-! ## Windows -/

/-- The sessions of a window that still count at `t` are in the other, and were not seen later. -/
def IpWindowWithin (w' w : IpWindow) (window t : Nat) : Prop :=
  ∀ s seen', w'.sessions.get s = some seen' → t - seen' < window →
    ∃ seen, w.sessions.get s = some seen ∧ seen' ≤ seen

section Within

variable {w w' : IpWindow} {window t now : Nat}

theorem IpWindowWithin.live (h : IpWindowWithin w' w window t) (ht : t ≤ now) (s : String)
    (seen' : Nat) (hs : (w'.live now window).get s = some seen') :
    ∃ seen, (w.live now window).get s = some seen ∧ seen' ≤ seen := by
  obtain ⟨hget, hin⟩ := (BTreeMap.get_retain_eq_some_iff _ _ _ _).mp hs
  rw [decide_eq_true_eq] at hin
  obtain ⟨seen, hseen, hle⟩ := h s seen' hget (by omega)
  refine ⟨seen, (BTreeMap.get_retain_eq_some_iff _ _ _ _).mpr ⟨hseen, ?_⟩, hle⟩
  rw [decide_eq_true_eq]
  omega

theorem IpWindowWithin.contains (h : IpWindowWithin w' w window t) (ht : t ≤ now) (s : String)
    (hs : (w'.live now window).contains s = true) : (w.live now window).contains s = true := by
  obtain ⟨seen', hseen'⟩ := Option.isSome_iff_exists.mp hs
  obtain ⟨seen, hseen, -⟩ := h.live ht s seen' hseen'
  exact Option.isSome_iff_exists.mpr ⟨seen, hseen⟩

theorem IpWindowWithin.seats (h : IpWindowWithin w' w window t) (ht : t ≤ now) {s : String}
    {cap : Nat} (hlen : (w.live now window).len ≤ cap) (hseat : w.Seats s now cap window) :
    w'.Seats s now cap window := by
  unfold IpWindow.Seats at hseat ⊢
  cases hs : (w'.live now window).contains s with
  | true => exact .inl rfl
  | false =>
    refine .inr ?_
    rcases hseat with hknown | hfree
    · exact lt_of_lt_of_le (BTreeMap.len_lt_of_contains (h.contains ht) hknown hs) hlen
    · exact lt_of_le_of_lt (BTreeMap.len_le_of_contains (h.contains ht)) hfree

/-- What is left of the larger window at an instant is enough from then on. -/
theorem IpWindowWithin.live_right (h : IpWindowWithin w' w window t) (ht : t ≤ now)
    (lastSeen : Nat) : IpWindowWithin w' ⟨w.live now window, lastSeen⟩ window now := by
  intro s seen' hget hin
  have hs : (w'.live now window).get s = some seen' :=
    (BTreeMap.get_retain_eq_some_iff _ _ _ _).mpr ⟨hget, decide_eq_true hin⟩
  exact h.live ht s seen' hs

theorem IpWindowWithin.live_left (h : IpWindowWithin w' w window t) (ht : t ≤ now)
    (lastSeen : Nat) : IpWindowWithin ⟨w'.live now window, lastSeen⟩ w window now := by
  intro s seen' hget hin
  obtain ⟨hget', -⟩ := (BTreeMap.get_retain_eq_some_iff _ _ _ _).mp hget
  exact h s seen' hget' (by omega)

/-- A session recorded in both. -/
theorem IpWindowWithin.insert (h : IpWindowWithin w' w window t) (ht : t ≤ now) (s : String) :
    IpWindowWithin ⟨(w'.live now window).insert s now, now⟩
      ⟨(w.live now window).insert s now, now⟩ window now := by
  intro s' seen' hget hin
  dsimp only at hget ⊢
  rw [BTreeMap.get_insert] at hget ⊢
  split_ifs at hget ⊢ with hs
  · obtain rfl := Option.some.inj hget
    exact ⟨now, rfl, le_refl now⟩
  · exact h.live ht s' seen' hget

end Within

/-- No session of a window was seen later. -/
def SeenBy (l : RateLimiter) (t : Nat) : Prop :=
  ∀ ip w, l.ips.get ip = some w → ∀ s seen, w.sessions.get s = some seen → seen ≤ t

/-- The windows of the two runs: outside the addresses that had a denied request they are the
same. -/
structure WindowsTwin (touched : Set IpAddr) (l l' : RateLimiter) (t : Nat) : Prop where
  cfg : l'.cfg = l.cfg
  same : ∀ ip, ip ∉ touched → l'.ips.get ip = l.ips.get ip
  within : ∀ ip w', l'.ips.get ip = some w' →
    ∃ w, l.ips.get ip = some w ∧ IpWindowWithin w' w l.cfg.ipSessionWindow t
  seenBy : l.SeenBy t
  capped : l.WindowsCapped
  room : l.ips.len ≤ l.cfg.maxTrackedIps

section Windows

variable {touched : Set IpAddr} {l l' l₁ l₁' : RateLimiter} {t now : Nat} {ip : IpAddr}
  {sessionId : String} {n : UInt32} {d d' : Decision}

theorem WindowsTwin.contains (h : WindowsTwin touched l l' t) (ip : IpAddr)
    (hip : l'.ips.contains ip = true) : l.ips.contains ip = true := by
  obtain ⟨w', hw'⟩ := Option.isSome_iff_exists.mp hip
  obtain ⟨w, hw, -⟩ := h.within ip w' hw'
  exact Option.isSome_iff_exists.mpr ⟨w, hw⟩

theorem WindowsTwin.admitsIp (h : WindowsTwin touched l l' t) (hroom : l.AdmitsIp ip) :
    l'.AdmitsIp ip := by
  unfold AdmitsIp at hroom ⊢
  rw [h.cfg]
  cases hip : l'.ips.contains ip with
  | true => exact .inl rfl
  | false =>
    refine .inr ?_
    rcases hroom with hknown | hfree
    · exact lt_of_lt_of_le (BTreeMap.len_lt_of_contains h.contains hknown hip) h.room
    · exact lt_of_le_of_lt (BTreeMap.len_le_of_contains h.contains) hfree

theorem WindowsTwin.ipWindow (h : WindowsTwin touched l l' t) (now : Nat) (ip : IpAddr) :
    IpWindowWithin (l'.ipWindow now ip) (l.ipWindow now ip) l.cfg.ipSessionWindow t := by
  unfold RateLimiter.ipWindow
  cases hget : l'.ips.get ip with
  | none =>
    intro s seen' hs
    cases hs
  | some w' =>
    obtain ⟨w, hw, hwithin⟩ := h.within ip w' hget
    rw [hw]
    exact hwithin

theorem WindowsTwin.seats (h : WindowsTwin touched l l' t) (ht : t ≤ now)
    (hseat : (l.ipWindow now ip).Seats sessionId now l.cfg.ipSessionCap l.cfg.ipSessionWindow) :
    (l'.ipWindow now ip).Seats sessionId now l'.cfg.ipSessionCap l'.cfg.ipSessionWindow := by
  rw [h.cfg]
  exact (h.ipWindow now ip).seats ht (h.capped.live now ip) hseat

theorem Checked.ips_len (h : Checked l now ip sessionId n d l₁)
    (hlen : l.ips.len ≤ l.cfg.maxTrackedIps) : l₁.ips.len ≤ l₁.cfg.maxTrackedIps := by
  have hinsert (hroom : l.AdmitsIp ip) (w : IpWindow) :
      (l.ips.insert ip w).len ≤ l.cfg.maxTrackedIps := by
    rw [BTreeMap.len_insert]
    split
    · exact hlen
    · rename_i hnew
      rcases hroom with hknown | hfree
      · exact absurd hknown hnew
      · exact hfree
  rw [h.frame.1]
  have hout := h.ipOutcome
  generalize l₁.ips = ips at hout ⊢
  cases hout with
  | sessionDenied _ => exact hlen
  | unspecified _ _ _ => exact hlen
  | full _ _ _ => exact hlen
  | refused _ hroom _ => exact hinsert hroom _
  | passed _ _ _ hroom _ => exact hinsert hroom _

theorem Checked.seenBy (h : Checked l now ip sessionId n d l₁) (hseen : l.SeenBy t)
    (ht : t ≤ now) : l₁.SeenBy now := by
  -- What is left of the window was seen before.
  have hlive (s : String) (seen : Nat)
      (hs : ((l.ipWindow now ip).live now l.cfg.ipSessionWindow).get s = some seen) :
      seen ≤ now := by
    obtain ⟨hget, -⟩ := (BTreeMap.get_retain_eq_some_iff _ _ _ _).mp hs
    unfold RateLimiter.ipWindow at hget
    cases hw : l.ips.get ip with
    | none =>
      rw [hw] at hget
      cases hget
    | some w =>
      rw [hw] at hget
      exact (hseen ip w hw s seen hget).trans ht
  have hinsert (w : IpWindow) (hw : ∀ s seen, w.sessions.get s = some seen → seen ≤ now)
      (hips : l₁.ips = l.ips.insert ip w) : l₁.SeenBy now := by
    intro k v hv s seen hs
    rw [hips, BTreeMap.get_insert] at hv
    split_ifs at hv
    · obtain rfl := Option.some.inj hv
      exact hw s seen hs
    · exact (hseen k v hv s seen hs).trans ht
  have hsame (hips : l₁.ips = l.ips) : l₁.SeenBy now := by
    intro k v hv s seen hs
    rw [hips] at hv
    exact (hseen k v hv s seen hs).trans ht
  -- Only a call that passes records an instant, its own.
  have hout := h.ipOutcome
  generalize hips : l₁.ips = ips at hout
  cases hout with
  | sessionDenied _ => exact hsame hips
  | unspecified _ _ _ => exact hsame hips
  | full _ _ _ => exact hsame hips
  | refused _ _ _ => exact hinsert _ hlive hips
  | passed _ _ _ _ _ =>
    refine hinsert _ (fun s seen hs => ?_) hips
    dsimp only at hs
    rw [BTreeMap.get_insert] at hs
    split_ifs at hs
    · rw [← Option.some.inj hs]
    · exact hlive s seen hs

/-- Nothing happens to the windows. -/
theorem WindowsTwin.still (h : WindowsTwin touched l l' t) (ht : t ≤ now)
    (hl : Checked l now ip sessionId n d l₁) (hcfg : l₁'.cfg = l'.cfg) (hips : l₁.ips = l.ips)
    (hips' : l₁'.ips = l'.ips) : WindowsTwin touched l₁ l₁' now where
  cfg := by rw [hcfg, hl.frame.1, h.cfg]
  same := by
    rw [hips, hips']
    exact h.same
  within := by
    rw [hips, hips', hl.frame.1]
    intro k w' hw'
    obtain ⟨w, hw, hwithin⟩ := h.within k w' hw'
    exact ⟨w, hw, fun s seen' hs hin => hwithin s seen' hs (by omega)⟩
  seenBy := hl.seenBy h.seenBy ht
  capped := h.capped.check hl
  room := hl.ips_len h.room

/-- A request that both runs allow. -/
theorem WindowsTwin.both (h : WindowsTwin touched l l' t) (ht : t ≤ now)
    (hl : Checked l now ip sessionId n .allow l₁) (hl' : Checked l' now ip sessionId n .allow l₁') :
    WindowsTwin touched l₁ l₁' now := by
  rcases hl.ips_of_passesIp rfl with ⟨hip, hips⟩ | ⟨hip, -, -, hips⟩
  · rcases hl'.ips_of_passesIp rfl with ⟨-, hips'⟩ | ⟨hip', -⟩
    · exact h.still ht hl hl'.frame.1 hips hips'
    · rw [hip] at hip'
      cases hip'
  · rcases hl'.ips_of_passesIp rfl with ⟨hip', -⟩ | ⟨-, -, -, hips'⟩
    · rw [hip] at hip'
      cases hip'
    · refine ⟨by rw [hl'.frame.1, hl.frame.1, h.cfg], ?_, ?_,
        hl.seenBy h.seenBy ht, h.capped.check hl, hl.ips_len h.room⟩
      · intro k hk
        rw [hips, hips', BTreeMap.get_insert, BTreeMap.get_insert, h.cfg]
        split_ifs with heq
        · -- The windows of this address were the same.
          subst heq
          have hwindow : l'.ipWindow now k = l.ipWindow now k := by
            unfold RateLimiter.ipWindow
            rw [h.same k hk]
          rw [hwindow]
        · exact h.same k hk
      · intro k w' hw'
        rw [hips', BTreeMap.get_insert, h.cfg] at hw'
        rw [hips, BTreeMap.get_insert, hl.frame.1]
        split_ifs at hw' ⊢ with heq
        · -- Both record the session in the window of this address.
          obtain rfl := Option.some.inj hw'
          subst heq
          exact ⟨_, rfl, (h.ipWindow now k).insert ht sessionId⟩
        · obtain ⟨w, hw, hwithin⟩ := h.within k w' hw'
          exact ⟨w, hw, fun s seen' hs hin => hwithin s seen' hs (by omega)⟩

/-- A request that only the first run gets, from an address that is touched. -/
theorem WindowsTwin.left (h : WindowsTwin touched l l' t) (ht : t ≤ now)
    (hl : Checked l now ip sessionId n d l₁) (htouched : ip ∈ touched) :
    WindowsTwin touched l₁ l' now := by
  -- The window of the address gets at least what is left of it.
  have hinsert (w : IpWindow) (hips : l₁.ips = l.ips.insert ip w)
      (hw : ∀ w', l'.ips.get ip = some w' → IpWindowWithin w' w l.cfg.ipSessionWindow now) :
      WindowsTwin touched l₁ l' now := by
    refine ⟨by rw [hl.frame.1, h.cfg], ?_, ?_, hl.seenBy h.seenBy ht, h.capped.check hl,
      hl.ips_len h.room⟩
    · intro k hk
      have hne : k ≠ ip := by
        rintro rfl
        exact hk htouched
      rw [hips, BTreeMap.get_insert, if_neg hne]
      exact h.same k hk
    · intro k w' hw'
      rw [hips, BTreeMap.get_insert, hl.frame.1]
      split_ifs with heq
      · subst heq
        exact ⟨w, rfl, hw w' hw'⟩
      · obtain ⟨v, hv, hwithin⟩ := h.within k w' hw'
        exact ⟨v, hv, fun s seen' hs hin => hwithin s seen' hs (by omega)⟩
  have hwindow (w' : IpWindow) (hw' : l'.ips.get ip = some w') :
      IpWindowWithin w' (l.ipWindow now ip) l.cfg.ipSessionWindow t := by
    have hold := h.ipWindow now ip
    unfold RateLimiter.ipWindow at hold ⊢
    rw [hw'] at hold
    exact hold
  have hout := hl.ipOutcome
  generalize hips : l₁.ips = ips at hout
  cases hout with
  | sessionDenied _ => exact h.still ht hl rfl hips rfl
  | unspecified _ _ _ => exact h.still ht hl rfl hips rfl
  | full _ _ _ => exact h.still ht hl rfl hips rfl
  | refused _ _ _ => exact hinsert _ hips fun w' hw' => (hwindow w' hw').live_right ht now
  | passed _ _ _ _ _ =>
    refine hinsert _ hips fun w' hw' s seen' hs hin => ?_
    obtain ⟨seen, hseen, hle⟩ := (hwindow w' hw').live_right ht now s seen' hs hin
    dsimp only at hseen ⊢
    rw [BTreeMap.get_insert]
    split_ifs with heq
    · -- Recorded now, so later than in the other run.
      obtain ⟨w, hw, hwithin⟩ := h.within ip w' hw'
      obtain ⟨seen₀, hseen₀, hle₀⟩ := hwithin s seen' hs (by omega)
      exact ⟨now, rfl, hle₀.trans ((h.seenBy ip w hw s seen₀ hseen₀).trans ht)⟩
    · exact ⟨seen, hseen, hle⟩

theorem get_ips_prune (l : RateLimiter) (ip : IpAddr) (now : Nat) :
    (l.prune now).ips.get ip =
      (l.ips.get ip).bind (pruneWindow l.cfg.ipSessionWindow now) :=
  BTreeMap.get_filterMap ..

theorem pruneWindow_eq_some {w v : IpWindow} {window : Nat}
    (h : pruneWindow window now w = some v) :
    v = ⟨w.live now window, w.lastSeen⟩ ∧ ∃ s, (w.live now window).contains s = true := by
  unfold pruneWindow at h
  dsimp only at h
  split at h
  · cases h
  · rename_i hsome
    refine ⟨(Option.some.inj h).symm, ?_⟩
    cases hentries : (w.live now window).entries with
    | nil =>
      rw [hentries] at hsome
      exact absurd rfl hsome
    | cons e rest =>
      refine ⟨e.1, Option.isSome_iff_exists.mpr ⟨e.2, ?_⟩⟩
      rw [BTreeMap.get_eq_some_iff, hentries]
      exact List.mem_cons_self ..

theorem WindowsTwin.prune (h : WindowsTwin touched l l' t) (ht : t ≤ now) :
    WindowsTwin touched (l.prune now) (l'.prune now) now where
  cfg := h.cfg
  same := by
    intro k hk
    rw [get_ips_prune, get_ips_prune, h.same k hk, h.cfg]
  within := by
    intro k v' hv'
    rw [get_ips_prune, Option.bind_eq_some_iff, h.cfg] at hv'
    obtain ⟨w', hw', hpruned⟩ := hv'
    obtain ⟨rfl, s, hs⟩ := pruneWindow_eq_some hpruned
    obtain ⟨w, hw, hwithin⟩ := h.within k w' hw'
    -- A session that keeps one window keeps the other.
    have hkeeps := hwithin.contains ht s hs
    refine ⟨⟨w.live now l.cfg.ipSessionWindow, w.lastSeen⟩, ?_, ?_⟩
    · rw [get_ips_prune, hw]
      show pruneWindow _ now w = _
      unfold pruneWindow
      dsimp only
      rw [if_neg]
      intro hempty
      obtain ⟨seen, hseen⟩ := Option.isSome_iff_exists.mp hkeeps
      rw [BTreeMap.get_eq_some_iff, List.isEmpty_iff.mp hempty] at hseen
      cases hseen
    · exact (hwithin.live_right ht w.lastSeen).live_left le_rfl w'.lastSeen
  seenBy := by
    intro k v hv s seen hs
    rw [get_ips_prune, Option.bind_eq_some_iff] at hv
    obtain ⟨w, hw, hpruned⟩ := hv
    obtain ⟨rfl, -⟩ := pruneWindow_eq_some hpruned
    obtain ⟨hget, -⟩ := (BTreeMap.get_retain_eq_some_iff _ _ _ _).mp hs
    exact (h.seenBy k w hw s seen hget).trans ht
  capped := h.capped.prune now
  room := by
    refine le_trans (BTreeMap.len_le_of_contains fun k hk => ?_) h.room
    obtain ⟨v, hv⟩ := Option.isSome_iff_exists.mp hk
    rw [get_ips_prune, Option.bind_eq_some_iff] at hv
    obtain ⟨w, hw, -⟩ := hv
    exact Option.isSome_iff_exists.mpr ⟨w, hw⟩

end Windows

/-! ## The net -/

/-- The nets of the two runs hold the same from an instant on. -/
structure NetTwin (l l' : RateLimiter) (t : Nat) : Prop where
  tokens : l.globalBucket.tokens ≤ l.globalBucket.burst
  last : l.globalBucket.last ≤ t
  rate : l'.globalBucket.rate = l.globalBucket.rate
  burst : l'.globalBucket.burst = l.globalBucket.burst
  available : ∀ u, t ≤ u → l'.globalBucket.available u = l.globalBucket.available u

section Net

variable {l l' l₁ l₁' : RateLimiter} {t now : Nat} {ip : IpAddr} {sessionId : String}
  {n : UInt32} {d : Decision}

theorem NetTwin.still (h : NetTwin l l' t) (ht : t ≤ now)
    (hl : l₁.globalBucket = l.globalBucket) (hl' : l₁'.globalBucket = l'.globalBucket) :
    NetTwin l₁ l₁' now where
  tokens := by
    rw [hl]
    exact h.tokens
  last := by
    rw [hl]
    exact h.last.trans ht
  rate := by rw [hl, hl', h.rate]
  burst := by rw [hl, hl', h.burst]
  available := by
    intro u hu
    rw [hl, hl']
    exact h.available u (ht.trans hu)

/-- A request that both runs allow leaves one and the same bucket. -/
theorem NetTwin.both (h : NetTwin l l' t) (ht : t ≤ now)
    (hl : Checked l now ip sessionId n .allow l₁) (hl' : Checked l' now ip sessionId n .allow l₁') :
    NetTwin l₁ l₁' now := by
  rcases hl.globalBucket_eq with ⟨hpasses, -⟩ | ⟨-, hn, heq⟩ | ⟨⟨wait, hd⟩, -⟩
  · cases hpasses
  · rcases hl'.globalBucket_eq with ⟨hpasses, -⟩ | ⟨-, hn', heq'⟩ | ⟨⟨wait, hd⟩, -⟩
    · cases hpasses
    · have hcost := cost_nonneg n
      have hcap : l.globalBucket.available now ≤ l.globalBucket.burst := min_le_right _ _
      -- The same cost is taken out of buckets that hold the same.
      have hbucket : l₁'.globalBucket = l₁.globalBucket := by
        rw [heq, heq', Bucket.tryTake_ok hn, Bucket.tryTake_ok hn', h.rate, h.burst,
          h.available now ht]
      have htaken : l₁.globalBucket = { l.globalBucket with
          tokens := l.globalBucket.available now - cost n, last := now } := by
        rw [heq, Bucket.tryTake_ok hn]
      refine ⟨?_, ?_, by rw [hbucket], by rw [hbucket], fun u _ => by rw [hbucket]⟩
      · rw [htaken]
        show l.globalBucket.available now - cost n ≤ l.globalBucket.burst
        linarith only [hcost, hcap]
      · rw [htaken]
    · cases hd
  · cases hd

/-- A request that only the first run gets, and that is denied, takes nothing. -/
theorem NetTwin.left (h : NetTwin l l' t) (ht : t ≤ now)
    (hl : Checked l now ip sessionId n d l₁) (hd : d ≠ .allow) : NetTwin l₁ l' now := by
  rcases hl.globalBucket_eq with ⟨-, heq⟩ | ⟨rfl, -⟩ | ⟨-, hn, heq⟩
  · exact h.still ht heq rfl
  · exact absurd rfl hd
  · rw [Bucket.tryTake_error hn] at heq
    refine ⟨?_, ?_, ?_, ?_, ?_⟩
    · rw [heq]
      exact min_le_right _ _
    · rw [heq]
    · rw [heq]
      exact h.rate
    · rw [heq]
      exact h.burst
    · intro u hu
      rw [heq, h.available u (ht.trans hu)]
      exact (Bucket.available_available h.tokens (h.last.trans ht) hu).symm

end Net

/-! ## Two runs -/

/-- Denied by the address part or by the net. -/
def Label.deniedLater : Label → Bool
  | .check _ _ _ _ d => d.passesSession && decide (d ≠ .allow)
  | .prune _ => false

/-- A run, and the run without the requests that its later parts deny: these are left out, and all
the rest is asked of both. -/
inductive TwinStep : RateLimiter × RateLimiter → Label × Option Label →
    RateLimiter × RateLimiter → Prop where
  | removed {l l' : RateLimiter} {now : Nat} {ip : IpAddr} {sessionId : String} {n : UInt32} :
      (Label.check now ip sessionId n (l.check now ip sessionId n).1).deniedLater = true →
      TwinStep (l, l') (.check now ip sessionId n (l.check now ip sessionId n).1, none)
        ((l.check now ip sessionId n).2, l')
  | kept {l l' : RateLimiter} {now : Nat} {ip : IpAddr} {sessionId : String} {n : UInt32} :
      (Label.check now ip sessionId n (l.check now ip sessionId n).1).deniedLater = false →
      TwinStep (l, l')
        (.check now ip sessionId n (l.check now ip sessionId n).1,
          some (.check now ip sessionId n (l'.check now ip sessionId n).1))
        ((l.check now ip sessionId n).2, (l'.check now ip sessionId n).2)
  | prune {l l' : RateLimiter} {now : Nat} :
      TwinStep (l, l') (.prune now, some (.prune now)) (l.prune now, l'.prune now)

/-- The first of the two is a run of the limiter. -/
theorem run_of_twin {start s : RateLimiter × RateLimiter} {labels : List (Label × Option Label)}
    (h : Run TwinStep start labels s) : Run Step start.1 (labels.map Prod.fst) s.1 := by
  induction h with
  | nil => exact .nil
  | snoc _ hstep ih =>
    rw [List.map_append]
    refine .snoc ih ?_
    cases hstep with
    | removed _ | kept _ => exact .check
    | prune => exact .prune

/-- So is the second, with the requests that were kept. -/
theorem run_of_twin_right {start s : RateLimiter × RateLimiter}
    {labels : List (Label × Option Label)} (h : Run TwinStep start labels s) :
    Run Step start.2 (labels.filterMap Prod.snd) s.2 := by
  induction h with
  | nil => exact .nil
  | snoc _ hstep ih =>
    rw [List.filterMap_append]
    cases hstep with
    | removed _ =>
      show Run Step _ (_ ++ []) _
      rw [List.append_nil]
      exact ih
    | kept _ => exact .snoc ih .check
    | prune => exact .snoc ih .prune

/-- Every run has its twin. -/
theorem exists_twin {start l' l : RateLimiter} {labels : List Label} (h : Run Step start labels l) :
    ∃ twins s, twins.map Prod.fst = labels ∧ s.1 = l ∧ Run TwinStep (start, l') twins s := by
  induction h with
  | nil => exact ⟨[], (start, l'), rfl, rfl, .nil⟩
  | snoc _ hstep ih =>
    obtain ⟨twins, ⟨m, m'⟩, rfl, rfl, hrun⟩ := ih
    cases hstep with
    | @check now ip sessionId n =>
      cases hlater : (Label.check now ip sessionId n (m.check now ip sessionId n).1).deniedLater with
      | true => exact ⟨_, _, by rw [List.map_append]; rfl, rfl, hrun.snoc (.removed hlater)⟩
      | false => exact ⟨_, _, by rw [List.map_append]; rfl, rfl, hrun.snoc (.kept hlater)⟩
    | prune => exact ⟨_, _, by rw [List.map_append]; rfl, rfl, hrun.snoc .prune⟩

/-- The sessions of the requests that are left out. -/
def removedSessions (labels : List Label) : Set String :=
  { k | ∃ now ip n d, Label.check now ip k n d ∈ labels ∧
    (Label.check now ip k n d).deniedLater = true }

/-- Their addresses. -/
def removedIps (labels : List Label) : Set IpAddr :=
  { ip | ∃ now k n d, Label.check now ip k n d ∈ labels ∧
    (Label.check now ip k n d).deniedLater = true }

/-- A request of another session than those left out, and from another address. -/
def Label.ofOthers (labels : List Label) : Label → Prop
  | .check _ ip sessionId _ _ => sessionId ∉ removedSessions labels ∧ ip ∉ removedIps labels
  | .prune _ => True

/-- A session with a place without the denied requests has one with them. -/
def KeepsPlace (l l' : RateLimiter) : Label → Prop
  | .check _ _ sessionId _ _ => l'.Admits sessionId → l.Admits sessionId
  | .prune _ => True

/-- A session whose bucket grants without the denied requests is granted with them. -/
def KeepsGrant (l l' : RateLimiter) : Label → Prop
  | .check now _ sessionId n _ =>
    l.Admits sessionId → cost n ≤ l'.level sessionId now → cost n ≤ l.level sessionId now
  | .prune _ => True

/-- What relates the two limiters. -/
structure Twin (sessions : Set String) (ips : Set IpAddr) (l l' : RateLimiter) (t : Nat) :
    Prop where
  sessions : SessionsTwin sessions l l' t
  windows : WindowsTwin ips l l' t
  net : NetTwin l l' t

section Twins

variable {sessions : Set String} {ips : Set IpAddr} {l l' l₁ l₁' : RateLimiter} {t now : Nat}
  {ip : IpAddr} {sessionId : String} {n : UInt32} {d : Decision}

theorem Twin.refl (cfg : RateLimitConfig) (created : Nat) :
    Twin sessions ips (.new cfg created) (.new cfg created) created where
  sessions := {
    covers := fun _ => .refl nofun nofun
    same := fun _ _ => rfl
    room := Nat.zero_le _ }
  windows := {
    cfg := rfl
    same := fun _ _ => rfl
    within := nofun
    seenBy := nofun
    capped := nofun
    room := Nat.zero_le _ }
  net := ⟨le_rfl, le_rfl, rfl, rfl, fun _ _ => rfl⟩

/-- A request that is left out. -/
theorem Twin.left (h : Twin sessions ips l l' t) (ht : t ≤ now)
    (hl : Checked l now ip sessionId n d l₁) (hd : d.passesSession = true) (hdenied : d ≠ .allow)
    (hsession : sessionId ∈ sessions) (hip : ip ∈ ips) : Twin sessions ips l₁ l' now where
  sessions := h.sessions.left ht hl hd hsession
  windows := h.windows.left ht hl hip
  net := h.net.left ht hl hdenied

theorem Twin.prune (h : Twin sessions ips l l' t) (ht : t ≤ now) :
    Twin sessions ips (l.prune now) (l'.prune now) now where
  sessions := h.sessions.prune ht
  windows := h.windows.prune ht
  net := h.net.still ht rfl rfl

/-- A request that is allowed is allowed without the denied ones. -/
theorem Twin.allowed (h : Twin sessions ips l l' t) (ht : t ≤ now)
    (hl : Checked l now ip sessionId n .allow l₁) (hl' : Checked l' now ip sessionId n d l₁') :
    d = .allow ∧ Twin sessions ips l₁ l₁' now := by
  obtain ⟨hroom, hn⟩ := hl.room_of_allow
  have hcovers := h.sessions.covers sessionId
  -- Where the first run finds a place, a seat and tokens, so does the second.
  have hroom' : l'.Room now ip sessionId n := by
    refine ⟨h.sessions.admits hroom.tracked, fun hip => ?_, ?_⟩
    · obtain ⟨hadmits, hseat⟩ := hroom.seated hip
      exact ⟨h.windows.admitsIp hadmits, h.windows.seats ht hseat⟩
    · rw [h.net.available now ht]
      exact hroom.net
  -- The bucket of the second run covers the one of the first.
  have hn' : cost n ≤ (l'.sessionState now sessionId).bucket.available now := by
    apply hcovers.granted ht
    rwa [available_sessionState]
  obtain rfl := hl'.allowed hroom' hn'
  have hgranted : cost n ≤ (l.sessionState now sessionId).bucket.available now := by
    rwa [available_sessionState]
  have hsessions := hl.sessions_of_granted hroom.tracked hgranted
  have hsessions' := hl'.sessions_of_granted hroom'.tracked hn'
  refine ⟨rfl, ?_, h.windows.both ht hl hl', h.net.both ht hl hl'⟩
  refine h.sessions.both ht hl hl' ?_ ?_
  · exact (hcovers.spend ht hn).congr le_rfl (hcovers.askedKept.check hl)
      (hcovers.sparedKept.check hl') hl.frame.1 hl'.frame.1 (by rw [hsessions])
      (by rw [hsessions'])
  · intro huntouched
    rw [hsessions, hsessions', get_spend, get_spend, h.sessions.sessionState huntouched]

/-- A request that the session part denies is denied there without the denied ones, when its
session keeps its place and its grant. -/
theorem Twin.sessionDenied (h : Twin sessions ips l l' t) (ht : t ≤ now)
    (hl : Checked l now ip sessionId n d l₁) {d' : Decision}
    (hl' : Checked l' now ip sessionId n d' l₁') (hd : d.passesSession = false)
    (hplace : l'.Admits sessionId → l.Admits sessionId)
    (hgrant : l.Admits sessionId → cost n ≤ l'.level sessionId now →
      cost n ≤ l.level sessionId now) :
    (sessionId ∉ sessions → d' = d) ∧ Twin sessions ips l₁ l₁' now := by
  have hcovers := h.sessions.covers sessionId
  have hout := hl.sessionOutcome
  have hout' := hl'.sessionOutcome
  generalize hs : l₁.sessions = s at hout
  generalize hs' : l₁'.sessions = s' at hout'
  -- In the first run there is no place, or the bucket refuses.
  cases hout with
  | granted _ hpasses _ _ =>
    rw [hd] at hpasses
    cases hpasses
  | full hnone =>
    cases hout' with
    | refused hroom _ => exact absurd (hplace hroom) hnone
    | granted _ _ hroom _ => exact absurd (hplace hroom) hnone
    | full _ =>
      obtain ⟨hips, hnet⟩ := hl.frame_of_sessionDenied rfl
      obtain ⟨hips', hnet'⟩ := hl'.frame_of_sessionDenied rfl
      refine ⟨fun _ => rfl, ?_, h.windows.still ht hl hl'.frame.1 hips hips',
        h.net.still ht hnet hnet'⟩
      refine h.sessions.both ht hl hl' ?_ fun huntouched => ?_
      · exact hcovers.congr ht (hcovers.askedKept.check hl) (hcovers.sparedKept.check hl')
          hl.frame.1 hl'.frame.1 (by rw [hs]) (by rw [hs'])
      · rw [hs, hs', h.sessions.same sessionId huntouched]
  | refused hroom hn =>
    cases hout' with
    | full hnone => exact absurd (h.sessions.admits hroom) hnone
    | granted _ _ _ hn' => exact absurd (hgrant hroom hn') (not_le.mpr hn)
    | refused _ hn' =>
      obtain ⟨hips, hnet⟩ := hl.frame_of_sessionDenied rfl
      obtain ⟨hips', hnet'⟩ := hl'.frame_of_sessionDenied rfl
      refine ⟨fun huntouched => ?_, ?_, h.windows.still ht hl hl'.frame.1 hips hips',
        h.net.still ht hnet hnet'⟩
      · rw [h.sessions.sessionState huntouched, h.sessions.level_eq huntouched]
      · refine h.sessions.both ht hl hl' ?_ fun huntouched => ?_
        · exact (hcovers.refuse ht hn hn').congr le_rfl (hcovers.askedKept.check hl)
            (hcovers.sparedKept.check hl') hl.frame.1 hl'.frame.1 (by rw [hs]) (by rw [hs'])
        · rw [hs, hs', get_spend, get_spend, h.sessions.sessionState huntouched]

/-- **One step of the two runs.** -/
theorem Twin.step {labels : List Label} {x : Label × Option Label}
    (h : Twin (removedSessions labels) (removedIps labels) l l' t) (hx : x.1 ∈ labels)
    (ht : t ≤ x.1.now) (hplace : KeepsPlace l l' x.1) (hgrant : KeepsGrant l l' x.1)
    (hstep : TwinStep (l, l') x (l₁, l₁')) :
    (∀ b, x.2 = some b → x.1.ofOthers labels → b = x.1) ∧
      Twin (removedSessions labels) (removedIps labels) l₁ l₁' x.1.now := by
  cases hstep with
  | @removed _ _ now ip sessionId n hlater =>
    refine ⟨nofun, ?_⟩
    have hdenied := hlater
    unfold Label.deniedLater at hdenied
    rw [Bool.and_eq_true, decide_eq_true_eq] at hdenied
    exact h.left ht (checked l now ip sessionId n) hdenied.1 hdenied.2 ⟨_, _, _, _, hx, hlater⟩
      ⟨_, _, _, _, hx, hlater⟩
  | @kept _ _ now ip sessionId n hlater =>
    have hl := checked l now ip sessionId n
    have hl' := checked l' now ip sessionId n
    cases hpasses : (l.check now ip sessionId n).1.passesSession with
    | true =>
      -- Past the session part and kept, the call is allowed.
      have hallow : (l.check now ip sessionId n).1 = .allow := by
        have hdenied : ((l.check now ip sessionId n).1.passesSession &&
            decide ((l.check now ip sessionId n).1 ≠ .allow)) = false := hlater
        rw [hpasses, Bool.true_and, decide_eq_false_iff_not, not_not] at hdenied
        exact hdenied
      rw [hallow] at hl
      obtain ⟨hallow', htwin⟩ := h.allowed ht hl hl'
      refine ⟨fun b hb _ => ?_, htwin⟩
      rw [← Option.some.inj hb, hallow, hallow']
    | false =>
      obtain ⟨hsame, htwin⟩ := h.sessionDenied ht hl hl' hpasses hplace hgrant
      refine ⟨fun b hb hothers => ?_, htwin⟩
      rw [← Option.some.inj hb, hsame hothers.1]
  | prune => exact ⟨fun b hb _ => (Option.some.inj hb).symm, h.prune ht⟩

end Twins

section Sample

instance (l l' : RateLimiter) : (a : Label) → Decidable (KeepsPlace l l' a)
  | .check .. => inferInstanceAs (Decidable (_ → _))
  | .prune _ => inferInstanceAs (Decidable True)

instance (l l' : RateLimiter) : (a : Label) → Decidable (KeepsGrant l l' a)
  | .check .. => inferInstanceAs (Decidable (_ → _ → _))
  | .prune _ => inferInstanceAs (Decidable True)

instance : DecidablePred Ordered := fun labels =>
  inferInstanceAs (Decidable (labels.Pairwise fun a b => a.now ≤ b.now))

/-- A request asked of both runs, under a guard. -/
def twinReplay (guard : RateLimiter → RateLimiter → Label → Bool) (s : RateLimiter × RateLimiter)
    (request : Nat × IpAddr × String × UInt32) :
    Option ((RateLimiter × RateLimiter) × (Label × Option Label)) :=
  let (now, ip, sessionId, n) := request
  let (d, l) := s.1.check now ip sessionId n
  let a := Label.check now ip sessionId n d
  if guard s.1 s.2 a = true then
    if a.deniedLater then some ((l, s.2), (a, none))
    else
      let (d', l') := s.2.check now ip sessionId n
      some ((l, l'), (a, some (.check now ip sessionId n d')))
  else none

theorem step_of_twinReplay {guard : RateLimiter → RateLimiter → Label → Bool}
    {s s' : RateLimiter × RateLimiter} {request : Nat × IpAddr × String × UInt32}
    {x : Label × Option Label} (h : twinReplay guard s request = some (s', x)) :
    guard s.1 s.2 x.1 = true ∧ TwinStep s x s' := by
  obtain ⟨now, ip, sessionId, n⟩ := request
  unfold twinReplay at h
  dsimp only at h
  rw [Option.ite_none_right_eq_some] at h
  obtain ⟨hguard, h⟩ := h
  split at h
  · rename_i hlater
    obtain ⟨rfl, rfl⟩ := Prod.mk.inj (Option.some.inj h)
    exact ⟨hguard, .removed hlater⟩
  · rename_i hkept
    obtain ⟨rfl, rfl⟩ := Prod.mk.inj (Option.some.inj h)
    exact ⟨hguard, .kept (Bool.eq_false_iff.mpr hkept)⟩

/-- The two runs that a list of requests gives. -/
theorem twin_of_replay {guard : RateLimiter → RateLimiter → Label → Bool}
    {start : RateLimiter × RateLimiter} {requests : List (Nat × IpAddr × String × UInt32)}
    {p : List (Label × Option Label) → Bool}
    (h : (Run.replay (twinReplay guard) requests start).any
      (fun r => p (r.2.map Prod.snd)) = true) :
    ∃ labels s, Run (fun s x s' => guard s.1 s.2 x.1 = true ∧ TwinStep s x s') start labels s ∧
      p labels = true := by
  obtain ⟨⟨s, labels⟩, hreplay, hp⟩ := (Option.any_eq_true _ _).mp h
  exact ⟨labels.map Prod.snd, s,
    (Run.of_replay hreplay).relabel Prod.snd fun _ _ _ hstep => step_of_twinReplay hstep, hp⟩

deriving instance DecidableEq for Label

def home : IpAddr := .v4 0xcb007107

def away : IpAddr := .v4 0xc6336408

/-- One session for each address, and a net of ten requests. -/
def narrow : RateLimitConfig :=
  { RateLimitConfig.default with
    globalPerSec := 1
    globalBurst := 10
    sessionPerSec := 1
    sessionBurst := 20
    ipSessionCap := 1
    ipSessionWindow := 60000000000 }

/-- In the runs under a guard, the others see nothing of the requests that are left out. -/
def InertUnder (guard : RateLimiter → RateLimiter → Label → Prop) (order : List Label → Prop) :
    Prop :=
  ∀ (cfg : RateLimitConfig) (created : Nat) (labels : List (Label × Option Label))
    (s : RateLimiter × RateLimiter),
    Run (fun s x s' => guard s.1 s.2 x.1 ∧ TwinStep s x s') (.new cfg created, .new cfg created)
      labels s →
    (∀ x ∈ labels, created ≤ x.1.now) → order (labels.map Prod.fst) →
    ∀ x ∈ labels, ∀ b, x.2 = some b → x.1.ofOthers (labels.map Prod.fst) → b = x.1

/-- No request that is left out has this session or this address. -/
def apart (labels : List Label) (a : Label) : Bool :=
  labels.all fun b =>
    match a, b with
    | .check _ ip sessionId _ _, .check now' ip' sessionId' n' d' =>
      !(Label.check now' ip' sessionId' n' d').deniedLater ||
        decide (sessionId' ≠ sessionId ∧ ip' ≠ ip)
    | _, _ => true

theorem ofOthers_of_apart {labels : List Label} {a : Label} (h : apart labels a = true) :
    a.ofOthers labels := by
  cases a with
  | prune now => trivial
  | check now ip sessionId n d =>
    have hall := List.all_eq_true.mp h
    constructor
    · rintro ⟨now', ip', n', d', hmem, hlater⟩
      have hne := hall _ hmem
      simp [hlater] at hne
    · rintro ⟨now', sessionId', n', d', hmem, hlater⟩
      have hne := hall _ hmem
      simp [hlater] at hne

/-- Requests that show what someone else sees. -/
theorem not_inertUnder {guard : RateLimiter → RateLimiter → Label → Prop}
    [∀ l l', DecidablePred (guard l l')] {order : List Label → Prop} [DecidablePred order]
    (cfg : RateLimitConfig) (requests : List (Nat × IpAddr × String × UInt32))
    (h : (Run.replay (twinReplay fun l l' a => decide (guard l l' a)) requests
        (.new cfg 0, .new cfg 0)).any
      (fun r => decide (order ((r.2.map Prod.snd).map Prod.fst)) &&
        (r.2.map Prod.snd).any fun x => x.2.any fun b =>
          apart ((r.2.map Prod.snd).map Prod.fst) x.1 && decide (b ≠ x.1)) = true) :
    ¬InertUnder guard order := by
  intro hinert
  obtain ⟨labels, s, hrun, hp⟩ := @twin_of_replay (fun l l' a => decide (guard l l' a)) _ _
    (fun labels => decide (order (labels.map Prod.fst)) && labels.any fun x => x.2.any fun b =>
      apart (labels.map Prod.fst) x.1 && decide (b ≠ x.1)) h
  rw [Bool.and_eq_true, decide_eq_true_eq] at hp
  obtain ⟨x, hx, hb⟩ := List.any_eq_true.mp hp.2
  obtain ⟨b, hsome, hb⟩ := (Option.any_eq_true _ _).mp hb
  rw [Bool.and_eq_true, decide_eq_true_eq] at hb
  have hrun' := hrun.mono fun s x s' h => And.intro (of_decide_eq_true h.1) h.2
  exact hb.2 (hinert cfg 0 labels s hrun' (fun _ _ => Nat.zero_le _) hp.1 x hx b hsome
    (ofOthers_of_apart hb.1))

end Sample

end RateLimiter

end Datacat.Security
