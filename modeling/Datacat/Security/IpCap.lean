import Datacat.Security.RateLimit

/-!
# Sessions of an Address

How many sessions of one address pass inside a sliding window. The window of an address keeps,
for each session that passed, the instant at which it last did, for as long as it counts.

## Main results

- `passed_le_cap`: the sessions that passed inside a window are at most the cap, and a session
  that counts is not refused.
-/

namespace Datacat.Security

open Basics

namespace RateLimiter

/-- The session of a call from `ip` that passed the address part in `(t - window, t]`. -/
def Label.passed? (ip : IpAddr) (window t : Nat) : Label → Option String
  | .check now ip' sessionId _ decision =>
    if ip' = ip ∧ decision.passesIp ∧ now ≤ t ∧ t < now + window then some sessionId else none
  | .prune _ => none

/-- The sessions from `ip` that passed the address part in `(t - window, t]`. -/
def passed (ip : IpAddr) (window t : Nat) (labels : List Label) : List String :=
  labels.filterMap (Label.passed? ip window t)

theorem passed_snoc (ip : IpAddr) (window t : Nat) (labels : List Label) (a : Label) :
    passed ip window t (labels ++ [a]) =
      passed ip window t labels ++ (a.passed? ip window t).toList := by
  unfold passed
  rw [List.filterMap_append]
  cases h : a.passed? ip window t <;> simp [h]

theorem Label.passed?_eq_some {ip : IpAddr} {window t : Nat} {a : Label} {sessionId : String}
    (h : a.passed? ip window t = some sessionId) :
    ∃ n d, a = .check a.now ip sessionId n d ∧ d.passesIp = true ∧ a.now ≤ t ∧
      t < a.now + window := by
  cases a with
  | check now ip' sid n d =>
    by_cases hall : ip' = ip ∧ d.passesIp ∧ now ≤ t ∧ t < now + window
    · rw [Label.passed?, if_pos hall] at h
      obtain ⟨rfl, hpass, hle, hlt⟩ := hall
      obtain rfl := Option.some.inj h
      exact ⟨n, d, rfl, hpass, hle, hlt⟩
    · rw [Label.passed?, if_neg hall] at h
      cases h
  | prune now => cases h

/-- A session that counts at `t` also counts at an earlier instant after its call. -/
theorem mem_passed_earlier {ip : IpAddr} {window t now : Nat} {labels : List Label}
    {sessionId : String} (h : sessionId ∈ passed ip window t labels)
    (hbefore : ∀ a ∈ labels, a.now ≤ now) (hnow : now ≤ t) :
    sessionId ∈ passed ip window now labels ∧ t < now + window := by
  obtain ⟨a, ha, hpassed⟩ := List.mem_filterMap.mp h
  obtain ⟨n, d, heq, hpass, hle, hlt⟩ := Label.passed?_eq_some hpassed
  have hanow := hbefore a ha
  refine ⟨List.mem_filterMap.mpr ⟨a, ha, ?_⟩, by omega⟩
  have hin : now < a.now + window := by omega
  rw [heq]
  simp [Label.passed?, hpass, hanow, hin]

/-! ## The windows -/

theorem IpWindow.get_live {w : IpWindow} {now window seen : Nat} {sessionId : String}
    (h : w.sessions.get sessionId = some seen) (hwindow : 0 < window)
    (hin : now < seen + window) : (w.live now window).get sessionId = some seen := by
  refine (BTreeMap.get_retain_eq_some_iff _ _ _ _).mpr ⟨h, decide_eq_true ?_⟩
  omega

/-- The sessions that count are in the window of their address. -/
def Present (ip : IpAddr) (labels : List Label) (l : RateLimiter) : Prop :=
  ∀ t, (∀ a ∈ labels, a.now ≤ t) → ∀ sessionId ∈ passed ip l.cfg.ipSessionWindow t labels,
    ∃ w seen, l.ips.get ip = some w ∧ w.sessions.get sessionId = some seen ∧
      t < seen + l.cfg.ipSessionWindow

/-- No window holds more sessions than the cap. -/
def WindowsCapped (l : RateLimiter) : Prop :=
  ∀ ip w, l.ips.get ip = some w → w.sessions.len ≤ l.cfg.ipSessionCap

section Windows

variable {l l' : RateLimiter} {now : Nat} {ip ip' : IpAddr} {sessionId : String} {n : UInt32}
  {d : Decision} {labels : List Label}

theorem WindowsCapped.ipWindow (h : l.WindowsCapped) (now : Nat) (ip : IpAddr) :
    (l.ipWindow now ip).sessions.len ≤ l.cfg.ipSessionCap := by
  unfold RateLimiter.ipWindow
  cases hget : l.ips.get ip with
  | none => exact Nat.zero_le _
  | some w => exact h ip w hget

theorem WindowsCapped.live (h : l.WindowsCapped) (now : Nat) (ip : IpAddr) :
    ((l.ipWindow now ip).live now l.cfg.ipSessionWindow).len ≤ l.cfg.ipSessionCap :=
  (BTreeMap.len_retain_le _ _).trans (h.ipWindow now ip)

/-- A window replaced by one that is not larger than the cap. -/
theorem WindowsCapped.insert (h : l.WindowsCapped) (hcfg : l'.cfg = l.cfg) {w : IpWindow}
    (hips : l'.ips = l.ips.insert ip w) (hw : w.sessions.len ≤ l.cfg.ipSessionCap) :
    l'.WindowsCapped := by
  intro k v hv
  rw [hips, BTreeMap.get_insert] at hv
  rw [hcfg]
  by_cases hk : k = ip
  · rw [if_pos hk] at hv
    obtain rfl := Option.some.inj hv
    exact hw
  · rw [if_neg hk] at hv
    exact h k v hv

theorem WindowsCapped.check (h : l.WindowsCapped) (hcheck : Checked l now ip sessionId n d l') :
    l'.WindowsCapped := by
  have hcfg := hcheck.frame.1
  have hlive := h.live now ip
  have hsame (hips : l'.ips = l.ips) : l'.WindowsCapped := by
    unfold WindowsCapped
    rwa [hips, hcfg]
  have hout := hcheck.ipOutcome
  generalize hips : l'.ips = ips at hout
  -- Only a call that passes adds a session to a window.
  cases hout with
  | sessionDenied wait => exact hsame hips
  | unspecified _ hip _ => exact hsame hips
  | full wait hip hroom => exact hsame hips
  | refused hip hroom hseat => exact h.insert hcfg hips hlive
  | passed _ hip hpass hroom hseat =>
    refine h.insert hcfg hips ?_
    dsimp only
    rw [BTreeMap.len_insert]
    split
    · exact hlive
    · -- A new session takes one of the free places.
      rename_i hnew
      rcases hseat with hknown | hfree
      · exact absurd hknown hnew
      · exact hfree

theorem WindowsCapped.prune (h : l.WindowsCapped) (now : Nat) : (l.prune now).WindowsCapped := by
  intro k v hv
  unfold RateLimiter.prune at hv ⊢
  rw [BTreeMap.get_filterMap] at hv
  obtain ⟨w, hw, hprune⟩ := Option.bind_eq_some_iff.mp hv
  unfold pruneWindow at hprune
  dsimp only at hprune
  split at hprune
  · cases hprune
  · obtain rfl := Option.some.inj hprune
    exact (BTreeMap.len_retain_le _ _).trans (h k w hw)

/-- Nothing new counts for `ip`, and its sessions that count stay. -/
theorem Present.keep {a : Label} (h : Present ip labels l) (hcfg : l'.cfg = l.cfg)
    (hnew : ∀ t, a.passed? ip l.cfg.ipSessionWindow t = none)
    (hget : l'.ips.get ip = l.ips.get ip) : Present ip (labels ++ [a]) l' := by
  intro t ht sid hsid
  rw [hcfg] at hsid ⊢
  rw [passed_snoc, hnew, Option.toList_none, List.append_nil] at hsid
  rw [hget]
  exact h t (fun b hb => ht b (List.mem_append_left _ hb)) sid hsid

/-- The window of an address that counts some session is tracked, and the session in it. -/
theorem Present.get (h : Present ip labels l) (hbefore : ∀ a ∈ labels, a.now ≤ now)
    (hsid : sessionId ∈ passed ip l.cfg.ipSessionWindow now labels) :
    l.ips.contains ip = true ∧
      ((l.ipWindow now ip).live now l.cfg.ipSessionWindow).contains sessionId = true := by
  obtain ⟨w, seen, hw, hseen, hlt⟩ := h now hbefore sessionId hsid
  have hpos : 0 < l.cfg.ipSessionWindow := by
    have := (mem_passed_earlier hsid hbefore (le_refl now)).2
    omega
  unfold BTreeMap.contains RateLimiter.ipWindow
  rw [hw]
  exact ⟨rfl, Option.isSome_of_eq_some (IpWindow.get_live hseen hpos hlt)⟩

/-- A call from `ip` that leaves its window with the sessions that were in it, and at most one
that passes now. -/
theorem Present.record (h : Present ip labels l) (hcfg : l'.cfg = l.cfg)
    (hbefore : ∀ a ∈ labels, a.now ≤ now) {sessions : BTreeMap String Nat}
    (hips : l'.ips = l.ips.insert ip ⟨sessions, now⟩)
    (hold : ∀ sid seen, ((l.ipWindow now ip).live now l.cfg.ipSessionWindow).get sid = some seen →
      sid ≠ sessionId → sessions.get sid = some seen)
    (hlast : (d.passesIp = true ∨
        ((l.ipWindow now ip).live now l.cfg.ipSessionWindow).contains sessionId = true) →
      sessions.get sessionId = some now) :
    Present ip (labels ++ [.check now ip sessionId n d]) l' := by
  intro t ht sid hsid
  have hnow : now ≤ t := ht (.check now ip sessionId n d) (by simp)
  rw [hcfg] at hsid ⊢
  have hget : l'.ips.get ip = some ⟨sessions, now⟩ := by
    rw [hips, BTreeMap.get_insert, if_pos rfl]
  rw [passed_snoc, List.mem_append] at hsid
  rcases hsid with hsid | hsid
  · -- The session passed earlier.
    obtain ⟨hearlier, hlt⟩ := mem_passed_earlier hsid hbefore hnow
    by_cases hk : sid = sessionId
    · -- The session of this call: it is counted from now on.
      subst hk
      exact ⟨_, now, hget, hlast (.inr (h.get hbefore hearlier).2), hlt⟩
    · obtain ⟨w, seen, hw, hseen, hlt'⟩ :=
        h t (fun b hb => ht b (List.mem_append_left _ hb)) sid hsid
      have hpos : 0 < l.cfg.ipSessionWindow := by omega
      refine ⟨_, seen, hget, hold sid seen ?_ hk, hlt'⟩
      unfold RateLimiter.ipWindow
      rw [hw]
      exact IpWindow.get_live hseen hpos (by omega)
  · -- The session passes with this call.
    obtain ⟨n', d', heq, hpass, -, hlt⟩ := Label.passed?_eq_some (Option.mem_toList.mp hsid)
    obtain ⟨-, -, rfl, -, rfl⟩ := Label.check.inj heq
    exact ⟨_, now, hget, hlast (.inl hpass), hlt⟩

theorem Label.passed?_check_none {window t : Nat} (h : ip' ≠ ip ∨ d.passesIp = false) :
    (Label.check now ip' sessionId n d).passed? ip window t = none := by
  refine if_neg ?_
  rintro ⟨hip, hpass, -⟩
  rcases h with h | h
  · exact h hip
  · rw [h] at hpass
    cases hpass

theorem Present.check (h : Present ip labels l) (hip : ip.isUnspecified = false)
    (hbefore : ∀ a ∈ labels, a.now ≤ now) (hcheck : Checked l now ip' sessionId n d l') :
    Present ip (labels ++ [.check now ip' sessionId n d]) l' := by
  have hcfg := hcheck.frame.1
  have hout := hcheck.ipOutcome
  generalize hips : l'.ips = ips at hout
  cases hout with
  | sessionDenied wait =>
    exact h.keep hcfg (fun _ => Label.passed?_check_none (.inr rfl)) (by rw [hips])
  | unspecified _ hip' _ =>
    refine h.keep hcfg (fun _ => Label.passed?_check_none (.inl ?_)) (by rw [hips])
    rintro rfl
    rw [hip] at hip'
    cases hip'
  | full wait hip' hroom =>
    exact h.keep hcfg (fun _ => Label.passed?_check_none (.inr rfl)) (by rw [hips])
  | refused hip' hroom hseat =>
    by_cases hk : ip = ip'
    · subst hk
      refine h.record hcfg hbefore hips (fun sid seen hs _ => hs) ?_
      -- The session is refused: it does not pass, and it was not in the window.
      rintro (hpass | hknown)
      · cases hpass
      · exact absurd (Or.inl hknown) hseat
    · refine h.keep hcfg (fun _ => Label.passed?_check_none (.inl (Ne.symm hk))) ?_
      rw [hips, BTreeMap.get_insert, if_neg hk]
  | passed _ hip' hpass hroom hseat =>
    by_cases hk : ip = ip'
    · subst hk
      refine h.record hcfg hbefore hips (fun sid seen hs hne => ?_) (fun _ => ?_)
      · rw [BTreeMap.get_insert, if_neg hne]
        exact hs
      · rw [BTreeMap.get_insert, if_pos rfl]
    · refine h.keep hcfg (fun _ => Label.passed?_check_none (.inl (Ne.symm hk))) ?_
      rw [hips, BTreeMap.get_insert, if_neg hk]

theorem Present.prune (h : Present ip labels l) :
    Present ip (labels ++ [.prune now]) (l.prune now) := by
  intro t ht sid hsid
  have hnow : now ≤ t := ht (.prune now) (by simp)
  rw [passed_snoc, show (Label.prune now).passed? ip _ t = none from rfl, Option.toList_none,
    List.append_nil] at hsid
  obtain ⟨w, seen, hw, hseen, hlt⟩ :=
    h t (fun b hb => ht b (List.mem_append_left _ hb)) sid hsid
  have hlt' : t < seen + l.cfg.ipSessionWindow := hlt
  have hpos : 0 < l.cfg.ipSessionWindow := by
    obtain ⟨a, -, hpassed⟩ := List.mem_filterMap.mp hsid
    obtain ⟨-, -, -, -, hle, hin⟩ := Label.passed?_eq_some hpassed
    have hin' : t < a.now + l.cfg.ipSessionWindow := hin
    omega
  have hlive := IpWindow.get_live hseen hpos (lt_of_le_of_lt hnow hlt')
  -- The window is not empty, so it stays.
  have hne : (w.live now l.cfg.ipSessionWindow).entries.isEmpty = false := by
    cases hentries : (w.live now l.cfg.ipSessionWindow).entries with
    | nil =>
      rw [BTreeMap.get, hentries] at hlive
      cases hlive
    | cons e rest => rfl
  refine ⟨⟨w.live now l.cfg.ipSessionWindow, w.lastSeen⟩, seen, ?_, hlive, hlt⟩
  unfold RateLimiter.prune
  rw [BTreeMap.get_filterMap, hw]
  exact if_neg (by simp [hne])

end Windows

/-! ## Runs -/

section Runs

variable {cfg : RateLimitConfig} {created : Nat} {labels : List Label} {l : RateLimiter}

/-- Whatever the clocks, windows are capped. -/
theorem windowsCapped_of_run (h : Run Step (.new cfg created) labels l) : l.WindowsCapped := by
  induction h with
  | nil => exact fun ip w hw => absurd hw (by simp [RateLimiter.new])
  | snoc _ hstep ih =>
    cases hstep with
    | check => exact ih.check (checked _ _ _ _ _)
    | prune => exact ih.prune _

theorem present_of_run {ip : IpAddr} (hip : ip.isUnspecified = false)
    (h : Run Step (.new cfg created) labels l) (hordered : Ordered labels) :
    Present ip labels l := by
  induction h with
  | nil => exact fun t _ sid hsid => absurd hsid (by simp [passed])
  | snoc _ hstep ih =>
    cases hstep with
    | check =>
      exact (ih hordered.initial).check hip (fun b hb => hordered.le_last hb) (checked _ _ _ _ _)
    | prune => exact (ih hordered.initial).prune

theorem length_passed_le {ip : IpAddr} (hip : ip.isUnspecified = false)
    (h : Run Step (.new cfg created) labels l) (hordered : Ordered labels) (t : Nat) :
    (passed ip cfg.ipSessionWindow t labels).dedup.length ≤ cfg.ipSessionCap := by
  induction h with
  | nil => exact Nat.zero_le _
  | @snoc labels s s' a hrun hstep ih =>
    rcases le_or_gt a.now t with hin | hout
    · -- Every session that counts is in the window of the address.
      have hlast := hrun.snoc hstep
      have hpresent := present_of_run hip hlast hordered
      have hcapped := windowsCapped_of_run hlast
      have hcfg : s'.cfg = cfg := cfg_of_run hlast
      have hall : ∀ b ∈ labels ++ [a], b.now ≤ t := hordered.all_le hin
      have hget := hpresent t hall
      rw [hcfg] at hget
      -- Without a window no session counts; with one, they are among its keys.
      cases hwindow : s'.ips.get ip with
      | none =>
        have hnone : passed ip cfg.ipSessionWindow t (labels ++ [a]) = [] := by
          rw [List.eq_nil_iff_forall_not_mem]
          intro sid hsid
          obtain ⟨w, seen, hw, -⟩ := hget sid hsid
          rw [hwindow] at hw
          cases hw
        rw [hnone]
        exact Nat.zero_le _
      | some w =>
        have hlen := hcapped ip w hwindow
        rw [hcfg] at hlen
        refine (BTreeMap.length_le_len w.sessions (List.nodup_dedup _) ?_).trans hlen
        intro sid hsid
        obtain ⟨w', seen, hw', hseen, -⟩ := hget sid (List.mem_dedup.mp hsid)
        rw [hwindow] at hw'
        obtain rfl := Option.some.inj hw'
        exact Option.isSome_of_eq_some hseen
    · -- The last call is after the window.
      have hnone : a.passed? ip cfg.ipSessionWindow t = none := by
        cases hpassed : a.passed? ip cfg.ipSessionWindow t with
        | none => rfl
        | some sid =>
          obtain ⟨-, -, -, -, hle, -⟩ := Label.passed?_eq_some hpassed
          omega
      rw [passed_snoc, hnone, Option.toList_none, List.append_nil]
      exact ih hordered.initial

/-- A session that counts is not refused by the address part. -/
theorem not_denied_of_passed {ip : IpAddr} {now : Nat} {sessionId : String} {n : UInt32}
    {d : Decision} (hip : ip.isUnspecified = false)
    (h : Run Step (.new cfg created) (labels ++ [.check now ip sessionId n d]) l)
    (hordered : Ordered (labels ++ [.check now ip sessionId n d]))
    (hpassed : sessionId ∈ passed ip cfg.ipSessionWindow now labels) (wait : Nat) :
    d ≠ .deny .ipSessions wait := by
  rintro rfl
  obtain ⟨s, hrun, hstep⟩ := Run.snoc_iff.mp h
  have hpresent := present_of_run hip hrun hordered.initial
  have hcfg : s.cfg = cfg := cfg_of_run hrun
  rw [← hcfg] at hpassed
  obtain ⟨hknown, hseated⟩ := hpresent.get (fun b hb => hordered.le_last hb) hpassed
  have hout := hstep.check_inv.ipOutcome
  generalize hd : Decision.deny .ipSessions wait = d at hout
  generalize l.ips = ips at hout
  -- A denial by the address part means a full table or no seat: neither is so.
  cases hout with
  | sessionDenied wait' =>
    unfold deny at hd
    cases hd
  | unspecified _ hip' _ =>
    rw [hip] at hip'
    cases hip'
  | full wait' _ hroom => exact hroom (.inl hknown)
  | refused _ _ hseat => exact hseat (.inl hseated)
  | passed _ _ hpass _ _ =>
    rw [← hd] at hpass
    cases hpass

/-- **Sessions of an address.** At every instant the sessions from one address that passed the
address part inside the window that ends there are at most the cap, and a session that passed
inside the window that ends with its call is not refused by this part. -/
theorem passed_le_cap {ip : IpAddr} (hip : ip.isUnspecified = false)
    (h : Run Step (.new cfg created) labels l) (hordered : Ordered labels) :
    (∀ t, (passed ip cfg.ipSessionWindow t labels).dedup.length ≤ cfg.ipSessionCap) ∧
      ∀ before after now sessionId n d,
        labels = before ++ .check now ip sessionId n d :: after →
        sessionId ∈ passed ip cfg.ipSessionWindow now before →
        ∀ wait, d ≠ .deny .ipSessions wait := by
  refine ⟨length_passed_le hip h hordered, ?_⟩
  rintro before after now sessionId n d rfl hpassed wait
  rw [List.append_cons] at h hordered
  obtain ⟨s, hbefore, -⟩ := Run.append_iff.mp h
  exact not_denied_of_passed hip hbefore (List.pairwise_append.mp hordered).1 hpassed wait

end Runs

/-- Two sessions per minute and address. -/
def twoPerMinute : RateLimitConfig :=
  { RateLimitConfig.default with ipSessionCap := 2, ipSessionWindow := 60000000000 }

/-- The third session is refused, the first comes back, and after a minute the third passes. -/
def threeSessions : List Label :=
  [.check 0 (.v4 0xcb007107) "s1" 1 .allow, .check 5 (.v4 0xcb007107) "s2" 1 .allow,
    .check 6 (.v4 0xcb007107) "s3" 1 (.deny .ipSessions 60),
    .check 30000000000 (.v4 0xcb007107) "s1" 1 .allow, .prune 40000000000,
    .check 60000000005 (.v4 0xcb007107) "s3" 1 .allow]

theorem passed_le_cap_threeSessions :
    (∀ t, (passed (.v4 0xcb007107) 60000000000 t threeSessions).dedup.length ≤ 2) ∧
      ∀ before after now sessionId n d,
        threeSessions = before ++ .check now (.v4 0xcb007107) sessionId n d :: after →
        sessionId ∈ passed (.v4 0xcb007107) 60000000000 now before →
        ∀ wait, d ≠ .deny .ipSessions wait := by
  obtain ⟨l, hrun⟩ : ∃ l, Run Step (.new twoPerMinute 0) threeSessions l :=
    run_of_replay (by decide +kernel)
  refine @passed_le_cap twoPerMinute 0 threeSessions l _ (by decide +kernel) hrun ?_
  simp [Ordered, threeSessions, Label.now]

end RateLimiter

end Datacat.Security
