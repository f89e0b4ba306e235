import Datacat.Security.Anomaly

/-!
# Detection of Abusive Addresses

The window of an address restarts, it does not slide, and its entry may be pruned. A burst of bad
requests is still detected when it is long enough to reach the threshold twice, less one: the
restart splits it in two parts, and one of them reaches the threshold alone.

## Main results

- `Counting`: what the guard still knows of the bad requests of an interval.
- `banned_of_badCalls`: a burst inside the length of a window is banned before its end.
-/

namespace Datacat.Security

open Basics

namespace AnomalyGuard

/-! ## Runs that leave room -/

/-- A step after which neither map is full. -/
structure Roomy (g : AnomalyGuard) (x : Label) (g' : AnomalyGuard) : Prop where
  step : Step g x g'
  bad : g'.bad.len < g'.cfg.maxTrackedIps
  banned : g'.banned.len < g'.cfg.maxTrackedIps

section Room

variable {g : AnomalyGuard} {ip oldest soonest k : IpAddr} {now : Nat}

theorem ensureBadHeadroom_eq_self (hroom : g.bad.len < g.cfg.maxTrackedIps) :
    g.ensureBadHeadroom ip now oldest = g := by
  unfold ensureBadHeadroom
  rw [if_pos]
  simp [hroom]

theorem ensureBannedHeadroom_eq_self (hroom : g.banned.len < g.cfg.maxTrackedIps) :
    g.ensureBannedHeadroom now soonest = g := by
  unfold ensureBannedHeadroom
  exact if_pos hroom

/-- The request reaches the threshold. -/
def Reaches (g : AnomalyGuard) (ip : IpAddr) (now : Nat) : Prop :=
  g.cfg.badRequestsThreshold ≤ (g.currentWindow ip now).count + 1

instance : Decidable (g.Reaches ip now) := Nat.decLe _ _

/-- With room in both maps, a bad request touches the entries of its address only. -/
theorem recordBad_of_room (hip : ip.isUnspecified = false)
    (hbad : g.bad.len < g.cfg.maxTrackedIps) (hbanned : g.banned.len < g.cfg.maxTrackedIps) :
    g.recordBad ip now oldest soonest =
      if g.Reaches ip now then
        { g with
          bad := g.bad.insert ip ⟨0, now⟩
          banned := g.banned.insert ip (now + g.cfg.banDuration) }
      else
        { g with
          bad := g.bad.insert ip
            ⟨(g.currentWindow ip now).count + 1, (g.currentWindow ip now).windowStart⟩ } := by
  unfold recordBad
  rw [hip, ensureBadHeadroom_eq_self hbad]
  dsimp only
  rw [if_neg Bool.false_ne_true]
  -- The headroom removes nothing, so only the threshold is left to decide.
  by_cases hreach : g.Reaches ip now
  · have hcount : g.cfg.badRequestsThreshold ≤ (g.currentWindow ip now).count + 1 := hreach
    have hroom := @ensureBannedHeadroom_eq_self
      { g with bad := g.bad.insert ip ⟨0, now⟩ } soonest now hbanned
    rw [if_pos hreach, if_pos hcount, hroom]
  · have hcount : ¬ g.cfg.badRequestsThreshold ≤ (g.currentWindow ip now).count + 1 := hreach
    rw [if_neg hreach, if_neg hcount]

/-- A bad request of another address leaves the window of this one. -/
theorem get_bad_recordBad_other (hbad : g.bad.len < g.cfg.maxTrackedIps)
    (hbanned : g.banned.len < g.cfg.maxTrackedIps) (hk : k ≠ ip) :
    (g.recordBad ip now oldest soonest).bad.get k = g.bad.get k := by
  cases hip : ip.isUnspecified with
  | true =>
    unfold recordBad
    rw [if_pos hip]
  | false =>
    rw [recordBad_of_room hip hbad hbanned]
    split
    · dsimp only
      rw [BTreeMap.get_insert, if_neg hk]
    · dsimp only
      rw [BTreeMap.get_insert, if_neg hk]

end Room

/-! ## What the guard knows of a burst -/

/-- The guard had banned the address at an instant of `[a, b]`. -/
def BannedWithin (start : AnomalyGuard) (labels : List Label) (g : AnomalyGuard) (ip : IpAddr)
    (a b : Nat) : Prop :=
  ∃ before x after mid, labels = before ++ x :: after ∧
    Run Roomy start (before ++ [x]) mid ∧ Run Roomy mid after g ∧
    a ≤ x.now ∧ x.now ≤ b ∧ (mid.isBanned ip x.now).1 = true

/-- What is left of `calls` bad requests sent since `a`, none of which led to a ban: a window
started since then holds those after its start, an older window holds them all, and a pruned one
held them all. -/
inductive Counting (a threshold calls : Nat) : Option BadWindow → Prop where
  | restarted {w : BadWindow} (hstart : a ≤ w.windowStart) (hcount : w.count < threshold)
      (hcalls : calls < threshold + w.count) : Counting a threshold calls (some w)
  | continued {w : BadWindow} (hcount : w.count < threshold) (hcalls : calls ≤ w.count) :
      Counting a threshold calls (some w)
  | pruned (hcalls : calls < threshold) : Counting a threshold calls none

section Detection

variable {start g g' : AnomalyGuard} {labels : List Label} {x : Label} {ip k : IpAddr}
  {a b now threshold calls : Nat}

theorem BannedWithin.snoc (h : BannedWithin start labels g ip a b) (hstep : Roomy g x g') :
    BannedWithin start (labels ++ [x]) g' ip a b := by
  obtain ⟨before, y, after, mid, rfl, hmid, hafter, hrest⟩ := h
  refine ⟨before, y, after ++ [x], mid, ?_, hmid, .snoc hafter hstep, hrest⟩
  simp

theorem Counting.lt_two_mul {w : Option BadWindow} (h : Counting a threshold calls w) :
    calls + 1 < 2 * threshold := by
  cases h with
  | restarted _ hcount hcalls => omega
  | continued hcount hcalls => omega
  | pruned hcalls => omega

/-- A call that does not reach the threshold is counted, whatever became of the window. -/
theorem Counting.call (h : Counting a g.cfg.badRequestsThreshold calls (g.bad.get ip))
    (hlen : b - a ≤ g.cfg.window) (ha : a ≤ now) (hb : now ≤ b) (hreach : ¬ g.Reaches ip now) :
    Counting a g.cfg.badRequestsThreshold (calls + 1)
      (some ⟨(g.currentWindow ip now).count + 1, (g.currentWindow ip now).windowStart⟩) := by
  have hcount : (g.currentWindow ip now).count + 1 < g.cfg.badRequestsThreshold :=
    not_le.mp hreach
  unfold currentWindow at hcount ⊢
  dsimp only at hcount ⊢
  cases hget : g.bad.get ip with
  | none =>
    rw [hget] at h hcount
    cases h with
    | pruned hcalls =>
      rw [Option.getD_none, ite_self] at hcount ⊢
      exact .restarted ha hcount (Nat.succ_lt_succ hcalls)
  | some w =>
    rw [hget] at h hcount
    rw [Option.getD_some] at hcount ⊢
    cases h with
    | restarted hstart _ hcalls =>
      -- A window that started inside the interval is not over before its end.
      have hopen : ¬ g.cfg.window < now - w.windowStart := by omega
      rw [if_neg hopen] at hcount ⊢
      exact .restarted hstart hcount (Nat.succ_lt_succ hcalls)
    | continued hold hcalls =>
      split at hcount
      · rename_i hover
        -- The restart forgets fewer calls than the threshold.
        rw [if_pos hover]
        exact .restarted ha hcount (Nat.succ_lt_succ (hcalls.trans_lt hold))
      · rename_i hopen
        rw [if_neg hopen]
        exact .continued hcount (Nat.succ_le_succ hcalls)

/-- Pruning forgets only windows that held every call. -/
theorem Counting.prune (h : Counting a threshold calls (g.bad.get ip))
    (hwindow : 0 < g.cfg.window) (hlen : b - a ≤ g.cfg.window) (hb : now ≤ b) :
    Counting a threshold calls ((g.prune now).bad.get ip) := by
  unfold AnomalyGuard.prune
  dsimp only
  rw [BTreeMap.get_retain]
  cases hget : g.bad.get ip with
  | none =>
    rw [hget] at h
    exact h
  | some w =>
    rw [hget] at h
    cases hkeep : decide (now - w.windowStart < g.cfg.window * 2) with
    | true => simpa [Option.filter, hkeep] using h
    | false =>
      have hold : ¬ now - w.windowStart < g.cfg.window * 2 := of_decide_eq_false hkeep
      cases h with
      | restarted hstart _ _ => omega
      | continued hcount hcalls =>
        simpa [Option.filter, hkeep] using Counting.pruned (hcalls.trans_lt hcount)

/-- A recorded bad request, banned at once or counted. -/
theorem Counting.recordBad {oldest soonest : IpAddr}
    (h : Counting a g.cfg.badRequestsThreshold calls (g.bad.get ip))
    (hthreshold : 0 < g.cfg.badRequestsThreshold) (hduration : 0 < g.cfg.banDuration)
    (hlen : b - a ≤ g.cfg.window) (hip : ip.isUnspecified = false)
    (hbad : g.bad.len < g.cfg.maxTrackedIps) (hbanned : g.banned.len < g.cfg.maxTrackedIps)
    (hb : now ≤ b) (hearly : now < a → calls = 0) :
    (a ≤ now ∧ ((g.recordBad ip now oldest soonest).isBanned ip now).1 = true) ∨
      Counting a g.cfg.badRequestsThreshold (if a ≤ now then calls + 1 else calls)
        ((g.recordBad ip now oldest soonest).bad.get ip) := by
  rw [recordBad_of_room hip hbad hbanned]
  -- The call reaches the threshold, and the window restarts, or it is counted.
  by_cases hreach : g.Reaches ip now
  · rw [if_pos hreach]
    by_cases ha : a ≤ now
    · refine .inl ⟨ha, ?_⟩
      unfold isBanned
      rw [hip, if_neg Bool.false_ne_true]
      dsimp only
      rw [BTreeMap.get_insert, if_pos rfl]
      dsimp only
      rw [if_pos (Nat.lt_add_of_pos_right hduration)]
    · -- A ban before the interval: no call of the interval is lost.
      rw [if_neg ha, hearly (not_le.mp ha)]
      dsimp only
      rw [BTreeMap.get_insert, if_pos rfl]
      exact .inr (.continued hthreshold (le_refl 0))
  · rw [if_neg hreach]
    dsimp only
    rw [BTreeMap.get_insert, if_pos rfl]
    refine .inr ?_
    by_cases ha : a ≤ now
    · rw [if_pos ha]
      exact h.call hlen ha hb hreach
    · rw [if_neg ha, hearly (not_le.mp ha)]
      exact .continued (not_le.mp hreach) (Nat.zero_le _)

theorem Step.cfg (h : Step g x g') : g'.cfg = g.cfg := by
  cases h with
  | recordBad _ _ => exact recordBad_cfg
  | isBanned => exact isBanned_cfg
  | prune => rfl

theorem cfg_of_run (h : Run Roomy start labels g) : g.cfg = start.cfg := by
  induction h with
  | nil => rfl
  | snoc _ hstep ih => exact hstep.step.cfg.trans ih

/-- A step that leaves room needs a place. -/
theorem max_pos_of_run (h : Run Roomy start labels g) (hne : labels ≠ []) :
    0 < start.cfg.maxTrackedIps := by
  cases h with
  | nil => exact absurd rfl hne
  | snoc hrun hstep =>
    rw [← cfg_of_run hrun, ← hstep.step.cfg]
    exact (Nat.zero_le _).trans_lt hstep.bad

/-- There was room before each step, as there is after it. -/
theorem room_of_run {cfg : AnomalyConfig} (h : Run Roomy (.new cfg) labels g)
    (hmax : 0 < cfg.maxTrackedIps) :
    g.cfg = cfg ∧ g.bad.len < g.cfg.maxTrackedIps ∧ g.banned.len < g.cfg.maxTrackedIps := by
  refine ⟨cfg_of_run h, ?_⟩
  cases h with
  | nil => exact ⟨hmax, hmax⟩
  | snoc _ hstep => exact ⟨hstep.bad, hstep.banned⟩

/-- Calls outside the interval do not count. -/
theorem badCalls_eq_zero (h : ∀ y ∈ labels, y.now < a ∨ b < y.now) :
    badCalls ip a b labels = 0 := by
  unfold badCalls
  rw [List.countP_eq_zero]
  intro y hy
  cases y with
  | recordBad now ip' =>
    have hnow : now < a ∨ b < now := h _ hy
    have hout : ¬ (a ≤ now ∧ now ≤ b) := by omega
    simp only [Label.isBadIn, decide_eq_true_eq]
    exact fun hin => hout hin.2
  | isBanned now ip' answer => exact Bool.false_ne_true
  | prune now => exact Bool.false_ne_true

/-- Up to the end of the interval, the address was banned or its calls are counted. -/
theorem bannedWithin_or_counting {cfg : AnomalyConfig}
    (hthreshold : 0 < cfg.badRequestsThreshold) (hwindow : 0 < cfg.window)
    (hduration : 0 < cfg.banDuration) (hmax : 0 < cfg.maxTrackedIps)
    (hip : ip.isUnspecified = false) (hlen : b - a ≤ cfg.window)
    (h : Run Roomy (.new cfg) labels g) (hordered : Ordered labels)
    (hpast : ∀ y ∈ labels, y.now ≤ b) :
    BannedWithin (.new cfg) labels g ip a b ∨
      Counting a cfg.badRequestsThreshold (badCalls ip a b labels) (g.bad.get ip) := by
  -- By induction on the run; once the address was banned in the interval, it stays so.
  induction h with
  | nil => exact .inr (.pruned hthreshold)
  | @snoc labels g g' x hrun hstep ih =>
    have hbefore : ∀ y ∈ labels, y.now ≤ x.now := fun y hy => hordered.le_last hy
    have hx : x.now ≤ b := hpast x (by simp)
    obtain ⟨hcfg, hbad, hbanned⟩ := room_of_run hrun hmax
    rcases ih hordered.initial fun y hy => hpast y (List.mem_append_left _ hy) with hdone | hcount
    · exact .inl (hdone.snoc hstep)
    have hreached (hstart : a ≤ x.now) (hyes : (g'.isBanned ip x.now).1 = true) :
        BannedWithin (.new cfg) (labels ++ [x]) g' ip a b :=
      ⟨labels, x, [], g', rfl, .snoc hrun hstep, .nil, hstart, hx, hyes⟩
    obtain ⟨hstep, -, -⟩ := hstep
    rw [badCalls_snoc]
    rw [← hcfg] at hcount hthreshold hwindow hduration hlen ⊢
    -- One case a step; the window is followed by the lemma of the step.
    cases hstep with
    | @recordBad now ip' oldest soonest hold hsoon =>
      by_cases hself : ip' = ip
      · subst hself
        have hnow : now ≤ b := hx
        have hearly : now < a → badCalls ip' a b labels = 0 := fun hlt =>
          badCalls_eq_zero fun y hy => .inl ((hbefore y hy).trans_lt hlt)
        rcases hcount.recordBad hthreshold hduration hlen hip hbad hbanned hnow hearly with
          ⟨ha, hyes⟩ | hcount
        · -- Banned by this call, at an instant of the interval.
          rw [hcfg]
          exact .inl (hreached ha hyes)
        · refine .inr ?_
          by_cases ha : a ≤ now
          · simpa [Label.isBadIn, ha, hnow] using hcount
          · simpa [Label.isBadIn, ha] using hcount
      · -- Another address: neither the window nor the number of calls changes.
        refine .inr ?_
        rw [get_bad_recordBad_other hbad hbanned (Ne.symm hself)]
        simpa [Label.isBadIn, hself] using hcount
    | isBanned =>
      refine .inr ?_
      rw [isBanned_bad]
      simpa [Label.isBadIn] using hcount
    | @prune now =>
      have hnow : now ≤ b := hx
      refine .inr ?_
      simpa [Label.isBadIn] using hcount.prune hwindow hlen hnow

theorem BannedWithin.append {first second : List Label}
    (h : BannedWithin start first g ip a b) (hrun : Run Roomy g second g') :
    BannedWithin start (first ++ second) g' ip a b := by
  obtain ⟨before, x, after, mid, rfl, hmid, hafter, hrest⟩ := h
  refine ⟨before, x, after ++ second, mid, ?_, hmid, Run.append_iff.mpr ⟨g, hafter, hrun⟩, hrest⟩
  simp

/-- The labels up to an instant come first. -/
theorem Ordered.split_at (hordered : Ordered labels) (b : Nat) :
    ∃ first second, labels = first ++ second ∧ (∀ y ∈ first, y.now ≤ b) ∧
      ∀ y ∈ second, b < y.now := by
  induction labels with
  | nil => exact ⟨[], [], rfl, nofun, nofun⟩
  | cons y labels ih =>
    obtain ⟨hy, hordered⟩ := List.pairwise_cons.mp hordered
    by_cases hb : y.now ≤ b
    · obtain ⟨first, second, rfl, hfirst, hsecond⟩ := ih hordered
      refine ⟨y :: first, second, rfl, ?_, hsecond⟩
      exact List.forall_mem_cons.mpr ⟨hb, hfirst⟩
    · refine ⟨[], y :: labels, rfl, nofun, ?_⟩
      exact List.forall_mem_cons.mpr ⟨not_le.mp hb, fun z hz => (not_le.mp hb).trans_le (hy z hz)⟩

theorem badCalls_append (first second : List Label) :
    badCalls ip a b (first ++ second) = badCalls ip a b first + badCalls ip a b second :=
  List.countP_append

/-- **Completeness of bans.** While there is room in both maps, an address that sends twice the
threshold of bad requests, less one, inside an interval no longer than the window is banned at an
instant of this interval. -/
theorem banned_of_badCalls {cfg : AnomalyConfig} (hthreshold : 1 ≤ cfg.badRequestsThreshold)
    (hwindow : 0 < cfg.window) (hduration : 0 < cfg.banDuration)
    (h : Run Roomy (.new cfg) labels g) (hordered : Ordered labels)
    (hip : ip.isUnspecified = false) (hlen : b - a ≤ cfg.window)
    (hcalls : 2 * cfg.badRequestsThreshold - 1 ≤ badCalls ip a b labels) :
    ∃ before x after mid, labels = before ++ x :: after ∧
      Run Roomy (.new cfg) (before ++ [x]) mid ∧ Run Roomy mid after g ∧
      a ≤ x.now ∧ x.now ≤ b ∧ (mid.isBanned ip x.now).1 = true := by
  obtain ⟨first, second, rfl, hfirst, hsecond⟩ := hordered.split_at b
  obtain ⟨mid, hrun, hrest⟩ := Run.append_iff.mp h
  rw [badCalls_append, badCalls_eq_zero fun y hy => .inr (hsecond y hy), Nat.add_zero] at hcalls
  have hne : first ≠ [] := by
    intro hnil
    rw [hnil] at hcalls
    have hzero : badCalls ip a b [] = 0 := rfl
    omega
  -- Calls after the interval play no part: the run is cut at its end.
  have hmax := max_pos_of_run hrun hne
  rcases bannedWithin_or_counting hthreshold hwindow hduration hmax hip hlen hrun
    (List.pairwise_append.mp hordered).1 hfirst with hbanned | hcount
  · exact hbanned.append hrest
  · -- Counted and never banned, the calls are fewer than twice the threshold.
    have := hcount.lt_two_mul
    omega

/-- A step with the label given, when it leaves room. -/
def roomyReplay (g : AnomalyGuard) (x : Label) : Option AnomalyGuard :=
  (g.replay x).filter fun g' =>
    decide (g'.bad.len < g'.cfg.maxTrackedIps) && decide (g'.banned.len < g'.cfg.maxTrackedIps)

theorem roomy_of_replay (h : g.roomyReplay x = some g') : Roomy g x g' := by
  obtain ⟨hstep, hroom⟩ := Option.filter_eq_some_iff.mp h
  rw [Bool.and_eq_true, decide_eq_true_eq, decide_eq_true_eq] at hroom
  exact ⟨step_of_replay hstep, hroom.1, hroom.2⟩

end Detection

/-- A ban, then the longest burst that can escape it: two calls before the restart of the window,
three after it. -/
def burst : List Label :=
  [.recordBad 0 (.v4 0xcb007109), .recordBad 0 (.v4 0xcb007109), .recordBad 0 (.v4 0xcb007109),
    .recordBad 59000000000 (.v4 0xcb007109), .recordBad 60000000000 (.v4 0xcb007109),
    .prune 60500000000, .recordBad 61000000000 (.v4 0xcb007109),
    .recordBad 62000000000 (.v4 0xcb007109), .recordBad 63000000000 (.v4 0xcb007109)]

theorem banned_of_badCalls_burst :
    ∃ g, ∃ before x after mid, burst = before ++ x :: after ∧
      Run Roomy (.new threeStrikes) (before ++ [x]) mid ∧ Run Roomy mid after g ∧
      59000000000 ≤ x.now ∧ x.now ≤ 63000000000 ∧
      (mid.isBanned (.v4 0xcb007109) x.now).1 = true := by
  obtain ⟨g, hg⟩ : ∃ g, burst.foldlM roomyReplay (.new threeStrikes) = some g :=
    Option.isSome_iff_exists.mp (by decide +kernel)
  have hrun : Run Roomy (.new threeStrikes) burst g :=
    (Run.of_foldlM hg).mono fun _ _ _ => roomy_of_replay
  have hordered : Ordered burst := by simp [Ordered, burst, Label.now]
  refine ⟨g, banned_of_badCalls (by decide) (by decide) (by decide) hrun hordered rfl ?_ ?_⟩
  · decide
  · decide

end AnomalyGuard

end Datacat.Security
