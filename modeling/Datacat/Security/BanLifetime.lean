import Datacat.Security.Detection

/-!
# Lifetime of Bans

A ban ends when it expires, unless its place is needed: a full map of bans evicts the one that
ends first. The guard makes this place before it looks whether the address to ban has one already,
so that banning an address again can lift the ban of another.

## Main results

- `get_banned_mono`: the only ban that a step can lift is the one it evicts.
- `lifted_makesRoom_iff`: bans are lifted for want of room only, except when an address is banned
  again while the map is full.
-/

namespace Datacat.Security

open Basics

namespace AnomalyGuard

/-! ## The bans after a step -/

/-- The bans that are left when one more needs a place. -/
def keptBans (g : AnomalyGuard) (now : Nat) (soonest : IpAddr) : BTreeMap IpAddr Nat :=
  (g.ensureBannedHeadroom now soonest).banned

/-- A bad request of `ip` leads to a ban. -/
def Bans (g : AnomalyGuard) (ip : IpAddr) (now : Nat) : Prop :=
  ip.isUnspecified = false ∧ g.Reaches ip now

section Bans

variable {g g' : AnomalyGuard} {ip oldest soonest k : IpAddr} {now til : Nat} {x : Label}
  {labels : List Label}

/-- Making room among the windows does not change the one that counts the request. -/
theorem currentWindow_ensureBadHeadroom :
    (g.ensureBadHeadroom ip now oldest).currentWindow ip now = g.currentWindow ip now := by
  unfold currentWindow
  rw [ensureBadHeadroom_cfg]
  by_cases hcontains : g.bad.contains ip = true
  · unfold ensureBadHeadroom
    rw [hcontains, Bool.true_or, if_pos rfl]
  · have hnone : g.bad.get ip = none := by
      rw [BTreeMap.contains, Bool.not_eq_true, Option.isSome_eq_false_iff] at hcontains
      exact Option.isNone_iff_eq_none.mp hcontains
    have hstill : (g.ensureBadHeadroom ip now oldest).bad.get ip = none := by
      cases hget : (g.ensureBadHeadroom ip now oldest).bad.get ip with
      | none => rfl
      | some w => exact absurd (get_ensureBadHeadroom hget) (by simp [hnone])
    rw [hnone, hstill]

theorem keptBans_bad (bad : BTreeMap IpAddr BadWindow) :
    keptBans { g with bad := bad } now soonest = g.keptBans now soonest := by
  unfold keptBans ensureBannedHeadroom activeBans
  dsimp only
  split
  · rfl
  · split <;> rfl

theorem exists_ensureBadHeadroom :
    ∃ bad, g.ensureBadHeadroom ip now oldest = { g with bad := bad } := by
  unfold ensureBadHeadroom
  split
  · exact ⟨g.bad, rfl⟩
  · split
    · exact ⟨_, rfl⟩
    · exact ⟨_, rfl⟩

theorem banned_recordBad_of_bans (h : g.Bans ip now) :
    (g.recordBad ip now oldest soonest).banned =
      (g.keptBans now soonest).insert ip (now + g.cfg.banDuration) := by
  obtain ⟨hip, hreach⟩ := h
  have hcount : (g.ensureBadHeadroom ip now oldest).cfg.badRequestsThreshold ≤
      ((g.ensureBadHeadroom ip now oldest).currentWindow ip now).count + 1 := by
    rw [currentWindow_ensureBadHeadroom, ensureBadHeadroom_cfg]
    exact hreach
  obtain ⟨bad, hbad⟩ := @exists_ensureBadHeadroom g ip oldest now
  rw [hbad] at hcount
  unfold recordBad
  rw [hip, hbad]
  dsimp only at hcount ⊢
  rw [if_neg Bool.false_ne_true, if_pos hcount]
  dsimp only
  rw [ensureBannedHeadroom_cfg]
  exact congrArg (fun kept => kept.insert ip (now + g.cfg.banDuration)) (keptBans_bad _)

theorem banned_recordBad_of_not_bans (h : ¬ g.Bans ip now) :
    (g.recordBad ip now oldest soonest).banned = g.banned := by
  unfold recordBad
  split
  · rfl
  · rename_i hip
    have hcount : ¬ g.cfg.badRequestsThreshold ≤ (g.currentWindow ip now).count + 1 :=
      fun hreach => h ⟨Bool.not_eq_true _ ▸ hip, hreach⟩
    dsimp only
    rw [currentWindow_ensureBadHeadroom, ensureBadHeadroom_cfg, if_neg hcount]
    exact ensureBadHeadroom_banned

/-! ## Bans that are lifted -/

/-- The step lifts an active ban of `k`: no ban of `k` lasts as long after it. -/
def Lifts (g : AnomalyGuard) (x : Label) (g' : AnomalyGuard) (k : IpAddr) : Prop :=
  ∃ til, g.banned.get k = some til ∧ x.now < til ∧
    ¬ ∃ til', g'.banned.get k = some til' ∧ til ≤ til'

/-- The step must ban an address that the map does not hold, and the map is full of active bans. -/
def MakesRoom (g : AnomalyGuard) (x : Label) : Prop :=
  ∃ now ip, x = .recordBad now ip ∧ g.Bans ip now ∧ g.banned.get ip = none ∧
    g.cfg.maxTrackedIps ≤ (g.activeBans now).len

/-- The step bans again an address whose ban is active while the map is full of active bans, and
the ban of another address is one of those that end first. -/
def Crowds (g : AnomalyGuard) (x : Label) : Prop :=
  ∃ now ip k til, x = .recordBad now ip ∧ g.Bans ip now ∧
    g.banned.get ip = some til ∧ now < til ∧ g.cfg.maxTrackedIps ≤ (g.activeBans now).len ∧
    k ≠ ip ∧ MinByKey (g.activeBans now) id k

/-- The bans end no later than a ban of the last instant would, and there is one place for each,
at least one. -/
structure Bounded (labels : List Label) (g : AnomalyGuard) : Prop where
  ends : ∀ k til, g.banned.get k = some til →
    ∀ t, (∀ x ∈ labels, x.now ≤ t) → til ≤ t + g.cfg.banDuration
  places : g.banned.len ≤ max g.cfg.maxTrackedIps 1

theorem get_activeBans {n : Nat} :
    (g.activeBans now).get k = some n ↔ g.banned.get k = some n ∧ now < n := by
  unfold activeBans
  rw [BTreeMap.get_retain_eq_some_iff, decide_eq_true_eq]

theorem get_keptBans_of_active (hget : g.banned.get k = some til) (hactive : now < til)
    (hkeep : k ≠ soonest ∨ (g.activeBans now).len < g.cfg.maxTrackedIps) :
    (g.keptBans now soonest).get k = some til := by
  unfold keptBans ensureBannedHeadroom
  split
  · exact hget
  · split
    · exact get_activeBans.mpr ⟨hget, hactive⟩
    · rename_i hfull
      have hne : k ≠ soonest := hkeep.resolve_right hfull
      dsimp only
      rw [BTreeMap.get_remove, if_neg hne]
      exact get_activeBans.mpr ⟨hget, hactive⟩

theorem get_of_keptBans (h : (g.keptBans now soonest).get k = some til) :
    g.banned.get k = some til :=
  get_ensureBannedHeadroom h

/-- A full map loses the ban that ends first. -/
theorem get_keptBans_soonest (hfull : g.cfg.maxTrackedIps ≤ (g.activeBans now).len) :
    (g.keptBans now soonest).get soonest = none := by
  have hlen : ¬ g.banned.len < g.cfg.maxTrackedIps :=
    not_lt.mpr (hfull.trans (BTreeMap.len_retain_le _ _))
  unfold keptBans ensureBannedHeadroom
  rw [if_neg hlen, if_neg (not_lt.mpr hfull)]
  dsimp only
  rw [BTreeMap.get_remove, if_pos rfl]

/-- An active ban survives the question whether an address is banned. -/
theorem get_isBanned_of_active (hget : g.banned.get k = some til) (hactive : now < til) :
    (g.isBanned ip now).2.banned.get k = some til := by
  unfold isBanned
  split
  · exact hget
  · split
    · rename_i til' hget'
      split
      · exact hget
      · rename_i hexpired
        dsimp only
        rw [BTreeMap.get_remove, if_neg]
        · exact hget
        · rintro rfl
          obtain rfl : til = til' := Option.some.inj (hget.symm.trans hget')
          exact hexpired hactive
    · exact hget

/-- **What a step can lift**: the ban that it evicts, when it bans an address and the map is full
of active bans. -/
theorem get_banned_mono (hbounded : Bounded labels g) (hordered : Ordered (labels ++ [x]))
    (hstep : Step g x g') (hlifts : Lifts g x g' k) :
    ∃ now ip, x = .recordBad now ip ∧ g.Bans ip now ∧ k ≠ ip ∧
      g.cfg.maxTrackedIps ≤ (g.activeBans now).len ∧ MinByKey (g.activeBans now) id k := by
  obtain ⟨til, hget, hactive, hlost⟩ := hlifts
  cases hstep with
  | @recordBad now ip oldest soonest holdest hsoonest =>
    by_cases hbans : g.Bans ip now
    · rw [banned_recordBad_of_bans hbans, BTreeMap.get_insert] at hlost
      by_cases hself : k = ip
      · -- The new ban of an address lasts at least as long as its old one.
        rw [if_pos hself] at hlost
        have hends := hbounded.ends k til hget now fun y hy => hordered.le_last hy
        exact absurd ⟨_, rfl, hends⟩ hlost
      · -- A ban that is lost was the one evicted, so the map was full.
        rw [if_neg hself] at hlost
        have hevicted : ¬ (k ≠ soonest ∨ (g.activeBans now).len < g.cfg.maxTrackedIps) :=
          fun hkeep => hlost ⟨til, get_keptBans_of_active hget hactive hkeep, le_refl til⟩
        rw [not_or, not_not, not_lt] at hevicted
        obtain ⟨rfl, hfull⟩ := hevicted
        exact ⟨now, ip, rfl, hbans, hself, hfull, hsoonest⟩
    · rw [banned_recordBad_of_not_bans hbans] at hlost
      exact absurd ⟨til, hget, le_refl til⟩ hlost
  -- The other steps lift no ban that is active.
  | isBanned => exact absurd ⟨til, get_isBanned_of_active hget hactive, le_refl til⟩ hlost
  | prune => exact absurd ⟨til, get_activeBans.mpr ⟨hget, hactive⟩, le_refl til⟩ hlost

/-- Evicting the ban that ends first leaves a place. -/
theorem len_keptBans (hsoonest : MinByKey (g.activeBans now) id soonest)
    (hplaces : g.banned.len ≤ max g.cfg.maxTrackedIps 1) :
    (g.keptBans now soonest).len + 1 ≤ max g.cfg.maxTrackedIps 1 := by
  unfold keptBans ensureBannedHeadroom
  split
  · exact (Nat.succ_le_of_lt ‹_›).trans (le_max_left _ _)
  · split
    · exact (Nat.succ_le_of_lt ‹_›).trans (le_max_left _ _)
    · exact len_remove_minByKey hsoonest ((BTreeMap.len_retain_le _ _).trans hplaces)

theorem len_banned_isBanned : (g.isBanned ip now).2.banned.len ≤ g.banned.len := by
  unfold isBanned
  split
  · exact le_refl _
  · split
    · split
      · exact le_refl _
      · exact BTreeMap.len_retain_le _ _
    · exact le_refl _

/-- No step lets the bans outgrow their places. -/
theorem len_banned_step (h : Step g x g') (hplaces : g.banned.len ≤ max g.cfg.maxTrackedIps 1) :
    g'.banned.len ≤ max g'.cfg.maxTrackedIps 1 := by
  cases h with
  | @recordBad now ip oldest soonest holdest hsoonest =>
    rw [recordBad_cfg]
    by_cases hbans : g.Bans ip now
    · rw [@banned_recordBad_of_bans g ip oldest soonest now hbans]
      exact (BTreeMap.len_insert_le _ _ _).trans (len_keptBans hsoonest hplaces)
    · rw [@banned_recordBad_of_not_bans g ip oldest soonest now hbans]
      exact hplaces
  | isBanned =>
    rw [isBanned_cfg]
    exact len_banned_isBanned.trans hplaces
  | prune => exact (BTreeMap.len_retain_le _ _).trans hplaces

/-- A ban that was there ends as it did. -/
theorem Bounded.ends_of_get (h : Bounded labels g) (hget : g.banned.get k = some til) :
    ∀ t, (∀ y ∈ labels ++ [x], y.now ≤ t) → til ≤ t + g.cfg.banDuration :=
  fun t ht => h.ends k til hget t fun y hy => ht y (List.mem_append_left _ hy)

theorem Bounded.step (h : Bounded labels g) (hstep : Step g x g') : Bounded (labels ++ [x]) g' := by
  refine ⟨fun k til htil => ?_, len_banned_step hstep h.places⟩
  cases hstep with
  | @recordBad now ip oldest soonest holdest hsoonest =>
    rw [recordBad_cfg]
    by_cases hbans : g.Bans ip now
    · rw [@banned_recordBad_of_bans g ip oldest soonest now hbans, BTreeMap.get_insert] at htil
      -- No ban ends later than the new one.
      split at htil
      · obtain rfl := Option.some.inj htil
        intro t ht
        have hnow : now ≤ t := ht (.recordBad now ip) (by simp)
        exact Nat.add_le_add_right hnow _
      · exact h.ends_of_get (get_of_keptBans htil)
    · rw [@banned_recordBad_of_not_bans g ip oldest soonest now hbans] at htil
      exact h.ends_of_get htil
  | isBanned =>
    rw [isBanned_cfg]
    exact h.ends_of_get (get_isBanned htil)
  | prune => exact h.ends_of_get (get_activeBans.mp htil).1

theorem bounded_of_run {cfg : AnomalyConfig} (h : Run Step (.new cfg) labels g) :
    Bounded labels g := by
  induction h with
  | nil => exact ⟨fun k til htil => by simp [new] at htil, Nat.zero_le _⟩
  | snoc _ hstep ih => exact ih.step hstep

/-- An expired entry leaves the map of bans short of a full one. -/
theorem banned_none_of_full (hbounded : Bounded labels g)
    (hfull : g.cfg.maxTrackedIps ≤ (g.activeBans now).len) (hsome : (g.activeBans now).entries ≠ [])
    (hnot : ∀ til, g.banned.get ip = some til → ¬ now < til) : g.banned.get ip = none := by
  cases hget : g.banned.get ip with
  | none => rfl
  | some til =>
    have hlt : (g.activeBans now).len < g.banned.len :=
      BTreeMap.len_retain_lt _ hget (decide_eq_false (hnot til hget))
    have hpos : 0 < (g.activeBans now).len := List.length_pos_of_ne_nil hsome
    have hplaces := hbounded.places
    omega

/-- From a state of a run, a step lifts bans for want of room only, unless it crowds. -/
theorem lifts_makesRoom_iff_of_bounded (hbounded : Bounded labels g)
    (hordered : Ordered (labels ++ [x])) :
    (∀ g', Step g x g' → ∀ k, Lifts g x g' k → MakesRoom g x) ↔ ¬ Crowds g x := by
  constructor
  · rintro h ⟨now, ip, k, til, rfl, hbans, hget, hactive, hfull, hne, hmin⟩
    -- Evict `k`: its ban was active, and `ip` had a place already.
    have hip : (g.activeBans now).get ip = some til := get_activeBans.mpr ⟨hget, hactive⟩
    have hsome : (g.activeBans now).entries ≠ [] :=
      List.ne_nil_of_mem ((BTreeMap.get_eq_some_iff _ _ _).mp hip)
    obtain ⟨n, hn, -⟩ := hmin hsome
    obtain ⟨hkget, hkactive⟩ := get_activeBans.mp hn
    have hstep := @Step.recordBad g now ip _ k
      (minByKey_spec (g.purgedBad now) BadWindow.windowStart) hmin
    have hlost : ¬ ∃ til',
        (g.recordBad ip now (minByKey (g.purgedBad now) BadWindow.windowStart) k).banned.get k =
          some til' ∧ n ≤ til' := by
      rw [banned_recordBad_of_bans hbans, BTreeMap.get_insert, if_neg hne,
        get_keptBans_soonest hfull]
      exact fun hex => nomatch hex.choose_spec.1
    obtain ⟨now', ip', hx, -, hnone, -⟩ := h _ hstep k ⟨n, hkget, hkactive, hlost⟩
    obtain ⟨rfl, rfl⟩ := Label.recordBad.inj hx
    rw [hget] at hnone
    cases hnone
  · intro hfree g' hstep k hlifts
    obtain ⟨now, ip, rfl, hbans, hne, hfull, hmin⟩ :=
      get_banned_mono hbounded hordered hstep hlifts
    obtain ⟨n, hn, hactive, -⟩ := hlifts
    have hk : (g.activeBans now).get k = some n := get_activeBans.mpr ⟨hn, hactive⟩
    have hsome : (g.activeBans now).entries ≠ [] :=
      List.ne_nil_of_mem ((BTreeMap.get_eq_some_iff _ _ _).mp hk)
    refine ⟨now, ip, rfl, hbans, ?_, hfull⟩
    apply banned_none_of_full hbounded hfull hsome
    exact fun til hget htil => hfree ⟨now, ip, k, til, rfl, hbans, hget, htil, hfull, hne, hmin⟩

/-- **Lifetime of bans.** Along a run, a ban that has not expired is lifted only to make room for
an address that the full map does not hold, if and only if no step crowds: none bans again an
address whose ban is active while the map is full and the ban of another address is among those
that end first. -/
theorem lifted_makesRoom_iff (cfg : AnomalyConfig) (hordered : Ordered labels) :
    (∀ before x after g g', labels = before ++ x :: after → Run Step (.new cfg) before g →
      Step g x g' → ∀ k, Lifts g x g' k → MakesRoom g x) ↔
      ∀ before x after g, labels = before ++ x :: after → Run Step (.new cfg) before g →
        ¬ Crowds g x := by
  have hstep {before after : List Label} {x : Label} {g : AnomalyGuard}
      (hlabels : labels = before ++ x :: after) (hrun : Run Step (.new cfg) before g) :=
    lifts_makesRoom_iff_of_bounded (bounded_of_run hrun)
      (show Ordered (before ++ [x]) by
        rw [hlabels, List.append_cons] at hordered
        exact (List.pairwise_append.mp hordered).1)
  constructor
  · intro h before x after g hlabels hrun
    exact (hstep hlabels hrun).mp fun g' => h before x after g g' hlabels hrun
  · intro h before x after g g' hlabels hrun
    exact (hstep hlabels hrun).mpr (h before x after g hlabels hrun) g'

end Bans

/-- One bad request bans, and there is room for two bans. -/
def twoPlaces : AnomalyConfig :=
  { AnomalyConfig.default with badRequestsThreshold := 1, maxTrackedIps := 2 }

/-- Two addresses fill the map of bans; the second one is then banned again. -/
def banAgain : List Label :=
  [.recordBad 0 (.v4 0xcb007101), .recordBad 1 (.v4 0xcb007102), .recordBad 2 (.v4 0xcb007102)]

/-- The second ban of an address lifts the ban of the other, although both have their place. -/
theorem lifts_of_banAgain :
    ¬ ∀ before x after g g', banAgain = before ++ x :: after → Run Step (.new twoPlaces) before g →
      Step g x g' → ∀ k, Lifts g x g' k → MakesRoom g x := by
  intro h
  let first := banAgain.take 2
  obtain ⟨g, hg⟩ : ∃ g, first.foldlM replay (.new twoPlaces) = some g :=
    Option.isSome_iff_exists.mp (by decide +kernel)
  have hsecond : (first.foldlM replay (.new twoPlaces)).bind (fun g =>
      g.banned.get (.v4 0xcb007102)) = some 300000000001 := by decide +kernel
  obtain ⟨g', hg'⟩ : ∃ g', g.replay (.recordBad 2 (.v4 0xcb007102)) = some g' := ⟨_, rfl⟩
  have hbefore : g.banned.get (.v4 0xcb007101) = some 300000000000 := by
    have heval : (first.foldlM replay (.new twoPlaces)).bind (fun g =>
      g.banned.get (.v4 0xcb007101)) = some 300000000000 := by decide +kernel
    rwa [hg] at heval
  -- Evaluated on the whole run: the first address has lost its ban.
  have hafter : g'.banned.get (.v4 0xcb007101) = none := by
    have heval : (banAgain.foldlM replay (.new twoPlaces)).map (fun g =>
      g.banned.get (.v4 0xcb007101)) = some none := by decide +kernel
    have hall : banAgain.foldlM replay (.new twoPlaces) = some g' := by
      rw [show banAgain = first ++ [.recordBad 2 (.v4 0xcb007102)] from rfl, List.foldlM_append, hg]
      exact hg'
    rw [hall] at heval
    exact Option.some.inj heval
  have hrun : Run Step (.new twoPlaces) first g :=
    (Run.of_foldlM hg).mono fun _ _ _ => step_of_replay
  have hlifts : Lifts g (.recordBad 2 (.v4 0xcb007102)) g' (.v4 0xcb007101) := by
    refine ⟨300000000000, hbefore, (by decide : (2 : Nat) < 300000000000), ?_⟩
    rw [hafter]
    exact fun hex => nomatch hex.choose_spec.1
  -- The lifted ban should have been lost to a new address, and the second one was banned before.
  obtain ⟨now, ip, hx, -, hnone, -⟩ := h first _ [] g g' rfl hrun (step_of_replay hg') _ hlifts
  obtain ⟨rfl, rfl⟩ := Label.recordBad.inj hx
  rw [hg] at hsecond
  exact nomatch hsecond.symm.trans hnone

theorem lifted_makesRoom_iff_banAgain :
    (∀ before x after g g', banAgain = before ++ x :: after → Run Step (.new twoPlaces) before g →
      Step g x g' → ∀ k, Lifts g x g' k → MakesRoom g x) ↔
      ∀ before x after g, banAgain = before ++ x :: after → Run Step (.new twoPlaces) before g →
        ¬ Crowds g x :=
  lifted_makesRoom_iff twoPlaces (by simp [Ordered, banAgain, Label.now])

end AnomalyGuard

end Datacat.Security
