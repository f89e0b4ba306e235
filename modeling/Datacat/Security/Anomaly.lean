import Datacat.Basics.BTreeMap
import Datacat.Basics.Net
import Datacat.Basics.Run

/-!
# The Anomaly Guard

Counts the bad requests of an address inside a window that restarts, and bans the address for a
while when there are too many. Both maps are bounded: an entry is evicted when a new one needs
its place.

The code's maps have no order. Which of several equally old entries is evicted is therefore a
choice of each step, within what `min_by_key` allows.

## Main results

- `Sound`: each count is a number of calls since the start of its window, each ban was earned.
- `ban_sound`: an address that is banned sent enough bad requests, recently.
-/

namespace Datacat.Security

open Basics

/-- `AnomalyConfig`; durations are in nanoseconds. -/
structure AnomalyConfig where
  badRequestsThreshold : Nat
  window : Nat
  banDuration : Nat
  maxTrackedIps : Nat

/-- `AnomalySection::default`. -/
def AnomalyConfig.default : AnomalyConfig where
  badRequestsThreshold := 100
  window := 60000000000
  banDuration := 300000000000
  maxTrackedIps := 200000

structure BadWindow where
  count : Nat
  windowStart : Nat
deriving DecidableEq

structure AnomalyGuard where
  cfg : AnomalyConfig
  bad : BTreeMap IpAddr BadWindow
  /-- The end of each ban. -/
  banned : BTreeMap IpAddr Nat

namespace AnomalyGuard

def new (cfg : AnomalyConfig) : AnomalyGuard where
  cfg := cfg
  bad := .empty
  banned := .empty

/-- Whether the address is banned; an expired ban is removed. -/
def isBanned (g : AnomalyGuard) (ip : IpAddr) (now : Nat) : Bool × AnomalyGuard :=
  if ip.isUnspecified then (false, g)
  else
    match g.banned.get ip with
    | some til =>
      if now < til then (true, g) else (false, { g with banned := g.banned.remove ip })
    | none => (false, g)

/-- The windows left by the purge of a full map. -/
def purgedBad (g : AnomalyGuard) (now : Nat) : BTreeMap IpAddr BadWindow :=
  g.bad.retain fun _ w => decide (now - w.windowStart < g.cfg.window)

/-- The bans that have not expired. -/
def activeBans (g : AnomalyGuard) (now : Nat) : BTreeMap IpAddr Nat :=
  g.banned.retain fun _ til => decide (now < til)

/-- A place for `ip` among the windows; `oldest` is evicted when the purge leaves none. -/
def ensureBadHeadroom (g : AnomalyGuard) (ip : IpAddr) (now : Nat) (oldest : IpAddr) :
    AnomalyGuard :=
  if g.bad.contains ip || decide (g.bad.len < g.cfg.maxTrackedIps) then g
  else if (g.purgedBad now).len < g.cfg.maxTrackedIps then { g with bad := g.purgedBad now }
  else { g with bad := (g.purgedBad now).remove oldest }

/-- A place among the bans; `soonest` is evicted when they are all active. -/
def ensureBannedHeadroom (g : AnomalyGuard) (now : Nat) (soonest : IpAddr) : AnomalyGuard :=
  if g.banned.len < g.cfg.maxTrackedIps then g
  else if (g.activeBans now).len < g.cfg.maxTrackedIps then { g with banned := g.activeBans now }
  else { g with banned := (g.activeBans now).remove soonest }

/-- The window of an address, new when it has none, restarted when it is over. -/
def currentWindow (g : AnomalyGuard) (ip : IpAddr) (now : Nat) : BadWindow :=
  let w := (g.bad.get ip).getD ⟨0, now⟩
  if g.cfg.window < now - w.windowStart then ⟨0, now⟩ else w

/-- Records a bad request, and bans its address when the threshold is reached. -/
def recordBad (g : AnomalyGuard) (ip : IpAddr) (now : Nat) (oldest soonest : IpAddr) :
    AnomalyGuard :=
  if ip.isUnspecified then g
  else
    let g := g.ensureBadHeadroom ip now oldest
    let w := g.currentWindow ip now
    let count := w.count + 1
    if g.cfg.badRequestsThreshold ≤ count then
      let g := { g with bad := g.bad.insert ip ⟨0, now⟩ }
      let g := g.ensureBannedHeadroom now soonest
      { g with banned := g.banned.insert ip (now + g.cfg.banDuration) }
    else { g with bad := g.bad.insert ip ⟨count, w.windowStart⟩ }

def prune (g : AnomalyGuard) (now : Nat) : AnomalyGuard :=
  { g with
    banned := g.activeBans now
    bad := g.bad.retain fun _ w => decide (now - w.windowStart < g.cfg.window * 2) }

/-! ## Runs -/

/-- A key that `min_by_key` may give. -/
def MinByKey {ν : Type} (m : BTreeMap IpAddr ν) (key : ν → Nat) (k : IpAddr) : Prop :=
  m.entries ≠ [] → ∃ v, m.get k = some v ∧ ∀ k' v', m.get k' = some v' → key v ≤ key v'

inductive Label where
  | recordBad (now : Nat) (ip : IpAddr)
  | isBanned (now : Nat) (ip : IpAddr) (answer : Bool)
  | prune (now : Nat)

def Label.now : Label → Nat
  | recordBad now _ => now
  | isBanned now .. => now
  | prune now => now

inductive Step : AnomalyGuard → Label → AnomalyGuard → Prop where
  | recordBad {g : AnomalyGuard} {now : Nat} {ip oldest soonest : IpAddr} :
      MinByKey (g.purgedBad now) BadWindow.windowStart oldest →
      MinByKey (g.activeBans now) id soonest →
      Step g (.recordBad now ip) (g.recordBad ip now oldest soonest)
  | isBanned {g : AnomalyGuard} {now : Nat} {ip : IpAddr} :
      Step g (.isBanned now ip (g.isBanned ip now).1) (g.isBanned ip now).2
  | prune {g : AnomalyGuard} {now : Nat} : Step g (.prune now) (g.prune now)

/-- A choice of `min_by_key`, when there is one. -/
def minByKey {ν : Type} (m : BTreeMap IpAddr ν) (key : ν → Nat) : IpAddr :=
  ((m.entries.argmin fun e => key e.2).map Prod.fst).getD (.v4 0)

theorem minByKey_spec {ν : Type} (m : BTreeMap IpAddr ν) (key : ν → Nat) :
    MinByKey m key (minByKey m key) := by
  intro hne
  obtain ⟨⟨k, v⟩, he⟩ : ∃ e, m.entries.argmin (fun e => key e.2) = some e := by
    cases h : m.entries.argmin fun e => key e.2 with
    | none => exact absurd (List.argmin_eq_none.mp h) hne
    | some e => exact ⟨e, rfl⟩
  have hkey : minByKey m key = k := by
    unfold minByKey
    rw [he]
    rfl
  refine ⟨v, ?_, fun k' v' hget => ?_⟩
  · rw [hkey]
    exact (m.get_eq_some_iff k v).mpr (List.argmin_mem he)
  · have hmem := (m.get_eq_some_iff k' v').mp hget
    exact @List.le_of_mem_argmin _ _ _ (fun e : IpAddr × ν => key e.2) _ _ _ hmem he

/-- Evicting a key that `min_by_key` gives leaves a place; an empty map has one. -/
theorem len_remove_minByKey {ν : Type} {m : BTreeMap IpAddr ν} {key : ν → Nat} {k : IpAddr}
    {places : Nat} (h : MinByKey m key k) (hlen : m.len ≤ max places 1) :
    (m.remove k).len + 1 ≤ max places 1 := by
  by_cases hempty : m.entries = []
  · have hzero : (m.remove k).len = 0 := by
      have hlen : m.len = 0 := by rw [BTreeMap.len, hempty]; rfl
      exact Nat.le_zero.mp (hlen ▸ BTreeMap.len_retain_le _ _)
    rw [hzero]
    exact le_max_right _ _
  · obtain ⟨v, hget, -⟩ := h hempty
    have hlt : (m.remove k).len < m.len := BTreeMap.len_retain_lt _ hget (by simp)
    exact (Nat.succ_le_of_lt hlt).trans hlen

/-- A step with the label given, when its answer is the one taken. -/
def replay (g : AnomalyGuard) : Label → Option AnomalyGuard
  | .recordBad now ip =>
    some (g.recordBad ip now (minByKey (g.purgedBad now) BadWindow.windowStart)
      (minByKey (g.activeBans now) id))
  | .isBanned now ip answer =>
    let (a, g') := g.isBanned ip now
    if a = answer then some g' else none
  | .prune now => some (g.prune now)

theorem step_of_replay {g g' : AnomalyGuard} {a : Label} (h : g.replay a = some g') :
    Step g a g' := by
  unfold replay at h
  cases a with
  | recordBad now ip =>
    obtain rfl := Option.some.inj h
    exact .recordBad (minByKey_spec _ _) (minByKey_spec _ _)
  | isBanned now ip answer =>
    dsimp only at h
    split at h
    · rename_i ha
      obtain rfl := Option.some.inj h
      rw [← ha]
      exact .isBanned
    · cases h
  | prune now =>
    obtain rfl := Option.some.inj h
    exact .prune

theorem run_of_replay {g : AnomalyGuard} {labels : List Label}
    (h : (labels.foldlM replay g).isSome = true) : ∃ g', Run Step g labels g' := by
  obtain ⟨g', hg'⟩ := Option.isSome_iff_exists.mp h
  exact ⟨g', (Run.of_foldlM hg').mono fun _ _ _ => step_of_replay⟩

/-- Instants that never go back. -/
def Ordered (labels : List Label) : Prop := labels.Pairwise fun a b => a.now ≤ b.now

theorem Ordered.initial {labels : List Label} {a : Label} (h : Ordered (labels ++ [a])) :
    Ordered labels := (List.pairwise_append.mp h).1

theorem Ordered.le_last {labels : List Label} {a b : Label} (h : Ordered (labels ++ [a]))
    (hb : b ∈ labels) : b.now ≤ a.now :=
  (List.pairwise_append.mp h).2.2 b hb a (List.mem_singleton_self a)

/-! ## What each operation leaves -/

section Frames

variable {g : AnomalyGuard} {ip oldest soonest k : IpAddr} {now : Nat}

theorem get_isBanned {til : Nat} (h : (g.isBanned ip now).2.banned.get k = some til) :
    g.banned.get k = some til := by
  unfold isBanned at h
  split at h
  · exact h
  · split at h
    · split at h
      · exact h
      · dsimp only at h
        rw [BTreeMap.get_remove] at h
        split at h
        · cases h
        · exact h
    · exact h

theorem isBanned_bad : (g.isBanned ip now).2.bad = g.bad := by
  unfold isBanned
  split
  · rfl
  · split
    · split <;> rfl
    · rfl

theorem isBanned_cfg : (g.isBanned ip now).2.cfg = g.cfg := by
  unfold isBanned
  split
  · rfl
  · split
    · split <;> rfl
    · rfl

/-- The guard answers yes while a ban is active. -/
theorem isBanned_eq_true (h : (g.isBanned ip now).1 = true) :
    ∃ til, g.banned.get ip = some til ∧ now < til := by
  unfold isBanned at h
  split at h
  · cases h
  · split at h
    · rename_i til htil
      split at h
      · exact ⟨til, htil, ‹_›⟩
      · cases h
    · cases h

theorem ensureBadHeadroom_cfg : (g.ensureBadHeadroom ip now oldest).cfg = g.cfg := by
  unfold ensureBadHeadroom
  split
  · rfl
  · split <;> rfl

theorem ensureBadHeadroom_banned : (g.ensureBadHeadroom ip now oldest).banned = g.banned := by
  unfold ensureBadHeadroom
  split
  · rfl
  · split <;> rfl

theorem get_ensureBadHeadroom {w : BadWindow}
    (h : (g.ensureBadHeadroom ip now oldest).bad.get k = some w) : g.bad.get k = some w := by
  unfold ensureBadHeadroom at h
  split at h
  · exact h
  · split at h
    · exact ((BTreeMap.get_retain_eq_some_iff _ _ _ _).mp h).1
    · dsimp only at h
      rw [BTreeMap.get_remove] at h
      split at h
      · cases h
      · exact ((BTreeMap.get_retain_eq_some_iff _ _ _ _).mp h).1

theorem ensureBannedHeadroom_cfg : (g.ensureBannedHeadroom now soonest).cfg = g.cfg := by
  unfold ensureBannedHeadroom
  split
  · rfl
  · split <;> rfl

theorem ensureBannedHeadroom_bad : (g.ensureBannedHeadroom now soonest).bad = g.bad := by
  unfold ensureBannedHeadroom
  split
  · rfl
  · split <;> rfl

theorem get_ensureBannedHeadroom {til : Nat}
    (h : (g.ensureBannedHeadroom now soonest).banned.get k = some til) :
    g.banned.get k = some til := by
  unfold ensureBannedHeadroom at h
  split at h
  · exact h
  · split at h
    · exact ((BTreeMap.get_retain_eq_some_iff _ _ _ _).mp h).1
    · dsimp only at h
      rw [BTreeMap.get_remove] at h
      split at h
      · cases h
      · exact ((BTreeMap.get_retain_eq_some_iff _ _ _ _).mp h).1

/-- The window that counts a bad request: a new one, or the one of the address when it is not
over. -/
def Current (g : AnomalyGuard) (ip : IpAddr) (now : Nat) (w : BadWindow) : Prop :=
  w = ⟨0, now⟩ ∨ (g.bad.get ip = some w ∧ now - w.windowStart ≤ g.cfg.window)

theorem current_currentWindow : g.Current ip now (g.currentWindow ip now) := by
  unfold currentWindow Current
  dsimp only
  split
  · exact .inl rfl
  · rename_i hopen
    cases hget : g.bad.get ip with
    | none => exact .inl rfl
    | some w =>
      rw [hget] at hopen
      exact .inr ⟨rfl, not_lt.mp hopen⟩

theorem current_of_headroom {w : BadWindow}
    (h : (g.ensureBadHeadroom ip now oldest).Current ip now w) : g.Current ip now w := by
  refine h.imp_right fun hget => ⟨get_ensureBadHeadroom hget.1, ?_⟩
  rw [← @ensureBadHeadroom_cfg g ip oldest now]
  exact hget.2

theorem recordBad_cfg : (g.recordBad ip now oldest soonest).cfg = g.cfg := by
  unfold recordBad
  split
  · rfl
  · dsimp only
    split
    · exact ensureBannedHeadroom_cfg.trans ensureBadHeadroom_cfg
    · exact ensureBadHeadroom_cfg

/-- A window after a bad request: it was there before, or it counts this request, or it starts
again after a ban. -/
theorem get_bad_recordBad {w : BadWindow}
    (h : (g.recordBad ip now oldest soonest).bad.get k = some w) :
    g.bad.get k = some w ∨ (k = ip ∧ (w = ⟨0, now⟩ ∨
      ∃ v, g.Current ip now v ∧ w = ⟨v.count + 1, v.windowStart⟩)) := by
  unfold recordBad at h
  split at h
  · exact .inl h
  · dsimp only at h
    split at h
    · rw [ensureBannedHeadroom_bad, BTreeMap.get_insert] at h
      split at h
      · exact .inr ⟨‹_›, .inl (Option.some.inj h).symm⟩
      · exact .inl (get_ensureBadHeadroom h)
    · rw [BTreeMap.get_insert] at h
      split at h
      · exact .inr ⟨‹_›, .inr ⟨_, current_of_headroom current_currentWindow,
          (Option.some.inj h).symm⟩⟩
      · exact .inl (get_ensureBadHeadroom h)

/-- A ban after a bad request: it was there before, or the threshold is reached. -/
theorem get_banned_recordBad {til : Nat}
    (h : (g.recordBad ip now oldest soonest).banned.get k = some til) :
    g.banned.get k = some til ∨ (k = ip ∧ ip.isUnspecified = false ∧
      til = now + g.cfg.banDuration ∧
      ∃ v, g.Current ip now v ∧ g.cfg.badRequestsThreshold ≤ v.count + 1) := by
  unfold recordBad at h
  split at h
  · -- An unspecified address is not followed at all.
    exact .inl h
  · rename_i hip
    dsimp only at h
    split at h
    · -- The threshold is reached: the new ban, or one kept by the headroom.
      rename_i hreached
      rw [BTreeMap.get_insert, ensureBannedHeadroom_cfg] at h
      dsimp only at h
      rw [ensureBadHeadroom_cfg] at h hreached
      split at h
      · exact .inr ⟨‹_›, Bool.not_eq_true _ ▸ hip, (Option.some.inj h).symm, _,
          current_of_headroom current_currentWindow, hreached⟩
      · have hold := get_ensureBannedHeadroom h
        dsimp only at hold
        rw [ensureBadHeadroom_banned] at hold
        exact .inl hold
    · -- Below the threshold only the windows change.
      rw [ensureBadHeadroom_banned] at h
      exact .inl h

end Frames

/-! ## Soundness of bans -/

/-- A bad request of `ip` in `[a, b]`. -/
def Label.isBadIn (ip : IpAddr) (a b : Nat) : Label → Bool
  | .recordBad now ip' => decide (ip' = ip ∧ a ≤ now ∧ now ≤ b)
  | _ => false

/-- The number of bad requests of `ip` in `[a, b]`. -/
def badCalls (ip : IpAddr) (a b : Nat) (labels : List Label) : Nat :=
  labels.countP (Label.isBadIn ip a b)

theorem badCalls_snoc (ip : IpAddr) (a b : Nat) (labels : List Label) (x : Label) :
    badCalls ip a b (labels ++ [x]) =
      badCalls ip a b labels + if x.isBadIn ip a b then 1 else 0 := by
  simp [badCalls, List.countP_append]

theorem badCalls_le_snoc (ip : IpAddr) (a b : Nat) (labels : List Label) (x : Label) :
    badCalls ip a b labels ≤ badCalls ip a b (labels ++ [x]) := by
  rw [badCalls_snoc]
  exact Nat.le_add_right _ _

/-- The address earned a ban that ends at `til`: enough bad requests in an interval no longer than
the window. -/
def Earned (cfg : AnomalyConfig) (labels : List Label) (ip : IpAddr) (til : Nat) : Prop :=
  ∃ a b, a ≤ b ∧ b - a ≤ cfg.window ∧ til = b + cfg.banDuration ∧
    (∀ t, (∀ x ∈ labels, x.now ≤ t) → b ≤ t) ∧
    max cfg.badRequestsThreshold 1 ≤ badCalls ip a b labels

/-- Each count is at most the number of calls since the start of its window, and each ban was
earned. -/
structure Sound (labels : List Label) (g : AnomalyGuard) : Prop where
  started : ∀ ip w, g.bad.get ip = some w → ∀ t, (∀ x ∈ labels, x.now ≤ t) → w.windowStart ≤ t
  counted : ∀ ip w, g.bad.get ip = some w → ∀ t, (∀ x ∈ labels, x.now ≤ t) →
    w.count ≤ badCalls ip w.windowStart t labels
  banned : ∀ ip til, g.banned.get ip = some til → Earned g.cfg labels ip til

section Soundness

variable {g g' : AnomalyGuard} {labels : List Label} {x : Label}

theorem Earned.snoc {cfg : AnomalyConfig} {ip : IpAddr} {til : Nat}
    (h : Earned cfg labels ip til) (x : Label) : Earned cfg (labels ++ [x]) ip til := by
  obtain ⟨a, b, hab, hlen, htil, hpast, hcalls⟩ := h
  refine ⟨a, b, hab, hlen, htil, ?_, hcalls.trans (badCalls_le_snoc ..)⟩
  exact fun t ht => hpast t fun y hy => ht y (List.mem_append_left _ hy)

/-- A step that adds neither a window nor a ban. -/
theorem Sound.shrink (h : Sound labels g) (hcfg : g'.cfg = g.cfg)
    (hbad : ∀ ip w, g'.bad.get ip = some w → g.bad.get ip = some w)
    (hbanned : ∀ ip til, g'.banned.get ip = some til → g.banned.get ip = some til) :
    Sound (labels ++ [x]) g' := by
  refine ⟨?_, ?_, ?_⟩
  · intro ip w hw t ht
    exact h.started ip w (hbad ip w hw) t fun y hy => ht y (List.mem_append_left _ hy)
  · intro ip w hw t ht
    refine (h.counted ip w (hbad ip w hw) t ?_).trans (badCalls_le_snoc ..)
    exact fun y hy => ht y (List.mem_append_left _ hy)
  · intro ip til htil
    rw [hcfg]
    exact (h.banned ip til (hbanned ip til htil)).snoc x

/-- The window that counts a request holds at most the calls since its start, this one apart. -/
theorem Sound.current (h : Sound labels g) {ip : IpAddr} {now : Nat} {w : BadWindow}
    (hbefore : ∀ y ∈ labels, y.now ≤ now) (hcurrent : g.Current ip now w) :
    w.windowStart ≤ now ∧ now - w.windowStart ≤ g.cfg.window ∧
      ∀ t, now ≤ t → w.count + 1 ≤
        badCalls ip w.windowStart t (labels ++ [.recordBad now ip]) := by
  rcases hcurrent with rfl | ⟨hget, hopen⟩
  · refine ⟨le_refl _, by simp, fun t ht => ?_⟩
    rw [badCalls_snoc]
    simp [Label.isBadIn, ht]
  · have hstart := h.started ip w hget now hbefore
    refine ⟨hstart, hopen, fun t ht => ?_⟩
    have hcount := h.counted ip w hget t fun y hy => (hbefore y hy).trans ht
    rw [badCalls_snoc]
    simpa [Label.isBadIn, ht, hstart] using hcount

theorem Sound.recordBad (h : Sound labels g) {ip oldest soonest : IpAddr} {now : Nat}
    (hbefore : ∀ y ∈ labels, y.now ≤ now) :
    Sound (labels ++ [.recordBad now ip]) (g.recordBad ip now oldest soonest) := by
  have hlast (t : Nat) (ht : ∀ y ∈ labels ++ [Label.recordBad now ip], y.now ≤ t) : now ≤ t :=
    ht (.recordBad now ip) (by simp)
  have hold (t : Nat) (ht : ∀ y ∈ labels ++ [Label.recordBad now ip], y.now ≤ t) :
      ∀ y ∈ labels, y.now ≤ t := fun y hy => ht y (List.mem_append_left _ hy)
  refine ⟨?_, ?_, ?_⟩
  · -- A window starts no later than the calls it counts.
    intro k w hw t ht
    rcases get_bad_recordBad hw with hkeep | ⟨rfl, rfl | ⟨v, hv, rfl⟩⟩
    · exact h.started k w hkeep t (hold t ht)
    · exact hlast t ht
    · exact (h.current hbefore hv).1.trans (hlast t ht)
  · -- The count is at most the number of calls: a window that restarts counts none.
    intro k w hw t ht
    rcases get_bad_recordBad hw with hkeep | ⟨rfl, rfl | ⟨v, hv, rfl⟩⟩
    · exact (h.counted k w hkeep t (hold t ht)).trans (badCalls_le_snoc ..)
    · exact Nat.zero_le _
    · exact (h.current hbefore hv).2.2 t (hlast t ht)
  · intro k til htil
    rw [recordBad_cfg]
    rcases get_banned_recordBad htil with hkeep | ⟨rfl, -, rfl, v, hv, hreached⟩
    · exact (h.banned k til hkeep).snoc _
    · -- The ban was earned inside the window that reached the threshold.
      obtain ⟨hstart, hopen, hcalls⟩ := h.current hbefore hv
      refine ⟨v.windowStart, now, hstart, hopen, rfl, hlast, ?_⟩
      exact (max_le hreached (Nat.le_add_left 1 v.count)).trans (hcalls now (le_refl now))

theorem sound_of_run {cfg : AnomalyConfig} (h : Run Step (.new cfg) labels g)
    (hordered : Ordered labels) : g.cfg = cfg ∧ Sound labels g := by
  induction h with
  | nil =>
    -- Both maps are empty at the start.
    refine ⟨rfl, ⟨?_, ?_, ?_⟩⟩ <;> intro ip w hw <;> simp [new] at hw
  | snoc _ hstep ih =>
    obtain ⟨hcfg, hsound⟩ := ih hordered.initial
    cases hstep with
    | recordBad _ _ =>
      exact ⟨recordBad_cfg.trans hcfg, hsound.recordBad fun y hy => hordered.le_last hy⟩
    | isBanned =>
      refine ⟨isBanned_cfg.trans hcfg, hsound.shrink isBanned_cfg ?_ fun _ _ => get_isBanned⟩
      rw [isBanned_bad]
      exact fun _ _ hw => hw
    | prune =>
      refine ⟨hcfg, hsound.shrink rfl ?_ ?_⟩
      · exact fun ip w hw => ((BTreeMap.get_retain_eq_some_iff _ _ _ _).mp hw).1
      · exact fun ip til htil => ((BTreeMap.get_retain_eq_some_iff _ _ _ _).mp htil).1

/-- **Soundness of bans.** When the guard answers that an address is banned, the address had sent
enough bad requests inside an interval no longer than the window, and this interval ended no more
than the duration of a ban before. -/
theorem ban_sound {cfg : AnomalyConfig} (h : Run Step (.new cfg) labels g)
    (hordered : Ordered labels) {before after : List Label} {t : Nat} {ip : IpAddr}
    (hlabel : labels = before ++ .isBanned t ip true :: after) :
    ∃ a b, a ≤ b ∧ b - a ≤ cfg.window ∧ b ≤ t ∧ t - b ≤ cfg.banDuration ∧
      max cfg.badRequestsThreshold 1 ≤ badCalls ip a b before := by
  subst hlabel
  rw [List.append_cons] at h hordered
  obtain ⟨s, hanswer, -⟩ := Run.append_iff.mp h
  have hprefix := (List.pairwise_append.mp hordered).1
  -- The state that answers, and the run up to it.
  obtain ⟨s', hrun, hstep⟩ := Run.snoc_iff.mp hanswer
  obtain ⟨hcfg, hsound⟩ := sound_of_run hrun (Ordered.initial hprefix)
  obtain ⟨til, hget, hactive⟩ : ∃ til, s'.banned.get ip = some til ∧ t < til := by
    generalize hx : Label.isBanned t ip true = x at hstep
    cases hstep with
    | recordBad _ _ => cases hx
    | isBanned =>
      obtain ⟨rfl, rfl, hyes⟩ := Label.isBanned.inj hx
      exact isBanned_eq_true hyes.symm
    | prune => cases hx
  -- The ban was sound when it was set, and the answer comes before its end.
  obtain ⟨a, b, hab, hlen, rfl, hpast, hcalls⟩ := hsound.banned ip til hget
  rw [hcfg] at hlen hactive hcalls
  refine ⟨a, b, hab, hlen, hpast t fun y hy => ?_, by omega, hcalls⟩
  exact Ordered.le_last hprefix hy

end Soundness

/-- Three bad requests ban an address for five minutes. -/
def threeStrikes : AnomalyConfig :=
  { AnomalyConfig.default with badRequestsThreshold := 3 }

/-- The bad requests of a minute, with those of another address. -/
def strikes : List Label :=
  [.recordBad 0 (.v4 0xcb007109), .recordBad 20000000000 (.v4 0xcb007109),
    .recordBad 20000000000 (.v4 0xcb00710a), .prune 30000000000,
    .recordBad 60000000000 (.v4 0xcb007109)]

theorem ban_sound_strikes :
    ∃ a b, a ≤ b ∧ b - a ≤ 60000000000 ∧ b ≤ 300000000000 ∧ 300000000000 - b ≤ 300000000000 ∧
      max 3 1 ≤ badCalls (.v4 0xcb007109) a b strikes := by
  obtain ⟨g, hrun⟩ : ∃ g, Run Step (.new threeStrikes)
      (strikes ++ [.isBanned 300000000000 (.v4 0xcb007109) true]) g :=
    run_of_replay (by decide +kernel)
  refine @ban_sound g _ threeStrikes hrun ?_ strikes [] 300000000000 (.v4 0xcb007109) rfl
  simp [Ordered, strikes, Label.now]

end AnomalyGuard

end Datacat.Security
