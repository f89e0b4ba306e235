import Datacat.Security.SessionBound

/-!
# The Global Net

What the global bucket grants. Each request reads the clock before it waits for the lock of the
bucket, and `try_take` counts the time since the instant of the previous request at the lock: the
same time is counted again when a later request has an earlier instant.

## Main results

- `netGranted_le`: what the global bucket grants, in runs where the requests reach its lock in
  the order of their instants.
-/

namespace Datacat.Security

open Basics

namespace RateLimiter

/-- What a call takes from the global bucket. -/
def Label.netGranted : Label → ℚ
  | .check _ _ _ n .allow => cost n
  | _ => 0

def netGranted (labels : List Label) : ℚ := (labels.map Label.netGranted).sum

/-- The instant of a request. -/
def Label.checkNow? : Label → Option Nat
  | .check now .. => some now
  | .prune _ => none

/-- The largest instant of a request, or the creation. -/
def largestNow (created : Nat) (labels : List Label) : Nat :=
  (labels.filterMap Label.checkNow?).foldl max created

theorem netGranted_snoc (labels : List Label) (a : Label) :
    netGranted (labels ++ [a]) = netGranted labels + a.netGranted := by
  simp [netGranted]

theorem largestNow_snoc (created : Nat) (labels : List Label) (a : Label) :
    largestNow created (labels ++ [a]) =
      a.checkNow?.elim (largestNow created labels) (max (largestNow created labels)) := by
  unfold largestNow
  rw [List.filterMap_append, List.foldl_append]
  cases h : a.checkNow? <;> simp [h]

/-- A request that reaches the lock of the global bucket does so with an instant not before that
of the previous one. -/
def LockInOrder (l : RateLimiter) (a : Label) : Prop :=
  ∀ now ip sessionId n d, a = .check now ip sessionId n d → d.passesIp = true →
    l.globalBucket.last ≤ now

/-- What a call does to the global bucket. -/
theorem Checked.globalBucket_eq {l l' : RateLimiter} {now : Nat} {ip : IpAddr}
    {sessionId : String} {n : UInt32} {d : Decision} (h : Checked l now ip sessionId n d l') :
    (d.passesIp = false ∧ l'.globalBucket = l.globalBucket) ∨
      (d = .allow ∧ cost n ≤ l.globalBucket.available now ∧
        l'.globalBucket = (l.globalBucket.tryTake (cost n) now).2) ∨
      ((∃ wait, d = deny .global wait) ∧ l.globalBucket.available now < cost n ∧
        l'.globalBucket = (l.globalBucket.tryTake (cost n) now).2) := by
  have hsession := (@sessionStep_frame l now sessionId (cost n)).2.1
  -- Only the third part touches the bucket; the first two leave it as it was.
  cases h with
  | session h₁ =>
    rw [h₁] at hsession
    exact .inl ⟨rfl, hsession⟩
  | @ipSessions wait l₁ _ h₁ h₂ =>
    have hip := (@ipStep_frame l₁ now ip sessionId).2.1
    rw [h₁] at hsession
    rw [h₂] at hip
    exact .inl ⟨rfl, hip.trans hsession⟩
  | @global wait l₁ l₂ _ h₁ h₂ h₃ =>
    have hip := (@ipStep_frame l₁ now ip sessionId).2.1
    rw [h₁] at hsession
    rw [h₂] at hip
    have hsame : l₂.globalBucket = l.globalBucket := hip.trans hsession
    rcases le_or_gt (cost n) (l₂.globalBucket.available now) with hn | hn
    · -- A refusal contradicts a bucket that holds enough.
      rw [globalStep_granted hn] at h₃
      cases h₃
    · rw [globalStep_refused hn] at h₃
      obtain rfl := (Prod.mk.inj h₃).2
      rw [hsame] at hn
      exact .inr (.inr ⟨⟨_, rfl⟩, hn, by rw [← hsame]; rfl⟩)
  | @allow l₁ l₂ _ h₁ h₂ h₃ =>
    have hip := (@ipStep_frame l₁ now ip sessionId).2.1
    rw [h₁] at hsession
    rw [h₂] at hip
    have hsame : l₂.globalBucket = l.globalBucket := hip.trans hsession
    rcases le_or_gt (cost n) (l₂.globalBucket.available now) with hn | hn
    · rw [globalStep_granted hn] at h₃
      obtain rfl := (Prod.mk.inj h₃).2
      rw [hsame] at hn
      exact .inr (.inl ⟨rfl, hn, by rw [← hsame]; rfl⟩)
    · rw [globalStep_refused hn] at h₃
      -- A grant contradicts a bucket that holds too little.
      cases h₃

/-- What was granted and what the bucket holds came in since the creation. -/
structure NetBounded (created : Nat) (labels : List Label) (l : RateLimiter) : Prop where
  rate : l.globalBucket.rate = l.cfg.globalPerSec
  burst : l.globalBucket.burst = l.cfg.globalBurst
  tokens : 0 ≤ l.globalBucket.tokens
  created_le : created ≤ l.globalBucket.last
  le_largest : l.globalBucket.last ≤ largestNow created labels
  sum : netGranted labels + l.globalBucket.tokens ≤
    l.cfg.globalBurst + l.cfg.globalPerSec * secs (l.globalBucket.last - created)

theorem le_largestNow_snoc (created : Nat) (labels : List Label) (a : Label) :
    largestNow created labels ≤ largestNow created (labels ++ [a]) := by
  rw [largestNow_snoc]
  cases a.checkNow? with
  | none => exact le_refl _
  | some now => exact le_max_left _ _

/-- A step that does not touch the global bucket. -/
theorem NetBounded.still {created : Nat} {labels : List Label} {l l' : RateLimiter} {a : Label}
    (h : NetBounded created labels l) (hcfg : l'.cfg = l.cfg)
    (hbucket : l'.globalBucket = l.globalBucket) (hgrant : a.netGranted = 0) :
    NetBounded created (labels ++ [a]) l' := by
  refine ⟨?_, ?_, ?_, ?_, ?_, ?_⟩
  · rw [hbucket, hcfg]
    exact h.rate
  · rw [hbucket, hcfg]
    exact h.burst
  · rw [hbucket]
    exact h.tokens
  · rw [hbucket]
    exact h.created_le
  · rw [hbucket]
    exact h.le_largest.trans (le_largestNow_snoc _ _ _)
  · rw [hbucket, hcfg, netGranted_snoc, hgrant, add_zero]
    exact h.sum

/-- A request that takes `taken` from the global bucket. -/
theorem NetBounded.take {created now : Nat} {labels : List Label} {l l' : RateLimiter} {a : Label}
    {taken : ℚ} (h : NetBounded created labels l)
    (hcfg : l'.cfg = l.cfg) (hnow : a.checkNow? = some now) (horder : l.globalBucket.last ≤ now)
    (hgrant : a.netGranted = taken) (htaken : taken ≤ l.globalBucket.available now)
    (hbucket : l'.globalBucket =
      { l.globalBucket with tokens := l.globalBucket.available now - taken, last := now }) :
    NetBounded created (labels ++ [a]) l' := by
  -- The bucket was filled from its creation to its last use, then up to now.
  have hsplit : secs (now - created) =
      secs (l.globalBucket.last - created) + secs (now - l.globalBucket.last) := by
    rw [← secs_add]
    have hcreated := h.created_le
    congr 1
    omega
  have hin : l.globalBucket.available now ≤
      l.globalBucket.tokens + secs (now - l.globalBucket.last) * l.cfg.globalPerSec := by
    rw [← h.rate]
    exact min_le_left _ _
  refine ⟨?_, ?_, ?_, ?_, ?_, ?_⟩
  · rw [hbucket, hcfg]
    exact h.rate
  · rw [hbucket, hcfg]
    exact h.burst
  · rw [hbucket]
    exact sub_nonneg.mpr htaken
  · rw [hbucket]
    exact h.created_le.trans horder
  · rw [hbucket, largestNow_snoc, hnow]
    exact le_max_right _ _
  · have hsum := h.sum
    rw [hbucket, hcfg, netGranted_snoc, hgrant]
    dsimp only
    rw [hsplit]
    -- What is taken was in the bucket, and what was in it had come in.
    linarith only [hsum, hin]

section Net

variable {cfg : RateLimitConfig} {created : Nat} {labels : List Label} {l : RateLimiter}

theorem NetBounded.step {l' : RateLimiter} {a : Label} (h : NetBounded created labels l)
    (hrate : 0 ≤ l.cfg.globalPerSec) (hburst : 0 ≤ l.cfg.globalBurst) (horder : LockInOrder l a)
    (hstep : Step l a l') : NetBounded created (labels ++ [a]) l' := by
  cases hstep with
  | prune => exact h.still rfl rfl rfl
  | @check now ip sessionId n =>
    have hcheck := checked l now ip sessionId n
    have hcfg := hcheck.frame.1
    rcases hcheck.globalBucket_eq with ⟨hreach, hbucket⟩ | ⟨hallow, hn, hbucket⟩ |
      ⟨⟨wait, hdeny⟩, hn, hbucket⟩
    · -- Denied before the bucket: nothing is granted.
      refine h.still hcfg hbucket ?_
      cases hd : (l.check now ip sessionId n).1 with
      | allow => rw [hd] at hreach; cases hreach
      | deny scope wait => rfl
    · -- Allowed: the request takes its cost.
      have hlast := horder now ip sessionId n _ rfl (by rw [hallow]; rfl)
      rw [Bucket.tryTake_ok hn] at hbucket
      exact h.take hcfg rfl hlast (by rw [hallow]; rfl) hn hbucket
    · -- Denied by the bucket: it is refilled and nothing is taken.
      have hlast := horder now ip sessionId n _ rfl (by rw [hdeny]; rfl)
      rw [Bucket.tryTake_error hn] at hbucket
      have hgrant : (Label.check now ip sessionId n
          (l.check now ip sessionId n).1).netGranted = 0 := by
        rw [hdeny]
        rfl
      refine h.take hcfg rfl hlast hgrant ?_ (by rw [hbucket, sub_zero])
      have hin : 0 ≤ secs (now - l.globalBucket.last) * l.globalBucket.rate :=
        mul_nonneg (secs_nonneg _) (h.rate ▸ hrate)
      exact le_min (add_nonneg h.tokens hin) (h.burst ▸ hburst)

theorem netBounded_of_run (hrate : 0 ≤ cfg.globalPerSec) (hburst : 0 ≤ cfg.globalBurst)
    (h : Run (fun l a l' => LockInOrder l a ∧ Step l a l') (.new cfg created) labels l) :
    l.cfg = cfg ∧ NetBounded created labels l := by
  induction h with
  | nil =>
    refine ⟨rfl, rfl, rfl, hburst, le_refl _, le_refl _, ?_⟩
    simp [netGranted, RateLimiter.new, Bucket.new, secs]
  | snoc _ hstep ih =>
    obtain ⟨horder, hstep⟩ := hstep
    obtain ⟨hcfg, hbounded⟩ := ih
    exact ⟨hstep.cfg_eq.trans hcfg,
      hbounded.step (hcfg ▸ hrate) (hcfg ▸ hburst) horder hstep⟩

/-- **The global net.** In a run in which the requests reach the lock of the global bucket in the
order of their instants, it grants at most a burst and what comes in up to the largest instant. -/
theorem netGranted_le (hrate : 0 ≤ cfg.globalPerSec) (hburst : 0 ≤ cfg.globalBurst)
    (h : Run (fun l a l' => LockInOrder l a ∧ Step l a l') (.new cfg created) labels l) :
    netGranted labels ≤
      cfg.globalBurst + cfg.globalPerSec * secs (largestNow created labels - created) := by
  obtain ⟨hcfg, hbounded⟩ := netBounded_of_run hrate hburst h
  have hsum := hbounded.sum
  have htokens := hbounded.tokens
  have hlast : secs (l.globalBucket.last - created) ≤
      secs (largestNow created labels - created) :=
    secs_mono (Nat.sub_le_sub_right hbounded.le_largest created)
  have hin := mul_le_mul_of_nonneg_left hlast hrate
  rw [hcfg] at hsum
  linarith only [hsum, htokens, hin]

end Net

/-- A net of ten requests and one per second. -/
def tightNet : RateLimitConfig :=
  { RateLimitConfig.default with globalPerSec := 1, globalBurst := 10 }

theorem netGranted_le_burst :
    netGranted [.check 5000000000 (.v4 0x7f000001) "s" 10 .allow] ≤
      10 + 1 * secs (5000000000 - 0) := by
  obtain ⟨l, hrun⟩ : ∃ l, Run Step (.new tightNet 0)
      [.check 5000000000 (.v4 0x7f000001) "s" 10 .allow] l :=
    run_of_replay (by decide +kernel)
  refine @netGranted_le tightNet 0 _ l (by decide +kernel) (by decide +kernel) ?_
  obtain ⟨s, hs, hstep⟩ := Run.cons_iff.mp hrun
  refine Run.cons_iff.mpr ⟨s, ⟨?_, hs⟩, ?_⟩
  · intro now ip sessionId n d _ _
    exact Nat.zero_le _
  · rw [Run.nil_iff] at hstep ⊢
    exact hstep

/-- Requests that read the clock at ten seconds and at zero, and reach the lock in turns. -/
def turns : List Label :=
  [.check 10000000000 (.v4 0x7f000001) "s" 10 .allow,
    .check 0 (.v4 0x7f000001) "s" 1 (.deny .global 1),
    .check 10000000000 (.v4 0x7f000001) "s" 10 .allow,
    .check 0 (.v4 0x7f000001) "s" 1 (.deny .global 1),
    .check 10000000000 (.v4 0x7f000001) "s" 10 .allow]

theorem netGranted_gt_turns :
    ∃ l, Run Step (.new tightNet 0) turns l ∧
      ¬ netGranted turns ≤
        tightNet.globalBurst + tightNet.globalPerSec * secs (largestNow 0 turns - 0) := by
  obtain ⟨l, hrun⟩ : ∃ l, Run Step (.new tightNet 0) turns l := run_of_replay (by decide +kernel)
  exact ⟨l, hrun, by decide +kernel⟩

end RateLimiter

end Datacat.Security
