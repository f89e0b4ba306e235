import Datacat.Companion.Agent

/-!
# The State Machine of a Companion

What the machine has done after a sequence of heartbeats depends on the runs of failures in it
alone. It is firing when the run that the sequence ends with has reached the threshold
(`counts_applyAll`), and it raised one alert for every maximal run that did
(`count_firing_applyAll`). The counter saturates, which no threshold can tell.
-/

namespace Datacat.Companion

open Basics

/-! ## Sequences of beats -/

/-- `StateMachine::apply` over the beats: the transitions it returned, and the machine
afterwards. -/
def StateMachine.applyAll (threshold : UInt32) (sm : StateMachine) :
    List Beat → List AlertState × StateMachine
  | [] => ([], sm)
  | beat :: rest =>
    let (transition, sm') := sm.apply beat threshold
    let (transitions, last) := applyAll threshold sm' rest
    (transition.toList ++ transitions, last)

/-- How many failures in a row the beats end with. -/
def trailingFailures (beats : List Beat) : Nat := (beats.rtakeWhile (· == .failed)).length

/-- The failures before, between and after the successes, which may be none. -/
def failureRuns (beats : List Beat) : List (List Beat) := beats.splitOn .ok

/-- A run of so many failures, with no failure just before it or just after it. -/
structure MaximalRun (before : List Beat) (length : Nat) (after : List Beat) : Prop where
  positive : 0 < length
  starts : before.getLast? ≠ some .failed
  ends : after.head? ≠ some .failed

/-- Firing, resolved, firing and so on. -/
def Alternating (transitions : List AlertState) : Prop :=
  ∀ i state, transitions[i]? = some state → (state = .firing ↔ i % 2 = 0)

theorem trailingFailures_concat_failed (beats : List Beat) :
    trailingFailures (beats ++ [.failed]) = trailingFailures beats + 1 := by
  unfold trailingFailures
  rw [List.rtakeWhile_concat_pos _ _ _ rfl, List.length_append]
  rfl

theorem trailingFailures_concat_ok (beats : List Beat) :
    trailingFailures (beats ++ [.ok]) = 0 := by
  unfold trailingFailures
  rw [List.rtakeWhile_concat_neg _ _ _ (by decide)]
  rfl

theorem trailingFailures_replicate (n : Nat) :
    trailingFailures (List.replicate n .failed) = n := by
  induction n with
  | zero => rfl
  | succ n ih => rw [List.replicate_succ', trailingFailures_concat_failed, ih]

theorem Alternating.concat {transitions : List AlertState} {state : AlertState}
    (h : Alternating transitions) (hstate : state = .firing ↔ transitions.length % 2 = 0) :
    Alternating (transitions ++ [state]) := by
  intro i found hfound
  rcases Nat.lt_trichotomy i transitions.length with hlt | rfl | hgt
  · rw [List.getElem?_append_left hlt] at hfound
    exact h i found hfound
  · rw [List.getElem?_concat_length] at hfound
    rw [← Option.some.inj hfound]
    exact hstate
  · rw [List.getElem?_eq_none (by simpa using hgt)] at hfound
    cases hfound

section Machine

variable {threshold : UInt32} {sm : StateMachine}

theorem StateMachine.applyAll_cons (sm : StateMachine) (beat : Beat) (rest : List Beat) :
    sm.applyAll threshold (beat :: rest) =
      ((sm.apply beat threshold).1.toList ++
          ((sm.apply beat threshold).2.applyAll threshold rest).1,
        ((sm.apply beat threshold).2.applyAll threshold rest).2) :=
  rfl

theorem StateMachine.applyAll_append (first second : List Beat) :
    sm.applyAll threshold (first ++ second) =
      ((sm.applyAll threshold first).1 ++
          ((sm.applyAll threshold first).2.applyAll threshold second).1,
        ((sm.applyAll threshold first).2.applyAll threshold second).2) := by
  induction first generalizing sm with
  | nil => rfl
  | cons beat first ih =>
    rw [List.cons_append, applyAll_cons, applyAll_cons, ih, List.append_assoc]

theorem StateMachine.applyAll_concat (beats : List Beat) (beat : Beat) :
    sm.applyAll threshold (beats ++ [beat]) =
      ((sm.applyAll threshold beats).1 ++
          ((sm.applyAll threshold beats).2.apply beat threshold).1.toList,
        ((sm.applyAll threshold beats).2.apply beat threshold).2) := by
  rw [applyAll_append, applyAll_cons]
  exact congrArg (fun transitions => (_ ++ transitions, _)) (List.append_nil _)

/-! ## What one beat does -/

/-- The machine as it is after that many failures in a row. -/
structure Counts (threshold : UInt32) (failures : Nat) (sm : StateMachine) : Prop where
  count : sm.consecutiveFailures.toNat = min failures (2 ^ 32 - 1)
  firing : sm.firing = true ↔ threshold.toNat ≤ failures

theorem counts_start (hthreshold : threshold ≠ 0) : Counts threshold 0 {} where
  count := rfl
  firing := by
    have hpos : 0 < threshold.toNat := Nat.pos_of_ne_zero fun h => hthreshold (UInt32.toNat.inj h)
    exact ⟨nofun, fun h => absurd h (Nat.not_le_of_lt hpos)⟩

/-- A success leaves the machine as it was built. -/
theorem StateMachine.apply_ok (sm : StateMachine) (threshold : UInt32) :
    sm.apply .ok threshold = (if sm.firing then some .resolved else none, {}) := by
  unfold StateMachine.apply
  cases hfiring : sm.firing <;> simp

/-- A failure is counted, and raises the alert when it is the one that reaches the threshold. -/
theorem Counts.apply_failed {failures : Nat} (h : Counts threshold failures sm) :
    (sm.apply .failed threshold).1 =
        (if failures + 1 = threshold.toNat then some .firing else none) ∧
      Counts threshold (failures + 1) (sm.apply .failed threshold).2 := by
  have hlt := threshold.toNat_lt
  have hcount : (saturatingSucc sm.consecutiveFailures).toNat = min (failures + 1) (2 ^ 32 - 1) := by
    rw [saturatingSucc_toNat, h.count]
    omega
  -- The counter stops above every threshold.
  have hreached :
      threshold ≤ saturatingSucc sm.consecutiveFailures ↔ threshold.toNat ≤ failures + 1 := by
    rw [UInt32.le_iff_toNat_le, hcount]
    omega
  unfold StateMachine.apply
  by_cases hfiring : sm.firing = true
  · have hle := h.firing.mp hfiring
    have hne : failures + 1 ≠ threshold.toNat := by omega
    rw [if_neg hne]
    simp only [hfiring, Bool.not_true, Bool.false_and, Bool.false_eq_true, if_false]
    refine ⟨trivial, hcount, fun _ => by omega, fun _ => rfl⟩
  · have hidle := Bool.eq_false_iff.mpr hfiring
    have hnot : ¬threshold.toNat ≤ failures := fun hle => hfiring (h.firing.mpr hle)
    simp only [hidle, Bool.not_false, Bool.true_and, decide_eq_true_eq, hreached]
    split
    · rename_i hle
      rw [if_pos (by omega)]
      exact ⟨rfl, hcount, fun _ => hle, fun _ => rfl⟩
    · rename_i hle
      rw [if_neg (by omega)]
      exact ⟨rfl, hcount, fun hfalse => absurd hfalse Bool.false_ne_true, fun h => absurd h hle⟩

/-! ## What a sequence does -/

theorem counts_applyAll (hthreshold : threshold ≠ 0) (beats : List Beat) :
    Counts threshold (trailingFailures beats)
      (StateMachine.applyAll threshold {} beats).2 := by
  induction beats using List.reverseRecOn with
  | nil => exact counts_start hthreshold
  | append_singleton beats beat ih =>
    rw [StateMachine.applyAll_concat]
    cases beat with
    | ok =>
      rw [trailingFailures_concat_ok, StateMachine.apply_ok]
      exact counts_start hthreshold
    | failed =>
      rw [trailingFailures_concat_failed]
      exact ih.apply_failed.2

/-- The transitions alternate, and the last one is as the machine is. -/
structure Announces (transitions : List AlertState) (sm : StateMachine) : Prop where
  alternating : Alternating transitions
  parity : sm.firing = true ↔ transitions.length % 2 = 1

section Announces

variable {transitions : List AlertState}

/-- A success is announced when the last transition raised an alert. -/
theorem Announces.apply_ok (h : Announces transitions sm) (threshold : UInt32) :
    Announces (transitions ++ (sm.apply .ok threshold).1.toList)
      (sm.apply .ok threshold).2 := by
  rw [StateMachine.apply_ok]
  by_cases hfiring : sm.firing = true
  · have hodd := h.parity.mp hfiring
    rw [if_pos hfiring]
    constructor
    · apply h.alternating.concat
      simp [hodd]
    · simp only [Option.toList_some, List.length_append, List.length_singleton]
      exact ⟨fun h => absurd h Bool.false_ne_true, fun h => by omega⟩
  · rw [if_neg hfiring, Option.toList_none, List.append_nil]
    exact ⟨h.alternating, fun hfalse => absurd hfalse Bool.false_ne_true,
      fun hodd => absurd (h.parity.mpr hodd) hfiring⟩

/-- A failure is announced when it is the one that reaches the threshold. -/
theorem Announces.apply_failed {failures : Nat} (h : Announces transitions sm)
    (hcounts : Counts threshold failures sm) :
    Announces (transitions ++ (sm.apply .failed threshold).1.toList)
      (sm.apply .failed threshold).2 := by
  obtain ⟨htransition, hcounts'⟩ := hcounts.apply_failed
  have hbefore := hcounts.firing
  rw [h.parity] at hbefore
  rw [htransition]
  by_cases hreaches : failures + 1 = threshold.toNat
  · have heven : transitions.length % 2 = 0 := by omega
    rw [if_pos hreaches]
    constructor
    · exact h.alternating.concat ⟨fun _ => heven, fun _ => rfl⟩
    · rw [hcounts'.firing, Option.toList_some, List.length_append, List.length_singleton]
      omega
  · rw [if_neg hreaches, Option.toList_none, List.append_nil]
    constructor
    · exact h.alternating
    · rw [hcounts'.firing]
      omega

end Announces

theorem announces_applyAll (hthreshold : threshold ≠ 0) (beats : List Beat) :
    Announces (StateMachine.applyAll threshold {} beats).1
      (StateMachine.applyAll threshold {} beats).2 := by
  induction beats using List.reverseRecOn with
  | nil => exact ⟨nofun, nofun, nofun⟩
  | append_singleton beats beat ih =>
    rw [StateMachine.applyAll_concat]
    cases beat with
    | ok => exact ih.apply_ok threshold
    | failed => exact ih.apply_failed (counts_applyAll hthreshold beats)

/-- A run of failures raises one alert when it is long enough, however long it is. -/
theorem applyAll_run (hthreshold : threshold ≠ 0) (n : Nat) :
    (StateMachine.applyAll threshold {} (List.replicate n .failed)).1 =
      if threshold.toNat ≤ n then [.firing] else [] := by
  induction n with
  | zero =>
    have hpos : 0 < threshold.toNat := Nat.pos_of_ne_zero fun h => hthreshold (UInt32.toNat.inj h)
    rw [if_neg (Nat.not_le_of_lt hpos)]
    rfl
  | succ n ih =>
    have hcounts := counts_applyAll hthreshold (List.replicate n .failed)
    rw [trailingFailures_replicate] at hcounts
    rw [List.replicate_succ', StateMachine.applyAll_concat, ih, hcounts.apply_failed.1]
    rcases Nat.lt_trichotomy (n + 1) threshold.toNat with hlt | heq | hgt
    · rw [if_neg (by omega), if_neg (by omega), if_neg (by omega)]
      rfl
    · rw [if_neg (by omega), if_pos heq, if_pos (by omega)]
      rfl
    · rw [if_pos (by omega), if_neg (by omega), if_pos (by omega)]
      rfl

/-- Before a maximal run the machine is as it was built. -/
theorem applyAll_before {before : List Beat} (h : before.getLast? ≠ some .failed) :
    (StateMachine.applyAll threshold {} before).2 = {} := by
  induction before using List.reverseRecOn with
  | nil => rfl
  | append_singleton before beat _ =>
    rw [List.getLast?_concat] at h
    rw [StateMachine.applyAll_concat]
    cases beat with
    | ok => rw [StateMachine.apply_ok]
    | failed => exact absurd rfl h

/-- One alert is raised for each run of failures that is long enough. -/
theorem count_firing_applyAll (hthreshold : threshold ≠ 0) (beats : List Beat) :
    (StateMachine.applyAll threshold {} beats).1.count .firing =
      (failureRuns beats).countP (threshold.toNat ≤ ·.length) := by
  -- The failures read since the last success are kept in front.
  suffices hgeneral : ∀ n, (StateMachine.applyAll threshold {}
      (List.replicate n .failed ++ beats)).1.count .firing =
      (failureRuns (List.replicate n .failed ++ beats)).countP (threshold.toNat ≤ ·.length) from
    hgeneral 0
  have hfailed : ∀ n, ∀ beat ∈ List.replicate n Beat.failed, (beat == Beat.ok) = false := by
    intro n beat hbeat
    rw [List.eq_of_mem_replicate hbeat]
    rfl
  induction beats with
  | nil =>
    intro n
    unfold failureRuns
    rw [List.append_nil, applyAll_run hthreshold, List.splitOn_eq_splitOnP,
      List.splitOnP_eq_singleton (hfailed n)]
    by_cases hlong : threshold.toNat ≤ n <;> simp [hlong]
  | cons beat beats ih =>
    intro n
    cases beat with
    | ok =>
      unfold failureRuns
      rw [List.splitOn_eq_splitOnP, List.splitOnP_append_cons_of_forall_mem (hfailed n) _ rfl,
        ← List.splitOn_eq_splitOnP, StateMachine.applyAll_append, StateMachine.applyAll_cons,
        StateMachine.apply_ok, applyAll_run hthreshold, List.countP_cons]
      have hrest : (StateMachine.applyAll threshold {} beats).1.count .firing =
        (beats.splitOn .ok).countP (threshold.toNat ≤ ·.length) := ih 0
      simp only [List.count_append, hrest, List.length_replicate]
      -- The success raises no alert.
      have hresolved : List.count AlertState.firing (if (StateMachine.applyAll threshold {}
          (List.replicate n Beat.failed)).2.firing = true then some AlertState.resolved
          else none).toList = 0 := by
        split <;> rfl
      rw [hresolved, Nat.zero_add, Nat.add_comm]
      by_cases hlong : threshold.toNat ≤ n <;> simp [hlong]
    | failed =>
      rw [List.append_cons, ← List.replicate_succ']
      exact ih (n + 1)

end Machine

/-- **The machine and the runs of failures.** -/
theorem machine_follows_runs (threshold : UInt32) (beats : List Beat) (hthreshold : 1 ≤ threshold) :
    ((StateMachine.applyAll threshold {} beats).2.firing = true ↔
      threshold.toNat ≤ trailingFailures beats) ∧
    Alternating (StateMachine.applyAll threshold {} beats).1 ∧
    (StateMachine.applyAll threshold {} beats).1.count .firing =
      (failureRuns beats).countP (threshold.toNat ≤ ·.length) ∧
    ∀ before n after, beats = before ++ List.replicate n .failed ++ after →
      MaximalRun before n after →
        ((StateMachine.applyAll threshold {} before).2.applyAll threshold
          (List.replicate n .failed)).1 = if threshold.toNat ≤ n then [.firing] else [] := by
  have hne : threshold ≠ 0 := by
    rintro rfl
    exact absurd hthreshold (by decide)
  refine ⟨(counts_applyAll hne beats).firing, (announces_applyAll hne beats).alternating,
    count_firing_applyAll hne beats, ?_⟩
  intro before n after _ hrun
  rw [applyAll_before hrun.starts, applyAll_run hne]

/-- Two runs, of which the first is long enough. -/
theorem machine_follows_runs_twice :
    (StateMachine.applyAll 2 {} [.failed, .failed, .failed, .ok, .failed]).1.count .firing = 1 :=
  (machine_follows_runs 2 [.failed, .failed, .failed, .ok, .failed] (by decide)).2.2.1.trans
    (by decide)

/-- The machine of the agent's loop is this one, whatever the sink takes. -/
theorem Config.run_machine (c : Config) (sm : StateMachine) (turns : List Turn) :
    (c.run sm turns).1 = (sm.applyAll c.failureThreshold (turns.map Turn.beat)).2 := by
  induction turns generalizing sm with
  | nil => rfl
  | cons turn rest ih =>
    rw [Config.run_cons, List.map_cons, StateMachine.applyAll_cons, ih]
    apply congrArg fun sm => (StateMachine.applyAll c.failureThreshold sm _).2
    unfold Config.process
    cases sm.apply turn.beat c.failureThreshold with
    | mk transition sm' => cases transition <;> rfl

end Datacat.Companion
