import Datacat.Alerting.Buckets
import Datacat.Alerting.Novelty

/-!
# Safe Evaluations

Before any query, an evaluation casts the lengths of the windows of its rule, multiplies one of them
and subtracts them from the instant. A cast may wrap, and a bound that the calendar does not have
panics, which ends the task of the alerts. Validation asks only that a window is not empty.

## Main results

- `compute_ne_panic`: an evaluation that is safe does not panic.
- `evaluatesSafely_iff`: an accepted rule is safe exactly when its bounds are in the calendar, its
  baseline is longer than its window, and buckets are shorter than 2^31 seconds.
-/

namespace Datacat.Alerting

open Basics
open Events (bind_eq_ok)

/-! ## The property -/

/-- A bound that many seconds before an instant: the cast keeps the number, and neither the duration
nor the subtraction panics. -/
def Reaches (now : DateTime) (secs : Nat) (t : DateTime) : Prop :=
  asI64 secs = secs ∧ secondsBefore now secs = .ok t

/-- What the queries of a kind do with the lengths is exact, and their windows start before they
end. -/
def SafeKind (r : Rule) (now : DateTime) : Prop :=
  ∃ start, Reaches now r.windowSecs start ∧ start < now ∧
    match r.kind with
    | .relativeChange => ∃ previous,
        start.checkedAdd (-(now.nanos - start.nanos)) = some previous ∧ previous < start
    | .anomaly =>
        (r.baselineSecs = none → min (r.windowSecs * 30) (2 ^ 64 - 1) = r.windowSecs * 30) ∧
          asI32 r.windowSecs = r.windowSecs ∧
          ∃ first, Reaches now r.anomalyBaseline first ∧ first < start
    | .logNewSignature => ∃ first, Reaches now r.noveltyBaseline first ∧ first < start
    | _ => True

/-- A composite does not use its own window. -/
def EvaluatesSafely (r : Rule) (now : DateTime) : Prop :=
  if r.kind = .composite then ∀ c ∈ r.conditions, SafeKind c now else SafeKind r now

/-- The bounds are in the calendar, the baseline is longer than the window, and a bucket is as long
as an `i32` of seconds can be. -/
def FitsKind (r : Rule) (now : DateTime) : Prop :=
  match r.kind with
  | .relativeChange => (ago now (2 * r.windowSecs)).inRange = true
  | .anomaly =>
    r.windowSecs < 2 ^ 31 ∧ r.windowSecs < r.anomalyBaseline ∧
      (ago now r.anomalyBaseline).inRange = true
  | .logNewSignature =>
    r.windowSecs < r.noveltyBaseline ∧ (ago now r.noveltyBaseline).inRange = true
  | _ => (ago now r.windowSecs).inRange = true

def FitsCalendar (r : Rule) (now : DateTime) : Prop :=
  if r.kind = .composite then ∀ c ∈ r.conditions, FitsKind c now else FitsKind r now

/-! ## Casts and bounds -/

section Bounds

variable {now t : DateTime} {secs : Nat}

theorem asI64_eq_iff : asI64 secs = secs ↔ secs < 2 ^ 63 := by
  constructor
  · intro h
    have hlt : asI64 secs < 2 ^ 63 := BitVec.toInt_lt
    omega
  · exact asI64_of_lt

theorem asI32_eq_iff : asI32 secs = secs ↔ secs < 2 ^ 31 := by
  constructor
  · intro h
    have hlt : asI32 secs < 2 ^ 31 := BitVec.toInt_lt
    omega
  · exact asI32_of_lt

theorem ago_lt_ago {secs secs' : Nat} : ago now secs < ago now secs' ↔ secs' < secs := by
  show now.nanos - secs * 1000000000 < now.nanos - secs' * 1000000000 ↔ secs' < secs
  omega

theorem ago_lt_iff : ago now secs < now ↔ 0 < secs := by
  show now.nanos - secs * 1000000000 < now.nanos ↔ 0 < secs
  omega

/-- The calendar is shorter than the durations. -/
theorem le_of_ago_inRange (hnow : now.inRange = true) (h : (ago now secs).inRange = true) :
    secs ≤ (2 ^ 63 - 1) / 1000 := by
  unfold DateTime.inRange at hnow h
  rw [Bool.and_eq_true, decide_eq_true_iff, decide_eq_true_iff] at hnow h
  have hlast : now.nanos ≤ DateTime.maxUtc.nanos := hnow.2
  have hfirst : DateTime.minUtc.nanos ≤ now.nanos - secs * 1000000000 := h.1
  have hlength : DateTime.maxUtc.nanos - DateTime.minUtc.nanos ≤
      (2 ^ 63 - 1) / 1000 * 1000000000 := by
    decide
  omega

/-- A shorter bound is in the calendar when a longer one is. -/
theorem ago_inRange_of_le {secs secs' : Nat} (hnow : now.inRange = true) (hle : secs ≤ secs')
    (h : (ago now secs').inRange = true) : (ago now secs).inRange = true := by
  unfold DateTime.inRange at hnow h ⊢
  rw [Bool.and_eq_true, decide_eq_true_iff, decide_eq_true_iff] at hnow h ⊢
  have hbetween : ago now secs' ≤ ago now secs := by
    show now.nanos - secs' * 1000000000 ≤ now.nanos - secs * 1000000000
    omega
  exact ⟨h.1.trans hbetween, (ago_le now secs).trans hnow.2⟩

theorem reaches_iff (hnow : now.inRange = true) :
    Reaches now secs t ↔ (ago now secs).inRange = true ∧ t = ago now secs := by
  unfold Reaches
  constructor
  · rintro ⟨hcast, hok⟩
    obtain rfl := eq_ago hok (asI64_eq_iff.mp hcast)
    exact ⟨(secondsBefore_eq_ok_iff.mp hok).2.1, rfl⟩
  · rintro ⟨hrange, rfl⟩
    have hle := le_of_ago_inRange hnow hrange
    have hcast : asI64 secs = secs := asI64_of_lt (by omega)
    refine ⟨hcast, secondsBefore_eq_ok_iff.mpr ⟨?_, hrange, ?_⟩⟩
    · rw [hcast]
      omega
    · rw [hcast]
      rfl

end Bounds

/-! ## Kinds -/

section Kinds

variable {r : Rule} {now : DateTime}

/-- A bound before the one of the window. -/
theorem exists_reaches_lt_iff {baseline : Nat} (hnow : now.inRange = true) :
    (∃ first, Reaches now baseline first ∧ first < ago now r.windowSecs) ↔
      r.windowSecs < baseline ∧ (ago now baseline).inRange = true := by
  constructor
  · rintro ⟨first, hreaches, hlt⟩
    obtain ⟨hrange, rfl⟩ := (reaches_iff hnow).mp hreaches
    exact ⟨ago_lt_ago.mp hlt, hrange⟩
  · rintro ⟨hlt, hrange⟩
    exact ⟨_, (reaches_iff hnow).mpr ⟨hrange, rfl⟩, ago_lt_ago.mpr hlt⟩

/-- The product is exact when the bound that it gives exists. -/
theorem min_eq_of_inRange (hnow : now.inRange = true) (hnone : r.baselineSecs = none)
    (h : (ago now r.anomalyBaseline).inRange = true) :
    min (r.windowSecs * 30) (2 ^ 64 - 1) = r.windowSecs * 30 := by
  have hle := le_of_ago_inRange hnow h
  unfold Rule.anomalyBaseline at hle
  rw [hnone, Option.getD_none] at hle
  omega

theorem safeKind_iff (hnow : now.inRange = true) (hwindow : 0 < r.windowSecs) :
    SafeKind r now ↔ FitsKind r now := by
  have hstart : SafeKind r now ↔ (ago now r.windowSecs).inRange = true ∧
      match r.kind with
      | .relativeChange => ∃ previous,
          (ago now r.windowSecs).checkedAdd (-(now.nanos - (ago now r.windowSecs).nanos)) =
            some previous ∧ previous < ago now r.windowSecs
      | .anomaly =>
          (r.baselineSecs = none → min (r.windowSecs * 30) (2 ^ 64 - 1) = r.windowSecs * 30) ∧
            asI32 r.windowSecs = r.windowSecs ∧
            ∃ first, Reaches now r.anomalyBaseline first ∧ first < ago now r.windowSecs
      | .logNewSignature =>
        ∃ first, Reaches now r.noveltyBaseline first ∧ first < ago now r.windowSecs
      | _ => True := by
    unfold SafeKind
    constructor
    · rintro ⟨start, hreaches, -, hkind⟩
      obtain ⟨hrange, rfl⟩ := (reaches_iff hnow).mp hreaches
      exact ⟨hrange, hkind⟩
    · rintro ⟨hrange, hkind⟩
      exact ⟨_, (reaches_iff hnow).mpr ⟨hrange, rfl⟩, ago_lt_iff.mpr hwindow, hkind⟩
  rw [hstart]
  unfold FitsKind
  cases r.kind with
  | relativeChange =>
    dsimp only
    constructor
    · rintro ⟨-, previous, hprevious, -⟩
      obtain ⟨hrange, rfl⟩ := DateTime.checkedAdd_eq_some_iff.mp hprevious
      rw [← ago_twice]
      exact hrange
    · intro hrange
      refine ⟨ago_inRange_of_le hnow (by omega) hrange, ago now (2 * r.windowSecs), ?_, ?_⟩
      · rw [DateTime.checkedAdd_eq_some_iff]
        exact ⟨hrange, (ago_twice now r.windowSecs).symm⟩
      · exact ago_lt_ago.mpr (by omega)
  | anomaly =>
    dsimp only
    rw [exists_reaches_lt_iff hnow, asI32_eq_iff]
    constructor
    · rintro ⟨-, -, hbucket, hlt, hrange⟩
      exact ⟨hbucket, hlt, hrange⟩
    · rintro ⟨hbucket, hlt, hrange⟩
      exact ⟨ago_inRange_of_le hnow hlt.le hrange, fun hnone => min_eq_of_inRange hnow hnone hrange,
        hbucket, hlt, hrange⟩
  | logNewSignature =>
    dsimp only
    rw [exists_reaches_lt_iff hnow]
    constructor
    · rintro ⟨-, hlt, hrange⟩
      exact ⟨hlt, hrange⟩
    · rintro ⟨hlt, hrange⟩
      exact ⟨ago_inRange_of_le hnow hlt.le hrange, hlt, hrange⟩
  | _ =>
    dsimp only
    rw [and_true]

end Kinds

/-! ## Panics -/

section Panics

variable {α β : Type} {engine : Engine} {db : Database} {r : Rule} {now : DateTime}

/-- The computation does not panic. -/
def NoPanic (x : Except Failure α) : Prop := x ≠ .error .panic

theorem NoPanic.ok (a : α) : NoPanic (.ok a) := nofun

theorem NoPanic.error : NoPanic (.error .error : Except Failure α) := nofun

theorem NoPanic.bind {x : Except Failure α} {f : α → Except Failure β} (hx : NoPanic x)
    (hf : ∀ a, x = .ok a → NoPanic (f a)) : NoPanic (x >>= f) := by
  cases x with
  | ok a => exact hf a rfl
  | error e =>
    intro h
    exact hx (congrArg Except.error (Except.error.inj h))

theorem NoPanic.map {x : Except Failure α} (f : α → β) (hx : NoPanic x) : NoPanic (x.map f) := by
  cases x with
  | ok a => exact .ok _
  | error e =>
    intro h
    exact hx (congrArg Except.error (Except.error.inj h))

theorem noPanic_decodeF64 (x : Option Scalar) : NoPanic (decodeF64 x) := by
  match x with
  | none => exact .ok _
  | some (.float8 x) => exact .ok _
  | some .null => exact .error
  | some (.int8 n) => exact .error

/-- An aggregate panics only where the database does. -/
theorem noPanic_fetchAggregate (hengine : ∀ agg xs, NoPanic (engine.aggregate agg xs)) (agg : Agg)
    (column : Row → Option F64) (rows : List Row) :
    NoPanic (fetchAggregate engine agg column rows) := by
  unfold fetchAggregate
  split
  · exact noPanic_decodeF64 _
  · exact noPanic_decodeF64 _
  · exact .bind (hengine _ _) fun _ _ => noPanic_decodeF64 _

theorem noPanic_bucketCounts (db : Database) (r : Rule) (start stop : DateTime) :
    NoPanic (bucketCounts db r start stop) := by
  unfold bucketCounts
  dsimp only
  split
  · exact .error
  · exact .ok _

/-- The bounds are all that an evaluation may panic on. -/
theorem noPanic_computeAnomaly {first start : DateTime}
    (hfirst : secondsBefore now r.anomalyBaseline = .ok first)
    (hstart : secondsBefore now r.windowSecs = .ok start) : NoPanic (computeAnomaly db r now) := by
  unfold Rule.anomalyBaseline at hfirst
  unfold computeAnomaly
  dsimp only
  rw [hfirst, hstart]
  refine .bind (.ok first) fun _ _ => .bind (.ok start) fun _ _ =>
    .bind (noPanic_bucketCounts _ _ _ _) fun buckets _ => ?_
  split_ifs <;> exact .ok _

theorem noPanic_computeValue (hengine : ∀ agg xs, NoPanic (engine.aggregate agg xs))
    (h : SafeKind r now) : NoPanic (computeValue engine db r now) := by
  obtain ⟨start, ⟨-, hstart⟩, -, hkind⟩ := h
  unfold computeValue
  rw [hstart]
  refine .bind (.ok start) fun start' hstart' => ?_
  obtain rfl := Except.ok.inj hstart'
  cases hr : r.kind with
  | logGroupCount => exact .error
  | logNewSignature => exact .error
  | composite => exact .error
  | logCount => exact .ok _
  | telemetryCount => exact .ok _
  | errorRatio => exact .ok _
  | metricThreshold => exact noPanic_fetchAggregate hengine _ _ _
  | spanDuration => exact noPanic_fetchAggregate hengine _ _ _
  | relativeChange =>
    rw [hr] at hkind
    obtain ⟨previous, hprevious, -⟩ := hkind
    show NoPanic (computeRelativeChange db r start now)
    unfold computeRelativeChange
    rw [hprevious]
    exact .ok _
  | anomaly =>
    rw [hr] at hkind
    obtain ⟨-, -, first, ⟨-, hfirst⟩, -⟩ := hkind
    exact noPanic_computeAnomaly hfirst hstart

theorem noPanic_conditionsMet (hengine : ∀ agg xs, NoPanic (engine.aggregate agg xs))
    {conditions : List Rule} (h : ∀ c ∈ conditions, SafeKind c now) :
    NoPanic (conditionsMet engine db now conditions) := by
  induction conditions with
  | nil => exact .ok _
  | cons c conditions ih =>
    rw [List.forall_mem_cons] at h
    unfold conditionsMet
    exact .bind (noPanic_computeValue hengine h.1) fun _ _ => .bind (ih h.2) fun _ _ => .ok _

theorem noPanic_groupExpr (r : Rule) :
    NoPanic (r.groupExpr.mapError fun _ => Failure.error) := by
  cases r.groupExpr with
  | ok expr => exact .ok _
  | error e => exact .error

/-- **A safe evaluation does not panic**, whatever the tables hold. -/
theorem compute_ne_panic (hengine : ∀ agg xs, NoPanic (engine.aggregate agg xs))
    (h : EvaluatesSafely r now) : NoPanic (compute engine db r now) := by
  unfold EvaluatesSafely at h
  unfold compute
  split
  · rename_i hr
    rw [if_neg (by rw [hr]; decide)] at h
    obtain ⟨start, ⟨-, hstart⟩, -⟩ := h
    apply NoPanic.map
    unfold computeGroups
    rw [hstart]
    refine .bind (.ok start) fun _ _ => .bind (noPanic_groupExpr r) fun expr _ => ?_
    dsimp only
    split_ifs
    · exact .error
    · exact .ok _
  · rename_i hr
    rw [if_neg (by rw [hr]; decide)] at h
    obtain ⟨start, ⟨-, hstart⟩, -, hkind⟩ := h
    rw [hr] at hkind
    obtain ⟨first, ⟨-, hfirst⟩, -⟩ := hkind
    unfold Rule.noveltyBaseline at hfirst
    apply NoPanic.map
    unfold computeNovelGroups
    rw [hstart, hfirst]
    refine .bind (.ok start) fun _ _ => .bind (.ok first) fun _ _ =>
      .bind (noPanic_groupExpr r) fun expr _ => ?_
    dsimp only
    split_ifs
    · exact .error
    · exact .ok _
  · rename_i hr
    rw [if_pos hr] at h
    exact (noPanic_conditionsMet hengine h).map _
  · rename_i hr
    rw [if_neg hr] at h
    exact (noPanic_computeValue hengine h).map _

end Panics

/-! ## Accepted rules -/

section Accepted

variable {r : Rule} {now : DateTime} {asCondition : Bool}

/-- Validation asks that a window is not empty. -/
theorem windowSecs_pos_of_validateInner (h : r.validateInner asCondition = .ok ())
    (hkind : r.kind ≠ .composite) : 0 < r.windowSecs := by
  obtain ⟨fields, conditions⟩ := r
  rw [Rule.validateInner, if_neg hkind] at h
  apply Nat.pos_of_ne_zero
  intro hzero
  dsimp only at h
  rw [if_pos hzero] at h
  cases h

theorem validateInner_of_validateConditions {conditions : List Rule}
    (h : Rule.validateConditions conditions = .ok ()) :
    ∀ c ∈ conditions, c.validateInner true = .ok () := by
  induction conditions with
  | nil => nofun
  | cons c conditions ih =>
    rw [Rule.validateConditions] at h
    obtain ⟨u, hfirst, hrest⟩ := bind_eq_ok.mp h
    rw [List.forall_mem_cons]
    exact ⟨hfirst, ih hrest⟩

theorem kind_ne_composite_of_validateInner (h : r.validateInner true = .ok ()) :
    r.kind ≠ .composite := by
  obtain ⟨fields, conditions⟩ := r
  intro hkind
  rw [Rule.validateInner, if_pos hkind] at h
  cases h

theorem validateConditions_of_validateInner (h : r.validateInner false = .ok ())
    (hkind : r.kind = .composite) : Rule.validateConditions r.conditions = .ok () := by
  obtain ⟨fields, conditions⟩ := r
  rw [Rule.validateInner, if_pos hkind] at h
  dsimp only at h
  rw [if_neg Bool.false_ne_true] at h
  split at h
  · cases h
  · obtain ⟨u, hconditions, -⟩ := bind_eq_ok.mp h
    exact hconditions

/-- **Safe evaluations.** An accepted rule is evaluated without a wrap, a panic or an empty window
exactly when its bounds are in the calendar, its baseline is longer than its window, and its buckets
are shorter than 2^31 seconds. -/
theorem evaluatesSafely_iff (hvalid : r.validate = .ok ()) (hnow : now.inRange = true) :
    EvaluatesSafely r now ↔ FitsCalendar r now := by
  have hinner := validateInner_of_validate hvalid
  unfold EvaluatesSafely FitsCalendar
  split
  · rename_i hkind
    have hconditions :=
      validateInner_of_validateConditions (validateConditions_of_validateInner hinner hkind)
    refine forall₂_congr fun c hc => safeKind_iff hnow ?_
    exact windowSecs_pos_of_validateInner (hconditions c hc)
      (kind_ne_composite_of_validateInner (hconditions c hc))
  · rename_i hkind
    exact safeKind_iff hnow (windowSecs_pos_of_validateInner hinner hkind)

end Accepted

/-- An unusual volume and more of it than in the minute before. -/
def surge : Rule :=
  { name := "surge", kind := .composite
    conditions :=
      [{ kind := .anomaly, windowSecs := 60 }, { kind := .relativeChange, windowSecs := 60 }] }

theorem evaluatesSafely_iff_surge : EvaluatesSafely surge ⟨0⟩ := by
  apply (evaluatesSafely_iff rfl (by decide)).mpr
  have hkind : surge.kind = .composite := rfl
  rw [FitsCalendar, if_pos hkind]
  have hbaseline : FitsKind { kind := .anomaly, windowSecs := 60 } ⟨0⟩ :=
    ⟨by decide, by decide, by decide⟩
  have hprevious : FitsKind { kind := .relativeChange, windowSecs := 60 } ⟨0⟩ := by
    show (ago ⟨0⟩ (2 * 60)).inRange = true
    decide
  exact List.forall_mem_cons.mpr ⟨hbaseline, List.forall_mem_singleton.mpr hprevious⟩

/-- A window of 2^63 seconds. -/
def endless : Rule := { name := "endless", kind := .logCount, windowSecs := 2 ^ 63 }

/-- The cast makes it negative, and the duration panics. -/
theorem not_evaluatesSafely_endless :
    endless.validate = .ok () ∧ (⟨0⟩ : DateTime).inRange = true ∧ ¬ EvaluatesSafely endless ⟨0⟩ ∧
      ∀ engine db, ¬ NoPanic (compute engine db endless ⟨0⟩) := by
  refine ⟨rfl, by decide, ?_, ?_⟩
  · rintro ⟨start, ⟨hcast, -⟩, -⟩
    exact absurd (asI64_eq_iff.mp hcast) (by decide)
  · intro engine db h
    exact h rfl

end Datacat.Alerting
