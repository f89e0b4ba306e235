import Datacat.Alerting.Independence
import Datacat.Alerting.Windows

/-!
# New Signatures

A signature is new when it occurs in the current window and not in the baseline before it. The
query asks for the signatures `NOT IN` those of the baseline. One row of the baseline whose
signature is null leaves the answer open for all of them, and none is returned.

## Main results

- `mem_computeNovelGroups`: the signatures that are returned.
- `detectsNovelty_iff`: they are the new ones exactly when no baseline row has a null signature, or
  nothing is new; and bounds that are not where they are meant to be make no difference.
-/

namespace Datacat.Alerting

open Basics
open Events (bind_eq_ok)

/-! ## The property -/

/-- The baseline of the rule, a day by default. -/
def Rule.noveltyBaseline (r : Rule) : Nat := r.baselineSecs.getD 86400

/-- A row that passes the filters of the rule has the signature, at an instant of the kind. -/
def Occurs (engine : Engine) (db : Database) (r : Rule) (expr : GroupExpr)
    (inside : DateTime → Prop) (signature : Option String) : Prop :=
  ∃ row ∈ select db .logs (logGroupFilters r),
    inside row.time ∧ groupKey engine expr row = signature

/-- `[now - window, now]`. -/
def Rule.InWindow (r : Rule) (now t : DateTime) : Prop := ago now r.windowSecs ≤ t ∧ t ≤ now

/-- `[now - baseline, now - window)`. -/
def Rule.InBaseline (r : Rule) (now t : DateTime) : Prop :=
  ago now r.noveltyBaseline ≤ t ∧ t < ago now r.windowSecs

instance (r : Rule) (now : DateTime) : DecidablePred (r.InWindow now) := fun _ => instDecidableAnd

instance (r : Rule) (now : DateTime) : DecidablePred (r.InBaseline now) := fun _ => instDecidableAnd

def Novel (engine : Engine) (db : Database) (r : Rule) (expr : GroupExpr) (now : DateTime)
    (signature : String) : Prop :=
  Occurs engine db r expr (r.InWindow now) (some signature) ∧
    ¬ Occurs engine db r expr (r.InBaseline now) (some signature)

/-- The signatures that are returned are the new ones. -/
def DetectsNovelty (engine : Engine) (db : Database) (r : Rule) (now : DateTime) : Prop :=
  ∃ expr groups, r.groupExpr = .ok expr ∧ computeNovelGroups engine db r now = .ok groups ∧
    ∀ signature, signature ∈ groups.map Prod.fst ↔ Novel engine db r expr now signature

/-- The query is accepted and its bounds exist. -/
def NoveltyAsked (engine : Engine) (r : Rule) (expr : GroupExpr) (now : DateTime) : Prop :=
  r.groupExpr = .ok expr ∧ groupable engine expr = true ∧
    (∃ t, secondsBefore now r.windowSecs = .ok t) ∧
    ∃ t, secondsBefore now r.noveltyBaseline = .ok t

/-- When the signatures that are returned are the new ones. A bound beyond 2^63 seconds lies in the
future, and what it bounds is empty. -/
def DetectsWhen (engine : Engine) (db : Database) (r : Rule) (now : DateTime) : Prop :=
  ∃ expr, NoveltyAsked engine r expr now ∧
    if 2 ^ 63 ≤ r.windowSecs then
      ∀ signature, ¬ Novel engine db r expr now signature
    else if 2 ^ 63 ≤ r.noveltyBaseline then
      ∀ signature, Occurs engine db r expr (r.InWindow now) (some signature) →
        ¬ Occurs engine db r expr (r.InBaseline now) (some signature)
    else
      ¬ Occurs engine db r expr (r.InBaseline now) none ∨
        ∀ signature, ¬ Novel engine db r expr now signature

/-! ## What the query returns -/

section Query

variable {engine : Engine} {db : Database} {r : Rule} {now : DateTime} {expr : GroupExpr}
  {groups : List (String × F64)} {signature : String}

theorem notIn_some_iff {known : List (Option String)} :
    notIn (some signature) known = true ↔ some signature ∉ known ∧ none ∉ known := by
  unfold notIn
  cases known with
  | nil => simp
  | cons k known => simp

theorem mem_namedGroups_iff {counted : List (Option String × Nat)} :
    signature ∈ (namedGroups counted).map Prod.fst ↔ some signature ∈ counted.map Prod.fst := by
  unfold namedGroups
  constructor
  · intro h
    obtain ⟨g, hg, rfl⟩ := List.mem_map.mp h
    obtain ⟨⟨key, n⟩, hmem, hkey⟩ := List.mem_filterMap.mp hg
    obtain ⟨name, rfl, rfl⟩ := Option.map_eq_some_iff.mp hkey
    exact List.mem_map_of_mem hmem
  · intro h
    obtain ⟨⟨key, n⟩, hmem, rfl⟩ := List.mem_map.mp h
    exact List.mem_map.mpr ⟨_, List.mem_filterMap.mpr ⟨_, hmem, rfl⟩, rfl⟩

theorem mem_countGroups_filter_iff {keys known : List (Option String)} {key : Option String} :
    key ∈ ((countGroups keys).filter fun g => notIn g.1 known).map Prod.fst ↔
      key ∈ keys ∧ notIn key known = true := by
  unfold countGroups
  constructor
  · intro h
    obtain ⟨g, hg, rfl⟩ := List.mem_map.mp h
    obtain ⟨hmem, hnotIn⟩ := List.mem_filter.mp hg
    obtain ⟨k, hk, rfl⟩ := List.mem_map.mp hmem
    exact ⟨List.mem_dedup.mp hk, hnotIn⟩
  · rintro ⟨hmem, hnotIn⟩
    apply List.mem_map.mpr
    exact ⟨(key, keys.count key),
      List.mem_filter.mpr ⟨List.mem_map_of_mem (List.mem_dedup.mpr hmem), hnotIn⟩, rfl⟩

/-- The rows between two instants. -/
theorem mem_map_groupKey_iff {filters : List Filter} {inside : DateTime → Prop}
    {signature : Option String}
    (hfilters : ∀ row, (filters.all fun f => f row) = true ↔ inside row.time) :
    signature ∈ (select db .logs (filters ++ logGroupFilters r)).map (groupKey engine expr) ↔
      Occurs engine db r expr inside signature := by
  rw [select_append, List.mem_map]
  unfold Occurs
  constructor
  · rintro ⟨row, hrow, hkey⟩
    obtain ⟨hmem, hinside⟩ := List.mem_filter.mp hrow
    exact ⟨row, hmem, (hfilters row).mp hinside, hkey⟩
  · rintro ⟨row, hmem, hinside, hkey⟩
    exact ⟨row, List.mem_filter.mpr ⟨hmem, (hfilters row).mpr hinside⟩, hkey⟩

theorem asked_of_ok (hexpr : r.groupExpr = .ok expr)
    (h : computeNovelGroups engine db r now = .ok groups) : NoveltyAsked engine r expr now := by
  unfold computeNovelGroups at h
  obtain ⟨start, hstart, h⟩ := bind_eq_ok.mp h
  obtain ⟨baselineStart, hbaseline, h⟩ := bind_eq_ok.mp h
  rw [hexpr] at h
  refine ⟨hexpr, ?_, ⟨start, hstart⟩, ⟨baselineStart, hbaseline⟩⟩
  cases hgroupable : groupable engine expr with
  | true => rfl
  | false =>
    simp only [Except.mapError, bind, Except.bind, hgroupable] at h
    cases h

/-- The signatures of the window as it is, unless the baseline as it is has them or a null. -/
theorem mem_computeNovelGroups {start baselineStart : DateTime} (hexpr : r.groupExpr = .ok expr)
    (hgroupable : groupable engine expr = true) (hstart : secondsBefore now r.windowSecs = .ok start)
    (hbaseline : secondsBefore now r.noveltyBaseline = .ok baselineStart) :
    ∃ groups, computeNovelGroups engine db r now = .ok groups ∧
      ∀ signature, signature ∈ groups.map Prod.fst ↔
        Occurs engine db r expr (fun t => start ≤ t ∧ t ≤ now) (some signature) ∧
          ¬ Occurs engine db r expr (fun t => baselineStart ≤ t ∧ t < start) (some signature) ∧
          ¬ Occurs engine db r expr (fun t => baselineStart ≤ t ∧ t < start) none := by
  unfold Rule.noveltyBaseline at hbaseline
  unfold computeNovelGroups
  rw [hstart, hbaseline, hexpr]
  simp only [Except.mapError, bind, Except.bind, hgroupable]
  refine ⟨_, rfl, fun signature => ?_⟩
  -- The window has both of its bounds, the baseline only the first.
  have hwindow (row : Row) : ((windowed start now).all fun f => f row) = true ↔
      start ≤ row.time ∧ row.time ≤ now := by
    unfold windowed
    rw [List.all_cons, List.all_cons, List.all_nil, Bool.and_true, Bool.and_eq_true,
      decide_eq_true_iff, decide_eq_true_iff]
  have hbefore (row : Row) :
      ([fun row => decide (baselineStart ≤ row.time), fun row => decide (row.time < start)].all
        fun f : Filter => f row) = true ↔ baselineStart ≤ row.time ∧ row.time < start := by
    rw [List.all_cons, List.all_cons, List.all_nil, Bool.and_true, Bool.and_eq_true,
      decide_eq_true_iff, decide_eq_true_iff]
  have hrecent := @mem_map_groupKey_iff engine db r expr _
    (fun t => start ≤ t ∧ t ≤ now) (some signature) hwindow
  have hknown (key : Option String) := @mem_map_groupKey_iff engine db r expr _
    (fun t => baselineStart ≤ t ∧ t < start) key hbefore
  -- NOT IN is true when the signature is not known and no known one is NULL.
  rw [mem_namedGroups_iff, mem_countGroups_filter_iff, notIn_some_iff]
  exact and_congr hrecent (and_congr (not_congr (hknown _)) (not_congr (hknown _)))

end Query

/-! ## New signatures -/

section Novelty

variable {engine : Engine} {db : Database} {r : Rule} {now : DateTime} {expr : GroupExpr}

theorem Occurs.mono {inside inside' : DateTime → Prop} {signature : Option String}
    (h : Occurs engine db r expr inside signature) (hsub : ∀ t, inside t → inside' t) :
    Occurs engine db r expr inside' signature := by
  obtain ⟨row, hrow, hinside, hkey⟩ := h
  exact ⟨row, hrow, hsub _ hinside, hkey⟩

/-- Nothing occurs at no instant. -/
theorem not_occurs {inside : DateTime → Prop} {signature : Option String}
    (h : ∀ t, ¬ inside t) : ¬ Occurs engine db r expr inside signature := by
  rintro ⟨row, -, hinside, -⟩
  exact h _ hinside

/-- What the property comes to, once the query is accepted and its bounds are known. -/
theorem detects_iff_of_asked {start baselineStart : DateTime}
    (hexpr : r.groupExpr = .ok expr) (hgroupable : groupable engine expr = true)
    (hstart : secondsBefore now r.windowSecs = .ok start)
    (hbaseline : secondsBefore now r.noveltyBaseline = .ok baselineStart) :
    DetectsNovelty engine db r now ↔
      ∀ signature,
        (Occurs engine db r expr (fun t => start ≤ t ∧ t ≤ now) (some signature) ∧
          ¬ Occurs engine db r expr (fun t => baselineStart ≤ t ∧ t < start) (some signature) ∧
          ¬ Occurs engine db r expr (fun t => baselineStart ≤ t ∧ t < start) none) ↔
        Novel engine db r expr now signature := by
  obtain ⟨groups, hgroups, hmem⟩ :=
    @mem_computeNovelGroups engine db r now expr start baselineStart hexpr hgroupable hstart
      hbaseline
  constructor
  · rintro ⟨expr', groups', hexpr', hgroups', hnovel⟩ signature
    obtain rfl := Except.ok.inj (hexpr.symm.trans hexpr')
    obtain rfl := Except.ok.inj (hgroups.symm.trans hgroups')
    exact (hmem signature).symm.trans (hnovel signature)
  · intro h
    exact ⟨expr, groups, hexpr, hgroups, fun signature => (hmem signature).trans (h signature)⟩

theorem detectsWhen_iff_of_asked (hasked : NoveltyAsked engine r expr now) :
    DetectsWhen engine db r now ↔
      if 2 ^ 63 ≤ r.windowSecs then
        ∀ signature, ¬ Novel engine db r expr now signature
      else if 2 ^ 63 ≤ r.noveltyBaseline then
        ∀ signature, Occurs engine db r expr (r.InWindow now) (some signature) →
          ¬ Occurs engine db r expr (r.InBaseline now) (some signature)
      else
        ¬ Occurs engine db r expr (r.InBaseline now) none ∨
          ∀ signature, ¬ Novel engine db r expr now signature := by
  constructor
  · rintro ⟨expr', hasked', h⟩
    obtain rfl := Except.ok.inj (hasked.1.symm.trans hasked'.1)
    exact h
  · intro h
    exact ⟨expr, hasked, h⟩

/-- Both sides agree once the query is accepted and its bounds exist. -/
theorem detects_iff_detectsWhen (hwindow : r.windowSecs < 2 ^ 64)
    (hbaseline : r.noveltyBaseline < 2 ^ 64) (hasked : NoveltyAsked engine r expr now) :
    DetectsNovelty engine db r now ↔ DetectsWhen engine db r now := by
  rw [detectsWhen_iff_of_asked hasked]
  obtain ⟨hexpr, hgroupable, ⟨start, hstart⟩, ⟨baselineStart, hbase⟩⟩ := hasked
  rw [detects_iff_of_asked hexpr hgroupable hstart hbase]
  split
  · -- The window lies in the future, and nothing is returned.
    rename_i hwraps
    have hempty : ∀ t, ¬ (start ≤ t ∧ t ≤ now) := fun t ht =>
      (ht.1.trans ht.2).not_gt (lt_of_wraps hstart hwraps hwindow)
    apply forall_congr'
    intro signature
    constructor
    · intro h hnovel
      exact not_occurs hempty (h.mpr hnovel).1
    · intro h
      exact ⟨fun hfound => absurd hfound.1 (not_occurs hempty), fun hnovel => absurd hnovel h⟩
  · rename_i hlt
    obtain rfl := eq_ago hstart (not_le.mp hlt)
    split
    · -- The baseline ends before it starts, and nothing is known.
      rename_i hwraps
      have hempty : ∀ t, ¬ (baselineStart ≤ t ∧ t < ago now r.windowSecs) := fun t ht =>
        (ht.2.trans_le (ago_le now _)).not_ge ((lt_of_wraps hbase hwraps hbaseline).le.trans ht.1)
      apply forall_congr'
      intro signature
      constructor
      · intro h hoccurs
        exact (h.mp ⟨hoccurs, not_occurs hempty, not_occurs hempty⟩).2
      · intro h
        constructor
        · rintro ⟨hoccurs, -⟩
          exact ⟨hoccurs, h hoccurs⟩
        · rintro ⟨hoccurs, -⟩
          exact ⟨hoccurs, not_occurs hempty, not_occurs hempty⟩
    · rename_i hlt'
      obtain rfl := eq_ago hbase (not_le.mp hlt')
      -- The bounds are where they are meant to be, and what is returned is new.
      constructor
      · intro h
        by_cases hnull : Occurs engine db r expr (r.InBaseline now) none
        · right
          intro signature hnovel
          exact ((h signature).mpr hnovel).2.2 hnull
        · exact .inl hnull
      · intro h signature
        constructor
        · rintro ⟨hoccurs, hnot, -⟩
          exact ⟨hoccurs, hnot⟩
        · intro hnovel
          refine ⟨hnovel.1, hnovel.2, ?_⟩
          exact h.resolve_right fun hnone => hnone signature hnovel

end Novelty

/-- A rule that looks for new bodies, in the light of the ten minutes before. -/
def newBodies : Rule :=
  { name := "new", kind := .logNewSignature, windowSecs := 60, baselineSecs := some 600 }

/-- A log of a second. -/
def logAt (secs : Int) (body : Option String) : Logs.StoredLog where
  logId := ⟨.replicate 16 0⟩
  logTime := ⟨secs * 1000000000⟩
  observedTime := none
  receivedAt := ⟨secs * 1000000000⟩
  severityNumber := none
  severityText := none
  body := body
  serviceName := none
  scopeName := none
  traceId := none
  spanId := none
  tenantId := none
  actorId := none
  sessionId := none
  resourceAttributes := .object []
  logAttributes := .object []

def onlyLogs (logs : List Logs.StoredLog) : Database := ⟨logs, [], [], []⟩

/-- No aggregate and no attribute is asked for. -/
def columnEngine : Engine := ⟨fun _ _ => .ok none, fun _ => none, fun _ _ => none, false⟩

end Datacat.Alerting
