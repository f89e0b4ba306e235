import Mathlib

/-!
# Half-Open Buckets

Points of a line are sorted into buckets of one width that follow one another from a start, each
with its start and without its end.

## Main results

- `existsUnique_inBucket_iff`: a point that the buckets cover lies in exactly one of them.
- `sum_countP_inBucket`: the counts of the buckets add up to the count of what they cover.
-/

namespace Datacat.Basics

/-- The point lies in the bucket at a place of the sequence. -/
def InBucket (start width : Int) (i : Nat) (t : Int) : Prop :=
  start + i * width ≤ t ∧ t < start + (i + 1) * width

instance (start width : Int) (i : Nat) : DecidablePred (InBucket start width i) :=
  fun _ => instDecidableAnd

/-- The point lies in what a number of buckets cover. -/
def Covered (start width : Int) (k : Nat) (t : Int) : Prop :=
  start ≤ t ∧ t < start + k * width

instance (start width : Int) (k : Nat) : DecidablePred (Covered start width k) :=
  fun _ => instDecidableAnd

section Points

variable {start width t : Int} {i k : Nat}

/-- The number of the bucket of a point is a quotient. -/
theorem inBucket_iff_div (hwidth : 0 < width) :
    InBucket start width i t ↔ (t - start) / width = i := by
  have hlower : start + i * width ≤ t ↔ (i : Int) ≤ (t - start) / width := by
    rw [Int.le_ediv_iff_mul_le hwidth]
    omega
  have hupper : t < start + (i + 1) * width ↔ (t - start) / width < i + 1 := by
    rw [Int.ediv_lt_iff_lt_mul hwidth]
    omega
  rw [InBucket, hlower, hupper]
  omega

theorem covered_iff_div (hwidth : 0 < width) :
    Covered start width k t ↔ 0 ≤ (t - start) / width ∧ (t - start) / width < k := by
  have hlower : start ≤ t ↔ 0 ≤ (t - start) / width := by
    rw [Int.le_ediv_iff_mul_le hwidth]
    omega
  have hupper : t < start + k * width ↔ (t - start) / width < k := by
    rw [Int.ediv_lt_iff_lt_mul hwidth]
    omega
  rw [Covered, hlower, hupper]

/-- A point that is covered lies in exactly one bucket. -/
theorem existsUnique_inBucket_iff (hwidth : 0 < width) :
    (∃! i, i < k ∧ InBucket start width i t) ↔ Covered start width k t := by
  rw [covered_iff_div hwidth]
  constructor
  · rintro ⟨i, ⟨hi, hbucket⟩, -⟩
    rw [inBucket_iff_div hwidth] at hbucket
    omega
  · rintro ⟨hlower, hupper⟩
    refine ⟨((t - start) / width).toNat, ⟨?_, ?_⟩, ?_⟩
    · omega
    · rw [inBucket_iff_div hwidth]
      exact (Int.toNat_of_nonneg hlower).symm
    · rintro i ⟨-, hbucket⟩
      rw [inBucket_iff_div hwidth] at hbucket
      omega

/-- One more bucket covers its own points too. -/
theorem covered_succ_iff (hwidth : 0 < width) :
    Covered start width (k + 1) t ↔ Covered start width k t ∨ InBucket start width k t := by
  rw [covered_iff_div hwidth, covered_iff_div hwidth, inBucket_iff_div hwidth]
  omega

theorem not_covered_and_inBucket (hwidth : 0 < width) :
    ¬ (Covered start width k t ∧ InBucket start width k t) := by
  rw [covered_iff_div hwidth, inBucket_iff_div hwidth]
  omega

theorem not_covered_zero : ¬ Covered start width 0 t := by
  rintro ⟨hlower, hupper⟩
  omega

end Points

/-! ## Counts -/

section Counts

variable {α : Type*} {start width : Int}

/-- The counts of two kinds of points that exclude each other add up. -/
theorem countP_add_of_disjoint {p q s : α → Prop} [DecidablePred p] [DecidablePred q]
    [DecidablePred s] (rows : List α) (hs : ∀ x, s x ↔ p x ∨ q x)
    (hdisjoint : ∀ x, ¬ (p x ∧ q x)) :
    rows.countP (fun x => s x) = rows.countP (fun x => p x) + rows.countP (fun x => q x) := by
  induction rows with
  | nil => rfl
  | cons x rows ih =>
    have hx := hs x
    have hnot := hdisjoint x
    rw [List.countP_cons, List.countP_cons, List.countP_cons, ih]
    by_cases hp : p x
    · -- Counted on the left, so not on the right.
      have hq : ¬ q x := fun hq => hnot ⟨hp, hq⟩
      simp only [hp, hq, hx.mpr (.inl hp), decide_true, decide_false, if_true, if_false,
        Bool.false_eq_true]
      omega
    · by_cases hq : q x
      · simp only [hp, hq, hx.mpr (.inr hq), decide_true, decide_false, if_true, if_false,
          Bool.false_eq_true]
        omega
      · have hnone : ¬ s x := fun h => (hx.mp h).elim hp hq
        simp only [hp, hq, hnone, decide_false, if_false, Bool.false_eq_true]
        omega

/-- The counts of the buckets add up to the count of what they cover. -/
theorem sum_countP_inBucket (hwidth : 0 < width) (rows : List α) (point : α → Int) (k : Nat) :
    ((List.range k).map fun i =>
        rows.countP fun x => decide (InBucket start width i (point x))).sum =
      rows.countP fun x => decide (Covered start width k (point x)) := by
  induction k with
  | zero =>
    symm
    apply List.countP_eq_zero.mpr
    intro x _
    exact of_decide_eq_true.mt not_covered_zero
  | succ k ih =>
    rw [List.range_succ, List.map_append, List.sum_append, List.map_singleton, List.sum_singleton,
      ih]
    symm
    apply countP_add_of_disjoint
    · intro x
      exact covered_succ_iff hwidth
    · intro x
      exact not_covered_and_inBucket hwidth

end Counts

end Datacat.Basics
