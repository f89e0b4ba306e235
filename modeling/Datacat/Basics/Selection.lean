import Mathlib

/-!
# Answers to a Query

What a database may answer to a query that groups its rows and orders and limits them, as
relations: rows that compare equal may come in any order, and so may groups.

## Main results

- `Ordered.unique`: where no two rows compare equal, the order is one.
- `Limited.complete`: a row that is not answered comes after a full answer.
- `Aggregated.perm`: whatever the order of the rows, the groups are the same up to their order.
- `Aggregated.sum_length`: every row is counted in one group.
-/

namespace Datacat.Basics

universe u v w

variable {ρ : Type u} {κ : Type v} {α : Type w}

/-! ## Order -/

/-- `ORDER BY`. -/
structure Ordered (before : ρ → ρ → Prop) (rows ordered : List ρ) : Prop where
  perm : ordered.Perm rows
  pairwise : ordered.Pairwise before

/-- Two answers over the same rows are equal where no two of them compare equal. -/
theorem Ordered.unique {before : ρ → ρ → Prop} {rows rows' ordered ordered' : List ρ}
    (h : Ordered before rows ordered) (h' : Ordered before rows' ordered')
    (hperm : rows.Perm rows')
    (hantisymm : ∀ a ∈ rows, ∀ b ∈ rows, before a b → before b a → a = b) :
    ordered = ordered' := by
  have hsame : ordered.Perm ordered' := h.perm.trans (hperm.trans h'.perm.symm)
  apply hsame.eq_of_pairwise _ h.pairwise h'.pairwise
  intro a b ha hb
  exact hantisymm a (h.perm.mem_iff.mp ha) b (h.perm.mem_iff.mp (hsame.mem_iff.mpr hb))

/-- `LIMIT`, where there is one. -/
def limited (limit : Option Nat) (rows : List ρ) : List ρ :=
  match limit with
  | some n => rows.take n
  | none => rows

/-- `ORDER BY .. LIMIT ..`. -/
def Limited (before : ρ → ρ → Prop) (limit : Option Nat) (rows answer : List ρ) : Prop :=
  ∃ ordered, Ordered before rows ordered ∧ answer = limited limit ordered

section Limited

variable {before : ρ → ρ → Prop} {limit : Option Nat} {rows answer : List ρ}

/-- There is an answer. -/
theorem exists_limited {before : ρ → ρ → Prop} (htotal : ∀ a b, before a b ∨ before b a)
    (htrans : ∀ a b c, before a b → before b c → before a c) (limit : Option Nat) (rows : List ρ) :
    ∃ answer, Limited before limit rows answer := by
  classical
  let le (a b : ρ) : Bool := decide (before a b)
  refine ⟨_, rows.mergeSort le, ⟨List.mergeSort_perm rows le, ?_⟩, rfl⟩
  have hsorted : (rows.mergeSort le).Pairwise fun a b => le a b = true := by
    apply List.pairwise_mergeSort
    · intro a b c hab hbc
      exact decide_eq_true (htrans a b c (of_decide_eq_true hab) (of_decide_eq_true hbc))
    · intro a b
      rw [Bool.or_eq_true]
      exact (htotal a b).imp decide_eq_true decide_eq_true
  exact hsorted.imp of_decide_eq_true

theorem limited_sublist (limit : Option Nat) (rows : List ρ) : (limited limit rows).Sublist rows := by
  cases limit with
  | none => exact List.Sublist.refl rows
  | some n => exact List.take_sublist n rows

theorem Limited.mem (h : Limited before limit rows answer) {r : ρ} (hr : r ∈ answer) :
    r ∈ rows := by
  obtain ⟨ordered, hordered, rfl⟩ := h
  exact hordered.perm.mem_iff.mp ((limited_sublist limit ordered).subset hr)

theorem Limited.pairwise (h : Limited before limit rows answer) : answer.Pairwise before := by
  obtain ⟨ordered, hordered, rfl⟩ := h
  exact hordered.pairwise.sublist (limited_sublist limit ordered)

theorem Limited.nodup_map (h : Limited before limit rows answer) {key : ρ → κ}
    (hnodup : (rows.map key).Nodup) : (answer.map key).Nodup := by
  obtain ⟨ordered, hordered, rfl⟩ := h
  have hkeys : (ordered.map key).Nodup := (hordered.perm.map key).nodup_iff.mpr hnodup
  exact hkeys.sublist ((limited_sublist limit ordered).map key)

/-- A row that is not answered comes after all that are, and these are as many as the limit. -/
theorem Limited.complete (h : Limited before limit rows answer) {r : ρ} (hr : r ∈ rows) :
    r ∈ answer ∨ some answer.length = limit ∧ ∀ a ∈ answer, before a r := by
  obtain ⟨ordered, hordered, rfl⟩ := h
  have hmem : r ∈ ordered := hordered.perm.mem_iff.mpr hr
  cases limit with
  | none => exact .inl hmem
  | some n =>
    rw [← List.take_append_drop n ordered] at hmem
    rcases List.mem_append.mp hmem with htaken | hdropped
    · exact .inl htaken
    · -- Something is cut off, so the answer is full.
      have hlong : n ≤ ordered.length := by
        by_contra hshort
        rw [List.drop_eq_nil_of_le (Nat.le_of_not_le hshort)] at hdropped
        cases hdropped
      have hpairwise := hordered.pairwise
      rw [← List.take_append_drop n ordered] at hpairwise
      refine .inr ⟨congrArg some (List.length_take_of_le hlong), fun a ha => ?_⟩
      exact (List.pairwise_append.mp hpairwise).2.2 a ha r hdropped

end Limited

/-! ## Groups -/

/-- `SELECT key, aggregate .. GROUP BY key`: one result for each key that occurs. -/
structure Aggregated [DecidableEq κ] (key : ρ → κ) (aggregate : List ρ → α → Prop) (rows : List ρ)
    (results : List (κ × α)) : Prop where
  nodup : (results.map Prod.fst).Nodup
  keys : ∀ k, k ∈ results.map Prod.fst ↔ k ∈ rows.map key
  values : ∀ x ∈ results, aggregate (rows.filter fun r => key r = x.1) x.2

section Aggregated

variable [DecidableEq κ] {key : ρ → κ} {aggregate : List ρ → α → Prop} {rows rows' : List ρ}
  {results results' : List (κ × α)}

theorem Aggregated.mem_of_perm (h : Aggregated key aggregate rows results)
    (h' : Aggregated key aggregate rows' results') (hperm : rows.Perm rows')
    (hunique : ∀ group group' a a', group.Perm group' → group.Sublist rows → aggregate group a →
      aggregate group' a' → a = a') {x : κ × α} (hx : x ∈ results) : x ∈ results' := by
  have hkey : x.1 ∈ results'.map Prod.fst :=
    (h'.keys x.1).mpr ((hperm.map key).mem_iff.mp
      ((h.keys x.1).mp (List.mem_map_of_mem hx)))
  obtain ⟨y, hy, hyx⟩ := List.mem_map.mp hkey
  have hgroup : (rows.filter fun r => key r = x.1).Perm (rows'.filter fun r => key r = x.1) :=
    hperm.filter _
  have hvalue := h'.values y hy
  rw [hyx] at hvalue
  have heq := hunique _ _ _ _ hgroup List.filter_sublist (h.values x hx) hvalue
  rwa [show x = y from Prod.ext hyx.symm heq]

/-- The results over the same rows are the same, up to their order, where an aggregate does not
depend on the order of its rows. -/
theorem Aggregated.perm (h : Aggregated key aggregate rows results)
    (h' : Aggregated key aggregate rows' results') (hperm : rows.Perm rows')
    (hunique : ∀ group group' a a', group.Perm group' → group.Sublist rows → aggregate group a →
      aggregate group' a' → a = a') : results.Perm results' := by
  refine (List.perm_ext_iff_of_nodup h.nodup.of_map h'.nodup.of_map).mpr fun x => ⟨?_, ?_⟩
  · exact h.mem_of_perm h' hperm hunique
  · intro hx
    have hkey : x.1 ∈ results.map Prod.fst :=
      (h.keys x.1).mpr ((hperm.map key).mem_iff.mpr ((h'.keys x.1).mp (List.mem_map_of_mem hx)))
    obtain ⟨y, hy, hyx⟩ := List.mem_map.mp hkey
    -- The result of this key is among the others, whose keys are distinct.
    have hy' := h.mem_of_perm h' hperm hunique hy
    rwa [List.inj_on_of_nodup_map h'.nodup hx hy' hyx.symm]

/-- Every row is counted in one group. -/
theorem Aggregated.sum_length {results : List (κ × Nat)}
    (h : Aggregated key (fun group n => n = group.length) rows results) :
    (results.map Prod.snd).sum = rows.length := by
  have hcounts : results.map Prod.snd = (results.map Prod.fst).map fun k => (rows.map key).count k := by
    rw [List.map_map]
    apply List.map_congr_left
    intro x hx
    show x.2 = (rows.map key).count x.1
    rw [h.values x hx, List.count_eq_countP, List.countP_map, List.countP_eq_length_filter]
    congr 1
  have hperm : (results.map Prod.fst).Perm (rows.map key).dedup := by
    refine (List.perm_ext_iff_of_nodup h.nodup (List.nodup_dedup _)).mpr fun k => ?_
    rw [h.keys, List.mem_dedup]
  calc
    (results.map Prod.snd).sum
        = ((rows.map key).dedup.map fun k => (rows.map key).count k).sum := by
          rw [hcounts]
          exact (hperm.map _).sum_eq
    _ = (rows.map key).length := List.sum_map_count_dedup_eq_length _
    _ = rows.length := List.length_map _

end Aggregated

end Datacat.Basics
