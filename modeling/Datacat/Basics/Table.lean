import Mathlib

/-!
# Tables with a Primary Key

Rows in the order in which they were inserted, of distinct keys. An insertion skips the rows whose
key is there already and counts the others, as `INSERT .. ON CONFLICT DO NOTHING` does; a selection
keeps the first row of each key, as `SELECT DISTINCT ON` does.

## Main results

- `Table.rows_prefix_insertAll`: an insertion leaves the rows that are there as they are.
- `Table.mem_keys_insertAll`: it adds the keys of the rows inserted and no others.
- `Table.insertAll_of_present`: it changes nothing when all keys are there.
- `Table.insertAll_map`: it goes by the keys alone.
-/

namespace Datacat.Basics

universe u v

variable {ρ : Type u} {κ : Type v}

/-- The first row of each key. -/
def distinctOn [DecidableEq κ] (key : ρ → κ) : List ρ → List ρ
  | [] => []
  | r :: rows => r :: (distinctOn key rows).filter fun r' => key r' ≠ key r

theorem map_key_distinctOn [DecidableEq κ] (key : ρ → κ) (rows : List ρ) (k : κ) :
    k ∈ (distinctOn key rows).map key ↔ k ∈ rows.map key := by
  induction rows with
  | nil => rfl
  | cons r rows ih =>
    rw [distinctOn, List.map_cons, List.map_cons, List.mem_cons, List.mem_cons, ← ih]
    constructor
    · intro h
      rcases h with h | h
      · exact .inl h
      · obtain ⟨r', hr', rfl⟩ := List.mem_map.mp h
        exact .inr (List.mem_map_of_mem (List.mem_of_mem_filter hr'))
    · intro h
      by_cases hk : k = key r
      · exact .inl hk
      · -- The row of another key passes the filter.
        obtain ⟨r', hr', rfl⟩ := List.mem_map.mp (h.resolve_left hk)
        exact .inr (List.mem_map_of_mem (List.mem_filter.mpr ⟨hr', decide_eq_true hk⟩))

theorem mem_of_mem_distinctOn [DecidableEq κ] {key : ρ → κ} {rows : List ρ} {r : ρ}
    (h : r ∈ distinctOn key rows) : r ∈ rows := by
  induction rows with
  | nil => cases h
  | cons r' rows ih =>
    rcases List.mem_cons.mp h with rfl | h
    · exact List.mem_cons_self
    · exact List.mem_cons_of_mem _ (ih (List.mem_of_mem_filter h))

theorem length_distinctOn_le [DecidableEq κ] (key : ρ → κ) (rows : List ρ) :
    (distinctOn key rows).length ≤ rows.length := by
  induction rows with
  | nil => exact Nat.le_refl 0
  | cons r rows ih =>
    apply Nat.succ_le_succ
    exact (List.length_filter_le _ _).trans ih

theorem distinctOn_map {σ : Type*} [DecidableEq κ] (key : ρ → κ) (f : σ → ρ) (rows : List σ) :
    distinctOn key (rows.map f) = (distinctOn (key ∘ f) rows).map f := by
  induction rows with
  | nil => rfl
  | cons r rows ih =>
    rw [List.map_cons, distinctOn, distinctOn, ih, List.map_cons, List.filter_map]
    rfl

/-- A table with a primary key. -/
@[ext] structure Table (key : ρ → κ) where
  rows : List ρ := []
  nodup : (rows.map key).Nodup := by exact List.nodup_nil

namespace Table

variable {key : ρ → κ}

def keys (t : Table key) : List κ := t.rows.map key

/-- The table of the images of the rows. -/
def map {σ : Type*} (f : σ → ρ) (t : Table (key ∘ f)) : Table key where
  rows := t.rows.map f
  nodup := by
    rw [List.map_map]
    exact t.nodup

theorem keys_map {σ : Type*} {f : σ → ρ} (t : Table (key ∘ f)) : (t.map f).keys = t.keys :=
  List.map_map

variable [DecidableEq κ]

/-- One row, unless its key is there. -/
def insert (t : Table key) (r : ρ) : Table key :=
  if h : key r ∈ t.keys then t
  else
    { rows := t.rows ++ [r]
      nodup := by
        rw [List.map_append, List.map_singleton, ← List.concat_eq_append]
        exact List.Nodup.concat h t.nodup }

/-- The rows one after the other, and the number of those inserted. -/
def insertAll (t : Table key) : List ρ → Table key × Nat
  | [] => (t, 0)
  | r :: rows =>
    let (t', n) := (t.insert r).insertAll rows
    (t', n + if key r ∈ t.keys then 0 else 1)

theorem insert_of_mem {t : Table key} {r : ρ} (h : key r ∈ t.keys) : t.insert r = t := dif_pos h

theorem rows_insert_of_not_mem {t : Table key} {r : ρ} (h : key r ∉ t.keys) :
    (t.insert r).rows = t.rows ++ [r] := by
  rw [insert, dif_neg h]

theorem mem_keys_insert (t : Table key) (r : ρ) (k : κ) :
    k ∈ (t.insert r).keys ↔ k = key r ∨ k ∈ t.keys := by
  by_cases h : key r ∈ t.keys
  · rw [insert_of_mem h]
    constructor
    · exact Or.inr
    · intro hk
      rcases hk with rfl | hk
      · exact h
      · exact hk
  · rw [keys, rows_insert_of_not_mem h, List.map_append, List.map_singleton, List.mem_append,
      List.mem_singleton, or_comm, keys]

theorem rows_prefix_insert (t : Table key) (r : ρ) : t.rows <+: (t.insert r).rows := by
  by_cases h : key r ∈ t.keys
  · rw [insert_of_mem h]
  · rw [rows_insert_of_not_mem h]
    exact List.prefix_append _ _

theorem length_insert (t : Table key) (r : ρ) :
    (t.insert r).rows.length = t.rows.length + if key r ∈ t.keys then 0 else 1 := by
  by_cases h : key r ∈ t.keys
  · rw [insert_of_mem h, if_pos h]
    rfl
  · rw [rows_insert_of_not_mem h, if_neg h, List.length_append]
    rfl

/-- Rows that are there are never changed. -/
theorem rows_prefix_insertAll (t : Table key) (rows : List ρ) :
    t.rows <+: (t.insertAll rows).1.rows := by
  induction rows generalizing t with
  | nil => exact List.prefix_rfl
  | cons r rows ih => exact (t.rows_prefix_insert r).trans (ih (t.insert r))

theorem mem_keys_insertAll (t : Table key) (rows : List ρ) (k : κ) :
    k ∈ (t.insertAll rows).1.keys ↔ k ∈ t.keys ∨ k ∈ rows.map key := by
  induction rows generalizing t with
  | nil => exact (or_iff_left List.not_mem_nil).symm
  | cons r rows ih =>
    have hstep := ih (t.insert r)
    rw [mem_keys_insert] at hstep
    rw [List.map_cons, List.mem_cons]
    exact hstep.trans (by tauto)

/-- The count is the growth. -/
theorem length_insertAll (t : Table key) (rows : List ρ) :
    (t.insertAll rows).1.rows.length = t.rows.length + (t.insertAll rows).2 := by
  induction rows generalizing t with
  | nil => rfl
  | cons r rows ih =>
    have hstep := ih (t.insert r)
    rw [length_insert] at hstep
    show ((t.insert r).insertAll rows).1.rows.length = _ + (_ + _)
    rw [hstep]
    omega

/-- Rows whose keys are all there change nothing. -/
theorem insertAll_of_present {t : Table key} {rows : List ρ} (h : ∀ r ∈ rows, key r ∈ t.keys) :
    t.insertAll rows = (t, 0) := by
  induction rows with
  | nil => rfl
  | cons r rows ih =>
    obtain ⟨hr, hrows⟩ := List.forall_mem_cons.mp h
    rw [insertAll, insert_of_mem hr, ih hrows, if_pos hr]

theorem mem_insert {t : Table key} {r r' : ρ} (h : r' ∈ (t.insert r).rows) :
    r' ∈ t.rows ∨ r' = r := by
  by_cases hr : key r ∈ t.keys
  · rw [insert_of_mem hr] at h
    exact .inl h
  · rw [rows_insert_of_not_mem hr, List.mem_append, List.mem_singleton] at h
    exact h

theorem mem_insertAll {t : Table key} {rows : List ρ} {r : ρ}
    (h : r ∈ (t.insertAll rows).1.rows) : r ∈ t.rows ∨ r ∈ rows := by
  induction rows generalizing t with
  | nil => exact .inl h
  | cons r' rows ih =>
    rcases ih h with h | h
    · rcases mem_insert h with h | rfl
      · exact .inl h
      · exact .inr List.mem_cons_self
    · exact .inr (List.mem_cons_of_mem _ h)

theorem count_insertAll_le (t : Table key) (rows : List ρ) :
    (t.insertAll rows).2 ≤ rows.length := by
  induction rows generalizing t with
  | nil => exact Nat.le_refl 0
  | cons r rows ih =>
    have hrest := ih (t.insert r)
    show (_ + _ : Nat) ≤ rows.length + 1
    split <;> omega

theorem insert_map {σ : Type*} {f : σ → ρ} (t : Table (key ∘ f)) (r : σ) :
    (t.map f).insert (f r) = (t.insert r).map f := by
  by_cases h : (key ∘ f) r ∈ t.keys
  · rw [insert_of_mem h, insert_of_mem ((keys_map t).symm ▸ h)]
  · have hmap : key (f r) ∉ (t.map f).keys := (keys_map t).symm ▸ h
    have hrows : ((t.map f).insert (f r)).rows = ((t.insert r).map f).rows := by
      rw [rows_insert_of_not_mem hmap]
      show _ = ((t.insert r).rows).map f
      rw [rows_insert_of_not_mem h, List.map_append]
      rfl
    exact Table.ext hrows

theorem insertAll_map {σ : Type*} {f : σ → ρ} (t : Table (key ∘ f)) (rows : List σ) :
    (t.map f).insertAll (rows.map f) = ((t.insertAll rows).1.map f, (t.insertAll rows).2) := by
  induction rows generalizing t with
  | nil => rfl
  | cons r rows ih =>
    rw [List.map_cons, insertAll, insertAll, insert_map, ih, keys_map]
    rfl

/-- `DELETE`, of the rows that are not kept. -/
def retain (t : Table key) (keep : ρ → Bool) : Table key where
  rows := t.rows.filter keep
  nodup := t.nodup.sublist (List.filter_sublist.map key)

end Table

end Datacat.Basics
