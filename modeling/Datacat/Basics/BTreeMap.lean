import Mathlib

/-!
# Ordered Maps

A map is a list of entries in strictly increasing key order; the order is a field, so that a
map has one representation and two maps with the same lookups are equal (`BTreeMap.ext_get`).

Building a map by inserting entries one after the other keeps, for each key, the value of its
last entry (`get_ofEntries`). Hence two such maps over the same keys are equal exactly when
the entries that no later entry shadows carry the same values (`ofEntries_eq_iff`).
-/

namespace Datacat.Basics

universe u v w

variable {κ : Type u} {ν : Type v} [LinearOrder κ]

/-! ## Entry lists -/

/-- Insertion in key order, replacing the value of a key that is present. -/
def insertEntry (key : κ) (value : ν) : List (κ × ν) → List (κ × ν)
  | [] => [(key, value)]
  | (k, v) :: rest =>
    if key < k then (key, value) :: (k, v) :: rest
    else if key = k then (key, value) :: rest
    else (k, v) :: insertEntry key value rest

theorem mem_insertEntry {key : κ} {value : ν} {entries : List (κ × ν)} {e : κ × ν}
    (h : e ∈ insertEntry key value entries) : e = (key, value) ∨ e ∈ entries := by
  induction entries with
  | nil => exact .inl (List.mem_singleton.mp h)
  | cons hd tl ih =>
    obtain ⟨k, v⟩ := hd
    rw [insertEntry] at h
    split_ifs at h
    · exact List.mem_cons.mp h
    · rcases List.mem_cons.mp h with h | h
      · exact .inl h
      · exact .inr (List.mem_cons_of_mem _ h)
    · rcases List.mem_cons.mp h with rfl | h
      · exact .inr (List.mem_cons_self ..)
      · rcases ih h with h | h
        · exact .inl h
        · exact .inr (List.mem_cons_of_mem _ h)

theorem insertEntry_sorted {key : κ} {value : ν} {entries : List (κ × ν)}
    (h : entries.Pairwise fun a b => a.1 < b.1) :
    (insertEntry key value entries).Pairwise fun a b => a.1 < b.1 := by
  induction entries with
  | nil => exact List.pairwise_singleton ..
  | cons hd tl ih =>
    obtain ⟨k, v⟩ := hd
    obtain ⟨hhead, htail⟩ := List.pairwise_cons.mp h
    rw [insertEntry]
    -- The entry comes first, replaces the head, or goes further.
    split_ifs with hlt heq
    · refine List.pairwise_cons.mpr ⟨?_, h⟩
      intro e he
      rcases List.mem_cons.mp he with rfl | he
      · exact hlt
      · exact hlt.trans (hhead e he)
    · refine List.pairwise_cons.mpr ⟨?_, htail⟩
      intro e he
      exact heq ▸ hhead e he
    · refine List.pairwise_cons.mpr ⟨?_, ih htail⟩
      intro e he
      rcases mem_insertEntry he with rfl | he
      · exact lt_of_le_of_ne (not_lt.mp hlt) (Ne.symm heq)
      · exact hhead e he

theorem lookup_cons_ite (k k' : κ) (v : ν) (entries : List (κ × ν)) :
    ((k', v) :: entries).lookup k = if k = k' then some v else entries.lookup k := by
  rw [List.lookup_cons]
  by_cases h : k = k'
  · simp [h]
  · have hbeq : (k == k') = false := beq_eq_false_iff_ne.mpr h
    simp [h, hbeq]

theorem lookup_insertEntry (key : κ) (value : ν) (entries : List (κ × ν)) (k : κ) :
    (insertEntry key value entries).lookup k =
      if k = key then some value else entries.lookup k := by
  induction entries with
  | nil => exact lookup_cons_ite k key value []
  | cons hd tl ih =>
    obtain ⟨k', v'⟩ := hd
    rw [insertEntry]
    by_cases hlt : key < k'
    · rw [if_pos hlt, lookup_cons_ite]
    · rw [if_neg hlt]
      by_cases heq : key = k'
      · subst heq
        rw [if_pos rfl, lookup_cons_ite, lookup_cons_ite]
        by_cases hk : k = key <;> simp [hk]
      · rw [if_neg heq, lookup_cons_ite, lookup_cons_ite, ih]
        by_cases hk : k = k'
        · subst hk
          simp [Ne.symm heq]
        · simp [hk]

/-! ## Maps -/

/-- `BTreeMap`: entries in strictly increasing key order. -/
structure BTreeMap (κ : Type u) (ν : Type v) [LinearOrder κ] where
  entries : List (κ × ν)
  sorted : entries.Pairwise fun a b => a.1 < b.1

namespace BTreeMap

instance [DecidableEq ν] : DecidableEq (BTreeMap κ ν) := fun a b =>
  decidable_of_iff (a.entries = b.entries) (by cases a; cases b; simp)

def empty : BTreeMap κ ν := ⟨[], List.Pairwise.nil⟩

def get (m : BTreeMap κ ν) (key : κ) : Option ν := m.entries.lookup key

def insert (m : BTreeMap κ ν) (key : κ) (value : ν) : BTreeMap κ ν :=
  ⟨insertEntry key value m.entries, insertEntry_sorted m.sorted⟩

@[simp] theorem get_empty (key : κ) : (empty : BTreeMap κ ν).get key = none := rfl

theorem get_insert (m : BTreeMap κ ν) (key : κ) (value : ν) (k : κ) :
    (m.insert key value).get k = if k = key then some value else m.get k :=
  lookup_insertEntry key value m.entries k

theorem keys_nodup (m : BTreeMap κ ν) : (m.entries.map Prod.fst).Nodup := by
  rw [List.Nodup, List.pairwise_map]
  exact m.sorted.imp fun h => h.ne

theorem lookup_eq_some_iff {entries : List (κ × ν)} (hnodup : (entries.map Prod.fst).Nodup)
    (key : κ) (value : ν) : entries.lookup key = some value ↔ (key, value) ∈ entries := by
  induction entries with
  | nil => simp
  | cons hd tl ih =>
    obtain ⟨k, v⟩ := hd
    rw [List.map_cons, List.nodup_cons] at hnodup
    rw [lookup_cons_ite, List.mem_cons]
    by_cases hk : key = k
    · subst hk
      have hnot : (key, value) ∉ tl := by
        intro hm
        have hkey : (key, value).1 ∈ tl.map Prod.fst := List.mem_map_of_mem hm
        exact hnodup.1 hkey
      simp [hnot, eq_comm]
    · simp [hk, ih hnodup.2]

/-- A lookup finds a value exactly when the entry is in the map. -/
theorem get_eq_some_iff (m : BTreeMap κ ν) (key : κ) (value : ν) :
    m.get key = some value ↔ (key, value) ∈ m.entries :=
  lookup_eq_some_iff m.keys_nodup key value

/-- Two maps with the same lookups are equal. -/
theorem ext_get {m n : BTreeMap κ ν} (h : ∀ k, m.get k = n.get k) : m = n := by
  have hmem : ∀ e, e ∈ m.entries ↔ e ∈ n.entries := by
    rintro ⟨k, v⟩
    rw [← get_eq_some_iff, ← get_eq_some_iff, h k]
  have hperm : m.entries.Perm n.entries :=
    (List.perm_ext_iff_of_nodup m.keys_nodup.of_map n.keys_nodup.of_map).mpr hmem
  have heq : m.entries = n.entries :=
    hperm.eq_of_pairwise (fun a b _ _ hab hba => absurd hab (not_lt.mpr hba.le)) m.sorted n.sorted
  cases m
  cases n
  simpa using heq

/-! ## Size and removal -/

def len (m : BTreeMap κ ν) : Nat := m.entries.length

def contains (m : BTreeMap κ ν) (key : κ) : Bool := (m.get key).isSome

/-- `retain`: keeps the entries that satisfy a condition. -/
def retain (m : BTreeMap κ ν) (keep : κ → ν → Bool) : BTreeMap κ ν :=
  ⟨m.entries.filter fun e => keep e.1 e.2, m.sorted.filter _⟩

/-- `retain` with a condition that may also update the value: entries mapped to nothing go. -/
def filterMap (m : BTreeMap κ ν) (f : κ → ν → Option ν) : BTreeMap κ ν where
  entries := m.entries.filterMap fun e => (f e.1 e.2).map fun v => (e.1, v)
  sorted := by
    refine m.sorted.filterMap _ ?_
    rintro a b hab a' ha' b' hb'
    obtain ⟨v, -, rfl⟩ := Option.map_eq_some_iff.mp ha'
    obtain ⟨w, -, rfl⟩ := Option.map_eq_some_iff.mp hb'
    exact hab

def remove (m : BTreeMap κ ν) (key : κ) : BTreeMap κ ν :=
  m.retain fun k _ => decide (k ≠ key)

@[simp] theorem len_empty : (empty : BTreeMap κ ν).len = 0 := rfl

theorem get_retain_eq_some_iff (m : BTreeMap κ ν) (keep : κ → ν → Bool) (key : κ) (value : ν) :
    (m.retain keep).get key = some value ↔ m.get key = some value ∧ keep key value = true := by
  rw [get_eq_some_iff, get_eq_some_iff]
  exact List.mem_filter

theorem get_retain (m : BTreeMap κ ν) (keep : κ → ν → Bool) (key : κ) :
    (m.retain keep).get key = (m.get key).filter (keep key) := by
  apply Option.ext
  intro value
  rw [get_retain_eq_some_iff, Option.filter_eq_some_iff]

theorem get_filterMap (m : BTreeMap κ ν) (f : κ → ν → Option ν) (key : κ) :
    (m.filterMap f).get key = (m.get key).bind (f key) := by
  apply Option.ext
  intro value
  rw [get_eq_some_iff, Option.bind_eq_some_iff]
  unfold filterMap
  rw [List.mem_filterMap]
  constructor
  · rintro ⟨⟨k, v⟩, hmem, hf⟩
    obtain ⟨w, hw, hkw⟩ := Option.map_eq_some_iff.mp hf
    obtain ⟨rfl, rfl⟩ := Prod.mk.inj hkw
    exact ⟨v, (m.get_eq_some_iff k v).mpr hmem, hw⟩
  · rintro ⟨v, hv, hf⟩
    exact ⟨(key, v), (m.get_eq_some_iff key v).mp hv, by simp [hf]⟩

theorem get_remove (m : BTreeMap κ ν) (key k : κ) :
    (m.remove key).get k = if k = key then none else m.get k := by
  unfold remove
  rw [get_retain]
  by_cases h : k = key
  · cases m.get k <;> simp [h]
  · cases m.get k <;> simp [h]

theorem len_retain_le (m : BTreeMap κ ν) (keep : κ → ν → Bool) : (m.retain keep).len ≤ m.len :=
  List.length_filter_le _ _

/-- An entry that is not kept leaves a place. -/
theorem len_retain_lt (m : BTreeMap κ ν) {keep : κ → ν → Bool} {key : κ} {value : ν}
    (hget : m.get key = some value) (hkeep : keep key value = false) :
    (m.retain keep).len < m.len := by
  have hmem := (m.get_eq_some_iff key value).mp hget
  refine List.length_filter_lt_length_iff_exists.mpr ⟨(key, value), hmem, ?_⟩
  simp [hkeep]

theorem length_insertEntry {key : κ} (value : ν) {entries : List (κ × ν)}
    (h : entries.Pairwise fun a b => a.1 < b.1) :
    (insertEntry key value entries).length =
      if (entries.lookup key).isSome then entries.length else entries.length + 1 := by
  induction entries with
  | nil => rfl
  | cons hd tl ih =>
    obtain ⟨k, v⟩ := hd
    obtain ⟨hhead, htail⟩ := List.pairwise_cons.mp h
    rw [insertEntry, lookup_cons_ite]
    by_cases hlt : key < k
    · -- Every key of the list is larger than the new one.
      have hnone : tl.lookup key = none := by
        rw [List.lookup_eq_none_iff]
        rintro e he
        exact bne_iff_ne.mpr (hlt.trans (hhead e he)).ne
      simp [hlt, hlt.ne, hnone]
    · by_cases heq : key = k
      · simp [heq]
      · rw [if_neg hlt, if_neg heq, if_neg heq, List.length_cons, ih htail]
        split <;> simp

theorem len_insert (m : BTreeMap κ ν) (key : κ) (value : ν) :
    (m.insert key value).len = if m.contains key then m.len else m.len + 1 :=
  length_insertEntry value m.sorted

theorem len_insert_le (m : BTreeMap κ ν) (key : κ) (value : ν) :
    (m.insert key value).len ≤ m.len + 1 := by
  rw [len_insert]
  split
  · exact Nat.le_succ _
  · exact le_refl _

/-- Inserting keeps the keys already present. -/
theorem contains_insert (m : BTreeMap κ ν) (key : κ) (value : ν) (k : κ) :
    (m.insert key value).contains k = (decide (k = key) || m.contains k) := by
  unfold contains
  rw [get_insert]
  by_cases h : k = key <;> simp [h]

/-- A list of distinct keys of a map is no longer than the map. -/
theorem length_le_len {keys : List κ} (m : BTreeMap κ ν) (hnodup : keys.Nodup)
    (hkeys : ∀ k ∈ keys, m.contains k = true) : keys.length ≤ m.len := by
  have hsub : keys ⊆ m.entries.map Prod.fst := by
    intro k hk
    obtain ⟨v, hv⟩ := Option.isSome_iff_exists.mp (hkeys k hk)
    exact List.mem_map.mpr ⟨(k, v), (m.get_eq_some_iff k v).mp hv, rfl⟩
  have hlength := (List.subperm_of_subset hnodup hsub).length_le
  rwa [List.length_map] at hlength

/-- A map whose keys are among those of another is no larger. -/
theorem len_le_of_contains {m n : BTreeMap κ ν}
    (h : ∀ k, m.contains k = true → n.contains k = true) : m.len ≤ n.len := by
  have hkeys : ∀ k ∈ m.entries.map Prod.fst, n.contains k = true := by
    intro k hk
    obtain ⟨e, he, rfl⟩ := List.mem_map.mp hk
    apply h
    exact Option.isSome_iff_exists.mpr ⟨e.2, (m.get_eq_some_iff e.1 e.2).mpr he⟩
  have hlength := length_le_len n m.keys_nodup hkeys
  rwa [List.length_map] at hlength

/-- It is smaller when it lacks one of them. -/
theorem len_lt_of_contains {m n : BTreeMap κ ν} {key : κ}
    (h : ∀ k, m.contains k = true → n.contains k = true) (hkey : n.contains key = true)
    (hlacks : m.contains key = false) : m.len < n.len := by
  obtain ⟨value, -⟩ := Option.isSome_iff_exists.mp hkey
  have hle : (m.insert key value).len ≤ n.len := by
    apply len_le_of_contains
    intro k hk
    rw [contains_insert, Bool.or_eq_true, decide_eq_true_eq] at hk
    rcases hk with rfl | hk
    · exact hkey
    · exact h k hk
  rw [len_insert, if_neg (by simp [hlacks])] at hle
  exact hle

/-! ## Maps built by insertion -/

/-- Insert the entries one after the other. -/
def insertAll (m : BTreeMap κ ν) : List (κ × ν) → BTreeMap κ ν
  | [] => m
  | (k, v) :: rest => (m.insert k v).insertAll rest

def ofEntries (entries : List (κ × ν)) : BTreeMap κ ν := empty.insertAll entries

/-- Value of the last entry of a key. -/
def lastLookup (key : κ) : List (κ × ν) → Option ν
  | [] => none
  | (k, v) :: rest => (lastLookup key rest).or (if key = k then some v else none)

theorem get_insertAll (m : BTreeMap κ ν) (entries : List (κ × ν)) (key : κ) :
    (m.insertAll entries).get key = (lastLookup key entries).or (m.get key) := by
  induction entries generalizing m with
  | nil => rfl
  | cons hd tl ih =>
    obtain ⟨k, v⟩ := hd
    rw [insertAll, ih, get_insert, lastLookup]
    cases lastLookup key tl with
    | some x => rfl
    | none => by_cases hk : key = k <;> simp [hk]

theorem get_ofEntries (entries : List (κ × ν)) (key : κ) :
    (ofEntries entries).get key = lastLookup key entries := by
  rw [ofEntries, get_insertAll]
  simp

theorem lastLookup_isSome_iff (key : κ) (entries : List (κ × ν)) :
    (lastLookup key entries).isSome ↔ key ∈ entries.map Prod.fst := by
  induction entries with
  | nil => simp [lastLookup]
  | cons hd tl ih =>
    obtain ⟨k, v⟩ := hd
    rw [lastLookup, Option.isSome_or, Bool.or_eq_true, ih, List.map_cons, List.mem_cons]
    by_cases hk : key = k <;> simp [hk, or_comm]

section Predicates

variable {P : κ → ν → Prop}

/-- The entries that no later entry shadows satisfy `P`. -/
def HoldsOnLast (P : κ → ν → Prop) : List (κ × ν) → Prop
  | [] => True
  | (k, v) :: rest => (k ∈ rest.map Prod.fst ∨ P k v) ∧ HoldsOnLast P rest

theorem forall_lastLookup_iff (entries : List (κ × ν)) :
    (∀ k v, lastLookup k entries = some v → P k v) ↔ HoldsOnLast P entries := by
  induction entries with
  | nil => simp [lastLookup, HoldsOnLast]
  | cons hd tl ih =>
    obtain ⟨key, value⟩ := hd
    simp only [HoldsOnLast, ← ih]
    constructor
    · intro h
      refine ⟨?_, fun k v hv => h k v (by rw [lastLookup, hv, Option.some_or])⟩
      by_cases hmem : key ∈ tl.map Prod.fst
      · exact .inl hmem
      · -- nothing shadows the entry
        have hnone : lastLookup key tl = none := by
          rw [← Option.not_isSome_iff_eq_none, lastLookup_isSome_iff]
          exact hmem
        exact .inr (h key value (by rw [lastLookup, hnone, Option.none_or, if_pos rfl]))
    · intro h k v hv
      rw [lastLookup, Option.or_eq_some_iff] at hv
      cases hv with
      -- an entry of the rest, or the first one when the rest has not its key
      | inl hv => exact h.2 k v hv
      | inr hv =>
        obtain ⟨hnone, hv⟩ := hv
        split_ifs at hv with hk
        obtain rfl := Option.some.inj hv
        subst hk
        refine h.1.resolve_left fun hmem => ?_
        have hsome := (lastLookup_isSome_iff k tl).mpr hmem
        simp [hnone] at hsome

/-- The entries of a map that is built by insertion are those not shadowed. -/
theorem forall_entries_ofEntries (entries : List (κ × ν)) :
    (∀ e ∈ (ofEntries entries).entries, P e.1 e.2) ↔ HoldsOnLast P entries := by
  rw [← forall_lastLookup_iff]
  constructor
  · intro h k v hv
    rw [← get_ofEntries, get_eq_some_iff] at hv
    exact h (k, v) hv
  · intro h e he
    apply h
    rw [← get_ofEntries, get_eq_some_iff]
    exact he

end Predicates

section Agreement

variable {α : Type w} (key : α → κ) (f g : α → ν)

/-- The entries that no later entry shadows have equal values under `f` and `g`. -/
def AgreeOnLast : List α → Prop
  | [] => True
  | a :: rest => (key a ∈ rest.map key ∨ f a = g a) ∧ AgreeOnLast rest

theorem lastLookup_eq_iff (items : List α) :
    (∀ k, lastLookup k (items.map fun a => (key a, f a)) =
      lastLookup k (items.map fun a => (key a, g a))) ↔ AgreeOnLast key f g items := by
  induction items with
  | nil => simp [AgreeOnLast]
  | cons a rest ih =>
    have hkeys : ∀ (h : α → ν) (k : κ),
        (lastLookup k (rest.map fun b => (key b, h b))).isSome ↔ k ∈ rest.map key := by
      intro h k
      rw [lastLookup_isSome_iff, List.map_map]
      rfl
    simp only [List.map_cons, lastLookup, AgreeOnLast, ← ih]
    constructor
    · intro h
      -- A key of the tail is found in both tails or in neither.
      have htail : ∀ k, lastLookup k (rest.map fun b => (key b, f b)) =
          lastLookup k (rest.map fun b => (key b, g b)) := by
        intro k
        have hf := hkeys f k
        have hg := hkeys g k
        have hk := h k
        cases hLf : lastLookup k (rest.map fun b => (key b, f b)) with
        | some x =>
          obtain ⟨y, hLg⟩ := Option.isSome_iff_exists.mp (hg.mpr (hf.mp (by simp [hLf])))
          rw [hLf, hLg] at hk
          rw [hLg]
          simpa using hk
        | none =>
          cases hLg : lastLookup k (rest.map fun b => (key b, g b)) with
          | none => rfl
          | some y => simpa [hLf] using hf.mpr (hg.mp (by simp [hLg]))
      refine ⟨?_, htail⟩
      by_cases hmem : key a ∈ rest.map key
      · exact .inl hmem
      · -- Nothing shadows the head, so the lookup of its key gives its value.
        right
        have hnone : ∀ h : α → ν, lastLookup (key a) (rest.map fun b => (key b, h b)) = none := by
          intro h'
          rw [← Option.not_isSome_iff_eq_none, hkeys h']
          exact hmem
        simpa [hnone] using h (key a)
    · rintro ⟨hhead, htail⟩ k
      rw [htail k]
      -- A shadowed head is never the one found.
      rcases hhead with hmem | heq
      · by_cases hk : k = key a
        · subst hk
          obtain ⟨x, hx⟩ := Option.isSome_iff_exists.mp ((hkeys g (key a)).mpr hmem)
          simp [hx]
        · simp [hk]
      · rw [heq]

/-- Maps built from entries with the same keys agree exactly on the entries not shadowed. -/
theorem ofEntries_eq_iff (items : List α) :
    ofEntries (items.map fun a => (key a, f a)) = ofEntries (items.map fun a => (key a, g a)) ↔
      AgreeOnLast key f g items := by
  rw [← lastLookup_eq_iff]
  constructor
  · intro h k
    rw [← get_ofEntries, ← get_ofEntries, h]
  · intro h
    apply ext_get
    intro k
    rw [get_ofEntries, get_ofEntries, h k]

end Agreement

end BTreeMap

end Datacat.Basics
