import Mathlib
import Datacat.Basics.Table

/-!
# Pages of an Ordered Selection

Rows selected from a table in the order of their keys, and read page after page by their places:
the next page starts as many rows further as have been read. The table may grow meanwhile.

## Main results

- `prefix_iff`: the rows read are the first of the selection when every other row comes after them.
- `prefix_of_inOrder_page`: when the next page keeps the order, the rows read were the first.
- `mem_take_of_subset`: a row moves no further to the front when the selection grows.
-/

namespace Datacat.Basics

universe u v

variable {ρ : Type u} {κ : Type v} [LinearOrder κ] {key : ρ → κ}

/-! ## Rows in key order -/

/-- Rows in strictly increasing key order. -/
def InOrder (key : ρ → κ) (rows : List ρ) : Prop := rows.Pairwise fun a b => key a < key b

theorem InOrder.nodup {rows : List ρ} (h : InOrder key rows) : rows.Nodup :=
  h.imp fun hlt heq => (ne_of_lt hlt) (congrArg key heq)

theorem InOrder.keys_nodup {rows : List ρ} (h : InOrder key rows) : (rows.map key).Nodup :=
  List.pairwise_map.mpr (h.imp ne_of_lt)

theorem InOrder.of_first {first rows : List ρ} (h : InOrder key rows) (hfirst : first <+: rows) :
    InOrder key first :=
  h.sublist hfirst.sublist

/-- Rows in key order are determined by their set. -/
theorem InOrder.eq_of_mem_iff {xs ys : List ρ} (hxs : InOrder key xs) (hys : InOrder key ys)
    (h : ∀ r, r ∈ xs ↔ r ∈ ys) : xs = ys := by
  have hperm : xs.Perm ys := (List.perm_ext_iff_of_nodup hxs.nodup hys.nodup).mpr h
  refine hperm.eq_of_pairwise ?_ hxs hys
  intro a b _ _ hab hba
  exact absurd hba (lt_asymm hab)

/-- The rows read come first exactly when every other row comes after them. -/
theorem prefix_iff {read rows : List ρ} (hread : InOrder key read) (hrows : InOrder key rows)
    (hsub : read ⊆ rows) :
    read <+: rows ↔ ∀ r ∈ rows, r ∉ read → ∀ r' ∈ read, key r' < key r := by
  classical
  constructor
  · intro h r hr hnew r' hr'
    obtain ⟨rest, rfl⟩ := h
    exact (List.pairwise_append.mp hrows).2.2 r' hr' r ((List.mem_append.mp hr).resolve_left hnew)
  · intro h
    -- The other rows, in order, follow.
    let rest := rows.filter fun r => r ∉ read
    have hrest : InOrder key rest := List.Pairwise.filter _ hrows
    have hmem : ∀ r, r ∈ rest ↔ r ∈ rows ∧ r ∉ read := by
      intro r
      rw [List.mem_filter, decide_eq_true_iff]
    have happend : InOrder key (read ++ rest) := by
      refine List.pairwise_append.mpr ⟨hread, hrest, ?_⟩
      intro r' hr' r hr
      exact h r ((hmem r).mp hr).1 ((hmem r).mp hr).2 r' hr'
    refine ⟨rest, happend.eq_of_mem_iff hrows fun r => ?_⟩
    rw [List.mem_append, hmem]
    constructor
    · intro hr
      rcases hr with hr | hr
      · exact hsub hr
      · exact hr.1
    · intro hr
      by_cases hold : r ∈ read
      · exact .inl hold
      · exact .inr ⟨hr, hold⟩

/-- When the next page keeps the order, the rows read were the first ones. -/
theorem prefix_of_inOrder_page {read rows : List ρ} {limit : Nat} (hrows : InOrder key rows)
    (hsub : read ⊆ rows) (hlimit : 0 < limit)
    (hpage : InOrder key (read ++ (rows.drop read.length).take limit)) : read <+: rows := by
  have hread : InOrder key read := hpage.of_first (List.prefix_append _ _)
  -- What is read is among the first rows: the row after them is larger than all that is read.
  have hfirst : read ⊆ rows.take read.length := by
    intro r hr
    have hr' := hsub hr
    rw [← List.take_append_drop read.length rows] at hr' hrows
    refine (List.mem_append.mp hr').resolve_right fun hlate => ?_
    cases hdrop : rows.drop read.length with
    | nil =>
      rw [hdrop] at hlate
      exact List.not_mem_nil hlate
    | cons next rest =>
      obtain ⟨n, rfl⟩ := Nat.exists_eq_succ_of_ne_zero hlimit.ne'
      rw [hdrop, List.take_succ_cons] at hpage
      have hlt : key r < key next :=
        (List.pairwise_append.mp hpage).2.2 r hr next List.mem_cons_self
      rw [hdrop] at hlate hrows
      rcases List.mem_cons.mp hlate with heq | hmem
      · exact absurd hlt (by rw [heq]; exact lt_irrefl _)
      · exact absurd hlt
          (lt_asymm ((List.pairwise_cons.mp (List.pairwise_append.mp hrows).2.1).1 r hmem))
  have hlength : (rows.take read.length).length ≤ read.length := List.length_take_le _ _
  have hperm := (hread.nodup.subperm hfirst).perm_of_length_le hlength
  have heq := hread.eq_of_mem_iff (hrows.sublist (List.take_sublist _ _)) fun r => hperm.mem_iff
  rw [heq]
  exact List.take_prefix _ _

/-- A row stands no further back among fewer rows. -/
theorem mem_take_of_subset {few many : List ρ} {r : ρ} {n : Nat} (hfew : InOrder key few)
    (hmany : InOrder key many) (hsub : few ⊆ many) (hr : r ∈ few) (htake : r ∈ many.take n) :
    r ∈ few.take n := by
  obtain ⟨before, after, rfl⟩ := List.append_of_mem hr
  obtain ⟨before', after', rfl⟩ := List.append_of_mem (List.mem_of_mem_take htake)
  obtain ⟨-, htail', hcross'⟩ := List.pairwise_append.mp hmany
  obtain ⟨hbefore, -, hcross⟩ := List.pairwise_append.mp hfew
  -- The rows before it are all there among the many.
  have hsub' : before ⊆ before' := by
    intro x hx
    have hlt : key x < key r := hcross x hx r List.mem_cons_self
    rcases List.mem_append.mp (hsub (List.mem_append_left _ hx)) with hmem | hmem
    · exact hmem
    · rcases List.mem_cons.mp hmem with rfl | hmem
      · exact absurd hlt (lt_irrefl _)
      · exact absurd hlt (lt_asymm ((List.pairwise_cons.mp htail').1 x hmem))
  have hlength : before.length ≤ before'.length :=
    (InOrder.nodup hbefore).subperm hsub' |>.length_le
  have hplace : before'.length < n := by
    by_contra hlong
    rw [List.take_append_of_le_length (not_lt.mp hlong)] at htake
    exact absurd (hcross' r (List.mem_of_mem_take htake) r List.mem_cons_self) (lt_irrefl _)
  rw [List.take_append, List.mem_append]
  refine .inr ?_
  obtain ⟨m, hm⟩ := Nat.exists_eq_succ_of_ne_zero (Nat.sub_ne_zero_of_lt (hlength.trans_lt hplace))
  rw [hm, List.take_succ_cons]
  exact List.mem_cons_self

/-! ## Selections -/

namespace Table

/-- `SELECT .. WHERE .. ORDER BY <key>`. -/
def select (t : Table key) (keep : κ → Bool) : List ρ :=
  (t.rows.filter fun r => keep (key r)).mergeSort fun a b => decide (key a ≤ key b)

/-- `SELECT .. WHERE .. ORDER BY <key> LIMIT .. OFFSET ..`. -/
def page (t : Table key) (keep : κ → Bool) (limit offset : Nat) : List ρ :=
  ((t.select keep).drop offset).take limit

theorem mem_select {t : Table key} {keep : κ → Bool} {r : ρ} :
    r ∈ t.select keep ↔ r ∈ t.rows ∧ keep (key r) = true := by
  rw [select, List.mem_mergeSort, List.mem_filter]

theorem length_select (t : Table key) (keep : κ → Bool) :
    (t.select keep).length = (t.rows.filter fun r => keep (key r)).length :=
  List.length_mergeSort _

theorem length_page (t : Table key) (keep : κ → Bool) (limit offset : Nat) :
    (t.page keep limit offset).length = min limit ((t.select keep).length - offset) := by
  rw [page, List.length_take, List.length_drop]

theorem inOrder_select (t : Table key) (keep : κ → Bool) : InOrder key (t.select keep) := by
  have hsorted : (t.select keep).Pairwise fun a b => decide (key a ≤ key b) = true := by
    apply List.pairwise_mergeSort
    · intro a b c hab hbc
      exact decide_eq_true ((of_decide_eq_true hab).trans (of_decide_eq_true hbc))
    · intro a b
      rw [Bool.or_eq_true, decide_eq_true_iff, decide_eq_true_iff]
      exact le_total _ _
  have hnodup : (t.select keep).Pairwise fun a b => key a ≠ key b := by
    apply List.pairwise_map.mp
    have hkept : ((t.rows.filter fun r => keep (key r)).map key).Nodup :=
      t.nodup.sublist (List.filter_sublist.map key)
    exact ((List.mergeSort_perm _ _).map key).nodup_iff.mpr hkept
  exact hsorted.imp₂ (fun _ _ hle hne => lt_of_le_of_ne (of_decide_eq_true hle) hne) hnodup

end Table

end Datacat.Basics
