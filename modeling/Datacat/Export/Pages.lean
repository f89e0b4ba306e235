import Datacat.Basics.Paging
import Datacat.Db.Staging
import Datacat.Settings

/-!
# Paginated Export

An export writes the rows of a day into one object. It reads them page after page, each page with
a query of its own that sees what has been merged by then; a page starts at the number of rows
read before it.

A row merged before the place that the export has reached moves the others further, and the next
page begins with a row that was read already. So an export is exact when no such row arrives while
it runs (`export_exact_iff`).
-/

namespace Datacat

namespace Export

open Basics

universe u v

/-! ## The loop -/

section Loop

variable {ρ : Type u} {κ : Type v} [LinearOrder κ] {key : ρ → κ}

/-- What the loop of `export_events` and of `export_logs` holds, and the table that it reads. -/
structure Progress (key : ρ → κ) where
  table : Table key
  object : List ρ := []
  totalRows : Nat := 0
  offset : Nat := 0
  finished : Bool := false

/-- What happens during an export: a merge into the table, or the next query of the loop. -/
inductive Item (ρ : Type u) where
  /-- `datacat_merge_staging`, with the staged rows as it orders them. -/
  | merge (order : List ρ)
  | query

/-- One turn of the loop. -/
def Progress.query (batchSize : ℕ+) (keep : κ → Bool) (s : Progress key) : Progress key :=
  if s.finished then s
  else
    let rows := s.table.page keep batchSize s.offset
    let n := rows.length
    if n = 0 then { s with finished := true }
    else
      { s with
        object := s.object ++ rows
        totalRows := s.totalRows + n
        offset := s.offset + n
        finished := decide (n < batchSize) }

def Progress.merge (s : Progress key) (order : List ρ) : Progress key :=
  { s with table := (s.table.insertAll (distinctOn key order)).1 }

def Progress.step (batchSize : ℕ+) (keep : κ → Bool) (s : Progress key) : Item ρ → Progress key
  | .merge order => s.merge order
  | .query => s.query batchSize keep

def Progress.steps (batchSize : ℕ+) (keep : κ → Bool) (s : Progress key) (items : List (Item ρ)) :
    Progress key :=
  items.foldl (Progress.step batchSize keep) s

/-! ## Exactness -/

/-- No row twice, all rows of the start, in key order, and as many rows as returned. -/
structure Progress.Exact (s : Progress key) (keep : κ → Bool) (start : Table key) : Prop where
  nodup : (s.object.map key).Nodup
  complete : ∀ r ∈ start.rows, keep (key r) = true → r ∈ s.object
  inOrder : InOrder key s.object
  count : s.totalRows = s.object.length

/-- The merge brings no row of the day that comes before one that has been read. -/
def Progress.Quiet (s : Progress key) (keep : κ → Bool) (order : List ρ) : Prop :=
  ∀ r ∈ (s.merge order).table.rows, r ∉ s.table.rows → keep (key r) = true →
    ∀ r' ∈ s.object, key r' < key r

/-- Every merge that comes while the export runs is quiet. -/
def NoLateRow (batchSize : ℕ+) (keep : κ → Bool) (start : Table key) (items : List (Item ρ)) :
    Prop :=
  ∀ before order after, items = before ++ .merge order :: after →
    (Progress.steps batchSize keep { table := start } before).finished = false →
    (Progress.steps batchSize keep { table := start } before).Quiet keep order

variable {batchSize : ℕ+} {keep : κ → Bool} {start : Table key} {s : Progress key}
  {order : List ρ} {items : List (Item ρ)}

theorem steps_append (s : Progress key) (items : List (Item ρ)) (x : Item ρ) :
    s.steps batchSize keep (items ++ [x]) = (s.steps batchSize keep items).step batchSize keep x :=
  List.foldl_concat ..

/-! ## What holds in any case -/

/-- The rows read are rows of the table, and the counters count them. -/
structure Progress.Counts (s : Progress key) (keep : κ → Bool) (start : Table key) : Prop where
  kept : start.rows ⊆ s.table.rows
  read : s.object ⊆ s.table.select keep
  offset_eq : s.offset = s.object.length
  totalRows_eq : s.totalRows = s.object.length

theorem rows_subset_merge (s : Progress key) (order : List ρ) :
    s.table.rows ⊆ (s.merge order).table.rows :=
  (Table.rows_prefix_insertAll _ _).subset

theorem rows_merge_singleton {r : ρ} (h : key r ∉ s.table.keys) :
    (s.merge [r]).table.rows = s.table.rows ++ [r] :=
  Table.rows_insert_of_not_mem h

theorem select_subset_merge (s : Progress key) (order : List ρ) :
    s.table.select keep ⊆ (s.merge order).table.select keep := by
  intro r hr
  obtain ⟨hmem, hkeep⟩ := Table.mem_select.mp hr
  exact Table.mem_select.mpr ⟨rows_subset_merge s order hmem, hkeep⟩

theorem Progress.query_finished (h : s.finished = true) : s.query batchSize keep = s := if_pos h

/-- A query that runs reads one page. -/
theorem Progress.query_running (s : Progress key) (batchSize : ℕ+) (keep : κ → Bool)
    (h : s.finished = false) :
    (s.query batchSize keep).table = s.table ∧
      (s.query batchSize keep).object = s.object ++ s.table.page keep batchSize s.offset ∧
      (s.query batchSize keep).offset
        = s.offset + (s.table.page keep batchSize s.offset).length ∧
      (s.query batchSize keep).totalRows
        = s.totalRows + (s.table.page keep batchSize s.offset).length ∧
      ((s.query batchSize keep).finished = true ↔
        (s.table.page keep batchSize s.offset).length < batchSize) := by
  unfold Progress.query
  rw [if_neg (Bool.eq_false_iff.mp h)]
  dsimp only
  split
  · rename_i hempty
    rw [List.length_eq_zero_iff.mp hempty]
    refine ⟨rfl, (List.append_nil _).symm, rfl, rfl, ?_⟩
    exact iff_of_true rfl batchSize.pos
  · exact ⟨rfl, rfl, rfl, rfl, decide_eq_true_iff⟩

theorem Progress.query_table (s : Progress key) (batchSize : ℕ+) (keep : κ → Bool) :
    (s.query batchSize keep).table = s.table := by
  cases hfinished : s.finished with
  | true => rw [s.query_finished hfinished]
  | false => exact (s.query_running batchSize keep hfinished).1

theorem Progress.Counts.step (h : s.Counts keep start) (batchSize : ℕ+) (x : Item ρ) :
    (s.step batchSize keep x).Counts keep start := by
  cases x with
  | merge order =>
    exact ⟨fun r hr => rows_subset_merge s order (h.kept hr),
      fun r hr => select_subset_merge s order (h.read hr), h.offset_eq, h.totalRows_eq⟩
  | query =>
    show (s.query batchSize keep).Counts keep start
    cases hfinished : s.finished with
    | true =>
      rw [s.query_finished hfinished]
      exact h
    | false =>
      obtain ⟨htable, hobject, hoffset, htotal, -⟩ :=
        s.query_running batchSize keep hfinished
      refine ⟨htable ▸ h.kept, ?_, ?_, ?_⟩
      · rw [htable, hobject]
        apply List.append_subset.mpr ⟨h.read, _⟩
        intro r hr
        exact List.mem_of_mem_drop (List.mem_of_mem_take hr)
      · rw [hoffset, hobject, List.length_append, h.offset_eq]
      · rw [htotal, hobject, List.length_append, h.totalRows_eq]

theorem counts_steps (batchSize : ℕ+) (keep : κ → Bool) (start : Table key)
    (items : List (Item ρ)) :
    (Progress.steps batchSize keep { table := start } items).Counts keep start := by
  induction items using List.reverseRecOn with
  | nil => exact ⟨List.Subset.refl _, List.nil_subset _, rfl, rfl⟩
  | append_singleton items x ih =>
    rw [steps_append]
    exact ih.step batchSize x

/-! ## Rows that are not missed -/

/-- The export has written the row, or its place is still to come. -/
structure Progress.Covers (s : Progress key) (keep : κ → Bool) (r : ρ) : Prop where
  passed : r ∈ (s.table.select keep).take s.offset → r ∈ s.object
  finished : s.finished = true → r ∈ s.object

theorem Progress.covers_fresh (t : Table key) (r : ρ) :
    ({ table := t } : Progress key).Covers keep r where
  passed h := absurd h List.not_mem_nil
  finished := nofun

/-- Rows that come meanwhile move the row to the back at most. -/
theorem Progress.Covers.grow {t : Table key} {r : ρ} (h : s.Covers keep r)
    (hr : r ∈ s.table.select keep) (hsub : s.table.select keep ⊆ t.select keep) :
    Progress.Covers { s with table := t } keep r where
  passed htake := h.passed
    (mem_take_of_subset (Table.inOrder_select _ _) (Table.inOrder_select _ _) hsub hr htake)
  finished := h.finished

theorem Progress.Covers.query {r : ρ} (h : s.Covers keep r) (hr : r ∈ s.table.select keep) :
    (s.query batchSize keep).Covers keep r := by
  cases hfinished : s.finished with
  | true =>
    rw [s.query_finished hfinished]
    exact h
  | false =>
    obtain ⟨htable, hobject, hoffset, -, hdone⟩ := s.query_running batchSize keep hfinished
    have hpassed : r ∈ (s.table.select keep).take
        (s.offset + (s.table.page keep batchSize s.offset).length) →
        r ∈ s.object ++ s.table.page keep batchSize s.offset := by
      intro htake
      rw [List.take_add] at htake
      rcases List.mem_append.mp htake with hold | hpage
      · exact List.mem_append_left _ (h.passed hold)
      · have hfirst : s.table.page keep batchSize s.offset <+: (s.table.select keep).drop s.offset :=
          List.take_prefix _ _
        rw [← List.prefix_iff_eq_take.mp hfirst] at hpage
        exact List.mem_append_right _ hpage
    refine ⟨?_, ?_⟩
    · rw [htable, hoffset, hobject]
      exact hpassed
    · intro hend
      rw [hobject]
      apply hpassed
      -- A page that is not full reaches the end.
      have hshort := hdone.mp hend
      rw [Table.length_page] at hshort
      rw [List.take_of_length_le (by rw [Table.length_page]; omega)]
      exact hr

/-- Whatever is merged meanwhile, an export that has ended has every row of the start. -/
theorem mem_object_of_start {r : ρ} (hr : r ∈ start.rows) (hkeep : keep (key r) = true)
    (hfinished : (Progress.steps batchSize keep { table := start } items).finished = true) :
    r ∈ (Progress.steps batchSize keep { table := start } items).object := by
  suffices hcovers : (Progress.steps batchSize keep { table := start } items).Covers keep r from
    hcovers.finished hfinished
  clear hfinished
  induction items using List.reverseRecOn with
  | nil => exact Progress.covers_fresh start r
  | append_singleton items x ih =>
    have hcounts := counts_steps batchSize keep start items
    have hmem := Table.mem_select.mpr ⟨hcounts.kept hr, hkeep⟩
    rw [steps_append]
    cases x with
    | merge order => exact ih.grow hmem (select_subset_merge _ order)
    | query => exact ih.query hmem

/-! ## Quiet merges -/

/-- As long as the export runs, it has read the first rows of the day; in the end it has read
them all. -/
structure Progress.OnTrack (s : Progress key) (keep : κ → Bool) (start : Table key) : Prop where
  running : s.finished = false → s.object <+: s.table.select keep
  inOrder : InOrder key s.object
  complete : s.finished = true → ∀ r ∈ start.rows, keep (key r) = true → r ∈ s.object

theorem Progress.OnTrack.merge (hcounts : s.Counts keep start) (h : s.OnTrack keep start)
    (hquiet : s.finished = false → s.Quiet keep order) : (s.merge order).OnTrack keep start where
  running hrunning := by
    have hread : s.object ⊆ (s.merge order).table.select keep := fun r hr =>
      select_subset_merge s order (hcounts.read hr)
    have hold := (prefix_iff h.inOrder (Table.inOrder_select _ _) hcounts.read).mp
      (h.running hrunning)
    apply (prefix_iff h.inOrder (Table.inOrder_select _ _) hread).mpr
    intro r hr hnew
    obtain ⟨hmem, hkeep⟩ := Table.mem_select.mp hr
    -- Rows that were there already were further on.
    by_cases hthere : r ∈ s.table.rows
    · exact hold r (Table.mem_select.mpr ⟨hthere, hkeep⟩) hnew
    · exact hquiet hrunning r hmem hthere hkeep
  inOrder := h.inOrder
  complete := h.complete

theorem Progress.OnTrack.query (hcounts : s.Counts keep start) (h : s.OnTrack keep start) :
    (s.query batchSize keep).OnTrack keep start := by
  cases hfinished : s.finished with
  | true =>
    rw [s.query_finished hfinished]
    exact h
  | false =>
    obtain ⟨htable, hobject, -, -, hdone⟩ :=
      s.query_running batchSize keep hfinished
    obtain ⟨rest, hrest⟩ := h.running hfinished
    have hpage : s.table.page keep batchSize s.offset = rest.take batchSize := by
      rw [Table.page, hcounts.offset_eq, ← hrest, List.drop_left]
    rw [hpage] at hobject hdone
    have hprefix : s.object ++ rest.take batchSize <+: s.table.select keep := by
      rw [← hrest]
      exact (List.prefix_append_right_inj _).mpr (List.take_prefix _ _)
    refine ⟨fun _ => ?_, ?_, ?_⟩
    · rw [htable, hobject]
      exact hprefix
    · rw [hobject]
      exact (Table.inOrder_select _ _).of_first hprefix
    · intro hend r hr hkeep
      -- A page that is not full is the last one.
      have hshort : (rest.take batchSize).length < batchSize := hdone.mp hend
      have hall : rest.take batchSize = rest := by
        apply List.take_of_length_le
        rw [List.length_take] at hshort
        omega
      rw [hobject, hall, hrest]
      exact Table.mem_select.mpr ⟨hcounts.kept hr, hkeep⟩

theorem NoLateRow.of_append {x : Item ρ} (h : NoLateRow batchSize keep start (items ++ [x])) :
    NoLateRow batchSize keep start items := by
  intro before order after hsplit
  apply h before order (after ++ [x])
  rw [hsplit, List.append_assoc, List.cons_append]

theorem onTrack_steps (h : NoLateRow batchSize keep start items) :
    (Progress.steps batchSize keep { table := start } items).OnTrack keep start := by
  induction items using List.reverseRecOn with
  | nil => exact ⟨fun _ => List.nil_prefix, List.Pairwise.nil, nofun⟩
  | append_singleton items x ih =>
    have hcounts := counts_steps batchSize keep start items
    rw [steps_append]
    cases x with
    | merge order => exact (ih h.of_append).merge hcounts (h items order [] rfl)
    | query => exact (ih h.of_append).query hcounts

/-! ## Late rows -/

/-- What is read stays. -/
theorem object_prefix_step (s : Progress key) (x : Item ρ) :
    s.object <+: (s.step batchSize keep x).object := by
  cases x with
  | merge order => exact List.prefix_rfl
  | query =>
    show s.object <+: (s.query batchSize keep).object
    cases hfinished : s.finished with
    | true => rw [s.query_finished hfinished]
    | false =>
      obtain ⟨-, hobject, -⟩ := s.query_running batchSize keep hfinished
      rw [hobject]
      exact List.prefix_append _ _

theorem object_prefix_steps (s : Progress key) (items : List (Item ρ)) :
    s.object <+: (s.steps batchSize keep items).object := by
  induction items generalizing s with
  | nil => exact List.prefix_rfl
  | cons x items ih => exact (object_prefix_step s x).trans (ih _)

/-- When the export ends in order, the rows that it had read at any time were the first ones. -/
theorem first_of_inOrder (hcounts : s.Counts keep start) (hrunning : s.finished = false)
    (hfinished : (s.steps batchSize keep items).finished = true)
    (hinOrder : InOrder key (s.steps batchSize keep items).object) :
    ∀ r ∈ s.table.rows, keep (key r) = true → r ∉ s.object → ∀ r' ∈ s.object, key r' < key r := by
  induction items generalizing s with
  | nil =>
    rw [show s.finished = true from hfinished] at hrunning
    cases hrunning
  | cons x items ih =>
    intro r hr hkeep hnew
    cases x with
    | merge order =>
      exact ih (hcounts.step batchSize (.merge order)) hrunning hfinished hinOrder r
        (rows_subset_merge s order hr) hkeep hnew
    | query =>
      -- The page that this query reads is still in order.
      have hpage : InOrder key (s.object ++ s.table.page keep batchSize s.offset) := by
        obtain ⟨-, hobject, -⟩ :=
          s.query_running batchSize keep hrunning
        rw [← hobject]
        exact hinOrder.of_first (object_prefix_steps (s.query batchSize keep) items)
      rw [Table.page, hcounts.offset_eq] at hpage
      have hprefix := prefix_of_inOrder_page (Table.inOrder_select _ _) hcounts.read
        batchSize.pos hpage
      have hread := hpage.of_first (List.prefix_append _ _)
      exact (prefix_iff hread (Table.inOrder_select _ _) hcounts.read).mp hprefix r
        (Table.mem_select.mpr ⟨hr, hkeep⟩) hnew

theorem quiet_of_inOrder (hcounts : s.Counts keep start) (hrunning : s.finished = false)
    (hfinished : ((s.merge order).steps batchSize keep items).finished = true)
    (hinOrder : InOrder key ((s.merge order).steps batchSize keep items).object) :
    s.Quiet keep order := by
  intro r hr hnew hkeep
  apply first_of_inOrder (hcounts.step batchSize (.merge order)) hrunning hfinished hinOrder r hr
    hkeep
  exact fun hread => hnew (Table.mem_select.mp (hcounts.read hread)).1

/-- An export that has ended is exact when no late row came, and only then. -/
theorem exact_iff_noLateRow
    (hfinished : (Progress.steps batchSize keep { table := start } items).finished = true) :
    (Progress.steps batchSize keep { table := start } items).Exact keep start ↔
      NoLateRow batchSize keep start items := by
  constructor
  · intro hexact before order after hsplit hrunning
    subst hsplit
    have hsteps : Progress.steps batchSize keep { table := start }
        (before ++ .merge order :: after)
        = ((Progress.steps batchSize keep { table := start } before).merge order).steps batchSize
          keep after := by
      rw [Progress.steps, List.foldl_append]
      rfl
    rw [hsteps] at hfinished hexact
    exact quiet_of_inOrder (counts_steps batchSize keep start before) hrunning hfinished hexact.inOrder
  · intro h
    have hcounts := counts_steps batchSize keep start items
    have htrack := onTrack_steps h
    exact ⟨htrack.inOrder.keys_nodup, htrack.complete hfinished, htrack.inOrder,
      hcounts.totalRows_eq⟩

end Loop

/-! ## The tables -/

theorem uuid_bytes_injective :
    Function.Injective fun u : Uuid => u.bytes.toList.map UInt8.toNat := by
  intro a b h
  have hbytes : a.bytes.toList = b.bytes.toList :=
    List.map_injective_iff.mpr (fun _ _ => UInt8.toNat.inj) h
  cases a
  cases b
  exact congrArg Uuid.mk (Vector.toList_inj.mp hbytes)

/-- The order of `uuid`, by bytes; their texts have the same order. -/
instance : LinearOrder Uuid := LinearOrder.lift' _ uuid_bytes_injective

end Export

namespace Settings.ExportTable

open Basics

abbrev domain : ExportTable → Domain
  | .events => .events
  | .logs => .logs

/-- `ORDER BY` the instant and the identifier. -/
def key (stamp : DateTime → DateTime) : (t : ExportTable) → t.domain.Row → DateTime ×ₗ Uuid
  | .events, e => toLex (Domain.events.key stamp e)
  | .logs, l => toLex (Domain.logs.key stamp l)

end Settings.ExportTable

namespace Export

open Basics Settings

/-- Midnight of a day, in UTC. -/
def midnight (date : Int) : DateTime := ⟨date * (DateTime.secsPerDay * DateTime.nanosPerSec)⟩

/-- `>= day_start AND < day_end`. -/
def onDay (date : Int) (k : DateTime ×ₗ Uuid) : Bool :=
  decide (midnight date ≤ (ofLex k).1) && decide ((ofLex k).1 < midnight (date + 1))

/-- `BATCH_SIZE`. -/
def batchSize : ℕ+ := ⟨10000, by decide⟩

theorem batchSize_eq : (batchSize : Nat) = 10000 := PNat.mk_coe 10000 _

/-- The export of a day, with what is merged meanwhile. -/
def exportRun (t : ExportTable) (stamp : DateTime → DateTime) (size : ℕ+) (date : Int)
    (start : Table (t.key stamp)) (items : List (Item t.domain.Row)) : Progress (t.key stamp) :=
  Progress.steps size (onDay date) { table := start } items

/-- **Exact exports.** When an export ends, its object has every row of the day once and in order,
and the count returned is its length, exactly when no merge brought a row of the day that comes
before one read already. -/
theorem export_exact_iff (t : ExportTable) (stamp : DateTime → DateTime) (size : ℕ+) (date : Int)
    (start : Table (t.key stamp)) (items : List (Item t.domain.Row))
    (hfinished : (exportRun t stamp size date start items).finished = true) :
    (exportRun t stamp size date start items).Exact (onDay date) start ↔
      NoLateRow size (onDay date) start items :=
  exact_iff_noLateRow hfinished

/-! ## A day as large as a page -/

/-- An event of the first of January 1970, at a microsecond. -/
def eventAt (micros : Nat) : ExportTable.events.domain.Row :=
  ({ eventId := ⟨.replicate 16 0⟩
     eventName := "signup"
     tenantId := none
     actorId := "a"
     sessionId := "s"
     timestampClient := ⟨micros * 1000⟩
     receivedAt := ⟨0⟩
     properties := .object [] } : Events.StoredEvent)

theorem key_eventAt_lt {m n : Nat} :
    ExportTable.events.key id (eventAt m) < ExportTable.events.key id (eventAt n) ↔ m < n := by
  show toLex ((⟨m * 1000⟩ : DateTime), (⟨.replicate 16 0⟩ : Uuid)) <
    toLex ((⟨n * 1000⟩ : DateTime), (⟨.replicate 16 0⟩ : Uuid)) ↔ _
  rw [Prod.Lex.toLex_lt_toLex]
  constructor
  · intro h
    rcases h with h | ⟨-, h⟩
    · have hnanos : (m * 1000 : Int) < n * 1000 := h
      omega
    · exact absurd h (lt_irrefl _)
  · intro h
    have hnanos : (m * 1000 : Int) < n * 1000 := by omega
    exact .inl hnanos

theorem onDay_eventAt {n : Nat} (h : n < 86400000000) :
    onDay 0 (ExportTable.events.key id (eventAt n)) = true := by
  unfold onDay
  rw [Bool.and_eq_true, decide_eq_true_iff, decide_eq_true_iff]
  show (0 * _ : Int) ≤ n * 1000 ∧ (n * 1000 : Int) < (0 + 1) * (86400 * 1000000000)
  omega

theorem key_eventAt_injective :
    Function.Injective fun n => ExportTable.events.key id (eventAt n) := by
  intro m n h
  rcases Nat.lt_trichotomy m n with hlt | heq | hgt
  · exact absurd (key_eventAt_lt.mpr hlt) (not_lt_of_ge (le_of_eq h.symm))
  · exact heq
  · exact absurd (key_eventAt_lt.mpr hgt) (not_lt_of_ge (le_of_eq h))

/-- The events from the first microsecond on, as many as a page has. -/
def fullDay (size : ℕ+) : Table (ExportTable.events.key id) where
  rows := (List.range size).map fun i => eventAt (i + 1)
  nodup := by
    rw [List.map_map]
    refine List.Nodup.map ?_ List.nodup_range
    intro m n h
    exact Nat.succ.inj (key_eventAt_injective h)

theorem mem_fullDay {size : ℕ+} {r : ExportTable.events.domain.Row} (h : r ∈ (fullDay size).rows) :
    ∃ n, n < (size : Nat) ∧ r = eventAt (n + 1) := by
  obtain ⟨n, hn, rfl⟩ := List.mem_map.mp h
  exact ⟨n, List.mem_range.mp hn, rfl⟩

theorem eventAt_one_mem (size : ℕ+) : eventAt 1 ∈ (fullDay size).rows :=
  List.mem_map.mpr ⟨0, List.mem_range.mpr size.pos, rfl⟩

theorem length_fullDay (size : ℕ+) : (fullDay size).rows.length = size := by
  rw [fullDay, List.length_map, List.length_range]

theorem length_select_fullDay {size : ℕ+} (h : (size : Nat) < 86400000000) :
    ((fullDay size).select (onDay 0)).length = size := by
  have hall : (fullDay size).rows.filter (fun r => onDay 0 (ExportTable.events.key id r))
      = (fullDay size).rows := by
    apply List.filter_eq_self.mpr
    intro r hr
    obtain ⟨n, hn, rfl⟩ := mem_fullDay hr
    exact onDay_eventAt (by omega)
  rw [Table.length_select, hall, length_fullDay]

theorem key_zero_not_mem (size : ℕ+) :
    ExportTable.events.key id (eventAt 0) ∉ (fullDay size).keys := by
  intro h
  obtain ⟨r, hr, hkey⟩ := List.mem_map.mp h
  obtain ⟨n, -, rfl⟩ := mem_fullDay hr
  exact absurd (key_eventAt_injective hkey) (Nat.succ_ne_zero n)

/-- The export of the full day once its first page is read. -/
def firstPage (size : ℕ+) : Progress (ExportTable.events.key id) :=
  Progress.query size (onDay 0) { table := fullDay size }

theorem firstPage_spec {size : ℕ+} (h : (size : Nat) < 86400000000) :
    (firstPage size).table = fullDay size ∧
      (firstPage size).object = (fullDay size).select (onDay 0) ∧
      (firstPage size).offset = size ∧ (firstPage size).finished = false := by
  obtain ⟨htable, hobject, hoffset, -, hdone⟩ :=
    ({ table := fullDay size } : Progress (ExportTable.events.key id)).query_running size (onDay 0)
      rfl
  have hlength := length_select_fullDay h
  have hall : (fullDay size).page (onDay 0) size 0 = (fullDay size).select (onDay 0) :=
    List.take_of_length_le (le_of_eq hlength)
  rw [hall] at hobject hoffset hdone
  refine ⟨htable, hobject, ?_, ?_⟩
  · exact hoffset.trans ((Nat.zero_add _).trans hlength)
  -- The first page is full.
  · rw [← Bool.not_eq_true]
    exact fun hend => absurd (hdone.mp hend) (not_lt_of_ge (le_of_eq hlength.symm))

/-- What is left to do after the first page: an event of the start of the day is merged, and the
next page is read. -/
def lateMerge : List (Item ExportTable.events.domain.Row) := [.merge [eventAt 0], .query]

theorem rows_lateMerge {size : ℕ+} (h : (size : Nat) < 86400000000) :
    ((firstPage size).merge [eventAt 0]).table.rows = (fullDay size).rows ++ [eventAt 0] := by
  have htable := (firstPage_spec h).1
  rw [rows_merge_singleton, htable]
  rw [htable]
  exact key_zero_not_mem size

/-- The second page is the last one. -/
theorem finished_lateMerge {size : ℕ+} (hone : 1 < (size : Nat))
    (h : (size : Nat) < 86400000000) :
    ((firstPage size).steps size (onDay 0) lateMerge).finished = true := by
  obtain ⟨-, -, hoffset, hrunning⟩ := firstPage_spec h
  obtain ⟨-, -, -, -, hlast⟩ :=
    ((firstPage size).merge [eventAt 0]).query_running size (onDay 0) hrunning
  apply hlast.mpr
  have hle : (((firstPage size).merge [eventAt 0]).table.select (onDay 0)).length ≤ size + 1 := by
    rw [Table.length_select, rows_lateMerge h]
    refine (List.length_filter_le _ _).trans (le_of_eq ?_)
    rw [List.length_append, length_fullDay]
    rfl
  rw [Table.length_page, show ((firstPage size).merge [eventAt 0]).offset = size from hoffset]
  omega

/-- The export of the full day ends, and the first row of its second page comes too late. -/
theorem run_lateMerge {size : ℕ+} (hone : 1 < (size : Nat)) (h : (size : Nat) < 86400000000) :
    (exportRun .events id size 0 (fullDay size) (.query :: lateMerge)).finished = true ∧
      ¬(exportRun .events id size 0 (fullDay size) (.query :: lateMerge)).Exact (onDay 0)
        (fullDay size) := by
  obtain ⟨htable, hobject, -, hrunning⟩ := firstPage_spec h
  have hend := finished_lateMerge hone h
  refine ⟨hend, fun hexact => ?_⟩
  have hcounts := counts_steps size (onDay 0) (fullDay size) [.query]
  have hquiet := quiet_of_inOrder hcounts hrunning hend hexact.inOrder
  have hfirst : eventAt 1 ∈ (firstPage size).object := by
    rw [hobject]
    exact Table.mem_select.mpr ⟨eventAt_one_mem size, onDay_eventAt (by decide)⟩
  have hlate : eventAt 0 ∈ ((firstPage size).merge [eventAt 0]).table.rows := by
    rw [rows_lateMerge h]
    exact List.mem_append_right _ (List.mem_singleton_self _)
  have hnew : eventAt 0 ∉ (firstPage size).table.rows := by
    rw [htable]
    exact fun hold => key_zero_not_mem size (List.mem_map_of_mem hold)
  have hlt := hquiet (eventAt 0) hlate hnew (onDay_eventAt (by decide)) (eventAt 1) hfirst
  exact absurd (key_eventAt_lt.mp hlt) (Nat.not_lt_zero 1)

/-- With the pages of the code: a day of ten thousand events, and one merged late. -/
theorem not_export_exact :
    ¬∀ (t : ExportTable) (stamp : DateTime → DateTime) (size : ℕ+) (date : Int)
      (start : Table (t.key stamp)) (items : List (Item t.domain.Row)),
      (exportRun t stamp size date start items).finished = true →
      (exportRun t stamp size date start items).Exact (onDay date) start := by
  intro h
  have hone : 1 < (batchSize : Nat) := by
    rw [batchSize_eq]
    decide
  have hsize : (batchSize : Nat) < 86400000000 := by
    rw [batchSize_eq]
    decide
  obtain ⟨hend, hnot⟩ := run_lateMerge hone hsize
  exact hnot (h .events id batchSize 0 _ _ hend)

/-- A merge before the first page is harmless. -/
theorem export_exact_quiet :
    (exportRun .events id 2 0 {} [.merge [eventAt 1], .query]).Exact (onDay 0) {} := by
  have hrows : (Progress.merge ({ table := {} } : Progress (ExportTable.events.key id))
      [eventAt 1]).table.rows = [eventAt 1] :=
    rows_merge_singleton List.not_mem_nil
  have hend : (exportRun .events id 2 0 {} [.merge [eventAt 1], .query]).finished = true := by
    obtain ⟨-, -, -, -, hlast⟩ := (Progress.merge ({ table := {} } :
      Progress (ExportTable.events.key id)) [eventAt 1]).query_running 2 (onDay 0) rfl
    apply hlast.mpr
    rw [Table.length_page, Table.length_select, hrows]
    decide
  apply (export_exact_iff .events id 2 0 {} [.merge [eventAt 1], .query] hend).mpr
  intro before order after hsplit hrunning r hr hnew hkeep r' hr'
  -- Nothing has been read when the merge comes.
  cases before with
  | nil => exact absurd hr' List.not_mem_nil
  | cons x before =>
    cases before with
    | nil => simp at hsplit
    | cons y before => simp at hsplit

end Export

end Datacat
