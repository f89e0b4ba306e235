import Datacat.Db.Retention
import Datacat.Export.Pages

/-!
# From Hot to Cold Storage

The scheduled export writes the objects of the two days before the present at each of its ticks,
page after page, while the ingestion goes on and the maintenance drops the days that are older than
the retention. A record that comes later than the ticks on its next two days is dropped without
having been exported; the one that is there at such a tick is in the object of its day from the end
of the tick's exports on (`exported_before_purge`).

Each table is followed on its own. What happens to the other only takes time here.
-/

namespace Datacat

namespace Export

open Basics Settings Db

/-! ## The table that the queries read -/

theorem nodup_keys (t : ExportTable) {stamp : DateTime → DateTime} {rows : List t.domain.Row}
    (h : (rows.map (t.domain.key stamp)).Nodup) : (rows.map (t.key stamp)).Nodup := by
  have hlex := h.map toLex.injective
  rw [List.map_map] at hlex
  cases t with
  | events => exact hlex
  | logs => exact hlex

/-- The rows of the store, with the key that they are ordered by. -/
def hotTable (t : ExportTable) {stamp : DateTime → DateTime} (s : Store t.domain stamp) :
    Table (t.key stamp) where
  rows := s.table.rows
  nodup := nodup_keys t s.table.nodup

/-- The query of a day selects the rows of its partition. -/
theorem onDay_key_iff (t : ExportTable) {stamp : DateTime → DateTime} {date : Int}
    {r : t.domain.Row} : onDay date (t.key stamp r) = true ↔ t.domain.day stamp r = date := by
  have hday : ∀ n : Int, (midnight date ≤ ⟨n⟩ ∧ (⟨n⟩ : DateTime) < midnight (date + 1)) ↔
      n / (DateTime.secsPerDay * DateTime.nanosPerSec) = date := by
    intro n
    show date * (86400 * 1000000000) ≤ n ∧ n < (date + 1) * (86400 * 1000000000) ↔
      n / (86400 * 1000000000) = date
    omega
  unfold onDay
  rw [Bool.and_eq_true, decide_eq_true_iff, decide_eq_true_iff]
  cases t with
  | events => exact hday _
  | logs => exact hday _

/-! ## The system -/

/-- The export of a day that is under way. -/
structure Reading (t : ExportTable) (stamp : DateTime → DateTime) where
  date : Int
  progress : Progress (t.key stamp)

/-- A table in the database and its objects in the cold storage, with the export loop: the days
that the last tick has still to export, and the export under way. -/
structure Archive (t : ExportTable) (stamp : DateTime → DateTime) where
  store : Store t.domain stamp
  objects : Int → Option (List t.domain.Row)
  pending : List Int
  reading : Option (Reading t stamp)

inductive ArchiveEvent (t : ExportTable) where
  /-- A statement of the ingestion or of the maintenance, or a stop or a start of the process. -/
  | store (e : Db.Event t.domain)
  /-- A tick of `run_export_loop`, with its UTC day. -/
  | tick (today : Int)
  /-- `export_events` or `export_logs` is called. -/
  | opens
  /-- It reads its next page. -/
  | reads
  /-- It uploads the object. -/
  | puts

/-- The days that a tick exports of a table: the loop over the days back and the tables. -/
def dueDates (tables : List ExportTable) (t : ExportTable) (today : Int) : List Int :=
  [1, 2].flatMap fun back => (tables.filter fun table => table = t).map fun _ => today - back

/-- The progress, with the table as it is now. -/
def Progress.now {ρ κ : Type} [LinearOrder κ] {key : ρ → κ} (p : Progress key) (table : Table key) :
    Progress key :=
  { p with table := table }

theorem Progress.now_query {ρ κ : Type} [LinearOrder κ] {key : ρ → κ} (p : Progress key)
    (table : Table key) (size : ℕ+) (keep : κ → Bool) :
    ((p.now table).query size keep).now table = (p.now table).query size keep := by
  have htable := (p.now table).query_table size keep
  generalize (p.now table).query size keep = q at htable
  cases q
  cases htable
  rfl

/-- The ingestion, the maintenance and the export loop. A stop cuts the loop off. -/
inductive ArchiveStep {t : ExportTable} {stamp : DateTime → DateTime} (c : Maintenance)
    (tables : List ExportTable) (size : ℕ+) :
    Archive t stamp → ArchiveEvent t → Archive t stamp → Prop where
  | store {s e store'} : e ≠ .flush .stop → Maintained c s.store e store' →
      ArchiveStep c tables size s (.store e) { s with store := store' }
  | stop {s store'} : Maintained c s.store (.flush .stop) store' →
      ArchiveStep c tables size s (.store (.flush .stop))
        { s with store := store', pending := [], reading := none }
  | tick {s today} : s.store.phase.serving = true → s.pending = [] → s.reading = none →
      ArchiveStep c tables size s (.tick today) { s with pending := dueDates tables t today }
  | opens {s date rest} : s.pending = date :: rest → s.reading = none →
      ArchiveStep c tables size s .opens
        { s with pending := rest, reading := some ⟨date, { table := hotTable t s.store }⟩ }
  | reads {s x} : s.reading = some x →
      ArchiveStep c tables size s .reads
        { s with
          reading := some
            ⟨x.date, (x.progress.now (hotTable t s.store)).query size (onDay x.date)⟩ }
  | puts {s x} : s.reading = some x → x.progress.finished = true →
      ArchiveStep c tables size s .puts
        { s with
          objects := Function.update s.objects x.date (some x.progress.object)
          reading := none }

/-- The event drops no row of the day. -/
def ArchiveEvent.Keeps {t : ExportTable} (c : Maintenance) (day : Int) : ArchiveEvent t → Prop
  | .store (.purge today) => today - c.retentionDays ≤ day
  | _ => True

/-- The row is in the object of its day. -/
def Archive.Has {t : ExportTable} {stamp : DateTime → DateTime} (s : Archive t stamp)
    (r : t.domain.Row) : Prop :=
  ∃ object, s.objects (t.domain.day stamp r) = some object ∧ r ∈ object

/-! ## Steps -/

section Steps

variable {t : ExportTable} {stamp : DateTime → DateTime} {c : Maintenance}
  {tables : List ExportTable} {size : ℕ+} {s s' : Archive t stamp} {x : ArchiveEvent t}
  {r : t.domain.Row}

/-- A row stays until a purge drops its day. -/
theorem mem_rows_of_maintained {d : Domain} {st st' : Store d stamp} {e : Db.Event d} {q : d.Row}
    (h : Maintained c st e st')
    (hkeeps : ∀ today, e = .purge today → today - c.retentionDays ≤ d.day stamp q)
    (hq : q ∈ st.table.rows) : q ∈ st'.table.rows := by
  cases h with
  | flush hday hstep => exact hstep.table.1.subset hq
  | createAhead hup hpast hfuture => exact hq
  | @purge today hserving =>
    exact List.mem_filter.mpr ⟨hq, decide_eq_true (hkeeps today rfl)⟩

theorem ArchiveStep.rows (h : ArchiveStep c tables size s x s') {day : Int}
    (hkeeps : x.Keeps c day) {q : t.domain.Row} (hday : t.domain.day stamp q = day)
    (hq : q ∈ s.store.table.rows) : q ∈ s'.store.table.rows := by
  cases h with
  | store hstop hstep =>
    apply mem_rows_of_maintained hstep _ hq
    rintro today rfl
    rw [hday]
    exact hkeeps
  | stop hstep => exact mem_rows_of_maintained hstep nofun hq
  | tick hserving hpending hreading => exact hq
  | opens hpending hreading => exact hq
  | reads hreading => exact hq
  | puts hreading hfinished => exact hq

/-- The row is in hot storage, and an export of its day that is under way does not miss it. -/
structure Archive.Safe (s : Archive t stamp) (r : t.domain.Row) : Prop where
  hot : r ∈ s.store.table.rows
  covers : ∀ y, s.reading = some y → y.date = t.domain.day stamp r →
    (y.progress.now (hotTable t s.store)).Covers (onDay y.date) r

theorem mem_select_hot (hr : r ∈ s.store.table.rows) {date : Int}
    (hdate : date = t.domain.day stamp r) : r ∈ (hotTable t s.store).select (onDay date) :=
  Table.mem_select.mpr ⟨hr, (onDay_key_iff t).mpr hdate.symm⟩

theorem Archive.Safe.step (hsafe : s.Safe r) (h : ArchiveStep c tables size s x s')
    (hkeeps : x.Keeps c (t.domain.day stamp r)) : s'.Safe r where
  hot := h.rows hkeeps rfl hsafe.hot
  covers := by
    intro y hy hdate
    have hrows : ∀ q, t.domain.day stamp q = t.domain.day stamp r → q ∈ s.store.table.rows →
        q ∈ s'.store.table.rows := fun _ hday hq => h.rows hkeeps hday hq
    cases h with
    | store hstop hstep =>
      -- The rows of the day are there still, and perhaps others.
      refine (hsafe.covers y hy hdate).grow (mem_select_hot hsafe.hot hdate) ?_
      intro q hq
      obtain ⟨hmem, hon⟩ := Table.mem_select.mp hq
      have hday := (onDay_key_iff t).mp hon
      exact Table.mem_select.mpr ⟨hrows q (hday.trans hdate) hmem, hon⟩
    | stop hstep => cases hy
    | tick hserving hpending hreading => exact hsafe.covers y hy hdate
    | opens hpending hreading =>
      obtain rfl := Option.some.inj hy
      exact Progress.covers_fresh _ r
    | @reads z hreading =>
      obtain rfl := Option.some.inj hy
      have hcovers := hsafe.covers z hreading hdate
      rw [Progress.now_query]
      exact hcovers.query (mem_select_hot hsafe.hot hdate)
    | puts hreading hfinished => cases hy

/-- The row is in its object, or its day is being exported or still to be. -/
def Archive.Due (s : Archive t stamp) (r : t.domain.Row) : Prop :=
  s.Has r ∨ t.domain.day stamp r ∈ s.pending ∨
    ∃ y, s.reading = some y ∧ y.date = t.domain.day stamp r

/-- An upload of the row's day has the row. -/
theorem Archive.Safe.has_of_puts {y : Reading t stamp} (hsafe : s.Safe r)
    (hreading : s.reading = some y) (hfinished : y.progress.finished = true)
    (hdate : y.date = t.domain.day stamp r) :
    Archive.Has
      { s with
        objects := Function.update s.objects y.date (some y.progress.object)
        reading := none } r := by
  refine ⟨y.progress.object, ?_, (hsafe.covers y hreading hdate).finished hfinished⟩
  show Function.update _ y.date _ _ = _
  rw [← hdate, Function.update_self]

/-- What is in the object stays there, even if the object is written again. -/
theorem Archive.Has.step (hhas : s.Has r) (hsafe : s.Safe r)
    (h : ArchiveStep c tables size s x s') : s'.Has r := by
  cases h with
  | store hstop hstep => exact hhas
  | stop hstep => exact hhas
  | tick hserving hpending hreading => exact hhas
  | opens hpending hreading => exact hhas
  | reads hreading => exact hhas
  | @puts y hreading hfinished =>
    by_cases hdate : y.date = t.domain.day stamp r
    · exact hsafe.has_of_puts hreading hfinished hdate
    · obtain ⟨object, hobject, hr⟩ := hhas
      refine ⟨object, ?_, hr⟩
      show Function.update _ y.date _ _ = _
      rw [Function.update_of_ne (Ne.symm hdate), hobject]

theorem Archive.Due.step (hdue : s.Due r) (hsafe : s.Safe r)
    (h : ArchiveStep c tables size s x s') (hup : x ≠ .store (.flush .stop)) : s'.Due r := by
  rcases hdue with hhas | hdue
  · exact .inl (hhas.step hsafe h)
  · cases h with
    | store hstop hstep => exact .inr hdue
    | stop hstep => exact absurd rfl hup
    | tick hserving hpending hreading =>
      -- A tick comes when the exports of the one before are over.
      rcases hdue with hmem | ⟨y, hy, -⟩
      · rw [hpending] at hmem
        exact absurd hmem List.not_mem_nil
      · rw [hreading] at hy
        cases hy
    | @opens date rest hpending hreading =>
      rcases hdue with hmem | ⟨y, hy, -⟩
      · rw [hpending] at hmem
        rcases List.mem_cons.mp hmem with hdate | hmem
        · exact .inr (.inr ⟨_, rfl, hdate.symm⟩)
        · exact .inr (.inl hmem)
      · rw [hreading] at hy
        cases hy
    | @reads z hreading =>
      rcases hdue with hmem | ⟨y, hy, hdate⟩
      · exact .inr (.inl hmem)
      · rw [hreading] at hy
        obtain rfl := Option.some.inj hy
        exact .inr (.inr ⟨_, rfl, hdate⟩)
    | @puts z hreading hfinished =>
      rcases hdue with hmem | ⟨y, hy, hdate⟩
      · exact .inr (.inl hmem)
      · rw [hreading] at hy
        obtain rfl := Option.some.inj hy
        exact .inl (hsafe.has_of_puts hreading hfinished hdate)

end Steps

/-! ## Runs -/

section Runs

variable {t : ExportTable} {stamp : DateTime → DateTime} {c : Maintenance}
  {tables : List ExportTable} {size : ℕ+} {s s' : Archive t stamp}
  {r : t.domain.Row} {labels : List (ArchiveEvent t)}

theorem safe_of_run (hsafe : s.Safe r) (h : Run (ArchiveStep c tables size) s labels s')
    (hkeeps : ∀ x ∈ labels, x.Keeps c (t.domain.day stamp r)) : s'.Safe r := by
  induction h with
  | nil => exact hsafe
  | @snoc labels mid s' x hrun hstep ih =>
    obtain ⟨hbefore, hlast⟩ := List.forall_mem_append.mp hkeeps
    exact (ih hbefore).step hstep (hlast x (List.mem_singleton_self x))

theorem due_of_run (hsafe : s.Safe r) (hdue : s.Due r)
    (h : Run (ArchiveStep c tables size) s labels s')
    (hkeeps : ∀ x ∈ labels, x.Keeps c (t.domain.day stamp r))
    (hup : .store (.flush .stop) ∉ labels) : s'.Due r := by
  induction h with
  | nil => exact hdue
  | @snoc labels mid s' x hrun hstep ih =>
    obtain ⟨hbefore, hlast⟩ := List.forall_mem_append.mp hkeeps
    have hup' : .store (.flush .stop) ∉ labels := fun hmem => hup (List.mem_append_left _ hmem)
    have hx : x ≠ .store (.flush .stop) := by
      intro hstop
      exact hup (List.mem_append_right _ (List.mem_singleton.mpr hstop.symm))
    exact (ih hbefore hup').step (safe_of_run hsafe hrun hbefore) hstep hx

theorem has_of_run (hsafe : s.Safe r) (hhas : s.Has r)
    (h : Run (ArchiveStep c tables size) s labels s')
    (hkeeps : ∀ x ∈ labels, x.Keeps c (t.domain.day stamp r)) : s'.Has r := by
  induction h with
  | nil => exact hhas
  | @snoc labels mid s' x hrun hstep ih =>
    obtain ⟨hbefore, -⟩ := List.forall_mem_append.mp hkeeps
    exact (ih hbefore).step (safe_of_run hsafe hrun hbefore) hstep

theorem mem_dueDates {today day : Int} (ht : t ∈ tables)
    (hday : day = today - 1 ∨ day = today - 2) : day ∈ dueDates tables t today := by
  have hone : ∀ back ∈ [1, 2], today - back ∈ dueDates tables t today := by
    intro back hback
    refine List.mem_flatMap.mpr ⟨back, hback, List.mem_map.mpr ⟨t, ?_, rfl⟩⟩
    exact List.mem_filter.mpr ⟨ht, decide_eq_true rfl⟩
  rcases hday with rfl | rfl
  · exact hone 1 (by decide)
  · exact hone 2 (by decide)

/-- **From hot to cold.** A row of an exported table that is there at a tick on one of the two days
after its own is in the object of its day once the exports of the tick are over, and stays in it
until a purge drops the day. -/
theorem exported_before_purge {ticked done last : Archive t stamp} {today : Int}
    {exports later : List (ArchiveEvent t)}
    (ht : t ∈ tables) (hhot : r ∈ s.store.table.rows)
    (hday : t.domain.day stamp r = today - 1 ∨ t.domain.day stamp r = today - 2)
    (htick : ArchiveStep c tables size s (.tick today) ticked)
    (hexports : Run (ArchiveStep c tables size) ticked exports done)
    (hup : .store (.flush .stop) ∉ exports) (hover : done.pending = [] ∧ done.reading = none)
    (hlater : Run (ArchiveStep c tables size) done later last)
    (hkeeps : ∀ x ∈ exports ++ later, x.Keeps c (t.domain.day stamp r)) : last.Has r := by
  obtain ⟨hkeepsExports, hkeepsLater⟩ := List.forall_mem_append.mp hkeeps
  -- The tick finds no reader at work, and the day of the row among those due.
  have hsafe : ticked.Safe r ∧ ticked.Due r := by
    cases htick with
    | tick hserving hpending hreading =>
      refine ⟨⟨hhot, fun y hy => ?_⟩, .inr (.inl (mem_dueDates ht hday))⟩
      rw [show s.reading = some y from hy] at hreading
      cases hreading
  have hdone := safe_of_run hsafe.1 hexports hkeepsExports
  -- Due, the day is exported, waits or is being read; when all is over only the first is left.
  have hhas : done.Has r := by
    rcases due_of_run hsafe.1 hsafe.2 hexports hkeepsExports hup with hhas | hmem | ⟨y, hy, -⟩
    · exact hhas
    · rw [hover.1] at hmem
      exact absurd hmem List.not_mem_nil
    · rw [hover.2] at hy
      cases hy
  exact has_of_run hdone hhas hlater hkeepsLater

end Runs

/-! ## A late event -/

section Sample

/-- An export that comes to its first page of a small table ends with it. -/
theorem finished_first_page {ρ κ : Type} [LinearOrder κ] {key : ρ → κ} {table : Table key}
    {size : ℕ+} {keep : κ → Bool} (h : table.rows.length < size) :
    ((({ table := table } : Progress key).now table).query size keep).finished = true := by
  obtain ⟨-, -, -, -, hdone⟩ :=
    (({ table := table } : Progress key).now table).query_running size keep rfl
  apply hdone.mpr
  have hselect : (table.select keep).length ≤ table.rows.length := by
    rw [Table.length_select]
    exact List.length_filter_le _ _
  show (table.page keep size 0).length < size
  rw [Table.length_page]
  omega

/-- The exports of two days of a small table. -/
def twoExports : List (ArchiveEvent .events) := [.opens, .reads, .puts, .opens, .reads, .puts]

/-- The objects that they leave. -/
def exported (s : Archive .events id) (first second : Int) : Archive .events id :=
  let object (date : Int) :=
    ((({ table := hotTable .events s.store } : Progress (ExportTable.events.key id)).now
      (hotTable .events s.store)).query batchSize (onDay date)).object
  { s with
    objects := Function.update (Function.update s.objects first (some (object first))) second
      (some (object second))
    pending := []
    reading := none }

theorem run_twoExports {c : Maintenance} {tables : List ExportTable} {s : Archive .events id}
    {first second : Int} (hpending : s.pending = [first, second]) (hreading : s.reading = none)
    (hsmall : s.store.table.rows.length < batchSize) :
    Run (ArchiveStep c tables batchSize) s twoExports (exported s first second) := by
  have hfinished : ∀ date, ((({ table := hotTable .events s.store } :
      Progress (ExportTable.events.key id)).now (hotTable .events s.store)).query batchSize
        (onDay date)).finished = true := fun date => finished_first_page hsmall
  apply Run.cons_iff.mpr ⟨_, .opens hpending hreading, _⟩
  apply Run.cons_iff.mpr ⟨_, .reads rfl, _⟩
  apply Run.cons_iff.mpr ⟨_, .puts rfl (hfinished first), _⟩
  apply Run.cons_iff.mpr ⟨_, .opens rfl rfl, _⟩
  apply Run.cons_iff.mpr ⟨_, .reads rfl, _⟩
  apply Run.single
  exact @ArchiveStep.puts .events id c tables batchSize _ ⟨second, _⟩ rfl (hfinished second)

/-- A database that holds the late event and has exported nothing. -/
def warm : Archive .events id where
  store :=
    { partitions := [0]
      staging := []
      table := { rows := [lateEvent], nodup := List.nodup_singleton _ }
      phase := .idle }
  objects _ := none
  pending := []
  reading := none

/-- An event of the first day is exported by the tick of the second. -/
theorem exported_before_purge_warm :
    (exported { warm with pending := [0, -1] } 0 (-1)).Has lateEvent := by
  have htick : ArchiveStep (keeping 7) [.events] batchSize warm (.tick 1)
      { warm with pending := [0, -1] } := .tick rfl rfl rfl
  have hsmall : warm.store.table.rows.length < batchSize := by decide
  have hexports := @run_twoExports (keeping 7) [.events] { warm with pending := [0, -1] } 0 (-1)
    rfl rfl hsmall
  have hkeeps : ∀ x ∈ twoExports ++ [],
      x.Keeps (keeping 7) (ExportTable.events.domain.day id lateEvent) := by
    intro x hx
    simp only [twoExports, List.append_nil, List.mem_cons, List.not_mem_nil, or_false] at hx
    rcases hx with rfl | rfl | rfl | rfl | rfl | rfl <;> trivial
  exact exported_before_purge (List.mem_singleton_self _) (List.mem_singleton_self _) (.inl rfl)
    htick hexports (by simp [twoExports]) ⟨rfl, rfl⟩ .nil hkeeps

/-- A new database, and a process that has not started. -/
def bare : Archive .events id where
  store := freshStore
  objects _ := none
  pending := []
  reading := none

/-- On the tenth day the process starts and exports the two days before. -/
def tenthDay : List (ArchiveEvent .events) :=
  [.store (.flush .start), .store (.flush .ensure), .store (.flush (.merge [] 0)), .tick 10] ++
    twoExports

/-- Then an event of the first day is received and merged. -/
def lateFlush : List (ArchiveEvent .events) :=
  [.store (.flush (.copy [lateEvent])), .store (.flush .ensure),
    .store (.flush (.merge [lateEvent] 1))]

theorem run_tenthDay (c : Maintenance) :
    Run (ArchiveStep c [.events, .logs] batchSize) bare tenthDay
      (exported { bare with store := freshStore.drained [], pending := [9, 8] } 9 8) := by
  refine Run.append_iff.mpr ⟨_, ?_, run_twoExports rfl rfl (by decide)⟩
  apply Run.cons_iff.mpr ⟨_, .store nofun (.flush nofun (.start rfl)), _⟩
  apply Run.cons_iff.mpr ⟨_, .store nofun (.flush nofun (.drainEnsure rfl)), _⟩
  apply Run.cons_iff.mpr ⟨_, .store nofun (.flush nofun
    (.merge (.inr rfl) (List.forall_mem_nil _) .rfl .nil)), _⟩
  exact Run.single (.tick rfl rfl rfl)

/-- The database afterwards. -/
def lateStore : Store .events id where
  partitions := [0]
  staging := []
  table := { rows := [lateEvent], nodup := List.nodup_singleton _ }
  phase := .idle

theorem run_lateFlush (c : Maintenance) {s : Archive .events id}
    (hs : s.store = freshStore.drained []) :
    Run (ArchiveStep c [.events, .logs] batchSize) s lateFlush { s with store := lateStore } := by
  obtain ⟨store, objects, pending, reading⟩ := s
  obtain rfl : store = _ := hs
  have hroutable : ∀ r ∈ [lateEvent], Domain.events.day id r ∈ [(0 : Int)] := by
    intro r hr
    rw [List.mem_singleton.mp hr]
    decide
  apply Run.cons_iff.mpr ⟨_, .store nofun (.flush nofun (.copy rfl (List.cons_ne_nil _ _))), _⟩
  apply Run.cons_iff.mpr ⟨_, .store nofun (.flush nofun (.ensure rfl)), _⟩
  exact Run.single (.store nofun (.flush nofun
    (.merge (.inl rfl) hroutable .rfl (List.pairwise_singleton _ _))))

/-- With a retention of 7 days the next purge drops the event, which is in no object. -/
theorem not_exported_before_purge :
    ¬∀ (c : Maintenance) (e : ExportSettings) (s : Archive .events id)
      (labels : List (ArchiveEvent .events)) (today : Int),
      Run (ArchiveStep c e.tables batchSize) bare labels s →
      (∀ batch, .store (.flush (.copy batch)) ∈ labels → ∀ r ∈ batch, c.Admits .events r) →
      s.store.phase.serving = true →
      ∀ r ∈ s.store.table.rows, Domain.events.day id r < today - c.retentionDays →
        Archive.Has s r := by
  intro h
  -- The defaults of the section, with a bucket.
  obtain ⟨e, -, htables⟩ := Contexts.exists_of_any
    (show (ExportSection.build { bucket := "cold" }).toOption.any
      (fun e => decide (e.tables = [.events, .logs])) = true by decide +kernel)
  have hrun := Run.append_iff.mpr ⟨_, run_tenthDay (keeping 7), run_lateFlush (keeping 7) rfl⟩
  have hadmits : ∀ batch, .store (.flush (.copy batch)) ∈ tenthDay ++ lateFlush →
      ∀ r ∈ batch, (keeping 7).Admits .events r := by
    intro batch hmem r hr
    have hbatch : batch = [lateEvent] := by
      simpa [tenthDay, twoExports, lateFlush] using hmem
    rw [hbatch, List.mem_singleton] at hr
    exact hr ▸ admits_lateEvent
  rw [← of_decide_eq_true htables] at hrun
  obtain ⟨object, hobject, -⟩ := h (keeping 7) e _ _ 10 hrun hadmits rfl lateEvent
    (List.mem_singleton_self _) (by decide)
  cases hobject

end Sample

end Export

end Datacat
