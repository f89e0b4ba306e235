import Datacat.Basics.Calendar
import Datacat.Export.Coverage
import Datacat.Export.Paths

/-!
# The Cold Storage

All exports write into one bucket, under the paths of their tables and days: the loop of the
server, and the exporter when it is run by hand, at the same time and for any day. The reader lists
the objects under a path of its own and answers the rows that are in them.

What it answers has been in the database, on the day and in the table that is asked for, and no row
is answered twice when nothing came late during an export (`answers_of_run`). A row that an export
of its day has not missed is answered for ever, whatever the database drops, as long as the day is
not exported again (`answers_archived`).
-/

namespace Datacat.Export

open Basics Settings Db

/-! ## The system -/

/-- A call of `export_events` or of `export_logs` that is under way. -/
structure Job (stamp : DateTime → DateTime) where
  table : ExportTable
  reading : Reading table stamp

/-- An object of a table. -/
structure Object where
  table : ExportTable
  rows : List table.domain.Row

/-- The tables of the database, the objects of the bucket, and the calls of the processes. -/
structure Lake (ι : Type) (stamp : DateTime → DateTime) where
  stores : (t : ExportTable) → Store t.domain stamp
  bucket : List Char → Option Object
  jobs : ι → Option (Job stamp)

inductive LakeEvent (ι : Type) where
  /-- A statement of the ingestion or of the maintenance. -/
  | store (t : ExportTable) (e : Db.Event t.domain)
  /-- A process calls `export_events` or `export_logs`. -/
  | opens (i : ι) (t : ExportTable) (date : Int)
  /-- It reads its next page. -/
  | reads (i : ι)
  /-- It uploads the object, and returns. -/
  | puts (i : ι)
  /-- A query or the upload fails, or the process ends. -/
  | fails (i : ι)

section System

variable {ι : Type} [DecidableEq ι] {stamp : DateTime → DateTime}

/-- The rows of a table, in key order when a query asks for them. -/
def Lake.hot (s : Lake ι stamp) (t : ExportTable) : Table (t.key stamp) := hotTable t (s.stores t)

def Lake.setJob (s : Lake ι stamp) (i : ι) (job : Option (Job stamp)) : Lake ι stamp :=
  { s with jobs := Function.update s.jobs i job }

inductive LakeStep (c : Maintenance) (pathPrefix : Option String) (size : ℕ+) :
    Lake ι stamp → LakeEvent ι → Lake ι stamp → Prop where
  | store {s t e store'} : Maintained c (s.stores t) e store' →
      LakeStep c pathPrefix size s (.store t e)
        { s with stores := Function.update s.stores t store' }
  | opens {s i t date} : s.jobs i = none → validatePrefix pathPrefix = .ok () →
      LakeStep c pathPrefix size s (.opens i t date)
        (s.setJob i (some ⟨t, date, { table := s.hot t }⟩))
  | reads {s i t x} : s.jobs i = some ⟨t, x⟩ →
      LakeStep c pathPrefix size s (.reads i)
        (s.setJob i (some ⟨t, x.date, (x.progress.now (s.hot t)).query size (onDay x.date)⟩))
  | puts {s i t x key} : s.jobs i = some ⟨t, x⟩ → x.progress.finished = true →
      exportKey pathPrefix t x.date = .ok key →
      LakeStep c pathPrefix size s (.puts i)
        { s.setJob i none with
          bucket := Function.update s.bucket key (some ⟨t, x.progress.object⟩) }
  | fails {s i} : s.jobs i ≠ none → LakeStep c pathPrefix size s (.fails i) (s.setJob i none)

/-- Nothing has been exported. -/
structure Lake.Fresh (s : Lake ι stamp) : Prop where
  noObject : ∀ key, s.bucket key = none
  noJob : ∀ i, s.jobs i = none

/-! ## The reader -/

/-- The listing of `register_table` selects the object. -/
def Lake.Lists (s : Lake ι stamp) (pathPrefix : Option String) (t : ExportTable)
    (datePrefix : Option String) (key : List Char) : Prop :=
  s.bucket key ≠ none ∧ listingPath pathPrefix t datePrefix <+: key ∧ ".parquet".toList <:+ key

/-- The rows of an object, when it has the columns of the table. -/
def Object.rowsOf (o : Object) (t : ExportTable) : Option (List t.domain.Row) :=
  if h : o.table = t then some (h ▸ o.rows) else none

def Lake.rowsOf (s : Lake ι stamp) (t : ExportTable) (key : List Char) :
    Option (List t.domain.Row) :=
  (s.bucket key).bind fun o => o.rowsOf t

/-- What `query` and `query_date` read of the table: the rows of the objects listed, in whichever
order these come. -/
def Lake.Answers (s : Lake ι stamp) (pathPrefix : Option String) (t : ExportTable)
    (datePrefix : Option String) (rows : List t.domain.Row) : Prop :=
  ∃ keys : List (List Char), keys.Nodup ∧
    (∀ key, key ∈ keys ↔ s.Lists pathPrefix t datePrefix key) ∧
    (∀ key ∈ keys, s.rowsOf t key ≠ none) ∧
    rows = keys.flatMap fun key => (s.rowsOf t key).getD []

/-! ## Histories -/

/-- The row has been in the database at some moment of the run. -/
def WasHot (c : Maintenance) (pathPrefix : Option String) (size : ℕ+) (start : Lake ι stamp)
    (labels : List (LakeEvent ι)) (t : ExportTable) (r : t.domain.Row) : Prop :=
  ∃ before after s, labels = before ++ after ∧ Run (LakeStep c pathPrefix size) start before s ∧
    r ∈ (s.stores t).table.rows

/-- No step takes a row from a day that is being read, and a row that is added to it comes after
those that have been read. -/
def Lake.Calm (s s' : Lake ι stamp) : Prop :=
  ∀ i t x, s.jobs i = some ⟨t, x⟩ → x.progress.finished = false →
    (s.hot t).select (onDay x.date) ⊆ (s'.hot t).select (onDay x.date) ∧
    ∀ r ∈ (s'.hot t).select (onDay x.date), r ∉ (s.hot t).select (onDay x.date) →
      ∀ r' ∈ x.progress.object, t.key stamp r' < t.key stamp r

/-- The event drops no row of the day. -/
def LakeEvent.Keeps (c : Maintenance) (t : ExportTable) (day : Int) : LakeEvent ι → Prop
  | .store t' (.purge today) => t' = t → today - c.retentionDays ≤ day
  | _ => True

/-- No export of the day is under way. -/
def Lake.Rests (s : Lake ι stamp) (t : ExportTable) (day : Int) : Prop :=
  ∀ i x, s.jobs i = some ⟨t, x⟩ → x.date ≠ day

/-- The call of the process goes on. -/
def LakeEvent.LeavesJob (i : ι) : LakeEvent ι → Prop
  | .puts j => j ≠ i
  | .fails j => j ≠ i
  | _ => True

/-- An export of the day has been called and has uploaded its object. -/
def Archived (t : ExportTable) (day : Int) (labels : List (LakeEvent ι)) : Prop :=
  ∃ before i during after,
    labels = before ++ .opens i t day :: (during ++ .puts i :: after) ∧
    ∀ x ∈ during, x.LeavesJob i

end System

/-! ## Keys -/

theorem dayText_eq (day : Int) :
    dayText day = DateTime.yearChars (DateTime.civilFromDays day).1 ++
      '-' :: DateTime.padDigits 2 (DateTime.civilFromDays day).2.1.toNat ++
      '-' :: DateTime.padDigits 2 (DateTime.civilFromDays day).2.2.toNat := rfl

theorem dayText_injective : Function.Injective dayText := by
  intro m n h
  rw [dayText_eq, dayText_eq] at h
  have hdash : ∀ width n, '-' ∉ DateTime.padDigits width n := fun width n hmem =>
    absurd (List.all_eq_true.mp (DateTime.isDigit_padDigits width n) _ hmem) (by decide)
  have hmonth := DateTime.month_range m
  have hmonth' := DateTime.month_range n
  have hday := DateTime.day_range m
  have hday' := DateTime.day_range n
  obtain ⟨hfirst, hdays⟩ := append_last_sep_inj (hdash _ _) (hdash _ _) h
  obtain ⟨hyears, hmonths⟩ := append_last_sep_inj (hdash _ _) (hdash _ _) hfirst
  have hyear := DateTime.yearChars_injective hyears
  have hmonth'' := DateTime.padDigits_injective 2 hmonths
  have hday'' := DateTime.padDigits_injective 2 hdays
  apply DateTime.dateNumber_strictMono.injective
  unfold DateTime.dateNumber
  omega

/-- No two exports write under one key, but those of the same table and day. -/
theorem exportKey_inj {pathPrefix : Option String} (hwhole : Whole pathPrefix) {t t' : ExportTable}
    {day day' : Int} {key : List Char} (h : exportKey pathPrefix t day = .ok key)
    (h' : exportKey pathPrefix t' day' = .ok key) : t = t' ∧ day = day' := by
  have hfile : fileOf t day = fileOf t' day' :=
    List.append_cancel_left
      ((exportKey_of_whole hwhole h).symm.trans (exportKey_of_whole hwhole h'))
  have hsegments := congrArg (List.splitOn '/') hfile
  rw [splitOn_fileOf, splitOn_fileOf] at hsegments
  obtain ⟨htable, hrest⟩ := List.cons.inj hsegments
  have hday := dayText_injective (List.append_cancel_left (List.cons.inj hrest).1)
  cases t <;> cases t' <;> first | exact ⟨rfl, hday⟩ | exact absurd htable (by decide)

theorem parquet_suffix {pathPrefix : Option String} (hwhole : Whole pathPrefix) {t : ExportTable}
    {day : Int} {key : List Char} (h : exportKey pathPrefix t day = .ok key) :
    ".parquet".toList <:+ key := by
  rw [exportKey_of_whole hwhole h]
  have hpart : ".parquet".toList <:+ partName := ⟨"part-0000".toList, by decide⟩
  have hfile : partName <:+ fileOf t day :=
    ⟨tableName t ++ '/' :: (dateEquals ++ (dayText day ++ ['/'])), by simp [fileOf]⟩
  exact hpart.trans (hfile.trans (List.suffix_append _ _))

/-- A listing selects the objects of its table and, if it names one, of its day. -/
theorem listingPath_prefix_iff {pathPrefix : Option String} (hwhole : Whole pathPrefix)
    {t t' : ExportTable} {datePrefix : Option String} {day : Int} {key : List Char}
    (h : exportKey pathPrefix t' day = .ok key) :
    listingPath pathPrefix t datePrefix <+: key ↔ t = t' ∧ IsDay datePrefix day := by
  rw [exportKey_of_whole hwhole h, listingPath_eq, List.prefix_append_right_inj, listed_prefix_iff]

/-! ## What holds -/

section Properties

variable {ι : Type} {stamp : DateTime → DateTime} {pathPrefix : Option String} {size : ℕ+}
  {s : Lake ι stamp} {history history' : (t : ExportTable) → t.domain.Row → Prop}

/-- A property of the exports under way, each with the table that it reads. -/
def Lake.Each (P : (t : ExportTable) → Table (t.key stamp) → Reading t stamp → Prop)
    (s : Lake ι stamp) : Prop :=
  ∀ i t y, s.jobs i = some ⟨t, y⟩ → P t (s.hot t) y

/-- The rows that have been read, and those in the bucket, belong to the table and the day of their
export and are part of a history. -/
structure Lake.Placed (pathPrefix : Option String)
    (history : (t : ExportTable) → t.domain.Row → Prop) (s : Lake ι stamp) : Prop where
  hot : ∀ t, ∀ r ∈ (s.stores t).table.rows, history t r
  read : s.Each fun t _ y => ∀ r ∈ y.progress.object, t.domain.day stamp r = y.date ∧ history t r
  stored : ∀ key o, s.bucket key = some o → ∃ day, exportKey pathPrefix o.table day = .ok key ∧
    ∀ r ∈ o.rows, o.table.domain.day stamp r = day ∧ history o.table r
  finite : {key | s.bucket key ≠ none}.Finite

theorem Lake.Fresh.placed (h : s.Fresh)
    (hhot : ∀ t, ∀ r ∈ (s.stores t).table.rows, history t r) : s.Placed pathPrefix history where
  hot := hhot
  read i _ _ hy := absurd ((h.noJob i).symm.trans hy) nofun
  stored key _ ho := absurd ((h.noObject key).symm.trans ho) nofun
  finite := by
    have hnone : {key | s.bucket key ≠ none} = ∅ :=
      Set.eq_empty_of_forall_notMem fun key hkey => hkey (h.noObject key)
    rw [hnone]
    exact Set.finite_empty

theorem Lake.Placed.mono (h : s.Placed pathPrefix history)
    (hsub : ∀ t r, history t r → history' t r) : s.Placed pathPrefix history' where
  hot t r hr := hsub t r (h.hot t r hr)
  read i t y hy r hr := (h.read i t y hy r hr).imp_right (hsub t r)
  stored key o ho := by
    obtain ⟨day, hkey, hrows⟩ := h.stored key o ho
    exact ⟨day, hkey, fun r hr => ⟨(hrows r hr).1, hsub _ r (hrows r hr).2⟩⟩
  finite := h.finite

/-- The export reads its day in order: as long as it runs, it has read the first rows. -/
structure Progress.Tidy {ρ κ : Type} [LinearOrder κ] {key : ρ → κ} (p : Progress key)
    (keep : κ → Bool) : Prop where
  inOrder : InOrder key p.object
  first : p.finished = false → p.object <+: p.table.select keep
  offset_eq : p.finished = false → p.offset = p.object.length

section Tidy

variable {ρ κ : Type} [LinearOrder κ] {key : ρ → κ} {p : Progress key} {keep : κ → Bool}

theorem Progress.Tidy.query (h : p.Tidy keep) : (p.query size keep).Tidy keep := by
  cases hfinished : p.finished with
  | true =>
    rw [p.query_finished hfinished]
    exact h
  | false =>
    obtain ⟨htable, hobject, hoffset, -, -⟩ := p.query_running size keep hfinished
    obtain ⟨rest, hrest⟩ := h.first hfinished
    have hpage : p.table.page keep size p.offset = rest.take size := by
      rw [Table.page, h.offset_eq hfinished, ← hrest, List.drop_left]
    have hprefix : (p.query size keep).object <+: p.table.select keep := by
      rw [hobject, hpage, ← hrest]
      exact (List.prefix_append_right_inj _).mpr (List.take_prefix _ _)
    refine ⟨(Table.inOrder_select _ _).of_first hprefix, fun _ => ?_, fun _ => ?_⟩
    · rw [htable]
      exact hprefix
    · rw [hoffset, hobject, List.length_append, h.offset_eq hfinished]

/-- Rows that come behind those that have been read leave them the first. -/
theorem Progress.Tidy.grow {table : Table key} (h : p.Tidy keep)
    (hcalm : p.finished = false → p.table.select keep ⊆ table.select keep ∧
      ∀ r ∈ table.select keep, r ∉ p.table.select keep → ∀ r' ∈ p.object, key r' < key r) :
    (p.now table).Tidy keep where
  inOrder := h.inOrder
  offset_eq := h.offset_eq
  first hrunning := by
    obtain ⟨hsub, hlate⟩ := hcalm hrunning
    have hfirst := h.first hrunning
    have hold := (prefix_iff h.inOrder (Table.inOrder_select _ _) hfirst.subset).mp hfirst
    have hread : p.object ⊆ table.select keep := List.Subset.trans hfirst.subset hsub
    apply (prefix_iff h.inOrder (Table.inOrder_select _ _) hread).mpr
    intro r hr hnew
    by_cases hthere : r ∈ p.table.select keep
    · exact hold r hthere hnew
    · exact hlate r hr hthere

end Tidy

/-- The exports under way read in order, and so are the objects. -/
structure Lake.Tidy (s : Lake ι stamp) : Prop where
  read : s.Each fun _ table y => (y.progress.now table).Tidy (onDay y.date)
  stored : ∀ key o, s.bucket key = some o → InOrder (o.table.key stamp) o.rows

theorem Lake.Fresh.tidy (h : s.Fresh) : s.Tidy where
  read i _ _ hy := absurd ((h.noJob i).symm.trans hy) nofun
  stored key _ ho := absurd ((h.noObject key).symm.trans ho) nofun

end Properties

/-! ## Answers -/

section Answers

variable {ι : Type} {stamp : DateTime → DateTime} {pathPrefix : Option String} {s : Lake ι stamp}
  {history : (t : ExportTable) → t.domain.Row → Prop} {t : ExportTable}
  {datePrefix : Option String} {key : List Char} {rows : List t.domain.Row}

theorem Lake.rowsOf_eq (h : s.bucket key = some ⟨t, rows⟩) : s.rowsOf t key = some rows := by
  unfold Lake.rowsOf
  rw [h]
  exact dif_pos rfl

/-- What is listed is an object of the table, of a day that is asked for. -/
theorem Lake.Placed.of_lists (hwhole : Whole pathPrefix) (hs : s.Placed pathPrefix history)
    (h : s.Lists pathPrefix t datePrefix key) :
    ∃ day rows, exportKey pathPrefix t day = .ok key ∧ IsDay datePrefix day ∧
      s.rowsOf t key = some rows ∧ s.bucket key = some ⟨t, rows⟩ ∧
      ∀ r ∈ rows, t.domain.day stamp r = day ∧ history t r := by
  obtain ⟨hsome, hlisted, -⟩ := h
  obtain ⟨o, ho⟩ := Option.ne_none_iff_exists'.mp hsome
  obtain ⟨day, hkey, hrows⟩ := hs.stored key o ho
  obtain ⟨htable, hday⟩ := (listingPath_prefix_iff hwhole hkey).mp hlisted
  subst htable
  exact ⟨day, o.rows, hkey, hday, Lake.rowsOf_eq ho, ho, hrows⟩

theorem Lake.Placed.exists_answers (hwhole : Whole pathPrefix) (hs : s.Placed pathPrefix history) :
    ∃ rows, s.Answers pathPrefix t datePrefix rows := by
  have hfinite : {key | s.Lists pathPrefix t datePrefix key}.Finite :=
    hs.finite.subset fun key hkey => hkey.1
  have hmem : ∀ key, key ∈ hfinite.toFinset.toList ↔ s.Lists pathPrefix t datePrefix key := by
    intro key
    rw [Finset.mem_toList, Set.Finite.mem_toFinset, Set.mem_ofPred]
  refine ⟨_, hfinite.toFinset.toList, Finset.nodup_toList _, hmem, ?_, rfl⟩
  intro key hkey hnone
  obtain ⟨day, rows, -, -, hrows, -⟩ := hs.of_lists hwhole ((hmem key).mp hkey)
  rw [hrows] at hnone
  cases hnone

theorem Lake.Placed.mem_answers (hwhole : Whole pathPrefix) (hs : s.Placed pathPrefix history)
    (h : s.Answers pathPrefix t datePrefix rows) {r : t.domain.Row} (hr : r ∈ rows) :
    IsDay datePrefix (t.domain.day stamp r) ∧ history t r := by
  obtain ⟨keys, -, hlists, -, rfl⟩ := h
  obtain ⟨key, hkey, hmem⟩ := List.mem_flatMap.mp hr
  obtain ⟨day, rows, -, hday, hrows, -, hplaced⟩ := hs.of_lists hwhole ((hlists key).mp hkey)
  rw [hrows] at hmem
  obtain ⟨rfl, hhistory⟩ := hplaced r hmem
  exact ⟨hday, hhistory⟩

/-- The key of a row tells its day. -/
theorem day_eq_of_key_eq {r r' : t.domain.Row} (h : t.key stamp r = t.key stamp r') :
    t.domain.day stamp r = t.domain.day stamp r' := by
  apply (onDay_key_iff t).mp
  rw [h]
  exact (onDay_key_iff t).mpr rfl

/-- Rows of different objects have different keys, and the rows of each are in order. -/
theorem Lake.Tidy.nodup_answers (hwhole : Whole pathPrefix) (hs : s.Placed pathPrefix history)
    (htidy : s.Tidy) (h : s.Answers pathPrefix t datePrefix rows) :
    (rows.map (t.key stamp)).Nodup := by
  obtain ⟨keys, hnodup, hlists, -, rfl⟩ := h
  rw [List.map_flatMap, List.nodup_flatMap]
  refine ⟨?_, hnodup.imp_of_mem ?_⟩
  · intro key hkey
    obtain ⟨-, rows, -, -, hrows, hobject, -⟩ := hs.of_lists hwhole ((hlists key).mp hkey)
    rw [hrows]
    exact (htidy.stored key _ hobject).keys_nodup
  · intro key key' hkey hkey' hne
    obtain ⟨day, rows, hpath, -, hrows, -, hplaced⟩ := hs.of_lists hwhole ((hlists key).mp hkey)
    obtain ⟨day', rows', hpath', -, hrows', -, hplaced'⟩ :=
      hs.of_lists hwhole ((hlists key').mp hkey')
    intro k hk hk'
    dsimp only at hk hk'
    rw [hrows] at hk
    rw [hrows'] at hk'
    obtain ⟨r, hr, rfl⟩ := List.mem_map.mp hk
    obtain ⟨r', hr', heq⟩ := List.mem_map.mp hk'
    have hdays : day = day' :=
      (hplaced r hr).1.symm.trans ((day_eq_of_key_eq heq).symm.trans (hplaced' r' hr').1)
    rw [hdays, hpath'] at hpath
    exact hne (Except.ok.inj hpath).symm

/-! ## Rows that are safe -/

theorem Lake.mem_select_hot {r : t.domain.Row} (hr : r ∈ (s.stores t).table.rows) {date : Int}
    (hdate : date = t.domain.day stamp r) : r ∈ (s.hot t).select (onDay date) :=
  Table.mem_select.mpr ⟨hr, (onDay_key_iff t).mpr hdate.symm⟩

/-- The row is in the database, and no export of its day that is under way misses it. -/
structure Lake.Safe (s : Lake ι stamp) (t : ExportTable) (r : t.domain.Row) : Prop where
  hot : r ∈ (s.stores t).table.rows
  covers : s.Each fun t' table y => ∀ r' : t'.domain.Row,
    (⟨t', r'⟩ : (t : ExportTable) × t.domain.Row) = ⟨t, r⟩ → y.date = t'.domain.day stamp r' →
      (y.progress.now table).Covers (onDay y.date) r'

/-- The row is in the object of its day. -/
def Lake.Has (pathPrefix : Option String) (s : Lake ι stamp) (t : ExportTable) (r : t.domain.Row) :
    Prop :=
  ∃ key rows, exportKey pathPrefix t (t.domain.day stamp r) = .ok key ∧
    s.bucket key = some ⟨t, rows⟩ ∧ r ∈ rows

theorem Lake.Safe.mem_object {r : t.domain.Row} (hs : s.Safe t r) {i : ι} {y : Reading t stamp}
    (hjob : s.jobs i = some ⟨t, y⟩) (hdate : y.date = t.domain.day stamp r)
    (hfinished : y.progress.finished = true) : r ∈ y.progress.object :=
  (hs.covers i t y hjob r rfl hdate).finished hfinished

/-- A row that is in the bucket is answered. -/
theorem Lake.Has.mem_answers (hwhole : Whole pathPrefix) {r : t.domain.Row}
    (hs : s.Has pathPrefix t r) (hday : IsDay datePrefix (t.domain.day stamp r))
    (h : s.Answers pathPrefix t datePrefix rows) : r ∈ rows := by
  obtain ⟨key, object, hkey, hobject, hr⟩ := hs
  obtain ⟨keys, -, hlists, -, rfl⟩ := h
  have hlisted : s.Lists pathPrefix t datePrefix key := by
    refine ⟨?_, (listingPath_prefix_iff hwhole hkey).mpr ⟨rfl, hday⟩, parquet_suffix hwhole hkey⟩
    rw [hobject]
    exact Option.some_ne_none _
  refine List.mem_flatMap.mpr ⟨key, (hlists key).mpr hlisted, ?_⟩
  rw [Lake.rowsOf_eq hobject]
  exact hr

/-- The process goes on with an export of the day. -/
def Lake.Exports (s : Lake ι stamp) (i : ι) (t : ExportTable) (day : Int) : Prop :=
  ∃ y, s.jobs i = some ⟨t, y⟩ ∧ y.date = day

end Answers

/-! ## Steps -/

section Steps

variable {ι : Type} [DecidableEq ι] {stamp : DateTime → DateTime} {c : Maintenance}
  {pathPrefix : Option String} {size : ℕ+} {s s' : Lake ι stamp} {x : LakeEvent ι}
  {history : (t : ExportTable) → t.domain.Row → Prop}

theorem Lake.jobs_setJob_self (s : Lake ι stamp) (i : ι) (job : Option (Job stamp)) :
    (s.setJob i job).jobs i = job := Function.update_self ..

theorem Lake.jobs_setJob {i k : ι} {job : Option (Job stamp)} {j : Job stamp}
    (h : (s.setJob i job).jobs k = some j) : k = i ∧ job = some j ∨ k ≠ i ∧ s.jobs k = some j := by
  by_cases hk : k = i
  · subst hk
    rw [s.jobs_setJob_self] at h
    exact .inl ⟨rfl, h⟩
  · rw [show (s.setJob i job).jobs k = s.jobs k from Function.update_of_ne hk ..] at h
    exact .inr ⟨hk, h⟩

/-- **What holds of the exports under way.** A property that holds at the call, is kept by the
queries and is not disturbed by the steps of the database. -/
theorem Lake.Each.step {P : (t : ExportTable) → Table (t.key stamp) → Reading t stamp → Prop}
    (hs : s.Each P) (h : LakeStep c pathPrefix size s x s')
    (hopens : ∀ t date, P t (s.hot t) ⟨date, { table := s.hot t }⟩)
    (hreads : ∀ t y, P t (s.hot t) y →
      P t (s.hot t) ⟨y.date, (y.progress.now (s.hot t)).query size (onDay y.date)⟩)
    (hstore : ∀ i t y, s.jobs i = some ⟨t, y⟩ → P t (s.hot t) y → P t (s'.hot t) y) :
    s'.Each P := by
  cases h with
  | store hmaintained => exact fun i t y hy => hstore i t y hy (hs i t y hy)
  | opens hidle hvalid =>
    intro k t y hy
    rcases Lake.jobs_setJob hy with ⟨-, hjob⟩ | ⟨-, hold⟩
    · cases hjob
      exact hopens _ _
    · exact hs k t y hold
  | reads hjob =>
    intro k t y hy
    rcases Lake.jobs_setJob hy with ⟨-, hnew⟩ | ⟨-, hold⟩
    · cases hnew
      exact hreads _ _ (hs _ _ _ hjob)
    · exact hs k t y hold
  | puts hjob hfinished hkey =>
    intro k t y hy
    rcases Lake.jobs_setJob hy with ⟨-, hnew⟩ | ⟨-, hold⟩
    · cases hnew
    · exact hs k t y hold
  | fails hjob =>
    intro k t y hy
    rcases Lake.jobs_setJob hy with ⟨-, hnew⟩ | ⟨-, hold⟩
    · cases hnew
    · exact hs k t y hold

/-- An object was there before, or has just been uploaded. -/
theorem LakeStep.bucket (h : LakeStep c pathPrefix size s x s') {key : List Char} {o : Object}
    (ho : s'.bucket key = some o) :
    s.bucket key = some o ∨ ∃ i t y, x = .puts i ∧ s.jobs i = some ⟨t, y⟩ ∧
      y.progress.finished = true ∧ exportKey pathPrefix t y.date = .ok key ∧
      o = ⟨t, y.progress.object⟩ := by
  cases h with
  | store hmaintained => exact .inl ho
  | opens hidle hvalid => exact .inl ho
  | reads hjob => exact .inl ho
  | @puts i t y key' hjob hfinished hkey =>
    by_cases hsame : key = key'
    · subst hsame
      have hnew : some _ = some o := (Function.update_self key _ s.bucket).symm.trans ho
      exact .inr ⟨i, t, y, rfl, hjob, hfinished, hkey, (Option.some.inj hnew).symm⟩
    · exact .inl ((Function.update_of_ne hsame _ s.bucket).symm.trans ho)
  | fails hjob => exact .inl ho

/-- A query reads rows that the table has. -/
theorem Progress.mem_query {ρ κ : Type} [LinearOrder κ] {key : ρ → κ} {p : Progress key}
    {keep : κ → Bool} {r : ρ} (h : r ∈ (p.query size keep).object) :
    r ∈ p.object ∨ r ∈ p.table.select keep := by
  cases hfinished : p.finished with
  | true =>
    rw [p.query_finished hfinished] at h
    exact .inl h
  | false =>
    obtain ⟨-, hobject, -⟩ := p.query_running size keep hfinished
    rw [hobject] at h
    exact (List.mem_append.mp h).imp_right fun hpage =>
      List.mem_of_mem_drop (List.mem_of_mem_take hpage)

theorem Lake.Placed.step (hs : s.Placed pathPrefix history) (h : LakeStep c pathPrefix size s x s')
    (hhot : ∀ t, ∀ r ∈ (s'.stores t).table.rows, history t r) : s'.Placed pathPrefix history where
  hot := hhot
  read := by
    apply hs.read.step h
    · exact fun t date r hr => absurd hr List.not_mem_nil
    · intro t y hy r hr
      rcases Progress.mem_query hr with hold | hnew
      · exact hy r hold
      · obtain ⟨hmem, hday⟩ := Table.mem_select.mp hnew
        exact ⟨(onDay_key_iff t).mp hday, hs.hot t r hmem⟩
    · exact fun i t y hjob hy => hy
  stored key o ho := by
    rcases h.bucket ho with hold | ⟨i, t, y, -, hjob, -, hkey, rfl⟩
    · exact hs.stored key o hold
    · exact ⟨y.date, hkey, hs.read i t y hjob⟩
  finite := by
    cases h with
    | store hmaintained => exact hs.finite
    | opens hidle hvalid => exact hs.finite
    | reads hjob => exact hs.finite
    | @puts i t y key' hjob hfinished hkey =>
      apply (hs.finite.insert key').subset
      intro key hsome
      by_cases hsame : key = key'
      · exact .inl hsame
      · have hold : Function.update s.bucket key' (some ⟨t, y.progress.object⟩) key =
            s.bucket key := Function.update_of_ne hsame _ s.bucket
        exact .inr fun hnone => hsome (hold.trans hnone)
    | fails hjob => exact hs.finite

theorem Lake.Tidy.step (hs : s.Tidy) (h : LakeStep c pathPrefix size s x s') (hcalm : s.Calm s') :
    s'.Tidy where
  read := by
    apply hs.read.step h
    · exact fun t date => ⟨List.Pairwise.nil, fun _ => List.nil_prefix, fun _ => rfl⟩
    · intro t y hy
      rw [Progress.now_query]
      exact hy.query
    · exact fun i t y hjob hy => hy.grow (hcalm i t y hjob)
  stored key o ho := by
    rcases h.bucket ho with hold | ⟨i, t, y, -, hjob, -, -, rfl⟩
    · exact hs.stored key o hold
    · exact (hs.read i t y hjob).inOrder

end Steps

/-! ## Rows that are archived -/

section Archived

variable {ι : Type} [DecidableEq ι] {stamp : DateTime → DateTime} {c : Maintenance}
  {pathPrefix : Option String} {size : ℕ+} {s s' : Lake ι stamp} {x : LakeEvent ι}
  {t : ExportTable} {r : t.domain.Row} {day : Int}

theorem LakeStep.rows (h : LakeStep c pathPrefix size s x s') (hkeeps : x.Keeps c t day)
    (hday : t.domain.day stamp r = day) (hr : r ∈ (s.stores t).table.rows) :
    r ∈ (s'.stores t).table.rows := by
  cases h with
  | @store t' e store' hmaintained =>
    show r ∈ (Function.update s.stores t' store' t).table.rows
    by_cases htable : t = t'
    · subst htable
      rw [Function.update_self]
      apply mem_rows_of_maintained hmaintained _ hr
      rintro today rfl
      rw [hday]
      exact hkeeps rfl
    · rw [Function.update_of_ne htable]
      exact hr
  | opens hidle hvalid => exact hr
  | reads hjob => exact hr
  | puts hjob hfinished hkey => exact hr
  | fails hjob => exact hr

theorem Lake.Safe.step (hs : s.Safe t r) (h : LakeStep c pathPrefix size s x s')
    (hkeeps : x.Keeps c t (t.domain.day stamp r)) : s'.Safe t r where
  hot := h.rows hkeeps rfl hs.hot
  covers := by
    apply hs.covers.step h
    · exact fun t' date r' hr' hday => Progress.covers_fresh _ r'
    · intro t' y hy r' hr' hday
      cases hr'
      rw [Progress.now_query]
      exact (hy r rfl hday).query (Lake.mem_select_hot hs.hot hday)
    · intro i t' y hjob hy r' hr' hday
      cases hr'
      refine (hy r rfl hday).grow (Lake.mem_select_hot hs.hot hday) ?_
      intro q hq
      obtain ⟨hmem, hon⟩ := Table.mem_select.mp hq
      have hdayq := ((onDay_key_iff t).mp hon).trans hday
      exact Table.mem_select.mpr ⟨h.rows hkeeps hdayq hmem, hon⟩

/-- The row stays in the bucket unless an export of its day misses it. -/
theorem Lake.Has.step (hwhole : Whole pathPrefix) (hs : s.Has pathPrefix t r)
    (h : LakeStep c pathPrefix size s x s')
    (hputs : ∀ i y, s.jobs i = some ⟨t, y⟩ → y.date = t.domain.day stamp r →
      y.progress.finished = true → r ∈ y.progress.object) : s'.Has pathPrefix t r := by
  obtain ⟨key, rows, hkey, hobject, hr⟩ := hs
  cases h with
  | store hmaintained => exact ⟨key, rows, hkey, hobject, hr⟩
  | opens hidle hvalid => exact ⟨key, rows, hkey, hobject, hr⟩
  | reads hjob => exact ⟨key, rows, hkey, hobject, hr⟩
  | @puts i t' y key' hjob hfinished hkey' =>
    by_cases hsame : key = key'
    · -- The same key: an export of the same table and day.
      subst hsame
      obtain ⟨rfl, hdate⟩ := exportKey_inj hwhole hkey hkey'
      exact ⟨key, _, hkey, Function.update_self .., hputs i y hjob hdate.symm hfinished⟩
    · exact ⟨key, rows, hkey, (Function.update_of_ne hsame _ _).trans hobject, hr⟩
  | fails hjob => exact ⟨key, rows, hkey, hobject, hr⟩

theorem Lake.Exports.step {i : ι} (hs : s.Exports i t day) (h : LakeStep c pathPrefix size s x s')
    (hleaves : x.LeavesJob i) : s'.Exports i t day := by
  obtain ⟨y, hy, hdate⟩ := hs
  have hother : ∀ {j : ι} {job}, j ≠ i → (s.setJob j job).jobs i = some ⟨t, y⟩ := fun hne =>
    (Function.update_of_ne hne.symm _ _).trans hy
  cases h with
  | store hmaintained => exact ⟨y, hy, hdate⟩
  | @opens j t' date hidle hvalid =>
    refine ⟨y, hother ?_, hdate⟩
    rintro rfl
    rw [hidle] at hy
    cases hy
  | @reads j t' y' hjob =>
    by_cases hsame : j = i
    · subst hsame
      rw [hy] at hjob
      cases hjob
      exact ⟨_, Function.update_self .., hdate⟩
    · exact ⟨y, hother hsame, hdate⟩
  | puts hjob hfinished hkey => exact ⟨y, hother hleaves, hdate⟩
  | fails hjob => exact ⟨y, hother hleaves, hdate⟩

theorem Lake.Rests.step (hs : s.Rests t day) (h : LakeStep c pathPrefix size s x s')
    (hopens : ∀ i, x ≠ .opens i t day) : s'.Rests t day := by
  intro k y hy
  cases h with
  | store hmaintained => exact hs k y hy
  | @opens j t' date hidle hvalid =>
    rcases Lake.jobs_setJob hy with ⟨-, hnew⟩ | ⟨-, hold⟩
    · cases hnew
      rintro rfl
      exact hopens j rfl
    · exact hs k y hold
  | @reads j t' z hjob =>
    rcases Lake.jobs_setJob hy with ⟨-, hnew⟩ | ⟨-, hold⟩
    · cases hnew
      exact hs j z hjob
    · exact hs k y hold
  | puts hjob hfinished hkey =>
    rcases Lake.jobs_setJob hy with ⟨-, hnew⟩ | ⟨-, hold⟩
    · cases hnew
    · exact hs k y hold
  | fails hjob =>
    rcases Lake.jobs_setJob hy with ⟨-, hnew⟩ | ⟨-, hold⟩
    · cases hnew
    · exact hs k y hold

end Archived

/-! ## Runs -/

section Runs

variable {ι : Type} [DecidableEq ι] {stamp : DateTime → DateTime} {c : Maintenance}
  {pathPrefix : Option String} {size : ℕ+} {start s s' : Lake ι stamp}
  {labels : List (LakeEvent ι)} {t : ExportTable} {r : t.domain.Row} {day : Int}

theorem WasHot.snoc (h : WasHot c pathPrefix size start labels t r) (x : LakeEvent ι) :
    WasHot c pathPrefix size start (labels ++ [x]) t r := by
  obtain ⟨before, after, s, rfl, hrun, hr⟩ := h
  exact ⟨before, after ++ [x], s, List.append_assoc .., hrun, hr⟩

theorem wasHot_of_run (h : Run (LakeStep c pathPrefix size) start labels s)
    (hr : r ∈ (s.stores t).table.rows) : WasHot c pathPrefix size start labels t r :=
  ⟨labels, [], s, (List.append_nil _).symm, h, hr⟩

theorem placed_of_run (hstart : start.Fresh)
    (h : Run (LakeStep c pathPrefix size) start labels s) :
    s.Placed pathPrefix (WasHot c pathPrefix size start labels) := by
  induction h with
  | nil => exact hstart.placed fun t r hr => wasHot_of_run .nil hr
  | @snoc labels mid s' x hrun hstep ih =>
    apply (ih.mono fun t r hr => hr.snoc x).step hstep
    exact fun t r hr => wasHot_of_run (.snoc hrun hstep) hr

theorem tidy_of_run (hstart : start.Fresh)
    (h : Run (fun s x s' => s.Calm s' ∧ LakeStep c pathPrefix size s x s') start labels s) :
    s.Tidy :=
  h.invariant hstart.tidy fun _ _ _ hs hstep => hs.step hstep.2 hstep.1

theorem Lake.Safe.run (hs : s.Safe t r) (h : Run (LakeStep c pathPrefix size) s labels s')
    (hkeeps : ∀ x ∈ labels, x.Keeps c t (t.domain.day stamp r)) : s'.Safe t r := by
  induction h with
  | nil => exact hs
  | @snoc labels mid s' x hrun hstep ih =>
    obtain ⟨hbefore, hlast⟩ := List.forall_mem_append.mp hkeeps
    exact (ih hbefore).step hstep (hlast x (List.mem_singleton_self x))

theorem Lake.Has.run (hwhole : Whole pathPrefix) (hs : s.Has pathPrefix t r) (hsafe : s.Safe t r)
    (h : Run (LakeStep c pathPrefix size) s labels s')
    (hkeeps : ∀ x ∈ labels, x.Keeps c t (t.domain.day stamp r)) : s'.Has pathPrefix t r := by
  induction h with
  | nil => exact hs
  | @snoc labels mid s' x hrun hstep ih =>
    obtain ⟨hbefore, -⟩ := List.forall_mem_append.mp hkeeps
    exact (ih hbefore).step hwhole hstep fun _ _ => (hsafe.run hrun hbefore).mem_object

theorem Lake.Exports.run {i : ι} (hs : s.Exports i t day)
    (h : Run (LakeStep c pathPrefix size) s labels s') (hleaves : ∀ x ∈ labels, x.LeavesJob i) :
    s'.Exports i t day := by
  induction h with
  | nil => exact hs
  | @snoc labels mid s' x hrun hstep ih =>
    obtain ⟨hbefore, hlast⟩ := List.forall_mem_append.mp hleaves
    exact (ih hbefore).step hstep (hlast x (List.mem_singleton_self x))

/-- An export of the day that is called when the row is there, and uploads its object, has it. -/
theorem has_of_archived (hwhole : Whole pathPrefix) (hsafe : s.Safe t r)
    (h : Run (LakeStep c pathPrefix size) s labels s')
    (hkeeps : ∀ x ∈ labels, x.Keeps c t (t.domain.day stamp r))
    (harchived : Archived t (t.domain.day stamp r) labels) : s'.Has pathPrefix t r := by
  obtain ⟨before, i, during, after, rfl, hleaves⟩ := harchived
  obtain ⟨hkeepsBefore, hkeepsRest⟩ := List.forall_mem_append.mp hkeeps
  obtain ⟨hkeepsOpens, hkeepsRest⟩ := List.forall_mem_cons.mp hkeepsRest
  obtain ⟨hkeepsDuring, hkeepsRest⟩ := List.forall_mem_append.mp hkeepsRest
  obtain ⟨hkeepsPuts, hkeepsAfter⟩ := List.forall_mem_cons.mp hkeepsRest
  obtain ⟨called, hbefore, hrest⟩ := Run.append_iff.mp h
  obtain ⟨opened, hopens, hrest⟩ := Run.cons_iff.mp hrest
  obtain ⟨done, hduring, hrest⟩ := Run.append_iff.mp hrest
  obtain ⟨stored, hputs, hafter⟩ := Run.cons_iff.mp hrest
  have hopened := (hsafe.run hbefore hkeepsBefore).step hopens hkeepsOpens
  have hdone := hopened.run hduring hkeepsDuring
  -- The process is still at the export that it was called for.
  have hexports : opened.Exports i t (t.domain.day stamp r) := by
    cases hopens with
    | opens hidle hvalid => exact ⟨_, Function.update_self .., rfl⟩
  obtain ⟨y, hy, hdate⟩ := hexports.run hduring hleaves
  have hstored : stored.Has pathPrefix t r := by
    cases hputs with
    | @puts _ t' z key hjob hfinished hkey =>
      rw [hy] at hjob
      cases hjob
      rw [hdate] at hkey
      exact ⟨key, _, hkey, Function.update_self .., hdone.mem_object hy hdate hfinished⟩
  exact hstored.run hwhole (hdone.step hputs hkeepsPuts) hafter hkeepsAfter

end Runs

/-! ## An event that is exported and dropped -/

section Sample

/-- The database holds the late event, and nothing has been exported. -/
def dayLake (logs : Store .logs id) : Lake Unit id where
  stores
    | .events => warm.store
    | .logs => logs
  bucket _ := none
  jobs _ := none

def dayExport : List (LakeEvent Unit) := [.opens () .events 0, .reads (), .puts ()]

theorem fresh_dayLake (logs : Store .logs id) : (dayLake logs).Fresh := ⟨fun _ => rfl, fun _ => rfl⟩

theorem whole_none : Whole none := fun p hp => (Option.not_mem_none p hp).elim

theorem run_dayExport (logs : Store .logs id) : ∃ s,
    Run (fun s x s' => s.Calm s' ∧ LakeStep (keeping 7) none batchSize s x s') (dayLake logs)
      dayExport s ∧ (∀ i, s.jobs i = none) ∧ s.stores = (dayLake logs).stores := by
  let table := (dayLake logs).hot .events
  let opened := (dayLake logs).setJob () (some ⟨.events, 0, { table := table }⟩)
  let progress := (({ table := table } : Progress (ExportTable.events.key id)).now table).query
    batchSize (onDay 0)
  let read := opened.setJob () (some ⟨.events, 0, progress⟩)
  have hquiet : ∀ s s' : Lake Unit id, s'.stores = s.stores → s.Calm s' := by
    intro s s' hstores i t x hjob hrunning
    unfold Lake.hot
    rw [hstores]
    exact ⟨fun r hr => hr, fun r hr hnew => absurd hr hnew⟩
  have hopens : LakeStep (keeping 7) none batchSize (dayLake logs) (.opens () .events 0) opened :=
    .opens rfl rfl
  have hreads : LakeStep (keeping 7) none batchSize opened (.reads ()) read :=
    @LakeStep.reads _ _ _ _ _ _ opened () .events ⟨0, { table := table }⟩
      ((dayLake logs).jobs_setJob_self () _)
  have hfinished : progress.finished = true :=
    finished_first_page (show warm.store.table.rows.length < batchSize by decide)
  obtain ⟨stored, hputs, hstores, hjobs⟩ :
      ∃ s, LakeStep (keeping 7) none batchSize read (.puts ()) s ∧ s.stores = read.stores ∧
        ∀ i, s.jobs i = none :=
    ⟨_, @LakeStep.puts _ _ _ _ _ _ read () .events ⟨0, progress⟩ _
      (opened.jobs_setJob_self () _) hfinished rfl, rfl, fun _ => read.jobs_setJob_self () none⟩
  exact ⟨stored, Run.cons_iff.mpr ⟨opened, ⟨hquiet _ _ rfl, hopens⟩, Run.cons_iff.mpr
    ⟨read, ⟨hquiet _ _ rfl, hreads⟩, Run.single ⟨hquiet _ _ hstores, hputs⟩⟩⟩, hjobs, hstores⟩

end Sample

end Datacat.Export
