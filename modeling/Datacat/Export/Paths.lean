import Datacat.Basics.Time
import Datacat.Settings

/-!
# Paths of the Exported Objects

The exporter writes one object for each table and day, under a key that it makes of a configured
prefix, the table and the day. The reader lists a path that it makes of the same three, and selects
what lies under it. The object store leaves out empty segments when it writes, and not when it
lists.

The reader ends the day with a slash, so that a month selects nothing; and a prefix with an empty
segment, such as one that ends with a slash, selects nothing at all (`paths_agree_iff`).
-/

namespace Datacat.Export

open Basics Settings

/-! ## Exporter -/

/-- The name of a table. -/
def tableName : ExportTable → List Char
  | .events => "events".toList
  | .logs => "logs".toList

/-- `date.format("%Y-%m-%d")`, of a day since the epoch. -/
def dayText (day : Int) : List Char :=
  let (year, month, day) := DateTime.civilFromDays day
  DateTime.yearChars year ++ '-' :: DateTime.padDigits 2 month.toNat ++
    '-' :: DateTime.padDigits 2 day.toNat

inductive PrefixError where
  | notRelative
  | parentSegment
  | controlCharacter
deriving DecidableEq

/-- `char::is_control`. -/
def isControl (c : Char) : Bool := c.toNat < 0x20 || (0x7F ≤ c.toNat && c.toNat ≤ 0x9F)

/-- `validate_prefix`. -/
def validatePrefix (pathPrefix : Option String) : Except PrefixError Unit :=
  match pathPrefix.filter fun p => !p.isEmpty with
  | none => .ok ()
  | some p =>
    if p.toList.head? = some '/' ∨ '\\' ∈ p.toList then .error .notRelative
    else if ['.', '.'] ∈ p.toList.splitOn '/' then .error .parentSegment
    else if p.toList.any isControl then .error .controlCharacter
    else .ok ()

/-- `hive_path`. -/
def hivePath (pathPrefix : Option String) (table : ExportTable) (day : Int) (part : Nat) :
    List Char :=
  let file := tableName table ++ "/date=".toList ++ dayText day ++ "/part-".toList ++
    DateTime.padDigits 4 part ++ ".parquet".toList
  match pathPrefix with
  | some p => if p.isEmpty then file else p.toList ++ '/' :: file
  | none => file

/-- `Path::from`, which leaves out the empty segments. -/
def storePath (key : List Char) : List Char :=
  ['/'].intercalate ((key.splitOn '/').filter fun segment => !segment.isEmpty)

/-- The key of the object that `export_events` and `export_logs` write for a day. -/
def exportKey (pathPrefix : Option String) (table : ExportTable) (day : Int) :
    Except PrefixError (List Char) := do
  validatePrefix pathPrefix
  return storePath (hivePath pathPrefix table day 0)

/-! ## Reader -/

/-- The path of the listing in `register_table`. -/
def listingPath (s3Prefix : Option String) (table : ExportTable) (datePrefix : Option String) :
    List Char :=
  let base :=
    match s3Prefix with
    | some p => p.toList ++ '/' :: tableName table ++ ['/']
    | none => tableName table ++ ['/']
  match datePrefix with
  | some d => base ++ "date=".toList ++ d.toList ++ ['/']
  | none => base

/-! ## Agreement -/

section Agreement

variable (pathPrefix : Option String) (exported : ExportTable → Set Int)

/-- The objects of the bucket, when those days of the tables have been exported. -/
def objects : Set (List Char) :=
  {key | ∃ table, ∃ day ∈ exported table, exportKey pathPrefix table day = .ok key}

/-- What `register_table` selects. -/
def registered (table : ExportTable) (datePrefix : Option String) : Set (List Char) :=
  {key ∈ objects pathPrefix exported | listingPath pathPrefix table datePrefix <+: key}

/-- The day starts with the prefix, if there is one. -/
def StartsWith (datePrefix : Option String) (day : Int) : Prop :=
  ∀ d ∈ datePrefix, d.toList <+: dayText day

/-- The prefix, if there is one, is the whole day. -/
def IsDay (datePrefix : Option String) (day : Int) : Prop :=
  ∀ d ∈ datePrefix, d.toList = dayText day

/-- The objects of the table whose days start with the prefix. -/
def wanted (table : ExportTable) (datePrefix : Option String) : Set (List Char) :=
  {key | ∃ day ∈ exported table, StartsWith datePrefix day ∧ exportKey pathPrefix table day = .ok key}

/-- No segment of the prefix is empty. -/
def Whole : Prop := ∀ p ∈ pathPrefix, [] ∉ p.toList.splitOn '/'

end Agreement

/-! ## Segments -/

section Segments

variable {cs : List Char}

theorem not_mem_of_mem_splitOn {segment : List Char} (h : segment ∈ cs.splitOn '/') :
    '/' ∉ segment := by
  induction cs generalizing segment with
  | nil =>
    rw [List.splitOn_nil, List.mem_singleton] at h
    rw [h]
    exact List.not_mem_nil
  | cons c cs ih =>
    rw [List.splitOn_cons_eq_if_modifyHead] at h
    split at h
    · rcases List.mem_cons.mp h with rfl | hrest
      · exact List.not_mem_nil
      · exact ih hrest
    · rename_i hc
      obtain ⟨first, rest, hsplit⟩ := List.exists_cons_of_ne_nil (List.splitOn_ne_nil '/' cs)
      rw [hsplit] at ih h
      rcases List.mem_cons.mp h with rfl | hrest
      · rw [List.mem_cons, not_or]
        exact ⟨fun hslash => hc (beq_iff_eq.mpr hslash.symm), ih (List.mem_cons_self ..)⟩
      · exact ih (List.mem_cons_of_mem _ hrest)

/-- A path without empty segments is stored as it is. -/
theorem storePath_eq_self (h : [] ∉ cs.splitOn '/') : storePath cs = cs := by
  unfold storePath
  rw [List.filter_eq_self.mpr, List.intercalate_splitOn]
  intro segment hsegment
  cases segment with
  | nil => exact absurd hsegment h
  | cons c segment => rfl

/-- A stored path has no empty segment. -/
theorem nil_not_mem_splitOn_storePath {segment : List Char} (hsegment : segment ∈ cs.splitOn '/')
    (hne : segment ≠ []) : [] ∉ (storePath cs).splitOn '/' := by
  have hkept : segment ∈ (cs.splitOn '/').filter fun segment => !segment.isEmpty := by
    refine List.mem_filter.mpr ⟨hsegment, ?_⟩
    cases segment with
    | nil => exact absurd rfl hne
    | cons c segment => rfl
  -- What is joined is split into the same segments: none has a slash, and one is left.
  unfold storePath
  rw [List.splitOn_intercalate]
  · intro hnil
    have hfalse := (List.mem_filter.mp hnil).2
    cases hfalse
  · intro kept hkept
    exact not_mem_of_mem_splitOn (List.mem_filter.mp hkept).1
  · exact List.ne_nil_of_mem hkept

theorem slash_not_mem_dayText (day : Int) : '/' ∉ dayText day := by
  have hdigits : ∀ width n, '/' ∉ DateTime.padDigits width n := by
    intro width n hmem
    exact absurd (List.all_eq_true.mp (DateTime.padDigits_isTimeChar width n) _ hmem) (by decide)
  have hyear : ∀ year, '/' ∉ DateTime.yearChars year := by
    intro year hmem
    exact absurd (List.all_eq_true.mp (DateTime.yearChars_isTimeChar year) _ hmem) (by decide)
  simp [dayText, hdigits, hyear]

end Segments

section Keys

variable {pathPrefix : Option String} {exported : ExportTable → Set Int}
  {table table' : ExportTable} {datePrefix : Option String} {day : Int}

/-- What stands before the name of the table. -/
def folder (pathPrefix : Option String) : List Char :=
  match pathPrefix with
  | some p => p.toList ++ ['/']
  | none => []

def dateEquals : List Char := "date=".toList

/-- The name of the only part. -/
def partName : List Char := "part-0000.parquet".toList

/-- What comes after the folder in a listing. -/
def listed (table : ExportTable) (datePrefix : Option String) : List Char :=
  tableName table ++ '/' ::
    match datePrefix with
    | some d => dateEquals ++ (d.toList ++ ['/'])
    | none => []

/-- What comes after the folder in a key. -/
def fileOf (table : ExportTable) (day : Int) : List Char :=
  tableName table ++ '/' :: (dateEquals ++ (dayText day ++ '/' :: partName))

theorem listingPath_eq :
    listingPath pathPrefix table datePrefix = folder pathPrefix ++ listed table datePrefix := by
  unfold listingPath folder listed
  cases pathPrefix <;> cases datePrefix <;>
    simp only [List.append_assoc, List.cons_append, List.nil_append] <;> rfl

/-- The key of an object, when the prefix is not empty. -/
theorem hivePath_eq (h : pathPrefix ≠ some "") :
    hivePath pathPrefix table day 0 = folder pathPrefix ++ fileOf table day := by
  have hdate : "/date=".toList = '/' :: dateEquals := rfl
  have hpart : "/part-".toList ++ (DateTime.padDigits 4 0 ++ ".parquet".toList) =
      '/' :: partName := by decide
  unfold hivePath folder fileOf
  simp only [List.append_assoc, hdate, hpart, List.cons_append]
  cases pathPrefix with
  | none => rfl
  | some p =>
    have hne : p.isEmpty = false := by
      apply Bool.eq_false_iff.mpr
      intro hempty
      exact h (congrArg some (String.isEmpty_iff.mp hempty))
    simp only [hne, Bool.false_eq_true, if_false, List.append_assoc, List.singleton_append]

theorem splitOn_fileOf (table : ExportTable) (day : Int) :
    (fileOf table day).splitOn '/' = [tableName table, dateEquals ++ dayText day, partName] := by
  have hname : '/' ∉ tableName table := by
    cases table <;> decide
  have hdate : '/' ∉ dateEquals ++ dayText day := by
    rw [List.mem_append, not_or]
    exact ⟨by decide, slash_not_mem_dayText day⟩
  have hpart : '/' ∉ partName := by decide
  unfold fileOf
  rw [List.splitOn_append_cons_self_of_not_mem hname, ← List.append_assoc,
    List.splitOn_append_cons_self_of_not_mem hdate, List.splitOn_eq_singleton hpart]

/-- The segments of a path that starts with the folder. -/
theorem splitOn_folder (pathPrefix : Option String) (rest : List Char) :
    (folder pathPrefix ++ rest).splitOn '/' =
      (match pathPrefix with
        | some p => p.toList.splitOn '/'
        | none => []) ++ rest.splitOn '/' := by
  unfold folder
  cases pathPrefix with
  | none => rfl
  | some p =>
    rw [List.append_assoc, List.singleton_append]
    exact List.splitOn_append_cons_self _ _

theorem ne_empty_of_whole (h : Whole pathPrefix) : pathPrefix ≠ some "" := by
  rintro rfl
  exact h "" rfl (List.mem_singleton_self _)

theorem storePath_of_whole (h : Whole pathPrefix) :
    storePath (hivePath pathPrefix table day 0) = folder pathPrefix ++ fileOf table day := by
  rw [hivePath_eq (ne_empty_of_whole h)]
  apply storePath_eq_self
  rw [splitOn_folder, splitOn_fileOf, List.mem_append, not_or]
  constructor
  · cases pathPrefix with
    | none => exact List.not_mem_nil
    | some p => exact h p rfl
  · have hname : tableName table ≠ [] := by
      cases table <;> decide
    have hdate : dateEquals ++ dayText day ≠ [] := List.append_ne_nil_of_left_ne_nil (by decide) _
    have hpart : partName ≠ [] := by decide
    simp [hname.symm, hdate.symm, hpart.symm]

theorem partName_mem_splitOn (pathPrefix : Option String) (table : ExportTable) (day : Int) :
    partName ∈ (hivePath pathPrefix table day 0).splitOn '/' := by
  by_cases hempty : pathPrefix = some ""
  · have hnone : hivePath (some "") table day 0 = hivePath none table day 0 := rfl
    have hne : (none : Option String) ≠ some "" := (Option.some_ne_none "").symm
    rw [hempty, hnone, hivePath_eq hne, splitOn_folder, splitOn_fileOf]
    simp
  · rw [hivePath_eq hempty, splitOn_folder, splitOn_fileOf]
    simp

/-- A prefix with an empty segment is in no key. -/
theorem not_prefix_of_not_whole (h : ¬Whole pathPrefix) :
    ¬listingPath pathPrefix table datePrefix <+: storePath (hivePath pathPrefix table' day 0) := by
  rintro ⟨rest, hkey⟩
  have hnil := nil_not_mem_splitOn_storePath (partName_mem_splitOn pathPrefix table' day) (by decide)
  -- The listing has the empty segments of the prefix, and the key has none.
  rw [← hkey, listingPath_eq, List.append_assoc, splitOn_folder] at hnil
  apply h
  intro p hp hempty
  obtain rfl : pathPrefix = some p := hp
  exact hnil (List.mem_append_left _ hempty)

/-- The folder of a day is in the keys of that day alone. -/
theorem date_prefix_iff {d : List Char} :
    dateEquals ++ (d ++ ['/']) <+: dateEquals ++ (dayText day ++ '/' :: partName) ↔
      d = dayText day := by
  rw [List.prefix_append_right_inj]
  constructor
  · rintro ⟨rest, h⟩
    have hsegments := congrArg (List.splitOn '/') h
    rw [List.append_assoc, List.singleton_append, List.splitOn_append_cons_self,
      List.splitOn_append_cons_self_of_not_mem (slash_not_mem_dayText day),
      List.splitOn_eq_singleton (show '/' ∉ partName by decide)] at hsegments
    -- Of two segments, one is of the day and the other of what follows.
    have hlengths := congrArg List.length hsegments
    have hday := List.length_pos_of_ne_nil (List.splitOn_ne_nil '/' d)
    have hrest := List.length_pos_of_ne_nil (List.splitOn_ne_nil '/' rest)
    rw [List.length_append] at hlengths
    have hone : (d.splitOn '/').length = [dayText day].length := by
      simp only [List.length_cons, List.length_nil] at hlengths ⊢
      omega
    have hsplit : d.splitOn '/' = [dayText day] :=
      (List.append_inj (show d.splitOn '/' ++ _ = [dayText day] ++ [partName] from hsegments) hone).1
    have hjoined : ['/'].intercalate (d.splitOn '/') = d := List.intercalate_splitOn '/'
    rw [hsplit] at hjoined
    exact hjoined.symm.trans List.intercalate_singleton
  · rintro rfl
    exact ⟨partName, by simp⟩

theorem listed_prefix_iff :
    listed table datePrefix <+: fileOf table' day ↔ table = table' ∧ IsDay datePrefix day := by
  have hname : ∀ t, '/' ∉ tableName t := by
    intro t
    cases t <;> decide
  have hsame : ∀ {x y : List Char}, tableName table ++ '/' :: x <+: tableName table' ++ '/' :: y →
      table = table' ∧ x <+: y := by
    rintro x y ⟨rest, h⟩
    rw [List.append_assoc, List.cons_append] at h
    obtain ⟨htable, hrest⟩ := append_sep_inj (hname table) (hname table') h
    refine ⟨?_, rest, hrest⟩
    cases table <;> cases table' <;> first | rfl | exact absurd htable (by decide)
  constructor
  · intro h
    obtain ⟨htable, hrest⟩ := hsame h
    refine ⟨htable, ?_⟩
    rintro d hd
    obtain rfl : datePrefix = some d := hd
    exact date_prefix_iff.mp hrest
  · rintro ⟨rfl, hday⟩
    unfold listed fileOf
    rw [List.prefix_append_right_inj, List.cons_prefix_cons]
    refine ⟨rfl, ?_⟩
    cases datePrefix with
    | none => exact List.nil_prefix
    | some d => exact date_prefix_iff.mpr (hday d rfl)

theorem exportKey_eq_ok_iff {key : List Char} :
    exportKey pathPrefix table day = .ok key ↔
      validatePrefix pathPrefix = .ok () ∧ storePath (hivePath pathPrefix table day 0) = key := by
  unfold exportKey
  cases hvalid : validatePrefix pathPrefix with
  | error e => exact ⟨nofun, fun h => by cases h.1⟩
  | ok u => exact ⟨fun h => ⟨rfl, Except.ok.inj h⟩, fun h => congrArg Except.ok h.2⟩

/-- The keys that are written, when the prefix has no empty segment. -/
theorem exportKey_of_whole (h : Whole pathPrefix) {key : List Char}
    (hkey : exportKey pathPrefix table day = .ok key) :
    key = folder pathPrefix ++ fileOf table day := by
  rw [← (exportKey_eq_ok_iff.mp hkey).2, storePath_of_whole h]

theorem mem_registered_iff (h : Whole pathPrefix) {key : List Char} :
    key ∈ registered pathPrefix exported table datePrefix ↔
      ∃ day ∈ exported table, IsDay datePrefix day ∧ exportKey pathPrefix table day = .ok key := by
  have hunder : ∀ {t : ExportTable} {day : Int}, exportKey pathPrefix t day = .ok key →
      (listingPath pathPrefix table datePrefix <+: key ↔ table = t ∧ IsDay datePrefix day) := by
    intro t day hkey
    rw [exportKey_of_whole h hkey, listingPath_eq, List.prefix_append_right_inj,
      listed_prefix_iff]
  constructor
  · rintro ⟨⟨t, day, hday, hkey⟩, hlisted⟩
    obtain ⟨rfl, his⟩ := (hunder hkey).mp hlisted
    exact ⟨day, hday, his, hkey⟩
  · rintro ⟨day, hday, his, hkey⟩
    exact ⟨⟨table, day, hday, hkey⟩, (hunder hkey).mpr ⟨rfl, his⟩⟩

/-- A prefix with an empty segment selects nothing. -/
theorem registered_of_not_whole (h : ¬Whole pathPrefix) :
    registered pathPrefix exported table datePrefix = ∅ := by
  apply Set.eq_empty_of_forall_notMem
  rintro key ⟨⟨t, day, -, hkey⟩, hlisted⟩
  rw [← (exportKey_eq_ok_iff.mp hkey).2] at hlisted
  exact not_prefix_of_not_whole h hlisted

theorem IsDay.startsWith (h : IsDay datePrefix day) : StartsWith datePrefix day := by
  intro d hd
  rw [h d hd]

end Keys

/-- **The paths of the reader and of the exporter.** What a listing selects are the objects wanted,
exactly when there are none, or when the prefix has no empty segment and every exported day of the
table that starts with the date prefix is the date prefix. -/
theorem paths_agree_iff (pathPrefix : Option String) (exported : ExportTable → Set Int)
    (table : ExportTable) (datePrefix : Option String) :
    registered pathPrefix exported table datePrefix = wanted pathPrefix exported table datePrefix ↔
      wanted pathPrefix exported table datePrefix = ∅ ∨
      Whole pathPrefix ∧ ∀ day ∈ exported table, StartsWith datePrefix day → IsDay datePrefix day := by
  by_cases hwhole : Whole pathPrefix
  · constructor
    · intro h
      by_cases hvalid : validatePrefix pathPrefix = .ok ()
      · refine .inr ⟨hwhole, ?_⟩
        intro day hday hstarts
        have hkey : exportKey pathPrefix table day =
            .ok (storePath (hivePath pathPrefix table day 0)) :=
          exportKey_eq_ok_iff.mpr ⟨hvalid, rfl⟩
        -- The object of the day is selected, as one of a day that is the date prefix.
        have hmem : storePath (hivePath pathPrefix table day 0) ∈
            registered pathPrefix exported table datePrefix := h ▸ ⟨day, hday, hstarts, hkey⟩
        obtain ⟨day', -, his, hkey'⟩ := (mem_registered_iff hwhole).mp hmem
        have hsame := (exportKey_of_whole hwhole hkey).symm.trans (exportKey_of_whole hwhole hkey')
        have hdays : dayText day = dayText day' := by
          simpa [fileOf] using hsame
        intro d hd
        rw [his d hd, hdays]
      · -- Under a prefix that is refused nothing is written.
        left
        apply Set.eq_empty_of_forall_notMem
        rintro key ⟨day, -, -, hkey⟩
        exact hvalid (exportKey_eq_ok_iff.mp hkey).1
    · rintro (hnone | ⟨-, hdays⟩)
      · rw [hnone]
        apply Set.eq_empty_of_forall_notMem
        intro key hkey
        obtain ⟨day, hday, his, hwritten⟩ := (mem_registered_iff hwhole).mp hkey
        have hmem : key ∈ wanted pathPrefix exported table datePrefix :=
          ⟨day, hday, his.startsWith, hwritten⟩
        rw [hnone] at hmem
        exact hmem
      · ext key
        rw [mem_registered_iff hwhole]
        constructor
        · rintro ⟨day, hday, his, hkey⟩
          exact ⟨day, hday, his.startsWith, hkey⟩
        · rintro ⟨day, hday, hstarts, hkey⟩
          exact ⟨day, hday, hdays day hday hstarts, hkey⟩
  · rw [registered_of_not_whole hwhole]
    constructor
    · exact fun h => .inl h.symm
    · rintro (hnone | ⟨h, -⟩)
      · exact hnone.symm
      · exact absurd h hwhole

/-- The day 2024-06-15 has been exported, and the reader is asked for its month. -/
theorem not_paths_agree :
    ¬∀ (pathPrefix : Option String) (exported : ExportTable → Set Int) (table : ExportTable)
      (datePrefix : Option String),
      registered pathPrefix exported table datePrefix =
        wanted pathPrefix exported table datePrefix := by
  intro h
  have hkey : exportKey none .events 19889 = .ok "events/date=2024-06-15/part-0000.parquet".toList := by
    decide +kernel
  have hstarts : StartsWith (some "2024-06") 19889 := by
    intro d hd
    rw [← Option.some.inj hd]
    decide +kernel
  have hmem : "events/date=2024-06-15/part-0000.parquet".toList ∈
      wanted none (fun _ => {19889}) .events (some "2024-06") := ⟨19889, rfl, hstarts, hkey⟩
  rw [← h] at hmem
  exact absurd hmem.2 (by decide +kernel)

end Datacat.Export
