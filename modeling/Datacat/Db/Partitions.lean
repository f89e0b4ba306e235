import Datacat.Basics.Calendar
import Datacat.Db.Retention

/-!
# Partitions by Name

A daily partition is known by its name, which ends with the digits of its day. The purge selects
the partitions of a table by the pattern of their names, compares the digits as texts with those
of the cutoff, and drops tables by name.

From year 1 to year 9999 the order of the digits is the one of the days. A year before has no sign
in its digits, and a later one has more of them.

## Main results

- `yyyymmdd_lt_iff`: the order of the digits, in terms of the dates.
- `dropBefore_spec`: what a purge drops.
- `dropsExactly_iff`: when the purge drops the partitions before the cutoff and nothing else.
-/

namespace Datacat

open Basics

/-- The partitioned table of a domain. -/
def Domain.tableName : Domain → String
  | .events => "events"
  | .logs => "logs"
  | .traces => "spans"
  | .metrics => "metric_points"

theorem Domain.tableName_injective : Function.Injective Domain.tableName := by
  intro d d' h
  cases d <;> cases d' <;> first | rfl | exact absurd h (by decide)

/-- What the names of its partitions begin with. -/
def Domain.partitionPrefix (d : Domain) : String := d.tableName ++ "_p"

namespace Db

open DateTime

/-! ## Names -/

/-- The year as `YYYY` prints it: the year before year 1 is the first one before Christ, and there
is no sign. -/
def printedYear (year : Int) : Nat := if year ≤ 0 then (1 - year).toNat else year.toNat

def dayChars (day : Int) : List Char :=
  let date := civilFromDays day
  padDigits 4 (printedYear date.1) ++ (padDigits 2 date.2.1.toNat ++ padDigits 2 date.2.2.toNat)

/-- `to_char(p_day, 'YYYYMMDD')`. -/
def yyyymmdd (day : Int) : String := String.ofList (dayChars day)

/-- `format('events_p%s', …)`. -/
def partitionName (d : Domain) (day : Int) : String := d.partitionPrefix ++ yyyymmdd day

/-- The name is matched by `^events_p[0-9]{8}$`. -/
def isPartitionName (d : Domain) (name : String) : Bool :=
  let start := d.partitionPrefix.toList
  let digits := name.toList.drop start.length
  start.isPrefixOf name.toList && decide (digits.length = 8) && digits.all Char.isDigit

/-- Where the pattern `events_p([0-9]{8})` is found first, its digits. -/
def firstDigits (start : List Char) : List Char → Option (List Char)
  | [] => none
  | c :: cs =>
    let digits := ((c :: cs).drop start.length).take 8
    if start.isPrefixOf (c :: cs) ∧ digits.length = 8 ∧ digits.all Char.isDigit then some digits
    else firstDigits start cs

/-- `substring(c.relname FROM 'events_p([0-9]{8})')`. -/
def substringDigits (d : Domain) (name : String) : Option String :=
  (firstDigits d.partitionPrefix.toList name.toList).map String.ofList

/-! ## The catalogue -/

/-- A relation with the table that it is a partition of, and the days from the first to before the
second that it holds. -/
structure Relation where
  name : String
  parent : Option String
  days : Option (Int × Int)
deriving DecidableEq

/-- What `datacat_ensure_partition` creates for a day. -/
def dailyPartition (d : Domain) (day : Int) : Relation where
  name := partitionName d day
  parent := some d.tableName
  days := some (day, day + 1)

/-- The year is from 1 to 9999. -/
def FourDigits (day : Int) : Prop := 1 ≤ (civilFromDays day).1 ∧ (civilFromDays day).1 ≤ 9999

/-- The relations of a schema. Those that belong to a table of a domain are daily partitions of
years from 1 to 9999. -/
structure Catalogue where
  relations : List Relation
  nodup : (relations.map Relation.name).Nodup
  daily : ∀ r ∈ relations, ∀ d : Domain, r.parent = some d.tableName →
    ∃ day, FourDigits day ∧ r = dailyPartition d day

/-- `datacat_ensure_partition`. -/
def ensurePartition (d : Domain) (day : Int) (relations : List Relation) : List Relation :=
  if relations.any fun r => decide (r.name = partitionName d day) then relations
  else dailyPartition d day :: relations

/-- The names that the loop of a purge goes through. -/
def selectBefore (d : Domain) (cutoff : String) (relations : List Relation) : List String :=
  (relations.filter fun r =>
    decide (r.parent = some d.tableName) && isPartitionName d r.name &&
      (substringDigits d r.name).any fun digits => decide (digits < cutoff)).map Relation.name

/-- `DROP TABLE IF EXISTS`. -/
def dropTable (relations : List Relation) (name : String) : List Relation :=
  relations.filter fun r => decide (r.name ≠ name)

section Purge

variable (printable : Int → Bool)

/-- The body of the four functions: how many partitions are dropped, and the relations that stay.
The cutoff is printed in the time zone of the session, and an error leaves everything. -/
def dropBefore (d : Domain) (cutoff : Int) (relations : List Relation) :
    Option Nat × List Relation :=
  if printable cutoff then
    let names := selectBefore d (yyyymmdd cutoff) relations
    (some names.length, names.foldl dropTable relations)
  else (none, relations)

/-- `datacat_drop_partitions_before`. -/
def dropPartitionsBefore := dropBefore printable .events

/-- `datacat_drop_log_partitions_before`. -/
def dropLogPartitionsBefore := dropBefore printable .logs

/-- `datacat_drop_span_partitions_before`. -/
def dropSpanPartitionsBefore := dropBefore printable .traces

/-- `datacat_drop_metric_partitions_before`. -/
def dropMetricPartitionsBefore := dropBefore printable .metrics

/-- `purge_old_partitions` and its three variants; `chrono` cannot represent some cutoffs. -/
def purgeOldPartitions (d : Domain) (today retentionDays : Int) (relations : List Relation) :
    Option Nat × List Relation :=
  let cutoff := today - retentionDays
  if daysFromCivil (-262143) 1 1 ≤ cutoff ∧ cutoff < daysFromCivil 262143 1 1 then
    match d with
    | .events => dropPartitionsBefore printable cutoff relations
    | .logs => dropLogPartitionsBefore printable cutoff relations
    | .traces => dropSpanPartitionsBefore printable cutoff relations
    | .metrics => dropMetricPartitionsBefore printable cutoff relations
  else (none, relations)

end Purge

/-! ## The order of the digits -/

section Digits

variable {day cutoff : Int}

/-- The number that the digits of a day make. -/
def printedNumber (day : Int) : Nat :=
  printedYear (civilFromDays day).1 * 10000 + (civilFromDays day).2.1.toNat * 100 +
    (civilFromDays day).2.2.toNat

/-- How many digits of the year there are beyond four. -/
def extraDigits (day : Int) : Nat :=
  (toString (printedYear (civilFromDays day).1)).toList.length - 4

theorem isDigit_dayChars (day : Int) : (dayChars day).all Char.isDigit = true := by
  simp only [dayChars, List.all_append, isDigit_padDigits, Bool.and_self]

theorem length_monthDay (day : Int) :
    (padDigits 2 (civilFromDays day).2.1.toNat).length = 2 ∧
      (padDigits 2 (civilFromDays day).2.2.toNat).length = 2 := by
  obtain ⟨-, hmonth⟩ := month_range day
  obtain ⟨-, hday⟩ := day_range day
  constructor
  · exact length_padDigits_of_lt (by decide) (by omega)
  · exact length_padDigits_of_lt (by decide) (by omega)

theorem length_dayChars (day : Int) : (dayChars day).length = 8 + extraDigits day := by
  obtain ⟨hmonth, hday⟩ := length_monthDay day
  simp only [dayChars, List.length_append, length_padDigits 4, hmonth, hday, extraDigits]
  omega

theorem digitsValue_dayChars (day : Int) : digitsValue (dayChars day) = printedNumber day := by
  obtain ⟨hmonth, hday⟩ := length_monthDay day
  simp only [dayChars, digitsValue_append, digitsValue_padDigits, List.length_append, hmonth,
    hday, printedNumber]
  omega

theorem extraDigits_of_fourDigits (h : FourDigits day) : extraDigits day = 0 := by
  have hyear : printedYear (civilFromDays day).1 < 10 ^ 4 := by
    have := h.1
    have := h.2
    unfold printedYear
    split <;> omega
  have hlength := (Nat.length_toDigits_le_iff (by decide) (by decide)).mpr hyear
  unfold extraDigits
  rw [show (toString (printedYear (civilFromDays day).1)).toList = Nat.toDigits 10 _ from
    Nat.toList_repr]
  omega

theorem printedNumber_of_fourDigits (h : 1 ≤ (civilFromDays day).1) :
    (printedNumber day : Int) = dateNumber day := by
  have hmonth := (month_range day).1
  have hday := (day_range day).1
  unfold printedNumber printedYear dateNumber
  rw [if_neg (by omega)]
  push_cast
  omega

/-- The digits of a day come before those of the cutoff, as numbers: as many of the first digits are
compared as the day has. -/
def SpelledBefore (day cutoff : Int) : Prop :=
  if extraDigits cutoff = 0 then dateNumber day < printedNumber cutoff
  else dateNumber day * 10 ^ extraDigits cutoff ≤ printedNumber cutoff

instance (day cutoff : Int) : Decidable (SpelledBefore day cutoff) := by
  unfold SpelledBefore
  infer_instance

/-- **The order of the digits.** -/
theorem yyyymmdd_lt_iff (h : FourDigits day) :
    yyyymmdd day < yyyymmdd cutoff ↔ SpelledBefore day cutoff := by
  have hlength := length_dayChars day
  rw [extraDigits_of_fourDigits h] at hlength
  have hcutoff := length_dayChars cutoff
  have hnumber := printedNumber_of_fourDigits h.1
  rw [yyyymmdd, yyyymmdd, String.lt_iff_toList_lt, String.toList_ofList, String.toList_ofList,
    digits_lt_iff (isDigit_dayChars day) (isDigit_dayChars cutoff) (by omega),
    digitsValue_take (isDigit_dayChars cutoff), digitsValue_dayChars, digitsValue_dayChars,
    List.length_drop, hlength, hcutoff, Nat.add_zero, Nat.add_sub_cancel_left]
  unfold SpelledBefore
  rw [← hnumber]
  split
  · rename_i hextra
    rw [hextra, pow_zero, Nat.div_one]
    omega
  · rename_i hextra
    have hpos : 0 < 10 ^ extraDigits cutoff := by positivity
    have hle : (printedNumber day : Int) * 10 ^ extraDigits cutoff ≤ printedNumber cutoff ↔
        printedNumber day ≤ printedNumber cutoff / 10 ^ extraDigits cutoff := by
      rw [Nat.le_div_iff_mul_le hpos]
      exact_mod_cast Iff.rfl
    rw [hle]
    omega

end Digits

/-! ## What is selected -/

section Names

variable {d : Domain} {day cutoff : Int}

theorem firstDigits_append {start digits : List Char} (hlength : digits.length = 8)
    (hall : digits.all Char.isDigit = true) : firstDigits start (start ++ digits) = some digits := by
  cases hcs : start ++ digits with
  | nil =>
    have hnil := (List.append_eq_nil_iff.mp hcs).2
    rw [hnil] at hlength
    cases hlength
  | cons c cs =>
    unfold firstDigits
    dsimp only
    rw [← hcs, List.drop_left, List.take_of_length_le hlength.le]
    exact if_pos ⟨List.isPrefixOf_iff_prefix.mpr (List.prefix_append _ _), hlength, hall⟩

theorem toList_partitionName (d : Domain) (day : Int) :
    (partitionName d day).toList = d.partitionPrefix.toList ++ dayChars day := by
  rw [partitionName, String.toList_append, yyyymmdd, String.toList_ofList]

theorem length_of_fourDigits (h : FourDigits day) : (dayChars day).length = 8 := by
  rw [length_dayChars, extraDigits_of_fourDigits h]

theorem isPartitionName_partitionName (h : FourDigits day) :
    isPartitionName d (partitionName d day) = true := by
  unfold isPartitionName
  dsimp only
  rw [toList_partitionName, List.drop_left, decide_eq_true (length_of_fourDigits h),
    isDigit_dayChars, List.isPrefixOf_iff_prefix.mpr (List.prefix_append _ _)]
  rfl

theorem substringDigits_partitionName (h : FourDigits day) :
    substringDigits d (partitionName d day) = some (yyyymmdd day) := by
  rw [substringDigits, toList_partitionName,
    firstDigits_append (length_of_fourDigits h) (isDigit_dayChars day)]
  rfl

/-- Of the daily partitions of its table, a purge selects those spelled before the cutoff. -/
theorem mem_selectBefore {C : Catalogue} {name : String} :
    name ∈ selectBefore d (yyyymmdd cutoff) C.relations ↔
      ∃ day, FourDigits day ∧ dailyPartition d day ∈ C.relations ∧ SpelledBefore day cutoff ∧
        name = partitionName d day := by
  unfold selectBefore
  rw [List.mem_map]
  constructor
  · rintro ⟨r, hr, rfl⟩
    obtain ⟨hmem, hselected⟩ := List.mem_filter.mp hr
    simp only [Bool.and_eq_true, decide_eq_true_eq] at hselected
    obtain ⟨day, hday, rfl⟩ := C.daily r hmem d hselected.1.1
    have hlt := hselected.2
    rw [show (dailyPartition d day).name = partitionName d day from rfl,
      substringDigits_partitionName hday, Option.any_some, decide_eq_true_eq] at hlt
    exact ⟨day, hday, hmem, (yyyymmdd_lt_iff hday).mp hlt, rfl⟩
  · rintro ⟨day, hday, hmem, hbefore, rfl⟩
    refine ⟨dailyPartition d day, List.mem_filter.mpr ⟨hmem, ?_⟩, rfl⟩
    rw [show (dailyPartition d day).name = partitionName d day from rfl,
      isPartitionName_partitionName hday, substringDigits_partitionName hday, Option.any_some,
      decide_eq_true ((yyyymmdd_lt_iff hday).mpr hbefore)]
    simp [dailyPartition]

/-- A partition is of the day of its rows. -/
theorem dailyPartition_inj {d d' : Domain} {day day' : Int}
    (h : dailyPartition d day = dailyPartition d' day') : d = d' ∧ day = day' := by
  refine ⟨Domain.tableName_injective (Option.some.inj (congrArg Relation.parent h)), ?_⟩
  exact (Prod.mk.inj (Option.some.inj (congrArg Relation.days h))).1

theorem fourDigits_of_mem {C : Catalogue} (h : dailyPartition d day ∈ C.relations) :
    FourDigits day := by
  obtain ⟨day', hday', heq⟩ := C.daily _ h d rfl
  rw [(dailyPartition_inj heq).2]
  exact hday'

theorem mem_foldl_dropTable {names : List String} {relations : List Relation} {r : Relation} :
    r ∈ names.foldl dropTable relations ↔ r ∈ relations ∧ r.name ∉ names := by
  induction names generalizing relations with
  | nil => simp
  | cons name names ih =>
    rw [List.foldl_cons, ih, dropTable, List.mem_filter, decide_eq_true_eq, List.mem_cons, not_or,
      and_assoc]

/-- **What a purge drops.** The daily partitions of its table that are spelled before the cutoff,
provided the cutoff can be printed. -/
theorem dropBefore_spec (printable : Int → Bool) (C : Catalogue) {r : Relation} :
    r ∈ (dropBefore printable d cutoff C.relations).2 ↔
      r ∈ C.relations ∧ ¬(printable cutoff = true ∧
        ∃ day, FourDigits day ∧ SpelledBefore day cutoff ∧ r = dailyPartition d day) := by
  unfold dropBefore
  split
  · rename_i hprint
    rw [mem_foldl_dropTable]
    refine and_congr_right fun hr => not_congr ?_
    rw [mem_selectBefore]
    constructor
    · rintro ⟨day, hday, hmem, hbefore, hname⟩
      -- Names are distinct in the schema.
      exact ⟨hprint, day, hday, hbefore, List.inj_on_of_nodup_map C.nodup hr hmem hname⟩
    · rintro ⟨-, day, hday, hbefore, rfl⟩
      exact ⟨day, hday, hr, hbefore, rfl⟩
  · rename_i hprint
    simp [hprint]

end Names

/-! ## The catalogue after a step -/

section Steps

variable {d : Domain} {day cutoff : Int} {printable : Int → Bool}

theorem dropBefore_sublist (relations : List Relation) :
    (dropBefore printable d cutoff relations).2.Sublist relations := by
  unfold dropBefore
  split
  · dsimp only
    generalize selectBefore d (yyyymmdd cutoff) relations = names
    induction names generalizing relations with
    | nil => exact List.Sublist.refl _
    | cons name names ih => exact (ih _).trans List.filter_sublist
  · exact List.Sublist.refl _

/-- The catalogue after a purge. -/
def Catalogue.purge (C : Catalogue) (printable : Int → Bool) (d : Domain) (cutoff : Int) :
    Catalogue where
  relations := (dropBefore printable d cutoff C.relations).2
  nodup := ((dropBefore_sublist C.relations).map Relation.name).nodup C.nodup
  daily r hr := C.daily r ((dropBefore_sublist C.relations).subset hr)

/-- The catalogue when the partition of a day exists. -/
def Catalogue.ensure (C : Catalogue) (d : Domain) (day : Int) (h : FourDigits day) : Catalogue where
  relations := ensurePartition d day C.relations
  nodup := by
    unfold ensurePartition
    split
    · exact C.nodup
    · rename_i hnone
      rw [List.map_cons, List.nodup_cons]
      refine ⟨fun hmem => hnone ?_, C.nodup⟩
      obtain ⟨r, hr, hname⟩ := List.mem_map.mp hmem
      exact List.any_eq_true.mpr ⟨r, hr, decide_eq_true hname⟩
  daily r hr d' hparent := by
    unfold ensurePartition at hr
    split at hr
    · exact C.daily r hr d' hparent
    · rcases List.mem_cons.mp hr with rfl | hr
      · obtain rfl := Domain.tableName_injective (Option.some.inj hparent)
        exact ⟨day, h, rfl⟩
      · exact C.daily r hr d' hparent

/-- A purge of the process drops what one of the functions does for the day of its cutoff, or
nothing. -/
theorem purgeOldPartitions_eq (printable : Int → Bool) (d : Domain) (today retentionDays : Int)
    (relations : List Relation) :
    purgeOldPartitions printable d today retentionDays relations =
        dropBefore printable d (today - retentionDays) relations ∨
      purgeOldPartitions printable d today retentionDays relations = (none, relations) := by
  unfold purgeOldPartitions
  dsimp only
  split
  · left
    cases d <;> rfl
  · exact .inr rfl

end Steps

/-! ## Purges that are exact -/

section Exact

variable {d : Domain} {day cutoff : Int} {printable : Int → Bool}

/-- There is a partition for the rows of a day. -/
def Holds (d : Domain) (day : Int) (relations : List Relation) : Prop :=
  ∃ r ∈ relations, r.parent = some d.tableName ∧
    ∃ first last, r.days = some (first, last) ∧ first ≤ day ∧ day < last

/-- The partitions before the cutoff go and nothing else does: no other relation, and no row of
another table or of a day from the cutoff on. -/
structure DropsExactly (d : Domain) (cutoff : Int) (before after : List Relation) : Prop where
  partitions : ∀ day, dailyPartition d day ∈ before →
    (dailyPartition d day ∈ after ↔ cutoff ≤ day)
  others : ∀ r, r.parent ≠ some d.tableName → (r ∈ after ↔ r ∈ before)
  subset : ∀ r ∈ after, r ∈ before
  rows : ∀ (d' : Domain) (stamp : DateTime → DateTime) (row : d'.Row),
    Holds d' (d'.day stamp row) before → (d' = d → cutoff ≤ d'.day stamp row) →
      Holds d' (d'.day stamp row) after

/-- The cutoff is of the years 1 to 9999 or, for the digits of the day, it does not matter that it
is not: before Christ it has the digits of a year of our era, and beyond year 9999 more digits. -/
def Legible (printable : Int → Bool) (cutoff day : Int) : Prop :=
  if printable cutoff = true then
    if (civilFromDays cutoff).1 < 1 then ¬SpelledBefore day cutoff
    else (civilFromDays cutoff).1 ≤ 9999 ∨ SpelledBefore day cutoff
  else cutoff ≤ day

theorem year_le_of_le {a b : Int} (h : a ≤ b) : (civilFromDays a).1 ≤ (civilFromDays b).1 := by
  have hle := dateNumber_strictMono.monotone h
  have := month_range a
  have := month_range b
  have := day_range a
  have := day_range b
  unfold dateNumber at hle
  omega

theorem spelledBefore_iff (h : FourDigits cutoff) : SpelledBefore day cutoff ↔ day < cutoff := by
  unfold SpelledBefore
  rw [if_pos (extraDigits_of_fourDigits h), printedNumber_of_fourDigits h.1, dateNumber_lt_iff]

theorem legible_iff (h : FourDigits day) :
    Legible printable cutoff day ↔
      ((printable cutoff = true ∧ SpelledBefore day cutoff) ↔ day < cutoff) := by
  unfold Legible
  split
  · rename_i hprint
    simp only [hprint, true_and]
    split
    · rename_i hyear
      have hle : ¬day < cutoff := fun hlt => by
        have := year_le_of_le hlt.le
        have := h.1
        omega
      simp only [hle, iff_false]
    · rename_i hyear
      by_cases hlast : (civilFromDays cutoff).1 ≤ 9999
      · simp only [hlast, true_or, spelledBefore_iff ⟨not_lt.mp hyear, hlast⟩]
      · have hlt : day < cutoff := by
          by_contra hle
          have := year_le_of_le (not_lt.mp hle)
          have := h.2
          omega
        simp only [hlast, false_or, hlt, iff_true]
  · rename_i hprint
    simp [hprint]

theorem mem_dropBefore_daily {C : Catalogue} (hmem : dailyPartition d day ∈ C.relations) :
    dailyPartition d day ∈ (dropBefore printable d cutoff C.relations).2 ↔
      ¬(printable cutoff = true ∧ SpelledBefore day cutoff) := by
  rw [dropBefore_spec]
  constructor
  · rintro ⟨-, hnot⟩ ⟨hprint, hbefore⟩
    exact hnot ⟨hprint, day, fourDigits_of_mem hmem, hbefore, rfl⟩
  · rintro hnot
    refine ⟨hmem, ?_⟩
    rintro ⟨hprint, day', -, hbefore, heq⟩
    rw [← (dailyPartition_inj heq).2] at hbefore
    exact hnot ⟨hprint, hbefore⟩

/-- Relations that do not belong to the table stay. -/
theorem mem_dropBefore_other {C : Catalogue} {r : Relation} (h : r.parent ≠ some d.tableName) :
    r ∈ (dropBefore printable d cutoff C.relations).2 ↔ r ∈ C.relations := by
  rw [dropBefore_spec, and_iff_left]
  rintro ⟨-, day, -, -, rfl⟩
  exact h rfl

/-- **Exact purges.** Whatever the partitions, the purge of a table with a retention in days is exact
if and only if the digits of each of its partitions are told from those of the cutoff. -/
theorem dropsExactly_iff (C : Catalogue) (printable : Int → Bool) (d : Domain)
    (today retentionDays : Int) :
    DropsExactly d (today - retentionDays) C.relations
        (dropBefore printable d (today - retentionDays) C.relations).2 ↔
      ∀ day, dailyPartition d day ∈ C.relations →
        Legible printable (today - retentionDays) day := by
  generalize today - retentionDays = cutoff
  constructor
  · intro h day hmem
    rw [legible_iff (fourDigits_of_mem hmem), ← not_iff_not, ← mem_dropBefore_daily hmem, not_lt]
    exact h.partitions day hmem
  · intro h
    have hstays : ∀ day, dailyPartition d day ∈ C.relations →
        (dailyPartition d day ∈ (dropBefore printable d cutoff C.relations).2 ↔ cutoff ≤ day) := by
      intro day hmem
      rw [mem_dropBefore_daily hmem, (legible_iff (fourDigits_of_mem hmem)).mp (h day hmem), not_lt]
    refine ⟨hstays, fun r hr => mem_dropBefore_other hr,
      fun r hr => (dropBefore_sublist C.relations).subset hr, ?_⟩
    rintro d' stamp row ⟨r, hr, hparent, first, last, hdays, hfirst, hlast⟩ hcutoff
    refine ⟨r, ?_, hparent, first, last, hdays, hfirst, hlast⟩
    obtain ⟨day, -, rfl⟩ := C.daily r hr d' hparent
    by_cases hd : d' = d
    · subst hd
      apply (hstays day hr).mpr
      -- The one day of the partition is the one of the row.
      obtain ⟨rfl, rfl⟩ := Prod.mk.inj (Option.some.inj hdays)
      have := hcutoff rfl
      omega
    · apply (mem_dropBefore_other ?_).mpr hr
      exact fun heq => hd (Domain.tableName_injective (Option.some.inj heq))

/-- A purge by names is the one by days of `Store.purge`, where the digits are told apart. -/
theorem purge_simulates {C : Catalogue} {stamp : DateTime → DateTime} {s : Store d stamp}
    (hdays : ∀ day, day ∈ s.partitions ↔ dailyPartition d day ∈ C.relations)
    (hlegible : ∀ day, dailyPartition d day ∈ C.relations → Legible printable cutoff day) :
    ∀ day, day ∈ (s.purge cutoff).partitions ↔
      dailyPartition d day ∈ (C.purge printable d cutoff).relations := by
  have hexact := (dropsExactly_iff C printable d cutoff 0).mpr
  rw [Int.sub_zero] at hexact
  intro day
  rw [Store.purge, List.mem_filter, decide_eq_true_eq, hdays]
  constructor
  · rintro ⟨hmem, hle⟩
    exact ((hexact hlegible).partitions day hmem).mpr hle
  · intro hafter
    have hmem := (hexact hlegible).subset _ hafter
    exact ⟨hmem, ((hexact hlegible).partitions day hmem).mp hafter⟩

end Exact

/-! ## A retention of two million days -/

/-- The dates that the server prints in a session whose time zone is UTC, from its first one to the
last one with an instant. -/
def printableInUtc (day : Int) : Bool := decide (-2440588 ≤ day ∧ day < 106762940)

/-- The partition of the first of October 2026. -/
def octoberFirst : Catalogue where
  relations := [dailyPartition .events 20727]
  nodup := List.nodup_singleton _
  daily r hr d hparent := by
    obtain rfl := List.mem_singleton.mp hr
    obtain rfl := Domain.tableName_injective (Option.some.inj hparent)
    exact ⟨20727, ⟨by decide, by decide⟩, rfl⟩

/-- On that day the cutoff is in year 3451 before Christ, and the partition of the day goes. -/
theorem not_dropsExactly_octoberFirst :
    ¬DropsExactly .events (20727 - 2000000) octoberFirst.relations
      (purgeOldPartitions printableInUtc .events 20727 2000000 octoberFirst.relations).2 := by
  intro h
  have hgone : dailyPartition .events 20727 ∉
      (purgeOldPartitions printableInUtc .events 20727 2000000 octoberFirst.relations).2 := by
    decide +kernel
  exact hgone ((h.partitions 20727 (List.mem_singleton_self _)).mpr (by decide))

end Db

end Datacat
