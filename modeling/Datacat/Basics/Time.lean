import Mathlib
import Datacat.Basics.Text

/-!
# Instants and Durations

An instant is a number of nanoseconds since the Unix epoch inside the range of the calendar
library (years -262143 to 262142); a duration is a number of nanoseconds. The operations that
can leave the range return an `Option`, whose `none` is the panic of the unchecked operator.
Leap seconds are not represented: no instant built here from a count of nanoseconds has one.
-/

namespace Datacat.Basics

/-- `DateTime<Utc>`, in nanoseconds since the Unix epoch. -/
structure DateTime where
  nanos : Int
deriving DecidableEq, Repr

namespace DateTime

theorem nanos_injective : Function.Injective DateTime.nanos := by
  rintro ⟨a⟩ ⟨b⟩ rfl
  rfl

instance : LinearOrder DateTime := LinearOrder.lift' DateTime.nanos nanos_injective

def nanosPerSec : Int := 1000000000

def secsPerDay : Int := 86400

/-! ## The calendar -/

/-- Days from 1970-01-01 to a date of the proleptic Gregorian calendar. -/
def daysFromCivil (year month day : Int) : Int :=
  let y := if month ≤ 2 then year - 1 else year
  let era := y / 400
  let yearOfEra := y - era * 400
  let monthIndex := (month + 9) % 12
  let dayOfYear := (153 * monthIndex + 2) / 5 + day - 1
  let dayOfEra := yearOfEra * 365 + yearOfEra / 4 - yearOfEra / 100 + dayOfYear
  era * 146097 + dayOfEra - 719468

/-- Year, month and day of a number of days since 1970-01-01. -/
def civilFromDays (days : Int) : Int × Int × Int :=
  let z := days + 719468
  let era := z / 146097
  let dayOfEra := z - era * 146097
  let yearOfEra := (dayOfEra - dayOfEra / 1460 + dayOfEra / 36524 - dayOfEra / 146096) / 365
  let dayOfYear := dayOfEra - (365 * yearOfEra + yearOfEra / 4 - yearOfEra / 100)
  let monthIndex := (5 * dayOfYear + 2) / 153
  let day := dayOfYear - (153 * monthIndex + 2) / 5 + 1
  let month := if monthIndex < 10 then monthIndex + 3 else monthIndex - 9
  let year := yearOfEra + era * 400
  (if month ≤ 2 then year + 1 else year, month, day)

example : civilFromDays (daysFromCivil 2024 2 29) = (2024, 2, 29) := by decide

/-- First instant of the range, the first of January of year -262143. -/
def minUtc : DateTime := ⟨daysFromCivil (-262143) 1 1 * secsPerDay * nanosPerSec⟩

/-- Last instant of the range, the end of year 262142. -/
def maxUtc : DateTime := ⟨daysFromCivil 262143 1 1 * secsPerDay * nanosPerSec - 1⟩

def inRange (t : DateTime) : Bool := decide (minUtc ≤ t) && decide (t ≤ maxUtc)

/-! ## Arithmetic -/

/-- `DateTime::from_timestamp`. -/
def fromTimestamp (secs : Int) (nsecs : Nat) : Option DateTime :=
  let t : DateTime := ⟨secs * nanosPerSec + nsecs⟩
  if t.inRange then some t else none

/-- `chrono::Duration::from_std`: at most `i64::MAX` milliseconds. -/
def fromStd (nanos : Nat) : Option Int :=
  if nanos ≤ (2 ^ 63 - 1) * 1000000 then some nanos else none

/-- Addition of a duration; the operator panics outside the range. -/
def checkedAdd (t : DateTime) (delta : Int) : Option DateTime :=
  let sum : DateTime := ⟨t.nanos + delta⟩
  if sum.inRange then some sum else none

theorem checkedAdd_eq_some_iff {t t' : DateTime} {delta : Int} :
    t.checkedAdd delta = some t' ↔ t'.inRange = true ∧ t' = ⟨t.nanos + delta⟩ := by
  unfold checkedAdd
  rw [Option.ite_none_right_eq_some]
  constructor
  · rintro ⟨hrange, h⟩
    obtain rfl := Option.some.inj h
    exact ⟨hrange, rfl⟩
  · rintro ⟨hrange, rfl⟩
    exact ⟨hrange, rfl⟩

/-- `timestamp_nanos_opt`: the nanoseconds when they fit in an `i64`. -/
def timestampNanosOpt (t : DateTime) : Option Int64 :=
  if -(2 ^ 63) ≤ t.nanos ∧ t.nanos < 2 ^ 63 then some (Int64.ofInt t.nanos) else none

/-- `(b - a).num_microseconds()`: truncated towards zero, when it fits in an `i64`. -/
def numMicroseconds (a b : DateTime) : Option Int64 :=
  let micros := (b.nanos - a.nanos).tdiv 1000
  if -(2 ^ 63) ≤ micros ∧ micros < 2 ^ 63 then some (Int64.ofInt micros) else none

/-! ## RFC 3339 text -/

/-- Decimal digits, zero-padded on the left. -/
def padDigits (width n : Nat) : List Char :=
  let digits := (toString n).toList
  List.replicate (width - digits.length) '0' ++ digits

/-- The year: four digits, and an explicit sign outside 0 to 9999. -/
def yearChars (year : Int) : List Char :=
  if 0 ≤ year ∧ year ≤ 9999 then padDigits 4 year.toNat
  else (if year < 0 then '-' else '+') :: padDigits 4 year.natAbs

/-- Fraction of a second in three, six or nine digits, nothing when it is zero. -/
def fractionChars (nanos : Nat) : List Char :=
  if nanos = 0 then []
  else if nanos % 1000000 = 0 then '.' :: padDigits 3 (nanos / 1000000)
  else if nanos % 1000 = 0 then '.' :: padDigits 6 (nanos / 1000)
  else '.' :: padDigits 9 nanos

/-- `to_rfc3339` of a UTC instant. -/
def toRfc3339 (t : DateTime) : String :=
  let secs := t.nanos / nanosPerSec
  let days := secs / secsPerDay
  let secOfDay := (secs - days * secsPerDay).toNat
  let (year, month, day) := civilFromDays days
  String.ofList
    (yearChars year ++ '-' :: padDigits 2 month.toNat ++ '-' :: padDigits 2 day.toNat ++
      'T' :: padDigits 2 (secOfDay / 3600) ++ ':' :: padDigits 2 (secOfDay / 60 % 60) ++
      ':' :: padDigits 2 (secOfDay % 60) ++ fractionChars (t.nanos % nanosPerSec).toNat ++
      ['+', '0', '0', ':', '0', '0'])

example : toRfc3339 ⟨1782036000000000000⟩ = "2026-06-21T10:00:00+00:00" := by decide

/-- The characters of an RFC 3339 text. -/
def isTimeChar (c : Char) : Bool :=
  c.isDigit || c == '-' || c == '+' || c == ':' || c == '.' || c == 'T'

theorem padDigits_isTimeChar (width n : Nat) : (padDigits width n).all isTimeChar = true := by
  rw [List.all_eq_true]
  intro c hc
  have hdigit : c.isDigit = true := by
    rcases List.mem_append.mp hc with hc | hc
    · rw [List.eq_of_mem_replicate hc]
      decide
    · exact isDigit_of_mem_toString hc
  simp [isTimeChar, hdigit]

theorem yearChars_isTimeChar (year : Int) : (yearChars year).all isTimeChar = true := by
  unfold yearChars
  split
  · exact padDigits_isTimeChar _ _
  · have hsign : isTimeChar (if year < 0 then '-' else '+') = true := by split <;> decide
    rw [List.all_cons, hsign, padDigits_isTimeChar]
    rfl

theorem fractionChars_isTimeChar (nanos : Nat) :
    (fractionChars nanos).all isTimeChar = true := by
  have hpoint : isTimeChar '.' = true := by decide
  unfold fractionChars
  split
  · rfl
  · split
    · simp [hpoint, padDigits_isTimeChar]
    · split <;> simp [hpoint, padDigits_isTimeChar]

/-- The text of an instant is made of digits, signs, colons, a point and a `T`. -/
theorem toRfc3339_isTimeChar (t : DateTime) : t.toRfc3339.toList.all isTimeChar = true := by
  have hdash : isTimeChar '-' = true := by decide
  have hletter : isTimeChar 'T' = true := by decide
  have hcolon : isTimeChar ':' = true := by decide
  have hoffset : ['+', '0', '0', ':', '0', '0'].all isTimeChar = true := by decide
  simp only [toRfc3339, String.toList_ofList, List.all_append, List.all_cons, hoffset,
    yearChars_isTimeChar, padDigits_isTimeChar, fractionChars_isTimeChar, hdash, hletter, hcolon,
    Bool.and_self]

end DateTime

end Datacat.Basics
