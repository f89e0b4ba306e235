import Datacat.Basics.Time

/-!
# Dates as Numbers and as Text

The date of a day number in the proleptic Gregorian calendar, read as one number of the form
`yyyymmdd`, grows with the day. Texts of decimal digits are ordered as their numbers when they are
of one length; a longer text is after its prefixes.

## Main results

- `dateNumber_lt_iff`: the order of dates is the one of days.
- `digits_lt_iff`: the order of texts of digits, in terms of numbers.
-/

namespace Datacat.Basics

/-! ## Dates in order -/

namespace DateTime

/-! The days of an era of 400 years, which begins in March: every fourth year ends with a leap day,
three of its four centuries apart. -/

/-- Days of the era, without the leap days before. -/
def plainDays (dayOfEra : Int) : Int :=
  dayOfEra - dayOfEra / 1460 + dayOfEra / 36524 - dayOfEra / 146096

/-- Days of the era before a year of it. -/
def yearStart (year : Int) : Int := 365 * year + year / 4 - year / 100

/-- Days of the year before a month of it. -/
def monthStart (month : Int) : Int := (153 * month + 2) / 5

/-- Year of the era, month and day from zero on, of a day of the era. -/
def dateOfEra (dayOfEra : Int) : Int × Int × Int :=
  let year := plainDays dayOfEra / 365
  let dayOfYear := dayOfEra - yearStart year
  let month := (5 * dayOfYear + 2) / 153
  (year, month, dayOfYear - monthStart month)

theorem plainDays_mono : Monotone plainDays := by
  refine monotone_int_of_le_succ fun a => ?_
  unfold plainDays
  omega

theorem plainDays_yearStart : ∀ year : Nat, year < 400 →
    plainDays (yearStart year) = 365 * year := by
  decide +kernel

theorem plainDays_lt : ∀ year : Nat, year < 400 → 0 < year →
    plainDays (yearStart year - 1) < 365 * year := by
  decide +kernel

section Era

variable {a b : Int}

theorem year_range (ha : 0 ≤ a) (hb : a < 146097) :
    0 ≤ plainDays a / 365 ∧ plainDays a / 365 < 400 := by
  unfold plainDays
  omega

/-- A day comes after the start of its year, by at most 365 days. -/
theorem dayOfYear_range (ha : 0 ≤ a) (hb : a < 146097) :
    0 ≤ a - yearStart (plainDays a / 365) ∧ a - yearStart (plainDays a / 365) ≤ 365 := by
  obtain ⟨h0, h400⟩ := year_range ha hb
  generalize hyear : plainDays a / 365 = year at h0 h400 ⊢
  lift year to Nat using h0
  have hlt : year < 400 := by omega
  constructor
  · by_contra hneg
    have hpos : 0 < year := by
      by_contra hzero
      obtain rfl : year = 0 := by omega
      simp only [yearStart] at hneg
      omega
    have hbefore := plainDays_lt year hlt hpos
    have hle := plainDays_mono (show a ≤ yearStart year - 1 by omega)
    omega
  · by_contra hpast
    have hnext : year + 1 < 400 := by
      by_contra hlast
      obtain rfl : year = 399 := by omega
      simp only [yearStart] at hpast
      omega
    have hstart : yearStart (year + 1 : Nat) ≤ a := by
      unfold yearStart at hpast ⊢
      omega
    have hle := plainDays_mono hstart
    rw [plainDays_yearStart (year + 1) hnext] at hle
    omega

theorem dateOfEra_range (ha : 0 ≤ a) (hb : a < 146097) :
    (0 ≤ (dateOfEra a).1 ∧ (dateOfEra a).1 < 400) ∧
      (0 ≤ (dateOfEra a).2.1 ∧ (dateOfEra a).2.1 < 12) ∧
      0 ≤ (dateOfEra a).2.2 ∧ (dateOfEra a).2.2 < 31 := by
  refine ⟨year_range ha hb, ?_⟩
  have hday := dayOfYear_range ha hb
  unfold dateOfEra monthStart
  dsimp only
  omega

/-- The months since the era began, with the day in the month, grow with the day. -/
theorem dateOfEra_lt (ha : 0 ≤ a) (hab : a < b) (hb : b < 146097) :
    (dateOfEra a).1 * 12 + (dateOfEra a).2.1 < (dateOfEra b).1 * 12 + (dateOfEra b).2.1 ∨
      (dateOfEra a).1 * 12 + (dateOfEra a).2.1 = (dateOfEra b).1 * 12 + (dateOfEra b).2.1 ∧
        (dateOfEra a).2.2 < (dateOfEra b).2.2 := by
  obtain ⟨-, hmonth, -⟩ := dateOfEra_range ha (hab.trans hb)
  obtain ⟨-, hmonth', -⟩ := dateOfEra_range (ha.trans hab.le) hb
  have hyear : (dateOfEra a).1 ≤ (dateOfEra b).1 :=
    Int.ediv_le_ediv (by decide) (plainDays_mono hab.le)
  rcases hyear.lt_or_eq with hlt | heq
  · left
    omega
  · -- Days of one year.
    unfold dateOfEra monthStart at *
    dsimp only at *
    rw [heq] at *
    omega

end Era

/-- The date of a day, as the number that its digits make. -/
def dateNumber (days : Int) : Int :=
  (civilFromDays days).1 * 10000 + (civilFromDays days).2.1 * 100 + (civilFromDays days).2.2

def eraOf (days : Int) : Int := (days + 719468) / 146097

def dayOfEra (days : Int) : Int := days + 719468 - eraOf days * 146097

theorem dayOfEra_range (days : Int) : 0 ≤ dayOfEra days ∧ dayOfEra days < 146097 := by
  unfold dayOfEra eraOf
  omega

/-- The years of the calendar begin two months before those of the eras end. -/
theorem civilFromDays_eq (days : Int) :
    civilFromDays days =
      let date := dateOfEra (dayOfEra days)
      if date.2.1 < 10 then (date.1 + eraOf days * 400, date.2.1 + 3, date.2.2 + 1)
      else (date.1 + eraOf days * 400 + 1, date.2.1 - 9, date.2.2 + 1) := by
  have hcivil : civilFromDays days =
      let date := dateOfEra (dayOfEra days)
      let month := if date.2.1 < 10 then date.2.1 + 3 else date.2.1 - 9
      (if month ≤ 2 then date.1 + eraOf days * 400 + 1 else date.1 + eraOf days * 400, month,
        date.2.2 + 1) := rfl
  obtain ⟨-, hmonth, -⟩ := dateOfEra_range (dayOfEra_range days).1 (dayOfEra_range days).2
  rw [hcivil]
  dsimp only
  generalize dateOfEra (dayOfEra days) = date at hmonth ⊢
  by_cases h : date.2.1 < 10
  · rw [if_pos h, if_pos h, if_neg (by omega)]
  · rw [if_neg h, if_neg h, if_pos (by omega)]

/-- The months up to a date, its month and its day. -/
theorem civilFromDays_spec (days : Int) :
    (civilFromDays days).1 * 12 + (civilFromDays days).2.1 =
        eraOf days * 4800 + ((dateOfEra (dayOfEra days)).1 * 12 +
          (dateOfEra (dayOfEra days)).2.1) + 3 ∧
      (1 ≤ (civilFromDays days).2.1 ∧ (civilFromDays days).2.1 ≤ 12) ∧
      (civilFromDays days).2.2 = (dateOfEra (dayOfEra days)).2.2 + 1 := by
  obtain ⟨-, hmonth, -⟩ := dateOfEra_range (dayOfEra_range days).1 (dayOfEra_range days).2
  rw [civilFromDays_eq]
  dsimp only
  split <;> dsimp only <;> omega

theorem month_range (days : Int) :
    1 ≤ (civilFromDays days).2.1 ∧ (civilFromDays days).2.1 ≤ 12 :=
  (civilFromDays_spec days).2.1

theorem day_range (days : Int) :
    1 ≤ (civilFromDays days).2.2 ∧ (civilFromDays days).2.2 ≤ 31 := by
  obtain ⟨-, -, hday⟩ := dateOfEra_range (dayOfEra_range days).1 (dayOfEra_range days).2
  obtain ⟨-, -, heq⟩ := civilFromDays_spec days
  omega

/-- The date grows with the day. -/
theorem dateNumber_strictMono : StrictMono dateNumber := by
  intro a b hab
  obtain ⟨hmonths, hmonth, hday⟩ := civilFromDays_spec a
  obtain ⟨hmonths', hmonth', hday'⟩ := civilFromDays_spec b
  have ha := dateOfEra_range (dayOfEra_range a).1 (dayOfEra_range a).2
  have hb := dateOfEra_range (dayOfEra_range b).1 (dayOfEra_range b).2
  unfold dateNumber
  have hera : eraOf a ≤ eraOf b := by
    unfold eraOf
    omega
  rcases hera.lt_or_eq with hera | hera
  · omega
  · have hlt : dayOfEra a < dayOfEra b := by
      unfold dayOfEra
      omega
    have hdate := dateOfEra_lt (dayOfEra_range a).1 hlt (dayOfEra_range b).2
    omega

theorem dateNumber_lt_iff {a b : Int} : dateNumber a < dateNumber b ↔ a < b :=
  dateNumber_strictMono.lt_iff_lt

/-! ## Texts of digits in order -/

/-- The number that decimal digits make. -/
abbrev digitsValue (cs : List Char) : Nat := Nat.ofDigitChars 10 cs 0

section Digits

variable {c c' : Char} {cs cs' : List Char}

theorem digitsValue_cons (c : Char) (cs : List Char) :
    digitsValue (c :: cs) = 10 ^ cs.length * (c.toNat - 48) + digitsValue cs := by
  rw [digitsValue, Nat.ofDigitChars_cons, Nat.ofDigitChars_eq_ofDigitChars_zero]
  simp

theorem digitsValue_append (cs cs' : List Char) :
    digitsValue (cs ++ cs') = 10 ^ cs'.length * digitsValue cs + digitsValue cs' := by
  rw [digitsValue, Nat.ofDigitChars_append, Nat.ofDigitChars_eq_ofDigitChars_zero]

theorem digitsValue_lt (h : cs.all Char.isDigit = true) : digitsValue cs < 10 ^ cs.length := by
  induction cs with
  | nil => simp
  | cons c cs ih =>
    rw [List.all_cons, Bool.and_eq_true] at h
    obtain ⟨-, hc⟩ := Char.isDigit_iff_toNat.mp h.1
    have hdigit : c.toNat - 48 ≤ 9 := by
      simp only [Char.reduceToNat] at hc
      omega
    have hle := Nat.mul_le_mul_left (10 ^ cs.length) hdigit
    have hlt := ih h.2
    rw [digitsValue_cons, List.length_cons, pow_succ]
    omega

/-- The digits before the last ones are those of the quotient. -/
theorem digitsValue_take (h : cs.all Char.isDigit = true) (n : Nat) :
    digitsValue (cs.take n) = digitsValue cs / 10 ^ (cs.drop n).length := by
  have hdrop : digitsValue (cs.drop n) < 10 ^ (cs.drop n).length := by
    apply digitsValue_lt
    rw [List.all_eq_true] at h ⊢
    exact fun c hc => h c (List.mem_of_mem_drop hc)
  have hsplit : digitsValue cs =
      10 ^ (cs.drop n).length * digitsValue (cs.take n) + digitsValue (cs.drop n) := by
    rw [← digitsValue_append, List.take_append_drop]
  rw [hsplit, Nat.mul_add_div (by positivity), Nat.div_eq_of_lt hdrop, Nat.add_zero]

/-- **Texts of digits.** A text is before one that is as long or longer when its number is less than
the one of as many first digits, or when it is a proper prefix. -/
theorem digits_lt_iff (h : cs.all Char.isDigit = true) (h' : cs'.all Char.isDigit = true)
    (hlength : cs.length ≤ cs'.length) :
    cs < cs' ↔ digitsValue cs < digitsValue (cs'.take cs.length) ∨
      digitsValue cs = digitsValue (cs'.take cs.length) ∧ cs.length < cs'.length := by
  induction cs generalizing cs' with
  | nil =>
    cases cs' with
    | nil => simp
    | cons c' cs' => simp
  | cons c cs ih =>
    obtain ⟨c', cs', rfl⟩ := List.exists_cons_of_length_pos (Nat.lt_of_lt_of_le (by simp) hlength)
    rw [List.all_cons, Bool.and_eq_true] at h h'
    have hlengths : cs.length ≤ cs'.length := by simpa using hlength
    have htake : (cs'.take cs.length).length = cs.length := by
      rw [List.length_take, Nat.min_eq_left hlengths]
    have hlt := digitsValue_lt h.2
    have hlt' : digitsValue (cs'.take cs.length) < 10 ^ cs.length := by
      conv_rhs => rw [← htake]
      apply digitsValue_lt
      have hall := List.all_eq_true.mp h'.2
      exact List.all_eq_true.mpr fun c hc => hall c (List.mem_of_mem_take hc)
    have hc := Char.isDigit_iff_toNat.mp h.1
    have hc' := Char.isDigit_iff_toNat.mp h'.1
    simp only [Char.reduceToNat] at hc hc'
    rw [List.cons_lt_cons_iff, ih h.2 h'.2 hlengths, List.length_cons, List.take_succ_cons,
      digitsValue_cons, digitsValue_cons, htake, List.length_cons, Nat.add_lt_add_iff_right]
    generalize digitsValue cs = v at hlt ⊢
    generalize digitsValue (cs'.take cs.length) = v' at hlt' ⊢
    generalize 10 ^ cs.length = p at hlt hlt' ⊢
    rcases Nat.lt_trichotomy c.toNat c'.toNat with hcc | hcc | hcc
    · have hle := Nat.mul_le_mul_left p (show c.toNat - 48 + 1 ≤ c'.toNat - 48 by omega)
      rw [Nat.mul_add_one] at hle
      have hchar : c < c' := hcc
      simp only [hchar, true_or, true_iff]
      left
      omega
    · have hchar : c = c' := Char.toNat_inj.mp hcc
      subst hchar
      simp only [lt_irrefl, true_and, false_or]
      omega
    · have hle := Nat.mul_le_mul_left p (show c'.toNat - 48 + 1 ≤ c.toNat - 48 by omega)
      rw [Nat.mul_add_one] at hle
      have hchar : ¬c < c' := fun hlt => absurd (show c.toNat < c'.toNat from hlt) hcc.not_gt
      have hne : c ≠ c' := by
        rintro rfl
        exact lt_irrefl _ hcc
      simp only [hchar, hne, false_and, false_or, false_iff]
      omega

end Digits

/-! ## Padded numbers -/

section Padded

variable {width n : Nat}

theorem isDigit_padDigits (width n : Nat) : (padDigits width n).all Char.isDigit = true := by
  rw [List.all_eq_true]
  intro c hc
  rcases List.mem_append.mp hc with hc | hc
  · rw [List.eq_of_mem_replicate hc]
    decide
  · exact isDigit_of_mem_toString hc

@[simp] theorem digitsValue_padDigits (width n : Nat) : digitsValue (padDigits width n) = n := by
  have htext : (toString n).toList = Nat.toDigits 10 n := Nat.toList_repr
  rw [padDigits, htext, digitsValue_append]
  simp [digitsValue]

theorem length_padDigits (width n : Nat) :
    (padDigits width n).length = max width (toString n).toList.length := by
  rw [padDigits, List.length_append, List.length_replicate]
  omega

theorem length_padDigits_of_lt (hwidth : 0 < width) (h : n < 10 ^ width) :
    (padDigits width n).length = width := by
  have hlength : (toString n).toList.length ≤ width := by
    rw [show (toString n).toList = Nat.toDigits 10 n from Nat.toList_repr]
    exact (Nat.length_toDigits_le_iff (by decide) hwidth).mpr h
  rw [length_padDigits, Nat.max_eq_left hlength]

theorem padDigits_injective (width : Nat) : Function.Injective (padDigits width) := by
  intro m n h
  have hvalue := congrArg digitsValue h
  rwa [digitsValue_padDigits, digitsValue_padDigits] at hvalue

theorem padDigits_ne_cons {c : Char} {cs : List Char} (hc : c.isDigit = false) :
    padDigits width n ≠ c :: cs := by
  intro h
  have hdigits := isDigit_padDigits width n
  rw [h, List.all_cons, hc] at hdigits
  cases hdigits

end Padded

theorem yearChars_injective : Function.Injective yearChars := by
  have hsign : ∀ n : Int, (if n < 0 then '-' else '+').isDigit = false := by
    intro n
    split <;> decide
  intro m n h
  unfold yearChars at h
  by_cases hm : 0 ≤ m ∧ m ≤ 9999 <;> by_cases hn : 0 ≤ n ∧ n ≤ 9999
  · rw [if_pos hm, if_pos hn] at h
    have hnat := padDigits_injective 4 h
    omega
  · rw [if_pos hm, if_neg hn] at h
    exact absurd h (padDigits_ne_cons (hsign n))
  · rw [if_neg hm, if_pos hn] at h
    exact absurd h.symm (padDigits_ne_cons (hsign m))
  · -- The sign tells the negative years from those after 9999.
    rw [if_neg hm, if_neg hn] at h
    obtain ⟨hsigns, hdigits⟩ := List.cons.inj h
    have hnat := padDigits_injective 4 hdigits
    have hneg : m < 0 ↔ n < 0 := by
      by_cases hm' : m < 0 <;> by_cases hn' : n < 0 <;>
        simp only [hm', hn', if_true, if_false] at hsigns ⊢ <;> exact absurd hsigns (by decide)
    omega

end DateTime

end Datacat.Basics
