import Datacat.Basics.Settings

/-!
# What a Duration Says

A duration is a number and one of five units, with white space around the whole and around the
number. `parseDuration_of_written` says what the program computes of it, `refused_of_not_written`
that anything else is an error, `Written.unique` that a text says one thing.

Minutes, hours and days are multiplied in 64 bits before they are a number of seconds. The product
wraps in a release build and panics in a debug build (`debugDuration`).
-/

namespace Datacat.Basics

/-! ## Numbers -/

/-- Decimal digits with a plus sign before them perhaps. -/
def NumberText (cs : List Char) (n : Nat) : Prop :=
  ∃ digits, (cs = digits ∨ cs = '+' :: digits) ∧ digits ≠ [] ∧
    (∀ c ∈ digits, c.isDigit = true) ∧ Nat.ofDigitChars 10 digits 0 = n

theorem parseDigits_eq_some_iff {cs : List Char} {value : UInt64} :
    parseDigits cs = some value ↔
      cs ≠ [] ∧ (∀ c ∈ cs, c.isDigit = true) ∧ Nat.ofDigitChars 10 cs 0 = value.toNat := by
  have hlt := value.toNat_lt
  unfold parseDigits
  constructor
  · intro h
    split at h
    · rename_i hdigits
      dsimp only at h
      split at h
      · rename_i hsize
        refine ⟨hdigits.1, List.all_eq_true.mp hdigits.2, ?_⟩
        rw [← Option.some.inj h, UInt64.toNat_ofNat_of_lt' hsize]
      · cases h
    · cases h
  · rintro ⟨hne, hdigits, hvalue⟩
    rw [if_pos ⟨hne, List.all_eq_true.mpr hdigits⟩, hvalue]
    simp only [hlt, if_true, UInt64.ofNat_toNat]

/-- `str::parse::<u64>` reads the numbers below 2^64. -/
theorem parseU64_eq_some_iff {cs : List Char} {value : UInt64} :
    parseU64 cs = some value ↔ NumberText cs value.toNat := by
  unfold parseU64 NumberText
  split
  · rename_i digits
    rw [parseDigits_eq_some_iff]
    constructor
    · exact fun h => ⟨digits, .inr rfl, h⟩
    · rintro ⟨found, rfl | hfound, hne, hdigits, hvalue⟩
      · -- A plus sign is no digit.
        exact absurd (hdigits '+' (List.mem_cons_self ..)) (by decide)
      · obtain rfl := (List.cons.inj hfound).2
        exact ⟨hne, hdigits, hvalue⟩
  · rename_i hplus
    rw [parseDigits_eq_some_iff]
    constructor
    · exact fun h => ⟨cs, .inl rfl, h⟩
    · rintro ⟨found, rfl | hfound, h⟩
      · exact h
      · exact absurd hfound (hplus found)

theorem NumberText.unique {cs : List Char} {m n : Nat} (hm : NumberText cs m)
    (hn : NumberText cs n) : m = n := by
  obtain ⟨first, hfirst, -, hdigits, rfl⟩ := hm
  obtain ⟨second, hsecond, -, hdigitsSecond, rfl⟩ := hn
  have hplus : ('+' : Char).isDigit = false := by decide
  rcases hfirst with rfl | rfl
  · rcases hsecond with rfl | rfl
    · rfl
    · exact absurd (hdigits '+' (List.mem_cons_self ..)) (by decide)
  · rcases hsecond with rfl | hsecond
    · exact absurd (hdigitsSecond '+' (List.mem_cons_self ..)) (by decide)
    · rw [(List.cons.inj hsecond).2]

/-! ## Units -/

inductive DurationUnit where
  | millisecond
  | second
  | minute
  | hour
  | day

namespace DurationUnit

def text : DurationUnit → String
  | millisecond => "ms"
  | second => "s"
  | minute => "m"
  | hour => "h"
  | day => "d"

/-- The length of the unit, in nanoseconds. -/
def nanos : DurationUnit → Nat
  | millisecond => 1000000
  | second => 1000000000
  | minute => 60 * 1000000000
  | hour => 3600 * 1000000000
  | day => 86400 * 1000000000

/-- What the number is multiplied by in 64 bits. -/
def factor : DurationUnit → UInt64
  | millisecond | second => 1
  | minute => 60
  | hour => 3600
  | day => 86400

/-- What the program computes of a number. -/
def computed (unit : DurationUnit) (value : UInt64) : Nat :=
  match unit with
  | millisecond => value.toNat * 1000000
  | second => fromSecs value
  | minute => fromSecs (value * 60)
  | hour => fromSecs (value * 3600)
  | day => fromSecs (value * 86400)

theorem text_inj {u v : DurationUnit} (h : u.text.toList = v.text.toList) : u = v := by
  cases u <;> cases v <;> first | rfl | exact absurd h (by decide)

theorem text_isAlpha (u : DurationUnit) : ∀ c ∈ u.text.toList, c.isAlpha = true := by
  apply List.all_eq_true.mp
  cases u <;> rfl

private theorem fromSecs_mul_iff (value k : UInt64) :
    fromSecs (value * k) = value.toNat * (k.toNat * 1000000000) ↔
      value.toNat * k.toNat < 2 ^ 64 := by
  unfold fromSecs
  rw [UInt64.toNat_mul, ← Nat.mul_assoc]
  constructor
  · intro h
    rw [← Nat.eq_of_mul_eq_mul_right (Nat.succ_pos _) h]
    exact Nat.mod_lt _ (Nat.two_pow_pos 64)
  · intro h
    rw [Nat.mod_eq_of_lt h]

/-- What the program computes is the product as long as the seconds fit in 64 bits. -/
theorem computed_eq_iff (u : DurationUnit) (value : UInt64) :
    u.computed value = value.toNat * u.nanos ↔ value.toNat * u.factor.toNat < 2 ^ 64 := by
  have hfits : value.toNat * (1 : UInt64).toNat < 2 ^ 64 :=
    (Nat.mul_one value.toNat).trans_lt value.toNat_lt
  cases u with
  | millisecond => exact iff_of_true rfl hfits
  | second => exact iff_of_true rfl hfits
  | minute => exact fromSecs_mul_iff value 60
  | hour => exact fromSecs_mul_iff value 3600
  | day => exact fromSecs_mul_iff value 86400

end DurationUnit

/-! ## Durations -/

/-- The string is that number of that unit. -/
def Written (s : String) (number : Nat) (unit : DurationUnit) : Prop :=
  ∃ num, trim s.toList = num ++ unit.text.toList ∧ (∀ c ∈ num, c.isAlpha = false) ∧
    NumberText (trim num) number

theorem Written.unique {s : String} {m n : Nat} {u v : DurationUnit} (h : Written s m u)
    (h' : Written s n v) : m = n ∧ u = v := by
  obtain ⟨num, hsplit, hnum, hnumber⟩ := h
  obtain ⟨num', hsplit', hnum', hnumber'⟩ := h'
  have hhead : ∀ w : DurationUnit, ∀ c ∈ w.text.toList.head?, (!c.isAlpha) = false := by
    intro w c hc
    rw [w.text_isAlpha c (List.mem_of_mem_head? hc)]
    rfl
  obtain ⟨rfl, htext⟩ := word_append_inj (fun c hc => congrArg not (hnum c hc))
    (fun c hc => congrArg not (hnum' c hc)) (hhead u) (hhead v) (hsplit.symm.trans hsplit')
  exact ⟨hnumber.unique hnumber', DurationUnit.text_inj htext⟩

/-- The number and the unit, as `parse_duration` cuts the trimmed text. -/
theorem written_iff {s : String} {number : Nat} {unit : DurationUnit} :
    Written s number unit ↔
      (trim s.toList).dropWhile (fun c => !c.isAlpha) = unit.text.toList ∧
        NumberText (trim ((trim s.toList).takeWhile fun c => !c.isAlpha)) number := by
  constructor
  · rintro ⟨num, hsplit, hnum, hnumber⟩
    have hpass : ∀ c ∈ num, (!c.isAlpha) = true := fun c hc => congrArg not (hnum c hc)
    have hunit : unit.text.toList.takeWhile (fun c => !c.isAlpha) = [] ∧
        unit.text.toList.dropWhile (fun c => !c.isAlpha) = unit.text.toList := by
      cases unit <;> decide
    -- The unit starts at the first letter.
    rw [hsplit, List.dropWhile_append_of_pos hpass, List.takeWhile_append_of_pos hpass, hunit.1,
      hunit.2, List.append_nil]
    exact ⟨rfl, hnumber⟩
  · rintro ⟨hunit, hnumber⟩
    refine ⟨_, ?_, ?_, hnumber⟩
    · rw [← hunit, List.takeWhile_append_dropWhile]
    · intro c hc
      have hpass := List.all_eq_true.mp (List.all_takeWhile (p := fun c => !c.isAlpha)) c hc
      simpa using hpass

/-- A product of `u64` in a debug build; `none` is a panic. -/
def checkedMul (a b : UInt64) : Option UInt64 :=
  if a.toNat * b.toNat < 2 ^ 64 then some (a * b) else none

/-- `parse_duration` in a debug build. -/
def debugDuration (texts : DurationTexts) (s : String) : Option (Except Contexts Nat) :=
  let s := trim s.toList
  if s.isEmpty then some (.error [texts.empty])
  else
    let num := s.takeWhile fun c => !c.isAlpha
    let unit := s.dropWhile fun c => !c.isAlpha
    if unit.isEmpty then some (.error [texts.noUnit])
    else
      match parseU64 (trim num) with
      | none => some (.error [texts.invalidValue])
      | some value =>
        match String.ofList unit with
        | "ms" => some (.ok (value.toNat * 1000000))
        | "s" => some (.ok (fromSecs value))
        | "m" => (checkedMul value 60).map fun secs => .ok (fromSecs secs)
        | "h" => (checkedMul value 3600).map fun secs => .ok (fromSecs secs)
        | "d" => (checkedMul value 86400).map fun secs => .ok (fromSecs secs)
        | other => some (.error [texts.unknownUnit other])

section Parse

variable {texts : DurationTexts} {s : String}

/-- The text that `parse_duration` cuts is not empty, and neither is its unit. -/
private theorem Written.not_empty {number : Nat} {unit : DurationUnit} (h : Written s number unit) :
    (trim s.toList).isEmpty = false ∧ unit.text.toList.isEmpty = false := by
  have htext : unit.text.toList.isEmpty = false := by
    cases unit <;> rfl
  refine ⟨?_, htext⟩
  apply Bool.eq_false_iff.mpr
  intro hnil
  have hunit := (written_iff.mp h).1
  rw [List.isEmpty_iff.mp hnil] at hunit
  rw [← hunit] at htext
  cases htext

/-- What the program computes of a string that is a duration. -/
theorem parseDuration_of_written {value : UInt64} {unit : DurationUnit}
    (h : Written s value.toNat unit) : parseDuration texts s = .ok (unit.computed value) := by
  obtain ⟨hunit, hnumber⟩ := written_iff.mp h
  unfold parseDuration
  simp only [h.not_empty, Bool.false_eq_true, if_false, hunit, parseU64_eq_some_iff.mpr hnumber]
  cases unit <;> rfl

theorem debugDuration_of_written {value : UInt64} {unit : DurationUnit}
    (h : Written s value.toNat unit) :
    debugDuration texts s =
      if value.toNat * unit.factor.toNat < 2 ^ 64 then some (.ok (unit.computed value))
      else none := by
  obtain ⟨hunit, hnumber⟩ := written_iff.mp h
  have hfits : value.toNat * (1 : UInt64).toNat < 2 ^ 64 :=
    (Nat.mul_one value.toNat).trans_lt value.toNat_lt
  have hmul : ∀ k : UInt64, (checkedMul value k).map (fun secs => Except.ok (fromSecs secs)) =
      if value.toNat * k.toNat < 2 ^ 64 then some (.ok (ε := Contexts) (fromSecs (value * k)))
      else none := by
    intro k
    unfold checkedMul
    split <;> rfl
  unfold debugDuration
  simp only [h.not_empty, Bool.false_eq_true, if_false, hunit, parseU64_eq_some_iff.mpr hnumber]
  cases unit with
  | millisecond => exact (if_pos hfits).symm
  | second => exact (if_pos hfits).symm
  | minute => exact hmul 60
  | hour => exact hmul 3600
  | day => exact hmul 86400

/-- What is no duration is refused, in both builds. -/
theorem refused_of_not_written (h : ∀ value unit, ¬Written s (UInt64.toNat value) unit) :
    ∃ error, parseDuration texts s = .error error ∧ debugDuration texts s = some (.error error) := by
  simp only [written_iff, ← parseU64_eq_some_iff] at h
  unfold parseDuration debugDuration
  dsimp only
  split
  · exact ⟨_, rfl, rfl⟩
  · split
    · exact ⟨_, rfl, rfl⟩
    · cases hvalue : parseU64 (trim ((trim s.toList).takeWhile fun c => !c.isAlpha)) with
      | none => exact ⟨_, rfl, rfl⟩
      | some value =>
        -- The number can be read, so the unit is not one of the five.
        have hunit : ∀ unit : DurationUnit,
            String.ofList ((trim s.toList).dropWhile fun c => !c.isAlpha) ≠ unit.text := by
          intro unit htext
          refine h value unit ⟨?_, hvalue⟩
          rw [← htext, String.toList_ofList]
        generalize String.ofList ((trim s.toList).dropWhile fun c => !c.isAlpha) = text at hunit
        refine ⟨[texts.unknownUnit text], ?_, ?_⟩
        all_goals
          dsimp only
          split
          · exact absurd rfl (hunit .millisecond)
          · exact absurd rfl (hunit .second)
          · exact absurd rfl (hunit .minute)
          · exact absurd rfl (hunit .hour)
          · exact absurd rfl (hunit .day)
          · rfl

end Parse

end Datacat.Basics
