import Mathlib
import Datacat.Basics.Text

/-!
# IEEE-754 Binary64

A double is its 64 bits. Arithmetic is exact rational arithmetic followed by one rounding to
nearest, ties to even; the decimal text is the shortest one that rounds back to the double,
in positional notation.

The program moves doubles around, compares them, computes a few quotients and a standard
deviation and writes the result as text, so no theory of rounding is developed: what the proofs
need of the text is that it is made of digits, a sign and a point, or is `inf` or `NaN`.
-/

namespace Datacat.Basics

/-- A double, by its bits. -/
structure F64 where
  bits : UInt64
deriving DecidableEq, Repr

namespace F64

/-! ## Fields and value -/

def signBit (x : F64) : Bool := decide (2 ^ 63 ≤ x.bits.toNat)

def exponentField (x : F64) : Nat := x.bits.toNat / 2 ^ 52 % 2 ^ 11

def fraction (x : F64) : Nat := x.bits.toNat % 2 ^ 52

/-- `f64::is_finite`. -/
def isFinite (x : F64) : Bool := x.exponentField != 2047

/-- `f64::is_nan`. -/
def isNaN (x : F64) : Bool := x.exponentField == 2047 && x.fraction != 0

/-- Absolute value of a finite double. -/
def magnitude (x : F64) : ℚ :=
  if x.exponentField = 0 then (x.fraction : ℚ) * (2 : ℚ) ^ (-1074 : ℤ)
  else ((2 ^ 52 + x.fraction : Nat) : ℚ) * (2 : ℚ) ^ ((x.exponentField : ℤ) - 1075)

def toRat (x : F64) : ℚ := if x.signBit then -x.magnitude else x.magnitude

/-! ## Rounding -/

/-- Nearest integer, ties to even. -/
def roundHalfEven (q : ℚ) : ℤ :=
  let n := ⌊q⌋
  let r := q - n
  if r < 1 / 2 then n
  else if 1 / 2 < r then n + 1
  else if n % 2 = 0 then n else n + 1

/-- The sixty-three bits of the double nearest to a non-negative rational, infinity past the
largest finite one. A significand rounded up to the next power of two carries into the
exponent by itself. -/
def roundMagnitude (q : ℚ) : Nat :=
  if q ≤ 0 then 0
  else
    let e := max (Int.log 2 q) (-1022)
    let significand := (roundHalfEven (q / (2 : ℚ) ^ (e - 52))).toNat
    min ((e + 1022).toNat * 2 ^ 52 + significand) (2047 * 2 ^ 52)

/-- The double nearest to a rational. -/
def ofRat (q : ℚ) : F64 :=
  if q < 0 then ⟨UInt64.ofNat (2 ^ 63 + roundMagnitude (-q))⟩
  else ⟨UInt64.ofNat (roundMagnitude q)⟩

/-- `i as f64`. -/
def ofInt (i : Int) : F64 := ofRat i

/-- `x as u64`: truncated towards zero and clamped to the range; `NaN` is 0. -/
def toU64 (x : F64) : UInt64 :=
  if x.isNaN || x.signBit then 0
  else if !x.isFinite then UInt64.ofNat (2 ^ 64 - 1)
  else UInt64.ofNat (min ⌊x.magnitude⌋.toNat (2 ^ 64 - 1))

/-- Quotient of two finite doubles, the divisor not zero. -/
def div (x y : F64) : F64 := ofRat (x.toRat / y.toRat)

/-- Sum of two finite doubles. -/
def add (x y : F64) : F64 := ofRat (x.toRat + y.toRat)

/-- Difference of two finite doubles. -/
def sub (x y : F64) : F64 := ofRat (x.toRat - y.toRat)

/-- Product of two finite doubles. -/
def mul (x y : F64) : F64 := ofRat (x.toRat * y.toRat)

/-- `f64::sqrt` of a finite double that is not negative. The root of a double is never half-way
between two doubles, so the nearest one is found by comparing squares. -/
def sqrt (x : F64) : F64 :=
  let q := x.magnitude
  if q = 0 then x
  else
    let e := Int.log 2 q / 2 - 52
    let scaled := q / (4 : ℚ) ^ e
    let root := Nat.sqrt ⌊scaled⌋.toNat
    let nearest := if ((2 * root + 1) ^ 2 : ℚ) < 4 * scaled then root + 1 else root
    ofRat ((nearest : ℚ) * (2 : ℚ) ^ e)

/-! ## Order -/

/-- The place of a double that is a number in the order; both zeros have the same. -/
def rank (x : F64) : Int :=
  let unsigned : Int := (x.bits.toNat % 2 ^ 63 : Nat)
  if x.signBit then -unsigned else unsigned

/-- `x < y`: false when either is not a number. -/
def lt (x y : F64) : Bool := !x.isNaN && !y.isNaN && decide (x.rank < y.rank)

/-- `x <= y`. -/
def le (x y : F64) : Bool := !x.isNaN && !y.isNaN && decide (x.rank ≤ y.rank)

/-- `f64::max` of two numbers. -/
def max (x y : F64) : F64 := if x.lt y then y else x

/-- A quiet `NaN`. -/
def nan : F64 := ⟨0x7ff8000000000000⟩

@[simp] theorem nan_lt (x : F64) : nan.lt x = false := rfl

@[simp] theorem nan_le (x : F64) : nan.le x = false := rfl

@[simp] theorem lt_nan (x : F64) : x.lt nan = false := by
  unfold lt
  rw [show nan.isNaN = true from rfl, Bool.not_true, Bool.and_false, Bool.false_and]

@[simp] theorem le_nan (x : F64) : x.le nan = false := by
  unfold le
  rw [show nan.isNaN = true from rfl, Bool.not_true, Bool.and_false, Bool.false_and]

/-! ## Decimal text -/

/-- The first of the given decimals that rounds to the magnitude bits. -/
def roundsTo (target : Nat) (exponent : ℤ) (candidates : List ℤ) : Option ℤ :=
  candidates.find? fun d => roundMagnitude ((d : ℚ) * (10 : ℚ) ^ exponent) = target

/-- Shortest decimal `d × 10 ^ k` that rounds to a finite non-zero double, the closest of the
shortest ones: `n` digits are tried for growing `n`, and seventeen always suffice. -/
def shortestFrom (m : ℚ) (target : Nat) : Nat → Nat → Nat × ℤ
  | 0, n =>
    let k := Int.log 10 m + 1 - n
    (⌊m / (10 : ℚ) ^ k⌋.toNat, k)
  | tries + 1, n =>
    let k := Int.log 10 m + 1 - n
    let scaled := m / (10 : ℚ) ^ k
    let low := ⌊scaled⌋
    let high := ⌈scaled⌉
    let candidates := if scaled - low < high - scaled then [low, high] else [high, low]
    match roundsTo target k candidates with
    | some d => (d.toNat, k)
    | none => shortestFrom m target tries (n + 1)

/-- Digits of a decimal placed around the point, without an exponent. -/
def positional (digits : List Char) (k : ℤ) : List Char :=
  if 0 ≤ k then digits ++ List.replicate k.toNat '0'
  else
    let places := (-k).toNat
    if places < digits.length then
      digits.take (digits.length - places) ++ '.' :: digits.drop (digits.length - places)
    else '0' :: '.' :: List.replicate (places - digits.length) '0' ++ digits

/-- `f64::to_string`. -/
def display (x : F64) : List Char :=
  if x.isNaN then ['N', 'a', 'N']
  else
    let unsigned :=
      if !x.isFinite then ['i', 'n', 'f']
      else if x.magnitude = 0 then ['0']
      else
        let (d, k) := shortestFrom x.magnitude (x.bits.toNat % 2 ^ 63) 17 1
        positional (toString d).toList k
    if x.signBit then '-' :: unsigned else unsigned

/-- The characters of a number's text. -/
def isNumberChar (c : Char) : Bool :=
  c.isDigit || c == '-' || c == '.' || c.isAlpha

/-- Placing digits around the point brings in zeros and the point only. -/
theorem positional_isNumberChar {digits : List Char} (h : ∀ c ∈ digits, c.isDigit = true)
    (k : ℤ) : ∀ c ∈ positional digits k, isNumberChar c = true := by
  have hdigits : ∀ c ∈ digits, isNumberChar c = true := by
    intro c hc
    simp [isNumberChar, h c hc]
  have hzero : isNumberChar '0' = true := by decide
  have hpoint : isNumberChar '.' = true := by decide
  intro c hc
  -- Zeros after the digits, a point among them, or zeros before them.
  simp only [positional] at hc
  split at hc
  · rw [List.mem_append, List.mem_replicate] at hc
    rcases hc with hc | ⟨-, rfl⟩
    · exact hdigits c hc
    · exact hzero
  · split at hc
    · rw [List.mem_append, List.mem_cons] at hc
      rcases hc with hc | rfl | hc
      · exact hdigits c (List.mem_of_mem_take hc)
      · exact hpoint
      · exact hdigits c (List.mem_of_mem_drop hc)
    · simp only [List.cons_append, List.mem_cons, List.mem_append, List.mem_replicate] at hc
      rcases hc with rfl | rfl | ⟨-, rfl⟩ | hc
      · exact hzero
      · exact hpoint
      · exact hzero
      · exact hdigits c hc

/-- The text of a double is made of digits, a sign, a point and letters. -/
theorem display_isNumberChar (x : F64) : ∀ c ∈ display x, isNumberChar c = true := by
  have hsigned : ∀ cs : List Char, (∀ c ∈ cs, isNumberChar c = true) →
      ∀ c ∈ (if x.signBit then '-' :: cs else cs), isNumberChar c = true := by
    intro cs hcs c hc
    split at hc
    · rcases List.mem_cons.mp hc with rfl | hc
      · decide
      · exact hcs c hc
    · exact hcs c hc
  unfold display
  split
  · simp [isNumberChar]
  · apply hsigned
    split
    · simp [isNumberChar]
    · split
      · simp [isNumberChar]
      · exact positional_isNumberChar (fun c hc => isDigit_of_mem_toString hc) _

theorem display_ne_nil (x : F64) : display x ≠ [] := by
  have hpositional : ∀ (n : Nat) (k : ℤ), positional (toString n).toList k ≠ [] := by
    intro n k
    unfold positional
    split
    · simp
    · dsimp only
      split <;> simp
  -- The sign, `inf` and `NaN` are texts; what is left are digits around a point.
  unfold display
  split
  · simp
  · dsimp only
    split
    · simp
    · split
      · simp
      · split
        · simp
        · exact hpositional _ _

end F64

end Datacat.Basics
