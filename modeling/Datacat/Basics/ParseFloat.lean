import Datacat.Basics.Float64

/-!
# `parseFloat`

The number that a text begins with, as a double: white space is skipped, and the longest prefix that
is a decimal literal is read and rounded once. A text that begins with none is not a number.
-/

namespace Datacat.Basics.F64

/-- White space and line terminators of the language. -/
def isJsSpace (c : Char) : Bool :=
  let n := c.toNat
  (9 ≤ n && n ≤ 13) || n == 0x20 || n == 0xA0 || n == 0x1680 || (0x2000 ≤ n && n ≤ 0x200A) ||
    n == 0x2028 || n == 0x2029 || n == 0x202F || n == 0x205F || n == 0x3000 || n == 0xFEFF

def infinity : F64 := ⟨0x7ff0000000000000⟩

def neg (x : F64) : F64 := ⟨x.bits ^^^ 0x8000000000000000⟩

/-- `ExponentPart`, when there is one; 0 otherwise. -/
def exponentPart : List Char → ℤ
  | [] => 0
  | c :: cs =>
    if c = 'e' ∨ c = 'E' then
      match cs with
      | '-' :: ds => -(Nat.ofDigitChars 10 (ds.takeWhile Char.isDigit) 0 : ℕ)
      | '+' :: ds => (Nat.ofDigitChars 10 (ds.takeWhile Char.isDigit) 0 : ℕ)
      | ds => (Nat.ofDigitChars 10 (ds.takeWhile Char.isDigit) 0 : ℕ)
    else 0

/-- The digits after a point, and what follows them. -/
def fractionPart : List Char → List Char × List Char
  | '.' :: cs => (cs.takeWhile Char.isDigit, cs.dropWhile Char.isDigit)
  | cs => ([], cs)

/-- `StrUnsignedDecimalLiteral`, as long as possible. -/
def unsignedLiteral (cs : List Char) : Option F64 :=
  if ['I', 'n', 'f', 'i', 'n', 'i', 't', 'y'].isPrefixOf cs then some infinity
  else
    let whole := cs.takeWhile Char.isDigit
    let (fraction, rest) := fractionPart (cs.dropWhile Char.isDigit)
    if whole ++ fraction = [] then none
    else
      let digits := Nat.ofDigitChars 10 (whole ++ fraction) 0
      some (ofRat (digits * (10 : ℚ) ^ (exponentPart rest - fraction.length)))

/-- `parseFloat`. -/
def parseFloat (text : String) : F64 :=
  match text.toList.dropWhile isJsSpace with
  | '-' :: cs => ((unsignedLiteral cs).map neg).getD nan
  | '+' :: cs => (unsignedLiteral cs).getD nan
  | cs => (unsignedLiteral cs).getD nan

example : parseFloat " 1.5e2 seconds" = ofRat 150 := by decide +kernel

example : parseFloat "Wed, 21 Oct 2026 07:28:00 GMT" = nan := by decide +kernel

theorem isJsSpace_of_isDigit {c : Char} (h : c.isDigit = true) : isJsSpace c = false := by
  have hrange := Char.isDigit_iff_toNat.mp h
  simp only [Char.reduceToNat] at hrange
  unfold isJsSpace
  simp only [Bool.or_eq_false_iff, Bool.and_eq_false_iff, decide_eq_false_iff_not,
    beq_eq_false_iff_ne]
  omega

/-- The decimal text of a natural number is read as that number. -/
theorem parseFloat_toString (n : ℕ) : parseFloat (toString n) = ofInt n := by
  have htext : (toString n).toList = Nat.toDigits 10 n := Nat.toList_repr
  have hdigits : ∀ c ∈ (toString n).toList, c.isDigit = true :=
    fun c hc => isDigit_of_mem_toString hc
  obtain ⟨c, cs, hcs⟩ : ∃ c cs, (toString n).toList = c :: cs :=
    List.exists_cons_of_ne_nil (by rw [htext]; exact Nat.toDigits_ne_nil)
  rw [hcs] at hdigits htext
  have hc := hdigits c (List.mem_cons_self ..)
  have hwhole : (c :: cs).takeWhile Char.isDigit = c :: cs := List.takeWhile_eq_self_iff.mpr hdigits
  have hrest : (c :: cs).dropWhile Char.isDigit = [] := List.dropWhile_eq_nil_iff.mpr hdigits
  have hvalue : Nat.ofDigitChars 10 (c :: cs) 0 = n := by
    rw [htext, Nat.ofDigitChars_ten_toDigits]
  have hne (other : Char) (hother : other.isDigit = false) : c ≠ other := by
    rintro rfl
    rw [hother] at hc
    cases hc
  have hinfinity : ['I', 'n', 'f', 'i', 'n', 'i', 't', 'y'].isPrefixOf (c :: cs) = false := by
    have hfirst : ('I' == c) = false := beq_eq_false_iff_ne.mpr (hne 'I' (by decide)).symm
    rw [List.isPrefixOf, hfirst, Bool.false_and]
  have hliteral : unsignedLiteral (c :: cs) = some (ofInt n) := by
    have hnonempty : ¬(c :: cs ++ [] = []) := by simp
    unfold unsignedLiteral
    rw [hinfinity, if_neg Bool.false_ne_true]
    dsimp only
    rw [hwhole, hrest, fractionPart]
    · dsimp only
      rw [if_neg hnonempty, List.append_nil, hvalue, exponentPart]
      simp [ofInt]
    · nofun
  unfold parseFloat
  rw [hcs, List.dropWhile_cons_of_neg (by rw [isJsSpace_of_isDigit hc]; exact Bool.false_ne_true)]
  split
  · rename_i heq
    exact absurd (List.cons.inj heq).1 (hne '-' (by decide))
  · rename_i heq
    exact absurd (List.cons.inj heq).1 (hne '+' (by decide))
  · rw [hliteral]
    rfl

end Datacat.Basics.F64
