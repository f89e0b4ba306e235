import Datacat.Basics.Float64

/-!
# Rounding of Doubles

Rounding to the nearest double keeps the order, and so does the conversion of an integer. The
quotient of two positive doubles is rounded too, but never across one: it is at most one exactly
when the dividend is at most the divisor, since the double after the divisor is already further
from it than rounding can bring it back.

## Main results

- `roundMagnitude_mono`: the magnitude bits grow with the rational.
- `bitsValue_natCast`: integers up to 2^53 are doubles.
- `div_le_one_iff`: a quotient of positive doubles is at most one exactly when it should be.
-/

namespace Datacat.Basics.F64

/-! ## To an integer -/

section HalfEven

variable {p q : ℚ} {n : ℤ}

theorem floor_le_roundHalfEven (q : ℚ) : ⌊q⌋ ≤ roundHalfEven q := by
  unfold roundHalfEven
  dsimp only
  split_ifs <;> omega

theorem roundHalfEven_le_floor_add_one (q : ℚ) : roundHalfEven q ≤ ⌊q⌋ + 1 := by
  unfold roundHalfEven
  dsimp only
  split_ifs <;> omega

theorem roundHalfEven_mono (h : p ≤ q) : roundHalfEven p ≤ roundHalfEven q := by
  rcases (Int.floor_le_floor h).lt_or_eq with hlt | heq
  · have hnext : ⌊p⌋ + 1 ≤ roundHalfEven q := hlt.trans_le (floor_le_roundHalfEven q)
    exact (roundHalfEven_le_floor_add_one p).trans hnext
  · -- The same integer below: the fractional parts decide.
    unfold roundHalfEven
    dsimp only
    rw [heq]
    have hfract : p - ⌊q⌋ ≤ q - ⌊q⌋ := by linarith
    split_ifs <;> first | omega | linarith

theorem roundHalfEven_intCast (n : ℤ) : roundHalfEven n = n := by
  unfold roundHalfEven
  simp

theorem le_roundHalfEven (h : (n : ℚ) ≤ q) : n ≤ roundHalfEven q :=
  (Int.le_floor.mpr h).trans (floor_le_roundHalfEven q)

theorem roundHalfEven_le (h : q ≤ n) : roundHalfEven q ≤ n := by
  rw [← roundHalfEven_intCast n]
  exact roundHalfEven_mono h

/-- Before the middle, the integer below. -/
theorem roundHalfEven_le_of_lt (h : q < n + 1 / 2) : roundHalfEven q ≤ n := by
  have hfloor : ⌊q⌋ ≤ n := by
    apply Int.lt_add_one_iff.mp
    apply Int.floor_lt.mpr
    push_cast
    linarith
  rcases hfloor.lt_or_eq with hlt | heq
  · exact (roundHalfEven_le_floor_add_one q).trans hlt
  · unfold roundHalfEven
    dsimp only
    rw [heq, if_pos (by linarith)]

/-- Past the middle, the integer above. -/
theorem lt_roundHalfEven (h : (n : ℚ) + 1 / 2 < q) : n < roundHalfEven q := by
  have hfloor : n ≤ ⌊q⌋ := Int.le_floor.mpr (by linarith)
  rcases hfloor.lt_or_eq with hlt | rfl
  · exact hlt.trans_le (floor_le_roundHalfEven q)
  · unfold roundHalfEven
    dsimp only
    rw [if_neg (by linarith), if_pos (by linarith)]
    omega

end HalfEven

/-! ## To a double -/

section Magnitude

variable {p q : ℚ}

/-- The exponent of the doubles around a rational. -/
def exponentOf (q : ℚ) : ℤ := Max.max (Int.log 2 q) (-1022)

/-- The significand of the double nearest to a rational. -/
def significandOf (q : ℚ) : ℤ := roundHalfEven (q / (2 : ℚ) ^ (exponentOf q - 52))

theorem roundMagnitude_of_pos (h : 0 < q) :
    roundMagnitude q =
      min ((exponentOf q + 1022).toNat * 2 ^ 52 + (significandOf q).toNat) (2047 * 2 ^ 52) :=
  if_neg (not_le.mpr h)

theorem roundMagnitude_zero : roundMagnitude 0 = 0 := if_pos le_rfl

theorem roundMagnitude_le (q : ℚ) : roundMagnitude q ≤ 2047 * 2 ^ 52 := by
  unfold roundMagnitude
  dsimp only
  split_ifs
  · exact Nat.zero_le _
  · exact min_le_right _ _

theorem exponentOf_mono (hp : 0 < p) (h : p ≤ q) : exponentOf p ≤ exponentOf q :=
  max_le_max_right _ (Int.log_mono_right hp h)

theorem neg_le_exponentOf (q : ℚ) : -1022 ≤ exponentOf q := le_max_right _ _

theorem lt_zpow_exponentOf (q : ℚ) : q < (2 : ℚ) ^ (exponentOf q + 1) := by
  have hlog : q < ((2 : ℕ) : ℚ) ^ (Int.log 2 q + 1) := Int.lt_zpow_succ_log_self (by decide) q
  refine hlog.trans_le ?_
  rw [Nat.cast_ofNat]
  exact zpow_le_zpow_right₀ (by norm_num) (by unfold exponentOf; omega)

/-- Above the smallest exponent the exponent is that of the rational. -/
theorem zpow_exponentOf_le (hq : 0 < q) (h : -1022 < exponentOf q) :
    (2 : ℚ) ^ exponentOf q ≤ q := by
  have hlog : exponentOf q = Int.log 2 q := by
    unfold exponentOf at h ⊢
    omega
  rw [hlog]
  have := @Int.zpow_log_le_self ℚ _ _ _ _ 2 q (by decide) hq
  rwa [Nat.cast_ofNat] at this

theorem significandOf_nonneg (hq : 0 < q) : 0 ≤ significandOf q := by
  apply le_roundHalfEven
  rw [Int.cast_zero]
  positivity

theorem significandOf_le (q : ℚ) : significandOf q ≤ 2 ^ 53 := by
  apply roundHalfEven_le
  rw [div_le_iff₀ (by positivity)]
  have hlt := (lt_zpow_exponentOf q).le
  calc q ≤ (2 : ℚ) ^ (exponentOf q + 1) := hlt
    _ = (2 : ℚ) ^ ((53 : ℤ) + (exponentOf q - 52)) := by congr 1; ring
    _ = ((2 ^ 53 : ℤ) : ℚ) * (2 : ℚ) ^ (exponentOf q - 52) := by
      rw [zpow_add₀ (by norm_num)]
      norm_num

theorem le_significandOf (hq : 0 < q) (h : -1022 < exponentOf q) : 2 ^ 52 ≤ significandOf q := by
  apply le_roundHalfEven
  rw [le_div_iff₀ (by positivity)]
  calc ((2 ^ 52 : ℤ) : ℚ) * (2 : ℚ) ^ (exponentOf q - 52)
      = (2 : ℚ) ^ ((52 : ℤ) + (exponentOf q - 52)) := by
        rw [zpow_add₀ (by norm_num)]
        norm_num
    _ = (2 : ℚ) ^ exponentOf q := by congr 1; ring
    _ ≤ q := zpow_exponentOf_le hq h

/-- **Monotonicity.** A larger rational has no smaller a double. -/
theorem roundMagnitude_mono (h : p ≤ q) : roundMagnitude p ≤ roundMagnitude q := by
  rcases le_or_gt p 0 with hp | hp
  · have hzero : roundMagnitude p = 0 := if_pos hp
    rw [hzero]
    exact Nat.zero_le _
  have hq : 0 < q := hp.trans_le h
  rw [roundMagnitude_of_pos hp, roundMagnitude_of_pos hq]
  apply min_le_min_right
  have hbottom := neg_le_exponentOf p
  have hsignificand := significandOf_nonneg hp
  rcases (exponentOf_mono hp h).lt_or_eq with hlt | heq
  · -- The larger exponent makes up for any significand of the smaller one.
    have hhigh := significandOf_le p
    have hlow := le_significandOf hq (hbottom.trans_lt hlt)
    omega
  · have hle : significandOf p ≤ significandOf q := by
      unfold significandOf
      rw [heq]
      exact roundHalfEven_mono (div_le_div_of_nonneg_right h (by positivity))
    rw [heq]
    omega

end Magnitude

/-! ## The value of the bits -/

section Value

/-- The exponent field as it scales: subnormal doubles have that of the smallest normal ones. -/
def scaleField (bits : Nat) : Nat := Max.max (bits / 2 ^ 52) 1

/-- The magnitude that sixty-three bits stand for. -/
def bitsValue (bits : Nat) : ℚ :=
  ((bits : ℤ) - (scaleField bits - 1) * 2 ^ 52 : ℤ) * (2 : ℚ) ^ ((scaleField bits : ℤ) - 1075)

theorem magnitude_eq_bitsValue (x : F64) (h : x.bits.toNat < 2 ^ 63) :
    x.magnitude = bitsValue x.bits.toNat := by
  have hfield : x.exponentField = x.bits.toNat / 2 ^ 52 := by
    unfold exponentField
    omega
  unfold magnitude bitsValue
  rw [hfield]
  split
  · rename_i hzero
    have hscale : scaleField x.bits.toNat = 1 := by
      unfold scaleField
      omega
    have hfraction : x.fraction = x.bits.toNat := by
      unfold fraction
      omega
    rw [hscale, hfraction]
    norm_num
  · rename_i hne
    have hscale : scaleField x.bits.toNat = x.bits.toNat / 2 ^ 52 := by
      unfold scaleField
      omega
    have hsignificand : (2 ^ 52 + x.fraction : ℤ) =
        (x.bits.toNat : ℤ) - ((x.bits.toNat / 2 ^ 52 : Nat) - 1) * 2 ^ 52 := by
      unfold fraction
      omega
    rw [hscale, ← hsignificand]
    push_cast
    rfl

/-- The scale goes up where the significand is full. -/
theorem scaleField_succ (bits : Nat) :
    scaleField (bits + 1) = scaleField bits ∨
      scaleField (bits + 1) = scaleField bits + 1 ∧ bits + 1 = (scaleField bits + 1) * 2 ^ 52 := by
  unfold scaleField
  omega

/-- **The next double** is further by one unit in the last place. -/
theorem bitsValue_succ (bits : Nat) :
    bitsValue (bits + 1) = bitsValue bits + (2 : ℚ) ^ ((scaleField bits : ℤ) - 1075) := by
  unfold bitsValue
  rcases scaleField_succ bits with hsame | ⟨hnext, hfull⟩
  · rw [hsame]
    push_cast
    ring
  · -- The significand carries into the exponent: twice the unit, half as many of them.
    have hbits : (bits : ℚ) = (scaleField bits + 1) * 2 ^ 52 - 1 := by
      rw [eq_sub_iff_add_eq]
      exact_mod_cast hfull
    have hpower : (2 : ℚ) ^ ((scaleField bits : ℤ) + 1 - 1075) =
        2 * (2 : ℚ) ^ ((scaleField bits : ℤ) - 1075) := by
      rw [add_sub_right_comm, zpow_add_one₀ (by norm_num), mul_comm]
    rw [hnext]
    push_cast
    rw [hpower, hbits]
    ring

theorem bitsValue_strictMono : StrictMono bitsValue := by
  apply strictMono_nat_of_lt_succ
  intro bits
  rw [bitsValue_succ]
  exact lt_add_of_pos_right _ (by positivity)

theorem bitsValue_zero : bitsValue 0 = 0 := by
  unfold bitsValue scaleField
  norm_num

theorem bitsValue_nonneg (bits : Nat) : 0 ≤ bitsValue bits := by
  rw [← bitsValue_zero]
  exact bitsValue_strictMono.monotone (Nat.zero_le bits)

/-- A normal double is less than 2^53 units in its last place. -/
theorem bitsValue_lt (bits : Nat) :
    bitsValue bits < 2 ^ 53 * (2 : ℚ) ^ ((scaleField bits : ℤ) - 1075) := by
  unfold bitsValue
  have hsignificand : (bits : ℤ) - (scaleField bits - 1) * 2 ^ 52 < 2 ^ 53 := by
    unfold scaleField
    omega
  exact mul_lt_mul_of_pos_right (by exact_mod_cast hsignificand) (by positivity)

/-- What is above a positive double is above it by more than rounding to one can bring back. -/
theorem lt_bitsValue_div {x y : Nat} (hy : 0 < y) (h : y < x) :
    1 + 1 / 2 ^ 53 < bitsValue x / bitsValue y := by
  have hpos : 0 < bitsValue y := by
    rw [← bitsValue_zero]
    exact bitsValue_strictMono hy
  have hnext : bitsValue (y + 1) ≤ bitsValue x := bitsValue_strictMono.monotone h
  rw [bitsValue_succ] at hnext
  have hunit := bitsValue_lt y
  rw [lt_div_iff₀ hpos]
  linarith

/-- Short of infinity, the bits stand for the significand at its exponent. -/
theorem bitsValue_roundMagnitude {q : ℚ} (hq : 0 < q) (h : exponentOf q < 1023) :
    bitsValue (roundMagnitude q) = significandOf q * (2 : ℚ) ^ (exponentOf q - 52) := by
  have hbottom := neg_le_exponentOf q
  have hnonneg := significandOf_nonneg hq
  have hhigh := significandOf_le q
  obtain ⟨e, he⟩ : ∃ e : Nat, exponentOf q = e - 1022 := ⟨(exponentOf q + 1022).toNat, by omega⟩
  obtain ⟨m, hm⟩ : ∃ m : Nat, significandOf q = m := ⟨(significandOf q).toNat, by omega⟩
  have hbits : roundMagnitude q = e * 2 ^ 52 + m := by
    rw [roundMagnitude_of_pos hq, he, hm]
    omega
  have hlow : e = 0 ∨ 2 ^ 52 ≤ m := by
    by_cases hzero : e = 0
    · exact .inl hzero
    · have := le_significandOf hq (by omega)
      exact .inr (by omega)
  unfold bitsValue
  rw [hbits, he, hm]
  by_cases hcarry : m = 2 ^ 53
  · -- The significand was rounded up to a power of two: half of it, at the next exponent.
    have hscale : scaleField (e * 2 ^ 52 + m) = e + 2 := by
      unfold scaleField
      omega
    have hpower : (2 : ℚ) ^ ((e : ℤ) + 2 - 1075) = 2 * (2 : ℚ) ^ ((e : ℤ) - 1022 - 52) := by
      rw [show (e : ℤ) + 2 - 1075 = 1 + (e - 1022 - 52) by ring, zpow_add₀ (by norm_num), zpow_one]
    rw [hscale, hcarry]
    push_cast
    rw [hpower]
    ring
  · have hscale : scaleField (e * 2 ^ 52 + m) = e + 1 := by
      unfold scaleField
      omega
    rw [hscale]
    push_cast
    rw [show (e : ℤ) + 1 - 1075 = e - 1022 - 52 by ring]
    ring

/-- **Exactness.** The integers up to 2^53 are doubles. -/
theorem bitsValue_natCast {n : Nat} (h : n ≤ 2 ^ 53) : bitsValue (roundMagnitude n) = n := by
  rcases Nat.eq_zero_or_pos n with rfl | hpos
  · rw [Nat.cast_zero, roundMagnitude_zero, bitsValue_zero]
  have hq : (0 : ℚ) < n := Nat.cast_pos.mpr hpos
  have hone : (1 : ℚ) ≤ n := Nat.one_le_cast.mpr hpos
  have hle : (n : ℚ) ≤ 2 ^ 53 := by exact_mod_cast h
  have hlow : 0 ≤ exponentOf n := by
    have := (Int.zpow_le_iff_le_log (b := 2) (x := 0) (r := (n : ℚ)) (by decide) hq).mp
      (by simpa using hone)
    unfold exponentOf
    omega
  have hhigh : exponentOf n ≤ 53 := by
    have := (Int.lt_zpow_iff_log_lt (b := 2) (x := 54) (r := (n : ℚ)) (by decide) hq).mp
      (hle.trans_lt (by norm_num))
    unfold exponentOf
    omega
  -- The significand is an integer before it is rounded.
  obtain ⟨m, hm⟩ : ∃ m : ℤ, (n : ℚ) = m * (2 : ℚ) ^ (exponentOf n - 52) := by
    rcases hhigh.lt_or_eq with hlt | heq
    · refine ⟨n * 2 ^ (52 - exponentOf n).toNat, ?_⟩
      have hinverse : (2 : ℚ) ^ (52 - exponentOf n).toNat * (2 : ℚ) ^ (exponentOf n - 52) = 1 := by
        rw [← zpow_natCast, ← zpow_add₀ (by norm_num), Int.toNat_of_nonneg (by omega)]
        norm_num
      push_cast
      rw [mul_assoc, hinverse, mul_one]
    · have hlast : (2 : ℚ) ^ 53 ≤ n := by
        have := zpow_exponentOf_le hq (by omega)
        rw [heq] at this
        exact_mod_cast this
      refine ⟨2 ^ 52, ?_⟩
      rw [heq, le_antisymm hle hlast]
      norm_num
  have hpower : (2 : ℚ) ^ (exponentOf n - 52) ≠ 0 := (zpow_pos (by norm_num) _).ne'
  have hsignificand : significandOf n = m := by
    unfold significandOf
    rw [(div_eq_iff hpower).mpr hm, roundHalfEven_intCast]
  rw [bitsValue_roundMagnitude hq (by omega), hsignificand]
  exact hm.symm

/-- Up to there the conversion tells integers apart. -/
theorem roundMagnitude_lt {m n : Nat} (h : m < n) (hn : m < 2 ^ 53) :
    roundMagnitude m < roundMagnitude n := by
  have hnext : roundMagnitude m < roundMagnitude ((m + 1 : Nat) : ℚ) := by
    rw [← bitsValue_strictMono.lt_iff_lt, bitsValue_natCast hn.le, bitsValue_natCast hn]
    exact_mod_cast Nat.lt_succ_self m
  exact hnext.trans_le (roundMagnitude_mono (by exact_mod_cast h))

end Value

/-! ## Doubles that are not negative -/

section NonNeg

variable {p q : ℚ}

theorem bits_ofRat (h : 0 ≤ q) : (ofRat q).bits.toNat = roundMagnitude q := by
  have hle := roundMagnitude_le q
  unfold ofRat
  rw [if_neg (not_lt.mpr h), UInt64.toNat_ofNat_of_lt']
  rw [UInt64.size]
  omega

theorem signBit_ofRat (h : 0 ≤ q) : (ofRat q).signBit = false := by
  have hle := roundMagnitude_le q
  unfold signBit
  rw [bits_ofRat h, decide_eq_false_iff_not]
  omega

theorem isNaN_ofRat (h : 0 ≤ q) : (ofRat q).isNaN = false := by
  have hle := roundMagnitude_le q
  unfold isNaN exponentField fraction
  rw [bits_ofRat h, Bool.and_eq_false_iff, beq_eq_false_iff_ne, bne_eq_false_iff_eq]
  omega

theorem rank_ofRat (h : 0 ≤ q) : (ofRat q).rank = roundMagnitude q := by
  have hle := roundMagnitude_le q
  unfold rank
  rw [signBit_ofRat h, bits_ofRat h, if_neg Bool.false_ne_true]
  omega

theorem ofRat_le_ofRat_iff (hp : 0 ≤ p) (hq : 0 ≤ q) :
    (ofRat p).le (ofRat q) = true ↔ roundMagnitude p ≤ roundMagnitude q := by
  unfold le
  rw [isNaN_ofRat hp, isNaN_ofRat hq, rank_ofRat hp, rank_ofRat hq, Bool.not_false, Bool.true_and,
    Bool.true_and, decide_eq_true_iff, Int.ofNat_le]

theorem ofRat_eq_iff (hp : 0 ≤ p) (hq : 0 ≤ q) :
    ofRat p = ofRat q ↔ roundMagnitude p = roundMagnitude q := by
  rw [← bits_ofRat hp, ← bits_ofRat hq]
  constructor
  · intro h
    rw [h]
  · intro h
    exact congrArg F64.mk (UInt64.toNat_inj.mp h)

theorem toRat_ofRat (h : 0 ≤ q) : (ofRat q).toRat = bitsValue (roundMagnitude q) := by
  have hle := roundMagnitude_le q
  unfold toRat
  rw [signBit_ofRat h, if_neg Bool.false_ne_true, magnitude_eq_bitsValue, bits_ofRat h]
  rw [bits_ofRat h]
  omega

theorem div_ofRat (hp : 0 ≤ p) (hq : 0 ≤ q) :
    (ofRat p).div (ofRat q) =
      ofRat (bitsValue (roundMagnitude p) / bitsValue (roundMagnitude q)) := by
  unfold div
  rw [toRat_ofRat hp, toRat_ofRat hq]

end NonNeg

/-! ## One -/

section One

variable {p q : ℚ}

theorem exponentOf_eq_zero (hlow : 1 ≤ q) (hhigh : q < 2) : exponentOf q = 0 := by
  have hle := neg_le_exponentOf q
  have hpos : 0 < q := zero_lt_one.trans_le hlow
  have hlog : Int.log 2 q = 0 := by
    apply le_antisymm
    · have := (Int.lt_zpow_iff_log_lt (R := ℚ) (b := 2) (x := 1) (by decide) hpos).mp
        (by simpa using hhigh)
      omega
    · exact (Int.zpow_le_iff_le_log (by decide) hpos).mp (by simpa using hlow)
  unfold exponentOf
  omega

theorem roundMagnitude_one : roundMagnitude 1 = 1023 * 2 ^ 52 := by
  have hexponent : exponentOf 1 = 0 := exponentOf_eq_zero le_rfl (by norm_num)
  have hsignificand : significandOf 1 = 2 ^ 52 := by
    unfold significandOf
    rw [hexponent, show (1 : ℚ) / 2 ^ ((0 : ℤ) - 52) = ((2 ^ 52 : ℤ) : ℚ) by norm_num]
    exact roundHalfEven_intCast _
  rw [roundMagnitude_of_pos zero_lt_one, hexponent, hsignificand]
  rfl

/-- Past the middle between one and the next double, the next double. -/
theorem lt_roundMagnitude (h : 1 + 1 / 2 ^ 53 < q) : 1023 * 2 ^ 52 < roundMagnitude q := by
  -- Monotonicity leaves the rationals between one and two.
  have hp : 1 + 1 / 2 ^ 53 < min q (3 / 2) := lt_min h (by norm_num)
  refine lt_of_lt_of_le ?_ (roundMagnitude_mono (min_le_left q (3 / 2)))
  have hhigh : min q (3 / 2) < 2 := (min_le_right q (3 / 2)).trans_lt (by norm_num)
  generalize min q (3 / 2) = p at hp hhigh
  have hone : (1 : ℚ) ≤ p := by linarith
  have hexponent := exponentOf_eq_zero hone hhigh
  have hsignificand : 2 ^ 52 < significandOf p := by
    unfold significandOf
    rw [hexponent]
    apply lt_roundHalfEven
    rw [lt_div_iff₀ (by positivity)]
    norm_num at hp ⊢
    linarith
  rw [roundMagnitude_of_pos (zero_lt_one.trans_le hone), hexponent]
  omega

/-- **Quotients and one.** The rounded quotient of two doubles, the divisor at least one, is at most
one exactly when the dividend is at most the divisor. -/
theorem div_le_one_iff (hp : 0 ≤ p) (hq : 1 ≤ q) :
    ((ofRat p).div (ofRat q)).le (ofRat 1) = true ↔ roundMagnitude p ≤ roundMagnitude q := by
  have hq0 : 0 ≤ q := zero_le_one.trans hq
  have hbits : 0 < roundMagnitude q := by
    have hone := roundMagnitude_mono hq
    rw [roundMagnitude_one] at hone
    omega
  have hpos : 0 < bitsValue (roundMagnitude q) := by
    rw [← bitsValue_zero]
    exact bitsValue_strictMono hbits
  have hquotient : 0 ≤ bitsValue (roundMagnitude p) / bitsValue (roundMagnitude q) :=
    div_nonneg (bitsValue_nonneg _) hpos.le
  rw [div_ofRat hp hq0, ofRat_le_ofRat_iff hquotient zero_le_one]
  constructor
  · intro h
    by_contra hlt
    have habove := lt_roundMagnitude (lt_bitsValue_div hbits (not_le.mp hlt))
    rw [roundMagnitude_one] at h
    omega
  · intro h
    apply roundMagnitude_mono
    rw [div_le_one hpos]
    exact bitsValue_strictMono.monotone h

/-- It is never negative. -/
theorem zero_le_div (hp : 0 ≤ p) (hq : 0 ≤ q) :
    (ofRat 0).le ((ofRat p).div (ofRat q)) = true := by
  have hquotient : 0 ≤ bitsValue (roundMagnitude p) / bitsValue (roundMagnitude q) :=
    div_nonneg (bitsValue_nonneg _) (bitsValue_nonneg _)
  rw [div_ofRat hp hq, ofRat_le_ofRat_iff le_rfl hquotient]
  exact roundMagnitude_mono hquotient

end One

/-! ## Both signs -/

section Signed

variable {p q : ℚ}

theorem bits_ofRat_of_neg (h : q < 0) : (ofRat q).bits.toNat = 2 ^ 63 + roundMagnitude (-q) := by
  have hle := roundMagnitude_le (-q)
  unfold ofRat
  rw [if_pos h, UInt64.toNat_ofNat_of_lt']
  rw [UInt64.size]
  omega

theorem signBit_ofRat_of_neg (h : q < 0) : (ofRat q).signBit = true := by
  unfold signBit
  rw [bits_ofRat_of_neg h, decide_eq_true_eq]
  omega

theorem isNaN_ofRat_of_neg (h : q < 0) : (ofRat q).isNaN = false := by
  have hle := roundMagnitude_le (-q)
  unfold isNaN exponentField fraction
  rw [bits_ofRat_of_neg h, Bool.and_eq_false_iff, beq_eq_false_iff_ne, bne_eq_false_iff_eq]
  omega

theorem rank_ofRat_of_neg (h : q < 0) : (ofRat q).rank = -roundMagnitude (-q) := by
  have hle := roundMagnitude_le (-q)
  unfold rank
  rw [signBit_ofRat_of_neg h, bits_ofRat_of_neg h, if_pos rfl]
  omega

/-- Rounding keeps the order. -/
theorem ofRat_mono (h : p ≤ q) : (ofRat p).le (ofRat q) = true := by
  rcases lt_or_ge p 0 with hp | hp
  · unfold le
    rw [isNaN_ofRat_of_neg hp, rank_ofRat_of_neg hp]
    rcases lt_or_ge q 0 with hq | hq
    · have hmono := roundMagnitude_mono (neg_le_neg h)
      rw [isNaN_ofRat_of_neg hq, rank_ofRat_of_neg hq, Bool.not_false, Bool.true_and, Bool.true_and,
        decide_eq_true_eq]
      omega
    · rw [isNaN_ofRat hq, rank_ofRat hq, Bool.not_false, Bool.true_and, Bool.true_and,
        decide_eq_true_eq]
      omega
  · exact (ofRat_le_ofRat_iff hp (hp.trans h)).mpr (roundMagnitude_mono h)

theorem toRat_ofRat_of_neg (h : q < 0) : (ofRat q).toRat = -bitsValue (roundMagnitude (-q)) := by
  have hpos := neg_pos.mpr h
  have hmagnitude : (ofRat q).magnitude = (ofRat (-q)).magnitude := by
    have hexponent : (2 ^ 63 + roundMagnitude (-q)) / 2 ^ 52 % 2 ^ 11 =
        roundMagnitude (-q) / 2 ^ 52 % 2 ^ 11 := by omega
    have hfraction : (2 ^ 63 + roundMagnitude (-q)) % 2 ^ 52 = roundMagnitude (-q) % 2 ^ 52 := by
      omega
    unfold magnitude exponentField fraction
    rw [bits_ofRat_of_neg h, bits_ofRat hpos.le, hexponent, hfraction]
  have hvalue := toRat_ofRat hpos.le
  unfold toRat at hvalue ⊢
  rw [signBit_ofRat hpos.le, if_neg Bool.false_ne_true] at hvalue
  rw [signBit_ofRat_of_neg h, if_pos rfl, hmagnitude, hvalue]

/-- The integers of at most 53 bits are doubles. -/
theorem toRat_ofInt {n : ℤ} (h : n.natAbs ≤ 2 ^ 53) : (ofInt n).toRat = n := by
  unfold ofInt
  rcases lt_or_ge n 0 with hn | hn
  · have habs : (-(n : ℚ)) = (n.natAbs : ℚ) := by
      rw [← Int.cast_neg, ← Int.cast_natCast, Int.ofNat_natAbs_of_nonpos hn.le]
    rw [toRat_ofRat_of_neg (Int.cast_lt_zero.mpr hn), habs, bitsValue_natCast h, ← habs, neg_neg]
  · have habs : (n : ℚ) = (n.natAbs : ℚ) := by
      rw [← Int.cast_natCast, Int.natAbs_of_nonneg hn]
    rw [toRat_ofRat (Int.cast_nonneg hn), habs, bitsValue_natCast h]

/-- A rational up to an integer of at most 53 bits is rounded to a number up to it. -/
theorem toRat_ofRat_le {n : ℕ} (hn : n ≤ 2 ^ 53) (h : q ≤ n) : (ofRat q).toRat ≤ n := by
  rcases lt_or_ge q 0 with hq | hq
  · rw [toRat_ofRat_of_neg hq]
    exact (neg_nonpos.mpr (bitsValue_nonneg _)).trans (Nat.cast_nonneg n)
  · rw [toRat_ofRat hq, ← bitsValue_natCast hn]
    exact bitsValue_strictMono.monotone (roundMagnitude_mono h)

theorem le_toRat_ofRat {n : ℕ} (hn : n ≤ 2 ^ 53) (h : (n : ℚ) ≤ q) : (n : ℚ) ≤ (ofRat q).toRat := by
  rw [toRat_ofRat ((Nat.cast_nonneg n).trans h)]
  calc (n : ℚ) = bitsValue (roundMagnitude n) := (bitsValue_natCast hn).symm
    _ ≤ bitsValue (roundMagnitude q) := bitsValue_strictMono.monotone (roundMagnitude_mono h)

end Signed

/-! ## Overflow -/

section Overflow

variable {q : ℚ} {x : F64}

/-- The largest double. -/
def largest : ℚ := (2 ^ 53 - 1) * 2 ^ (971 : ℤ)

/-- The middle between the largest double and the next power of two, which is rounded to
infinity. -/
def overflow : ℚ := (2 ^ 54 - 1) * 2 ^ (970 : ℤ)

/-- Powers of two next to the overflow. -/
theorem zpow_eq_mul (e : ℤ) : (2 : ℚ) ^ e = 2 ^ (e - 970) * 2 ^ (970 : ℤ) := by
  rw [← zpow_add₀ (by norm_num), Int.sub_add_cancel]

theorem overflow_pos : 0 < overflow := mul_pos (by norm_num) (by positivity)

theorem exponentOf_overflow : exponentOf overflow = 1023 := by
  have hpos : (0 : ℚ) < 2 ^ (970 : ℤ) := by positivity
  have hlow : 1023 ≤ Int.log 2 overflow := by
    apply (Int.zpow_le_iff_le_log (R := ℚ) (by decide) overflow_pos).mp
    rw [Nat.cast_ofNat, zpow_eq_mul 1023, overflow]
    exact mul_le_mul_of_nonneg_right (by norm_num) hpos.le
  have hhigh : Int.log 2 overflow < 1024 := by
    apply (Int.lt_zpow_iff_log_lt (R := ℚ) (by decide) overflow_pos).mp
    rw [Nat.cast_ofNat, zpow_eq_mul 1024, overflow]
    exact mul_lt_mul_of_pos_right (by norm_num) hpos
  unfold exponentOf
  omega

/-- The overflow at the last exponent. -/
theorem overflow_eq_mul : overflow = (2 ^ 53 - 1 + 1 / 2) * 2 ^ ((1023 : ℤ) - 52) := by
  rw [zpow_eq_mul, overflow, ← mul_assoc]
  congr 1
  norm_num

theorem significandOf_overflow : significandOf overflow = 2 ^ 53 := by
  have hhalf : overflow / (2 : ℚ) ^ (exponentOf overflow - 52) = ((2 ^ 53 - 1 : ℤ) : ℚ) + 1 / 2 := by
    rw [exponentOf_overflow, overflow_eq_mul, mul_div_cancel_right₀ _ (by positivity)]
    norm_num
  have hfloor : ⌊((2 ^ 53 - 1 : ℤ) : ℚ) + 1 / 2⌋ = 2 ^ 53 - 1 := by
    rw [Int.floor_intCast_add]
    norm_num
  -- The middle goes to the even one of the two.
  unfold significandOf
  rw [hhalf]
  unfold roundHalfEven
  dsimp only
  rw [hfloor]
  norm_num

theorem roundMagnitude_lt_iff (q : ℚ) : roundMagnitude q < 2047 * 2 ^ 52 ↔ q < overflow := by
  constructor
  · intro h
    by_contra hle
    have hmono := roundMagnitude_mono (not_lt.mp hle)
    rw [roundMagnitude_of_pos overflow_pos, exponentOf_overflow, significandOf_overflow] at hmono
    omega
  · intro h
    rcases le_or_gt q 0 with hq | hq
    · rw [roundMagnitude, if_pos hq]
      norm_num
    have hexponent := exponentOf_mono hq h.le
    rw [exponentOf_overflow] at hexponent
    have hsignificand := significandOf_le q
    rw [roundMagnitude_of_pos hq]
    rcases hexponent.lt_or_eq with hlt | heq
    · omega
    · have hlow : significandOf q ≤ 2 ^ 53 - 1 := by
        unfold significandOf
        rw [heq]
        apply roundHalfEven_le_of_lt
        rw [div_lt_iff₀ (by positivity)]
        rw [show ((2 ^ 53 - 1 : ℤ) : ℚ) + 1 / 2 = 2 ^ 53 - 1 + 1 / 2 by norm_num,
          ← overflow_eq_mul]
        exact h
      rw [heq]
      omega

/-- **Overflow.** A rational is rounded to a number exactly below the overflow. -/
theorem isFinite_ofRat_iff (q : ℚ) : (ofRat q).isFinite = true ↔ |q| < overflow := by
  have hle := roundMagnitude_le |q|
  rw [← roundMagnitude_lt_iff]
  unfold isFinite exponentField
  rw [bne_iff_ne]
  rcases lt_or_ge q 0 with hq | hq
  · rw [abs_of_neg hq] at hle ⊢
    rw [bits_ofRat_of_neg hq]
    omega
  · rw [abs_of_nonneg hq] at hle ⊢
    rw [bits_ofRat hq]
    omega

/-- The largest double is far enough below it for the integers of 53 bits. -/
theorem largest_add_lt_overflow : largest + 2 ^ 53 < overflow := by
  have hlarge : largest = (2 ^ 54 - 2) * 2 ^ (970 : ℤ) := by
    unfold largest
    rw [zpow_eq_mul 971, ← mul_assoc]
    congr 1
    norm_num
  have hlt : (2 : ℚ) ^ (53 : ℤ) < 2 ^ (970 : ℤ) := zpow_lt_zpow_right₀ (by norm_num) (by norm_num)
  rw [show (53 : ℤ) = ((53 : ℕ) : ℤ) from rfl, zpow_natCast] at hlt
  rw [hlarge, overflow]
  generalize (2 : ℚ) ^ (970 : ℤ) = p at hlt ⊢
  linarith

theorem magnitude_le (h : x.isFinite = true) : x.magnitude ≤ largest := by
  have hexponent : x.exponentField < 2047 := by
    have hlt : x.exponentField < 2 ^ 11 := Nat.mod_lt _ (by decide)
    have hne : x.exponentField ≠ 2047 := bne_iff_ne.mp h
    omega
  have hfraction : (x.fraction : ℚ) + 1 ≤ 2 ^ 52 := by
    have hlt : x.fraction < 2 ^ 52 := Nat.mod_lt _ (by decide)
    exact_mod_cast hlt
  have hpow (e : ℤ) (he : e ≤ 971) : (2 : ℚ) ^ e ≤ 2 ^ (971 : ℤ) :=
    zpow_le_zpow_right₀ (by norm_num) he
  unfold magnitude largest
  split
  · apply mul_le_mul (by linarith) (hpow _ (by decide)) (by positivity) (by norm_num)
  · apply mul_le_mul _ (hpow _ (by omega)) (by positivity) (by norm_num)
    push_cast
    linarith

theorem abs_toRat_le (h : x.isFinite = true) : |x.toRat| ≤ largest := by
  have hnonneg : 0 ≤ x.magnitude := by
    unfold magnitude
    split <;> positivity
  unfold toRat
  split
  · rw [abs_neg, abs_of_nonneg hnonneg]
    exact magnitude_le h
  · rw [abs_of_nonneg hnonneg]
    exact magnitude_le h

end Overflow

end Datacat.Basics.F64
