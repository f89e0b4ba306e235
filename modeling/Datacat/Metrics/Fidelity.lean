import Datacat.Basics.Rounding
import Datacat.Metrics.Model

/-!
# Integers of the Points

OTLP writes the 64-bit integers of a point as decimal strings, and a JSON integer is accepted too.
All of them are read as unsigned integers, whichever sign their field has, and then cast to signed
ones for the columns. The counts of the buckets that are not read are left out of the list.

## Main results

- `asU64_of_written`, `asU64_of_neg`: what is read of an integer in each notation.
- `faithful_iff`: the integers of the stored points are those of the request exactly when values are
  not negative, counts are below 2^63 and the counts of buckets fit in 64 bits.
-/

namespace Datacat.Metrics

open Basics Otlp
open Otlp.Json (StringOrNum)

/-! ## Notations -/

/-- The decimal digits of a number, with leading zeros perhaps. -/
def DigitsOf (digits : List Char) (n : Nat) : Prop :=
  digits ≠ [] ∧ (∀ c ∈ digits, c.isDigit = true) ∧ Nat.ofDigitChars 10 digits 0 = n

/-- The integer, as a decimal string or as a JSON integer. A JSON integer that fits in neither 64-bit
type is read as the nearest double. -/
def Written : StringOrNum → Int → Prop
  | .str s, i =>
    ∃ digits, DigitsOf digits i.natAbs ∧ s.toList = if i < 0 then '-' :: digits else digits
  | .num (.posInt n), i => (n.toNat : Int) = i
  | .num (.negInt j _), i => j.toInt = i
  | .num (.float x _), i => x = F64.ofInt i ∧ ¬ (-(2 ^ 63) ≤ i ∧ i < 2 ^ 64)

/-- `toString` is one of the ways to write an integer. -/
theorem written_toString (i : Int) : Written (.str (toString i)) i := by
  have htext : (toString i.natAbs).toList = Nat.toDigits 10 i.natAbs := Nat.toList_repr
  have hdigits : DigitsOf (toString i.natAbs).toList i.natAbs := by
    refine ⟨?_, fun c hc => isDigit_of_mem_toString hc, ?_⟩
    · rw [htext]
      exact Nat.toDigits_ne_nil
    · rw [htext, Nat.ofDigitChars_ten_toDigits]
  refine ⟨_, hdigits, ?_⟩
  split
  · rename_i hneg
    rw [toString_of_neg hneg]
    simp
  · rename_i hnonneg
    have hnat : i.toNat = i.natAbs := by omega
    rw [toString_of_nonneg (not_lt.mp hnonneg), hnat]

/-! ## What is read -/

section Reading

variable {x : StringOrNum} {i : Int} {digits : List Char}

theorem parseU64_of_digitsOf {n : Nat} (h : DigitsOf digits n) (hn : n < 2 ^ 64) :
    parseU64 (trim digits) = some (UInt64.ofNat n) := by
  obtain ⟨hne, hall, hvalue⟩ := h
  have hparse : parseDigits digits = some (UInt64.ofNat n) := by
    unfold parseDigits
    rw [if_pos ⟨hne, List.all_eq_true.mpr hall⟩, hvalue]
    exact if_pos hn
  rw [trim_eq_self fun c hc => isWhitespace_of_isDigit (hall c hc)]
  unfold parseU64
  split
  · exact absurd (hall '+' (List.mem_cons_self ..)) (by decide)
  · exact hparse

/-- A minus sign is no digit. -/
theorem parseU64_minus (hall : ∀ c ∈ digits, c.isDigit = true) :
    parseU64 (trim ('-' :: digits)) = none := by
  have hspace : ∀ c ∈ '-' :: digits, isWhitespace c = false := by
    rw [List.forall_mem_cons]
    exact ⟨by decide, fun c hc => isWhitespace_of_isDigit (hall c hc)⟩
  have hminus : ('-' : Char).isDigit = false := by decide
  rw [trim_eq_self hspace]
  simp [parseU64, parseDigits, hminus]

/-- What fits in an unsigned integer is read as it is. -/
theorem asU64_of_written (h : Written x i) (hnonneg : 0 ≤ i) (hlt : i < 2 ^ 64) :
    ∃ u, x.asU64 = some u ∧ (u.toNat : Int) = i := by
  match x, h with
  | .str s, ⟨digits, hdigits, hs⟩ =>
    rw [if_neg (not_lt.mpr hnonneg)] at hs
    refine ⟨UInt64.ofNat i.natAbs, ?_, ?_⟩
    · show parseU64 (trim s.toList) = _
      rw [hs]
      exact parseU64_of_digitsOf hdigits (by omega)
    · rw [UInt64.toNat_ofNat_of_lt' (by rw [UInt64.size]; omega)]
      omega
  | .num (.posInt n), h => exact ⟨n, rfl, h⟩
  | .num (.negInt j hj), h => exact absurd hnonneg (not_le.mpr (h ▸ hj))
  | .num (.float d _), h => exact absurd ⟨by omega, hlt⟩ h.2

/-- A negative integer is not read as a string, and read as 0 otherwise. -/
theorem asU64_of_neg (h : Written x i) (hneg : i < 0) : x.asU64 = none ∨ x.asU64 = some 0 := by
  have hclamped : (F64.ofInt i).toU64 = 0 := by
    have hsign : (F64.ofInt i).signBit = true := by
      have hcast : (i : ℚ) < 0 := Int.cast_lt_zero.mpr hneg
      have hle := F64.roundMagnitude_le (-(i : ℚ))
      unfold F64.ofInt F64.ofRat F64.signBit
      rw [if_pos hcast, decide_eq_true_iff, UInt64.toNat_ofNat_of_lt' (by rw [UInt64.size]; omega)]
      omega
    unfold F64.toU64
    rw [hsign, Bool.or_true, if_pos rfl]
  cases x with
  | str s =>
    obtain ⟨digits, hdigits, hs⟩ := h
    left
    rw [if_pos hneg] at hs
    show parseU64 (trim s.toList) = none
    rw [hs]
    exact parseU64_minus hdigits.2.1
  | num n =>
    cases n with
    | posInt n =>
      have hvalue : (n.toNat : Int) = i := h
      omega
    | negInt j hj =>
      right
      show some (F64.ofInt j.toInt).toU64 = some 0
      rw [show j.toInt = i from h, hclamped]
    | float d hd =>
      right
      show some d.toU64 = some 0
      rw [h.1, hclamped]

/-- The cast keeps an unsigned integer that a signed one can be. -/
theorem toInt_toInt64_eq_iff {u : UInt64} : u.toInt64.toInt = u.toNat ↔ u.toNat < 2 ^ 63 := by
  constructor
  · intro h
    have hlt := Int64.toInt_lt u.toInt64
    omega
  · intro h
    show u.toBitVec.toInt = u.toNat
    rw [BitVec.toInt_eq_toNat_of_lt, UInt64.toNat_toBitVec]
    rw [UInt64.toNat_toBitVec]
    omega

/-- What the column of an integer holds. -/
theorem stored_eq_iff (h : Written x i) (hlow : -(2 ^ 63) ≤ i) (hhigh : i < 2 ^ 64) :
    (x.asU64.map UInt64.toInt64).map Int64.toInt = some i ↔ 0 ≤ i ∧ i < 2 ^ 63 := by
  rcases lt_or_ge i 0 with hneg | hnonneg
  · have hne : (x.asU64.map UInt64.toInt64).map Int64.toInt ≠ some i := by
      rcases asU64_of_neg h hneg with hx | hx
      · rw [hx]
        nofun
      · rw [hx]
        intro heq
        have hzero : (0 : Int) = i := Option.some.inj heq
        omega
    exact iff_of_false hne fun h => absurd h.1 (not_le.mpr hneg)
  · obtain ⟨u, hu, rfl⟩ := asU64_of_written h hnonneg hhigh
    rw [hu, and_iff_right hnonneg, Option.map_some, Option.map_some, Option.some.injEq,
      toInt_toInt64_eq_iff]
    omega

end Reading

/-! ## The counts of the buckets -/

section Buckets

variable {xs : List StringOrNum} {ns : List Int}

/-- The counts that fit are read in their places. -/
theorem filterMap_asU64 (h : List.Forall₂ Written xs ns) (hfits : ∀ n ∈ ns, 0 ≤ n ∧ n < 2 ^ 64) :
    (xs.filterMap StringOrNum.asU64).map (fun u => (u.toNat : Int)) = ns := by
  induction h with
  | nil => rfl
  | @cons x n xs ns hwritten _ ih =>
    rw [List.forall_mem_cons] at hfits
    obtain ⟨u, hu, rfl⟩ := asU64_of_written hwritten hfits.1.1 hfits.1.2
    rw [List.filterMap_cons_some hu, List.map_cons, ih hfits.2]

/-- The counts that a stored histogram holds. -/
def StoredMetricPoint.bucketCounts (p : StoredMetricPoint) : Option Value :=
  match p.buckets with
  | some (.object entries) => entries.lookup "counts"
  | _ => none

/-- JSON integers. -/
def countsJson (counts : List UInt64) : Value :=
  .array (counts.map fun n => .number (.ofU64 n))

theorem bucketCounts_of_buckets {p : StoredMetricPoint} {bounds : List F64} {counts : List UInt64}
    (h : p.buckets = some (bucketsJson bounds counts)) :
    p.bucketCounts = some (countsJson counts) := by
  unfold StoredMetricPoint.bucketCounts
  rw [h]
  show (BTreeMap.ofEntries _).get "counts" = _
  rw [BTreeMap.get_ofEntries]
  rfl

end Buckets

/-! ## Points -/

/-- The integers of a point are stored as they were submitted. -/
def Faithful (p : Point) (stored : StoredMetricPoint) : Prop :=
  match p with
  | .number _ p => ∀ x i, p.asInt = some x → Written x i → -(2 ^ 63) ≤ i → i < 2 ^ 63 →
      stored.valueInt.map Int64.toInt = some i
  | .histogram p =>
    (∀ x n, p.count = some x → Written x n → 0 ≤ n → n < 2 ^ 64 →
        stored.count.map Int64.toInt = some n) ∧
      ∀ ns, List.Forall₂ Written p.bucketCounts ns →
        ∃ us, stored.bucketCounts = some (countsJson us) ∧ us.map (fun u => (u.toNat : Int)) = ns

/-- The value is not negative, the count is below 2^63, and the counts of the buckets are 64-bit
unsigned integers. -/
def FaithfulWhen (p : Point) : Prop :=
  match p with
  | .number _ p => ∀ x i, p.asInt = some x → Written x i → -(2 ^ 63) ≤ i → i < 2 ^ 63 → 0 ≤ i
  | .histogram p =>
    (∀ x n, p.count = some x → Written x n → 0 ≤ n → n < 2 ^ 64 → n < 2 ^ 63) ∧
      ∀ ns, List.Forall₂ Written p.bucketCounts ns → ∀ n ∈ ns, 0 ≤ n ∧ n < 2 ^ 64

section Points

variable [FloatFormat] [Sha256]

theorem faithful_assemble_iff (c : PointContext) (receivedAt : DateTime) :
    Faithful c.point (assemble (c.fields receivedAt)) ↔ FaithfulWhen c.point := by
  unfold PointContext.fields
  split
  · rename_i metricType p hpoint
    rw [hpoint]
    unfold Faithful FaithfulWhen
    dsimp only
    refine forall₂_congr fun x i => forall₂_congr fun hx hwritten =>
      forall₂_congr fun hlow hhigh => ?_
    show ((p.asInt.bind StringOrNum.asU64).map UInt64.toInt64).map Int64.toInt = some i ↔ 0 ≤ i
    rw [hx, Option.bind_some, stored_eq_iff hwritten hlow (by omega), and_iff_left hhigh]
  · rename_i p hpoint
    rw [hpoint]
    unfold Faithful FaithfulWhen
    dsimp only
    apply and_congr
    · refine forall₂_congr fun x n => forall₂_congr fun hx hwritten =>
        forall₂_congr fun hlow hhigh => ?_
      show ((p.count.bind StringOrNum.asU64).map UInt64.toInt64).map Int64.toInt = some n ↔ _
      rw [hx, Option.bind_some, stored_eq_iff hwritten (by omega) hhigh, and_iff_right hlow]
    · refine forall₂_congr fun ns hns => ?_
      rw [bucketCounts_of_buckets rfl]
      constructor
      · rintro ⟨us, -, rfl⟩ n hn
        obtain ⟨u, -, rfl⟩ := List.mem_map.mp hn
        have hlt := u.toNat_lt
        omega
      · intro hfits
        exact ⟨_, rfl, filterMap_asU64 hns hfits⟩

/-- The points of a request that are not refused: those of the window, up to the limit. -/
def ExportMetricsServiceRequest.kept (req : ExportMetricsServiceRequest) (receivedAt : DateTime)
    (window : DateTime × DateTime) (maxRecords : Nat) : List PointContext :=
  (req.points.filter fun c => !outsideWindow window (c.fields receivedAt).time).take (maxRecords + 1)

/-- **Integers of the points.** Each point of a request is refused or stored with the integers that
were submitted exactly when the values of those stored are not negative, their counts are below 2^63
and the counts of their buckets are 64-bit unsigned integers. -/
theorem faithful_iff {req : ExportMetricsServiceRequest} {receivedAt : DateTime}
    {limits : ValidationLimits} {maxRecords : Nat} {out : MetricsParse}
    {window : DateTime × DateTime} (hwindow : skewWindow receivedAt limits = some window)
    (h : otlpToMetrics req receivedAt limits maxRecords = some out) :
    List.Forall₂ (fun c stored => Faithful c.point stored)
        (req.kept receivedAt window maxRecords) out.stored ↔
      ∀ c ∈ req.kept receivedAt window maxRecords, FaithfulWhen c.point := by
  rw [otlpToMetrics_eq, hwindow, Option.map_some] at h
  rw [← Option.some.inj h]
  dsimp only
  rw [show (List.take (maxRecords + 1) (List.filter _ req.points)) =
    req.kept receivedAt window maxRecords from rfl, List.forall₂_map_right_iff, List.forall₂_same]
  exact forall₂_congr fun c _ => faithful_assemble_iff c receivedAt

end Points

/-! ## A gauge -/

def gaugePoint (asInt : StringOrNum) : NumberDataPoint where
  timeUnixNano := none
  asDouble := none
  asInt := some asInt
  attributes := []

def gaugeMetric (asInt : StringOrNum) : Metric where
  name := some "temperature"
  unit := none
  gauge := some ⟨[gaugePoint asInt]⟩
  sum := none
  histogram := none

def gaugeRequest (asInt : StringOrNum) : ExportMetricsServiceRequest :=
  ⟨[⟨none, [⟨none, [gaugeMetric asInt]⟩]⟩]⟩

def gaugeContext (asInt : StringOrNum) : PointContext :=
  ⟨none, none, gaugeMetric asInt, .number .gauge (gaugePoint asInt)⟩

def gaugeStored (asInt : StringOrNum) : StoredMetricPoint :=
  @assemble FloatFormat.ofBits Sha256.standard ((gaugeContext asInt).fields ⟨0⟩)

def gaugeWindow : DateTime × DateTime :=
  (⟨-testLimits.maxPastSkew⟩, ⟨testLimits.maxFutureSkew⟩)

theorem skewWindow_gauge : skewWindow ⟨0⟩ testLimits = some gaugeWindow := by rfl

theorem kept_gauge (asInt : StringOrNum) :
    (gaugeRequest asInt).kept ⟨0⟩ gaugeWindow 500 = [gaugeContext asInt] := by rfl

/-- The only point of the request is stored. -/
theorem otlpToMetrics_gauge (asInt : StringOrNum) :
    @otlpToMetrics FloatFormat.ofBits Sha256.standard (gaugeRequest asInt) ⟨0⟩ testLimits 500 =
      some ⟨[gaugeStored asInt], 0⟩ := by
  rw [@otlpToMetrics_eq FloatFormat.ofBits Sha256.standard, skewWindow_gauge]
  rfl

theorem faithful_iff_gauge :
    List.Forall₂ (fun c stored => Faithful c.point stored)
      ((gaugeRequest (.str "7")).kept ⟨0⟩ gaugeWindow 500) [gaugeStored (.str "7")] := by
  apply (@faithful_iff FloatFormat.ofBits Sha256.standard _ _ _ _ _ _ skewWindow_gauge
    (otlpToMetrics_gauge _)).mpr
  rw [kept_gauge, List.forall_mem_singleton]
  rintro x i hx hwritten - -
  obtain rfl := Option.some.inj hx
  obtain ⟨digits, -, htext⟩ := hwritten
  by_contra hneg
  rw [if_pos (not_le.mp hneg)] at htext
  exact absurd (List.cons.inj htext).1 (by decide)

/-- A negative value given as a string is stored as NULL. -/
theorem not_faithful_gauge :
    @otlpToMetrics FloatFormat.ofBits Sha256.standard (gaugeRequest (.str "-5")) ⟨0⟩ testLimits
        500 = some ⟨[gaugeStored (.str "-5")], 0⟩ ∧
      ¬ List.Forall₂ (fun c stored => Faithful c.point stored)
        ((gaugeRequest (.str "-5")).kept ⟨0⟩ gaugeWindow 500) [gaugeStored (.str "-5")] := by
  refine ⟨otlpToMetrics_gauge _, fun h => ?_⟩
  rw [kept_gauge, List.forall₂_cons] at h
  have hstored := h.1 (.str "-5") (-5) rfl (written_toString (-5)) (by decide) (by decide)
  have hnone : (gaugeStored (.str "-5")).valueInt = none := by rfl
  rw [hnone] at hstored
  cases hstored

end Datacat.Metrics
