import Mathlib
import Datacat.Basics.BTreeMap
import Datacat.Basics.Float64

/-!
# JSON Values

The value tree of the JSON library: numbers are unsigned, negative or floating (each case
carries the proof that it is the one its value calls for), objects are entry lists. An object
of the program is an ordered map; the entry list of an object read from a document is in
document order.
-/

namespace Datacat.Basics

/-! ## Numbers -/

/-- `serde_json::Number`: a non-negative integer, a negative integer or a finite double. -/
inductive Number where
  | posInt (n : UInt64)
  | negInt (i : Int64) (neg : i.toInt < 0)
  | float (x : F64) (finite : x.isFinite = true)
deriving DecidableEq

namespace Number

def ofU64 (n : UInt64) : Number := .posInt n

/-- `Number::from(i64)`. -/
def ofI64 (i : Int64) : Number :=
  if h : i.toInt < 0 then .negInt i h else .posInt i.toUInt64

/-- `Number::from_f64`: none for the infinities and `NaN`. -/
def ofF64 (x : F64) : Option Number :=
  if h : x.isFinite = true then some (.float x h) else none

def asU64 : Number → Option UInt64
  | .posInt n => some n
  | _ => none

def asI64 : Number → Option Int64
  | .posInt n => if n.toNat < 2 ^ 63 then some n.toInt64 else none
  | .negInt i _ => some i
  | .float .. => none

def asF64 : Number → F64
  | .posInt n => F64.ofInt n.toNat
  | .negInt i _ => F64.ofInt i.toInt
  | .float x _ => x

/-- An `i64` is read back from the number made of it. -/
theorem asI64_ofI64 (i : Int64) : (ofI64 i).asI64 = some i := by
  by_cases h : i.toInt < 0
  · simp [ofI64, h, asI64]
  · have hle : (0 : Int64) ≤ i := Int64.le_iff_toInt_le.mpr (not_lt.mp h)
    have hnat : i.toUInt64.toNat = i.toInt.toNat := Int64.toNat_toUInt64_of_le hle
    have hlt : i.toInt.toNat < 2 ^ 63 := by
      have := Int64.toInt_lt i
      omega
    simp only [ofI64, h, dite_false, asI64, hnat, hlt, if_true]
    rfl

end Number

/-! ## Values -/

/-- `serde_json::Value`. -/
inductive Value where
  | null
  | bool (b : Bool)
  | number (n : Number)
  | string (s : String)
  | array (items : List Value)
  | object (entries : List (String × Value))

/-- `serde_json::Map`: keys in increasing order. -/
abbrev Map := BTreeMap String Value

namespace Value

def ofMap (m : Map) : Value := .object m.entries

theorem ofMap_injective : Function.Injective ofMap := by
  intro m n h
  cases m
  cases n
  simpa [ofMap] using h

/-- `Value::as_str`. -/
def asStr : Value → Option String
  | .string s => some s
  | _ => none

mutual

def decEq : (v w : Value) → Decidable (v = w)
  | .null, .null => isTrue rfl
  | .bool a, .bool b => decidable_of_iff (a = b) (by simp)
  | .number a, .number b => decidable_of_iff (a = b) (by simp)
  | .string a, .string b => decidable_of_iff (a = b) (by simp)
  | .array a, .array b =>
    match decEqItems a b with
    | isTrue h => isTrue (by rw [h])
    | isFalse h => isFalse (by simpa using h)
  | .object a, .object b =>
    match decEqEntries a b with
    | isTrue h => isTrue (by rw [h])
    | isFalse h => isFalse (by simpa using h)
  | .null, .bool _ | .null, .number _ | .null, .string _ | .null, .array _ | .null, .object _
  | .bool _, .null | .bool _, .number _ | .bool _, .string _ | .bool _, .array _
  | .bool _, .object _ | .number _, .null | .number _, .bool _ | .number _, .string _
  | .number _, .array _ | .number _, .object _ | .string _, .null | .string _, .bool _
  | .string _, .number _ | .string _, .array _ | .string _, .object _ | .array _, .null
  | .array _, .bool _ | .array _, .number _ | .array _, .string _ | .array _, .object _
  | .object _, .null | .object _, .bool _ | .object _, .number _ | .object _, .string _
  | .object _, .array _ => isFalse nofun

def decEqItems : (a b : List Value) → Decidable (a = b)
  | [], [] => isTrue rfl
  | [], _ :: _ => isFalse nofun
  | _ :: _, [] => isFalse nofun
  | v :: a, w :: b =>
    match decEq v w, decEqItems a b with
    | isTrue h, isTrue ht => isTrue (by rw [h, ht])
    | isFalse h, _ => isFalse fun e => h (List.cons.inj e).1
    | _, isFalse ht => isFalse fun e => ht (List.cons.inj e).2

def decEqEntries : (a b : List (String × Value)) → Decidable (a = b)
  | [], [] => isTrue rfl
  | [], _ :: _ => isFalse nofun
  | _ :: _, [] => isFalse nofun
  | (k, v) :: a, (l, w) :: b =>
    if hk : k = l then
      match decEq v w, decEqEntries a b with
      | isTrue h, isTrue ht => isTrue (by rw [hk, h, ht])
      | isFalse h, _ => isFalse fun e => h (Prod.mk.inj (List.cons.inj e).1).2
      | _, isFalse ht => isFalse fun e => ht (List.cons.inj e).2
    else isFalse fun e => hk (Prod.mk.inj (List.cons.inj e).1).1

end

instance : DecidableEq Value := decEq

/-! ## U+0000 in a value -/

mutual

/-- Some string or some key of the value, at any depth, holds U+0000. -/
def hasNul : Value → Bool
  | .null | .bool _ | .number _ => false
  | .string s => Basics.hasNul s
  | .array items => hasNulItems items
  | .object entries => hasNulEntries entries

def hasNulItems : List Value → Bool
  | [] => false
  | v :: rest => v.hasNul || hasNulItems rest

def hasNulEntries : List (String × Value) → Bool
  | [] => false
  | (k, v) :: rest => Basics.hasNul k || v.hasNul || hasNulEntries rest

end

theorem hasNulItems_eq_any (items : List Value) : hasNulItems items = items.any hasNul := by
  induction items with
  | nil => rfl
  | cons v rest ih => rw [hasNulItems, ih, List.any_cons]

theorem hasNulEntries_eq_any (entries : List (String × Value)) :
    hasNulEntries entries = entries.any fun e => Basics.hasNul e.1 || e.2.hasNul := by
  induction entries with
  | nil => rfl
  | cons e rest ih => rw [hasNulEntries, ih, List.any_cons]

/-- A value found in a map free of U+0000 is free of U+0000. -/
theorem hasNul_of_get {m : Map} (h : (ofMap m).hasNul = false) {key : String} {v : Value}
    (hv : m.get key = some v) : v.hasNul = false := by
  have hmem := (m.get_eq_some_iff key v).mp hv
  rw [ofMap, hasNul, hasNulEntries_eq_any, List.any_eq_false] at h
  have hentry := h _ hmem
  simp only [Bool.or_eq_true, not_or, Bool.not_eq_true] at hentry
  exact hentry.2

end Value

end Datacat.Basics
