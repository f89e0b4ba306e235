import Datacat.Otlp.Common

/-!
# OTLP/gRPC Types and Conversions

The protobuf types shared by logs, traces and metrics, and the conversion of attribute values
to stored JSON.
-/

namespace Datacat.Otlp.Proto

open Basics

mutual

/-- `AnyValue`, whose `oneof` may be unset. `stringValueStrindex` is the variant of recent
protocol versions that refers to a string table. -/
inductive AnyValue where
  | unset
  | stringValue (s : String)
  | boolValue (b : Bool)
  | intValue (i : Int64)
  | doubleValue (d : F64)
  | arrayValue (values : List AnyValue)
  | kvlistValue (values : List KeyValue)
  | bytesValue (bytes : List UInt8)
  | stringValueStrindex (index : Int32)

structure KeyValue where
  key : String
  value : Option AnyValue

end

/-- Induction over the nested values: an array may use its items, a list of attributes the
values of its attributes. -/
@[elab_as_elim]
theorem AnyValue.induct {motive : AnyValue → Prop}
    (unset : motive .unset)
    (string : ∀ s, motive (.stringValue s))
    (bool : ∀ b, motive (.boolValue b))
    (int : ∀ i, motive (.intValue i))
    (double : ∀ d, motive (.doubleValue d))
    (array : ∀ values, (∀ v ∈ values, motive v) → motive (.arrayValue values))
    (kvlist : ∀ values, (∀ kv ∈ values, ∀ v, kv.value = some v → motive v) →
      motive (.kvlistValue values))
    (bytes : ∀ bytes, motive (.bytesValue bytes))
    (strindex : ∀ index, motive (.stringValueStrindex index)) :
    ∀ v, motive v
  | .unset => unset
  | .stringValue s => string s
  | .boolValue b => bool b
  | .intValue i => int i
  | .doubleValue d => double d
  | .arrayValue values => array values (items values)
  | .kvlistValue values => kvlist values (attributes values)
  | .bytesValue b => bytes b
  | .stringValueStrindex index => strindex index
where
  items : ∀ values : List AnyValue, ∀ v ∈ values, motive v
    | [], _, h => nomatch h
    | w :: rest, v, h => by
      rcases List.mem_cons.mp h with heq | hrest
      · rw [heq]
        exact AnyValue.induct unset string bool int double array kvlist bytes strindex w
      · exact items rest v hrest
  attributes : ∀ values : List KeyValue, ∀ kv ∈ values, ∀ v, kv.value = some v → motive v
    | [], _, h, _, _ => nomatch h
    | { key := _, value := none } :: rest, kv, h, v, hv => by
      rcases List.mem_cons.mp h with heq | hrest
      · rw [heq] at hv
        contradiction
      · exact attributes rest kv hrest v hv
    | { key := _, value := some w } :: rest, kv, h, v, hv => by
      rcases List.mem_cons.mp h with heq | hrest
      · rw [heq] at hv
        rw [← Option.some.inj hv]
        exact AnyValue.induct unset string bool int double array kvlist bytes strindex w
      · exact attributes rest kv hrest v hv

structure Resource where
  attributes : List KeyValue

structure InstrumentationScope where
  name : String

/-! ## Identifiers -/

def hex (bytes : List UInt8) : String := String.ofList (hexChars bytes)

/-- None when there are no bytes: the identifier is not set. -/
def hexOpt (bytes : List UInt8) : Option String :=
  if bytes.isEmpty then none else some (hex bytes)

/-- An identifier that is set has a text. -/
theorem hexOpt_filter (bytes : List UInt8) :
    (hexOpt bytes).filter (fun s => !s.isEmpty) = hexOpt bytes := by
  cases bytes with
  | nil => rfl
  | cons b bytes =>
    have hne : (hex (b :: bytes)).isEmpty = false := by simp [hex, hexChars]
    simp [hexOpt, Option.filter_some, hne]

/-- A time stamp in nanoseconds; zero is none. -/
def nz (nanos : UInt64) : Option DateTime :=
  if nanos ≠ 0 then nanosToDt nanos else none

/-! ## Conversion to stored JSON -/

mutual

def anyvalueToJson : AnyValue → Value
  | .stringValue s => .string s
  | .boolValue b => .bool b
  | .intValue i => .number (.ofI64 i)
  | .doubleValue d =>
    match Number.ofF64 d with
    | some n => .number n
    | none => .null
  | .arrayValue values => .array (anyvaluesToJson values)
  | .kvlistValue values => .ofMap (BTreeMap.ofEntries (keyValuesToJson values))
  | .bytesValue bytes => .string (hex bytes)
  -- a reference to a string table is not resolved
  | .stringValueStrindex _ => .null
  | .unset => .null

def anyvaluesToJson : List AnyValue → List Value
  | [] => []
  | v :: rest => anyvalueToJson v :: anyvaluesToJson rest

/-- The entries that `attrsToMap` inserts, in order. -/
def keyValuesToJson : List KeyValue → List (String × Value)
  | [] => []
  | { key, value := some v } :: rest => (key, anyvalueToJson v) :: keyValuesToJson rest
  | { key, value := none } :: rest => (key, .null) :: keyValuesToJson rest

end

def attrsToMap (attrs : List KeyValue) : Map :=
  BTreeMap.ofEntries (keyValuesToJson attrs)

/-- What `attrsToMap` stores under the key of an attribute. -/
def KeyValue.toJson (kv : KeyValue) : Value :=
  match kv.value with
  | some v => anyvalueToJson v
  | none => .null

theorem anyvaluesToJson_eq_map (values : List AnyValue) :
    anyvaluesToJson values = values.map anyvalueToJson := by
  induction values with
  | nil => rfl
  | cons v rest ih => rw [anyvaluesToJson, ih, List.map_cons]

theorem keyValuesToJson_eq_map (attrs : List KeyValue) :
    keyValuesToJson attrs = attrs.map fun kv => (kv.key, kv.toJson) := by
  induction attrs with
  | nil => rfl
  | cons kv rest ih =>
    obtain ⟨key, value⟩ := kv
    cases value with
    | none => rw [keyValuesToJson, ih, List.map_cons, KeyValue.toJson]
    | some v => rw [keyValuesToJson, ih, List.map_cons, KeyValue.toJson]

section Text

variable [FloatFormat]

def anyvalueToString (v : AnyValue) : String :=
  match anyvalueToJson v with
  | .string s => s
  | other => other.toJsonString

end Text

end Datacat.Otlp.Proto
