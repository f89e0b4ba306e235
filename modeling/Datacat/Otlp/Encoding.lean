import Datacat.Otlp.Json
import Datacat.Otlp.Proto

/-!
# The Canonical OTLP/JSON Encoding of Attribute Values

The document that stands for a protobuf value in OTLP/JSON: 64-bit integers are decimal
strings, bytes are Base64, fields at their default value are left out, and the doubles that
JSON has no number for are strings.

## Main results

- `deserialize_encodeAnyValue`, `deserialize_encodeKeyValue`: the documents that the HTTP
  types accept are those without an empty key and without a non-finite double; they are read
  as the value they encode.
-/

namespace Datacat.Otlp.Encoding

open Basics

/-! ## Documents -/

def encodeU64 (n : UInt64) : Value := .string (toString n.toNat)

def encodeI64 (i : Int64) : Value := .string (toString i.toInt)

def encodeF64 (x : F64) : Value :=
  match Number.ofF64 x with
  | some n => .number n
  | none => .string (if x.isNaN then "NaN" else if x.signBit then "-Infinity" else "Infinity")

/-- A text at its default is left out. -/
def encodeText (s : String) : Option Value :=
  if s.isEmpty then none else some (.string s)

/-- A time stamp or a count, left out at zero. -/
def encodeFixed64 (n : UInt64) : Option Value :=
  if n = 0 then none else some (encodeU64 n)

/-- An enumeration value, left out at zero. -/
def encodeEnum (n : Int32) : Option Value :=
  if n = 0 then none else some (.number (.ofI64 n.toInt64))

/-- An identifier in hexadecimal, left out when it is not set. -/
def encodeId (bytes : List UInt8) : Option Value := (Proto.hexOpt bytes).map .string

def base64 (bytes : List UInt8) : String := String.ofList (base64Chars bytes)

mutual

def encodeAnyValue : Proto.AnyValue → Value
  | .unset => .record []
  | .stringValue s => .record [("stringValue", some (.string s))]
  | .boolValue b => .record [("boolValue", some (.bool b))]
  | .intValue i => .record [("intValue", some (encodeI64 i))]
  | .doubleValue d => .record [("doubleValue", some (encodeF64 d))]
  | .arrayValue values =>
    .record [("arrayValue", some (.record [("values", encodeList (encodeAnyValues values))]))]
  | .kvlistValue values =>
    .record [("kvlistValue", some (.record [("values", encodeList (encodeKeyValues values))]))]
  | .bytesValue bytes => .record [("bytesValue", some (.string (base64 bytes)))]
  | .stringValueStrindex index =>
    .record [("stringValueStrindex", some (.number (.ofI64 index.toInt64)))]

def encodeAnyValues : List Proto.AnyValue → List Value
  | [] => []
  | v :: rest => encodeAnyValue v :: encodeAnyValues rest

def encodeKeyValues : List Proto.KeyValue → List Value
  | [] => []
  | { key, value := some v } :: rest =>
    .record [("key", encodeText key), ("value", some (encodeAnyValue v))] :: encodeKeyValues rest
  | { key, value := none } :: rest => .record [("key", encodeText key)] :: encodeKeyValues rest

end

def encodeKeyValue (kv : Proto.KeyValue) : Value :=
  .record [("key", encodeText kv.key), ("value", kv.value.map encodeAnyValue)]

/-! ## The values the documents stand for -/

mutual

/-- The HTTP value of a protobuf value. -/
def anyvalue : Proto.AnyValue → Json.AnyValue
  | .stringValue s => { Json.AnyValue.empty with stringValue := some s }
  | .boolValue b => { Json.AnyValue.empty with boolValue := some b }
  | .intValue i => { Json.AnyValue.empty with intValue := some (.str (toString i.toInt)) }
  | .doubleValue d => { Json.AnyValue.empty with doubleValue := some d }
  | .arrayValue values => { Json.AnyValue.empty with arrayValue := some ⟨anyvalues values⟩ }
  | .kvlistValue values => { Json.AnyValue.empty with kvlistValue := some ⟨keyValues values⟩ }
  | .bytesValue bytes => { Json.AnyValue.empty with bytesValue := some (base64 bytes) }
  | .unset | .stringValueStrindex _ => Json.AnyValue.empty

def anyvalues : List Proto.AnyValue → List Json.AnyValue
  | [] => []
  | v :: rest => anyvalue v :: anyvalues rest

def keyValues : List Proto.KeyValue → List Json.KeyValue
  | [] => []
  | { key, value := some v } :: rest => { key, value := some (anyvalue v) } :: keyValues rest
  | { key, value := none } :: rest => { key, value := none } :: keyValues rest

end

/-- The HTTP form of a time stamp or a count. -/
def fixed64 (n : UInt64) : Option Json.StringOrNum :=
  if n = 0 then none else some (.str (toString n.toNat))

/-- The HTTP form of a text. -/
def text (s : String) : Option String :=
  if s.isEmpty then none else some s

def keyValue (kv : Proto.KeyValue) : Json.KeyValue :=
  { key := kv.key, value := kv.value.map anyvalue }

mutual

/-- No key is empty and every double is finite, at any depth. -/
def readable : Proto.AnyValue → Bool
  | .doubleValue d => d.isFinite
  | .arrayValue values => allReadable values
  | .kvlistValue values => keyValuesReadable values
  | _ => true

def allReadable : List Proto.AnyValue → Bool
  | [] => true
  | v :: rest => readable v && allReadable rest

def keyValuesReadable : List Proto.KeyValue → Bool
  | [] => true
  | { key, value := some v } :: rest => !key.isEmpty && readable v && keyValuesReadable rest
  | { key, value := none } :: rest => !key.isEmpty && keyValuesReadable rest

end

def keyValueReadable (kv : Proto.KeyValue) : Bool :=
  !kv.key.isEmpty && kv.value.all readable

theorem encodeAnyValues_eq_map (values : List Proto.AnyValue) :
    encodeAnyValues values = values.map encodeAnyValue := by
  induction values with
  | nil => rfl
  | cons v rest ih => rw [encodeAnyValues, ih, List.map_cons]

theorem anyvalues_eq_map (values : List Proto.AnyValue) :
    anyvalues values = values.map anyvalue := by
  induction values with
  | nil => rfl
  | cons v rest ih => rw [anyvalues, ih, List.map_cons]

theorem allReadable_eq_all (values : List Proto.AnyValue) :
    allReadable values = values.all readable := by
  induction values with
  | nil => rfl
  | cons v rest ih => rw [allReadable, ih, List.all_cons]

theorem encodeKeyValues_eq_map (values : List Proto.KeyValue) :
    encodeKeyValues values = values.map encodeKeyValue := by
  induction values with
  | nil => rfl
  | cons kv rest ih =>
    obtain ⟨key, value⟩ := kv
    cases value with
    | none => rw [encodeKeyValues, ih, List.map_cons]; rfl
    | some v => rw [encodeKeyValues, ih, List.map_cons]; rfl

theorem keyValues_eq_map (values : List Proto.KeyValue) :
    keyValues values = values.map keyValue := by
  induction values with
  | nil => rfl
  | cons kv rest ih =>
    obtain ⟨key, value⟩ := kv
    cases value with
    | none => rw [keyValues, ih, List.map_cons]; rfl
    | some v => rw [keyValues, ih, List.map_cons]; rfl

theorem keyValuesReadable_eq_all (values : List Proto.KeyValue) :
    keyValuesReadable values = values.all keyValueReadable := by
  induction values with
  | nil => rfl
  | cons kv rest ih =>
    obtain ⟨key, value⟩ := kv
    cases value with
    | none => simp [keyValuesReadable, ih, keyValueReadable]
    | some v => simp [keyValuesReadable, ih, keyValueReadable]

/-! ## Reading the documents -/

theorem readF64_encodeF64 (x : F64) :
    Value.readF64 (encodeF64 x) = if x.isFinite then some x else none := by
  by_cases h : x.isFinite = true
  · simp [encodeF64, Number.ofF64, h, Value.readF64, Number.asF64]
  · simp [encodeF64, Number.ofF64, h, Value.readF64]

theorem asU64_fixed64 (n : UInt64) :
    (fixed64 n).bind Json.StringOrNum.asU64 = if n = 0 then none else some n := by
  rw [fixed64]
  split
  · rfl
  · show parseU64 (trim (toString n.toNat).toList) = some n
    rw [trim_toString, parseU64_toString]

/-- The two transports read the same time stamp. -/
theorem nanos_fixed64 (n : UInt64) : Json.nanos (fixed64 n) = Proto.nz n := by
  rw [Json.nanos, asU64_fixed64, Proto.nz]
  by_cases hn : n = 0
  · simp [hn]
  · have hpos : decide (0 < n) = true := decide_eq_true (UInt64.pos_iff_ne_zero.mpr hn)
    rw [if_neg hn, if_pos hn, Option.filter_some, if_pos hpos, Option.bind_some]

theorem read_encodeFixed64 (n : UInt64) :
    defaulted (encodeFixed64 n) none (Value.readOption Json.StringOrNum.deserialize)
      = some (fixed64 n) := by
  rw [encodeFixed64, fixed64]
  split <;> rfl

theorem read_encodeText (s : String) :
    defaulted (encodeText s) none (Value.readOption Value.readString) = some (text s) := by
  rw [encodeText, text]
  split <;> rfl

theorem read_encodeId (bytes : List UInt8) :
    defaulted (encodeId bytes) none (Value.readOption Value.readString)
      = some (Proto.hexOpt bytes) := by
  rw [encodeId]
  cases Proto.hexOpt bytes <;> rfl

theorem read_encodeEnum (n : Int32) :
    defaulted (encodeEnum n) none (Value.readOption Value.readI64)
      = some (if n = 0 then none else some n.toInt64) := by
  rw [encodeEnum]
  split
  · rfl
  · show ((Number.ofI64 n.toInt64).asI64).map some = some (some n.toInt64)
    rw [Number.asI64_ofI64]
    rfl

theorem readOption_encodeF64 (x : F64) :
    Value.readOption Value.readF64 (encodeF64 x) = if x.isFinite then some (some x) else none := by
  have hne : encodeF64 x ≠ .null := by
    rw [encodeF64]
    split <;> simp
  rw [Value.readOption_of_ne_null hne, readF64_encodeF64]
  split <;> rfl

theorem encodeAnyValue_ne_null (v : Proto.AnyValue) : encodeAnyValue v ≠ .null := by
  cases v <;> simp [encodeAnyValue, Value.record]

/-- An attribute is readable when its key is not empty and its value is readable. -/
private theorem deserialize_keyValue_of_value {kv : Proto.KeyValue}
    (hvalue : ∀ v, kv.value = some v →
      Json.AnyValue.deserialize (encodeAnyValue v) = if readable v then some (anyvalue v) else none) :
    Json.KeyValue.deserialize (encodeKeyValue kv)
      = if keyValueReadable kv then some (keyValue kv) else none := by
  obtain ⟨key, value⟩ := kv
  rw [encodeKeyValue, Json.KeyValue.deserialize_record (by simp)]
  by_cases hkey : key = ""
  · simp [encodeText, hkey, keyValueReadable]
  · cases value with
    | none => simp [encodeText, hkey, keyValueReadable, keyValue, Value.readString]
    | some v =>
      have hread := Value.readOption_of_ne_null (encodeAnyValue_ne_null v) Json.AnyValue.deserialize
      rw [hvalue v rfl] at hread
      by_cases hv : readable v = true
      · simp [encodeText, hkey, keyValueReadable, keyValue, Value.readString, hread, hv]
      · simp [encodeText, hkey, keyValueReadable, Value.readString, hread, hv]

theorem deserialize_encodeAnyValue (v : Proto.AnyValue) :
    Json.AnyValue.deserialize (encodeAnyValue v) = if readable v then some (anyvalue v) else none := by
  induction v using Proto.AnyValue.induct with
  | unset => rw [encodeAnyValue, Json.AnyValue.deserialize_record (by simp)]; rfl
  | string s => rw [encodeAnyValue, Json.AnyValue.deserialize_record (by simp)]; rfl
  | bool b => rw [encodeAnyValue, Json.AnyValue.deserialize_record (by simp)]; rfl
  | int i => rw [encodeAnyValue, Json.AnyValue.deserialize_record (by simp)]; rfl
  | double d =>
    rw [encodeAnyValue, Json.AnyValue.deserialize_record (by simp)]
    -- A double that is not finite is null in JSON, which is no number.
    by_cases hd : d.isFinite = true
    · simp [readOption_encodeF64, hd, readable, anyvalue, Json.AnyValue.empty]
    · simp [readOption_encodeF64, hd, readable]
  | array values ih =>
    rw [encodeAnyValue, Json.AnyValue.deserialize_record (by simp)]
    -- The values of the list are read by induction.
    have hitems := @Json.ArrayValue.deserialize_record
      [("values", encodeList (encodeAnyValues values))] (by simp)
    rw [fieldOf_cons, if_pos rfl, encodeAnyValues_eq_map, readVec_encodeList _ ih] at hitems
    rw [readable, allReadable_eq_all, anyvalue, anyvalues_eq_map, encodeAnyValues_eq_map]
    by_cases hall : values.all readable = true
    · simp [Value.readOption_record, hitems, hall, Json.AnyValue.empty]
    · simp [Value.readOption_record, hitems, hall]
  | kvlist values ih =>
    rw [encodeAnyValue, Json.AnyValue.deserialize_record (by simp)]
    have hitems := @Json.KvList.deserialize_record
      [("values", encodeList (encodeKeyValues values))] (by simp)
    rw [fieldOf_cons, if_pos rfl, encodeKeyValues_eq_map,
      readVec_encodeList _ fun kv hkv => deserialize_keyValue_of_value (ih kv hkv)] at hitems
    rw [readable, keyValuesReadable_eq_all, anyvalue, keyValues_eq_map, encodeKeyValues_eq_map]
    by_cases hall : values.all keyValueReadable = true
    · simp [Value.readOption_record, hitems, hall, Json.AnyValue.empty]
    · simp [Value.readOption_record, hitems, hall]
  | bytes b => rw [encodeAnyValue, Json.AnyValue.deserialize_record (by simp)]; rfl
  | strindex i => rw [encodeAnyValue, Json.AnyValue.deserialize_record (by simp)]; rfl

theorem deserialize_encodeKeyValue (kv : Proto.KeyValue) :
    Json.KeyValue.deserialize (encodeKeyValue kv)
      = if keyValueReadable kv then some (keyValue kv) else none :=
  deserialize_keyValue_of_value fun v _ => deserialize_encodeAnyValue v

/-! ## Fields shared by the requests -/

def resourceReadable (r : Proto.Resource) : Bool := r.attributes.all keyValueReadable

/-- A resource is read when its attributes are; without one there is nothing to read. -/
theorem all_resourceReadable_iff (r : Option Proto.Resource) :
    r.all resourceReadable = true ↔
      ∀ kv ∈ (r.map (·.attributes)).getD [], keyValueReadable kv = true := by
  cases r with
  | none => exact iff_of_true rfl (List.forall_mem_nil _)
  | some r => exact List.all_eq_true

def encodeResource (r : Proto.Resource) : Value :=
  .record [("attributes", encodeList (r.attributes.map encodeKeyValue))]

def resource (r : Proto.Resource) : Json.Resource := { attributes := r.attributes.map keyValue }

def encodeScope (s : Proto.InstrumentationScope) : Value := .record [("name", encodeText s.name)]

def scope (s : Proto.InstrumentationScope) : Json.Scope := { name := text s.name }

theorem read_encodeKeyValues (attributes : List Proto.KeyValue) :
    defaulted (encodeList (attributes.map encodeKeyValue)) []
        (Value.readVec Json.KeyValue.deserialize)
      = if attributes.all keyValueReadable then some (attributes.map keyValue) else none :=
  readVec_encodeList _ fun kv _ => deserialize_encodeKeyValue kv

theorem deserialize_encodeResource (r : Proto.Resource) :
    Json.Resource.deserialize (encodeResource r)
      = if resourceReadable r then some (resource r) else none := by
  rw [Json.Resource.deserialize, encodeResource, Value.fields_record (by simp)]
  simp only [Option.bind_eq_bind, Option.bind_some, fieldOf_cons, if_true, read_encodeKeyValues,
    bind_readable, Option.pure_def]
  rfl

theorem deserialize_encodeScope (s : Proto.InstrumentationScope) :
    Json.Scope.deserialize (encodeScope s) = some (scope s) := by
  rw [Json.Scope.deserialize, encodeScope, Value.fields_record (by simp)]
  simp [read_encodeText, scope]

/-- An optional message is readable when it is absent or readable. -/
theorem read_optional {α β : Type} {encode : α → Value} {read : Value → Option β} {g : α → β}
    {readable : α → Bool} (hne : ∀ x, encode x ≠ .null)
    (h : ∀ x, read (encode x) = if readable x then some (g x) else none) (x : Option α) :
    defaulted (x.map encode) none (Value.readOption read)
      = if x.all readable then some (x.map g) else none := by
  cases x with
  | none => rfl
  | some x =>
    simp only [Option.map_some, defaulted_some, Value.readOption_of_ne_null (hne x), h x,
      Option.all_some]
    split <;> rfl

theorem read_encodeResource (r : Option Proto.Resource) :
    defaulted (r.map encodeResource) none (Value.readOption Json.Resource.deserialize)
      = if r.all resourceReadable then some (r.map resource) else none :=
  read_optional (fun r => by simp [encodeResource, Value.record]) deserialize_encodeResource r

theorem read_encodeScope (s : Option Proto.InstrumentationScope) :
    defaulted (s.map encodeScope) none (Value.readOption Json.Scope.deserialize)
      = some (s.map scope) := by
  cases s with
  | none => rfl
  | some s => exact congrArg (Option.map some) (deserialize_encodeScope s)

end Datacat.Otlp.Encoding
