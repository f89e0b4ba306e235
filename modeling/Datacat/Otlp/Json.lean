import Datacat.Basics.Json.Serde
import Datacat.Otlp.Common

/-!
# OTLP/HTTP Types and Conversions

The OTLP types shared by logs, traces and metrics, as they are read from the JSON encoding,
and the conversion of attribute values to stored JSON.
-/

namespace Datacat.Otlp.Json

open Basics

/-! ## Wire types -/

/-- An integer written as a string, as OTLP/JSON does, or as a number. -/
inductive StringOrNum where
  | str (s : String)
  | num (n : Number)
deriving DecidableEq

mutual

/-- `AnyValue`: the first field present, in the order of `anyvalueToJson`, is the value. -/
structure AnyValue where
  stringValue : Option String
  intValue : Option StringOrNum
  doubleValue : Option F64
  boolValue : Option Bool
  arrayValue : Option ArrayValue
  kvlistValue : Option KvList
  bytesValue : Option String

structure ArrayValue where
  values : List AnyValue

structure KvList where
  values : List KeyValue

structure KeyValue where
  key : String
  value : Option AnyValue

end

structure Resource where
  attributes : List KeyValue

structure Scope where
  name : Option String

/-- `AnyValue::default()`: no value. -/
def AnyValue.empty : AnyValue where
  stringValue := none
  intValue := none
  doubleValue := none
  boolValue := none
  arrayValue := none
  kvlistValue := none
  bytesValue := none

def StringOrNum.asU64 : StringOrNum → Option UInt64
  | .str s => parseU64 (trim s.toList)
  | .num n => n.asU64.orElse fun _ => some n.asF64.toU64

/-- A time stamp in nanoseconds; absent, unreadable and zero are all none. -/
def nanos (t : Option StringOrNum) : Option DateTime :=
  ((t.bind StringOrNum.asU64).filter fun n => decide (0 < n)).bind nanosToDt

/-! ## Conversion to stored JSON -/

mutual

def anyvalueToJson : AnyValue → Value
  | { stringValue := some s, .. } => .string s
  | { intValue := some n, .. } =>
    match n.asU64 with
    | some u => .number (.ofU64 u)
    | none => .null
  | { doubleValue := some d, .. } =>
    match Number.ofF64 d with
    | some n => .number n
    | none => .null
  | { boolValue := some b, .. } => .bool b
  | { arrayValue := some ⟨values⟩, .. } => .array (anyvaluesToJson values)
  | { kvlistValue := some ⟨values⟩, .. } => .ofMap (BTreeMap.ofEntries (keyValuesToJson values))
  | { bytesValue := some bytes, .. } => .string bytes
  | _ => .null

def anyvaluesToJson : List AnyValue → List Value
  | [] => []
  | v :: rest => anyvalueToJson v :: anyvaluesToJson rest

/-- The entries that `attrsToMap` inserts, in order. -/
def keyValuesToJson : List KeyValue → List (String × Value)
  | [] => []
  | { key, value := some v } :: rest => (key, anyvalueToJson v) :: keyValuesToJson rest
  | { key, value := none } :: rest => (key, .null) :: keyValuesToJson rest

end

def attrsToMap (attrs : List KeyValue) : Map :=
  BTreeMap.ofEntries (keyValuesToJson attrs)

/-- What `attrsToMap` stores under the key of an attribute. -/
def KeyValue.toJson (kv : KeyValue) : Value :=
  match kv.value with
  | some v => anyvalueToJson v
  | none => .null

theorem anyvaluesToJson_eq_map (values : List AnyValue) :
    anyvaluesToJson values = values.map anyvalueToJson := by
  induction values with
  | nil => rfl
  | cons v rest ih => rw [anyvaluesToJson, ih, List.map_cons]

theorem keyValuesToJson_eq_map (attrs : List KeyValue) :
    keyValuesToJson attrs = attrs.map fun kv => (kv.key, kv.toJson) := by
  induction attrs with
  | nil => rfl
  | cons kv rest ih =>
    obtain ⟨key, value⟩ := kv
    cases value with
    | none => rw [keyValuesToJson, ih, List.map_cons, KeyValue.toJson]
    | some v => rw [keyValuesToJson, ih, List.map_cons, KeyValue.toJson]

section Text

variable [FloatFormat]

/-- Text of a value: a string stands for itself, the rest is serialized. -/
def anyvalueToString (v : AnyValue) : String :=
  match anyvalueToJson v with
  | .string s => s
  | other => other.toJsonString

end Text

/-! ## Reading the wire types -/

namespace StringOrNum

def deserialize : Value → Option StringOrNum
  | .string s => some (.str s)
  | .number n => some (.num n)
  | _ => none

end StringOrNum

/-- A document as each of the recursive types. -/
structure Reads where
  doc : Value
  anyValue : Option AnyValue
  arrayValue : Option ArrayValue
  kvList : Option KvList
  keyValue : Option KeyValue
  anyValues : Option (List AnyValue)
  keyValues : Option (List KeyValue)

namespace Reads

/-- `Option<T>` of a recursive type. -/
def option {α : Type} (read : Reads → Option α) (r : Reads) : Option (Option α) :=
  match r.doc with
  | .null => some none
  | _ => (read r).map some

def readAnyValue (level : Node Reads) : Option AnyValue := do
  let field ← level.fields ["stringValue", "intValue", "doubleValue", "boolValue", "arrayValue",
    "kvlistValue", "bytesValue"]
  return {
    stringValue := ← defaulted (field "stringValue") none fun r => r.doc.readOption Value.readString
    intValue := ← defaulted (field "intValue") none fun r =>
      r.doc.readOption StringOrNum.deserialize
    doubleValue := ← defaulted (field "doubleValue") none fun r => r.doc.readOption Value.readF64
    boolValue := ← defaulted (field "boolValue") none fun r => r.doc.readOption Value.readBool
    arrayValue := ← defaulted (field "arrayValue") none (option arrayValue)
    kvlistValue := ← defaulted (field "kvlistValue") none (option kvList)
    bytesValue := ← defaulted (field "bytesValue") none fun r => r.doc.readOption Value.readString }

def readArrayValue (level : Node Reads) : Option ArrayValue := do
  let field ← level.fields ["values"]
  return { values := ← defaulted (field "values") [] anyValues }

def readKvList (level : Node Reads) : Option KvList := do
  let field ← level.fields ["values"]
  return { values := ← defaulted (field "values") [] keyValues }

def readKeyValue (level : Node Reads) : Option KeyValue := do
  let field ← level.fields ["key", "value"]
  return {
    key := ← required (field "key") fun r => r.doc.readString
    value := ← defaulted (field "value") none (option anyValue) }

def readItems {α : Type} (read : Reads → Option α) : Node Reads → Option (List α)
  | .array items => items.mapM read
  | _ => none

/-- Reads one level, its children being read. -/
def level (doc : Value) (level : Node Reads) : Reads where
  doc := doc
  anyValue := readAnyValue level
  arrayValue := readArrayValue level
  kvList := readKvList level
  keyValue := readKeyValue level
  anyValues := readItems anyValue level
  keyValues := readItems keyValue level

end Reads

def reads : Value → Reads := Value.fold Reads.level

def AnyValue.deserialize (doc : Value) : Option AnyValue := (reads doc).anyValue

def ArrayValue.deserialize (doc : Value) : Option ArrayValue := (reads doc).arrayValue

def KvList.deserialize (doc : Value) : Option KvList := (reads doc).kvList

def KeyValue.deserialize (doc : Value) : Option KeyValue := (reads doc).keyValue

def Resource.deserialize (doc : Value) : Option Resource := do
  let field ← doc.node.fields ["attributes"]
  return { attributes := ← defaulted (field "attributes") [] (Value.readVec KeyValue.deserialize) }

def Scope.deserialize (doc : Value) : Option Scope := do
  let field ← doc.node.fields ["name"]
  return { name := ← defaulted (field "name") none (Value.readOption Value.readString) }

/-! ## The readers on records -/

theorem reads_doc (doc : Value) : (reads doc).doc = doc := by
  cases doc with
  | array items => rw [reads, Value.fold_array]; rfl
  | object entries => rw [reads, Value.fold_object]; rfl
  | _ => rfl

private theorem reads_record (fs : List (String × Option Value)) :
    reads (.record fs) = Reads.level (.record fs)
      (.object (present (fs.map fun e => (e.1, e.2.map reads)))) :=
  Value.fold_record _ fs

private theorem anyValues_reads (doc : Value) :
    (reads doc).anyValues = Value.readVec AnyValue.deserialize doc := by
  cases doc with
  | array items =>
    rw [reads, Value.fold_array]
    exact List.mapM_map
  | object entries => rw [reads, Value.fold_object]; rfl
  | _ => rfl

private theorem keyValues_reads (doc : Value) :
    (reads doc).keyValues = Value.readVec KeyValue.deserialize doc := by
  cases doc with
  | array items =>
    rw [reads, Value.fold_array]
    exact List.mapM_map
  | object entries => rw [reads, Value.fold_object]; rfl
  | _ => rfl

private theorem option_reads {α : Type} (read : Reads → Option α) (doc : Value) :
    Reads.option read (reads doc) = Value.readOption (fun d => read (reads d)) doc := by
  rw [Reads.option, reads_doc]
  cases doc <;> rfl

private theorem defaulted_map_reads {β : Type} (field : Option Value) (default : β)
    (read : Reads → Option β) :
    defaulted (field.map reads) default read = defaulted field default fun d => read (reads d) := by
  cases field <;> rfl

section Records

variable {fs : List (String × Option Value)} (h : (fs.map Prod.fst).Nodup)
include h

private theorem fields_reads (names : List String) :
    (Node.object (present (fs.map fun e => (e.1, e.2.map reads)))).fields names
      = some fun name => (fieldOf fs name).map reads := by
  rw [fields_present (by simpa [List.map_map, Function.comp_def] using h)]
  exact congrArg some (funext fun name => fieldOf_map reads fs name)

theorem AnyValue.deserialize_record :
    AnyValue.deserialize (.record fs) = (do
      return {
        stringValue :=
          ← defaulted (fieldOf fs "stringValue") none (Value.readOption Value.readString)
        intValue :=
          ← defaulted (fieldOf fs "intValue") none (Value.readOption StringOrNum.deserialize)
        doubleValue := ← defaulted (fieldOf fs "doubleValue") none (Value.readOption Value.readF64)
        boolValue := ← defaulted (fieldOf fs "boolValue") none (Value.readOption Value.readBool)
        arrayValue :=
          ← defaulted (fieldOf fs "arrayValue") none (Value.readOption ArrayValue.deserialize)
        kvlistValue :=
          ← defaulted (fieldOf fs "kvlistValue") none (Value.readOption KvList.deserialize)
        bytesValue :=
          ← defaulted (fieldOf fs "bytesValue") none (Value.readOption Value.readString) }) := by
  rw [AnyValue.deserialize, reads_record]
  simp only [Reads.level, Reads.readAnyValue, fields_reads h, Option.bind_eq_bind, Option.bind_some,
    defaulted_map_reads, reads_doc, option_reads]
  rfl

theorem ArrayValue.deserialize_record :
    ArrayValue.deserialize (.record fs) = (do
      return {
        values :=
          ← defaulted (fieldOf fs "values") [] (Value.readVec AnyValue.deserialize) }) := by
  rw [ArrayValue.deserialize, reads_record]
  simp only [Reads.level, Reads.readArrayValue, fields_reads h, Option.bind_eq_bind,
    Option.bind_some, defaulted_map_reads, anyValues_reads]

theorem KvList.deserialize_record :
    KvList.deserialize (.record fs) = (do
      return {
        values :=
          ← defaulted (fieldOf fs "values") [] (Value.readVec KeyValue.deserialize) }) := by
  rw [KvList.deserialize, reads_record]
  simp only [Reads.level, Reads.readKvList, fields_reads h, Option.bind_eq_bind,
    Option.bind_some, defaulted_map_reads, keyValues_reads]

theorem KeyValue.deserialize_record :
    KeyValue.deserialize (.record fs) = (do
      return {
        key := ← required (fieldOf fs "key") Value.readString
        value := ← defaulted (fieldOf fs "value") none (Value.readOption AnyValue.deserialize) }) := by
  have hkey : required ((fieldOf fs "key").map reads) (fun r => r.doc.readString)
      = required (fieldOf fs "key") Value.readString := by
    cases fieldOf fs "key" with
    | none => rfl
    | some doc => exact congrArg Value.readString (reads_doc doc)
  rw [KeyValue.deserialize, reads_record]
  simp only [Reads.level, Reads.readKeyValue, fields_reads h, Option.bind_eq_bind,
    Option.bind_some, defaulted_map_reads, option_reads, hkey]
  rfl

end Records

end Datacat.Otlp.Json
