import Datacat.Basics.Float64
import Datacat.Basics.Templates

/-!
# TOML Documents

The value tree of a configuration file, and the pass over it that expands the references in its
strings. The keys and what is no string stay as they are.
-/

namespace Datacat.Basics

/-- A date or a time, by its text, which no reference can be in. -/
structure Datetime where
  text : String
  plain : '$' ∉ text.toList

/-- `toml::Value`; a table is its entries, in the order of their keys. -/
inductive Toml where
  | string (s : String)
  | integer (i : Int64)
  | float (x : F64)
  | boolean (b : Bool)
  | datetime (d : Datetime)
  | array (items : List Toml)
  | table (entries : List (String × Toml))

theorem Contexts.map_eq_ok {α β : Type} {x : Except Contexts α} {f : α → β} {b : β}
    (h : x.map f = .ok b) : ∃ a, x = .ok a ∧ f a = b := by
  cases x with
  | error contexts => cases h
  | ok a => exact ⟨a, rfl, Except.ok.inj h⟩

namespace Toml

section ExpandEnv

variable (texts : ExpandTexts) (env : String → Option String)

mutual

/-- `expand_env`. -/
def expandEnv : Toml → Except Contexts Toml
  | .string s => (expandStr texts env s).map .string
  | .array items => (expandItems items).map .array
  | .table entries => (expandEntries entries).map .table
  | .integer i => .ok (.integer i)
  | .float x => .ok (.float x)
  | .boolean b => .ok (.boolean b)
  | .datetime d => .ok (.datetime d)

def expandItems : List Toml → Except Contexts (List Toml)
  | [] => .ok []
  | v :: rest => do
    let v ← expandEnv v
    let rest ← expandItems rest
    return v :: rest

def expandEntries : List (String × Toml) → Except Contexts (List (String × Toml))
  | [] => .ok []
  | (key, v) :: rest => do
    let v ← expandEnv v
    let rest ← expandEntries rest
    return (key, v) :: rest

end

end ExpandEnv

/-- What a deserializer reads as a string. -/
def asString : Toml → Option String
  | .string s => some s
  | .datetime d => some d.text
  | _ => none

section Expanded

variable {texts : ExpandTexts} {env : String → Option String}

/-- An entry is expanded where it stands. -/
theorem lookup_of_expandEntries {entries expanded : List (String × Toml)}
    (h : expandEntries texts env entries = .ok expanded) (key : String) :
    (entries.lookup key = none ∧ expanded.lookup key = none) ∨
    ∃ v v', entries.lookup key = some v ∧ expandEnv texts env v = .ok v' ∧
      expanded.lookup key = some v' := by
  induction entries generalizing expanded with
  | nil =>
    obtain rfl := Except.ok.inj h
    exact .inl ⟨rfl, rfl⟩
  | cons entry rest ih =>
    obtain ⟨name, v⟩ := entry
    rw [expandEntries] at h
    obtain ⟨v', hv, h⟩ := Contexts.bind_eq_ok h
    obtain ⟨rest', hrest, h⟩ := Contexts.bind_eq_ok h
    obtain rfl := Except.ok.inj h
    rw [List.lookup_cons, List.lookup_cons]
    cases hkey : key == name with
    | true => exact .inr ⟨v, v', rfl, hv, rfl⟩
    | false => exact ih hrest

/-- A string is expanded once; a date reads as it did. -/
theorem asString_of_expandEnv {v v' : Toml} (h : expandEnv texts env v = .ok v') :
    (v.asString = none ∧ v'.asString = none) ∨
    ∃ s t, v.asString = some s ∧ expandStr texts env s = .ok t ∧ v'.asString = some t := by
  cases v with
  | string s =>
    rw [expandEnv] at h
    obtain ⟨t, ht, rfl⟩ := Contexts.map_eq_ok h
    exact .inr ⟨s, t, rfl, ht, rfl⟩
  | datetime d =>
    rw [expandEnv] at h
    obtain rfl := Except.ok.inj h
    -- It is read as its text, which has no dollar sign.
    exact .inr ⟨d.text, d.text, rfl, expandStr_plain d.plain, rfl⟩
  | array items =>
    rw [expandEnv] at h
    obtain ⟨expanded, -, rfl⟩ := Contexts.map_eq_ok h
    exact .inl ⟨rfl, rfl⟩
  | table entries =>
    rw [expandEnv] at h
    obtain ⟨expanded, -, rfl⟩ := Contexts.map_eq_ok h
    exact .inl ⟨rfl, rfl⟩
  | integer i =>
    obtain rfl := Except.ok.inj h
    exact .inl ⟨rfl, rfl⟩
  | float x =>
    obtain rfl := Except.ok.inj h
    exact .inl ⟨rfl, rfl⟩
  | boolean b =>
    obtain rfl := Except.ok.inj h
    exact .inl ⟨rfl, rfl⟩

end Expanded

end Toml

end Datacat.Basics
