import Datacat.Basics.Json.Text
import Datacat.Basics.Time

/-!
# What Logs, Traces and Metrics Share

Correlation keys, their lookup in attribute maps, and time stamps in nanoseconds.
-/

namespace Datacat.Otlp

open Basics

/-! ## Correlation -/

def tenantKeys : List String := ["tenant_id", "tenant.id", "tenant"]

def actorKeys : List String := ["actor_id", "actor.id", "user.id", "enduser.id", "user_id"]

def sessionKeys : List String := ["session_id", "session.id", "session"]

/-- First candidate key whose value is a non-empty string. -/
def lookup (map : Map) : List String → Option String
  | [] => none
  | key :: rest =>
    match map.get key with
    | some (.string s) => if s.isEmpty then lookup map rest else some s
    | _ => lookup map rest

structure Correlation where
  tenantId : Option String
  actorId : Option String
  sessionId : Option String
deriving DecidableEq

/-- The attributes of the record come before those of the resource. -/
def correlate (recordAttrs resourceAttrs : Map) : Correlation where
  tenantId := (lookup recordAttrs tenantKeys).or (lookup resourceAttrs tenantKeys)
  actorId := (lookup recordAttrs actorKeys).or (lookup resourceAttrs actorKeys)
  sessionId := (lookup recordAttrs sessionKeys).or (lookup resourceAttrs sessionKeys)

/-- What is looked up is a value of the map, and is not empty. -/
theorem exists_of_lookup {map : Map} {keys : List String} {s : String}
    (h : lookup map keys = some s) : ∃ key ∈ keys, map.get key = some (.string s) ∧ s ≠ "" := by
  induction keys with
  | nil => simp [lookup] at h
  | cons key rest ih =>
    have htail : lookup map rest = some s →
        ∃ key' ∈ key :: rest, map.get key' = some (.string s) ∧ s ≠ "" := by
      intro hrest
      obtain ⟨key', hmem, hget⟩ := ih hrest
      exact ⟨key', List.mem_cons_of_mem _ hmem, hget⟩
    rw [lookup] at h
    split at h
    · rename_i t ht
      split_ifs at h with hempty
      · exact htail h
      · obtain rfl := Option.some.inj h
        exact ⟨key, List.mem_cons_self .., ht, by simpa using hempty⟩
    · exact htail h

/-- A text found in a map free of U+0000 is free of U+0000. -/
theorem hasNul_of_lookup {map : Map} (hmap : (Value.ofMap map).hasNul = false)
    {keys : List String} {s : String} (h : lookup map keys = some s) : hasNul s = false := by
  obtain ⟨key, -, hget, -⟩ := exists_of_lookup h
  exact Value.hasNul_of_get hmap hget

/-- The same correlation, as far as the record's own attributes give it. -/
structure SameCorrelation (attributes : Value) (c₁ c₂ : Correlation) : Prop where
  tenant : ∀ m, attributes = .ofMap m → (lookup m tenantKeys).isSome → c₁.tenantId = c₂.tenantId
  actor : ∀ m, attributes = .ofMap m → (lookup m actorKeys).isSome → c₁.actorId = c₂.actorId
  session : ∀ m, attributes = .ofMap m → (lookup m sessionKeys).isSome →
    c₁.sessionId = c₂.sessionId

/-- What the own attributes give does not depend on the resource. -/
theorem sameCorrelation_correlate (recordAttrs resource₁ resource₂ : Map) :
    SameCorrelation (.ofMap recordAttrs) (correlate recordAttrs resource₁)
      (correlate recordAttrs resource₂) := by
  have hown : ∀ keys, (lookup recordAttrs keys).isSome →
      (lookup recordAttrs keys).or (lookup resource₁ keys)
        = (lookup recordAttrs keys).or (lookup resource₂ keys) := by
    intro keys hsome
    obtain ⟨s, hs⟩ := Option.isSome_iff_exists.mp hsome
    rw [hs, Option.some_or, Option.some_or]
  constructor
  all_goals
    intro m hm hsome
    obtain rfl := Value.ofMap_injective hm
    exact hown _ hsome

/-! ## Sizes -/

/-- `Option<String>::len`, absent being 0, in bytes. -/
def optLen (s : Option String) : Nat :=
  match s with
  | some s => s.utf8ByteSize
  | none => 0

section Text

variable [FloatFormat]

def jsonByteLen (v : Value) : Nat := v.toJsonString.utf8ByteSize

end Text

/-! ## Time stamps -/

/-- Nanoseconds since the epoch. -/
def nanosToDt (nanos : UInt64) : Option DateTime :=
  DateTime.fromTimestamp (nanos.toNat / 1000000000 : Nat) (nanos.toNat % 1000000000)

end Datacat.Otlp
