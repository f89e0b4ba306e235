import Datacat.Basics.Digest
import Datacat.Basics.Json.Text
import Datacat.Config

/-!
# Product Events

An event as it is received, its validation, and the stored event. A structural error rejects
the whole request; an event outside the skew window is dropped alone.

## Main results

- `checkEvent_ok`: what an event that is kept has passed, and what is stored of it.
-/

namespace Datacat.Events

open Basics

/-- An event before validation. -/
structure IncomingEvent where
  eventId : Uuid
  eventName : String
  tenantId : Option String
  actorId : String
  sessionId : String
  timestampClient : DateTime
  properties : Option Value

/-- The body of a request. -/
structure IngestBody where
  token : Option String
  events : List IncomingEvent

/-- A validated event, ready to be stored. -/
structure StoredEvent where
  eventId : Uuid
  eventName : String
  tenantId : Option String
  actorId : String
  sessionId : String
  timestampClient : DateTime
  receivedAt : DateTime
  properties : Value
deriving DecidableEq

/-- The primary key of the table. -/
def StoredEvent.key (e : StoredEvent) : DateTime × Uuid := (e.timestampClient, e.eventId)

inductive EventCheck where
  | ok (e : StoredEvent)
  /-- Valid, but outside the skew window. -/
  | outOfSkew

structure StructuralError where
  message : String
deriving DecidableEq

/-- The message about a field of an event. -/
def structuralError (index : Nat) (field message : String) : StructuralError :=
  ⟨"events[" ++ toString index ++ "]." ++ field ++ ": " ++ message⟩

/-- A text that is not blank and not longer than `maxLen` characters. -/
def checkText (value field : String) (maxLen index : Nat) : Except StructuralError Unit :=
  if (trim value.toList).isEmpty then throw (structuralError index field "vide")
  else if maxLen < value.length then
    throw (structuralError index field ("trop long (> " ++ toString maxLen ++ " caractères)"))
  else pure ()

/-- The same of an optional text, when it is there. -/
def checkOptionalText (value : Option String) (field : String) (maxLen index : Nat) :
    Except StructuralError Unit :=
  match value with
  | some t => checkText t field maxLen index
  | none => pure ()

mutual

/-- Nesting of objects and arrays. -/
def jsonDepth : Value → Nat
  | .object entries => 1 + entriesDepth entries
  | .array items => 1 + itemsDepth items
  | _ => 0

def itemsDepth : List Value → Nat
  | [] => 0
  | v :: rest => max (jsonDepth v) (itemsDepth rest)

def entriesDepth : List (String × Value) → Nat
  | [] => 0
  | (_, v) :: rest => max (jsonDepth v) (entriesDepth rest)

end

/-- The properties to store: an object, empty when there are none. -/
def objectProperties (properties : Option Value) (index : Nat) : Except StructuralError Value :=
  match properties with
  | none | some .null => pure (.object [])
  | some (.object entries) => pure (.object entries)
  | some _ => throw (structuralError index "properties" "doit être un objet JSON")

/-- A computation that succeeds is one whose parts succeed. -/
theorem bind_eq_ok {ε α β : Type} {x : Except ε α} {f : α → Except ε β} {b : β} :
    (x >>= f) = .ok b ↔ ∃ a, x = .ok a ∧ f a = .ok b := by
  cases x with
  | error e => exact ⟨nofun, fun h => by obtain ⟨a, ha, -⟩ := h; contradiction⟩
  | ok a =>
    constructor
    · exact fun h => ⟨a, rfl, h⟩
    · rintro ⟨a', ha, h⟩
      obtain rfl := Except.ok.inj ha
      exact h

section Check

variable [FloatFormat]

/-- The checks that reject the whole request. A JSON value always serializes, so the error
branch of the serializer is not represented. -/
def checkStructure (ev : IncomingEvent) (limits : ValidationLimits) (index : Nat) :
    Except StructuralError Value := do
  checkText ev.eventName "event_name" limits.maxStringLen index
  checkText ev.actorId "actor_id" limits.maxStringLen index
  checkText ev.sessionId "session_id" limits.maxStringLen index
  checkOptionalText ev.tenantId "tenant_id" limits.maxStringLen index
  let properties ← objectProperties ev.properties index
  let serializedLen := properties.toJsonString.utf8ByteSize
  if limits.maxPropertiesBytes < serializedLen then
    throw (structuralError index "properties"
      ("trop volumineux (" ++ toString serializedLen ++ " > "
        ++ toString limits.maxPropertiesBytes ++ " octets)"))
  else if limits.maxJsonDepth < jsonDepth properties then
    throw (structuralError index "properties" ("profondeur > " ++ toString limits.maxJsonDepth))
  else pure properties

/-- Validates an event. None where the code panics, on a skew window out of range. -/
def checkEvent (ev : IncomingEvent) (receivedAt : DateTime) (limits : ValidationLimits)
    (index : Nat) : Option (Except StructuralError EventCheck) :=
  match checkStructure ev limits index with
  | .error e => some (.error e)
  | .ok properties => do
    let window ← skewWindow receivedAt limits
    if outsideWindow window ev.timestampClient then return .ok .outOfSkew
    else
      return .ok (.ok {
        eventId := ev.eventId
        eventName := ev.eventName
        tenantId := ev.tenantId
        actorId := ev.actorId
        sessionId := ev.sessionId
        timestampClient := ev.timestampClient
        receivedAt := receivedAt
        properties := properties })

/-- An event that is kept has passed the structural checks, and is stored as it came. -/
theorem checkEvent_ok {ev : IncomingEvent} {receivedAt : DateTime} {limits : ValidationLimits}
    {index : Nat} {e : StoredEvent}
    (h : checkEvent ev receivedAt limits index = some (.ok (.ok e))) :
    checkStructure ev limits index = .ok e.properties ∧
      e = { eventId := ev.eventId, eventName := ev.eventName, tenantId := ev.tenantId,
            actorId := ev.actorId, sessionId := ev.sessionId,
            timestampClient := ev.timestampClient, receivedAt := receivedAt,
            properties := e.properties } := by
  unfold checkEvent at h
  cases hcheck : checkStructure ev limits index with
  | error err => simp [hcheck] at h
  | ok properties =>
    rw [hcheck] at h
    cases hwindow : skewWindow receivedAt limits with
    | none => simp [hwindow] at h
    | some window =>
      simp only [hwindow, Option.bind_eq_bind, Option.bind_some] at h
      split at h
      · -- An event outside of the window is dropped, not kept.
        simp at h
      · simp only [Option.pure_def, Option.some.injEq, Except.ok.injEq, EventCheck.ok.injEq] at h
        subst h
        exact ⟨rfl, rfl⟩

/-- The properties that pass are those received, or the empty object. -/
theorem checkStructure_properties {ev : IncomingEvent} {limits : ValidationLimits} {index : Nat}
    {properties : Value} (h : checkStructure ev limits index = .ok properties) :
    objectProperties ev.properties index = .ok properties := by
  unfold checkStructure at h
  simp only [bind_eq_ok] at h
  obtain ⟨_, _, _, _, _, _, _, _, found, hfound, h⟩ := h
  split at h
  · contradiction
  · split at h
    · contradiction
    · rw [hfound]
      exact h

end Check

end Datacat.Events
