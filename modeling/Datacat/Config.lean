import Datacat.Basics.Time

/-!
# Configuration

The part of the configuration that the ingestion reads: the validation limits, with the skew
window they define around an instant of reception, and the authentication of the services.
-/

namespace Datacat

open Basics

/-- `ValidationLimits`; durations are in nanoseconds. -/
structure ValidationLimits where
  maxBatchEvents : Nat
  maxPayloadBytes : Nat
  maxPropertiesBytes : Nat
  maxStringLen : Nat
  maxJsonDepth : Nat
  maxPastSkew : Nat
  maxFutureSkew : Nat
  maxOtlpRecordBytes : Nat

/-- The limits of the repository's own tests. -/
def testLimits : ValidationLimits where
  maxBatchEvents := 500
  maxPayloadBytes := 1048576
  maxPropertiesBytes := 16384
  maxStringLen := 200
  maxJsonDepth := 16
  maxPastSkew := 31 * 86400 * 1000000000
  maxFutureSkew := 86400 * 1000000000
  maxOtlpRecordBytes := 65536

/-- Oldest and newest accepted instants. None where the code panics: a duration too long for
`chrono::Duration`, or a bound outside the range of dates. -/
def skewWindow (receivedAt : DateTime) (limits : ValidationLimits) :
    Option (DateTime × DateTime) := do
  let past ← receivedAt.checkedAdd (-(← DateTime.fromStd limits.maxPastSkew))
  let future ← receivedAt.checkedAdd (← DateTime.fromStd limits.maxFutureSkew)
  return (past, future)

/-- `time < past || time > future`. -/
def outsideWindow (window : DateTime × DateTime) (time : DateTime) : Bool :=
  decide (time < window.1) || decide (window.2 < time)

/-- Authentication of the endpoints that services write to. -/
inductive LogsAuth where
  /-- A secret that the service shares. -/
  | static (secret : String)
  | jwt
  | none

/-- `Config`, as far as the requests read it. -/
structure Config where
  /-- A `usize`. -/
  maxLogsRecords : UInt64
  limits : ValidationLimits
  logsAuth : LogsAuth

end Datacat
