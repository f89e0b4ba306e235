import Datacat.Basics.Digest
import Datacat.Basics.Flow
import Datacat.Config
import Datacat.Otlp.Common
import Datacat.Otlp.Json

/-!
# Logs over OTLP/HTTP

The JSON wire format of logs, the stored log, and the flattening of a request into stored
logs. `assembleLog` and `dedupId` are shared with the gRPC transport.
-/

namespace Datacat.Logs

open Basics Otlp
open Otlp.Json (AnyValue KeyValue Resource Scope StringOrNum attrsToMap anyvalueToString)

/-! ## Wire format -/

structure LogRecord where
  timeUnixNano : Option StringOrNum
  observedTimeUnixNano : Option StringOrNum
  severityNumber : Option Int64
  severityText : Option String
  body : Option AnyValue
  attributes : List KeyValue
  traceId : Option String
  spanId : Option String

structure ScopeLogs where
  scope : Option Scope
  logRecords : List LogRecord

structure ResourceLogs where
  resource : Option Resource
  scopeLogs : List ScopeLogs

structure ExportLogsServiceRequest where
  resourceLogs : List ResourceLogs

def LogRecord.deserialize (doc : Value) : Option LogRecord := do
  let field ← doc.node.fields ["timeUnixNano", "observedTimeUnixNano", "severityNumber",
    "severityText", "body", "attributes", "traceId", "spanId"]
  return {
    timeUnixNano :=
      ← defaulted (field "timeUnixNano") none (Value.readOption StringOrNum.deserialize)
    observedTimeUnixNano :=
      ← defaulted (field "observedTimeUnixNano") none (Value.readOption StringOrNum.deserialize)
    severityNumber := ← defaulted (field "severityNumber") none (Value.readOption Value.readI64)
    severityText := ← defaulted (field "severityText") none (Value.readOption Value.readString)
    body := ← defaulted (field "body") none (Value.readOption AnyValue.deserialize)
    attributes := ← defaulted (field "attributes") [] (Value.readVec KeyValue.deserialize)
    traceId := ← defaulted (field "traceId") none (Value.readOption Value.readString)
    spanId := ← defaulted (field "spanId") none (Value.readOption Value.readString) }

def ScopeLogs.deserialize (doc : Value) : Option ScopeLogs := do
  let field ← doc.node.fields ["scope", "logRecords"]
  return {
    scope := ← defaulted (field "scope") none (Value.readOption Scope.deserialize)
    logRecords := ← defaulted (field "logRecords") [] (Value.readVec LogRecord.deserialize) }

def ResourceLogs.deserialize (doc : Value) : Option ResourceLogs := do
  let field ← doc.node.fields ["resource", "scopeLogs"]
  return {
    resource := ← defaulted (field "resource") none (Value.readOption Resource.deserialize)
    scopeLogs := ← defaulted (field "scopeLogs") [] (Value.readVec ScopeLogs.deserialize) }

def ExportLogsServiceRequest.deserialize (doc : Value) : Option ExportLogsServiceRequest := do
  let field ← doc.node.fields ["resourceLogs"]
  return {
    resourceLogs := ← defaulted (field "resourceLogs") [] (Value.readVec ResourceLogs.deserialize) }

/-! ## Stored logs -/

structure StoredLog where
  logId : Uuid
  logTime : DateTime
  observedTime : Option DateTime
  receivedAt : DateTime
  severityNumber : Option Int16
  severityText : Option String
  body : Option String
  serviceName : Option String
  scopeName : Option String
  traceId : Option String
  spanId : Option String
  tenantId : Option String
  actorId : Option String
  sessionId : Option String
  resourceAttributes : Value
  logAttributes : Value
deriving DecidableEq

/-- The primary key of the table. -/
def StoredLog.key (l : StoredLog) : DateTime × Uuid := (l.logTime, l.logId)

/-- `approx_content_bytes`: the size of what varies in a log. -/
def StoredLog.approxContentBytes [FloatFormat] (l : StoredLog) : Nat :=
  optLen l.body + optLen l.serviceName + optLen l.scopeName + optLen l.severityText
    + optLen l.traceId + optLen l.spanId + jsonByteLen l.resourceAttributes
    + jsonByteLen l.logAttributes

/-- Result of the flattening of a request. -/
structure LogsParse where
  stored : List StoredLog
  droppedSkew : Nat
deriving DecidableEq

/-- Fields of a log once normalized, whatever the transport. -/
structure LogFields where
  receivedAt : DateTime
  logTime : DateTime
  observedTime : Option DateTime
  severityNumber : Option Int16
  severityText : Option String
  body : Option String
  serviceName : Option String
  scopeName : Option String
  traceId : Option String
  spanId : Option String
  logAttrs : Map
  resourceAttrs : Map

/-- `n.clamp(0, 24) as i16`. -/
def clampSeverity (n : Int) : Int16 := Int16.ofInt (max 0 (min n 24))

/-- What an innermost loop does with a record when it is not full. -/
def LogsParse.push {α : Type} (inWindow : α → Bool) (stored : α → StoredLog) (out : LogsParse)
    (c : α) : LogsParse :=
  if inWindow c then { out with stored := out.stored ++ [stored c] }
  else { out with droppedSkew := out.droppedSkew + 1 }

/-- A loop over records keeps the first `maxRecords + 1` ones of the window and counts the ones
dropped before. -/
theorem LogsParse.forEach_push {α : Type} (inWindow : α → Bool) (stored : α → StoredLog)
    (maxRecords : Nat) (cs : List α) :
    (forEach (guardedBody (fun out => decide (maxRecords < out.stored.length))
        (LogsParse.push inWindow stored)) cs { stored := [], droppedSkew := 0 }).state =
      { stored := ((cs.filter inWindow).take (maxRecords + 1)).map stored
        droppedSkew := refused inWindow (maxRecords + 1) cs } := by
  obtain ⟨hstored, hdropped⟩ := forEach_tally maxRecords LogsParse.stored LogsParse.droppedSkew
    (fun out => decide (maxRecords < out.stored.length)) inWindow stored
    (LogsParse.push inWindow stored) (fun _ => rfl)
    (fun _ _ h => by simp [LogsParse.push, h]) (fun _ _ h => by simp [LogsParse.push, h])
    cs { stored := [], droppedSkew := 0 }
  rw [LogsParse.mk.injEq]
  exact ⟨by simpa using hstored, by simpa using hdropped⟩

section Assembly

variable [FloatFormat] [Sha256]

/-- The bytes that `dedupId` hashes. -/
def dedupBytes (logTime : DateTime) (serviceName body traceId spanId : Option String)
    (severityNumber : Option Int16) (logAttributes : Value) : List UInt8 :=
  leBytes 8 (logTime.timestampNanosOpt.getD 0).toUInt64.toNat
    ++ asBytes (serviceName.getD "") ++ [0]
    ++ asBytes (body.getD "") ++ [0]
    ++ asBytes (traceId.getD "")
    ++ asBytes (spanId.getD "")
    ++ leBytes 2 (severityNumber.getD 0).toUInt16.toNat
    ++ asBytes logAttributes.toJsonString

/-- Deterministic identifier: a hash of the normalized content. -/
def dedupId (logTime : DateTime) (serviceName body traceId spanId : Option String)
    (severityNumber : Option Int16) (logAttributes : Value) : Uuid :=
  truncatedDigest
    (dedupBytes logTime serviceName body traceId spanId severityNumber logAttributes)

/-- Correlation and identifier, shared by both transports. -/
def assembleLog (f : LogFields) : StoredLog :=
  let c := correlate f.logAttrs f.resourceAttrs
  let logAttributes := Value.ofMap f.logAttrs
  { logId := dedupId f.logTime f.serviceName f.body f.traceId f.spanId f.severityNumber logAttributes
    logTime := f.logTime
    observedTime := f.observedTime
    receivedAt := f.receivedAt
    severityNumber := f.severityNumber
    severityText := f.severityText
    body := f.body
    serviceName := f.serviceName
    scopeName := f.scopeName
    traceId := f.traceId
    spanId := f.spanId
    tenantId := c.tenantId
    actorId := c.actorId
    sessionId := c.sessionId
    resourceAttributes := .ofMap f.resourceAttrs
    logAttributes := logAttributes }

/-- Time stamp of the record: its own, else the observed one, else the reception. -/
def LogRecord.logTime (r : LogRecord) (receivedAt : DateTime) : DateTime :=
  ((Json.nanos r.timeUnixNano).or (Json.nanos r.observedTimeUnixNano)).getD receivedAt

/-- Normalized fields of a record. -/
def LogRecord.fields (r : LogRecord) (receivedAt : DateTime) (resourceAttrs : Map)
    (serviceName scopeName : Option String) : LogFields where
  receivedAt := receivedAt
  logTime := r.logTime receivedAt
  observedTime := Json.nanos r.observedTimeUnixNano
  severityNumber := r.severityNumber.map fun n => clampSeverity n.toInt
  severityText := r.severityText
  body := r.body.map anyvalueToString
  serviceName := serviceName
  scopeName := scopeName
  traceId := r.traceId.filter fun s => !s.isEmpty
  spanId := r.spanId.filter fun s => !s.isEmpty
  logAttrs := attrsToMap r.attributes
  resourceAttrs := resourceAttrs

/-- Flattens a request. At most `maxRecords + 1` logs are kept, records outside the skew
window are dropped. -/
def otlpToLogs (req : ExportLogsServiceRequest) (receivedAt : DateTime)
    (limits : ValidationLimits) (maxRecords : Nat) : Option LogsParse := do
  let window ← skewWindow receivedAt limits
  return (forEach (fun out rl =>
    let resourceAttrs := (rl.resource.map fun r => attrsToMap r.attributes).getD BTreeMap.empty
    let serviceName := lookup resourceAttrs ["service.name"]
    forEach (fun out sl =>
      let scopeName := sl.scope.bind (·.name)
      forEach (fun out r =>
        if maxRecords < out.stored.length then .stop out
        else if outsideWindow window (r.logTime receivedAt) then
          .next { out with droppedSkew := out.droppedSkew + 1 }
        else
          .next { out with stored := out.stored
            ++ [assembleLog (r.fields receivedAt resourceAttrs serviceName scopeName)] })
        sl.logRecords out) rl.scopeLogs out) req.resourceLogs { stored := [], droppedSkew := 0 }).state

/-! ## One loop -/

/-- A record with its resource and its scope. -/
structure RecordContext where
  resource : Option Resource
  scope : Option Scope
  record : LogRecord

namespace RecordContext

def resourceAttrs (c : RecordContext) : Map :=
  (c.resource.map fun r => attrsToMap r.attributes).getD BTreeMap.empty

def serviceName (c : RecordContext) : Option String := lookup c.resourceAttrs ["service.name"]

def scopeName (c : RecordContext) : Option String := c.scope.bind (·.name)

def inWindow (window : DateTime × DateTime) (receivedAt : DateTime) (c : RecordContext) : Bool :=
  !outsideWindow window (c.record.logTime receivedAt)

def stored (receivedAt : DateTime) (c : RecordContext) : StoredLog :=
  assembleLog (c.record.fields receivedAt c.resourceAttrs c.serviceName c.scopeName)

end RecordContext

/-- All records of a request, in order. -/
def ExportLogsServiceRequest.records (req : ExportLogsServiceRequest) : List RecordContext :=
  req.resourceLogs.flatMap fun rl => rl.scopeLogs.flatMap fun sl => sl.logRecords.map fun r =>
    { resource := rl.resource, scope := sl.scope, record := r }

theorem otlpToLogs_eq (req : ExportLogsServiceRequest) (receivedAt : DateTime)
    (limits : ValidationLimits) (maxRecords : Nat) :
    otlpToLogs req receivedAt limits maxRecords =
      (skewWindow receivedAt limits).map fun window =>
        { stored := ((req.records.filter (·.inWindow window receivedAt)).take (maxRecords + 1)).map
            (·.stored receivedAt)
          droppedSkew := refused (·.inWindow window receivedAt) (maxRecords + 1) req.records } := by
  rw [otlpToLogs]
  cases skewWindow receivedAt limits with
  | none => rfl
  | some window =>
    refine congrArg some (Eq.trans (congrArg Flow.state ?_) (LogsParse.forEach_push _ _ _ _))
    -- the three nested loops are one loop over the records
    rw [ExportLogsServiceRequest.records, ← forEach_flatMap]
    refine forEach_congr (fun rl _ out => ?_) _
    rw [← forEach_flatMap]
    refine forEach_congr (fun sl _ out => ?_) _
    rw [forEach_map]
    refine forEach_congr (fun r _ out => ?_) _
    simp only [guardedBody, LogsParse.push, RecordContext.inWindow, decide_eq_true_eq,
      Bool.not_eq_true']
    split_ifs <;> simp_all [RecordContext.stored, RecordContext.resourceAttrs,
      RecordContext.serviceName, RecordContext.scopeName]

end Assembly

end Datacat.Logs
