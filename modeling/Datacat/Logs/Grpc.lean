import Datacat.Logs.Model
import Datacat.Otlp.Proto

/-!
# Logs over OTLP/gRPC

The protobuf messages of logs, as far as the service reads them, and their flattening into
stored logs.
-/

namespace Datacat.Logs.Grpc

open Basics Otlp
open Otlp.Proto (AnyValue KeyValue Resource InstrumentationScope attrsToMap anyvalueToString hexOpt nz)

structure LogRecord where
  timeUnixNano : UInt64
  observedTimeUnixNano : UInt64
  severityNumber : Int32
  severityText : String
  body : Option AnyValue
  attributes : List KeyValue
  traceId : List UInt8
  spanId : List UInt8

structure ScopeLogs where
  scope : Option InstrumentationScope
  logRecords : List LogRecord

structure ResourceLogs where
  resource : Option Resource
  scopeLogs : List ScopeLogs

structure ExportLogsServiceRequest where
  resourceLogs : List ResourceLogs

def opt (s : String) : Option String :=
  if s.isEmpty then none else some s

section Assembly

variable [FloatFormat] [Sha256]

/-- Time stamp of the record: its own, else the observed one, else the reception. -/
def LogRecord.logTime (r : LogRecord) (receivedAt : DateTime) : DateTime :=
  ((nz r.timeUnixNano).or (nz r.observedTimeUnixNano)).getD receivedAt

/-- Normalized fields of a record. -/
def LogRecord.fields (r : LogRecord) (receivedAt : DateTime) (resourceAttrs : Map)
    (serviceName scopeName : Option String) : LogFields where
  receivedAt := receivedAt
  logTime := r.logTime receivedAt
  observedTime := nz r.observedTimeUnixNano
  severityNumber :=
    if r.severityNumber ≠ 0 then some (clampSeverity r.severityNumber.toInt) else none
  severityText := opt r.severityText
  body := r.body.map anyvalueToString
  serviceName := serviceName
  scopeName := scopeName
  traceId := hexOpt r.traceId
  spanId := hexOpt r.spanId
  logAttrs := attrsToMap r.attributes
  resourceAttrs := resourceAttrs

/-- Flattens a request, with the bounds of `otlpToLogs`. -/
def protoToLogs (req : ExportLogsServiceRequest) (receivedAt : DateTime)
    (limits : ValidationLimits) (maxRecords : Nat) : Option LogsParse := do
  let window ← skewWindow receivedAt limits
  return (forEach (fun out rl =>
    let resourceAttrs := (rl.resource.map fun r => attrsToMap r.attributes).getD BTreeMap.empty
    let serviceName := (resourceAttrs.get "service.name").bind Value.asStr
    forEach (fun out sl =>
      let scopeName := (sl.scope.map (·.name)).filter fun s => !s.isEmpty
      forEach (fun out r =>
        if maxRecords < out.stored.length then .stop out
        else if outsideWindow window (r.logTime receivedAt) then
          .next { out with droppedSkew := out.droppedSkew + 1 }
        else
          .next { out with stored := out.stored
            ++ [assembleLog (r.fields receivedAt resourceAttrs serviceName scopeName)] })
        sl.logRecords out) rl.scopeLogs out) req.resourceLogs { stored := [], droppedSkew := 0 }).state

/-! ## One loop -/

/-- A record with what its resource and its scope say about it. -/
structure RecordContext where
  resource : Option Resource
  scope : Option InstrumentationScope
  record : LogRecord

namespace RecordContext

def resourceAttrs (c : RecordContext) : Map :=
  (c.resource.map fun r => attrsToMap r.attributes).getD BTreeMap.empty

def serviceName (c : RecordContext) : Option String :=
  (c.resourceAttrs.get "service.name").bind Value.asStr

def scopeName (c : RecordContext) : Option String :=
  (c.scope.map (·.name)).filter fun s => !s.isEmpty

def inWindow (window : DateTime × DateTime) (receivedAt : DateTime) (c : RecordContext) : Bool :=
  !outsideWindow window (c.record.logTime receivedAt)

def stored (receivedAt : DateTime) (c : RecordContext) : StoredLog :=
  assembleLog (c.record.fields receivedAt c.resourceAttrs c.serviceName c.scopeName)

end RecordContext

/-- All records of a request, in order. -/
def ExportLogsServiceRequest.records (req : ExportLogsServiceRequest) : List RecordContext :=
  req.resourceLogs.flatMap fun rl => rl.scopeLogs.flatMap fun sl => sl.logRecords.map fun r =>
    { resource := rl.resource, scope := sl.scope, record := r }

theorem protoToLogs_eq (req : ExportLogsServiceRequest) (receivedAt : DateTime)
    (limits : ValidationLimits) (maxRecords : Nat) :
    protoToLogs req receivedAt limits maxRecords =
      (skewWindow receivedAt limits).map fun window =>
        { stored := ((req.records.filter (·.inWindow window receivedAt)).take (maxRecords + 1)).map
            (·.stored receivedAt)
          droppedSkew := refused (·.inWindow window receivedAt) (maxRecords + 1) req.records } := by
  rw [protoToLogs]
  cases skewWindow receivedAt limits with
  | none => rfl
  | some window =>
    refine congrArg some (Eq.trans (congrArg Flow.state ?_) (LogsParse.forEach_push _ _ _ _))
    -- The three loops are one over the records of the request.
    rw [ExportLogsServiceRequest.records, ← forEach_flatMap]
    refine forEach_congr (fun rl _ out => ?_) _
    rw [← forEach_flatMap]
    refine forEach_congr (fun sl _ out => ?_) _
    rw [forEach_map]
    refine forEach_congr (fun r _ out => ?_) _
    simp only [guardedBody, LogsParse.push, RecordContext.inWindow, decide_eq_true_eq,
      Bool.not_eq_true']
    split_ifs <;> simp_all [RecordContext.stored, RecordContext.resourceAttrs,
      RecordContext.serviceName, RecordContext.scopeName]

end Assembly

end Datacat.Logs.Grpc
