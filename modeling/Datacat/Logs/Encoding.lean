import Datacat.Logs.Grpc
import Datacat.Otlp.Encoding

/-!
# The Canonical OTLP/JSON Encoding of Logs

The document of a protobuf request, and the HTTP request it is read as.

## Main results

- `deserialize_encodeRequest`: the documents that the HTTP endpoint accepts are those of the
  requests whose attributes and bodies are readable.
-/

namespace Datacat.Logs.Encoding

open Basics Otlp Otlp.Encoding

/-! ## Documents -/

def encodeRecord (r : Grpc.LogRecord) : Value :=
  .record [
    ("timeUnixNano", encodeFixed64 r.timeUnixNano),
    ("observedTimeUnixNano", encodeFixed64 r.observedTimeUnixNano),
    ("severityNumber", encodeEnum r.severityNumber),
    ("severityText", encodeText r.severityText),
    ("body", r.body.map encodeAnyValue),
    ("attributes", encodeList (r.attributes.map encodeKeyValue)),
    ("traceId", encodeId r.traceId),
    ("spanId", encodeId r.spanId)]

def encodeScopeLogs (sl : Grpc.ScopeLogs) : Value :=
  .record [
    ("scope", sl.scope.map encodeScope),
    ("logRecords", encodeList (sl.logRecords.map encodeRecord))]

def encodeResourceLogs (rl : Grpc.ResourceLogs) : Value :=
  .record [
    ("resource", rl.resource.map encodeResource),
    ("scopeLogs", encodeList (rl.scopeLogs.map encodeScopeLogs))]

def encodeRequest (req : Grpc.ExportLogsServiceRequest) : Value :=
  .record [("resourceLogs", encodeList (req.resourceLogs.map encodeResourceLogs))]

/-! ## The requests the documents stand for -/

def record (r : Grpc.LogRecord) : LogRecord where
  timeUnixNano := fixed64 r.timeUnixNano
  observedTimeUnixNano := fixed64 r.observedTimeUnixNano
  severityNumber := if r.severityNumber = 0 then none else some r.severityNumber.toInt64
  severityText := text r.severityText
  body := r.body.map anyvalue
  attributes := r.attributes.map keyValue
  traceId := Proto.hexOpt r.traceId
  spanId := Proto.hexOpt r.spanId

def scopeLogs (sl : Grpc.ScopeLogs) : ScopeLogs where
  scope := sl.scope.map scope
  logRecords := sl.logRecords.map record

def resourceLogs (rl : Grpc.ResourceLogs) : ResourceLogs where
  resource := rl.resource.map resource
  scopeLogs := rl.scopeLogs.map scopeLogs

def request (req : Grpc.ExportLogsServiceRequest) : ExportLogsServiceRequest where
  resourceLogs := req.resourceLogs.map resourceLogs

/-! ## Readable requests -/

def recordReadable (r : Grpc.LogRecord) : Bool :=
  r.body.all readable && r.attributes.all keyValueReadable

def scopeLogsReadable (sl : Grpc.ScopeLogs) : Bool := sl.logRecords.all recordReadable

def resourceLogsReadable (rl : Grpc.ResourceLogs) : Bool :=
  rl.resource.all resourceReadable && rl.scopeLogs.all scopeLogsReadable

def requestReadable (req : Grpc.ExportLogsServiceRequest) : Bool :=
  req.resourceLogs.all resourceLogsReadable

theorem deserialize_encodeRecord (r : Grpc.LogRecord) :
    LogRecord.deserialize (encodeRecord r)
      = if recordReadable r then some (record r) else none := by
  rw [LogRecord.deserialize, encodeRecord, Value.fields_record (by simp)]
  have hbody := read_optional encodeAnyValue_ne_null deserialize_encodeAnyValue r.body
  simp only [Option.bind_eq_bind, Option.bind_some, fieldOf_cons, String.reduceEq, if_false,
    if_true, read_encodeFixed64, read_encodeEnum, read_encodeText, hbody, read_encodeKeyValues,
    read_encodeId, bind_readable, Option.pure_def]
  rw [recordReadable]
  simp only [Bool.and_eq_true, ite_and]
  rfl

theorem deserialize_encodeScopeLogs (sl : Grpc.ScopeLogs) :
    ScopeLogs.deserialize (encodeScopeLogs sl)
      = if scopeLogsReadable sl then some (scopeLogs sl) else none := by
  have hrecords := readVec_encodeList sl.logRecords fun r _ => deserialize_encodeRecord r
  rw [ScopeLogs.deserialize, encodeScopeLogs, Value.fields_record (by simp)]
  simp only [Option.bind_eq_bind, Option.bind_some, fieldOf_cons, String.reduceEq, if_false,
    if_true, read_encodeScope, hrecords, bind_readable, Option.pure_def]
  rfl

theorem deserialize_encodeResourceLogs (rl : Grpc.ResourceLogs) :
    ResourceLogs.deserialize (encodeResourceLogs rl)
      = if resourceLogsReadable rl then some (resourceLogs rl) else none := by
  have hscopes := readVec_encodeList rl.scopeLogs fun sl _ => deserialize_encodeScopeLogs sl
  rw [ResourceLogs.deserialize, encodeResourceLogs, Value.fields_record (by simp)]
  simp only [Option.bind_eq_bind, Option.bind_some, fieldOf_cons, String.reduceEq, if_false,
    if_true, read_encodeResource, hscopes, bind_readable, Option.pure_def]
  rw [resourceLogsReadable]
  simp only [Bool.and_eq_true, ite_and]
  rfl

theorem deserialize_encodeRequest (req : Grpc.ExportLogsServiceRequest) :
    ExportLogsServiceRequest.deserialize (encodeRequest req)
      = if requestReadable req then some (request req) else none := by
  have hresources := readVec_encodeList req.resourceLogs
    fun rl _ => deserialize_encodeResourceLogs rl
  rw [ExportLogsServiceRequest.deserialize, encodeRequest, Value.fields_record (by simp)]
  simp only [Option.bind_eq_bind, Option.bind_some, fieldOf_cons, if_true, hresources,
    bind_readable, Option.pure_def]
  rfl

end Datacat.Logs.Encoding
