import Datacat.Logs.Encoding
import Datacat.Otlp.Agreement

/-!
# Agreement of the Two Transports of Logs

One protobuf request, flattened directly and through its canonical OTLP/JSON document. When
its attribute values convert equally, the two sides differ in two cases only: the HTTP
endpoint refuses a document with an empty attribute key, and an empty `service.name` is absent
over HTTP and the empty text over gRPC.

## Main results

- `stored_context`: the log stored over HTTP is the one stored over gRPC, but for the service
  name.
- `overHttp_eq_protoToLogs_iff`: when the two flattenings agree.
-/

namespace Datacat.Logs.Encoding

open Basics Otlp Otlp.Encoding

/-! ## Values of a request -/

/-- Attributes of the resources and of the records. -/
def attributes (req : Grpc.ExportLogsServiceRequest) : List Proto.KeyValue :=
  req.resourceLogs.flatMap fun rl =>
    (rl.resource.map (·.attributes)).getD []
      ++ rl.scopeLogs.flatMap fun sl => sl.logRecords.flatMap (·.attributes)

/-- Values of the attributes and bodies of the records. -/
def values (req : Grpc.ExportLogsServiceRequest) : List Proto.AnyValue :=
  (attributes req).filterMap (·.value)
    ++ req.resourceLogs.flatMap fun rl => rl.scopeLogs.flatMap fun sl =>
      sl.logRecords.filterMap (·.body)

/-- What a record and its resource say converts equally. -/
structure ContextConverts (c : Grpc.RecordContext) : Prop where
  resource : ∀ r, c.resource = some r → ∀ kv ∈ r.attributes, ∀ v, kv.value = some v →
    ConvertsEqually v
  record : ∀ kv ∈ c.record.attributes, ∀ v, kv.value = some v → ConvertsEqually v
  body : ∀ v, c.record.body = some v → ConvertsEqually v

theorem contextConverts_of_values {req : Grpc.ExportLogsServiceRequest}
    (h : ∀ v ∈ values req, ConvertsEqually v) {c : Grpc.RecordContext} (hc : c ∈ req.records) :
    ContextConverts c := by
  simp only [Grpc.ExportLogsServiceRequest.records, List.mem_flatMap, List.mem_map] at hc
  obtain ⟨rl, hrl, sl, hsl, r, hr, rfl⟩ := hc
  simp only [values, attributes, List.mem_append, List.mem_filterMap, List.mem_flatMap] at h
  constructor
  · intro res hres kv hkv v hv
    refine h v (.inl ⟨kv, ⟨rl, hrl, .inl ?_⟩, hv⟩)
    simpa [show rl.resource = some res from hres] using hkv
  · intro kv hkv v hv
    exact h v (.inl ⟨kv, ⟨rl, hrl, .inr ⟨sl, hsl, r, hr, hkv⟩⟩, hv⟩)
  · intro v hv
    exact h v (.inr ⟨rl, hrl, sl, hsl, r, hr, hv⟩)

/-- When the values convert equally, the document is accepted exactly when no attribute key is
empty. -/
theorem requestReadable_iff {req : Grpc.ExportLogsServiceRequest}
    (h : ∀ v ∈ values req, ConvertsEqually v) :
    requestReadable req = true ↔ ∀ kv ∈ attributes req, kv.key ≠ "" := by
  have hattribute : ∀ kv ∈ attributes req, keyValueReadable kv = true ↔ kv.key ≠ "" := by
    intro kv hkv
    refine keyValueReadable_iff fun v hv => h v ?_
    exact List.mem_append_left _ (List.mem_filterMap.mpr ⟨kv, hkv, hv⟩)
  have hbody : ∀ rl ∈ req.resourceLogs, ∀ sl ∈ rl.scopeLogs, ∀ r ∈ sl.logRecords,
      r.body.all readable = true := by
    intro rl hrl sl hsl r hr
    cases hb : r.body with
    | none => rfl
    | some v =>
      refine (h v (List.mem_append_right _ ?_)).readable
      exact List.mem_flatMap.mpr ⟨rl, hrl, List.mem_flatMap.mpr ⟨sl, hsl,
        List.mem_filterMap.mpr ⟨r, hr, hb⟩⟩⟩
  calc requestReadable req = true
      ↔ ∀ kv ∈ attributes req, keyValueReadable kv = true := by
        simp only [requestReadable, resourceLogsReadable, scopeLogsReadable, recordReadable,
          attributes, List.all_eq_true, Bool.and_eq_true, all_resourceReadable_iff,
          List.mem_flatMap, List.mem_append]
        constructor
        · rintro hall kv ⟨rl, hrl, hres | ⟨sl, hsl, r, hr, hkv⟩⟩
          · exact (hall rl hrl).1 kv hres
          · exact ((hall rl hrl).2 sl hsl r hr).2 kv hkv
        · intro hall rl hrl
          refine ⟨fun kv hkv => hall kv ⟨rl, hrl, .inl hkv⟩, fun sl hsl r hr => ?_⟩
          -- the body is of the right shape, whatever the keys are
          refine ⟨hbody rl hrl sl hsl r hr, fun kv hkv => ?_⟩
          exact hall kv ⟨rl, hrl, .inr ⟨sl, hsl, r, hr, hkv⟩⟩
    _ ↔ ∀ kv ∈ attributes req, kv.key ≠ "" := forall₂_congr hattribute

/-! ## Records side by side -/

/-- The HTTP record of a protobuf record. -/
def context (c : Grpc.RecordContext) : RecordContext where
  resource := c.resource.map resource
  scope := c.scope.map scope
  record := record c.record

theorem records_request (req : Grpc.ExportLogsServiceRequest) :
    (request req).records = req.records.map context := by
  simp only [ExportLogsServiceRequest.records, Grpc.ExportLogsServiceRequest.records, request,
    resourceLogs, scopeLogs, List.flatMap_map, List.map_flatMap, List.map_map]
  rfl

theorem logTime_record (r : Grpc.LogRecord) (receivedAt : DateTime) :
    (record r).logTime receivedAt = r.logTime receivedAt := by
  rw [LogRecord.logTime, Grpc.LogRecord.logTime, record, nanos_fixed64, nanos_fixed64]

theorem resourceAttrs_context {c : Grpc.RecordContext} (h : ContextConverts c) :
    (context c).resourceAttrs = c.resourceAttrs :=
  resourceAttrs_resource h.resource

theorem scopeName_context (c : Grpc.RecordContext) : (context c).scopeName = c.scopeName :=
  scopeName_scope c.scope

/-- The service name read over HTTP: an empty one is absent. -/
theorem serviceName_context {c : Grpc.RecordContext} (h : ContextConverts c) :
    (context c).serviceName = c.serviceName.filter (!·.isEmpty) := by
  rw [RecordContext.serviceName, resourceAttrs_context h]
  exact lookup_single c.resourceAttrs "service.name"

/-- The records that are stored. -/
def kept (req : Grpc.ExportLogsServiceRequest) (receivedAt : DateTime)
    (window : DateTime × DateTime) (maxRecords : Nat) : List Grpc.RecordContext :=
  (req.records.filter (·.inWindow window receivedAt)).take (maxRecords + 1)

theorem contextConverts_of_kept {req : Grpc.ExportLogsServiceRequest}
    (h : ∀ v ∈ values req, ConvertsEqually v) {receivedAt : DateTime}
    {window : DateTime × DateTime} {maxRecords : Nat} {c : Grpc.RecordContext}
    (hc : c ∈ kept req receivedAt window maxRecords) : ContextConverts c :=
  contextConverts_of_values h (List.mem_filter.mp (List.mem_of_mem_take hc)).1

section Assembly

variable [FloatFormat]

theorem fields_record {c : Grpc.RecordContext} (h : ContextConverts c) (receivedAt : DateTime)
    (resourceAttrs : Map) (serviceName scopeName : Option String) :
    (record c.record).fields receivedAt resourceAttrs serviceName scopeName
      = c.record.fields receivedAt resourceAttrs serviceName scopeName := by
  have hbody : (c.record.body.map anyvalue).map Json.anyvalueToString
      = c.record.body.map Proto.anyvalueToString := by
    cases hb : c.record.body with
    | none => rfl
    | some v => exact congrArg some (h.body v hb).anyvalueToString
  have hseverity : (if c.record.severityNumber = 0 then none
        else some c.record.severityNumber.toInt64).map (fun n => clampSeverity n.toInt)
      = if c.record.severityNumber ≠ 0 then some (clampSeverity c.record.severityNumber.toInt)
        else none := by
    by_cases hzero : c.record.severityNumber = 0
    · simp [hzero]
    · simp [hzero]
  rw [LogRecord.fields, Grpc.LogRecord.fields, logTime_record]
  simp only [record, nanos_fixed64, hbody, hseverity, Proto.hexOpt_filter,
    attrsToMap_keyValue h.record]
  rfl

variable [Sha256]

/-- The identifier hashes an absent service name as an empty one. -/
theorem assembleLog_serviceName (f : LogFields) {serviceName : Option String}
    (h : serviceName.getD "" = f.serviceName.getD "") :
    assembleLog { f with serviceName := serviceName }
      = { assembleLog f with serviceName := serviceName } := by
  simp only [assembleLog, dedupId, dedupBytes, h]

/-- The two transports store the same log, but for an empty service name. -/
theorem stored_context {c : Grpc.RecordContext} (h : ContextConverts c) (receivedAt : DateTime) :
    (context c).stored receivedAt
      = { c.stored receivedAt with serviceName := c.serviceName.filter (!·.isEmpty) } := by
  have hsame : (c.serviceName.filter (!·.isEmpty)).getD "" = c.serviceName.getD "" := by
    cases c.serviceName with
    | none => rfl
    | some s => by_cases hs : s = "" <;> simp [hs, Option.filter_some]
  have hfields : (context c).record = record c.record := rfl
  rw [RecordContext.stored, resourceAttrs_context h, scopeName_context, serviceName_context h,
    hfields, fields_record h]
  exact assembleLog_serviceName
    (c.record.fields receivedAt c.resourceAttrs c.serviceName c.scopeName) hsame

/-! ## Requests side by side -/

/-- What identifies a stored log and correlates it. -/
def identity (l : StoredLog) :
    DateTime × Uuid × Option String × Option String × Option String :=
  (l.logTime, l.logId, l.tenantId, l.actorId, l.sessionId)

theorem otlpToLogs_request (req : Grpc.ExportLogsServiceRequest) (receivedAt : DateTime)
    (limits : ValidationLimits) (maxRecords : Nat) :
    otlpToLogs (request req) receivedAt limits maxRecords =
      (skewWindow receivedAt limits).map fun window =>
        { stored := (kept req receivedAt window maxRecords).map fun c =>
            (context c).stored receivedAt
          droppedSkew := refused (·.inWindow window receivedAt) (maxRecords + 1) req.records } := by
  have hwindow : ∀ window, (RecordContext.inWindow window receivedAt) ∘ context
      = Grpc.RecordContext.inWindow window receivedAt := by
    intro window
    funext c
    show (!outsideWindow window ((record c.record).logTime receivedAt)) = _
    rw [logTime_record]
    rfl
  rw [otlpToLogs_eq, records_request]
  simp only [List.filter_map, hwindow, ← List.map_take, List.map_map, refused_map]
  rfl

/-- The flattening of the canonical document; none when the endpoint refuses it. -/
def overHttp (req : Grpc.ExportLogsServiceRequest) (receivedAt : DateTime)
    (limits : ValidationLimits) (maxRecords : Nat) : Option (Option LogsParse) :=
  (ExportLogsServiceRequest.deserialize (encodeRequest req)).map
    (otlpToLogs · receivedAt limits maxRecords)

theorem overHttp_eq (req : Grpc.ExportLogsServiceRequest) (receivedAt : DateTime)
    (limits : ValidationLimits) (maxRecords : Nat) :
    overHttp req receivedAt limits maxRecords =
      if requestReadable req then some (otlpToLogs (request req) receivedAt limits maxRecords)
      else none := by
  rw [overHttp, deserialize_encodeRequest]
  split <;> rfl

/-- What the transports are compared on. -/
def LogsParse.identities (out : LogsParse) :
    List (DateTime × Uuid × Option String × Option String × Option String) × Nat :=
  (out.stored.map identity, out.droppedSkew)

section Comparison

variable {req : Grpc.ExportLogsServiceRequest} (hvalues : ∀ v ∈ values req, ConvertsEqually v)
  (receivedAt : DateTime) (limits : ValidationLimits) (maxRecords : Nat)
include hvalues

/-- The service name is no part of the identity. -/
theorem identities_request :
    (otlpToLogs (request req) receivedAt limits maxRecords).map LogsParse.identities
      = (Grpc.protoToLogs req receivedAt limits maxRecords).map LogsParse.identities := by
  rw [otlpToLogs_request, Grpc.protoToLogs_eq]
  cases skewWindow receivedAt limits with
  | none => simp only [Option.map_none]
  | some window =>
    simp only [Option.map_some, LogsParse.identities, List.map_map]
    have hsame : (kept req receivedAt window maxRecords).map
          (identity ∘ fun c => (context c).stored receivedAt)
        = (kept req receivedAt window maxRecords).map (identity ∘ (·.stored receivedAt)) := by
      refine List.map_congr_left fun c hc => ?_
      simp only [Function.comp_apply, identity,
        stored_context (contextConverts_of_kept hvalues hc)]
    rw [hsame, kept]

/-- The logs are equal when none of those stored has an empty service name. -/
theorem otlpToLogs_request_eq_iff :
    otlpToLogs (request req) receivedAt limits maxRecords
        = Grpc.protoToLogs req receivedAt limits maxRecords
      ↔ ∀ window, skewWindow receivedAt limits = some window →
          ∀ c ∈ kept req receivedAt window maxRecords, c.serviceName ≠ some "" := by
  -- Of the two stored records only the names of the service may differ.
  have hone : ∀ c, ContextConverts c →
      ((context c).stored receivedAt = c.stored receivedAt ↔ c.serviceName ≠ some "") := by
    intro c hc
    have hname : (c.stored receivedAt).serviceName = c.serviceName := rfl
    rw [stored_context hc]
    constructor
    · intro heq hempty
      have hservice := congrArg StoredLog.serviceName heq
      rw [hname, hempty] at hservice
      contradiction
    · intro hne
      have hfilter : c.serviceName.filter (!·.isEmpty) = c.serviceName := by
        cases hs : c.serviceName with
        | none => rfl
        | some s =>
          have hs' : s ≠ "" := fun h => hne (by rw [hs, h])
          simp [Option.filter_some, hs']
      rw [hfilter, ← hname]
  rw [otlpToLogs_request, Grpc.protoToLogs_eq]
  cases skewWindow receivedAt limits with
  | none => simp
  | some window =>
    simp only [Option.map_some, Option.some.injEq, LogsParse.mk.injEq, and_true, forall_eq']
    rw [← kept, List.map_inj_left]
    exact forall₂_congr fun c hc => hone c (contextConverts_of_kept hvalues hc)

end Comparison

/-- **Agreement of the transports.** The HTTP endpoint flattens the canonical document of a
request into logs with the same instants, identifiers and correlation, in the same order and
with the same count of dropped records, exactly when no attribute key is empty. The stored
logs are then equal exactly when none of them has an empty service name. -/
theorem overHttp_eq_protoToLogs_iff (req : Grpc.ExportLogsServiceRequest)
    (hvalues : ∀ v ∈ values req, ConvertsEqually v) (receivedAt : DateTime)
    (limits : ValidationLimits) (maxRecords : Nat) :
    ((overHttp req receivedAt limits maxRecords).map (·.map LogsParse.identities)
          = some ((Grpc.protoToLogs req receivedAt limits maxRecords).map LogsParse.identities)
        ↔ ∀ kv ∈ attributes req, kv.key ≠ "") ∧
      (overHttp req receivedAt limits maxRecords
          = some (Grpc.protoToLogs req receivedAt limits maxRecords)
        ↔ (∀ kv ∈ attributes req, kv.key ≠ "") ∧
          ∀ window, skewWindow receivedAt limits = some window →
            ∀ c ∈ kept req receivedAt window maxRecords, c.serviceName ≠ some "") := by
  rw [← requestReadable_iff hvalues, overHttp_eq, ← otlpToLogs_request_eq_iff hvalues]
  by_cases hreadable : requestReadable req = true
  · rw [if_pos hreadable, Option.map_some, identities_request hvalues, Option.some.injEq]
    exact ⟨⟨fun _ => hreadable, fun _ => rfl⟩,
      ⟨fun h => ⟨hreadable, Option.some.inj h⟩, fun h => congrArg some h.2⟩⟩
  · rw [if_neg hreadable]
    exact ⟨⟨nofun, fun h => absurd h hreadable⟩, ⟨nofun, fun h => absurd h.1 hreadable⟩⟩

end Assembly

/-! ## One record over both transports -/

/-- A request with one record, with one attribute. -/
def helloRequest (key : String) : Grpc.ExportLogsServiceRequest where
  resourceLogs := [{
    resource := none
    scopeLogs := [{
      scope := none
      logRecords := [{
        timeUnixNano := 1782036000000000000
        observedTimeUnixNano := 0
        severityNumber := 9
        severityText := "INFO"
        body := some (.stringValue "hello")
        attributes := [{ key := key, value := some (.stringValue "v") }]
        traceId := []
        spanId := [] }] }] }]

def helloTime : DateTime := ⟨1782036000000000000⟩

/-- With a key, the two transports store the same log. -/
theorem overHttp_eq_protoToLogs_hello :
    @overHttp FloatFormat.ofBits Sha256.standard (helloRequest "k") helloTime testLimits 2048
      = some (@Grpc.protoToLogs FloatFormat.ofBits Sha256.standard (helloRequest "k") helloTime
          testLimits 2048) := by
  have hvalues : ∀ v ∈ values (helloRequest "k"), ConvertsEqually v := by decide +kernel
  have hkeys : ∀ kv ∈ attributes (helloRequest "k"), kv.key ≠ "" := by decide
  have hservice : ∀ c ∈ (helloRequest "k").records, c.serviceName ≠ some "" := by decide +kernel
  refine (@overHttp_eq_protoToLogs_iff FloatFormat.ofBits Sha256.standard (helloRequest "k")
    hvalues helloTime testLimits 2048).2.mpr ⟨hkeys, fun window _ c hc => ?_⟩
  exact hservice c (List.mem_filter.mp (List.mem_of_mem_take hc)).1

/-- With an empty key the HTTP endpoint refuses the document, and the gRPC endpoint stores the
log. -/
theorem overHttp_ne_protoToLogs_emptyKey :
    (∀ v ∈ values (helloRequest ""), ConvertsEqually v) ∧
      (@overHttp FloatFormat.ofBits Sha256.standard (helloRequest "") helloTime testLimits
          2048).map (·.map LogsParse.identities)
        ≠ some ((@Grpc.protoToLogs FloatFormat.ofBits Sha256.standard (helloRequest "") helloTime
            testLimits 2048).map LogsParse.identities) := by
  refine ⟨by decide +kernel, ?_⟩
  have hrefused : requestReadable (helloRequest "") = false := by decide
  rw [@overHttp_eq FloatFormat.ofBits Sha256.standard, hrefused]
  nofun

end Datacat.Logs.Encoding
