import Datacat.Logs.Grpc

/-!
# What the Identifier of a Log Determines

Two stored logs with the same instant and the same identifier agree on the content that the
identifier hashes: the service name, the body, the trace and span identifiers, the severity
and the attributes of the record. The instant it was observed at, the severity text, the scope
and the attributes of the resource are not hashed.

## Main results

- `dedupBytes_inj`: the hashed bytes determine the hashed content.
- `sameContent_of_key`: what two logs with one key share.
- `key_of_other_resource`: one key for two resources.
-/

namespace Datacat.Logs

open Basics Otlp

/-- What both transports make sure of. -/
structure LogFields.Normal (f : LogFields) : Prop where
  severity : ∀ n, f.severityNumber = some n → ∃ k, n = clampSeverity k
  traceId : f.traceId ≠ some ""
  spanId : f.spanId ≠ some ""

theorem filter_ne_empty (s : Option String) : (s.filter fun s => !s.isEmpty) ≠ some "" := by
  intro h
  have hempty := (Option.filter_eq_some_iff.mp h).2
  simp at hempty

/-- A clamped severity takes one byte, and a zero. -/
theorem severity_bytes {severity : Option Int16}
    (h : ∀ n, severity = some n → ∃ k, n = clampSeverity k) :
    ∃ b : UInt8, leBytes 2 (severity.getD 0).toUInt16.toNat = [b, 0] ∧
      (severity.getD 0).toUInt16.toNat = b.toNat := by
  cases severity with
  | none => exact ⟨0, rfl, rfl⟩
  | some n =>
    obtain ⟨k, rfl⟩ := h n rfl
    obtain ⟨m, hm⟩ : ∃ m : Nat, max 0 (min k 24) = m := ⟨(max 0 (min k 24)).toNat, by omega⟩
    have hle : m ≤ 24 := by omega
    rw [Option.getD_some, clampSeverity, hm]
    refine ⟨UInt8.ofNat m, ?_⟩
    interval_cases m <;> exact ⟨rfl, rfl⟩

section Normal

variable [FloatFormat]

theorem LogRecord.fields_normal (r : LogRecord) (receivedAt : DateTime) (resourceAttrs : Map)
    (serviceName scopeName : Option String) :
    (r.fields receivedAt resourceAttrs serviceName scopeName).Normal where
  severity n hn := by
    obtain ⟨k, -, rfl⟩ := Option.map_eq_some_iff.mp hn
    exact ⟨k.toInt, rfl⟩
  traceId := filter_ne_empty r.traceId
  spanId := filter_ne_empty r.spanId

theorem Grpc.LogRecord.fields_normal (r : Grpc.LogRecord) (receivedAt : DateTime)
    (resourceAttrs : Map) (serviceName scopeName : Option String) :
    (r.fields receivedAt resourceAttrs serviceName scopeName).Normal where
  severity n hn := by
    simp only [Grpc.LogRecord.fields] at hn
    split at hn
    · exact ⟨_, (Option.some.inj hn).symm⟩
    · contradiction
  traceId := by
    have h := filter_ne_empty (Proto.hexOpt r.traceId)
    rwa [Proto.hexOpt_filter] at h
  spanId := by
    have h := filter_ne_empty (Proto.hexOpt r.spanId)
    rwa [Proto.hexOpt_filter] at h

end Normal

section Assembly

variable [FloatFormat] [Sha256]

/-- A log that one of the two transports stores. -/
inductive Flattened (l : StoredLog) : Prop where
  | http (req : ExportLogsServiceRequest) (receivedAt : DateTime) (limits : ValidationLimits)
      (maxRecords : Nat) (out : LogsParse)
      (hout : otlpToLogs req receivedAt limits maxRecords = some out) (hl : l ∈ out.stored)
  | grpc (req : Grpc.ExportLogsServiceRequest) (receivedAt : DateTime) (limits : ValidationLimits)
      (maxRecords : Nat) (out : LogsParse)
      (hout : Grpc.protoToLogs req receivedAt limits maxRecords = some out) (hl : l ∈ out.stored)

/-- A stored log is assembled from normal fields. -/
theorem Flattened.assembled {l : StoredLog} (h : Flattened l) :
    ∃ f : LogFields, f.Normal ∧ l = assembleLog f := by
  cases h with
  | http req receivedAt limits maxRecords out hout hl =>
    rw [otlpToLogs_eq] at hout
    obtain ⟨window, -, rfl⟩ := Option.map_eq_some_iff.mp hout
    obtain ⟨c, -, rfl⟩ := List.mem_map.mp hl
    exact ⟨_, c.record.fields_normal receivedAt c.resourceAttrs c.serviceName c.scopeName, rfl⟩
  | grpc req receivedAt limits maxRecords out hout hl =>
    rw [Grpc.protoToLogs_eq] at hout
    obtain ⟨window, -, rfl⟩ := Option.map_eq_some_iff.mp hout
    obtain ⟨c, -, rfl⟩ := List.mem_map.mp hl
    exact ⟨_, c.record.fields_normal receivedAt c.resourceAttrs c.serviceName c.scopeName, rfl⟩

/-! ## The hashed bytes -/

/-- What the identifier of a log hashes. -/
def StoredLog.hashed (l : StoredLog) : List UInt8 :=
  dedupBytes l.logTime l.serviceName l.body l.traceId l.spanId l.severityNumber l.logAttributes

theorem logId_assembleLog (f : LogFields) :
    (assembleLog f).logId = truncatedDigest (assembleLog f).hashed := by
  rw [assembleLog, dedupId, StoredLog.hashed]

/-- The service name and the body have no U+0000, as every text of the database. -/
def StoredLog.plainTexts (l : StoredLog) : Bool :=
  !hasNul (l.serviceName.getD "") && !hasNul (l.body.getD "")

/-- **The hashed bytes determine the hashed content**, the trace and span identifiers as one
text. The first two texts end at a zero byte; the severity ends at the last one, since the
text of the attributes has none. -/
theorem dedupBytes_inj [LawfulFloatFormat] {f g : LogFields} (hf : f.Normal) (hg : g.Normal)
    (hplain₁ : (assembleLog f).plainTexts = true) (hplain₂ : (assembleLog g).plainTexts = true)
    (h : (assembleLog f).hashed = (assembleLog g).hashed) :
    f.serviceName.getD "" = g.serviceName.getD "" ∧ f.body.getD "" = g.body.getD "" ∧
      f.traceId.getD "" ++ f.spanId.getD "" = g.traceId.getD "" ++ g.spanId.getD "" ∧
      f.severityNumber.getD 0 = g.severityNumber.getD 0 ∧ f.logAttrs = g.logAttrs := by
  simp only [StoredLog.plainTexts, assembleLog, Bool.and_eq_true, Bool.not_eq_true'] at hplain₁ hplain₂
  obtain ⟨b, hbytes₁, hb₁⟩ := severity_bytes hf.severity
  obtain ⟨c, hbytes₂, hc₂⟩ := severity_bytes hg.severity
  simp only [StoredLog.hashed, assembleLog, dedupBytes, List.append_assoc, hbytes₁, hbytes₂,
    List.cons_append, List.nil_append] at h
  -- The time and then the two texts, each up to its separator, are read off from the left.
  obtain ⟨-, h⟩ := List.append_inj h (by simp)
  obtain ⟨hservice, h⟩ := asBytes_append_inj hplain₁.1 hplain₂.1 h
  obtain ⟨hbody, h⟩ := asBytes_append_inj hplain₁.2 hplain₂.2 h
  -- The ids have no separator between them; the attributes, which follow the last one, are read
  -- off from the right.
  have hcut : (asBytes (f.traceId.getD "") ++ asBytes (f.spanId.getD "") ++ [b])
        ++ 0 :: asBytes (Value.ofMap f.logAttrs).toJsonString
      = (asBytes (g.traceId.getD "") ++ asBytes (g.spanId.getD "") ++ [c])
        ++ 0 :: asBytes (Value.ofMap g.logAttrs).toJsonString := by
    simpa using h
  obtain ⟨hids, hattributes⟩ := append_last_sep_inj
    (zero_notMem_asBytes (Value.hasNul_toJsonString _))
    (zero_notMem_asBytes (Value.hasNul_toJsonString _)) hcut
  -- The byte of the severity is the last one before it.
  obtain ⟨hids, hseverity⟩ := List.append_inj' hids rfl
  refine ⟨hservice, hbody, ?_, ?_, ?_⟩
  · apply asBytes_injective
    rw [asBytes_append, asBytes_append, hids]
  · have hword : (f.severityNumber.getD 0).toUInt16 = (g.severityNumber.getD 0).toUInt16 := by
      apply UInt16.toNat_inj.mp
      rw [hb₁, hc₂, (List.cons.inj hseverity).1]
    exact congrArg UInt16.toInt16 hword
  · exact Value.ofMap_injective (Value.toJsonString_injective (asBytes_injective hattributes))

/-! ## Logs with one key -/

def StoredLog.correlation (l : StoredLog) : Correlation where
  tenantId := l.tenantId
  actorId := l.actorId
  sessionId := l.sessionId

/-- What two logs with one key share. An absent text counts as an empty one, an absent
severity as zero. -/
structure SameContent (l₁ l₂ : StoredLog) : Prop where
  logTime : l₁.logTime = l₂.logTime
  serviceName : l₁.serviceName.getD "" = l₂.serviceName.getD ""
  body : l₁.body.getD "" = l₂.body.getD ""
  traceAndSpan : l₁.traceId.getD "" ++ l₁.spanId.getD "" = l₂.traceId.getD "" ++ l₂.spanId.getD ""
  traceId : (l₁.traceId.getD "").length = (l₂.traceId.getD "").length → l₁.traceId = l₂.traceId
  spanId : (l₁.traceId.getD "").length = (l₂.traceId.getD "").length → l₁.spanId = l₂.spanId
  severityNumber : l₁.severityNumber.getD 0 = l₂.severityNumber.getD 0
  logAttributes : l₁.logAttributes = l₂.logAttributes
  correlation : SameCorrelation l₁.logAttributes l₁.correlation l₂.correlation

/-- **One key, one content**: two stored logs with the same instant and the same identifier
agree on everything that is hashed, when the digest does not collide on the two. -/
theorem sameContent_of_key [LawfulFloatFormat] {l₁ l₂ : StoredLog} (h₁ : Flattened l₁)
    (h₂ : Flattened l₂) (hplain₁ : l₁.plainTexts = true) (hplain₂ : l₂.plainTexts = true)
    (hinj : Set.InjOn truncatedDigest {l₁.hashed, l₂.hashed})
    (hkey : l₁.key = l₂.key) : SameContent l₁ l₂ := by
  obtain ⟨f, hf, rfl⟩ := h₁.assembled
  obtain ⟨g, hg, rfl⟩ := h₂.assembled
  obtain ⟨htime, hid⟩ := Prod.mk.inj hkey
  rw [logId_assembleLog, logId_assembleLog] at hid
  have hhashed := hinj (Set.mem_insert ..) (Set.mem_insert_of_mem _ rfl) hid
  obtain ⟨hservice, hbody, hids, hseverity, hattributes⟩ :=
    dedupBytes_inj hf hg hplain₁ hplain₂ hhashed
  refine ⟨htime, hservice, hbody, hids, ?_, ?_, hseverity, congrArg Value.ofMap hattributes, ?_⟩
  · intro hlength
    exact eq_of_getD_eq hf.traceId hg.traceId (string_append_inj hlength hids).1
  · intro hlength
    exact eq_of_getD_eq hf.spanId hg.spanId (string_append_inj hlength hids).2
  · have hsame := sameCorrelation_correlate f.logAttrs f.resourceAttrs g.resourceAttrs
    simp only [assembleLog, StoredLog.correlation, ← hattributes]
    exact hsame

end Assembly

/-! ## One record from two hosts -/

def bootRecord : LogRecord where
  timeUnixNano := some (.str "1782036000000000000")
  observedTimeUnixNano := none
  severityNumber := some 9
  severityText := none
  body := some { Json.AnyValue.empty with stringValue := some "started" }
  attributes := []
  traceId := none
  spanId := none

def bootResource (host : String) : Json.Resource where
  attributes := [
    { key := "service.name",
      value := some { Json.AnyValue.empty with stringValue := some "api" } },
    { key := "host.name",
      value := some { Json.AnyValue.empty with stringValue := some host } }]

/-- The record, sent by one of the hosts of the service. -/
def bootRequest (host : String) : ExportLogsServiceRequest where
  resourceLogs := [{
    resource := some (bootResource host)
    scopeLogs := [{ scope := none, logRecords := [bootRecord] }] }]

def bootTime : DateTime := ⟨1782036000000000000⟩

/-- What is stored of it. -/
def bootLog (host : String) : StoredLog :=
  @RecordContext.stored FloatFormat.ofBits Sha256.standard bootTime
    { resource := some (bootResource host), scope := none, record := bootRecord }

theorem bootLog_flattened (host : String) :
    @Flattened FloatFormat.ofBits Sha256.standard (bootLog host) := by
  obtain ⟨window, hwindow, hinside⟩ : ∃ window, skewWindow bootTime testLimits = some window ∧
      (!outsideWindow window bootTime) = true := by
    apply (Option.any_eq_true _ _).mp
    decide +kernel
  have htime : bootRecord.logTime bootTime = bootTime := by decide +kernel
  have hout := @otlpToLogs_eq FloatFormat.ofBits Sha256.standard (bootRequest host) bootTime
    testLimits 2048
  rw [hwindow, Option.map_some] at hout
  refine @Flattened.http FloatFormat.ofBits Sha256.standard _ _ _ _ _ _ hout ?_
  refine List.mem_map.mpr
    ⟨{ resource := some (bootResource host), scope := none, record := bootRecord }, ?_, rfl⟩
  have hrecords : (bootRequest host).records
      = [{ resource := some (bootResource host), scope := none, record := bootRecord }] := rfl
  rw [hrecords, List.filter_cons, RecordContext.inWindow, htime, if_pos hinside]
  exact List.mem_cons_self ..

/-- Neither host is hashed. -/
theorem bootLog_hashed : @StoredLog.hashed FloatFormat.ofBits (bootLog "a")
    = @StoredLog.hashed FloatFormat.ofBits (bootLog "b") := by
  decide +kernel

theorem logId_bootLog (host : String) : (bootLog host).logId
    = @truncatedDigest Sha256.standard (@StoredLog.hashed FloatFormat.ofBits (bootLog host)) :=
  @logId_assembleLog FloatFormat.ofBits Sha256.standard _

theorem bootLog_key : (bootLog "a").key = (bootLog "b").key := by
  rw [StoredLog.key, StoredLog.key, logId_bootLog, logId_bootLog, bootLog_hashed]
  rfl

theorem bootLog_injOn : Set.InjOn (@truncatedDigest Sha256.standard)
    {@StoredLog.hashed FloatFormat.ofBits (bootLog "a"),
      @StoredLog.hashed FloatFormat.ofBits (bootLog "b")} := by
  rw [bootLog_hashed, Set.pair_eq_singleton]
  exact Set.injOn_singleton ..

/-- The logs of the two hosts share what is hashed. -/
theorem sameContent_of_key_boot : SameContent (bootLog "a") (bootLog "b") :=
  @sameContent_of_key FloatFormat.ofBits Sha256.standard FloatFormat.ofBits_lawful _ _
    (bootLog_flattened "a") (bootLog_flattened "b") (by decide +kernel) (by decide +kernel)
    bootLog_injOn bootLog_key

/-- They have one key, whatever the digest, and not the same attributes of the resource: the
merge discards one of them. -/
theorem key_of_other_resource :
    @Flattened FloatFormat.ofBits Sha256.standard (bootLog "a") ∧
      @Flattened FloatFormat.ofBits Sha256.standard (bootLog "b") ∧
      Set.InjOn (@truncatedDigest Sha256.standard)
        {@StoredLog.hashed FloatFormat.ofBits (bootLog "a"),
          @StoredLog.hashed FloatFormat.ofBits (bootLog "b")} ∧
      (bootLog "a").key = (bootLog "b").key ∧
      (bootLog "a").resourceAttributes ≠ (bootLog "b").resourceAttributes :=
  ⟨bootLog_flattened "a", bootLog_flattened "b", bootLog_injOn, bootLog_key, by decide +kernel⟩

end Datacat.Logs
