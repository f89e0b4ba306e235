import Datacat.Ingest.Intake
import Datacat.Logs.Grpc
import Datacat.Metrics.Grpc
import Datacat.Traces.Grpc

/-!
# The Export Requests

The handlers of logs, traces and metrics over HTTP and over gRPC: the ban, the authentication,
the flattening, the intake and the answer. The three handlers of a transport are one
definition, at each domain's own values.
-/

namespace Datacat.Api

open Basics Security Ingest

/-! ## Answers -/

/-- `tonic::Code`, the codes that an export is refused with. -/
inductive Code where
  | unauthenticated
  | resourceExhausted
  | outOfRange
  | invalidArgument
deriving DecidableEq

structure Status where
  code : Code
  message : String
deriving DecidableEq

def appErrToStatus : AppError → Status
  | .unauthorized message => ⟨.unauthenticated, message⟩
  | .rateLimited scope _ => ⟨.resourceExhausted, "rate limit: " ++ scope⟩
  | .payloadTooLarge message => ⟨.outOfRange, message⟩
  | .badRequest message _ => ⟨.invalidArgument, message⟩

/-- The answer over HTTP: an empty object when no record is rejected. -/
def httpResponse (rejectedField : String) (rejected : Nat) : Value :=
  if 0 < rejected then
    .ofMap (BTreeMap.ofEntries [
      ("partialSuccess", .ofMap (BTreeMap.ofEntries [
        (rejectedField, .number (.ofU64 (.ofNat rejected))),
        ("errorMessage", .string "back-pressure")]))])
  else .ofMap .empty

def fieldOf? (v : Value) (key : String) : Option Value :=
  match v with
  | .object entries => entries.lookup key
  | _ => none

/-- The count that an answer over HTTP reports, zero when it reports none. -/
def httpRejected (rejectedField : String) (response : Value) : Nat :=
  match (fieldOf? response "partialSuccess").bind (fieldOf? · rejectedField) with
  | some (.number n) => (n.asU64.getD 0).toNat
  | _ => 0

theorem httpRejected_httpResponse {rejectedField : String} {rejected : Nat}
    (hfield : rejectedField ≠ "errorMessage") (hfits : rejected < 2 ^ 64) :
    httpRejected rejectedField (httpResponse rejectedField rejected) = rejected := by
  unfold httpResponse
  split
  · have hget : ∀ (m : Map) (key : String), fieldOf? (.ofMap m) key = m.get key := fun _ _ => rfl
    unfold httpRejected
    rw [hget, BTreeMap.get_ofEntries]
    show (match fieldOf? (.ofMap _) rejectedField with
      | some (.number n) => (n.asU64.getD 0).toNat
      | _ => 0) = rejected
    rw [hget, BTreeMap.get_ofEntries]
    simp only [BTreeMap.lastLookup, hfield, if_true, if_false, Option.none_or]
    exact Nat.mod_eq_of_lt hfits
  · rename_i hzero
    exact (Nat.eq_zero_of_not_pos hzero).symm

/-- `ExportLogsPartialSuccess` and its two likes. The count is an `i64`, wide enough for the
length of any list. -/
structure PartialSuccess where
  rejected : Int
  errorMessage : String
deriving DecidableEq

/-- The answer over gRPC. -/
structure ExportResponse where
  partialSuccess : Option PartialSuccess
deriving DecidableEq

def grpcResponse (rejected : Nat) : ExportResponse where
  partialSuccess := if 0 < rejected then some ⟨rejected, "back-pressure"⟩ else none

/-- What a handler over HTTP makes of the answer of the intake. -/
def httpAnswer (rejectedField : String) :
    Except AppError (Nat × Nat) → Except AppError Value
  | .error e => .error e
  | .ok (total, enqueued) => .ok (httpResponse rejectedField (total - enqueued))

def grpcAnswer : Except AppError (Nat × Nat) → Except Status ExportResponse
  | .error e => .error (appErrToStatus e)
  | .ok (total, enqueued) => .ok (grpcResponse (total - enqueued))

/-! ## Handlers -/

/-- The records of a request once flattened: those to store, and how many the skew window
dropped. -/
structure Flattened (d : Signal) where
  stored : List d.Row
  droppedSkew : Nat

/-- How a handler flattens a request, given the reception, the limits and the bound on the
records. None where the code panics. -/
def Flattening (d : Signal) : Type :=
  DateTime → ValidationLimits → Nat → Option (Flattened d)

/-- Spans without identifiers are dropped without being counted anywhere. -/
def otlpSpans (req : Traces.ExportTraceServiceRequest) : Flattening .spans :=
  fun receivedAt limits maxRecords =>
    (Traces.otlpToSpans req receivedAt limits maxRecords).map fun p => ⟨p.stored, p.droppedSkew⟩

def protoSpans (req : Traces.Grpc.ExportTraceServiceRequest) : Flattening .spans :=
  fun receivedAt limits maxRecords =>
    (Traces.Grpc.protoToSpans req receivedAt limits maxRecords).map fun p =>
      ⟨p.stored, p.droppedSkew⟩

section Hashed

variable [FloatFormat] [Sha256]

def otlpLogs (req : Logs.ExportLogsServiceRequest) : Flattening .logs :=
  fun receivedAt limits maxRecords =>
    (Logs.otlpToLogs req receivedAt limits maxRecords).map fun p => ⟨p.stored, p.droppedSkew⟩

def protoLogs (req : Logs.Grpc.ExportLogsServiceRequest) : Flattening .logs :=
  fun receivedAt limits maxRecords =>
    (Logs.Grpc.protoToLogs req receivedAt limits maxRecords).map fun p => ⟨p.stored, p.droppedSkew⟩

def otlpMetrics (req : Metrics.ExportMetricsServiceRequest) : Flattening .metricPoints :=
  fun receivedAt limits maxRecords =>
    (Metrics.otlpToMetrics req receivedAt limits maxRecords).map fun p => ⟨p.stored, p.droppedSkew⟩

def protoMetrics (req : Metrics.Grpc.ExportMetricsServiceRequest) : Flattening .metricPoints :=
  fun receivedAt limits maxRecords =>
    (Metrics.Grpc.protoToMetrics req receivedAt limits maxRecords).map fun p =>
      ⟨p.stored, p.droppedSkew⟩

end Hashed

/-- The state in which a request that is neither banned nor unauthorized goes on. -/
def admitted (s : AppState) (call : Call) : Option AppState :=
  if (s.isBanned call).1 then none
  else
    match (s.isBanned call).2.authorizeLogs call with
    | (.ok (), s) => some s
    | (.error _, _) => none

/-- A request goes on with the limiter, the configuration and the domains as they are. -/
theorem admitted_frame {s s₀ : AppState} {call : Call} (h : admitted s call = some s₀) :
    s₀.limiter = s.limiter ∧ s₀.config = s.config ∧ s₀.limits = s.limits ∧
      ∀ d, s₀.ingestor d = s.ingestor d := by
  unfold admitted AppState.authorizeLogs at h
  split at h
  · cases h
  · split at h
    · rename_i hauth
      split at hauth
      · cases hauth
        obtain rfl := Option.some.inj h
        exact ⟨rfl, rfl, rfl, fun d => by cases d <;> rfl⟩
      · cases hauth
    · cases h

section Handlers

variable [FloatFormat]

/-- The six handlers: `banned` answers an address that is banned, `answer` gives the others
what the intake says. `request` is the body once read, none when it is not a request. None
where the code panics. -/
def handle {A : Type} (d : Signal) (banned : A) (answer : Except AppError (Nat × Nat) → A)
    (request : Option (Flattening d)) (s : AppState) (call : Call) : Option (A × AppState) :=
  let (isBanned, s) := s.isBanned call
  if isBanned then some (banned, s)
  else
    match s.authorizeLogs call with
    | (.error e, s) => some (answer (.error e), s)
    | (.ok (), s) =>
      match request with
      | none => some (answer (.error (.ofMessage "corps OTLP JSON invalide")), s.recordBad call)
      | some flatten =>
        (flatten call.receivedAt s.limits s.config.maxLogsRecords.toNat).map fun parsed =>
          let (accepted, s) := accept d s call parsed.stored parsed.droppedSkew
          (answer accepted, s)

section Lemmas

variable {A : Type} {d : Signal} {banned : A} {answer : Except AppError (Nat × Nat) → A}
  {s s₀ : AppState} {call : Call}

/-- A request that goes on is read, flattened and answered by the intake. -/
theorem handle_admitted {request : Option (Flattening d)} (h : admitted s call = some s₀) :
    handle d banned answer request s call =
      match request with
      | none =>
        some (answer (.error (.ofMessage "corps OTLP JSON invalide")), s₀.recordBad call)
      | some flatten =>
        (flatten call.receivedAt s₀.limits s₀.config.maxLogsRecords.toNat).map fun parsed =>
          (answer (accept d s₀ call parsed.stored parsed.droppedSkew).1,
            (accept d s₀ call parsed.stored parsed.droppedSkew).2) := by
  unfold admitted at h
  unfold handle
  dsimp only
  split at h
  · cases h
  · rename_i hbanned
    rw [if_neg hbanned]
    split at h
    · rename_i hauth
      obtain rfl := Option.some.inj h
      rw [hauth]
    · cases h

theorem handle_map {B : Type} (f : A → B) (request : Option (Flattening d)) :
    (handle d banned answer request s call).map (Prod.map f id) =
      handle d (f banned) (f ∘ answer) request s call := by
  unfold handle
  dsimp only
  split
  · rfl
  · split
    · rfl
    · cases request with
      | none => rfl
      | some flatten => exact Option.map_map ..

/-- A request that is answered is refused at the door, or goes through the intake. -/
theorem handle_cases {request : Option (Flattening d)} {reply : A} {s' : AppState}
    (h : handle d banned answer request s call = some (reply, s')) :
    (reply = banned ∨ ∃ e, reply = answer (.error e)) ∨
      ∃ flatten s₀ parsed, request = some flatten ∧ admitted s call = some s₀ ∧
        flatten call.receivedAt s₀.limits s₀.config.maxLogsRecords.toNat = some parsed ∧
        reply = answer (accept d s₀ call parsed.stored parsed.droppedSkew).1 ∧
        s' = (accept d s₀ call parsed.stored parsed.droppedSkew).2 := by
  cases hadmitted : admitted s call with
  | none =>
    -- Refused at the door: the address is banned, or the service is not authorized.
    left
    unfold admitted at hadmitted
    unfold handle at h
    dsimp only at h
    split at hadmitted
    · rename_i hbanned
      rw [if_pos hbanned] at h
      exact .inl (congrArg Prod.fst (Option.some.inj h)).symm
    · rename_i hbanned
      rw [if_neg hbanned] at h
      split at hadmitted
      · cases hadmitted
      · rename_i e _ hauth
        rw [hauth] at h
        exact .inr ⟨e, (congrArg Prod.fst (Option.some.inj h)).symm⟩
  | some s₀ =>
    rw [handle_admitted hadmitted] at h
    cases request with
    -- Let in, but the body cannot be read.
    | none => exact .inl (.inr ⟨_, (congrArg Prod.fst (Option.some.inj h)).symm⟩)
    | some flatten =>
      obtain ⟨parsed, hparsed, heq⟩ := Option.map_eq_some_iff.mp h
      exact .inr ⟨flatten, s₀, parsed, rfl, rfl, hparsed, (congrArg Prod.fst heq).symm,
        (congrArg Prod.snd heq).symm⟩

end Lemmas

/-- A handler over HTTP. -/
def httpIngest (d : Signal) (rejectedField : String) (request : Option (Flattening d))
    (s : AppState) (call : Call) : Option (Except AppError Value × AppState) :=
  handle d (.error (.rateLimited "anomaly_ban" 60)) (httpAnswer rejectedField) request s call

/-- A handler over gRPC, where the body has been read already. -/
def grpcExport (d : Signal) (flatten : Flattening d) (s : AppState) (call : Call) :
    Option (Except Status ExportResponse × AppState) :=
  handle d (.error ⟨.resourceExhausted, "IP temporairement bannie"⟩) grpcAnswer (some flatten)
    s call

/-- The count of the partial success of a domain. -/
def rejectedField : Signal → String
  | .logs => "rejectedLogRecords"
  | .spans => "rejectedSpans"
  | .metricPoints => "rejectedDataPoints"

/-- `ingest_traces`; the body is a JSON document, none when it is not JSON. -/
def ingestTraces (s : AppState) (call : Call) (body : Option Value) :
    Option (Except AppError Value × AppState) :=
  httpIngest .spans (rejectedField .spans)
    ((body.bind Traces.ExportTraceServiceRequest.deserialize).map otlpSpans) s call

/-- `DatacatTracesService::export`. -/
def exportTraces (s : AppState) (call : Call) (req : Traces.Grpc.ExportTraceServiceRequest) :
    Option (Except Status ExportResponse × AppState) :=
  grpcExport .spans (protoSpans req) s call

variable [Sha256]

/-- `ingest_logs`. -/
def ingestLogs (s : AppState) (call : Call) (body : Option Value) :
    Option (Except AppError Value × AppState) :=
  httpIngest .logs (rejectedField .logs)
    ((body.bind Logs.ExportLogsServiceRequest.deserialize).map otlpLogs) s call

/-- `ingest_metrics`. -/
def ingestMetrics (s : AppState) (call : Call) (body : Option Value) :
    Option (Except AppError Value × AppState) :=
  httpIngest .metricPoints (rejectedField .metricPoints)
    ((body.bind Metrics.ExportMetricsServiceRequest.deserialize).map otlpMetrics) s call

/-- `DatacatLogsService::export`. -/
def exportLogs (s : AppState) (call : Call) (req : Logs.Grpc.ExportLogsServiceRequest) :
    Option (Except Status ExportResponse × AppState) :=
  grpcExport .logs (protoLogs req) s call

/-- `DatacatMetricsService::export`. -/
def exportMetrics (s : AppState) (call : Call) (req : Metrics.Grpc.ExportMetricsServiceRequest) :
    Option (Except Status ExportResponse × AppState) :=
  grpcExport .metricPoints (protoMetrics req) s call

end Handlers

/-! ## The six of them -/

/-- An export request, by its transport and its domain. -/
inductive Export where
  | httpLogs (body : Option Value)
  | httpTraces (body : Option Value)
  | httpMetrics (body : Option Value)
  | grpcLogs (req : Logs.Grpc.ExportLogsServiceRequest)
  | grpcTraces (req : Traces.Grpc.ExportTraceServiceRequest)
  | grpcMetrics (req : Metrics.Grpc.ExportMetricsServiceRequest)

inductive Reply where
  | http (answer : Except AppError Value)
  | grpc (answer : Except Status ExportResponse)

namespace Export

def signal : Export → Signal
  | httpLogs _ => .logs
  | grpcLogs _ => .logs
  | httpTraces _ => .spans
  | grpcTraces _ => .spans
  | httpMetrics _ => .metricPoints
  | grpcMetrics _ => .metricPoints

/-- The number of rejected records that an answer reports, when it is a success. -/
def reported (e : Export) : Reply → Option Int
  | .http (.ok response) => some (httpRejected (rejectedField e.signal) response)
  | .grpc (.ok response) => some ((response.partialSuccess.map (·.rejected)).getD 0)
  | _ => none

/-- The request was refused for the number of its records. -/
def RefusedAsTooLarge : Reply → Prop
  | .http (.error (.payloadTooLarge _)) => True
  | .grpc (.error status) => status.code = .outOfRange
  | _ => False

/-- What the transport of a request makes of the answer of the intake. -/
def answer (e : Export) (accepted : Except AppError (Nat × Nat)) : Reply :=
  match e with
  | httpLogs _ | httpTraces _ | httpMetrics _ => .http (httpAnswer (rejectedField e.signal) accepted)
  | grpcLogs _ | grpcTraces _ | grpcMetrics _ => .grpc (grpcAnswer accepted)

def bannedReply : Export → Reply
  | httpLogs _ | httpTraces _ | httpMetrics _ => .http (.error (.rateLimited "anomaly_ban" 60))
  | grpcLogs _ | grpcTraces _ | grpcMetrics _ =>
    .grpc (.error ⟨.resourceExhausted, "IP temporairement bannie"⟩)

/-- What is reported of an answer of the intake is the difference of its two numbers. -/
theorem reported_answer {e : Export} {total enqueued : Nat} (h : total < 2 ^ 64) :
    e.reported (e.answer (.ok (total, enqueued))) = some ((total - enqueued : Nat) : Int) := by
  have hhttp : httpRejected (rejectedField e.signal)
      (httpResponse (rejectedField e.signal) (total - enqueued)) = total - enqueued := by
    apply httpRejected_httpResponse
    · cases e.signal <;> decide
    · omega
  have hgrpc : ((grpcResponse (total - enqueued)).partialSuccess.map (·.rejected)).getD 0
      = ((total - enqueued : Nat) : Int) := by
    unfold grpcResponse
    split
    · rfl
    · rename_i hzero
      exact congrArg Nat.cast (Nat.eq_zero_of_not_pos hzero).symm
  cases e with
  | grpcLogs req | grpcTraces req | grpcMetrics req => exact congrArg some hgrpc
  | httpLogs body | httpTraces body | httpMetrics body =>
    exact congrArg some (congrArg Nat.cast hhttp)

theorem refusedAsTooLarge_answer (e : Export) (accepted : Except AppError (Nat × Nat)) :
    RefusedAsTooLarge (e.answer accepted) ↔
      ∃ message, accepted = .error (.payloadTooLarge message) := by
  have hhttp : RefusedAsTooLarge (.http (httpAnswer (rejectedField e.signal) accepted)) ↔
      ∃ message, accepted = .error (.payloadTooLarge message) := by
    rcases accepted with (_ | message | _ | _) | _
    all_goals simp [RefusedAsTooLarge, httpAnswer]
  have hgrpc : RefusedAsTooLarge (.grpc (grpcAnswer accepted)) ↔
      ∃ message, accepted = .error (.payloadTooLarge message) := by
    rcases accepted with (_ | message | _ | _) | _
    all_goals simp [RefusedAsTooLarge, grpcAnswer, appErrToStatus]
  cases e with
  | grpcLogs req | grpcTraces req | grpcMetrics req => exact hgrpc
  | httpLogs body | httpTraces body | httpMetrics body => exact hhttp

/-- An error is reported as such. -/
theorem reported_error (e : Export) (err : AppError) : e.reported (e.answer (.error err)) = none := by
  cases e <;> rfl

section Serve

variable [FloatFormat] [Sha256]

/-- The request once read, none when the body is not one. -/
def flattening : (e : Export) → Option (Flattening e.signal)
  | httpLogs body => (body.bind Logs.ExportLogsServiceRequest.deserialize).map otlpLogs
  | httpTraces body => (body.bind Traces.ExportTraceServiceRequest.deserialize).map otlpSpans
  | httpMetrics body =>
    (body.bind Metrics.ExportMetricsServiceRequest.deserialize).map otlpMetrics
  | grpcLogs req => some (protoLogs req)
  | grpcTraces req => some (protoSpans req)
  | grpcMetrics req => some (protoMetrics req)

/-- The handler of the request. -/
def serve (e : Export) (s : AppState) (call : Call) : Option (Reply × AppState) :=
  match e with
  | httpLogs body => (ingestLogs s call body).map (Prod.map .http id)
  | httpTraces body => (ingestTraces s call body).map (Prod.map .http id)
  | httpMetrics body => (ingestMetrics s call body).map (Prod.map .http id)
  | grpcLogs req => (exportLogs s call req).map (Prod.map .grpc id)
  | grpcTraces req => (exportTraces s call req).map (Prod.map .grpc id)
  | grpcMetrics req => (exportMetrics s call req).map (Prod.map .grpc id)

theorem serve_eq_handle (e : Export) (s : AppState) (call : Call) :
    e.serve s call = handle e.signal e.bannedReply e.answer e.flattening s call := by
  cases e with
  | httpLogs body => exact handle_map Reply.http _
  | httpTraces body => exact handle_map Reply.http _
  | httpMetrics body => exact handle_map Reply.http _
  | grpcLogs req => exact handle_map Reply.grpc (some (protoLogs req))
  | grpcTraces req => exact handle_map Reply.grpc (some (protoSpans req))
  | grpcMetrics req => exact handle_map Reply.grpc (some (protoMetrics req))

/-- An answer that reports a number is one of the intake. -/
theorem accepted_of_reported {e : Export} {s s' : AppState} {call : Call} {reply : Reply}
    {rejected : Int} (h : e.serve s call = some (reply, s'))
    (hreported : e.reported reply = some rejected) :
    ∃ flatten s₀ parsed total enqueued, e.flattening = some flatten ∧
      admitted s call = some s₀ ∧
      flatten call.receivedAt s₀.limits s₀.config.maxLogsRecords.toNat = some parsed ∧
      accept e.signal s₀ call parsed.stored parsed.droppedSkew = (.ok (total, enqueued), s') ∧
      reply = e.answer (.ok (total, enqueued)) := by
  rw [serve_eq_handle] at h
  rcases handle_cases h with (rfl | ⟨err, rfl⟩) | ⟨flatten, s₀, parsed, hread, hadm, hparsed, rfl, rfl⟩
  · cases e <;> cases hreported
  · rw [reported_error] at hreported
    cases hreported
  · generalize haccept : accept e.signal s₀ call parsed.stored parsed.droppedSkew = result
    obtain ⟨accepted, s'⟩ := result
    rw [haccept] at hreported
    cases accepted with
    | error err =>
      rw [reported_error] at hreported
      cases hreported
    | ok counts => exact ⟨flatten, s₀, parsed, counts.1, counts.2, hread, hadm, hparsed, haccept, rfl⟩

end Serve

end Export

end Datacat.Api
