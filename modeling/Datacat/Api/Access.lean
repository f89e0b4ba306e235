import Datacat.Api.Events
import Datacat.Api.Export
import Datacat.Companion.Liveness
import Datacat.Security.Keys

/-!
# Who May Call

How the modes of authentication are resolved from the configuration, what a production build
refuses to start with, and the router: ingestion over both transports, heartbeats, reads,
statistics, health. What the reading endpoints make of the server is a parameter, any functions of
all of it.

An outsider sends requests whose token no endpoint that asks for one accepts. Its answers are
decided by the configuration, the verifier and the guard. Nothing else of the server shows, and
only the guard remembers the request.

## Main results

- `serve_outsider`: what a request of an outsider is answered, whatever the rest of the server.
- `outsiders_learn_nothing`: two runs with the same requests of outsiders compared.
- `production_closed`: a production build, where a request without a token is one of an outsider.
-/

namespace Datacat

open Basics Security

/-! ## Configuration -/

/-- `LogsAuth::resolve`. -/
def LogsAuth.resolve (mode : String) (staticToken : Option String) (tokenEnabled : Bool) :
    Except Contexts LogsAuth :=
  let staticToken := staticToken.filter fun s => !s.isEmpty
  match String.ofList ((trim mode.toList).map Char.toLower) with
  | "static" =>
    match staticToken with
    | some t => .ok (.static t)
    | Option.none => .error ["mode d'auth `static` mais aucun token statique fourni"]
  | "jwt" => .ok .jwt
  | "none" => .ok .none
  | "auto" =>
    match staticToken with
    | some t => .ok (.static t)
    | Option.none => if tokenEnabled then .ok .jwt else .ok .none
  | other => .error ["mode d'auth invalide: " ++ other ++ " (auto|static|jwt|none)"]

/-- The mode is the one without authentication. -/
def IsOpen (mode : String) : Prop := String.ofList ((trim mode.toList).map Char.toLower) = "none"

/-- While tokens are verified, no mode but `none` leaves an endpoint open. -/
theorem LogsAuth.resolve_ne_none {mode : String} {staticToken : Option String} {auth : LogsAuth}
    (h : LogsAuth.resolve mode staticToken true = .ok auth) (hmode : ¬IsOpen mode) :
    auth ≠ .none := by
  unfold resolve at h
  dsimp only at h
  split at h
  · split at h
    · obtain rfl := Except.ok.inj h
      exact nofun
    · cases h
  · obtain rfl := Except.ok.inj h
    exact nofun
  · rename_i hnone
    exact absurd hnone hmode
  · split at h
    · obtain rfl := Except.ok.inj h
      exact nofun
    · obtain rfl := Except.ok.inj h
      exact nofun
  · cases h

/-- `CorsOrigins`. -/
inductive CorsOrigins where
  | list (origins : List String)
  | any

/-- `build_cors`, of the configuration. -/
def CorsOrigins.build (allowedOrigins : List String) : CorsOrigins :=
  if allowedOrigins.any (· == "*") then .any
  else .list ((allowedOrigins.map fun s => String.ofList (trim s.toList)).filter (!·.isEmpty))

structure AuthEntry where
  mode : String := "auto"
  staticToken : Option String := none

/-- The sections of the file that say who may call. -/
structure AccessSection where
  token : TokenSection := {}
  logs : AuthEntry := {}
  query : AuthEntry := {}
  mcpEnabled : Bool := true
  allowedOrigins : List String := []

/-- The fields of `Config` that are made of these sections. -/
structure AccessConfig where
  token : TokenConfig
  logsAuth : LogsAuth
  queryAuth : LogsAuth
  mcpEnabled : Bool
  cors : CorsOrigins

/-- The part of `build_config` about these sections. -/
def AccessSection.build (file : AccessSection) (readFile : String → Except String String) :
    Except Contexts AccessConfig := do
  let token ← file.token.build readFile
  let logsAuth ← Contexts.wrap "[auth.logs]"
    (LogsAuth.resolve file.logs.mode file.logs.staticToken token.enabled)
  let queryAuth ← Contexts.wrap "[auth.query]"
    (LogsAuth.resolve file.query.mode file.query.staticToken token.enabled)
  return {
    token := token
    logsAuth := logsAuth
    queryAuth := queryAuth
    mcpEnabled := file.mcpEnabled
    cors := CorsOrigins.build file.allowedOrigins }

/-- `enforce_runtime_guards`; `dev` is the feature of the build. -/
def AccessConfig.enforceRuntimeGuards (dev : Bool) (cfg : AccessConfig) : Except Contexts Unit :=
  if dev then .ok ()
  else
    match cfg.cors with
    | .any => .error ["wildcard CORS (allowed_origins = [\"*\"]) is dev-only: build with "
        ++ "`--features dev`, or restrict the allowed origins"]
    | .list _ =>
      if !cfg.token.enabled then
        .error ["token verification is disabled: dev-only — build with `--features dev` to "
          ++ "allow it (never in production)"]
      else .ok ()

/-- What a production build that starts has in its configuration. -/
structure AccessConfig.Closed (cfg : AccessConfig) : Prop where
  enabled : cfg.token.enabled = true
  logs : cfg.logsAuth ≠ .none
  query : cfg.queryAuth ≠ .none

theorem AccessSection.closed_of_guards {file : AccessSection}
    {readFile : String → Except String String} {cfg : AccessConfig}
    (h : file.build readFile = .ok cfg) (hguards : cfg.enforceRuntimeGuards false = .ok ())
    (hlogs : ¬IsOpen file.logs.mode) (hquery : ¬IsOpen file.query.mode) : cfg.Closed := by
  have henabled : cfg.token.enabled = true := by
    unfold AccessConfig.enforceRuntimeGuards at hguards
    rw [if_neg Bool.false_ne_true] at hguards
    split at hguards
    · cases hguards
    · split at hguards
      · cases hguards
      · rename_i hnot
        rwa [Bool.not_eq_true, Bool.not_eq_false'] at hnot
  unfold build at h
  obtain ⟨token, htoken, h⟩ := Contexts.bind_eq_ok h
  obtain ⟨logsAuth, hlogsAuth, h⟩ := Contexts.bind_eq_ok h
  obtain ⟨queryAuth, hqueryAuth, h⟩ := Contexts.bind_eq_ok h
  obtain rfl := Except.ok.inj h
  dsimp only at henabled
  rw [henabled] at hlogsAuth hqueryAuth
  exact ⟨henabled, LogsAuth.resolve_ne_none (Contexts.wrap_eq_ok hlogsAuth) hlogs,
    LogsAuth.resolve_ne_none (Contexts.wrap_eq_ok hqueryAuth) hquery⟩

end Datacat

namespace Datacat.Api

open Basics Security Ingest Events Liveness

/-! ## Answers -/

structure Response where
  status : Nat
  /-- The `WWW-Authenticate` header. -/
  authenticate : Option String := none
  /-- The `Retry-After` header. -/
  retryAfter : Option Nat := none
  body : Option Value := none

/-- `Json(json!({ .. }))`. -/
def jsonObject (entries : List (String × Value)) : Value := .ofMap (BTreeMap.ofEntries entries)

/-- `AppError::into_response`. -/
def intoResponse : AppError → Response
  | .badRequest message details =>
    { status := 400
      body := some (jsonObject [("error", .string message),
        ("details", .array (details.map .string))]) }
  | .payloadTooLarge message =>
    { status := 413, body := some (jsonObject [("error", .string message)]) }
  | .unauthorized message =>
    { status := 401
      authenticate := some "Bearer"
      body := some (jsonObject [("error", .string message)]) }
  | .rateLimited scope retryAfterSecs =>
    { status := 429
      retryAfter := some retryAfterSecs
      body := some (jsonObject [("error", .string "rate limit atteint"), ("scope", .string scope)]) }

/-- What `CatchPanicLayer` answers for a handler that panics. -/
def panicked : Response := { status := 500 }

inductive Answer where
  | http (response : Response)
  | grpc (answer : Except Status ExportResponse)
  /-- The task of a call over gRPC panicked. -/
  | reset

/-- What is put on the wire for a reply of an export. -/
def Reply.answer : Reply → Answer
  | .http (.ok body) => .http { status := 200, body := some body }
  | .http (.error e) => .http (intoResponse e)
  | .grpc answer => .grpc answer

def Export.panicked : Export → Answer
  | .httpLogs _ | .httpTraces _ | .httpMetrics _ => .http Api.panicked
  | .grpcLogs _ | .grpcTraces _ | .grpcMetrics _ => .reset

/-- What is put on the wire for the events of a request. -/
def eventsAnswer : Option (Except AppError Nat) → Answer
  | some (.ok received) =>
    .http { status := 202, body := some (jsonObject [("received", .number (.ofU64 (.ofNat received)))]) }
  | some (.error e) => .http (intoResponse e)
  | none => .http panicked

/-! ## Router -/

/-- What is asked of the reading layer, with the parameters once they are read. -/
inductive Read where
  | logs (params : List (String × String))
  | events (params : List (String × String))
  | metrics (params : List (String × String))
  | journeys (params : List (String × String))
  | trace (traceId : String)

/-- A request as it is routed. Where the body or the query string is read before the handler runs,
it may be an answer already. -/
inductive Endpoint where
  | events (body : Option IngestBody)
  | export (e : Export)
  | heartbeat (body : Except Response Heartbeat)
  | healthz
  /-- The database can be reached, or not. -/
  | readyz (reachable : Bool)
  | stats
  | query (read : Except Response Read)
  | mcp (message : Value)
  | unknown

/-- `AppState`, with what the other endpoints read: the tables are data of any kind. -/
structure Server (Data : Type) where
  app : AppState
  queryAuth : LogsAuth
  mcpEnabled : Bool
  ready : Bool
  companions : CompanionRegistry
  data : Data

/-- What the reading endpoints make of the server. -/
structure Views (Data : Type) where
  stats : Server Data → Response
  query : Server Data → Read → Response
  mcp : Server Data → Value → Response

section Serve

variable {Data : Type}

namespace Server

/-- The server with another guard. -/
def withGuard (s : Server Data) (guard : AnomalyGuard) : Server Data :=
  { s with app := { s.app with anomaly := guard } }

/-- A handler of the reading layer, behind `check_service_token`. -/
def whenQuerier (s : Server Data) (call : Call) (response : Response) : Answer :=
  match checkServiceToken s.queryAuth s.app.verifier call.verifiedAt call.token with
  | .ok () => .http response
  | .error message => .http (intoResponse (.unauthorized message))

/-- `POST /v1/heartbeat`. -/
def serveHeartbeat (s : Server Data) (call : Call) (hb : Heartbeat) : Answer × Server Data :=
  match Liveness.heartbeat s.app s.companions call hb with
  | (.ok (), companions) => (.http { status := 204 }, { s with companions := companions })
  | (.error e, companions) => (.http (intoResponse e), { s with companions := companions })

/-- `GET /readyz`. -/
def readyz (ready reachable : Bool) : Response :=
  if !ready then { status := 503, body := some (jsonObject [("status", .string "starting")]) }
  else if reachable then
    { status := 200, body := some (jsonObject [("status", .string "ready")]) }
  else { status := 503, body := some (jsonObject [("status", .string "db_unavailable")]) }

/-- `/mcp`, where it is mounted. -/
def serveMcp (views : Views Data) (s : Server Data) (call : Call) (message : Value) : Answer :=
  if s.mcpEnabled then s.whenQuerier call (views.mcp s message) else .http { status := 404 }

variable [FloatFormat] [Sha256]

def serveEvents (s : Server Data) (call : Call) (body : Option IngestBody) : Answer × Server Data :=
  (eventsAnswer (ingestEvents s.app call body).1,
    { s with app := (ingestEvents s.app call body).2 })

/-- Where the flattening panics, the address has been looked up. -/
def serveExport (s : Server Data) (call : Call) (e : Export) : Answer × Server Data :=
  match e.serve s.app call with
  | some (reply, app) => (reply.answer, { s with app := app })
  | none => (e.panicked, { s with app := (s.app.isBanned call).2 })

/-- The handler that `build_router` mounts for a request. -/
def serve (views : Views Data) (s : Server Data) (call : Call) : Endpoint → Answer × Server Data
  | .events body => s.serveEvents call body
  | .export e => s.serveExport call e
  | .heartbeat (.error response) => (.http response, s)
  | .heartbeat (.ok hb) => s.serveHeartbeat call hb
  | .healthz => (.http { status := 200, body := some (jsonObject [("status", .string "ok")]) }, s)
  | .readyz reachable => (.http (readyz s.ready reachable), s)
  | .stats => (s.whenQuerier call (views.stats s), s)
  | .query (.error response) => (.http response, s)
  | .query (.ok read) => (s.whenQuerier call (views.query s read), s)
  | .mcp message => (s.serveMcp views call message, s)
  | .unknown => (.http { status := 404 }, s)

end Server

/-! ## Outsiders -/

/-- There are data behind the endpoint. -/
def Endpoint.Guarded : Endpoint → Prop
  | .events _ | .export _ | .heartbeat (.ok _) | .stats | .query (.ok _) | .mcp _ => True
  | .heartbeat (.error _) | .healthz | .readyz _ | .query (.error _) | .unknown => False

/-- The request is refused. -/
def Answer.Refuses : Answer → Prop
  | .http response => 400 ≤ response.status
  | .grpc answer => ∃ status, answer = .error status
  | .reset => False

theorem intoResponse_refuses (e : AppError) : (Answer.http (intoResponse e)).Refuses := by
  show 400 ≤ (intoResponse e).status
  cases e <;> exact Nat.le_of_ble_eq_true rfl

theorem Export.refuses_error (e : Export) (err : AppError) :
    (e.answer (.error err)).answer.Refuses := by
  cases e with
  | httpLogs body | httpTraces body | httpMetrics body => exact intoResponse_refuses err
  | grpcLogs req | grpcTraces req | grpcMetrics req => exact ⟨_, rfl⟩

theorem Export.refuses_banned (e : Export) : e.bannedReply.answer.Refuses := by
  cases e with
  | httpLogs body | httpTraces body | httpMetrics body => exact intoResponse_refuses _
  | grpcLogs req | grpcTraces req | grpcMetrics req => exact ⟨_, rfl⟩

/-- What the answers to outsiders are decided by. -/
structure Public where
  verifier : TokenVerifier
  limits : ValidationLimits
  config : Config
  queryAuth : LogsAuth
  mcpEnabled : Bool
  ready : Bool
  guard : AnomalyGuard

def Server.pub (s : Server Data) : Public where
  verifier := s.app.verifier
  limits := s.app.limits
  config := s.app.config
  queryAuth := s.queryAuth
  mcpEnabled := s.mcpEnabled
  ready := s.ready
  guard := s.app.anomaly

/-- The token of the request is not accepted where one is asked for. -/
def Outsider (p : Public) (call : Call) : Endpoint → Prop
  | .events body => ∀ b, body = some b → ∃ message, sessionKey p.verifier call b = .error message
  | .export _ | .heartbeat _ =>
    ∃ message,
      checkServiceToken p.config.logsAuth p.verifier call.verifiedAt call.token = .error message
  | .stats | .query _ | .mcp _ =>
    ∃ message, checkServiceToken p.queryAuth p.verifier call.verifiedAt call.token = .error message
  | .healthz | .readyz _ | .unknown => True

/-- The guard once it is asked about the address. -/
def Public.asked (p : Public) (call : Call) : Bool × AnomalyGuard :=
  p.guard.isBanned call.ip call.now

/-- The guard once it is told that the request was a bad one. -/
def Public.told (p : Public) (call : Call) : AnomalyGuard :=
  (p.asked call).2.recordBad call.ip call.now call.evicted.oldest call.evicted.soonest

section Reads

variable {p : Public} {call : Call} {s : Server Data}

theorem Server.serveHeartbeat_outsider {message : String}
    (h : checkServiceToken s.app.config.logsAuth s.app.verifier call.verifiedAt call.token =
      .error message) (hb : Heartbeat) :
    s.serveHeartbeat call hb = (.http (intoResponse (.unauthorized message)), s) := by
  unfold serveHeartbeat Liveness.heartbeat
  rw [h]

theorem Server.whenQuerier_outsider {message : String}
    (h : checkServiceToken s.queryAuth s.app.verifier call.verifiedAt call.token = .error message)
    (response : Response) :
    s.whenQuerier call response = .http (intoResponse (.unauthorized message)) := by
  unfold whenQuerier
  rw [h]

theorem checkServiceToken_tokenless {auth : LogsAuth} (hauth : auth ≠ .none)
    (verifier : TokenVerifier) (verifiedAt : DateTime) :
    checkServiceToken auth verifier verifiedAt none = .error "token de service requis" := by
  cases auth with
  | static secret => rfl
  | jwt => rfl
  | none => exact absurd rfl hauth

/-- The answer to a request, and the guard that it leaves, are the same for all servers that are the
same to the public; nothing else of the server changes. -/
def Uniform (p : Public) (step : Server Data → Answer × Server Data) (guarded : Prop) : Prop :=
  ∃ answer guard, (guarded → answer.Refuses) ∧
    ∀ s : Server Data, s.pub = p → step s = (answer, s.withGuard guard)

/-- A request that reads nothing is answered alike by all servers, which stay as they are. -/
theorem Uniform.of_pub {step : Server Data → Answer × Server Data} {guarded : Prop}
    (answer : Public → Answer) (hrefuses : guarded → (answer p).Refuses)
    (h : ∀ s, s.pub = p → step s = (answer s.pub, s)) : Uniform p step guarded := by
  refine ⟨answer p, p.guard, hrefuses, ?_⟩
  rintro s rfl
  exact h s rfl

/-- A request that is refused for its token. -/
theorem Uniform.of_unauthorized {step : Server Data → Answer × Server Data} (guarded : Prop)
    (message : String)
    (h : ∀ s, s.pub = p → step s = (.http (intoResponse (.unauthorized message)), s)) :
    Uniform p step guarded :=
  .of_pub (fun _ => .http (intoResponse (.unauthorized message)))
    (fun _ => intoResponse_refuses _) h

/-- The request carries no token. -/
def Tokenless (call : Call) : Endpoint → Prop
  | .events body =>
    call.token = none ∧ ∀ b, body = some b → extractToken none b.token = none
  | _ => call.token = none

/-- The server runs with a configuration. -/
structure Server.RunsWith (s : Server Data) (cfg : AccessConfig) : Prop where
  enabled : s.app.verifier.enabled = cfg.token.enabled
  logs : s.app.config.logsAuth = cfg.logsAuth
  query : s.queryAuth = cfg.queryAuth
  mcp : s.mcpEnabled = cfg.mcpEnabled

/-- Where the configuration is closed, a request without a token is one of an outsider. -/
theorem outsider_of_tokenless {cfg : AccessConfig} (hcfg : cfg.Closed) (hs : s.RunsWith cfg)
    {endpoint : Endpoint} (h : Tokenless call endpoint) :
    Outsider s.pub call endpoint := by
  have hlogs : call.token = none → ∃ message, checkServiceToken s.pub.config.logsAuth
      s.pub.verifier call.verifiedAt call.token = .error message := by
    intro htoken
    rw [htoken]
    exact ⟨_, checkServiceToken_tokenless (show s.app.config.logsAuth ≠ _ from
      hs.logs ▸ hcfg.logs) _ _⟩
  have hquery : call.token = none → ∃ message, checkServiceToken s.pub.queryAuth
      s.pub.verifier call.verifiedAt call.token = .error message := by
    intro htoken
    rw [htoken]
    exact ⟨_, checkServiceToken_tokenless (show s.queryAuth ≠ _ from hs.query ▸ hcfg.query) _ _⟩
  cases endpoint with
  | events body =>
    intro b hb
    refine ⟨"token d'ingestion requis", ?_⟩
    unfold sessionKey
    rw [if_pos (show s.pub.verifier.enabled = true from hs.enabled.trans hcfg.enabled), h.1,
      h.2 b hb]
  | «export» e => exact hlogs h
  | heartbeat body => exact hlogs h
  | stats => exact hquery h
  | query read => exact hquery h
  | mcp message => exact hquery h
  | healthz | readyz reachable | unknown => trivial

end Reads

variable [FloatFormat]

theorem ingestEvents_outsider {p : Public} {call : Call} {body : Option IngestBody}
    (h : Outsider p call (.events body)) :
    ∃ e guard, ∀ s : Server Data, s.pub = p →
      ingestEvents s.app call body = (some (.error e), (s.withGuard guard).app) := by
  cases hbanned : (p.asked call).1 with
  | true =>
    refine ⟨.rateLimited "anomaly_ban" 60, (p.asked call).2, ?_⟩
    rintro s rfl
    exact ingestEvents_banned body hbanned
  | false =>
    -- The early returns of the handler, in its order; the last is the one of the token.
    have hlet : ∀ s : Server Data, s.pub = p → (s.app.isBanned call).1 = false := by
      rintro s rfl
      exact hbanned
    cases body with
    | none =>
      refine ⟨.ofMessage "corps JSON invalide", p.told call, ?_⟩
      rintro s rfl
      unfold ingestEvents
      dsimp only
      rw [hlet s rfl]
      rfl
    | some b =>
      obtain ⟨message, hkey⟩ := h b rfl
      by_cases hempty : b.events.isEmpty = true
      · refine ⟨.ofMessage "batch vide", (p.asked call).2, ?_⟩
        rintro s rfl
        unfold ingestEvents
        dsimp only
        rw [hlet s rfl, if_neg Bool.false_ne_true, if_pos hempty]
        rfl
      · by_cases hlarge : p.limits.maxBatchEvents < b.events.length
        · refine ⟨.payloadTooLarge ("batch de " ++ toString b.events.length
            ++ " events > maximum " ++ toString p.limits.maxBatchEvents), p.told call, ?_⟩
          rintro s rfl
          unfold ingestEvents
          dsimp only
          rw [hlet s rfl, if_neg Bool.false_ne_true, if_neg hempty,
            if_pos (show (s.app.isBanned call).2.limits.maxBatchEvents < _ from hlarge)]
          rfl
        · refine ⟨.unauthorized message, p.told call, ?_⟩
          rintro s rfl
          unfold ingestEvents
          dsimp only
          rw [hlet s rfl, if_neg Bool.false_ne_true, if_neg hempty,
            if_neg (show ¬(s.app.isBanned call).2.limits.maxBatchEvents < _ from hlarge),
            show sessionKey (s.app.isBanned call).2.verifier call b = _ from hkey]
          rfl

variable [Sha256]

theorem export_outsider {p : Public} {call : Call} {e : Export} (h : Outsider p call (.export e)) :
    ∃ reply guard, reply.answer.Refuses ∧ ∀ s : Server Data, s.pub = p →
      e.serve s.app call = some (reply, (s.withGuard guard).app) := by
  obtain ⟨message, hcheck⟩ := h
  cases hbanned : (p.asked call).1 with
  | true =>
    refine ⟨e.bannedReply, (p.asked call).2, e.refuses_banned, ?_⟩
    rintro s rfl
    rw [Export.serve_eq_handle]
    exact if_pos hbanned
  | false =>
    refine ⟨e.answer (.error (.unauthorized message)), p.told call, e.refuses_error _, ?_⟩
    rintro s rfl
    rw [Export.serve_eq_handle]
    unfold handle AppState.authorizeLogs
    dsimp only
    rw [show (s.app.isBanned call).1 = false from hbanned, if_neg Bool.false_ne_true,
      show checkServiceToken (s.app.isBanned call).2.config.logsAuth
        (s.app.isBanned call).2.verifier call.verifiedAt call.token = _ from hcheck]
    rfl

/-- One request of an outsider. -/
theorem serve_outsider (views : Views Data) {p : Public} {call : Call} {endpoint : Endpoint}
    (h : Outsider p call endpoint) :
    Uniform p (fun s => s.serve views call endpoint) endpoint.Guarded := by
  cases endpoint with
  | events body =>
    obtain ⟨e, guard, heq⟩ : ∃ e guard, ∀ s : Server Data, s.pub = p →
        ingestEvents s.app call body = (some (.error e), (s.withGuard guard).app) :=
      ingestEvents_outsider h
    refine ⟨eventsAnswer (some (.error e)), guard, fun _ => intoResponse_refuses e, fun s hs => ?_⟩
    show s.serveEvents call body = _
    unfold Server.serveEvents
    rw [heq s hs]
    rfl
  | «export» e =>
    obtain ⟨reply, guard, hrefuses, heq⟩ : ∃ reply guard, reply.answer.Refuses ∧
        ∀ s : Server Data, s.pub = p →
          e.serve s.app call = some (reply, (s.withGuard guard).app) :=
      export_outsider h
    refine ⟨reply.answer, guard, fun _ => hrefuses, fun s hs => ?_⟩
    show s.serveExport call e = _
    unfold Server.serveExport
    rw [heq s hs]
    rfl
  | heartbeat body =>
    obtain ⟨message, hcheck⟩ := h
    cases body with
    | error response => exact .of_pub (fun _ => .http response) False.elim fun s _ => rfl
    | ok hb =>
      refine .of_unauthorized _ message fun s hs => ?_
      subst hs
      exact Server.serveHeartbeat_outsider hcheck hb
  | healthz => exact .of_pub (fun _ => _) False.elim fun s _ => rfl
  | readyz reachable =>
    exact .of_pub (fun p => .http (Server.readyz p.ready reachable)) False.elim fun s _ => rfl
  | stats =>
    obtain ⟨message, hcheck⟩ := h
    refine .of_unauthorized _ message fun s hs => ?_
    subst hs
    exact Prod.ext (Server.whenQuerier_outsider hcheck _) rfl
  | query read =>
    obtain ⟨message, hcheck⟩ := h
    cases read with
    | error response => exact .of_pub (fun _ => .http response) False.elim fun s _ => rfl
    | ok read =>
      refine .of_unauthorized _ message fun s hs => ?_
      subst hs
      exact Prod.ext (Server.whenQuerier_outsider hcheck _) rfl
  | mcp request =>
    obtain ⟨message, hcheck⟩ := h
    cases hmcp : p.mcpEnabled with
    | true =>
      refine .of_unauthorized _ message fun s hs => ?_
      subst hs
      exact Prod.ext ((if_pos hmcp).trans (Server.whenQuerier_outsider hcheck _)) rfl
    | false =>
      refine .of_pub (fun _ => .http { status := 404 }) (fun _ => Nat.le_of_ble_eq_true rfl) fun s hs => ?_
      subst hs
      exact Prod.ext (if_neg (by rw [show s.mcpEnabled = false from hmcp]; exact nofun)) rfl
  | unknown => exact .of_pub (fun _ => _) False.elim fun s _ => rfl

/-! ## Runs -/

/-- What happens to a server, as outsiders can tell: a request of theirs with its answer, or
anything else, which leaves a verifier and a guard. -/
inductive Happening where
  | request (call : Call) (endpoint : Endpoint) (answer : Answer)
  | other (verifier : TokenVerifier) (guard : AnomalyGuard)

/-- The happening without its answer. -/
def Happening.look : Happening → (Call × Endpoint) ⊕ (TokenVerifier × AnomalyGuard)
  | .request call endpoint _ => .inl (call, endpoint)
  | .other verifier guard => .inr (verifier, guard)

/-- The requests that are `allowed`, and between them requests of others, flushes, purges and the
refresh of the keys: anything that keeps the configuration. -/
inductive Goes (views : Views Data) (allowed : Public → Call → Endpoint → Prop) :
    Server Data → Happening → Server Data → Prop where
  | request {s : Server Data} {call : Call} {endpoint : Endpoint} :
      allowed s.pub call endpoint →
      Goes views allowed s (.request call endpoint (s.serve views call endpoint).1)
        (s.serve views call endpoint).2
  | other {s s' : Server Data} {verifier : TokenVerifier} {guard : AnomalyGuard} :
      s'.pub = { s.pub with verifier := verifier, guard := guard } →
      verifier.enabled = s.app.verifier.enabled → Goes views allowed s (.other verifier guard) s'

section Runs

variable {views : Views Data} {s t s' t' : Server Data} {labels labels' : List Happening}

/-- **Outsiders learn nothing.** Two servers that are the same to the public, whatever their data,
queues, limiters and companions, give outsiders the same answers. -/
theorem outsiders_learn_nothing (h : Run (Goes views Outsider) s labels s')
    (h' : Run (Goes views Outsider) t labels' t') (hpub : s.pub = t.pub)
    (hlook : labels.map Happening.look = labels'.map Happening.look) :
    labels = labels' ∧ s'.pub = t'.pub := by
  have hstep : ∀ (s t : Server Data) (a b : Happening) (s' t' : Server Data), s.pub = t.pub →
      a.look = b.look → Goes views Outsider s a s' → Goes views Outsider t b t' →
      a = b ∧ s'.pub = t'.pub := by
    intro s t a b s' t' hpub hlook hs ht
    cases hs with
    | @request call endpoint hout =>
      cases ht with
      | @request call' endpoint' hout' =>
        obtain ⟨rfl, rfl⟩ := Prod.mk.inj (Sum.inl.inj hlook)
        obtain ⟨answer, guard, -, huniform⟩ := serve_outsider views hout
        rw [show s.serve views call endpoint = _ from huniform s rfl,
          show t.serve views call endpoint = _ from huniform t hpub.symm]
        refine ⟨rfl, ?_⟩
        show { s.pub with guard := guard } = { t.pub with guard := guard }
        rw [hpub]
      | other heq henabled => cases hlook
    | @other _ verifier guard heq henabled =>
      cases ht with
      | request hout => cases hlook
      | @other _ verifier' guard' heq' henabled' =>
        obtain ⟨rfl, rfl⟩ := Prod.mk.inj (Sum.inr.inj hlook)
        exact ⟨rfl, by rw [heq, heq', hpub]⟩
  exact Run.lockstep (R := fun s t : Server Data => s.pub = t.pub) h h' hpub hlook hstep

/-! ## A production build -/

/-- Over a run without tokens the configuration stays, so all of its requests are those of
outsiders. -/
theorem outsiders_of_tokenless {cfg : AccessConfig} (hcfg : cfg.Closed) (hs : s.RunsWith cfg)
    (h : Run (Goes views fun _ => Tokenless) s labels s') :
    Run (Goes views Outsider) s labels s' ∧ s'.RunsWith cfg := by
  induction h with
  | nil => exact ⟨.nil, hs⟩
  | @snoc labels mid next a _ hstep ih =>
    obtain ⟨hrun, hmid⟩ := ih
    cases hstep with
    | @request call endpoint htokenless =>
      have hout := outsider_of_tokenless hcfg hmid htokenless
      refine ⟨.snoc hrun (.request hout), ?_⟩
      obtain ⟨answer, guard, -, huniform⟩ := serve_outsider views hout
      rw [show mid.serve views call endpoint = _ from huniform mid rfl]
      exact ⟨hmid.enabled, hmid.logs, hmid.query, hmid.mcp⟩
    | @other _ verifier guard heq henabled =>
      refine ⟨.snoc hrun (.other heq henabled), ?_⟩
      have hverifier : next.app.verifier = verifier := congrArg Public.verifier heq
      have hconfig : next.app.config = mid.app.config := congrArg Public.config heq
      have hquery : next.queryAuth = mid.queryAuth := congrArg Public.queryAuth heq
      have hmcp : next.mcpEnabled = mid.mcpEnabled := congrArg Public.mcpEnabled heq
      exact ⟨by rw [hverifier, henabled, hmid.enabled], by rw [hconfig, hmid.logs],
        hquery.trans hmid.query, hmcp.trans hmid.mcp⟩

/-- What a request of a run without tokens comes to. -/
theorem request_refused {cfg : AccessConfig} (hcfg : cfg.Closed) (hs : s.RunsWith cfg)
    {before after : List Happening} {call : Call} {endpoint : Endpoint} {answer : Answer}
    (h : Run (Goes views fun _ => Tokenless) s (before ++ .request call endpoint answer :: after)
      s') :
    Tokenless call endpoint ∧ (endpoint.Guarded → answer.Refuses) := by
  obtain ⟨mid, hmid, hrest⟩ := Run.append_iff.mp h
  obtain ⟨next, hstep, -⟩ := Run.cons_iff.mp hrest
  cases hstep with
  | request htokenless =>
    refine ⟨htokenless, ?_⟩
    have hout := outsider_of_tokenless hcfg (outsiders_of_tokenless hcfg hs hmid).2 htokenless
    obtain ⟨answer, guard, hrefuses, huniform⟩ := serve_outsider views hout
    rw [show mid.serve views call endpoint = _ from huniform mid rfl]
    exact hrefuses

/-- **A production build is closed.** When it starts, and no mode is `none`, requests without a
token are refused wherever there are data. Two such servers that are the same to the public answer
them alike whatever they hold, and nothing but the guard remembers them. -/
theorem production_closed {file : AccessSection} {readFile : String → Except String String}
    {cfg : AccessConfig} (hbuild : file.build readFile = .ok cfg)
    (hguards : cfg.enforceRuntimeGuards false = .ok ()) (hlogs : ¬IsOpen file.logs.mode)
    (hquery : ¬IsOpen file.query.mode) (hs : s.RunsWith cfg) (ht : t.RunsWith cfg)
    (hpub : s.pub = t.pub) (h : Run (Goes views fun _ => Tokenless) s labels s')
    (h' : Run (Goes views fun _ => Tokenless) t labels' t')
    (hlook : labels.map Happening.look = labels'.map Happening.look) :
    labels = labels' ∧
      (∀ call endpoint answer, .request call endpoint answer ∈ labels → endpoint.Guarded →
        answer.Refuses) ∧
      Run.EachStep (Goes views fun _ => Tokenless) s
        (fun _ mid a => ∀ call endpoint answer, a = .request call endpoint answer →
          ∃ guard, (mid.serve views call endpoint).2 = mid.withGuard guard) labels := by
  have hcfg : cfg.Closed := AccessSection.closed_of_guards hbuild hguards hlogs hquery
  have hout := (outsiders_of_tokenless hcfg hs h).1
  have hout' := (outsiders_of_tokenless hcfg ht h').1
  refine ⟨(outsiders_learn_nothing hout hout' hpub hlook).1, ?_, ?_⟩
  · intro call endpoint answer hmem
    obtain ⟨before, after, rfl⟩ := List.append_of_mem hmem
    exact (request_refused hcfg hs h).2
  · rintro before _ after mid rfl hmid call endpoint answer rfl
    have htokenless := (request_refused hcfg hs h).1
    have hmidcfg := (outsiders_of_tokenless hcfg hs hmid).2
    obtain ⟨answer', guard, -, huniform⟩ :=
      serve_outsider views (outsider_of_tokenless hcfg hmidcfg htokenless)
    exact ⟨guard, congrArg Prod.snd (huniform mid rfl)⟩

end Runs

end Serve

/-! ## Two servers -/

section Sample

def closedSection : AccessSection where
  token := rotatingSection
  logs := { staticToken := some "s" }
  allowedOrigins := ["https://app"]

def closedConfig : AccessConfig where
  token := rotatingConfig
  logsAuth := .static "s"
  queryAuth := .jwt
  mcpEnabled := true
  cors := .list ["https://app"]

/-- A server with a number for its data. -/
def closedServer (n : Nat) : Server Nat where
  app := {
    openMain with
    verifier := ⟨true, fun _ _ => .error "token malformé"⟩
    config := { openMain.config with logsAuth := .static "s" } }
  queryAuth := .jwt
  mcpEnabled := true
  ready := true
  companions := {}
  data := n

/-- Every endpoint shows the number. -/
def numberViews : Views Nat :=
  let shown (s : Server Nat) : Response :=
    { status := 200, body := some (.number (.ofU64 (.ofNat s.data))) }
  ⟨shown, fun s _ => shown s, fun s _ => shown s⟩

def strangerCall : Call := { edgeCall with token := none }

/-- The statistics of two servers, asked for without a token. -/
theorem production_closed_stats :
    (@Server.serve Nat FloatFormat.ofBits Sha256.standard numberViews (closedServer 1) strangerCall
        .stats).1 =
      (@Server.serve Nat FloatFormat.ofBits Sha256.standard numberViews (closedServer 2) strangerCall
        .stats).1 ∧
    (@Server.serve Nat FloatFormat.ofBits Sha256.standard numberViews (closedServer 1) strangerCall
      .stats).1.Refuses := by
  let _ : FloatFormat := FloatFormat.ofBits
  let _ : Sha256 := Sha256.standard
  have hbuild : closedSection.build (fun _ => .error "absent") = .ok closedConfig := rfl
  have hguards : closedConfig.enforceRuntimeGuards false = .ok () := rfl
  have hauto : ¬IsOpen "auto" := by
    show ¬(_ = _)
    decide
  have hstep : ∀ n, Run (Goes numberViews fun _ => Tokenless) (closedServer n)
      [.request strangerCall .stats ((closedServer n).serve numberViews strangerCall .stats).1]
      ((closedServer n).serve numberViews strangerCall .stats).2 :=
    fun n => Run.single (.request rfl)
  obtain ⟨hsame, hrefused, -⟩ := production_closed hbuild hguards hauto hauto
    (s := closedServer 1) (t := closedServer 2) ⟨rfl, rfl, rfl, rfl⟩ ⟨rfl, rfl, rfl, rfl⟩ rfl
    (hstep 1) (hstep 2) rfl
  refine ⟨?_, hrefused _ _ _ (List.mem_singleton_self _) trivial⟩
  have hhead := List.head_eq_of_cons_eq hsame
  exact (Happening.request.inj hhead).2.2

end Sample

end Datacat.Api
