import Datacat.Config
import Datacat.Events.Model
import Datacat.Ingest.Batcher
import Datacat.Logs.Model
import Datacat.Metrics.Model
import Datacat.Security.Anomaly
import Datacat.Security.RateLimit
import Datacat.Traces.Model

/-!
# The State the Handlers Share

The limiter, the guard, the verifier of tokens and the four domains behind them, the errors a
request is answered with, and what the handlers ask first: the ban and the authentication.
-/

namespace Datacat

open Basics Security Ingest

/-! ## Errors -/

/-- `AppError`, the variants that ingestion produces. -/
inductive AppError where
  | badRequest (message : String) (details : List String)
  | payloadTooLarge (message : String)
  | unauthorized (message : String)
  | rateLimited (scope : String) (retryAfterSecs : Nat)
deriving DecidableEq

/-- `AppError::bad_request`. -/
def AppError.ofMessage (message : String) : AppError := .badRequest message []

/-! ## Tokens -/

structure VerifiedToken where
  actorId : String
  sessionId : String
  tenantId : Option String

/-- The verifier of tokens as the handlers see it: a token verified at an instant gives an
identity, or a message. -/
structure TokenVerifier where
  enabled : Bool
  verify : DateTime → String → Except String VerifiedToken

/-- `constant_time_eq`: the differences are collected over the whole texts. -/
def constantTimeEq (a b : List UInt8) : Bool :=
  if a.length ≠ b.length then false
  else (a.zipWith (· ^^^ ·) b).foldl (· ||| ·) 0 == 0

theorem foldl_or_eq_zero_iff (xs : List UInt8) (diff : UInt8) :
    xs.foldl (· ||| ·) diff = 0 ↔ diff = 0 ∧ ∀ x ∈ xs, x = 0 := by
  induction xs generalizing diff with
  | nil => simp
  | cons x xs ih =>
    rw [List.foldl_cons, ih, List.forall_mem_cons, ← and_assoc]
    refine and_congr_left fun _ => ?_
    exact UInt8.or_eq_zero_iff

theorem forall_zipWith_xor_iff {a b : List UInt8} (h : a.length = b.length) :
    (∀ x ∈ a.zipWith (· ^^^ ·) b, x = 0) ↔ a = b := by
  induction a generalizing b with
  | nil => simp [List.length_eq_zero_iff.mp h.symm]
  | cons x xs ih =>
    obtain ⟨y, ys, rfl⟩ := List.exists_cons_of_length_eq_add_one h.symm
    rw [List.zipWith_cons_cons, List.forall_mem_cons, UInt8.xor_eq_zero_iff, List.cons.injEq,
      ih (Nat.succ.inj h)]

/-- The comparison decides equality. -/
theorem constantTimeEq_iff {a b : List UInt8} : constantTimeEq a b = true ↔ a = b := by
  unfold constantTimeEq
  by_cases hlength : a.length = b.length
  · rw [if_neg (not_not.mpr hlength), beq_iff_eq, foldl_or_eq_zero_iff,
      forall_zipWith_xor_iff hlength]
    exact and_iff_right rfl
  · rw [if_pos hlength]
    exact ⟨nofun, fun h => absurd (congrArg List.length h) hlength⟩

/-- `check_service_token`. -/
def checkServiceToken (auth : LogsAuth) (verifier : TokenVerifier) (verifiedAt : DateTime)
    (token : Option String) : Except String Unit :=
  match auth with
  | .none => .ok ()
  | .static secret =>
    match token with
    | none => .error "token de service requis"
    | some provided =>
      if constantTimeEq (asBytes provided) (asBytes secret) then .ok ()
      else .error "token de service invalide"
  | .jwt =>
    match token with
    | none => .error "token de service requis"
    | some provided => (verifier.verify verifiedAt provided).map fun _ => ()

/-- A shared secret authorizes those who present it. -/
theorem checkServiceToken_static {secret : String} {verifier : TokenVerifier}
    {verifiedAt : DateTime} {token : Option String} :
    checkServiceToken (.static secret) verifier verifiedAt token = .ok () ↔
      token = some secret := by
  unfold checkServiceToken
  cases token with
  | none => exact ⟨nofun, nofun⟩
  | some provided =>
    dsimp only
    split
    · rename_i heq
      rw [asBytes_injective (constantTimeEq_iff.mp heq)]
      exact ⟨fun _ => rfl, fun _ => rfl⟩
    · rename_i hne
      refine ⟨nofun, fun h => absurd ?_ hne⟩
      rw [Option.some.inj h]
      exact constantTimeEq_iff.mpr rfl

/-! ## The state -/

/-- `AppState`, as far as ingestion reads it. -/
structure AppState where
  events : Ingestor Events.StoredEvent
  logs : Ingestor Logs.StoredLog
  spans : Ingestor Traces.StoredSpan
  metricPoints : Ingestor Metrics.StoredMetricPoint
  limiter : RateLimiter
  verifier : TokenVerifier
  anomaly : AnomalyGuard
  limits : ValidationLimits
  config : Config

/-- Which entries the guard evicts if a bad request needs their place. -/
structure Evictions where
  oldest : IpAddr
  soonest : IpAddr

/-- What a handler knows of a request besides its body. -/
structure Call where
  /-- The address of the client, resolved. -/
  ip : IpAddr
  /-- The bearer token of the headers. -/
  token : Option String
  now : Nat
  /-- The wall clock when the token is verified. -/
  verifiedAt : DateTime
  receivedAt : DateTime
  evicted : Evictions

namespace AppState

/-- `state.anomaly.record_bad`. -/
def recordBad (s : AppState) (call : Call) : AppState :=
  { s with
    anomaly := s.anomaly.recordBad call.ip call.now call.evicted.oldest call.evicted.soonest }

/-- `state.anomaly.is_banned`. -/
def isBanned (s : AppState) (call : Call) : Bool × AppState :=
  let (banned, anomaly) := s.anomaly.isBanned call.ip call.now
  (banned, { s with anomaly := anomaly })

/-- `authorize_logs`, for the three domains that services write to. -/
def authorizeLogs (s : AppState) (call : Call) : Except AppError Unit × AppState :=
  match checkServiceToken s.config.logsAuth s.verifier call.verifiedAt call.token with
  | .ok () => (.ok (), s)
  | .error message => (.error (.unauthorized message), s.recordBad call)

end AppState

end Datacat
