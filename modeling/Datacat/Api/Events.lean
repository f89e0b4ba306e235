import Datacat.Ingest.Intake

/-!
# The Requests of Events

The handler of `POST /v1/events`: the ban, the body, the bounds on the batch, the token, the
limiter, the validation of each event, and the queue.

## Main results

- `ingestEvents_charged`: a request is charged once at most, to its session.
- `ingestEvents_letIn`: how a valid request that the limiter allows goes.
-/

namespace Datacat.Api

open Basics Security Ingest Events

/-! ## The session of a request -/

/-- `extract_token`: the token of the headers, else the one of the body unless it is blank. -/
def extractToken (headerToken bodyToken : Option String) : Option String :=
  match headerToken with
  | some token => some token
  | none => (bodyToken.map fun t => String.ofList (trim t.toList)).filter fun t => !t.isEmpty

/-- The session that a request is charged to: the one of its token or, where no token is asked
for, the one of its first event, else the address. -/
def sessionKey (verifier : TokenVerifier) (call : Call) (body : IngestBody) :
    Except String String :=
  if verifier.enabled then
    match extractToken call.token body.token with
    | none => .error "token d'ingestion requis"
    | some token => (verifier.verify call.verifiedAt token).map VerifiedToken.sessionId
  else .ok ((body.events.head?.map IncomingEvent.sessionId).getD call.ip.toText)

section Handler

variable [FloatFormat]

/-- The validation of the events of a request, from the first that is number `index`: the events
to store, and how many the skew window drops. -/
def checkEvents (receivedAt : DateTime) (limits : ValidationLimits) :
    Nat → List IncomingEvent → Option (Except StructuralError (List StoredEvent × Nat))
  | _, [] => some (.ok ([], 0))
  | index, ev :: rest =>
    match checkEvent ev receivedAt limits index with
    | none => none
    | some (.error e) => some (.error e)
    | some (.ok (.ok se)) =>
      (checkEvents receivedAt limits (index + 1) rest).map
        (Except.map fun p => (se :: p.1, p.2))
    | some (.ok .outOfSkew) =>
      (checkEvents receivedAt limits (index + 1) rest).map
        (Except.map fun p => (p.1, p.2 + 1))

/-- `ingest_events`. The body is none when it does not parse; the answer is none where the code
panics, else the number of events received. -/
def ingestEvents (s : AppState) (call : Call) (body : Option IngestBody) :
    Option (Except AppError Nat) × AppState :=
  let (banned, s) := s.isBanned call
  if banned then (some (.error (.rateLimited "anomaly_ban" 60)), s)
  else
    match body with
    | none => (some (.error (.ofMessage "corps JSON invalide")), s.recordBad call)
    | some body =>
      if body.events.isEmpty then (some (.error (.ofMessage "batch vide")), s)
      else if s.limits.maxBatchEvents < body.events.length then
        (some (.error (.payloadTooLarge ("batch de " ++ toString body.events.length
          ++ " events > maximum " ++ toString s.limits.maxBatchEvents))), s.recordBad call)
      else
        match sessionKey s.verifier call body with
        | .error message => (some (.error (.unauthorized message)), s.recordBad call)
        | .ok key =>
          let (decision, limiter) :=
            s.limiter.check call.now call.ip key (.ofNat body.events.length)
          let s := { s with limiter := limiter }
          match decision with
          | .deny scope retryAfterSecs =>
            (some (.error (.rateLimited scope.text retryAfterSecs)), s.recordBad call)
          | .allow =>
            match checkEvents call.receivedAt s.limits 0 body.events with
            | none => (none, s)
            | some (.error e) =>
              (some (.error (.badRequest "validation échouée" [e.message])), s.recordBad call)
            | some (.ok (stored, droppedSkew)) =>
              let events := { s.events with metrics := s.events.metrics.countSkew droppedSkew }
              let (received, events) := events.tryEnqueue stored
              (some (.ok received), { s with events := events })

/-! ## Outcomes -/

/-- The call of the limiter for a request. -/
def limited (s : AppState) (call : Call) (key : String) (body : IngestBody) :
    Decision × RateLimiter :=
  s.limiter.check call.now call.ip key (.ofNat body.events.length)

/-- What a request leaves of the limiter: it is asked once, for the session of the request, when
the request is not refused before. -/
inductive Charged (s : AppState) (call : Call) : Option IngestBody → RateLimiter → Prop where
  | notAsked {body : Option IngestBody} : Charged s call body s.limiter
  | asked {body : IngestBody} {key : String} :
      sessionKey s.verifier call body = .ok key →
      Charged s call (some body) (limited s call key body).2

theorem ingestEvents_charged (s : AppState) (call : Call) (body : Option IngestBody) :
    Charged s call body (ingestEvents s call body).2.limiter := by
  unfold ingestEvents
  dsimp only
  split
  · exact .notAsked
  · cases body with
    | none => exact .notAsked
    | some body =>
      dsimp only
      split
      · exact .notAsked
      · split
        · exact .notAsked
        · cases hkey : sessionKey s.verifier call body with
          | error message =>
            rw [show sessionKey (s.isBanned call).2.verifier call body = _ from hkey]
            exact .notAsked
          | ok key =>
            rw [show sessionKey (s.isBanned call).2.verifier call body = _ from hkey]
            dsimp only
            -- Nothing after the limiter touches it.
            have hasked : Charged s call (some body) (limited s call key body).2 := .asked hkey
            split
            · exact hasked
            · split
              · exact hasked
              · exact hasked
              · exact hasked

theorem ingestEvents_frame (s : AppState) (call : Call) (body : Option IngestBody) :
    (ingestEvents s call body).2.verifier = s.verifier ∧
      (ingestEvents s call body).2.limits = s.limits := by
  unfold ingestEvents
  dsimp only
  split
  · exact ⟨rfl, rfl⟩
  · cases body with
    | none => exact ⟨rfl, rfl⟩
    | some body =>
      dsimp only
      split
      · exact ⟨rfl, rfl⟩
      · split
        · exact ⟨rfl, rfl⟩
        · split
          · exact ⟨rfl, rfl⟩
          · split
            · exact ⟨rfl, rfl⟩
            · split <;> exact ⟨rfl, rfl⟩

theorem ingestEvents_banned {s : AppState} {call : Call} (body : Option IngestBody)
    (h : (s.isBanned call).1 = true) :
    ingestEvents s call body =
      (some (.error (.rateLimited "anomaly_ban" 60)), (s.isBanned call).2) := by
  unfold ingestEvents
  exact if_pos h

/-- A body that is answered OK when the ban and the limiter let it in. -/
structure ValidBody (s : AppState) (call : Call) (key : String) (body : IngestBody) : Prop where
  nonempty : body.events ≠ []
  withinBatch : body.events.length ≤ s.limits.maxBatchEvents
  session : sessionKey s.verifier call body = .ok key
  valid : ∃ stored droppedSkew,
    checkEvents call.receivedAt s.limits 0 body.events = some (.ok (stored, droppedSkew))

/-- A valid request that the limiter allows is answered OK. The guard is asked once, and is told
nothing. -/
theorem ingestEvents_letIn {s : AppState} {call : Call} {key : String} {body : IngestBody}
    (hbanned : (s.isBanned call).1 = false) (hvalid : ValidBody s call key body)
    (hallow : (limited s call key body).1 = .allow) :
    (∃ received, (ingestEvents s call (some body)).1 = some (.ok received)) ∧
      (ingestEvents s call (some body)).2.limiter = (limited s call key body).2 ∧
      (ingestEvents s call (some body)).2.anomaly = (s.isBanned call).2.anomaly := by
  obtain ⟨stored, droppedSkew, hchecked⟩ := hvalid.valid
  have hcheck : limited s call key body = (.allow, (limited s call key body).2) :=
    Prod.ext hallow rfl
  unfold limited at hcheck
  have hempty : ¬ body.events.isEmpty = true :=
    fun h => hvalid.nonempty (List.isEmpty_iff.mp h)
  -- The early returns of the handler, in its order.
  unfold ingestEvents
  dsimp only
  rw [hbanned, if_neg Bool.false_ne_true, if_neg hempty,
    if_neg (show ¬ (s.isBanned call).2.limits.maxBatchEvents < _ from
      not_lt.mpr hvalid.withinBatch),
    show sessionKey (s.isBanned call).2.verifier call body = _ from hvalid.session]
  dsimp only
  rw [show RateLimiter.check (s.isBanned call).2.limiter .. = _ from hcheck]
  dsimp only
  rw [show checkEvents call.receivedAt (s.isBanned call).2.limits 0 body.events = _ from hchecked]
  exact ⟨⟨_, rfl⟩, rfl, rfl⟩

end Handler

end Datacat.Api
