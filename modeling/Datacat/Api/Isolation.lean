import Datacat.Api.Events
import Datacat.Security.OwnBucket

/-!
# Isolation of Sessions behind One Address

Runs of event requests in which those of one session are valid and within its own bucket, and in
which the shared limits have room for them. Whatever the others send, each request of the session
is accepted, unless its address is banned when it arrives.

## Main results

- `visits_answered`: over a run, what each request of the session is answered.
- `sessions_isolated`: two runs with the same requests of the session compared.
-/

namespace Datacat.Api

open Basics Security Ingest Events

/-! ## Runs -/

structure Request where
  call : Call
  body : Option IngestBody

/-- A request of anyone, or the periodic purge. -/
inductive Item where
  | request (r : Request)
  | prune (now : Nat)

/-- The session that a request is charged to is this one. -/
def Request.isOf (verifier : TokenVerifier) (key : String) (r : Request) : Bool :=
  match r.body with
  | some body => decide (sessionKey verifier r.call body = .ok key)
  | none => false

/-- The number of events that the limiter is asked for. -/
def Request.size (r : Request) : UInt32 := .ofNat (r.body.elim 0 fun b => b.events.length)

/-- The request of an item, when it is one. -/
def Item.request? : Item → Option Request
  | .request r => some r
  | .prune _ => none

/-- The requests of a session in a run. -/
def requestsOf (verifier : TokenVerifier) (key : String) (items : List Item) : List Request :=
  (items.filterMap Item.request?).filter (Request.isOf verifier key)

/-- What a session and the purges ask of its bucket, were no request held back. -/
def asksOf (verifier : TokenVerifier) (key : String) : List Item → List RateLimiter.Ask
  | [] => []
  | .request r :: rest =>
    if r.isOf verifier key then .take r.call.now r.size :: asksOf verifier key rest
    else asksOf verifier key rest
  | .prune now :: rest => .prune now :: asksOf verifier key rest

inductive Verdict where
  | accepted
  | rateLimited
  | banned
  /-- A request that is not valid. -/
  | refused
deriving DecidableEq

def Verdict.of : Option (Except AppError Nat) → Verdict
  | some (.ok _) => accepted
  | some (.error (.rateLimited scope _)) => if scope = "anomaly_ban" then banned else rateLimited
  | _ => refused

/-- The purge of the limiter and of the guard. -/
def prune (s : AppState) (now : Nat) : AppState :=
  { s with limiter := s.limiter.prune now, anomaly := s.anomaly.prune now }

/-- A request of a session, and the state that it meets. -/
structure Visit where
  state : AppState
  request : Request

namespace Visit

/-- The address is under a ban that has not expired. -/
def BanActive (v : Visit) : Prop := (v.state.isBanned v.request.call).1 = true

instance (v : Visit) : Decidable v.BanActive := inferInstanceAs (Decidable (_ = _))

/-- The limits that the request shares with others have room for it. -/
def Room (v : Visit) (key : String) : Prop :=
  v.state.limiter.Room v.request.call.now v.request.call.ip key v.request.size

end Visit

section Runs

variable [FloatFormat]

def serve (s : AppState) : Item → AppState
  | .request r => (ingestEvents s r.call r.body).2
  | .prune now => prune s now

def Visit.verdict (v : Visit) : Verdict :=
  .of (ingestEvents v.state v.request.call v.request.body).1

def Visit.next (v : Visit) : AppState := (ingestEvents v.state v.request.call v.request.body).2

/-- The request is one that is accepted when it is let in. -/
def Visit.Valid (v : Visit) (key : String) : Prop :=
  ∃ body, v.request.body = some body ∧ ValidBody v.state v.request.call key body

/-- The requests of a session in a run, with the states that they meet. -/
def visits (key : String) : AppState → List Item → List Visit
  | _, [] => []
  | s, .request r :: rest =>
    if r.isOf s.verifier key then ⟨s, r⟩ :: visits key (serve s (.request r)) rest
    else visits key (serve s (.request r)) rest
  | s, .prune now :: rest => visits key (serve s (.prune now)) rest

/-- What the bucket of the session is asked for in a run: its requests, those apart that a ban
holds back, and the purges. -/
def asked (key : String) : AppState → List Item → List RateLimiter.Ask
  | _, [] => []
  | s, .request r :: rest =>
    if r.isOf s.verifier key && !(s.isBanned r.call).1 then
      .take r.call.now r.size :: asked key (serve s (.request r)) rest
    else asked key (serve s (.request r)) rest
  | s, .prune now :: rest => .prune now :: asked key (serve s (.prune now)) rest

/-- The requests of the session are valid, its own bucket grants those that reach it, and the
shared limits have room for them. -/
structure Undisturbed (key : String) (s : AppState) (items : List Item) : Prop where
  valid : ∀ v ∈ visits key s items, v.Valid key
  granted : RateLimiter.Grants key s.limiter (asked key s items)
  room : ∀ v ∈ visits key s items, v.Room key

theorem serve_verifier (s : AppState) (item : Item) : (serve s item).verifier = s.verifier := by
  cases item with
  | request r => exact (ingestEvents_frame s r.call r.body).1
  | prune now => rfl

/-- A ban only leaves requests out. -/
theorem asked_thinned (key : String) (s : AppState) (items : List Item) :
    RateLimiter.Thinned (asksOf s.verifier key items) (asked key s items) := by
  induction items generalizing s with
  | nil => exact .nil
  | cons item rest ih =>
    have hnext := ih (serve s item)
    rw [serve_verifier] at hnext
    cases item with
    | request r =>
      rw [asksOf, asked]
      cases r.isOf s.verifier key with
      | false => exact hnext
      | true =>
        cases (s.isBanned r.call).1 with
        | false => exact .keep _ hnext
        | true => exact .leaveOut _ _ hnext
    | prune now => exact .keep _ hnext

/-- On a clock that never goes back, a session is within its own bucket whatever bans hold back,
when its bucket grants all its requests. -/
theorem granted_of_ordered {key : String} {s : AppState} {items : List Item}
    (hkept : s.limiter.SessionsKept) {t : Nat}
    (hpast : ∀ st, s.limiter.sessions.get key = some st → st.lastSeen ≤ t)
    (hfrom : ∀ a ∈ asksOf s.verifier key items, t ≤ a.now)
    (hordered : (asksOf s.verifier key items).Pairwise fun a b => a.now ≤ b.now)
    (hgrants : RateLimiter.Grants key s.limiter (asksOf s.verifier key items)) :
    RateLimiter.Grants key s.limiter (asked key s items) :=
  RateLimiter.grants_of_thinned (asked_thinned key s items) (.refl hkept hpast) hfrom hordered
    hgrants

/-! ## One request -/

/-- The answer to the request is the guard's, and the request does not count as a bad one. -/
def Visit.Answered (v : Visit) : Prop :=
  v.verdict = (if v.BanActive then .banned else .accepted) ∧
    v.next.anomaly = (v.state.isBanned v.request.call).2.anomaly

section Steps

variable {key : String} {s : AppState} {r : Request} {alone : RateLimiter}

/-- A request of another session. -/
theorem mirrors_other (h : RateLimiter.Mirrors key alone s.limiter)
    (hother : r.isOf s.verifier key = false) :
    RateLimiter.Mirrors key alone (serve s (.request r)).limiter := by
  obtain ⟨call, body⟩ := r
  have hcharged := ingestEvents_charged s call body
  show RateLimiter.Mirrors key alone (ingestEvents s call body).2.limiter
  generalize (ingestEvents s call body).2.limiter = shared at hcharged
  cases hcharged with
  | notAsked => exact h
  | @asked body key' hkey =>
    refine h.other (RateLimiter.checked ..) fun heq => ?_
    subst heq
    have hown : Request.isOf s.verifier key ⟨call, some body⟩ = true := decide_eq_true hkey
    rw [hown] at hother
    cases hother

/-- A request of the session that a ban holds back. -/
theorem answered_of_banned (h : (s.isBanned r.call).1 = true) :
    (Visit.mk s r).Answered ∧ (serve s (.request r)).limiter = s.limiter := by
  have hanswer := ingestEvents_banned r.body h
  refine ⟨⟨?_, congrArg (fun p => p.2.anomaly) hanswer⟩, congrArg (fun p => p.2.limiter) hanswer⟩
  rw [if_pos (show (Visit.mk s r).BanActive from h)]
  exact congrArg (fun p => Verdict.of p.1) hanswer

/-- A request of the session that no ban holds back, and that its own bucket grants. -/
theorem answered_of_granted (h : RateLimiter.Mirrors key alone s.limiter)
    (hbanned : (s.isBanned r.call).1 = false)
    (hn : RateLimiter.cost r.size ≤
      (alone.sessionState r.call.now key).bucket.available r.call.now)
    (hvalid : (Visit.mk s r).Valid key) (hroom : (Visit.mk s r).Room key) :
    (Visit.mk s r).Answered ∧
      RateLimiter.Mirrors key (alone.spend key r.call.now r.size)
        (serve s (.request r)).limiter := by
  obtain ⟨call, body⟩ := r
  obtain ⟨body, rfl, hbody⟩ := hvalid
  have hchecked : RateLimiter.Checked s.limiter call.now call.ip key _ _ _ :=
    RateLimiter.checked s.limiter call.now call.ip key (.ofNat body.events.length)
  have hgranted := hn
  rw [← h.sessionState] at hgranted
  -- The mirror grants what the bucket of the session alone grants.
  obtain ⟨⟨received, hok⟩, hlimiter, hanomaly⟩ :=
    ingestEvents_letIn hbanned hbody (hchecked.allowed hroom hgranted)
  refine ⟨⟨?_, hanomaly⟩, ?_⟩
  · rw [if_neg (show ¬ (Visit.mk s ⟨call, some body⟩).BanActive from ne_true_of_eq_false hbanned)]
    exact congrArg Verdict.of hok
  · show RateLimiter.Mirrors key _ (ingestEvents s call (some body)).2.limiter
    rw [hlimiter]
    exact h.letIn hchecked hroom.tracked hn

end Steps

/-! ## A run -/

/-- Over a run, every request of the session is answered as the guard says. The induction
carries that the shared limiter mirrors the one where the session is alone. -/
theorem visits_answered {key : String} {items : List Item} :
    ∀ {s : AppState} {alone : RateLimiter}, RateLimiter.Mirrors key alone s.limiter →
      RateLimiter.Grants key alone (asked key s items) →
      (∀ v ∈ visits key s items, v.Valid key) → (∀ v ∈ visits key s items, v.Room key) →
      ∀ v ∈ visits key s items, v.Answered := by
  induction items with
  | nil => exact fun _ _ _ _ _ hv => nomatch hv
  | cons item rest ih =>
    intro s alone hmirrors hgrants hvalid hroom
    cases item with
    | request r =>
      rw [visits] at hvalid hroom ⊢
      rw [asked] at hgrants
      -- A request of the session, held back by a ban or granted; the others only move the mirror.
      cases hown : r.isOf s.verifier key with
      | true =>
        rw [hown, if_pos rfl] at hvalid hroom
        rw [if_pos rfl]
        obtain ⟨hv, hvalid⟩ := List.forall_mem_cons.mp hvalid
        obtain ⟨hr, hroom⟩ := List.forall_mem_cons.mp hroom
        rw [List.forall_mem_cons]
        rw [hown] at hgrants
        cases hbanned : (s.isBanned r.call).1 with
        | true =>
          rw [hbanned] at hgrants
          obtain ⟨hanswered, hlimiter⟩ := answered_of_banned hbanned
          refine ⟨hanswered, ih ?_ hgrants hvalid hroom⟩
          rwa [hlimiter]
        | false =>
          rw [hbanned] at hgrants
          obtain ⟨hanswered, hnext⟩ := answered_of_granted hmirrors hbanned hgrants.1 hv hr
          exact ⟨hanswered, ih hnext hgrants.2 hvalid hroom⟩
      | false =>
        rw [hown, if_neg Bool.false_ne_true] at hvalid hroom
        rw [if_neg Bool.false_ne_true]
        rw [hown] at hgrants
        exact ih (mirrors_other hmirrors hown) hgrants hvalid hroom
    | prune now =>
      rw [visits] at hvalid hroom ⊢
      exact ih (hmirrors.prune now) hgrants hvalid hroom

/-- The requests visited are those of the session, in their order. -/
theorem visits_requests (key : String) (s : AppState) (items : List Item) :
    (visits key s items).map Visit.request = requestsOf s.verifier key items := by
  induction items generalizing s with
  | nil => rfl
  | cons item rest ih =>
    have hnext := ih (serve s item)
    rw [serve_verifier] at hnext
    cases item with
    | request r =>
      have hrequests : requestsOf s.verifier key (.request r :: rest) =
          if r.isOf s.verifier key then r :: requestsOf s.verifier key rest
          else requestsOf s.verifier key rest := List.filter_cons ..
      rw [hrequests, visits]
      split
      · rw [List.map_cons, hnext]
      · exact hnext
    | prune now => exact hnext

/-! ## Two runs -/

/-- **Isolation of sessions.** Two runs from one state, with the same requests of a session and
any requests of others. When the session is undisturbed in both, its requests are answered
alike, except one whose address is banned in one run and not in the other. Each is accepted
unless its address is banned, and none counts as a bad request. -/
theorem sessions_isolated {key : String} {s : AppState} {items₁ items₂ : List Item}
    (hsame : requestsOf s.verifier key items₁ = requestsOf s.verifier key items₂)
    (h₁ : Undisturbed key s items₁) (h₂ : Undisturbed key s items₂) :
    (visits key s items₁).map Visit.request = (visits key s items₂).map Visit.request ∧
      (∀ v w, (v, w) ∈ (visits key s items₁).zip (visits key s items₂) →
        (v.verdict = w.verdict ↔ (v.BanActive ↔ w.BanActive))) ∧
      ∀ v ∈ visits key s items₁ ++ visits key s items₂, v.Answered := by
  have hanswered {items : List Item} (h : Undisturbed key s items) :
      ∀ v ∈ visits key s items, v.Answered := by
    have hmirrors : RateLimiter.Mirrors key s.limiter s.limiter := ⟨rfl, rfl⟩
    exact visits_answered hmirrors h.granted h.valid h.room
  refine ⟨?_, ?_, ?_⟩
  · rw [visits_requests, visits_requests, hsame]
  · intro v w hpair
    obtain ⟨hv, hw⟩ := List.of_mem_zip hpair
    rw [(hanswered h₁ v hv).1, (hanswered h₂ w hw).1]
    by_cases hbanv : v.BanActive <;> by_cases hbanw : w.BanActive <;> simp [hbanv, hbanw]
  · intro v hv
    rcases List.mem_append.mp hv with hv | hv
    · exact hanswered h₁ v hv
    · exact hanswered h₂ v hv

end Runs

/-! ## A ban that a neighbour earns -/

section Sample

/-- An event of a session. -/
def plainEvent (eventName sessionId : String) : IncomingEvent where
  eventId := ⟨Vector.replicate 16 0⟩
  eventName := eventName
  tenantId := none
  actorId := "actor"
  sessionId := sessionId
  timestampClient := ⟨0⟩
  properties := none

/-- A server that bans an address after two bad requests. -/
def strictServer : AppState where
  events := ⟨{ capacity := 8 }, {}⟩
  logs := ⟨{ capacity := 8 }, {}⟩
  spans := ⟨{ capacity := 8 }, {}⟩
  metricPoints := ⟨{ capacity := 8 }, {}⟩
  limiter := .new .default 0
  verifier := ⟨false, fun _ _ => .error "token malformé"⟩
  anomaly := .new { AnomalyConfig.default with badRequestsThreshold := 2 }
  limits := testLimits
  config := { maxLogsRecords := 2048, limits := testLimits, logsAuth := .none }

/-- A request from the one address, with one event. -/
def sent (eventName sessionId : String) : Request where
  call :=
    { ip := .v4 0xcb007109, token := none, now := 0, verifiedAt := ⟨0⟩, receivedAt := ⟨0⟩
      evicted := ⟨.v4 0, .v4 0⟩ }
  body := some ⟨none, [plainEvent eventName sessionId]⟩

/-- The session `b` on its own. -/
def quiet : List Item := [.request (sent "page_view" "b")]

/-- The same, after two requests of the session `a` with a blank name. -/
def noisy : List Item :=
  [.request (sent " " "a"), .request (sent " " "a"), .request (sent "page_view" "b")]

theorem isOf_sent (eventName sessionId key : String) :
    (sent eventName sessionId).isOf strictServer.verifier key = decide (sessionId = key) := by
  simp [Request.isOf, sent, sessionKey, strictServer, plainEvent]

theorem requestsOf_noisy :
    requestsOf strictServer.verifier "b" quiet = requestsOf strictServer.verifier "b" noisy := by
  simp [requestsOf, quiet, noisy, Item.request?, isOf_sent]

section Visits

variable [FloatFormat]

/-- The server after the two requests of `a`. -/
def warnedServer : AppState :=
  serve (serve strictServer (.request (sent " " "a"))) (.request (sent " " "a"))

theorem visits_quiet :
    visits "b" strictServer quiet = [⟨strictServer, sent "page_view" "b"⟩] := by
  rw [quiet, visits, isOf_sent]
  rfl

theorem visits_noisy : visits "b" strictServer noisy = [⟨warnedServer, sent "page_view" "b"⟩] := by
  rw [noisy, visits, isOf_sent, visits, serve_verifier, isOf_sent, visits, serve_verifier,
    serve_verifier, isOf_sent]
  rfl

theorem valid_sent {s : AppState} (hlimits : s.limits = testLimits)
    (hverifier : s.verifier = strictServer.verifier) :
    (Visit.mk s (sent "page_view" "b")).Valid "b" := by
  refine ⟨_, rfl, ⟨List.cons_ne_nil _ _, ?_, ?_, ?_⟩⟩
  · rw [hlimits]
    decide
  · rw [hverifier]
    rfl
  · rw [hlimits]
    exact ⟨_, _, rfl⟩

end Visits

theorem undisturbed_quiet : @Undisturbed FloatFormat.ofBits "b" strictServer quiet := by
  let _ : FloatFormat := FloatFormat.ofBits
  refine ⟨?_, by decide +kernel, ?_⟩
  · rw [visits_quiet, List.forall_mem_singleton]
    exact valid_sent rfl rfl
  · rw [visits_quiet, List.forall_mem_singleton]
    apply RateLimiter.Room.mk
    · exact .inr (by decide +kernel)
    · exact fun _ => ⟨.inr (by decide +kernel), .inr (by decide +kernel)⟩
    · decide +kernel

theorem undisturbed_noisy : @Undisturbed FloatFormat.ofBits "b" strictServer noisy := by
  let _ : FloatFormat := FloatFormat.ofBits
  refine ⟨?_, by decide +kernel, ?_⟩
  · rw [visits_noisy, List.forall_mem_singleton]
    apply valid_sent
    · exact (ingestEvents_frame ..).2.trans (ingestEvents_frame ..).2
    · exact (serve_verifier ..).trans (serve_verifier ..)
  · rw [visits_noisy, List.forall_mem_singleton]
    apply RateLimiter.Room.mk
    · exact .inr (by decide +kernel)
    · exact fun _ => ⟨.inr (by decide +kernel), .inr (by decide +kernel)⟩
    · decide +kernel

/-- The session `b` is undisturbed in both runs and sends the same request. It is accepted in
one and banned in the other, after what the session `a` sent. -/
theorem neighbour_bans :
    requestsOf strictServer.verifier "b" quiet = requestsOf strictServer.verifier "b" noisy ∧
      @Undisturbed FloatFormat.ofBits "b" strictServer quiet ∧
      @Undisturbed FloatFormat.ofBits "b" strictServer noisy ∧
      (@visits FloatFormat.ofBits "b" strictServer quiet).map (@Visit.verdict FloatFormat.ofBits)
        = [.accepted] ∧
      (@visits FloatFormat.ofBits "b" strictServer noisy).map (@Visit.verdict FloatFormat.ofBits)
        = [.banned] :=
  ⟨requestsOf_noisy, undisturbed_quiet, undisturbed_noisy, by decide +kernel, by decide +kernel⟩

/-- The two runs have the same request, answered as the guard says in both. -/
theorem sessions_isolated_sent :
    (@visits FloatFormat.ofBits "b" strictServer quiet).map Visit.request
        = (@visits FloatFormat.ofBits "b" strictServer noisy).map Visit.request ∧
      ∀ v ∈ @visits FloatFormat.ofBits "b" strictServer quiet
          ++ @visits FloatFormat.ofBits "b" strictServer noisy,
        @Visit.Answered FloatFormat.ofBits v := by
  let _ : FloatFormat := FloatFormat.ofBits
  have hisolated := sessions_isolated requestsOf_noisy undisturbed_quiet undisturbed_noisy
  exact ⟨hisolated.1, hisolated.2.2⟩

end Sample

end Datacat.Api
