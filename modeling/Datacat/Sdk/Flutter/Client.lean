import Datacat.Basics.BTreeMap
import Datacat.Basics.Run
import Datacat.Sdk.Client

/-!
# The Flutter Client

The events of a batch stay in the queue while it is sent; a map counts the failures of each event.
At most one batch is sent at a time, so the client has one place where a send is suspended. The
calls that wait for the session go on in the order in which they came.

What is awaited is chosen by the environment: the session of the storage, the token or the error
that `getToken` gives, the response or the error of a request. The identifiers of `Uuid` and the
time stamps are read by the steps.
-/

namespace Datacat.Sdk.Flutter

open Basics

/-! ## Tokens -/

structure TokenCache where
  cachedToken : Option String := none
  expEpochSeconds : Option Int := none

namespace TokenCache

/-- `_needsRenewal`, at an instant in milliseconds. -/
def needsRenewal (cache : TokenCache) (now : Int) : Bool :=
  match cache.cachedToken, cache.expEpochSeconds with
  | some _, some exp => decide (exp - 30 ≤ now.tdiv 1000)
  | _, _ => true

/-- `token()`: the token that is kept, or nothing when `getToken` is called. -/
def token (cache : TokenCache) (now : Int) : Option String :=
  if cache.needsRenewal now then none else cache.cachedToken

end TokenCache

/-! ## The client -/

/-- `DatacatConfig`, and what the client takes from its host. -/
structure Settings (P : Type) where
  batchSize : Nat := 20
  maxQueueSize : Nat := 1000
  maxRetries : Nat := 5
  /-- Whether `jsonEncode` accepts the properties. -/
  encodable : P → Bool
  /-- `_parseExp`: the claim `exp` of a token. -/
  parseExp : String → Option Int

/-- `_initSession`. -/
inductive Session where
  /-- `await _storage.read(..)`. -/
  | reading
  /-- `await _storage.write(..)`. -/
  | writing (id : String)
  | ready (id : String)
  /-- The storage threw; the id may be known. -/
  | failed (id : Option String)

/-- `_sessionId`. -/
def Session.id : Session → Option String
  | .reading => none
  | .writing id => some id
  | .ready id => some id
  | .failed id => id

/-- An event that waits for the id of the session; the rest of it is frozen. -/
structure Deferred (P : Type) where
  eventId : String
  eventName : String
  actorId : String
  timestampClient : String
  properties : P
  tenantId : Option String

def Deferred.event {P : Type} (d : Deferred P) (sessionId : String) : DatacatEvent P :=
  { eventId := d.eventId
    eventName := d.eventName
    actorId := d.actorId
    sessionId := sessionId
    timestampClient := d.timestampClient
    properties := d.properties
    tenantId := d.tenantId }

/-- What awaits `_sessionReady`. A call of `flush` or `dispose` has the number of its future. -/
inductive Waiting (P : Type) where
  | track (deferred : Deferred P)
  | flush (call : Nat)
  | dispose (call : Nat)

/-- Where `_trySend` is suspended. -/
inductive Point where
  /-- `await _tokenCache.token()`: the token that was kept, or the call of `getToken`. -/
  | token (kept : Option String)
  /-- `await _httpClient.post(..)`. -/
  | post
  /-- `await _tokenCache.invalidate()`, after a 401. -/
  | invalidate
  /-- The second `await _tokenCache.token()`. -/
  | retoken (kept : Option String)
  /-- The second `await _httpClient.post(..)`. -/
  | repost

/-- `_sendBatch`, while `_flushing` is set. -/
structure Sending (P : Type) where
  batch : List (DatacatEvent P)
  point : Point
  /-- The future of `flush` or `dispose` that waits for it. -/
  caller : Option Nat

structure Client (P : Type) where
  currentActorId : Option String
  currentTenantId : Option String
  session : Session
  /-- What waits for the session, in the order of the calls. -/
  waiting : List (Waiting P) := []
  queue : List (DatacatEvent P) := []
  /-- The failures of the events, by their ids. -/
  retryCount : BTreeMap String Nat := BTreeMap.empty
  tokenCache : TokenCache := {}
  sending : Option (Sending P) := none
  /-- The sends after a `Retry-After` that have not begun. -/
  delayedSends : Nat := 0
  /-- The calls of `dispose` that await `Future.delayed(Duration.zero)`. -/
  delayedDisposals : List Nat := []
  /-- Whether the timer is active. -/
  flushTimer : Bool := true
  disposing : Bool := false
  disposed : Bool := false
  /-- How many futures `flush` and `dispose` have returned. -/
  calls : Nat := 0

/-- What a step does that is seen outside. -/
inductive Output (P : Type) where
  /-- `track` takes an event. -/
  | tracked (eventId : String)
  | sent (token : String) (events : List (DatacatEvent P))
  /-- The batch was accepted, and leaves the queue. -/
  | delivered (events : List (DatacatEvent P))
  /-- `onError` was called with the events. -/
  | reported (events : List (DatacatEvent P))
  /-- The future of a call completes. -/
  | completed (call : Nat)
  /-- The future of a call completes with an error. -/
  | failed (call : Nat)
  /-- An error leaves `_enqueue`. -/
  | threw

/-- What an awaited future gives. -/
inductive Answer where
  /-- A future that was complete. -/
  | goOn
  | token (jwt : String)
  /-- A response: its status, and the seconds of its `Retry-After`. -/
  | response (status : Nat) (retryAfter : Option Int)
  | error

inductive Input (P : Type) where
  | identify (actorId : String) (tenantId : Option String)
  | track (eventName : String) (properties : P) (eventId timestampClient : String) (now : Int)
  | flush
  | dispose
  /-- The storage gives the id of a session, or nothing. -/
  | sessionRead (stored : Option String) (fresh : String)
  | sessionWritten
  | sessionFails
  /-- The first call that awaits `_sessionReady` goes on. -/
  | sessionGoesOn (now : Int)
  /-- The first call of `dispose` that awaits its timer goes on. -/
  | disposalGoesOn (now : Int)
  | tick (now : Int)
  | retryAfter (now : Int)
  /-- `_trySend` goes on. -/
  | resume (answer : Answer) (now : Int)

/-- The state after a step, and what was seen of it. -/
abbrev Effect (P : Type) := Client P × List (Output P)

/-! ## Pieces of the steps -/

def idsOf {P : Type} (events : List (DatacatEvent P)) : List String :=
  events.map DatacatEvent.eventId

/-- What the end of a send is for the future that waits for it. -/
def completion {P : Type} (caller : Option Nat) : List (Output P) :=
  (caller.map Output.completed).toList

namespace Client

variable {P : Type}

/-- `_flushing`. -/
def flushing (c : Client P) : Bool := c.sending.isSome

/-- `_sendBatch`, up to the first suspension of `_trySend`. -/
def sendBatch (settings : Settings P) (caller : Option Nat) (now : Int) (c : Client P) :
    Effect P :=
  if c.flushing || c.queue.isEmpty then (c, completion caller)
  else
    let batch := c.queue.take settings.batchSize
    ({ c with sending := some ⟨batch, .token (c.tokenCache.token now), caller⟩ }, [])

/-- `_flushInternal`. -/
def flushInternal (settings : Settings P) (call : Nat) (now : Int) (c : Client P) : Effect P :=
  if c.queue.isEmpty then (c, [.completed call]) else c.sendBatch settings (some call) now

/-- The last part of `_enqueue`. -/
def add (settings : Settings P) (event : DatacatEvent P) (now : Int) (c : Client P) : Effect P :=
  let c := { c with queue := c.queue ++ [event] }
  if settings.batchSize ≤ c.queue.length then c.sendBatch settings none now else (c, [])

/-- `_enqueue`: a full queue drops its oldest event, and there must be one to drop. -/
def enqueue (settings : Settings P) (event : DatacatEvent P) (now : Int) (c : Client P) :
    Effect P :=
  if settings.maxQueueSize ≤ c.queue.length then
    match c.queue with
    | [] => (c, [.threw])
    | dropped :: rest =>
      let c := { c with queue := rest, retryCount := c.retryCount.remove dropped.eventId }
      let (c, outputs) := c.add settings event now
      (c, .reported [dropped] :: outputs)
  else c.add settings event now

def removeFromQueue (batch : List (DatacatEvent P)) (c : Client P) : Client P :=
  { c with queue := c.queue.filter fun e => !(idsOf batch).contains e.eventId }

/-- `_retryCount.remove(..)` of every event. -/
def forget (batch : List (DatacatEvent P)) (c : Client P) : Client P :=
  { c with retryCount := batch.foldl (fun counts e => counts.remove e.eventId) c.retryCount }

/-- The end of `_trySend` and of `_sendBatch`. -/
def finish (send : Sending P) (outputs : List (Output P)) (c : Client P) : Effect P :=
  ({ c with sending := none }, outputs ++ completion send.caller)

/-- One more failure of an event, which is retried or dropped. -/
def countFailure (maxRetries : Nat)
    (acc : BTreeMap String Nat × List (DatacatEvent P) × List (DatacatEvent P))
    (event : DatacatEvent P) :
    BTreeMap String Nat × List (DatacatEvent P) × List (DatacatEvent P) :=
  let (counts, toRetry, toDrop) := acc
  let attempts := (counts.get event.eventId).getD 0 + 1
  if maxRetries < attempts then (counts.remove event.eventId, toRetry, toDrop ++ [event])
  else (counts.insert event.eventId attempts, toRetry ++ [event], toDrop)

/-- `_handleRetryableFailure`. -/
def handleRetryableFailure (settings : Settings P) (send : Sending P)
    (overrideDelay : Option Int) (c : Client P) : Effect P :=
  let (counts, toRetry, toDrop) :=
    send.batch.foldl (countFailure settings.maxRetries) (c.retryCount, [], [])
  let c := { c with retryCount := counts }
  let (c, outputs) :=
    if toDrop.isEmpty then (c, []) else (c.removeFromQueue toDrop, [.reported toDrop])
  let c :=
    if overrideDelay.isSome && !toRetry.isEmpty then
      { c with delayedSends := c.delayedSends + 1 }
    else c
  c.finish send outputs

/-- `_post`: a body that cannot be encoded fails like a request. -/
def post (settings : Settings P) (send : Sending P) (token : String) (point : Point)
    (c : Client P) : Effect P :=
  if send.batch.all fun e => settings.encodable e.properties then
    ({ c with sending := some { send with point := point } }, [.sent token send.batch])
  else c.handleRetryableFailure settings send none

/-- The batch is accepted. -/
def deliver (send : Sending P) (c : Client P) : Effect P :=
  ((c.removeFromQueue send.batch).forget send.batch).finish send [.delivered send.batch]

/-- What follows the response to the first request. -/
def onResponse (settings : Settings P) (send : Sending P) (status : Nat)
    (retryAfter : Option Int) (c : Client P) : Effect P :=
  if status = 200 ∨ status = 201 ∨ status = 202 then c.deliver send
  else if status = 401 then
    ({ c with tokenCache := {}, sending := some { send with point := .invalidate } }, [])
  else if status = 400 ∨ status = 413 then
    ((c.removeFromQueue send.batch).forget send.batch).finish send [.reported send.batch]
  else if status = 429 then c.handleRetryableFailure settings send retryAfter
  else if 500 ≤ status then c.handleRetryableFailure settings send none
  -- Any other status: the counters of the batch are not removed.
  else (c.removeFromQueue send.batch).finish send [.reported send.batch]

/-- A new token. -/
def refresh (settings : Settings P) (jwt : String) (c : Client P) : Client P :=
  { c with tokenCache := ⟨some jwt, settings.parseExp jwt⟩ }

/-- `_trySend` goes on where it was suspended. -/
def trySend (settings : Settings P) (send : Sending P) (answer : Answer) (now : Int)
    (c : Client P) : Option (Effect P) :=
  match send.point, answer with
  | .token (some token), .goOn => some (c.post settings send token .post)
  | .token none, .token jwt => some ((c.refresh settings jwt).post settings send jwt .post)
  | .token none, .error => some (c.handleRetryableFailure settings send none)
  | .post, .response status retryAfter => some (c.onResponse settings send status retryAfter)
  | .post, .error => some (c.handleRetryableFailure settings send none)
  | .invalidate, .token jwt =>
    let c := c.refresh settings jwt
    let point := .retoken (c.tokenCache.token now)
    some ({ c with sending := some { send with point := point } }, [])
  -- No handler here: the error leaves `_trySend` and `_sendBatch`.
  | .invalidate, .error =>
    some ({ c with sending := none }, (send.caller.map Output.failed).toList)
  | .retoken (some token), .goOn => some (c.post settings send token .repost)
  | .retoken none, .token jwt => some ((c.refresh settings jwt).post settings send jwt .repost)
  | .retoken none, .error => some (c.handleRetryableFailure settings send none)
  | .repost, .response status _ =>
    if 200 ≤ status ∧ status < 300 then some (c.deliver send)
    else some (c.handleRetryableFailure settings send none)
  | .repost, .error => some (c.handleRetryableFailure settings send none)
  | _, _ => none

/-- `track`. -/
def track (settings : Settings P) (eventName : String) (properties : P)
    (eventId timestampClient : String) (now : Int) (c : Client P) : Effect P :=
  if c.disposed || c.disposing then (c, [])
  else
    match c.currentActorId with
    | none => (c, [.reported []])
    | some actorId =>
      if actorId.isEmpty then (c, [.reported []])
      else
        let deferred : Deferred P :=
          ⟨eventId, eventName, actorId, timestampClient, properties, c.currentTenantId⟩
        match c.session.id with
        | none => ({ c with waiting := c.waiting ++ [.track deferred] }, [.tracked eventId])
        | some sessionId =>
          let (c, outputs) := c.enqueue settings (deferred.event sessionId) now
          (c, .tracked eventId :: outputs)

/-- `flush`, up to its first suspension. -/
def flush (c : Client P) : Effect P :=
  if c.disposed then ({ c with calls := c.calls + 1 }, [.completed c.calls])
  else ({ c with waiting := c.waiting ++ [.flush c.calls], calls := c.calls + 1 }, [])

/-- `dispose`, up to its first suspension. -/
def dispose (c : Client P) : Effect P :=
  if c.disposed then ({ c with calls := c.calls + 1 }, [.completed c.calls])
  else
    ({ c with
        disposing := true
        flushTimer := false
        waiting := c.waiting ++ [.dispose c.calls]
        calls := c.calls + 1 }, [])

/-- What awaits `_sessionReady` goes on. -/
def onSession (settings : Settings P) (now : Int) (c : Client P) : Waiting P → Option (Effect P)
  | .track deferred =>
    match c.session with
    | .ready sessionId =>
      if c.disposed then some (c, [])
      else some (c.enqueue settings (deferred.event sessionId) now)
    | .failed _ => some (c, [])
    | _ => none
  | .flush call =>
    match c.session with
    | .ready _ => some (c.flushInternal settings call now)
    | .failed _ => some (c, [.failed call])
    | _ => none
  | .dispose call =>
    match c.session with
    | .ready _ => some ({ c with delayedDisposals := c.delayedDisposals ++ [call] }, [])
    | .failed _ => some (c, [.failed call])
    | _ => none

/-- One step of the client. -/
def step (settings : Settings P) (c : Client P) : Input P → Option (Effect P)
  | .identify actorId tenantId =>
    some ({ c with currentActorId := some actorId, currentTenantId := tenantId }, [])
  | .track eventName properties eventId timestampClient now =>
    some (c.track settings eventName properties eventId timestampClient now)
  | .flush => some c.flush
  | .dispose => some c.dispose
  | .sessionRead stored fresh =>
    match c.session with
    | .reading =>
      match stored with
      | some id =>
        if id.isEmpty then some ({ c with session := .writing fresh }, [])
        else some ({ c with session := .ready id }, [])
      | none => some ({ c with session := .writing fresh }, [])
    | _ => none
  | .sessionWritten =>
    match c.session with
    | .writing id => some ({ c with session := .ready id }, [])
    | _ => none
  | .sessionFails =>
    match c.session with
    | .reading => some ({ c with session := .failed none }, [])
    | .writing id => some ({ c with session := .failed (some id) }, [])
    | _ => none
  | .sessionGoesOn now =>
    match c.waiting with
    | [] => none
    | first :: rest => { c with waiting := rest }.onSession settings now first
  | .disposalGoesOn now =>
    match c.delayedDisposals with
    | [] => none
    | call :: rest =>
      some ({ c with delayedDisposals := rest, disposed := true }.flushInternal settings call now)
  | .tick now =>
    if c.flushTimer then
      if !c.disposed && !c.queue.isEmpty then some (c.sendBatch settings none now)
      else some (c, [])
    else none
  | .retryAfter now =>
    match c.delayedSends with
    | 0 => none
    | rest + 1 =>
      let c := { c with delayedSends := rest }
      if c.disposed then some (c, []) else some (c.sendBatch settings none now)
  | .resume answer now =>
    match c.sending with
    | none => none
    | some send => c.trySend settings send answer now

/-- The constructor, with the id of the session when the configuration has one. -/
def new (actorId tenantId sessionId : Option String) : Client P :=
  { currentActorId := actorId
    currentTenantId := tenantId
    session := match sessionId with
      | some id => .ready id
      | none => .reading }

end Client

/-- What the environment does, and what is seen of it. -/
abbrev Label (P : Type) := Input P × List (Output P)

def Step {P : Type} (settings : Settings P) (c : Client P) (x : Label P) (c' : Client P) : Prop :=
  c.step settings x.1 = some (c', x.2)

/-- What was seen of a run. -/
def outputsOf {P : Type} (labels : List (Label P)) : List (Output P) := labels.flatMap Prod.snd

end Datacat.Sdk.Flutter
