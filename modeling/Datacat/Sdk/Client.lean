import Datacat.Basics.Float64
import Datacat.Basics.Run
import Datacat.Basics.Time

/-!
# The TypeScript Client

Events wait in a queue, leave it in batches and come back through a schedule of retries. The client
runs on one thread: a step goes from one suspension to the next, and any other step may come in
between. The steps start with a call, a timer, the page that hides or a promise that settles.

What is awaited is chosen by the environment: the token or the rejection that `getToken` gives, the
response or the rejection of a `fetch`, the answer of `sendBeacon`. Each step carries the instants
and the identifiers that it reads.
-/

namespace Datacat.Sdk

open Basics
open Basics.DateTime (civilFromDays padDigits)

/-! ## Events -/

/-- An event, with properties of any type. -/
structure DatacatEvent (P : Type) where
  eventId : String
  eventName : String
  actorId : String
  sessionId : String
  timestampClient : String
  properties : P
  tenantId : Option String
deriving DecidableEq

structure QueuedEvent (P : Type) where
  event : DatacatEvent P
  retryCount : Nat
deriving DecidableEq

def eventsOf {P : Type} (items : List (QueuedEvent P)) : List (DatacatEvent P) :=
  items.map QueuedEvent.event

/-- `toISOString` of an instant in milliseconds. -/
def toISOString (millis : Int) : String :=
  let days := millis / 86400000
  let ofDay := (millis - days * 86400000).toNat
  let (year, month, day) := civilFromDays days
  let yearDigits :=
    if 0 ≤ year ∧ year ≤ 9999 then padDigits 4 year.toNat
    else (if year < 0 then '-' else '+') :: padDigits 6 year.natAbs
  String.ofList
    (yearDigits ++ '-' :: padDigits 2 month.toNat ++ '-' :: padDigits 2 day.toNat ++
      'T' :: padDigits 2 (ofDay / 3600000) ++ ':' :: padDigits 2 (ofDay / 60000 % 60) ++
      ':' :: padDigits 2 (ofDay / 1000 % 60) ++ '.' :: padDigits 3 (ofDay % 1000) ++ ['Z'])

example : toISOString 1782036000123 = "2026-06-21T10:00:00.123Z" := by decide

/-! ## The queue -/

/-- `EventQueue.enqueue`: the queue, and the events dropped to make room, which are the oldest. -/
def enqueue {P : Type} (maxSize : Nat) (queue : List (QueuedEvent P)) (event : DatacatEvent P) :
    List (QueuedEvent P) × List (DatacatEvent P) :=
  let excess := if maxSize ≤ queue.length then queue.length - maxSize + 1 else 0
  (queue.drop excess ++ [⟨event, 0⟩], eventsOf (queue.take excess))

/-- How many events `dequeue` takes: `splice` turns the smaller of the two numbers into a whole
number that is not negative. -/
def dequeueCount (n : F64) (length : Nat) : Nat :=
  if n.isNaN then 0
  else if n.isFinite then min ⌊n.toRat⌋.toNat length
  else if n.signBit then 0
  else length

/-! ## Tokens -/

/-- A promise of the token manager: kept already, or the outcome of a call of `getToken`. -/
inductive Promise where
  | resolved (token : String)
  | pending (call : Nat)
deriving DecidableEq

structure TokenManager where
  /-- The token, and the second at which it expires. -/
  cached : Option (String × ℚ) := none
  /-- Whether a call of `getToken` is in flight. -/
  inflight : Bool := false
  /-- The outcomes of the calls: a token, or nothing for a rejection. -/
  answers : List (Option String) := []
deriving DecidableEq

namespace TokenManager

/-- Less than 30 seconds are left, counted in whole seconds. -/
def isExpiringSoon (exp : ℚ) (now : Int) : Bool := decide (exp - 30 ≤ (now / 1000 : Int))

/-- `refresh`: a call in flight is shared. -/
def refresh (m : TokenManager) : TokenManager × Promise :=
  ({ m with inflight := true }, .pending m.answers.length)

/-- `get`. -/
def get (now : Int) (m : TokenManager) : TokenManager × Promise :=
  match m.cached with
  | some (value, exp) => if isExpiringSoon exp now then m.refresh else (m, .resolved value)
  | none => m.refresh

def invalidate (m : TokenManager) : TokenManager := { m with cached := none }

/-- The call in flight settles. -/
def settle (decodeExp : String → ℚ) (m : TokenManager) (answer : Option String) :
    Option TokenManager :=
  if m.inflight then
    some
      { cached := (answer.map fun token => (token, decodeExp token)).or m.cached
        inflight := false
        answers := m.answers ++ [answer] }
  else none

/-- The outcome of a promise, once it is settled. -/
def outcome (m : TokenManager) : Promise → Option (Option String)
  | .resolved token => some (some token)
  | .pending call => m.answers[call]?

end TokenManager

/-! ## The client -/

/-- The options, and what the client takes from its host. -/
structure Settings (P : Type) where
  batchSize : F64 := F64.ofInt 20
  maxQueueSize : Nat := 1000
  maxRetries : Nat := 5
  sessionId : String
  redact : Option (P → P) := none
  /-- Whether `JSON.stringify` accepts the properties. -/
  serializable : P → Bool
  /-- The claim `exp` of a token, 0 when it has none. -/
  decodeExp : String → ℚ

structure RetryItem (P : Type) where
  items : List (QueuedEvent P)
  /-- Milliseconds since the epoch. -/
  notBefore : F64
deriving DecidableEq

/-- Where a flush is suspended, with the batch that it holds there. -/
inductive Point (P : Type) where
  /-- `await tokenManager.get()`; an empty batch does not come here. -/
  | token (items : List (QueuedEvent P)) (nonempty : items ≠ []) (promise : Promise)
  /-- `await fetchImpl(..)`. -/
  | fetch (items : List (QueuedEvent P))
  /-- `await tokenManager.refresh()`, after a 401. -/
  | refresh (items : List (QueuedEvent P)) (promise : Promise)
  /-- The second `await fetchImpl(..)`. -/
  | refetch (items : List (QueuedEvent P))
  /-- `await response.text()`, after a 400 or a 413. -/
  | text (items : List (QueuedEvent P))
  /-- The batch is dealt with: `await sendBatch(batch)` goes on. -/
  | next
  /-- `doFlush` is over, kept or rejected. -/
  | settled
deriving DecidableEq

/-- A suspended call. -/
inductive Task (P : Type) where
  /-- `doFlush`, behind `flushPromise` or not. -/
  | flush (scheduled : Bool) (point : Point P)
  /-- `beaconFlush`, at `await tokenManager.get()`. -/
  | beaconToken (items : List (QueuedEvent P)) (promise : Promise)
  /-- `beaconFlush`, at `await fetchImpl(..)`. -/
  | beaconFetch (items : List (QueuedEvent P)) (token : String)
deriving DecidableEq

structure Client (P : Type) where
  actorId : Option String
  tenantId : Option String
  queue : List (QueuedEvent P) := []
  retrySchedule : List (RetryItem P) := []
  tokens : TokenManager := {}
  /-- `flushPromise !== null`. -/
  flushing : Bool := false
  /-- `flushTimer !== null`. -/
  timer : Bool := true
  /-- Whether the page has handlers of this client. -/
  listening : Bool
  tasks : List (Task P) := []
deriving DecidableEq

/-- A request: the events, and the token in the header or in the body. -/
structure Request (P : Type) where
  token : String
  events : List (DatacatEvent P)
  tokenInBody : Bool
deriving DecidableEq

/-- What a step does that is seen outside. -/
inductive Output (P : Type) where
  | enqueued (event : DatacatEvent P)
  | sent (request : Request P)
  | acknowledged (events : List (DatacatEvent P))
  /-- `sendBeacon` took the events. -/
  | beaconed (events : List (DatacatEvent P))
  /-- `onError` was called with the events. -/
  | reported (events : List (DatacatEvent P))
deriving DecidableEq

/-- What an awaited promise gives. -/
inductive Answer where
  /-- A promise of the client or of a body goes on. -/
  | goOn
  /-- A response to a `fetch`: its status, and the number that its `Retry-After` begins with. -/
  | response (status : Nat) (retryAfter : Option F64)
  | rejection

inductive Input (P : Type) where
  | identify (actorId : String) (tenantId : Option String)
  | track (eventName : String) (properties : P) (eventId : String) (now : Int)
  | flush (now : Int)
  | tick (now : Int)
  | pageHidden (now : Int)
  | shutdown (now : Int)
  /-- The call of `getToken` in flight gives a token or rejects. -/
  | tokenAnswer (answer : Option String)
  /-- A suspended call goes on; `sendBeacon` returns `beacon`, or is not there. -/
  | resume (task : Nat) (answer : Answer) (beacon : Option Bool) (now : Int)

/-- The state after a step, and what was seen of it. -/
abbrev Effect (P : Type) := Client P × List (Output P)

/-! ## Pieces of the steps -/

/-- `response.ok`. -/
def isOk (status : Nat) : Bool := decide (200 ≤ status) && decide (status ≤ 299)

/-- `min(200 * 2 ^ attempt, 30000)`. -/
def backoffMs (attempt : Nat) : Nat := min (200 * 2 ^ attempt) 30000

/-- The sum with a finite number. -/
def plus (a b : F64) : F64 := if b.isFinite then a.add b else b

def thousandTimes (a : F64) : F64 := if a.isFinite then a.mul (F64.ofInt 1000) else a

namespace Client

variable {P : Type}

def suspend (c : Client P) (task : Task P) : Client P := { c with tasks := c.tasks ++ [task] }

/-- `drainDueRetries`: the items that are due enter the queue at its front, one by one. -/
def drainDueRetries (now : Int) (c : Client P) : Client P :=
  let isDue (item : RetryItem P) := item.notBefore.le (F64.ofInt now)
  { c with
    retrySchedule := c.retrySchedule.filter fun item => !isDue item
    queue := (c.retrySchedule.filter isDue).foldl (fun queue item => item.items ++ queue) c.queue }

/-- The loop of `doFlush`, up to its next suspension. -/
def flushLoop (settings : Settings P) (scheduled : Bool) (now : Int) (c : Client P) : Client P :=
  if c.queue.isEmpty then c.suspend (.flush scheduled .settled)
  else
    let count := dequeueCount settings.batchSize c.queue.length
    let batch := c.queue.take count
    let c := { c with queue := c.queue.drop count }
    -- `sendBatch` returns at once when there is nothing to send.
    if h : batch = [] then c.suspend (.flush scheduled .next)
    else
      let (tokens, promise) := c.tokens.get now
      { c with tokens := tokens }.suspend (.flush scheduled (.token batch h promise))

def doFlush (settings : Settings P) (scheduled : Bool) (now : Int) (c : Client P) : Client P :=
  (c.drainDueRetries now).flushLoop settings scheduled now

def scheduleFlush (settings : Settings P) (now : Int) (c : Client P) : Client P :=
  if c.flushing then c else { c with flushing := true }.doFlush settings true now

/-- The first part of `attemptSend`: a body that cannot be made is an error of the batch. -/
def attemptSend (settings : Settings P) (scheduled : Bool) (items : List (QueuedEvent P))
    (token : String) (c : Client P) : Effect P :=
  if (eventsOf items).all fun e => settings.serializable e.properties then
    (c.suspend (.flush scheduled (.fetch items)), [.sent ⟨token, eventsOf items, false⟩])
  else (c.suspend (.flush scheduled .next), [.reported (eventsOf items)])

/-- A failure that may be retried: each event once more, unless it was tried too often. -/
def scheduleRetry (settings : Settings P) (scheduled : Bool) (items : List (QueuedEvent P))
    (retryAfterMs : Option F64) (now : Int) (c : Client P) : Effect P :=
  let abandoned := items.filter fun i => decide (settings.maxRetries ≤ i.retryCount + 1)
  let nextItems := (items.filter fun i => !decide (settings.maxRetries ≤ i.retryCount + 1)).map
    fun i => { i with retryCount := i.retryCount + 1 }
  let outputs := if abandoned.isEmpty then [] else [.reported (eventsOf abandoned)]
  let c := c.suspend (.flush scheduled .next)
  match (nextItems.map QueuedEvent.retryCount).min? with
  | none => (c, outputs)
  | some minRetry =>
    let waitMs := retryAfterMs.getD (F64.ofInt (backoffMs (minRetry - 1)))
    ({ c with
        retrySchedule := c.retrySchedule ++ [⟨nextItems, plus (F64.ofInt now) waitMs⟩] }, outputs)

/-- The batch is acknowledged. -/
def acknowledge (scheduled : Bool) (items : List (QueuedEvent P)) (c : Client P) : Effect P :=
  (c.suspend (.flush scheduled .next), [.acknowledged (eventsOf items)])

/-- The batch is given up, and `onError` told. -/
def giveUp (scheduled : Bool) (items : List (QueuedEvent P)) (c : Client P) : Effect P :=
  (c.suspend (.flush scheduled .next), [.reported (eventsOf items)])

/-- What follows the response to the first `fetch`. -/
def onResponse (settings : Settings P) (scheduled : Bool) (items : List (QueuedEvent P))
    (status : Nat) (retryAfter : Option F64) (now : Int) (c : Client P) : Effect P :=
  if isOk status then c.acknowledge scheduled items
  else if status = 401 then
    let (tokens, promise) := c.tokens.invalidate.refresh
    ({ c with tokens := tokens }.suspend (.flush scheduled (.refresh items promise)), [])
  else if status = 400 ∨ status = 413 then (c.suspend (.flush scheduled (.text items)), [])
  else if status = 429 then
    c.scheduleRetry settings scheduled items (retryAfter.map thousandTimes) now
  else c.scheduleRetry settings scheduled items none now

/-- A flush goes on where it was suspended. -/
def resumeFlush (settings : Settings P) (scheduled : Bool) (answer : Answer) (now : Int)
    (c : Client P) : Point P → Option (Effect P)
  | .token items _ promise =>
    match answer, c.tokens.outcome promise with
    | .goOn, some (some token) => some (c.attemptSend settings scheduled items token)
    -- The rejection leaves `sendBatch`, which has no handler here, and ends `doFlush`.
    | .goOn, some none => some (c.suspend (.flush scheduled .settled), [])
    | _, _ => none
  | .fetch items =>
    match answer with
    | .response status retryAfter =>
      some (c.onResponse settings scheduled items status retryAfter now)
    | .rejection => some (c.scheduleRetry settings scheduled items none now)
    | .goOn => none
  | .refresh items promise =>
    match answer, c.tokens.outcome promise with
    | .goOn, some (some token) =>
      some (c.suspend (.flush scheduled (.refetch items)), [.sent ⟨token, eventsOf items, false⟩])
    | .goOn, some none => some (c.giveUp scheduled items)
    | _, _ => none
  | .refetch items =>
    match answer with
    | .response status _ =>
      if isOk status then some (c.acknowledge scheduled items)
      else some (c.scheduleRetry settings scheduled items none now)
    | .rejection => some (c.scheduleRetry settings scheduled items none now)
    | .goOn => none
  | .text items =>
    match answer with
    | .goOn => some (c.giveUp scheduled items)
    | _ => none
  | .next =>
    match answer with
    | .goOn => some (c.flushLoop settings scheduled now, [])
    | _ => none
  | .settled =>
    match answer with
    | .goOn => some ({ c with flushing := c.flushing && !scheduled }, [])
    | _ => none

/-- `beaconFlush`, up to its first suspension. -/
def beaconFlush (now : Int) (c : Client P) : Client P :=
  let c := c.drainDueRetries now
  if c.queue.isEmpty then c
  else
    let (tokens, promise) := c.tokens.get now
    { c with queue := [], tokens := tokens }.suspend (.beaconToken c.queue promise)

/-- `beaconFlush` has its token, or none. -/
def resumeBeaconToken (settings : Settings P) (items : List (QueuedEvent P)) (promise : Promise)
    (c : Client P) : Option (Effect P) :=
  match c.tokens.outcome promise with
  | none => none
  | some none => some (c, [.reported (eventsOf items)])
  | some (some token) =>
    if (eventsOf items).all fun e => settings.serializable e.properties then
      some (c.suspend (.beaconFetch items token), [.sent ⟨token, eventsOf items, false⟩])
    -- `JSON.stringify` throws outside of any handler.
    else some (c, [])

/-- `beaconFlush` after its `fetch`: unless it was accepted, `sendBeacon` is tried. -/
def resumeBeaconFetch (items : List (QueuedEvent P)) (token : String) (ok : Bool)
    (beacon : Option Bool) (c : Client P) : Effect P :=
  if ok then (c, [.acknowledged (eventsOf items)])
  else
    match beacon with
    | some true => (c, [.sent ⟨token, eventsOf items, true⟩, .beaconed (eventsOf items)])
    | some false => (c, [.sent ⟨token, eventsOf items, true⟩, .reported (eventsOf items)])
    | none => (c, [.reported (eventsOf items)])

/-- A suspended call goes on. -/
def resume (settings : Settings P) (task : Nat) (answer : Answer) (beacon : Option Bool)
    (now : Int) (c : Client P) : Option (Effect P) :=
  let rest := { c with tasks := c.tasks.eraseIdx task }
  match c.tasks[task]? with
  | none => none
  | some (.flush scheduled point) => rest.resumeFlush settings scheduled answer now point
  | some (.beaconToken items promise) =>
    match answer with
    | .goOn => rest.resumeBeaconToken settings items promise
    | _ => none
  | some (.beaconFetch items token) =>
    match answer with
    | .response status _ => some (rest.resumeBeaconFetch items token (isOk status) beacon)
    | .rejection => some (rest.resumeBeaconFetch items token false beacon)
    | .goOn => none

/-- `track`. -/
def track (settings : Settings P) (eventName : String) (properties : P) (eventId : String)
    (now : Int) (c : Client P) : Effect P :=
  match c.actorId with
  | none => (c, [.reported []])
  | some actorId =>
    let event : DatacatEvent P :=
      { eventId := eventId
        eventName := eventName
        actorId := actorId
        sessionId := settings.sessionId
        timestampClient := toISOString now
        properties := match settings.redact with
          | some redact => redact properties
          | none => properties
        tenantId := c.tenantId }
    let (queue, dropped) := enqueue settings.maxQueueSize c.queue event
    let outputs :=
      if settings.maxQueueSize ≤ c.queue.length then [.reported dropped, .enqueued event]
      else [.enqueued event]
    let c := { c with queue := queue }
    (if settings.batchSize.le (F64.ofInt c.queue.length) then c.scheduleFlush settings now else c,
      outputs)

/-- One step of the client. -/
def step (settings : Settings P) (c : Client P) : Input P → Option (Effect P)
  | .identify actorId tenantId => some ({ c with actorId := some actorId, tenantId := tenantId }, [])
  | .track eventName properties eventId now =>
    some (c.track settings eventName properties eventId now)
  | .flush now => some (if c.flushing then c else c.doFlush settings false now, [])
  | .tick now => if c.timer then some (c.scheduleFlush settings now, []) else none
  | .pageHidden now => if c.listening then some (c.beaconFlush now, []) else none
  | .shutdown now =>
    some ({ c with timer := false, listening := false }.doFlush settings false now, [])
  | .tokenAnswer answer =>
    (c.tokens.settle settings.decodeExp answer).map fun tokens => ({ c with tokens := tokens }, [])
  | .resume task answer beacon now => c.resume settings task answer beacon now

/-- `createDatacatClient`. -/
def new (actorId tenantId : Option String) (listening : Bool) : Client P :=
  { actorId := actorId, tenantId := tenantId, listening := listening }

end Client

/-! ## What a step does -/

/-- `track` without an actor does nothing; with one, its event enters the queue, and a full batch
starts a flush. -/
theorem Client.track_cases {P : Type} (settings : Settings P) (eventName : String) (properties : P)
    (eventId : String) (now : Int) (c : Client P) :
    c.actorId = none ∧ c.track settings eventName properties eventId now = (c, [.reported []]) ∨
      ∃ event : DatacatEvent P, ∃ queue dropped,
        c.actorId = some event.actorId ∧ event.eventId = eventId ∧
        enqueue settings.maxQueueSize c.queue event = (queue, dropped) ∧
        c.track settings eventName properties eventId now =
          (if settings.batchSize.le (F64.ofInt queue.length) then
              { c with queue := queue }.scheduleFlush settings now
            else { c with queue := queue },
            if settings.maxQueueSize ≤ c.queue.length then [.reported dropped, .enqueued event]
            else [.enqueued event]) := by
  unfold track
  split
  · exact .inl ⟨‹_›, rfl⟩
  · exact .inr ⟨_, _, _, ‹_›, rfl, rfl, rfl⟩

/-- What a flush does when it goes on: one case for each way out of the place where it was
suspended. -/
inductive FlushResumed {P : Type} (settings : Settings P) (scheduled : Bool) (now : Int)
    (c : Client P) : Point P → Effect P → Prop where
  | attempted {items : List (QueuedEvent P)} {nonempty : items ≠ []} {promise : Promise}
      {token : String} (h : c.tokens.outcome promise = some (some token)) :
      FlushResumed settings scheduled now c (.token items nonempty promise)
        (c.attemptSend settings scheduled items token)
  /-- `getToken` rejected: the batch goes with the flush. -/
  | abandoned {items : List (QueuedEvent P)} {nonempty : items ≠ []} {promise : Promise}
      (h : c.tokens.outcome promise = some none) :
      FlushResumed settings scheduled now c (.token items nonempty promise)
        (c.suspend (.flush scheduled .settled), [])
  | responded {items : List (QueuedEvent P)} (status : Nat) (retryAfter : Option F64) :
      FlushResumed settings scheduled now c (.fetch items)
        (c.onResponse settings scheduled items status retryAfter now)
  | unreachable {items : List (QueuedEvent P)} :
      FlushResumed settings scheduled now c (.fetch items)
        (c.scheduleRetry settings scheduled items none now)
  | refreshed {items : List (QueuedEvent P)} {promise : Promise} {token : String}
      (h : c.tokens.outcome promise = some (some token)) :
      FlushResumed settings scheduled now c (.refresh items promise)
        (c.suspend (.flush scheduled (.refetch items)), [.sent ⟨token, eventsOf items, false⟩])
  | notRefreshed {items : List (QueuedEvent P)} {promise : Promise}
      (h : c.tokens.outcome promise = some none) :
      FlushResumed settings scheduled now c (.refresh items promise) (c.giveUp scheduled items)
  | acknowledged {items : List (QueuedEvent P)} :
      FlushResumed settings scheduled now c (.refetch items) (c.acknowledge scheduled items)
  | failedAgain {items : List (QueuedEvent P)} :
      FlushResumed settings scheduled now c (.refetch items)
        (c.scheduleRetry settings scheduled items none now)
  | refused {items : List (QueuedEvent P)} :
      FlushResumed settings scheduled now c (.text items) (c.giveUp scheduled items)
  | next : FlushResumed settings scheduled now c .next (c.flushLoop settings scheduled now, [])
  | settled :
      FlushResumed settings scheduled now c .settled
        ({ c with flushing := c.flushing && !scheduled }, [])

theorem Client.flushResumed {P : Type} {settings : Settings P} {scheduled : Bool} {now : Int}
    {c : Client P} {answer : Answer} {point : Point P} {out : Effect P}
    (h : c.resumeFlush settings scheduled answer now point = some out) :
    FlushResumed settings scheduled now c point out := by
  cases point with
  | token items nonempty promise =>
    dsimp only [resumeFlush] at h
    split at h
    · obtain rfl := Option.some.inj h
      exact .attempted ‹_›
    · obtain rfl := Option.some.inj h
      exact .abandoned ‹_›
    · cases h
  | fetch items =>
    cases answer with
    | goOn => cases h
    | rejection =>
      obtain rfl := Option.some.inj h
      exact .unreachable
    | response status retryAfter =>
      obtain rfl := Option.some.inj h
      exact .responded status retryAfter
  | refresh items promise =>
    dsimp only [resumeFlush] at h
    split at h
    · obtain rfl := Option.some.inj h
      exact .refreshed ‹_›
    · obtain rfl := Option.some.inj h
      exact .notRefreshed ‹_›
    · cases h
  | refetch items =>
    cases answer with
    | goOn => cases h
    | rejection =>
      obtain rfl := Option.some.inj h
      exact .failedAgain
    | response status retryAfter =>
      dsimp only [resumeFlush] at h
      split at h
      · obtain rfl := Option.some.inj h
        exact .acknowledged
      · obtain rfl := Option.some.inj h
        exact .failedAgain
  -- the other places wait for nothing, and have one way out
  | text items =>
    cases answer with
    | goOn =>
      obtain rfl := Option.some.inj h
      exact .refused
    | rejection => cases h
    | response status retryAfter => cases h
  | next =>
    cases answer with
    | goOn =>
      obtain rfl := Option.some.inj h
      exact .next
    | rejection => cases h
    | response status retryAfter => cases h
  | settled =>
    cases answer with
    | goOn =>
      obtain rfl := Option.some.inj h
      exact .settled
    | rejection => cases h
    | response status retryAfter => cases h

/-- What a suspended call does when it goes on, with the client that has let go of it. -/
inductive Resumed {P : Type} (settings : Settings P) (now : Int) (c : Client P) :
    Task P → Effect P → Prop where
  | flush {scheduled : Bool} {point : Point P} {out : Effect P}
      (h : FlushResumed settings scheduled now c point out) :
      Resumed settings now c (.flush scheduled point) out
  | beaconSent {items : List (QueuedEvent P)} {promise : Promise} {token : String}
      (h : c.tokens.outcome promise = some (some token))
      (hbody : (eventsOf items).all (fun e => settings.serializable e.properties) = true) :
      Resumed settings now c (.beaconToken items promise)
        (c.suspend (.beaconFetch items token), [.sent ⟨token, eventsOf items, false⟩])
  /-- The body cannot be made: the events go with the call. -/
  | beaconAbandoned {items : List (QueuedEvent P)} {promise : Promise} {token : String}
      (h : c.tokens.outcome promise = some (some token))
      (hbody : ¬(eventsOf items).all (fun e => settings.serializable e.properties) = true) :
      Resumed settings now c (.beaconToken items promise) (c, [])
  | beaconRejected {items : List (QueuedEvent P)} {promise : Promise}
      (h : c.tokens.outcome promise = some none) :
      Resumed settings now c (.beaconToken items promise) (c, [.reported (eventsOf items)])
  | beaconAnswered {items : List (QueuedEvent P)} {token : String} (ok : Bool)
      (beacon : Option Bool) :
      Resumed settings now c (.beaconFetch items token)
        (c.resumeBeaconFetch items token ok beacon)

theorem Client.resumed {P : Type} {settings : Settings P} {now : Int} {c : Client P} {task : Nat}
    {answer : Answer} {beacon : Option Bool} {out : Effect P}
    (h : c.resume settings task answer beacon now = some out) :
    ∃ call, c.tasks[task]? = some call ∧
      Resumed settings now { c with tasks := c.tasks.eraseIdx task } call out := by
  unfold resume at h
  dsimp only at h
  split at h
  · cases h
  · exact ⟨_, ‹_›, .flush (flushResumed h)⟩
  · refine ⟨_, ‹_›, ?_⟩
    cases answer with
    | rejection => cases h
    | response status retryAfter => cases h
    | goOn =>
      dsimp only [resumeBeaconToken] at h
      split at h
      · cases h
      · obtain rfl := Option.some.inj h
        exact .beaconRejected ‹_›
      · split at h
        · obtain rfl := Option.some.inj h
          exact .beaconSent ‹_› ‹_›
        · obtain rfl := Option.some.inj h
          exact .beaconAbandoned ‹_› ‹_›
  · refine ⟨_, ‹_›, ?_⟩
    cases answer with
    | goOn => cases h
    | rejection =>
      obtain rfl := Option.some.inj h
      exact .beaconAnswered false beacon
    | response status retryAfter =>
      obtain rfl := Option.some.inj h
      exact .beaconAnswered (isOk status) beacon

/-- What a step does: one case for each input. -/
inductive Stepped {P : Type} (settings : Settings P) (c : Client P) : Input P → Effect P → Prop where
  | identify (actorId : String) (tenantId : Option String) :
      Stepped settings c (.identify actorId tenantId)
        ({ c with actorId := some actorId, tenantId := tenantId }, [])
  | track (eventName : String) (properties : P) (eventId : String) (now : Int) :
      Stepped settings c (.track eventName properties eventId now)
        (c.track settings eventName properties eventId now)
  | flush (now : Int) :
      Stepped settings c (.flush now) (if c.flushing then c else c.doFlush settings false now, [])
  | tick (now : Int) (h : c.timer = true) :
      Stepped settings c (.tick now) (c.scheduleFlush settings now, [])
  | pageHidden (now : Int) (h : c.listening = true) :
      Stepped settings c (.pageHidden now) (c.beaconFlush now, [])
  | shutdown (now : Int) :
      Stepped settings c (.shutdown now)
        ({ c with timer := false, listening := false }.doFlush settings false now, [])
  | tokenAnswer {answer : Option String} {tokens : TokenManager}
      (h : c.tokens.settle settings.decodeExp answer = some tokens) :
      Stepped settings c (.tokenAnswer answer) ({ c with tokens := tokens }, [])
  | resume {task : Nat} {answer : Answer} {beacon : Option Bool} {now : Int} {out : Effect P}
      (h : c.resume settings task answer beacon now = some out) :
      Stepped settings c (.resume task answer beacon now) out

theorem Client.stepped {P : Type} {settings : Settings P} {c : Client P} {input : Input P}
    {out : Effect P} (h : c.step settings input = some out) : Stepped settings c input out := by
  cases input with
  | identify actorId tenantId =>
    obtain rfl := Option.some.inj h
    exact .identify actorId tenantId
  | track eventName properties eventId now =>
    obtain rfl := Option.some.inj h
    exact .track eventName properties eventId now
  | flush now =>
    obtain rfl := Option.some.inj h
    exact .flush now
  | tick now =>
    obtain ⟨htimer, h⟩ := Option.ite_none_right_eq_some.mp h
    obtain rfl := Option.some.inj h
    exact .tick now htimer
  | pageHidden now =>
    obtain ⟨hlistening, h⟩ := Option.ite_none_right_eq_some.mp h
    obtain rfl := Option.some.inj h
    exact .pageHidden now hlistening
  | shutdown now =>
    obtain rfl := Option.some.inj h
    exact .shutdown now
  | tokenAnswer answer =>
    obtain ⟨tokens, htokens, rfl⟩ := Option.map_eq_some_iff.mp h
    exact .tokenAnswer htokens
  | resume task answer beacon now => exact .resume h

/-- What the environment does, and what is seen of it. -/
abbrev Label (P : Type) := Input P × List (Output P)

def Step {P : Type} (settings : Settings P) (c : Client P) (x : Label P) (c' : Client P) : Prop :=
  c.step settings x.1 = some (c', x.2)

/-- The inputs one after the other, with what is seen. -/
def replay {P : Type} (settings : Settings P) :
    List (Input P) → Client P → Option (Client P × List (Label P))
  | [], c => some (c, [])
  | input :: inputs, c => do
    let (mid, outputs) ← c.step settings input
    let (last, labels) ← replay settings inputs mid
    return (last, (input, outputs) :: labels)

theorem run_replay {P : Type} {settings : Settings P} {inputs : List (Input P)} {c c' : Client P}
    {labels : List (Label P)} (h : replay settings inputs c = some (c', labels)) :
    Run (Step settings) c labels c' := by
  induction inputs generalizing c labels with
  | nil =>
    obtain ⟨rfl, rfl⟩ := Prod.mk.inj (Option.some.inj h)
    exact .nil
  | cons input inputs ih =>
    rw [replay, Option.bind_eq_bind, Option.bind_eq_some_iff] at h
    obtain ⟨⟨mid, outputs⟩, hstep, h⟩ := h
    dsimp only at h
    rw [Option.bind_eq_bind, Option.bind_eq_some_iff] at h
    obtain ⟨⟨last, rest⟩, hrest, h⟩ := h
    obtain ⟨rfl, rfl⟩ := Prod.mk.inj (Option.some.inj h)
    exact Run.cons_iff.mpr ⟨mid, hstep, ih hrest⟩

/-- The client is deterministic: an input fixes what is seen and the state. -/
theorem Step.unique {P : Type} {settings : Settings P} {c c₁ c₂ : Client P} {x : Label P}
    (h₁ : Step settings c x c₁) (h₂ : Step settings c x c₂) : c₁ = c₂ :=
  (Prod.mk.inj (Option.some.inj (h₁.symm.trans h₂))).1

end Datacat.Sdk
