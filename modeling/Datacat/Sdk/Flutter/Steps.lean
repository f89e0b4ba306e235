import Datacat.Sdk.Flutter.Client

/-!
# What the Steps Do

A step of the client starts a send, lets one go on, enters an event in the queue or only moves the
calls that wait. Each of these is said once, with everything that it does to the events, and the
invariants of the client are proved from that.

## Main results

- `Client.sendResumed`: what a send does when it goes on.
- `Client.handleRetryableFailure_spec`: what a failure of the batch leaves.
- `Client.entered`: what `_enqueue` does.
- `Client.stepped`: what a step does.
-/

namespace Datacat.Sdk.Flutter

open Basics

/-! ## How a send goes on -/

/-- The statuses that the first request takes for a success. -/
def IsAccepted (status : Nat) : Prop := status = 200 ∨ status = 201 ∨ status = 202

/-- A request of `_trySend` is under way. -/
def Point.awaitsResponse : Point → Bool
  | .post => true
  | .repost => true
  | _ => false

/-- What a send does when it goes on: one case for each way out of the place where it was
suspended. -/
inductive SendResumed {P : Type} (settings : Settings P) (c : Client P) (send : Sending P) :
    Answer → Effect P → Prop where
  | posted {kept : Option String} {answer : Answer} (token : String) (cache : TokenCache)
      (hpoint : send.point = .token kept) :
      SendResumed settings c send answer
        ({ c with tokenCache := cache, sending := some { send with point := .post } },
          [.sent token send.batch])
  | reposted {kept : Option String} {answer : Answer} (token : String) (cache : TokenCache)
      (hpoint : send.point = .retoken kept) :
      SendResumed settings c send answer
        ({ c with tokenCache := cache, sending := some { send with point := .repost } },
          [.sent token send.batch])
  /-- No request is made: there is no token or no body. -/
  | unsent {answer : Answer} (cache : TokenCache) (hpoint : send.point.awaitsResponse = false)
      (h : answer = .error ∨ ∃ e ∈ send.batch, settings.encodable e.properties = false) :
      SendResumed settings c send answer
        ({ c with tokenCache := cache }.handleRetryableFailure settings send none)
  | unavailable {answer : Answer} (delay : Option Int) (hpoint : send.point.awaitsResponse = true)
      (h : answer = .error ∨
        ∃ status retryAfter, answer = .response status retryAfter ∧ ¬IsAccepted status) :
      SendResumed settings c send answer (c.handleRetryableFailure settings send delay)
  | succeeded {status : Nat} {retryAfter : Option Int}
      (hpoint : send.point.awaitsResponse = true) (hstatus : 200 ≤ status ∧ status < 300) :
      SendResumed settings c send (.response status retryAfter) (c.deliver send)
  | unauthorized {retryAfter : Option Int} (hpoint : send.point = .post) :
      SendResumed settings c send (.response 401 retryAfter)
        ({ c with tokenCache := {}, sending := some { send with point := .invalidate } }, [])
  | refused {status : Nat} {retryAfter : Option Int} (hpoint : send.point = .post)
      (hstatus : status = 400 ∨ status = 413) :
      SendResumed settings c send (.response status retryAfter)
        (((c.removeFromQueue send.batch).forget send.batch).finish send [.reported send.batch])
  | abandoned {status : Nat} {retryAfter : Option Int} (hpoint : send.point = .post)
      (hstatus : ¬IsAccepted status ∧ status ≠ 401 ∧ status ≠ 400 ∧ status ≠ 413 ∧ status ≠ 429 ∧
        status < 500) :
      SendResumed settings c send (.response status retryAfter)
        ((c.removeFromQueue send.batch).finish send [.reported send.batch])
  | renewed {answer : Answer} (cache : TokenCache) (kept : Option String)
      (hpoint : send.point = .invalidate) :
      SendResumed settings c send answer
        ({ c with tokenCache := cache, sending := some { send with point := .retoken kept } }, [])
  /-- The error of `getToken` leaves `_sendBatch`. -/
  | escaped (hpoint : send.point = .invalidate) :
      SendResumed settings c send .error
        ({ c with sending := none }, (send.caller.map Output.failed).toList)

section Resume

variable {P : Type} {settings : Settings P} {c : Client P} {send : Sending P} {answer : Answer}
  {now : Int} {out : Effect P}

/-- A body that cannot be encoded fails where the request would be made. -/
theorem Client.resumed_post {token : String} {point : Point} (cache : TokenCache)
    (hpoint : send.point.awaitsResponse = false)
    (hposted : SendResumed settings c send answer
      ({ c with tokenCache := cache, sending := some { send with point := point } },
        [.sent token send.batch])) :
    SendResumed settings c send answer
      ({ c with tokenCache := cache }.post settings send token point) := by
  unfold post
  split
  · exact hposted
  · rename_i hall
    apply SendResumed.unsent cache hpoint
    right
    simpa using hall

theorem Client.resumed_onResponse {status : Nat} {retryAfter : Option Int}
    (hpoint : send.point = .post) :
    SendResumed settings c send (.response status retryAfter)
      (c.onResponse settings send status retryAfter) := by
  have hawaits : send.point.awaitsResponse = true := by rw [hpoint]; rfl
  unfold onResponse
  split
  · rename_i haccepted
    exact .succeeded hawaits (by omega)
  · rename_i haccepted
    have hfails : ∃ status' retryAfter', Answer.response status retryAfter =
        .response status' retryAfter' ∧ ¬IsAccepted status' := ⟨status, retryAfter, rfl, haccepted⟩
    split
    · rename_i hunauthorized
      subst hunauthorized
      exact .unauthorized hpoint
    · split
      · exact .refused hpoint ‹_›
      · split
        · exact .unavailable retryAfter hawaits (.inr hfails)
        · split
          · exact .unavailable none hawaits (.inr hfails)
          · -- Neither refused nor to be tried again.
            refine .abandoned hpoint ⟨haccepted, ?_⟩
            omega

theorem Client.sendResumed (h : c.trySend settings send answer now = some out) :
    SendResumed settings c send answer out := by
  unfold trySend at h
  cases hpoint : send.point with
  | token kept =>
    have hawaits : send.point.awaitsResponse = false := by rw [hpoint]; rfl
    rw [hpoint] at h
    cases kept with
    | some token =>
      cases answer with
      | goOn =>
        obtain rfl := Option.some.inj h
        exact resumed_post c.tokenCache hawaits (.posted token c.tokenCache hpoint)
      | _ => cases h
    | none =>
      cases answer with
      | token jwt =>
        obtain rfl := Option.some.inj h
        exact resumed_post _ hawaits (.posted jwt _ hpoint)
      | error =>
        obtain rfl := Option.some.inj h
        -- The token cannot be had, so nothing is posted.
        exact .unsent c.tokenCache hawaits (.inl rfl)
      | _ => cases h
  | post =>
    rw [hpoint] at h
    cases answer with
    | response status retryAfter =>
      obtain rfl := Option.some.inj h
      exact resumed_onResponse hpoint
    | error =>
      obtain rfl := Option.some.inj h
      exact .unavailable none (by rw [hpoint]; rfl) (.inl rfl)
    | _ => cases h
  | invalidate =>
    rw [hpoint] at h
    cases answer with
    | token jwt =>
      obtain rfl := Option.some.inj h
      exact .renewed _ _ hpoint
    | error =>
      obtain rfl := Option.some.inj h
      -- The error is outside of the try of `_trySend`.
      exact .escaped hpoint
    | _ => cases h
  | retoken kept =>
    have hawaits : send.point.awaitsResponse = false := by rw [hpoint]; rfl
    rw [hpoint] at h
    cases kept with
    | some token =>
      cases answer with
      | goOn =>
        obtain rfl := Option.some.inj h
        exact resumed_post c.tokenCache hawaits (.reposted token c.tokenCache hpoint)
      | _ => cases h
    | none =>
      cases answer with
      | token jwt =>
        obtain rfl := Option.some.inj h
        exact resumed_post _ hawaits (.reposted jwt _ hpoint)
      | error =>
        obtain rfl := Option.some.inj h
        exact .unsent c.tokenCache hawaits (.inl rfl)
      | _ => cases h
  | repost =>
    have hawaits : send.point.awaitsResponse = true := by rw [hpoint]; rfl
    rw [hpoint] at h
    cases answer with
    | response status retryAfter =>
      dsimp only at h
      split at h
      · obtain rfl := Option.some.inj h
        exact .succeeded hawaits ‹_›
      · rename_i hstatus
        obtain rfl := Option.some.inj h
        refine .unavailable none hawaits (.inr ⟨status, retryAfter, rfl, ?_⟩)
        unfold IsAccepted
        omega
    | error =>
      obtain rfl := Option.some.inj h
      exact .unavailable none hawaits (.inl rfl)
    | _ => cases h

end Resume

/-! ## The failures of a batch -/

/-- The event failed so often before that one more failure drops it. -/
def exhausted {P : Type} (maxRetries : Nat) (counts : BTreeMap String Nat)
    (event : DatacatEvent P) : Bool :=
  decide (maxRetries ≤ (counts.get event.eventId).getD 0)

/-- The counter of an event after a failure: none once the event is dropped. -/
def recount (maxRetries count : Nat) : Option Nat :=
  if maxRetries ≤ count then none else some (count + 1)

section Failures

variable {P : Type} {settings : Settings P} {send : Sending P} {delay : Option Int}

theorem Client.countFailure_eq (maxRetries : Nat) (counts : BTreeMap String Nat)
    (toRetry toDrop : List (DatacatEvent P)) (event : DatacatEvent P) :
    ∃ counts', countFailure maxRetries (counts, toRetry, toDrop) event =
        (counts', toRetry ++ [event].filter (fun e => !exhausted maxRetries counts e),
          toDrop ++ [event].filter (exhausted maxRetries counts)) ∧
      ∀ id, counts'.get id =
        if id = event.eventId then recount maxRetries ((counts.get id).getD 0)
        else counts.get id := by
  unfold countFailure exhausted recount
  dsimp only
  split
  · rename_i hlt
    have hle : maxRetries ≤ (counts.get event.eventId).getD 0 := by omega
    -- Too many failures: the event is dropped with its counter.
    refine ⟨counts.remove event.eventId, by simp [hle], ?_⟩
    intro id
    rw [BTreeMap.get_remove]
    split
    · rename_i hid
      rw [hid, if_pos hle]
    · rfl
  · rename_i hlt
    have hle : ¬maxRetries ≤ (counts.get event.eventId).getD 0 := by omega
    -- One more failure is counted.
    refine ⟨counts.insert event.eventId ((counts.get event.eventId).getD 0 + 1),
      by simp [hle], ?_⟩
    intro id
    rw [BTreeMap.get_insert]
    split
    · rename_i hid
      rw [hid, if_neg hle]
    · rfl

/-- The loop over a batch with one event for each id. -/
theorem Client.foldl_countFailure (maxRetries : Nat) {batch : List (DatacatEvent P)}
    (hnodup : (idsOf batch).Nodup) (counts : BTreeMap String Nat)
    (toRetry toDrop : List (DatacatEvent P)) :
    ∃ counts', batch.foldl (countFailure maxRetries) (counts, toRetry, toDrop) =
        (counts', toRetry ++ batch.filter (fun e => !exhausted maxRetries counts e),
          toDrop ++ batch.filter (exhausted maxRetries counts)) ∧
      ∀ id, counts'.get id =
        if id ∈ idsOf batch then recount maxRetries ((counts.get id).getD 0)
        else counts.get id := by
  induction batch generalizing counts toRetry toDrop with
  | nil => exact ⟨counts, by simp, by simp [idsOf]⟩
  | cons event batch ih =>
    obtain ⟨hfresh, hnodup⟩ : event.eventId ∉ idsOf batch ∧ (idsOf batch).Nodup :=
      List.nodup_cons.mp hnodup
    obtain ⟨counts₁, hone, hget₁⟩ := countFailure_eq maxRetries counts toRetry toDrop event
    obtain ⟨counts', hrest, hget⟩ := ih hnodup counts₁ _ _
    -- The counters of the other events are those from before.
    have hsame : ∀ e ∈ batch, exhausted maxRetries counts₁ e = exhausted maxRetries counts e := by
      intro e he
      have hne : e.eventId ≠ event.eventId := by
        intro heq
        apply hfresh
        rw [← heq]
        exact List.mem_map_of_mem he
      rw [exhausted, hget₁, if_neg hne, exhausted]
    refine ⟨counts', ?_, ?_⟩
    · have hretry : batch.filter (fun e => !exhausted maxRetries counts₁ e) =
          batch.filter (fun e => !exhausted maxRetries counts e) :=
        List.filter_congr fun e he => by rw [hsame e he]
      rw [List.foldl_cons, hone, hrest, hretry, List.filter_congr hsame, List.append_assoc,
        List.append_assoc, ← List.filter_append, ← List.filter_append]
      rfl
    · intro id
      rw [hget]
      by_cases hid : id = event.eventId
      · subst hid
        have hmem : event.eventId ∈ idsOf (event :: batch) := List.mem_cons_self ..
        rw [if_neg hfresh, hget₁, if_pos rfl, if_pos hmem]
      · have hmem : id ∈ idsOf (event :: batch) ↔ id ∈ idsOf batch := by
          simp [idsOf, hid]
        simp only [hmem, hget₁, if_neg hid]

/-- What a failure of the batch leaves: the exhausted events are dropped and reported, the others
stay in the queue with one more failure. -/
theorem Client.handleRetryableFailure_spec (hnodup : (idsOf send.batch).Nodup) (c : Client P) :
    ∃ counts delayedSends,
      let dropped := send.batch.filter (exhausted settings.maxRetries c.retryCount)
      c.handleRetryableFailure settings send delay =
          ({ c.removeFromQueue dropped with
              retryCount := counts, delayedSends := delayedSends, sending := none },
            (if dropped.isEmpty then [] else [.reported dropped]) ++ completion send.caller) ∧
        ∀ id, counts.get id =
          if id ∈ idsOf send.batch then
            recount settings.maxRetries ((c.retryCount.get id).getD 0)
          else c.retryCount.get id := by
  obtain ⟨counts, hfold, hget⟩ :=
    foldl_countFailure settings.maxRetries hnodup c.retryCount [] []
  unfold handleRetryableFailure
  rw [hfold]
  dsimp only [List.nil_append]
  generalize send.batch.filter (exhausted settings.maxRetries c.retryCount) = dropped
  generalize (delay.isSome && _) = later
  cases dropped with
  | nil =>
    -- Nothing is dropped, and the queue stays as it is.
    have hqueue : c.queue.filter (fun e => !(idsOf ([] : List (DatacatEvent P))).contains e.eventId)
        = c.queue := by simp [idsOf]
    unfold finish removeFromQueue
    rw [hqueue]
    cases later with
    | false => exact ⟨counts, _, rfl, hget⟩
    | true => exact ⟨counts, _, rfl, hget⟩
  | cons event dropped =>
    cases later with
    | false => exact ⟨counts, _, rfl, hget⟩
    | true => exact ⟨counts, _, rfl, hget⟩

/-- Whatever the batch is, a failure only takes events out of the queue and reports some. -/
theorem Client.handleRetryableFailure_frame (settings : Settings P) (send : Sending P)
    (delay : Option Int) (c : Client P) :
    ∃ queue counts delayedSends toDrop, queue.Sublist c.queue ∧
      c.handleRetryableFailure settings send delay =
        ({ c with
            queue := queue, retryCount := counts, delayedSends := delayedSends, sending := none },
          (if toDrop.isEmpty then [] else [.reported toDrop]) ++ completion send.caller) := by
  unfold handleRetryableFailure
  obtain ⟨counts, toRetry, toDrop⟩ :=
    send.batch.foldl (countFailure settings.maxRetries) (c.retryCount, [], [])
  dsimp only
  generalize (delay.isSome && _) = later
  cases toDrop with
  | nil =>
    cases later with
    | false => exact ⟨c.queue, counts, _, [], List.Sublist.refl _, rfl⟩
    | true => exact ⟨c.queue, counts, _, [], List.Sublist.refl _, rfl⟩
  | cons event dropped =>
    cases later with
    | false => exact ⟨_, counts, _, event :: dropped, List.filter_sublist, rfl⟩
    | true => exact ⟨_, counts, _, event :: dropped, List.filter_sublist, rfl⟩

end Failures

/-! ## Places of the events -/

section Places

variable {P : Type}

/-- The id of the event that waits for the session. -/
def Waiting.ids : Waiting P → List String
  | .track deferred => [deferred.eventId]
  | .flush _ => []
  | .dispose _ => []

/-- The ids of the events that wait for the session. -/
def Client.deferredIds (c : Client P) : List String := c.waiting.flatMap Waiting.ids

/-- The ids of the events of the queue. -/
def Client.queueIds (c : Client P) : List String := idsOf c.queue

/-- The batch that is sent. -/
def Client.inFlight (c : Client P) : List (DatacatEvent P) :=
  match c.sending with
  | some send => send.batch
  | none => []

def Client.flightIds (c : Client P) : List String := idsOf c.inFlight

theorem Client.inFlight_of_some {c : Client P} {send : Sending P} (h : c.sending = some send) :
    c.inFlight = send.batch := by
  rw [inFlight, h]

theorem Client.flightIds_of_some {c : Client P} {send : Sending P} (h : c.sending = some send) :
    c.flightIds = idsOf send.batch := by
  rw [flightIds, inFlight_of_some h]

theorem Client.flightIds_of_none {c : Client P} (h : c.sending = none) : c.flightIds = [] := by
  rw [flightIds, inFlight, h]
  rfl

/-- The queue, the batch that is sent and the counters are those of before. -/
structure Agrees (c c' : Client P) : Prop where
  queue : c'.queue = c.queue
  sending : c'.sending = c.sending
  retryCount : c'.retryCount = c.retryCount

theorem Agrees.flightIds {c c' : Client P} (h : Agrees c c') : c'.flightIds = c.flightIds := by
  rw [Client.flightIds, Client.flightIds, Client.inFlight, Client.inFlight, h.sending]

/-- The calls that wait, and how far the session and the disposal are, are those of before. -/
structure SameCalls (c c' : Client P) : Prop where
  waiting : c'.waiting = c.waiting
  session : c'.session = c.session
  delayedDisposals : c'.delayedDisposals = c.delayedDisposals
  disposing : c'.disposing = c.disposing
  disposed : c'.disposed = c.disposed
  calls : c'.calls = c.calls

/-- The output tells nothing of an event. -/
def Output.Quiet : Output P → Prop
  | .completed _ => True
  | .failed _ => True
  | .threw => True
  | .reported events => events = []
  | _ => False

end Places

/-! ## How an event enters -/

section Enter

variable {P : Type} {settings : Settings P} {c : Client P} {event : DatacatEvent P}
  {caller : Option Nat} {now : Int}

/-- Nothing happens, or the first events of the queue are sent. -/
inductive MayStart (settings : Settings P) (c : Client P) : Client P → Prop where
  | idle : MayStart settings c c
  | started (hsending : c.sending = none) (kept : Option String) (caller : Option Nat) :
      MayStart settings c
        { c with sending := some ⟨c.queue.take settings.batchSize, .token kept, caller⟩ }

/-- What `_enqueue` does. -/
inductive Entered (settings : Settings P) (event : DatacatEvent P) (c : Client P) :
    Effect P → Prop where
  | threw (hfull : settings.maxQueueSize = 0) (hqueue : c.queue = []) :
      Entered settings event c (c, [.threw])
  | dropped {oldest : DatacatEvent P} {rest : List (DatacatEvent P)} {c' : Client P}
      (hfull : settings.maxQueueSize ≤ c.queue.length) (hqueue : c.queue = oldest :: rest)
      (h : MayStart settings
        { c with queue := rest ++ [event], retryCount := c.retryCount.remove oldest.eventId } c') :
      Entered settings event c (c', [.reported [oldest]])
  | added {c' : Client P} (h : MayStart settings { c with queue := c.queue ++ [event] } c') :
      Entered settings event c (c', [])

theorem quiet_completion (caller : Option Nat) :
    ∀ o ∈ (completion caller : List (Output P)), o.Quiet := by
  intro o ho
  obtain ⟨call, -, rfl⟩ := Option.map_eq_some_iff.mp (Option.mem_toList.mp ho)
  trivial

theorem Client.mayStart_sendBatch (settings : Settings P) (caller : Option Nat) (now : Int)
    (c : Client P) :
    MayStart settings c (c.sendBatch settings caller now).1 ∧
      (∀ o ∈ (c.sendBatch settings caller now).2, o.Quiet) ∧
      (caller = none → (c.sendBatch settings caller now).2 = []) := by
  unfold sendBatch
  split
  · refine ⟨.idle, quiet_completion caller, ?_⟩
    rintro rfl
    rfl
  · rename_i hidle
    have hsending : c.sending = none := by
      cases hsending : c.sending with
      | none => rfl
      | some send => exact absurd (by simp [flushing, hsending]) hidle
    exact ⟨.started hsending _ caller, List.forall_mem_nil _, fun _ => rfl⟩

theorem Client.mayStart_add (settings : Settings P) (event : DatacatEvent P) (now : Int)
    (c : Client P) :
    MayStart settings { c with queue := c.queue ++ [event] } (c.add settings event now).1 ∧
      (c.add settings event now).2 = [] := by
  unfold add
  dsimp only
  split
  · obtain ⟨hstart, -, houtputs⟩ :=
      mayStart_sendBatch settings none now { c with queue := c.queue ++ [event] }
    exact ⟨hstart, houtputs rfl⟩
  · exact ⟨.idle, rfl⟩

theorem Client.entered (settings : Settings P) (event : DatacatEvent P) (now : Int)
    (c : Client P) : Entered settings event c (c.enqueue settings event now) := by
  unfold enqueue
  split
  · rename_i hfull
    split
    · rename_i hqueue
      rw [hqueue] at hfull
      exact .threw (Nat.le_zero.mp hfull) hqueue
    · rename_i oldest rest hqueue
      obtain ⟨hstart, houtputs⟩ := mayStart_add settings event now
        { c with queue := rest, retryCount := c.retryCount.remove oldest.eventId }
      dsimp only
      rw [houtputs]
      exact .dropped hfull hqueue hstart
  · obtain ⟨hstart, houtputs⟩ := mayStart_add settings event now c
    have hpair : c.add settings event now = ((c.add settings event now).1, []) :=
      Prod.ext rfl houtputs
    rw [hpair]
    exact .added hstart

end Enter

/-! ## What a step does -/

section Steps

variable {P : Type} {settings : Settings P} {c : Client P} {input : Input P} {out : Effect P}

/-- The step calls `_enqueue`. -/
def Enters (c : Client P) : Input P → Prop
  | .track _ _ _ _ _ =>
    c.disposed = false ∧ c.disposing = false ∧
      (∃ actorId, c.currentActorId = some actorId ∧ actorId.isEmpty = false) ∧ c.session.id ≠ none
  | .sessionGoesOn _ =>
    c.disposed = false ∧ (∃ id, c.session = .ready id) ∧
      ∃ deferred, c.waiting.head? = some (.track deferred)
  | _ => False

/-- The session that a deferred event waits for has failed, or the client is disposed. -/
def LosesDeferred (c : Client P) : Input P → Prop
  | .sessionGoesOn _ =>
    (c.disposed = true ∨ ∃ id, c.session = .failed id) ∧
      ∃ deferred, c.waiting.head? = some (.track deferred)
  | _ => False

/-- What a step does to the events. -/
inductive Stepped (settings : Settings P) (c : Client P) : Input P → Effect P → Prop where
  | quiet {input : Input P} {out : Effect P} (h : Agrees c out.1)
      (hdeferred : out.1.deferredIds = c.deferredIds) (houtputs : ∀ o ∈ out.2, o.Quiet) :
      Stepped settings c input out
  | deferred {input : Input P} {c' : Client P} {id : String} (h : Agrees c c')
      (hdeferred : c'.deferredIds = c.deferredIds ++ [id]) :
      Stepped settings c input (c', [.tracked id])
  | lost {input : Input P} {c' : Client P} {id : String} (hloses : LosesDeferred c input)
      (h : Agrees c c') (hdeferred : c.deferredIds = id :: c'.deferredIds) :
      Stepped settings c input (c', [])
  | tracked {input : Input P} {event : DatacatEvent P} {entered : Effect P}
      (henters : Enters c input) (h : Entered settings event c entered)
      (hdeferred : entered.1.deferredIds = c.deferredIds) :
      Stepped settings c input (entered.1, .tracked event.eventId :: entered.2)
  | undeferred {input : Input P} {event : DatacatEvent P} {out : Effect P} (c₀ : Client P)
      (henters : Enters c input) (hagrees : Agrees c c₀) (h : Entered settings event c₀ out)
      (hdeferred : c.deferredIds = event.eventId :: out.1.deferredIds) :
      Stepped settings c input out
  | started {input : Input P} {out : Effect P} (c₀ : Client P) (hagrees : Agrees c c₀)
      (h : MayStart settings c₀ out.1) (hdeferred : out.1.deferredIds = c.deferredIds)
      (houtputs : ∀ o ∈ out.2, o.Quiet) : Stepped settings c input out
  | resumed {send : Sending P} {answer : Answer} {now : Int} {out : Effect P}
      (hsending : c.sending = some send) (h : SendResumed settings c send answer out) :
      Stepped settings c (.resume answer now) out

theorem Agrees.refl (c : Client P) : Agrees c c := ⟨rfl, rfl, rfl⟩

theorem MayStart.sameCalls {c' : Client P} (h : MayStart settings c c') : SameCalls c c' := by
  cases h with
  | idle => exact ⟨rfl, rfl, rfl, rfl, rfl, rfl⟩
  | started hsending kept caller => exact ⟨rfl, rfl, rfl, rfl, rfl, rfl⟩

theorem Entered.sameCalls {event : DatacatEvent P} (h : Entered settings event c out) :
    SameCalls c out.1 := by
  cases h with
  | threw hfull hqueue => exact ⟨rfl, rfl, rfl, rfl, rfl, rfl⟩
  | dropped hfull hqueue h =>
    obtain ⟨hw, hs, hdelayed, hdisposing, hdisposed, hcalls⟩ := h.sameCalls
    exact ⟨hw, hs, hdelayed, hdisposing, hdisposed, hcalls⟩
  | added h =>
    obtain ⟨hw, hs, hdelayed, hdisposing, hdisposed, hcalls⟩ := h.sameCalls
    exact ⟨hw, hs, hdelayed, hdisposing, hdisposed, hcalls⟩

theorem SendResumed.sameCalls {send : Sending P} {answer : Answer}
    (h : SendResumed settings c send answer out) : SameCalls c out.1 := by
  cases h with
  | unsent cache hpoint h =>
    obtain ⟨queue, counts, delayedSends, toDrop, -, hout⟩ :=
      Client.handleRetryableFailure_frame settings send none { c with tokenCache := cache }
    rw [hout]
    exact ⟨rfl, rfl, rfl, rfl, rfl, rfl⟩
  | unavailable delay hpoint h =>
    obtain ⟨queue, counts, delayedSends, toDrop, -, hout⟩ :=
      Client.handleRetryableFailure_frame settings send delay c
    rw [hout]
    exact ⟨rfl, rfl, rfl, rfl, rfl, rfl⟩
  | _ => exact ⟨rfl, rfl, rfl, rfl, rfl, rfl⟩

theorem Client.deferredIds_congr {c c' : Client P} (h : c'.waiting = c.waiting) :
    c'.deferredIds = c.deferredIds := by
  rw [deferredIds, deferredIds, h]

theorem Client.deferredIds_append (c : Client P) (w : Waiting P) :
    { c with waiting := c.waiting ++ [w] }.deferredIds = c.deferredIds ++ w.ids := by
  simp [deferredIds]

/-- `_flushInternal` starts a send, or does nothing. -/
theorem Client.mayStart_flushInternal (settings : Settings P) (call : Nat) (now : Int)
    (c : Client P) :
    MayStart settings c (c.flushInternal settings call now).1 ∧
      ∀ o ∈ (c.flushInternal settings call now).2, o.Quiet := by
  unfold flushInternal
  split
  · exact ⟨.idle, quiet_completion (some call)⟩
  · obtain ⟨hstart, houtputs, -⟩ := mayStart_sendBatch settings (some call) now c
    exact ⟨hstart, houtputs⟩

/-- How what awaited `_sessionReady` goes on, when it is taken out of what waits. -/
inductive WentOn (settings : Settings P) (now : Int) (c : Client P) :
    Waiting P → Effect P → Prop where
  | entered {deferred : Deferred P} {sessionId : String} (hsession : c.session = .ready sessionId)
      (hopen : c.disposed = false) :
      WentOn settings now c (.track deferred) (c.enqueue settings (deferred.event sessionId) now)
  | lost {deferred : Deferred P} (hloses : c.disposed = true ∨ ∃ id, c.session = .failed id) :
      WentOn settings now c (.track deferred) (c, [])
  | flushed {call : Nat} :
      WentOn settings now c (.flush call) (c.flushInternal settings call now)
  | delayed {call : Nat} :
      WentOn settings now c (.dispose call)
        ({ c with delayedDisposals := c.delayedDisposals ++ [call] }, [])
  | failed {w : Waiting P} {call : Nat} (hcall : w = .flush call ∨ w = .dispose call)
      (hsession : ∃ id, c.session = .failed id) : WentOn settings now c w (c, [.failed call])

/-! A step that is no call, one lemma for each: how it moves the client. -/

theorem Client.step_sessionRead {stored : Option String} {fresh : String}
    (h : c.step settings (.sessionRead stored fresh) = some out) :
    ∃ session, out = ({ c with session := session }, []) := by
  dsimp only [step] at h
  split at h
  · split at h
    · split at h
      · exact ⟨_, (Option.some.inj h).symm⟩
      · exact ⟨_, (Option.some.inj h).symm⟩
    · exact ⟨_, (Option.some.inj h).symm⟩
  · cases h

theorem Client.step_sessionWritten (h : c.step settings .sessionWritten = some out) :
    ∃ session, out = ({ c with session := session }, []) := by
  dsimp only [step] at h
  split at h
  · exact ⟨_, (Option.some.inj h).symm⟩
  · cases h

theorem Client.step_sessionFails (h : c.step settings .sessionFails = some out) :
    ∃ session, out = ({ c with session := session }, []) := by
  dsimp only [step] at h
  split at h
  · exact ⟨_, (Option.some.inj h).symm⟩
  · exact ⟨_, (Option.some.inj h).symm⟩
  · cases h

theorem Client.step_sessionGoesOn {now : Int}
    (h : c.step settings (.sessionGoesOn now) = some out) :
    ∃ first rest, c.waiting = first :: rest ∧
      WentOn settings now { c with waiting := rest } first out := by
  dsimp only [step] at h
  split at h
  · cases h
  · rename_i first rest hwaiting
    refine ⟨first, rest, hwaiting, ?_⟩
    unfold onSession at h
    split at h
    · split at h
      · rename_i hsession
        split at h
        · obtain rfl := Option.some.inj h
          -- Disposed in the meantime: `_trackNow` drops the event.
          exact .lost (.inl ‹_›)
        · obtain rfl := Option.some.inj h
          exact .entered hsession (Bool.eq_false_iff.mpr ‹_›)
      · obtain rfl := Option.some.inj h
        exact .lost (.inr ⟨_, ‹_›⟩)
      · cases h
    · split at h
      · obtain rfl := Option.some.inj h
        exact .flushed
      · obtain rfl := Option.some.inj h
        exact .failed (.inl rfl) ⟨_, ‹_›⟩
      · cases h
    · split at h
      · obtain rfl := Option.some.inj h
        exact .delayed
      · obtain rfl := Option.some.inj h
        exact .failed (.inr rfl) ⟨_, ‹_›⟩
      · cases h

theorem Client.step_disposalGoesOn {now : Int}
    (h : c.step settings (.disposalGoesOn now) = some out) :
    ∃ call rest, c.delayedDisposals = call :: rest ∧
      out =
        { c with delayedDisposals := rest, disposed := true }.flushInternal settings call now := by
  dsimp only [step] at h
  split at h
  · cases h
  · exact ⟨_, _, ‹_›, (Option.some.inj h).symm⟩

theorem Client.step_tick {now : Int} (h : c.step settings (.tick now) = some out) :
    out = (c, []) ∨ out = c.sendBatch settings none now := by
  dsimp only [step] at h
  split at h
  · split at h
    · exact .inr (Option.some.inj h).symm
    · exact .inl (Option.some.inj h).symm
  · cases h

theorem Client.step_retryAfter {now : Int} (h : c.step settings (.retryAfter now) = some out) :
    ∃ rest, out = ({ c with delayedSends := rest }, []) ∨
      out = { c with delayedSends := rest }.sendBatch settings none now := by
  dsimp only [step] at h
  split at h
  · cases h
  · split at h
    · exact ⟨_, .inl (Option.some.inj h).symm⟩
    · exact ⟨_, .inr (Option.some.inj h).symm⟩

theorem Client.step_resume {answer : Answer} {now : Int}
    (h : c.step settings (.resume answer now) = some out) :
    ∃ send, c.sending = some send ∧ SendResumed settings c send answer out := by
  dsimp only [step] at h
  split at h
  · cases h
  · exact ⟨_, ‹_›, sendResumed h⟩

theorem Client.stepped_track (settings : Settings P) (eventName : String) (properties : P)
    (eventId timestampClient : String) (now : Int) (c : Client P) :
    Stepped settings c (.track eventName properties eventId timestampClient now)
      (c.track settings eventName properties eventId timestampClient now) := by
  have hrefused : Stepped settings c (.track eventName properties eventId timestampClient now)
      (c, [.reported []]) := by
    refine .quiet (Agrees.refl c) rfl ?_
    intro o ho
    rw [List.mem_singleton.mp ho]
    rfl
  unfold track
  split
  · exact .quiet (Agrees.refl c) rfl (List.forall_mem_nil _)
  · rename_i hopen
    split
    · exact hrefused
    · rename_i actorId hactor
      split
      · exact hrefused
      · rename_i hnonempty
        dsimp only
        split
        · -- the session is not known yet
          exact .deferred ⟨rfl, rfl, rfl⟩ (deferredIds_append c (.track _))
        · rename_i sessionId hsession
          have hentered := entered settings (Deferred.event ⟨eventId, eventName, actorId,
            timestampClient, properties, c.currentTenantId⟩ sessionId) now c
          -- The client is open, it has an actor and the session is known.
          have henters : Enters c
              (.track eventName properties eventId timestampClient now) := by
            refine ⟨?_, ?_, ⟨actorId, hactor, Bool.eq_false_iff.mpr hnonempty⟩, ?_⟩
            · exact Bool.eq_false_iff.mpr fun h => hopen (by simp [h])
            · exact Bool.eq_false_iff.mpr fun h => hopen (by simp [h])
            · rw [hsession]
              exact Option.some_ne_none sessionId
          exact .tracked henters hentered (deferredIds_congr hentered.sameCalls.waiting)

/-- The first call that waits for the session goes on. -/
theorem Client.stepped_sessionGoesOn {now : Int}
    (h : c.step settings (.sessionGoesOn now) = some out) :
    Stepped settings c (.sessionGoesOn now) out := by
  obtain ⟨first, rest, hwaiting, hwent⟩ := step_sessionGoesOn h
  have hdeferred : c.deferredIds = first.ids ++ rest.flatMap Waiting.ids := by
    rw [deferredIds, hwaiting, List.flatMap_cons]
  have hhead : c.waiting.head? = some first := by rw [hwaiting]; rfl
  cases hwent with
  | @entered deferred sessionId hsession hopen =>
    have hentered := entered settings (deferred.event sessionId) now { c with waiting := rest }
    have henters : Enters c (.sessionGoesOn now) :=
      ⟨hopen, ⟨sessionId, hsession⟩, deferred, hhead⟩
    refine .undeferred { c with waiting := rest } henters ⟨rfl, rfl, rfl⟩ hentered ?_
    rw [deferredIds_congr hentered.sameCalls.waiting]
    exact hdeferred
  | @lost deferred hloses => exact .lost ⟨hloses, deferred, hhead⟩ ⟨rfl, rfl, rfl⟩ hdeferred
  | @flushed call =>
    obtain ⟨hstart, houtputs⟩ := mayStart_flushInternal settings call now { c with waiting := rest }
    refine .started { c with waiting := rest } ⟨rfl, rfl, rfl⟩ hstart ?_ houtputs
    rw [deferredIds_congr hstart.sameCalls.waiting]
    exact hdeferred.symm
  | delayed => exact .quiet ⟨rfl, rfl, rfl⟩ hdeferred.symm (List.forall_mem_nil _)
  | failed hcall hsession =>
    refine .quiet ⟨rfl, rfl, rfl⟩ ?_ (by simp [Output.Quiet])
    obtain rfl | rfl := hcall
    · exact hdeferred.symm
    · exact hdeferred.symm

/-- One case for each thing that a step does to the events. -/
theorem Client.stepped (h : c.step settings input = some out) :
    Stepped settings c input out := by
  have hsame {c' : Client P} (hagrees : Agrees c c')
      (hdeferred : c'.deferredIds = c.deferredIds) : Stepped settings c input (c', []) :=
    .quiet hagrees hdeferred (List.forall_mem_nil _)
  cases input with
  | identify actorId tenantId =>
    obtain rfl := Option.some.inj h
    exact hsame ⟨rfl, rfl, rfl⟩ rfl
  | track eventName properties eventId timestampClient now =>
    obtain rfl := Option.some.inj h
    exact stepped_track settings eventName properties eventId timestampClient now c
  | flush =>
    obtain rfl := Option.some.inj h
    unfold flush
    split
    · exact .quiet ⟨rfl, rfl, rfl⟩ rfl (by simp [Output.Quiet])
    · -- The call waits behind the events, and is none itself.
      refine hsame ⟨rfl, rfl, rfl⟩ ?_
      exact (deferredIds_append c _).trans (List.append_nil _)
  | dispose =>
    obtain rfl := Option.some.inj h
    unfold dispose
    split
    · exact .quiet ⟨rfl, rfl, rfl⟩ rfl (by simp [Output.Quiet])
    · refine hsame ⟨rfl, rfl, rfl⟩ ?_
      exact (deferredIds_append c _).trans (List.append_nil _)
  | sessionRead stored fresh =>
    obtain ⟨session, rfl⟩ := step_sessionRead h
    exact hsame ⟨rfl, rfl, rfl⟩ rfl
  | sessionWritten =>
    obtain ⟨session, rfl⟩ := step_sessionWritten h
    exact hsame ⟨rfl, rfl, rfl⟩ rfl
  | sessionFails =>
    obtain ⟨session, rfl⟩ := step_sessionFails h
    exact hsame ⟨rfl, rfl, rfl⟩ rfl
  | sessionGoesOn now => exact stepped_sessionGoesOn h
  | disposalGoesOn now =>
    obtain ⟨call, rest, -, rfl⟩ := step_disposalGoesOn h
    obtain ⟨hstart, houtputs⟩ := mayStart_flushInternal settings call now
      { c with delayedDisposals := rest, disposed := true }
    exact .started { c with delayedDisposals := rest, disposed := true } ⟨rfl, rfl, rfl⟩ hstart
      (deferredIds_congr hstart.sameCalls.waiting) houtputs
  | tick now =>
    obtain rfl | rfl := step_tick h
    · exact hsame ⟨rfl, rfl, rfl⟩ rfl
    · obtain ⟨hstart, houtputs, -⟩ := mayStart_sendBatch settings none now c
      exact .started c (Agrees.refl c) hstart (deferredIds_congr hstart.sameCalls.waiting) houtputs
  | retryAfter now =>
    obtain ⟨rest, rfl | rfl⟩ := step_retryAfter h
    · exact hsame ⟨rfl, rfl, rfl⟩ rfl
    · obtain ⟨hstart, houtputs, -⟩ :=
        mayStart_sendBatch settings none now { c with delayedSends := rest }
      exact .started { c with delayedSends := rest } ⟨rfl, rfl, rfl⟩ hstart
        (deferredIds_congr hstart.sameCalls.waiting) houtputs
  | resume answer now =>
    obtain ⟨send, hsending, hsend⟩ := step_resume h
    exact .resumed hsending hsend

end Steps

end Datacat.Sdk.Flutter
