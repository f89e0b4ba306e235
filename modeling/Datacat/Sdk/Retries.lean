import Datacat.Sdk.Identity

/-!
# Retries

A failed send counts in the item of every event of its batch. The item waits in the schedule for the
next send, until its count reaches `maxRetries`; then the event is reported. The requests that have
an event are its attempts.

## Main results

- `Client.Counted.step`: the counts of an event follow its attempts.
- `reported_iff_attempts`: a failed send reports the event when it was attempted
  `max 1 maxRetries` times.
-/

namespace Datacat.Sdk

open Basics

variable {P : Type}

/-! ## Attempts -/

def Output.attempts (id : String) : Output P → Nat
  | .sent request => if id ∈ idsOf request.events then 1 else 0
  | _ => 0

/-- How many requests had the event. -/
def attempts (id : String) (outputs : List (Output P)) : Nat :=
  (outputs.map (Output.attempts id)).sum

def Output.reportedIds : Output P → List String
  | .reported events => idsOf events
  | _ => []

def reportedIds (outputs : List (Output P)) : List String := outputs.flatMap Output.reportedIds

/-- A 5xx or a network error. -/
def Answer.isRetryable : Answer → Bool
  | .rejection => true
  | .response status _ => decide (500 ≤ status) && decide (status ≤ 599)
  | .goOn => false

/-- A request of `sendBatch` is under way. -/
def Task.awaitsResponse : Task P → Bool
  | .flush _ (.fetch _) => true
  | .flush _ (.refetch _) => true
  | _ => false

/-- The call sends the event, and awaits the response. -/
def Task.Sends (id : String) (t : Task P) : Prop := t.awaitsResponse = true ∧ id ∈ idsOf t.events

instance (id : String) (t : Task P) : Decidable (t.Sends id) :=
  inferInstanceAs (Decidable (_ ∧ _))

/-- A send of the event ends. -/
def Answers (id : String) (c : Client P) : Input P → Prop
  | .resume task _ _ _ => ∃ t ∈ c.tasks[task]?, t.Sends id
  | _ => False

/-- A send of the event that ends has failed. -/
def FailsFor (id : String) (c : Client P) : Input P → Prop
  | .resume task answer _ _ => ∀ t ∈ c.tasks[task]?, t.Sends id → answer.isRetryable = true
  | _ => True

instance (id : String) (c : Client P) : (input : Input P) → Decidable (FailsFor id c input)
  | .resume task answer _ _ =>
    inferInstanceAs (Decidable (∀ t ∈ c.tasks[task]?, _ → answer.isRetryable = true))
  | .identify _ _ => .isTrue trivial
  | .track _ _ _ _ => .isTrue trivial
  | .flush _ => .isTrue trivial
  | .tick _ => .isTrue trivial
  | .pageHidden _ => .isTrue trivial
  | .shutdown _ => .isTrue trivial
  | .tokenAnswer _ => .isTrue trivial

section Outputs

@[simp] theorem attempts_nil (id : String) : attempts id ([] : List (Output P)) = 0 := rfl

@[simp] theorem attempts_cons (id : String) (o : Output P) (outputs : List (Output P)) :
    attempts id (o :: outputs) = o.attempts id + attempts id outputs := by
  simp [attempts]

theorem attempts_append (id : String) (first second : List (Output P)) :
    attempts id (first ++ second) = attempts id first + attempts id second := by
  simp [attempts]

/-- Only a request is an attempt. -/
theorem exists_sent_of_attempts {id : String} {outputs : List (Output P)}
    (h : attempts id outputs ≠ 0) :
    ∃ request, .sent request ∈ outputs ∧ id ∈ idsOf request.events := by
  obtain ⟨n, hn, hne⟩ : ∃ n ∈ outputs.map (Output.attempts id), n ≠ 0 := by
    by_contra hnone
    push Not at hnone
    exact h (List.sum_eq_zero hnone)
  obtain ⟨o, ho, rfl⟩ := List.mem_map.mp hn
  cases o with
  | sent request =>
    refine ⟨request, ho, ?_⟩
    by_contra hid
    exact hne (if_neg hid)
  | _ => exact absurd rfl hne

end Outputs

/-! ## Counted items -/

/-- The items of the event count `n` attempts with those under way, and the event may be sent. -/
def CountedItems (maxRetries : Nat) (id : String) (pending n : Nat)
    (items : List (QueuedEvent P)) : Prop :=
  ∀ i ∈ items, i.event.eventId = id →
    i.retryCount + pending = n ∧ (i.retryCount = 0 ∨ i.retryCount < maxRetries)

namespace CountedItems

variable {maxRetries : Nat} {id : String} {pending n : Nat} {first second : List (QueuedEvent P)}

theorem of_absent (h : id ∉ idsOf (eventsOf first)) :
    CountedItems maxRetries id pending n first := by
  intro i hi hid
  refine absurd ?_ h
  rw [← hid]
  exact List.mem_map_of_mem (List.mem_map_of_mem hi)

theorem subset (h : CountedItems maxRetries id pending n first) (hsub : second ⊆ first) :
    CountedItems maxRetries id pending n second :=
  fun i hi => h i (hsub hi)

theorem append (h : CountedItems maxRetries id pending n first)
    (h' : CountedItems maxRetries id pending n second) :
    CountedItems maxRetries id pending n (first ++ second) := by
  intro i hi
  rcases List.mem_append.mp hi with hi | hi
  · exact h i hi
  · exact h' i hi

end CountedItems

/-- The batch that a flush holds is counted. After a 401 and after a refusal it has no event that
only fails. -/
def Point.Counted (maxRetries : Nat) (id : String) (n : Nat) : Point P → Prop
  | .token items _ _ => CountedItems maxRetries id 0 n items
  | .fetch items => CountedItems maxRetries id 1 n items
  | .refresh items _ => id ∉ idsOf (eventsOf items)
  | .refetch items => id ∉ idsOf (eventsOf items)
  | .text items => id ∉ idsOf (eventsOf items)
  | .next => True
  | .settled => True

/-- A beacon is the last send of its events, whatever comes of it. -/
def Task.Counted (maxRetries : Nat) (id : String) (n : Nat) : Task P → Prop
  | .flush _ point => point.Counted maxRetries id n
  | .beaconToken _ _ => True
  | .beaconFetch _ _ => True

theorem Task.Counted.of_absent {maxRetries : Nat} {id : String} {t : Task P} (n : Nat)
    (h : id ∉ idsOf t.events) : t.Counted maxRetries id n := by
  cases t with
  | flush scheduled point =>
    cases point with
    | token items nonempty promise => exact CountedItems.of_absent h
    | fetch items => exact CountedItems.of_absent h
    | refresh items promise => exact h
    | refetch items => exact h
    | text items => exact h
    | next => trivial
    | settled => trivial
  | beaconToken items promise => trivial
  | beaconFetch items token => trivial

/-- The event was attempted `n` times: so its items say wherever they are. -/
structure Client.Counted (maxRetries : Nat) (id : String) (n : Nat) (c : Client P) : Prop where
  queue : CountedItems maxRetries id 0 n c.queue
  tasks : ∀ t ∈ c.tasks, t.Counted maxRetries id n
  schedule : ∀ item ∈ c.retrySchedule, CountedItems maxRetries id 0 n item.items

/-! ## Counts and steps -/

namespace Client.Counted

variable {settings : Settings P} {maxRetries : Nat} {id : String} {n : Nat} {c c' : Client P}
  {items : List (QueuedEvent P)} {now : Int} {scheduled : Bool} {out : Effect P}

/-- An event that is nowhere has no counts. -/
theorem of_absent (h : id ∉ c.held.map DatacatEvent.eventId) (n : Nat) :
    c.Counted maxRetries id n := by
  have habsent {events : List (DatacatEvent P)}
      (hle : (events : Multiset (DatacatEvent P)) ≤ c.held) : id ∉ idsOf events :=
    fun hid => h (Multiset.mem_of_le (Multiset.map_le_map hle) hid)
  have hplaces {place : List (DatacatEvent P)} (hplace : place ∈ c.places) :
      (place : Multiset (DatacatEvent P)) ≤ c.held := by
    rw [← coe_places]
    exact (List.sublist_flatten_of_mem hplace).subperm
  refine ⟨?_, ?_, ?_⟩
  · exact .of_absent (habsent (hplaces (List.mem_cons_self ..)))
  · intro t ht
    apply Task.Counted.of_absent n
    apply habsent (hplaces _)
    exact List.mem_cons_of_mem _ (List.mem_append_left _ (List.mem_map_of_mem ht))
  · intro item hitem
    apply CountedItems.of_absent
    apply habsent (hplaces _)
    exact List.mem_cons_of_mem _ (List.mem_append_right _ (List.mem_map_of_mem hitem))

theorem suspend {task : Task P} (h : c.Counted maxRetries id n)
    (htask : task.Counted maxRetries id n) : (c.suspend task).Counted maxRetries id n where
  queue := h.queue
  tasks t ht := by
    rcases List.mem_append.mp ht with ht | ht
    · exact h.tasks t ht
    · rw [List.mem_singleton.mp ht]
      exact htask
  schedule := h.schedule

theorem eraseIdx (h : c.Counted maxRetries id n) (i : Nat) :
    { c with tasks := c.tasks.eraseIdx i }.Counted maxRetries id n :=
  ⟨h.queue, fun t ht => h.tasks t (List.mem_of_mem_eraseIdx ht), h.schedule⟩

theorem requeue {due : List (RetryItem P)} {queue : List (QueuedEvent P)}
    (hdue : ∀ item ∈ due, CountedItems maxRetries id 0 n item.items)
    (hqueue : CountedItems maxRetries id 0 n queue) :
    CountedItems maxRetries id 0 n (due.foldl (fun queue item => item.items ++ queue) queue) := by
  induction due generalizing queue with
  | nil => exact hqueue
  | cons item due ih =>
    apply ih (fun other hother => hdue other (List.mem_cons_of_mem _ hother))
    exact (hdue item (List.mem_cons_self ..)).append hqueue

theorem drainDueRetries (h : c.Counted maxRetries id n) (now : Int) :
    (c.drainDueRetries now).Counted maxRetries id n where
  queue := requeue (fun item hitem => h.schedule item (List.mem_of_mem_filter hitem)) h.queue
  tasks := h.tasks
  schedule item hitem := h.schedule item (List.mem_of_mem_filter hitem)

theorem flushLoop (h : c.Counted maxRetries id n) (settings : Settings P) (scheduled : Bool)
    (now : Int) : (c.flushLoop settings scheduled now).Counted maxRetries id n := by
  have hrest (tokens : TokenManager) :
      { c with
        queue := c.queue.drop (dequeueCount settings.batchSize c.queue.length)
        tokens := tokens }.Counted maxRetries id n :=
    ⟨h.queue.subset (List.drop_subset _ _), h.tasks, h.schedule⟩
  unfold Client.flushLoop
  split
  · exact h.suspend trivial
  · dsimp only
    split
    · exact (hrest c.tokens).suspend trivial
    · apply (hrest _).suspend
      exact h.queue.subset (List.take_subset _ _)

theorem doFlush (h : c.Counted maxRetries id n) (settings : Settings P) (scheduled : Bool)
    (now : Int) : (c.doFlush settings scheduled now).Counted maxRetries id n :=
  (h.drainDueRetries now).flushLoop settings scheduled now

theorem scheduleFlush (h : c.Counted maxRetries id n) (settings : Settings P) (now : Int) :
    (c.scheduleFlush settings now).Counted maxRetries id n := by
  have hflag : { c with flushing := true }.Counted maxRetries id n :=
    ⟨h.queue, h.tasks, h.schedule⟩
  unfold Client.scheduleFlush
  split
  · exact h
  · exact hflag.doFlush settings true now

theorem beaconFlush (h : c.Counted maxRetries id n) (now : Int) :
    (c.beaconFlush now).Counted maxRetries id n := by
  have hdrained := h.drainDueRetries now
  unfold Client.beaconFlush
  dsimp only
  split
  · exact hdrained
  · have hemptied (tokens : TokenManager) :
        { c.drainDueRetries now with queue := [], tokens := tokens }.Counted maxRetries id n :=
      ⟨fun i hi => absurd hi List.not_mem_nil, hdrained.tasks, hdrained.schedule⟩
    exact (hemptied _).suspend trivial

/-- An event enters with no attempt. -/
theorem track {eventName eventId : String} {properties : P} (h : c.Counted maxRetries id n)
    (hfirst : c.actorId ≠ none → eventId = id → n = 0) :
    (c.track settings eventName properties eventId now).1.Counted maxRetries id n := by
  unfold Client.track
  split
  · exact h
  · rename_i actorId hactor
    have hactor : c.actorId ≠ none := by simp [hactor]
    dsimp only
    generalize hevent : DatacatEvent.mk eventId eventName actorId settings.sessionId
      (toISOString now) _ c.tenantId = event
    have hid : event.eventId = eventId := by rw [← hevent]
    have hentered : { c with queue := (enqueue settings.maxQueueSize c.queue event).1 }.Counted
        maxRetries id n := by
      refine ⟨?_, h.tasks, h.schedule⟩
      apply CountedItems.append (h.queue.subset (List.drop_subset _ _))
      intro i hi heq
      obtain rfl := List.mem_singleton.mp hi
      exact ⟨(hfirst hactor (hid.symm.trans heq)).symm, .inl rfl⟩
    split
    · exact hentered.scheduleFlush settings now
    · exact hentered

/-! ## A send that goes on -/

/-- The items that may be sent again count the attempt that failed. -/
theorem scheduleRetry {retryAfterMs : Option F64} (h : c.Counted settings.maxRetries id n)
    (hitems : CountedItems settings.maxRetries id 1 n items) :
    (c.scheduleRetry settings scheduled items retryAfterMs now).1.Counted
      settings.maxRetries id n := by
  have hsuspended : (c.suspend (.flush scheduled .next)).Counted settings.maxRetries id n :=
    h.suspend trivial
  unfold Client.scheduleRetry
  dsimp only
  split
  · exact hsuspended
  · refine ⟨hsuspended.queue, hsuspended.tasks, ?_⟩
    intro item hitem
    rcases List.mem_append.mp hitem with hitem | hitem
    · exact h.schedule item hitem
    · rw [List.mem_singleton.mp hitem]
      intro next hnext hid
      obtain ⟨i, hi, rfl⟩ := List.mem_map.mp hnext
      obtain ⟨hmem, hopen⟩ := List.mem_filter.mp hi
      obtain ⟨hcount, -⟩ := hitems i hmem hid
      refine ⟨hcount, .inr ?_⟩
      simpa using hopen

theorem onResponse {status : Nat} {retryAfter : Option F64}
    (h : c.Counted settings.maxRetries id n)
    (hitems : CountedItems settings.maxRetries id 1 n items)
    (hfails : id ∈ idsOf (eventsOf items) → 500 ≤ status ∧ status ≤ 599) :
    (c.onResponse settings scheduled items status retryAfter now).1.Counted
      settings.maxRetries id n := by
  have habsent (hstatus : status < 500) : id ∉ idsOf (eventsOf items) := by
    intro hid
    have hretryable := hfails hid
    omega
  unfold Client.onResponse
  split
  · exact h.suspend trivial
  · split
    · -- The token is asked for again.
      have hunauthorized (tokens : TokenManager) :
          { c with tokens := tokens }.Counted settings.maxRetries id n :=
        ⟨h.queue, h.tasks, h.schedule⟩
      apply (hunauthorized _).suspend
      exact habsent (by omega)
    · split
      · apply h.suspend
        exact habsent (by omega)
      · split
        · exact h.scheduleRetry hitems
        · exact h.scheduleRetry hitems

/-- A request is one more attempt. -/
theorem attemptSend {token : String}
    (h : c.Counted settings.maxRetries id
      (n + attempts id (c.attemptSend settings scheduled items token).2))
    (hitems : CountedItems settings.maxRetries id 0 n items) :
    (c.attemptSend settings scheduled items token).1.Counted settings.maxRetries id
      (n + attempts id (c.attemptSend settings scheduled items token).2) := by
  revert h
  unfold Client.attemptSend
  split
  · intro h
    apply h.suspend
    intro i hi hid
    obtain ⟨hcount, hopen⟩ := hitems i hi hid
    have hmem : id ∈ idsOf (eventsOf items) := by
      rw [← hid]
      exact List.mem_map_of_mem (List.mem_map_of_mem hi)
    have hone : attempts id [Output.sent ⟨token, eventsOf items, false⟩] = 1 := by
      rw [attempts_cons, Output.attempts, if_pos hmem, attempts_nil]
    rw [hone]
    exact ⟨congrArg (· + 1) hcount, hopen⟩
  · exact fun h => h.suspend trivial

theorem attempts_scheduleRetry {retryAfterMs : Option F64} :
    attempts id (c.scheduleRetry settings scheduled items retryAfterMs now).2 = 0 := by
  by_contra hne
  obtain ⟨request, hrequest, hid⟩ := exists_sent_of_attempts hne
  have hevents : request.events = [] := Client.about_scheduleRetry hrequest
  rw [hevents] at hid
  exact List.not_mem_nil hid

theorem attempts_onResponse {status : Nat} {retryAfter : Option F64} :
    attempts id (c.onResponse settings scheduled items status retryAfter now).2 = 0 := by
  unfold Client.onResponse
  split
  · rfl
  · split
    · rfl
    · split
      · rfl
      · split
        · exact attempts_scheduleRetry
        · exact attempts_scheduleRetry

theorem resumeFlush {answer : Answer} {point : Point P}
    (h : c.Counted settings.maxRetries id (n + attempts id out.2))
    (hpoint : point.Counted settings.maxRetries id n)
    (hfails : (Task.flush scheduled point).Sends id → answer.isRetryable = true)
    (hstep : c.resumeFlush settings scheduled answer now point = some out) :
    out.1.Counted settings.maxRetries id (n + attempts id out.2) := by
  cases point with
  | token items nonempty promise =>
    dsimp only [Client.resumeFlush] at hstep
    split at hstep
    · obtain rfl := Option.some.inj hstep
      exact h.attemptSend hpoint
    · obtain rfl := Option.some.inj hstep
      exact h.suspend trivial
    · cases hstep
  | fetch items =>
    -- The request was counted when it was sent, and its answer sends nothing.
    have hsends (hid : id ∈ idsOf (eventsOf items)) : answer.isRetryable = true :=
      hfails ⟨rfl, hid⟩
    cases answer with
    | goOn => cases hstep
    | rejection =>
      obtain rfl := Option.some.inj hstep
      rw [attempts_scheduleRetry] at h ⊢
      exact h.scheduleRetry hpoint
    | response status retryAfter =>
      obtain rfl := Option.some.inj hstep
      rw [attempts_onResponse] at h ⊢
      apply h.onResponse hpoint
      intro hid
      simpa [Answer.isRetryable] using hsends hid
  | refresh items promise =>
    dsimp only [Client.resumeFlush] at hstep
    split at hstep
    · obtain rfl := Option.some.inj hstep
      exact h.suspend hpoint
    · obtain rfl := Option.some.inj hstep
      exact h.suspend trivial
    · cases hstep
  | refetch items =>
    have habsent : CountedItems settings.maxRetries id 1 n items := .of_absent hpoint
    cases answer with
    | goOn => cases hstep
    | rejection =>
      obtain rfl := Option.some.inj hstep
      rw [attempts_scheduleRetry] at h ⊢
      exact h.scheduleRetry habsent
    | response status retryAfter =>
      dsimp only [Client.resumeFlush] at hstep
      split at hstep
      · obtain rfl := Option.some.inj hstep
        exact h.suspend trivial
      · obtain rfl := Option.some.inj hstep
        rw [attempts_scheduleRetry] at h ⊢
        exact h.scheduleRetry habsent
  | text items =>
    cases answer with
    | goOn =>
      obtain rfl := Option.some.inj hstep
      exact h.suspend trivial
    | rejection => cases hstep
    | response status retryAfter => cases hstep
  | next =>
    cases answer with
    | goOn =>
      obtain rfl := Option.some.inj hstep
      exact h.flushLoop settings scheduled now
    | rejection => cases hstep
    | response status retryAfter => cases hstep
  | settled =>
    cases answer with
    | goOn =>
      obtain rfl := Option.some.inj hstep
      exact ⟨h.queue, h.tasks, h.schedule⟩
    | rejection => cases hstep
    | response status retryAfter => cases hstep

theorem resumeBeaconToken {promise : Promise} (h : c.Counted maxRetries id n)
    (hstep : c.resumeBeaconToken settings items promise = some out) :
    out.1.Counted maxRetries id n := by
  unfold Client.resumeBeaconToken at hstep
  split at hstep
  · cases hstep
  · obtain rfl := Option.some.inj hstep
    exact h
  · split at hstep
    · obtain rfl := Option.some.inj hstep
      exact h.suspend trivial
    · obtain rfl := Option.some.inj hstep
      exact h

theorem resumeBeaconFetch {token : String} {ok : Bool} {beacon : Option Bool}
    (h : c.Counted maxRetries id n) :
    (c.resumeBeaconFetch items token ok beacon).1.Counted maxRetries id n := by
  unfold Client.resumeBeaconFetch
  split
  · exact h
  · split
    · exact h
    · exact h
    · exact h

/-! ## Steps -/

theorem attempts_track {eventName eventId : String} {properties : P} :
    attempts id (c.track settings eventName properties eventId now).2 = 0 := by
  by_contra hne
  obtain ⟨request, hrequest, -⟩ := exists_sent_of_attempts hne
  rcases mem_track hrequest with ⟨event, heq, -⟩ | ⟨events, heq⟩
  · cases heq
  · cases heq

theorem mem_entered_track (settings : Settings P) (eventName : String) (properties : P)
    (eventId : String) (now : Int) (hactor : c.actorId ≠ none) :
    eventId ∈ idsOf ((c.track settings eventName properties eventId now).2.flatMap
      Output.entered) := by
  obtain ⟨actorId, hactor⟩ := Option.ne_none_iff_exists'.mp hactor
  unfold Client.track
  rw [hactor]
  dsimp only
  split <;> simp [Output.entered, idsOf]

/-- A call that goes on. The event has one place, so when the call holds it, nothing else does. -/
theorem resume {task : Nat} {answer : Answer} {beacon : Option Bool}
    (h : c.Counted settings.maxRetries id n) (hnodup : (c.held.map DatacatEvent.eventId).Nodup)
    (hfails : FailsFor id c (.resume task answer beacon now))
    (hstep : c.resume settings task answer beacon now = some out) :
    out.1.Counted settings.maxRetries id (n + attempts id out.2) := by
  obtain ⟨t, ht, habout⟩ := about_resume hstep
  have hrest : { c with tasks := c.tasks.eraseIdx task }.Counted settings.maxRetries id
      (n + attempts id out.2) := by
    by_cases hid : id ∈ idsOf t.events
    · apply of_absent
      rw [held_eraseIdx ht, Multiset.map_add] at hnodup
      exact fun hmem => (Multiset.disjoint_left.mp (Multiset.nodup_add.mp hnodup).2.2) hmem
        (Multiset.mem_coe.mpr hid)
    · have hnone : attempts id out.2 = 0 := by
        by_contra hne
        obtain ⟨request, hrequest, hmem⟩ := exists_sent_of_attempts hne
        have hevents : request.events = t.events := habout _ hrequest
        rw [hevents] at hmem
        exact hid hmem
      rw [hnone]
      exact h.eraseIdx task
  have htask := h.tasks t (List.mem_of_getElem? ht)
  unfold Client.resume at hstep
  split at hstep
  · cases hstep
  · rename_i scheduled point htask'
    obtain rfl := Option.some.inj (ht.symm.trans htask')
    exact hrest.resumeFlush htask (hfails _ ht) hstep
  · split at hstep
    · exact hrest.resumeBeaconToken hstep
    · cases hstep
  · split at hstep
    · obtain rfl := Option.some.inj hstep
      exact hrest.resumeBeaconFetch
    · obtain rfl := Option.some.inj hstep
      exact hrest.resumeBeaconFetch
    · cases hstep

/-- A step that counts what it sends. -/
theorem step {x : Label P} (h : c.Counted settings.maxRetries id n)
    (hnodup : (c.held.map DatacatEvent.eventId).Nodup) (hfails : FailsFor id c x.1)
    (hfirst : id ∈ idsOf (x.2.flatMap Output.entered) → n = 0) (hstep : Step settings c x c') :
    c'.Counted settings.maxRetries id (n + attempts id x.2) := by
  obtain ⟨input, outputs⟩ := x
  unfold Step at hstep
  dsimp only at hstep ⊢
  generalize hout : (c', outputs) = out at hstep
  cases stepped hstep with
  | resume hresume =>
    obtain rfl := hout
    exact h.resume hnodup hfails hresume
  | track eventName properties eventId now =>
    obtain rfl : (c.track settings eventName properties eventId now).1 = c' :=
      (congrArg Prod.fst hout).symm
    obtain rfl : (c.track settings eventName properties eventId now).2 = outputs :=
      (congrArg Prod.snd hout).symm
    rw [attempts_track]
    apply h.track
    intro hactor hid
    apply hfirst
    rw [← hid]
    exact mem_entered_track settings eventName properties eventId now hactor
  | identify actorId tenantId =>
    obtain ⟨rfl, rfl⟩ := Prod.mk.inj hout
    exact ⟨h.queue, h.tasks, h.schedule⟩
  | flush now =>
    obtain ⟨rfl, rfl⟩ := Prod.mk.inj hout
    split
    · exact h
    · exact h.doFlush settings false now
  | tick now htimer =>
    obtain ⟨rfl, rfl⟩ := Prod.mk.inj hout
    exact h.scheduleFlush settings now
  | pageHidden now hlistening =>
    obtain ⟨rfl, rfl⟩ := Prod.mk.inj hout
    exact h.beaconFlush now
  | shutdown now =>
    obtain ⟨rfl, rfl⟩ := Prod.mk.inj hout
    have hstopped : { c with timer := false, listening := false }.Counted
        settings.maxRetries id n := ⟨h.queue, h.tasks, h.schedule⟩
    exact hstopped.doFlush settings false now
  | tokenAnswer htokens =>
    obtain ⟨rfl, rfl⟩ := Prod.mk.inj hout
    exact ⟨h.queue, h.tasks, h.schedule⟩

end Client.Counted

/-! ## Failures -/

section Failures

variable {settings : Settings P} {id : String} {n : Nat} {c c' : Client P}
  {items : List (QueuedEvent P)} {now : Int} {scheduled : Bool} {out : Effect P}

/-- An event that only fails is sent by a first request. -/
theorem Task.Sends.fetches {maxRetries : Nat} {t : Task P} (h : t.Sends id)
    (hcounted : t.Counted maxRetries id n) :
    ∃ scheduled items, t = .flush scheduled (.fetch items) ∧
      CountedItems maxRetries id 1 n items := by
  obtain ⟨hawaits, hid⟩ := h
  cases t with
  | flush scheduled point =>
    cases point with
    | fetch items => exact ⟨scheduled, items, rfl, hcounted⟩
    | refetch items => exact absurd hid hcounted
    | _ => cases hawaits
  | _ => cases hawaits

/-- A send that fails leaves its batch to the retries. -/
theorem Client.resume_fails {task : Nat} {answer : Answer} {beacon : Option Bool}
    (ht : c.tasks[task]? = some (.flush scheduled (.fetch items)))
    (hretryable : answer.isRetryable = true)
    (hstep : c.resume settings task answer beacon now = some out) :
    out = { c with tasks := c.tasks.eraseIdx task }.scheduleRetry settings scheduled items none
      now := by
  unfold resume at hstep
  rw [ht] at hstep
  cases answer with
  | goOn => cases hretryable
  | rejection => exact (Option.some.inj hstep).symm
  | response status retryAfter =>
    have hstatus : 500 ≤ status ∧ status ≤ 599 := by
      simpa [Answer.isRetryable] using hretryable
    have hok : isOk status = false := by
      simp only [isOk, Bool.and_eq_false_iff, decide_eq_false_iff_not]
      omega
    apply (Option.some.inj hstep).symm.trans
    unfold onResponse
    rw [hok, if_neg Bool.false_ne_true, if_neg (by omega), if_neg (by omega), if_neg (by omega)]

theorem Client.reportedIds_scheduleRetry {retryAfterMs : Option F64} :
    reportedIds (c.scheduleRetry settings scheduled items retryAfterMs now).2 =
      idsOf (eventsOf
        (items.filter fun i => decide (settings.maxRetries ≤ i.retryCount + 1))) := by
  have houtputs (abandoned : List (QueuedEvent P)) :
      reportedIds (if abandoned.isEmpty then [] else [Output.reported (eventsOf abandoned)]) =
        idsOf (eventsOf abandoned) := by
    cases abandoned with
    | nil => rfl
    | cons i rest => simp [reportedIds, Output.reportedIds]
  unfold scheduleRetry
  dsimp only
  split
  · exact houtputs _
  · exact houtputs _

/-- The attempt that leaves no retry reports the event. -/
theorem CountedItems.reported_iff {retryAfterMs : Option F64}
    (h : CountedItems settings.maxRetries id 1 n items) (hmem : id ∈ idsOf (eventsOf items)) :
    id ∈ reportedIds (c.scheduleRetry settings scheduled items retryAfterMs now).2 ↔
      n = max 1 settings.maxRetries := by
  rw [Client.reportedIds_scheduleRetry]
  constructor
  · intro hreported
    obtain ⟨e, he, hid⟩ := List.mem_map.mp hreported
    obtain ⟨i, hi, rfl⟩ := List.mem_map.mp he
    obtain ⟨hitem, hlast⟩ := List.mem_filter.mp hi
    obtain ⟨hcount, hopen⟩ := h i hitem hid
    have hlast := of_decide_eq_true hlast
    -- at most one send less than allowed came before
    omega
  · intro hn
    obtain ⟨e, he, hid⟩ := List.mem_map.mp hmem
    obtain ⟨i, hi, rfl⟩ := List.mem_map.mp he
    obtain ⟨hcount, -⟩ := h i hi hid
    have hlast : settings.maxRetries ≤ i.retryCount + 1 := by omega
    rw [← hid]
    apply List.mem_map_of_mem
    apply List.mem_map_of_mem
    exact List.mem_filter.mpr ⟨hi, decide_eq_true hlast⟩

end Failures

/-! ## Runs -/

section Runs

variable {settings : Settings P} {id : String} {start c c' : Client P} {labels : List (Label P)}
  {x : Label P}

/-- A step in which no send of the event succeeds. -/
def FailingStep (settings : Settings P) (id : String) (c : Client P) (x : Label P)
    (c' : Client P) : Prop :=
  FailsFor id c x.1 ∧ Step settings c x c'

theorem run_of_failing (h : Run (FailingStep settings id) start labels c) :
    Run (Step settings) start labels c :=
  h.mono fun _ _ _ hstep => hstep.2

theorem enteredIds_snoc (labels : List (Label P)) (x : Label P) :
    enteredIds (labels ++ [x]) = enteredIds labels ++ idsOf (x.2.flatMap Output.entered) := by
  simp [enteredIds, outputsOf, idsOf]

theorem nodup_held (h : Run (Step settings) start labels c) (hstart : start.held = 0)
    (hids : (enteredIds labels).Nodup) : (c.held.map DatacatEvent.eventId).Nodup :=
  Multiset.nodup_of_le (Multiset.map_le_map (held_le_entered h hstart)) hids

/-- An event is attempted after it has entered. -/
theorem attempts_eq_zero (h : Run (Step settings) start labels c) (hstart : start.held = 0)
    (hid : id ∉ enteredIds labels) : attempts id (outputsOf labels) = 0 := by
  by_contra hne
  obtain ⟨request, hrequest, hmem⟩ := exists_sent_of_attempts hne
  have hle := Multiset.map_le_map (f := DatacatEvent.eventId) (sent_le_entered h hstart hrequest)
  exact hid (Multiset.mem_of_le hle hmem)

/-- Wherever the event is, its count says how often it was attempted. -/
theorem counted_of_run {actorId tenantId : Option String} {listening : Bool}
    (h : Run (FailingStep settings id) (.new actorId tenantId listening) labels c)
    (hids : (enteredIds labels).Nodup) :
    c.Counted settings.maxRetries id (attempts id (outputsOf labels)) := by
  induction h with
  | nil => exact Client.Counted.of_absent (Multiset.notMem_zero _) _
  | @snoc labels c c' x hrun hstep ih =>
    rw [enteredIds_snoc] at hids
    obtain ⟨hbefore, -, hfresh⟩ := List.nodup_append.mp hids
    have hstrict := run_of_failing hrun
    rw [outputsOf_snoc, attempts_append]
    refine (ih hbefore).step (nodup_held hstrict rfl hbefore) hstep.1 ?_ hstep.2
    intro hid
    apply attempts_eq_zero hstrict rfl
    intro hmem
    exact hfresh id hmem id hid rfl

/-- When a send of the event fails, the event is reported if it was attempted `max 1 maxRetries`
times, and is scheduled again if not. -/
theorem reported_iff_attempts {actorId tenantId : Option String} {listening : Bool}
    (h : Run (FailingStep settings id) (.new actorId tenantId listening) labels c)
    (hids : (enteredIds labels).Nodup) (hstep : FailingStep settings id c x c')
    (hanswers : Answers id c x.1) :
    id ∈ reportedIds x.2 ↔ attempts id (outputsOf labels) = max 1 settings.maxRetries := by
  have hcounted := counted_of_run h hids
  obtain ⟨hfails, hstep⟩ := hstep
  obtain ⟨input, outputs⟩ := x
  cases input with
  | resume task answer beacon now =>
    obtain ⟨t, ht, hsends⟩ := hanswers
    have hretryable := hfails t ht hsends
    obtain ⟨scheduled, items, rfl, hitems⟩ :=
      hsends.fetches (hcounted.tasks t (List.mem_of_getElem? ht))
    have hmem : id ∈ idsOf (eventsOf items) := hsends.2
    obtain rfl : outputs = _ := congrArg Prod.snd (Client.resume_fails ht hretryable hstep)
    exact hitems.reported_iff hmem
  | _ => exact hanswers.elim

end Runs

end Datacat.Sdk
