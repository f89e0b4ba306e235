import Datacat.Sdk.Conservation

/-!
# Shutting Down

`shutdown()` stops the timer and the handlers of the page, then awaits one flush of its own. Its
promise is followed from the call on: it has its place among the suspended calls until it resolves.
The flush ends when it finds the queue empty. It does not wait for the other calls, nor for the
retries that are not due.

## Main results

- `Closing.resume_own`, `Closing.resume_other`: a call that goes on keeps the shutdown under way,
  with nothing to retry.
- `SettlingStep.inv`: what a step leaves until the shutdown has resolved and after.
- `shutdown_settles`: when the shutdown finds nothing that it would leave behind, every event is
  acknowledged or reported once it has resolved.
-/

namespace Datacat.Sdk

open Basics

variable {P : Type}

/-! ## Following a call -/

/-- A client, and the place of one call of `shutdown` among its suspended calls until that call
has resolved. -/
structure Watched (P : Type) where
  client : Client P
  call : Option Nat

/-- A flush that is over. -/
def Task.isSettled : Task P → Bool
  | .flush _ .settled => true
  | _ => false

def Client.settledAt (c : Client P) (call : Nat) : Bool := c.tasks[call]?.any Task.isSettled

/-- The place of the call after a step: a call that goes on is suspended again at the end. -/
def Client.follow (c : Client P) (call : Nat) : Input P → Option Nat
  | .resume task _ _ _ =>
    if task < call then some (call - 1)
    else if task = call then
      if c.settledAt call then none else some (c.tasks.length - 1)
    else some call
  | _ => some call

/-- When another call goes on, the followed one is at its new place among those that are left. -/
theorem Client.follow_other (c : Client P) {call task : Nat} (hother : task ≠ call)
    (answer : Answer) (beacon : Option Bool) (now : Int) :
    ∃ place, c.follow call (.resume task answer beacon now) = some place ∧
      (c.tasks.eraseIdx task)[place]? = c.tasks[call]? := by
  by_cases hbefore : task < call
  · refine ⟨call - 1, if_pos hbefore, ?_⟩
    rw [List.getElem?_eraseIdx_of_ge (by omega), show call - 1 + 1 = call by omega]
  · refine ⟨call, ?_, ?_⟩
    · rw [Client.follow, if_neg hbefore, if_neg hother]
    · rw [List.getElem?_eraseIdx_of_lt (by omega)]

def Watched.step (settings : Settings P) (w : Watched P) (input : Input P) :
    Option (Watched P × List (Output P)) :=
  (w.client.step settings input).map fun (c, outputs) =>
    (⟨c, w.call.bind fun call => w.client.follow call input⟩, outputs)

def Watched.Step (settings : Settings P) (w : Watched P) (x : Label P) (w' : Watched P) : Prop :=
  w.step settings x.1 = some (w', x.2)

/-! ## What a shutdown may leave behind -/

/-- The events acknowledged by a 2xx answer or reported through `onError`. -/
def Output.concluded : Output P → List (DatacatEvent P)
  | .acknowledged events => events
  | .reported events => events
  | _ => []

def concluded (outputs : List (Output P)) : Multiset (DatacatEvent P) :=
  outputs.flatMap Output.concluded

/-- The answer to a `fetch` is a 2xx. -/
def Answer.accepted : Answer → Bool
  | .response status _ => isOk status
  | _ => false

def Task.awaitsBeacon : Task P → Bool
  | .beaconFetch _ _ => true
  | _ => false

/-- `sendBeacon` takes the events: nobody acknowledges them, and nobody reports them. -/
def BeaconTakes (c : Client P) : Input P → Prop
  | .resume task answer beacon _ =>
    c.tasks[task]?.any Task.awaitsBeacon = true ∧ answer.accepted = false ∧ beacon = some true
  | _ => False

/-- The step leaves every event in a place, acknowledged or reported. -/
structure Keeps (settings : Settings P) (c : Client P) (input : Input P) : Prop where
  loses : ¬Loses settings c input
  beacon : ¬BeaconTakes c input

/-- The batch that a flush has to try again after an answer. -/
def Point.failed : Point P → Answer → List (QueuedEvent P)
  | .fetch items, .rejection => items
  | .fetch items, .response status _ =>
    if isOk status ∨ status = 401 ∨ status = 400 ∨ status = 413 then [] else items
  | .refetch items, .rejection => items
  | .refetch items, .response status _ => if isOk status then [] else items
  | _, _ => []

/-- The wait that the server asks for, where it is read. -/
def Point.wait : Point P → Answer → Option F64
  | .fetch _, .response status retryAfter =>
    if status = 429 then retryAfter.map thousandTimes else none
  | _, _ => none

def Task.failed : Task P → Answer → List (QueuedEvent P)
  | .flush _ point, answer => point.failed answer
  | _, _ => []

def Task.wait : Task P → Answer → Option F64
  | .flush _ point, answer => point.wait answer
  | _, _ => none

/-- The step puts an event in the schedule of the retries. -/
def Reschedules (settings : Settings P) (c : Client P) : Input P → Prop
  | .resume task answer _ _ => ∃ t, c.tasks[task]? = some t ∧
      ∃ i ∈ t.failed answer, i.retryCount + 1 < settings.maxRetries
  | _ => False

/-- The step enters an event in the queue. -/
def Enqueues (c : Client P) : Input P → Prop
  | .track _ _ _ _ => c.actorId ≠ none
  | _ => False

/-- While the shutdown is under way nothing is left to retry; after its last look at the queue
nothing enters it; when it resolves, no other call holds a batch. -/
structure Orderly (settings : Settings P) (c : Client P) (call : Nat) (input : Input P) :
    Prop where
  reschedules : ¬Reschedules settings c input
  enqueues : c.settledAt call = true → ¬Enqueues c input
  others : c.follow call input = none → ∀ t ∈ c.tasks, t.events = []

/-- A step during the shutdown or after it. -/
def Settles (settings : Settings P) (w : Watched P) (input : Input P) : Prop :=
  Keeps settings w.client input ∧
    match w.call with
    | some call => Orderly settings w.client call input
    | none => ¬Enqueues w.client input

section Decidable

variable (settings : Settings P) (c : Client P)

instance (tokens : TokenManager) : (t : Task P) → Decidable (t.Loses settings tokens)
  | .flush _ (.token _ _ promise) =>
    inferInstanceAs (Decidable (tokens.outcome promise = some none))
  | .beaconToken items promise =>
    have : Decidable (∃ token, tokens.outcome promise = some (some token)) :=
      decidable_of_iff ((tokens.outcome promise).join.isSome = true)
        (by simp [Option.isSome_iff_exists, Option.join_eq_some_iff])
    inferInstanceAs (Decidable (_ ∧ ∃ e ∈ eventsOf items, _))
  | .flush _ (.fetch _) => .isFalse id
  | .flush _ (.refresh _ _) => .isFalse id
  | .flush _ (.refetch _) => .isFalse id
  | .flush _ (.text _) => .isFalse id
  | .flush _ .next => .isFalse id
  | .flush _ .settled => .isFalse id
  | .beaconFetch _ _ => .isFalse id

instance : (input : Input P) → Decidable (Loses settings c input)
  | .resume task _ _ _ =>
    inferInstanceAs (Decidable (∃ t ∈ c.tasks[task]?, t.Loses settings c.tokens))
  | .identify _ _ => .isFalse id
  | .track _ _ _ _ => .isFalse id
  | .flush _ => .isFalse id
  | .tick _ => .isFalse id
  | .pageHidden _ => .isFalse id
  | .shutdown _ => .isFalse id
  | .tokenAnswer _ => .isFalse id

instance : (input : Input P) → Decidable (BeaconTakes c input)
  | .resume _ _ _ _ => inferInstanceAs (Decidable (_ ∧ _ ∧ _))
  | .identify _ _ => .isFalse id
  | .track _ _ _ _ => .isFalse id
  | .flush _ => .isFalse id
  | .tick _ => .isFalse id
  | .pageHidden _ => .isFalse id
  | .shutdown _ => .isFalse id
  | .tokenAnswer _ => .isFalse id

instance : (input : Input P) → Decidable (Reschedules settings c input)
  | .resume task answer _ _ =>
    inferInstanceAs (Decidable (∃ t ∈ c.tasks[task]?, ∃ i ∈ t.failed answer, _))
  | .identify _ _ => .isFalse id
  | .track _ _ _ _ => .isFalse id
  | .flush _ => .isFalse id
  | .tick _ => .isFalse id
  | .pageHidden _ => .isFalse id
  | .shutdown _ => .isFalse id
  | .tokenAnswer _ => .isFalse id

instance : (input : Input P) → Decidable (Enqueues c input)
  | .track _ _ _ _ => inferInstanceAs (Decidable (_ ≠ none))
  | .identify _ _ => .isFalse id
  | .flush _ => .isFalse id
  | .tick _ => .isFalse id
  | .pageHidden _ => .isFalse id
  | .shutdown _ => .isFalse id
  | .tokenAnswer _ => .isFalse id
  | .resume _ _ _ _ => .isFalse id

instance (input : Input P) : Decidable (Keeps settings c input) :=
  decidable_of_iff (¬Loses settings c input ∧ ¬BeaconTakes c input)
    ⟨fun h => ⟨h.1, h.2⟩, fun h => ⟨h.loses, h.beacon⟩⟩

instance (call : Nat) (input : Input P) : Decidable (Orderly settings c call input) :=
  decidable_of_iff (¬Reschedules settings c input ∧ (c.settledAt call = true → ¬Enqueues c input) ∧
      (c.follow call input = none → ∀ t ∈ c.tasks, t.events = []))
    ⟨fun h => ⟨h.1, h.2.1, h.2.2⟩, fun h => ⟨h.reschedules, h.enqueues, h.others⟩⟩

instance : (w : Watched P) → (input : Input P) → Decidable (Settles settings w input)
  | ⟨c, some call⟩, input =>
    inferInstanceAs (Decidable (Keeps settings c input ∧ Orderly settings c call input))
  | ⟨c, none⟩, input => inferInstanceAs (Decidable (Keeps settings c input ∧ ¬Enqueues c input))

end Decidable

/-! ## What a step leaves as it is -/

/-- The client goes on with the events of a call or without them, and its queue and its schedule
are those of before. -/
def Client.GoesOn (c : Client P) (events : List (DatacatEvent P)) (c' : Client P) : Prop :=
  ∃ tokens flushing tasks, (∀ task ∈ tasks, task.events = events ∨ task.events = []) ∧
    c' = { c with tokens := tokens, flushing := flushing, tasks := c.tasks ++ tasks }

section GoesOn

variable {settings : Settings P} {c : Client P} {scheduled : Bool} {answer : Answer} {now : Int}
  {out : Effect P} {events : List (DatacatEvent P)}

theorem Client.goesOn_suspend {task : Task P} (htask : task.events = events ∨ task.events = [])
    (tokens : TokenManager) : c.GoesOn events ({ c with tokens := tokens }.suspend task) :=
  ⟨tokens, c.flushing, [task], List.forall_mem_singleton.mpr htask, rfl⟩

theorem Client.goesOn_end (flushing : Bool) : c.GoesOn events { c with flushing := flushing } :=
  ⟨c.tokens, flushing, [], List.forall_mem_nil _, by rw [List.append_nil]⟩

/-- A response to the first request schedules the batch, or leaves the queue and the schedule. -/
theorem Client.onResponse_cases (items : List (QueuedEvent P)) (status : Nat)
    (retryAfter : Option F64) :
    c.onResponse settings scheduled items status retryAfter now =
        c.scheduleRetry settings scheduled ((Point.fetch items).failed (.response status retryAfter))
          ((Point.fetch items).wait (.response status retryAfter)) now ∨
      (Point.fetch items).failed (.response status retryAfter) = [] ∧
        c.GoesOn (eventsOf items)
          (c.onResponse settings scheduled items status retryAfter now).1 := by
  dsimp only [Point.failed, Point.wait]
  unfold onResponse
  split
  · rename_i hok
    exact .inr ⟨if_pos (.inl hok), goesOn_suspend (by exact .inr rfl) c.tokens⟩
  · rename_i hok
    split
    · rename_i hunauthorized
      exact .inr ⟨if_pos (.inr (.inl hunauthorized)), goesOn_suspend (by exact .inl rfl) _⟩
    · rename_i hunauthorized
      split
      · rename_i hrefused
        exact .inr ⟨if_pos (.inr (.inr hrefused)), goesOn_suspend (by exact .inl rfl) c.tokens⟩
      · rename_i hrefused
        have hfailed : ¬(isOk status = true ∨ status = 401 ∨ status = 400 ∨ status = 413) := by
          rintro (hcase | hcase | hcase)
          · exact hok hcase
          · exact hunauthorized hcase
          · exact hrefused hcase
        left
        rw [if_neg hfailed]
        by_cases hthrottled : status = 429
        · rw [if_pos hthrottled, if_pos hthrottled]
        · rw [if_neg hthrottled, if_neg hthrottled]

/-- A flush that goes on schedules what failed, takes its next batch, or leaves the queue and the
schedule as they are. -/
theorem Client.resumeFlush_cases {point : Point P}
    (h : c.resumeFlush settings scheduled answer now point = some out) :
    out = c.scheduleRetry settings scheduled (point.failed answer) (point.wait answer) now ∨
      point.failed answer = [] ∧
        (point = .next ∧ out = (c.flushLoop settings scheduled now, []) ∨
          c.GoesOn point.events out.1) := by
  cases point with
  | fetch items =>
    cases answer with
    | goOn => cases h
    | rejection =>
      obtain rfl := Option.some.inj h
      exact .inl rfl
    | response status retryAfter =>
      obtain rfl := Option.some.inj h
      exact (onResponse_cases items status retryAfter).imp_right fun hcases =>
        ⟨hcases.1, .inr hcases.2⟩
  | refetch items =>
    cases answer with
    | goOn => cases h
    | rejection =>
      obtain rfl := Option.some.inj h
      exact .inl rfl
    | response status retryAfter =>
      dsimp only [resumeFlush] at h
      dsimp only [Point.failed, Point.wait]
      split at h
      · rename_i hok
        obtain rfl := Option.some.inj h
        exact .inr ⟨if_pos hok, .inr (goesOn_suspend (by exact .inr rfl) c.tokens)⟩
      · rename_i hok
        obtain rfl := Option.some.inj h
        rw [if_neg hok]
        exact .inl rfl
  -- nothing fails in the other places
  | next =>
    cases flushResumed h
    exact .inr ⟨rfl, .inl ⟨rfl, rfl⟩⟩
  | settled =>
    cases flushResumed h
    exact .inr ⟨rfl, .inr (goesOn_end _)⟩
  | token items nonempty promise =>
    refine .inr ⟨rfl, .inr ?_⟩
    cases flushResumed h with
    | abandoned houtcome => exact goesOn_suspend (by exact .inr rfl) c.tokens
    | attempted houtcome =>
      unfold attemptSend
      split
      · exact goesOn_suspend (by exact .inl rfl) c.tokens
      · exact goesOn_suspend (by exact .inr rfl) c.tokens
  | refresh items promise =>
    refine .inr ⟨rfl, .inr ?_⟩
    cases flushResumed h with
    | refreshed houtcome => exact goesOn_suspend (by exact .inl rfl) c.tokens
    | notRefreshed houtcome => exact goesOn_suspend (by exact .inr rfl) c.tokens
  | text items =>
    cases flushResumed h
    exact .inr ⟨rfl, .inr (goesOn_suspend (by exact .inr rfl) c.tokens)⟩

/-- A call that goes on schedules what failed, takes the next batch of its flush, or leaves the
queue and the schedule as they are. -/
theorem Client.resume_cases {task : Nat} {beacon : Option Bool}
    (h : c.resume settings task answer beacon now = some out) :
    ∃ call, c.tasks[task]? = some call ∧
      ((∃ scheduled, out = { c with tasks := c.tasks.eraseIdx task }.scheduleRetry settings
          scheduled (call.failed answer) (call.wait answer) now) ∨
        call.failed answer = [] ∧
          ((∃ scheduled, call = .flush scheduled .next ∧ out =
              ({ c with tasks := c.tasks.eraseIdx task }.flushLoop settings scheduled now, [])) ∨
            { c with tasks := c.tasks.eraseIdx task }.GoesOn call.events out.1)) := by
  obtain ⟨call, hcall, hresumed⟩ := resumed h
  refine ⟨call, hcall, ?_⟩
  unfold resume at h
  dsimp only at h
  rw [hcall] at h
  cases hresumed with
  | flush hflush =>
    rcases resumeFlush_cases h with hout | ⟨hfailed, ⟨rfl, hout⟩ | hout⟩
    · exact .inl ⟨_, hout⟩
    · exact .inr ⟨hfailed, .inl ⟨_, rfl, hout⟩⟩
    · exact .inr ⟨hfailed, .inr hout⟩
  | beaconSent houtcome hbody => exact .inr ⟨rfl, .inr (goesOn_suspend (by exact .inl rfl) c.tokens)⟩
  | beaconAbandoned houtcome hbody => exact .inr ⟨rfl, .inr (goesOn_end c.flushing)⟩
  | beaconRejected houtcome => exact .inr ⟨rfl, .inr (goesOn_end c.flushing)⟩
  | beaconAnswered ok sent =>
    refine .inr ⟨rfl, .inr ?_⟩
    unfold resumeBeaconFetch
    split
    · exact goesOn_end c.flushing
    · split <;> exact goesOn_end c.flushing

end GoesOn

/-- The suspended calls keep their places, and an empty schedule stays empty. When it is, so does
an empty queue. -/
structure Calm (c c' : Client P) : Prop where
  tasks : c.tasks <+: c'.tasks
  schedule : c.retrySchedule = [] → c'.retrySchedule = []
  queue : c.retrySchedule = [] → c.queue = [] → c'.queue = []

namespace Calm

variable {settings : Settings P} {c c' c'' : Client P} {items : List (QueuedEvent P)} {now : Int}
  {scheduled : Bool} {out : Effect P}

theorem refl (c : Client P) : Calm c c := ⟨List.prefix_rfl, id, fun _ => id⟩

theorem trans (h : Calm c c') (h' : Calm c' c'') : Calm c c'' where
  tasks := h.tasks.trans h'.tasks
  schedule hempty := h'.schedule (h.schedule hempty)
  queue hempty hqueue := h'.queue (h.schedule hempty) (h.queue hempty hqueue)

theorem suspend (c : Client P) (task : Task P) : Calm c (c.suspend task) :=
  ⟨List.prefix_append _ _, id, fun _ => id⟩

theorem drainDueRetries (now : Int) (c : Client P) : Calm c (c.drainDueRetries now) where
  tasks := List.prefix_rfl
  schedule hempty := by simp [Client.drainDueRetries, hempty]
  queue hempty hqueue := by simp [Client.drainDueRetries, hempty, hqueue]

theorem flushLoop (settings : Settings P) (scheduled : Bool) (now : Int) (c : Client P) :
    Calm c (c.flushLoop settings scheduled now) := by
  unfold Client.flushLoop
  split
  · exact suspend c _
  · -- A batch is taken from a queue that is not empty.
    dsimp only
    have hbatch (tokens : TokenManager) :
        Calm c { c with
          queue := c.queue.drop (dequeueCount settings.batchSize c.queue.length)
          tokens := tokens } := by
      refine ⟨List.prefix_rfl, id, ?_⟩
      intro _ hqueue
      simp [hqueue]
    split
    · exact (hbatch c.tokens).trans (suspend _ _)
    · exact (hbatch _).trans (suspend _ _)

theorem doFlush (settings : Settings P) (scheduled : Bool) (now : Int) (c : Client P) :
    Calm c (c.doFlush settings scheduled now) :=
  (drainDueRetries now c).trans (flushLoop settings scheduled now _)

theorem scheduleFlush (settings : Settings P) (now : Int) (c : Client P) :
    Calm c (c.scheduleFlush settings now) := by
  unfold Client.scheduleFlush
  split
  · exact refl c
  · have hflag : Calm c { c with flushing := true } := ⟨List.prefix_rfl, id, fun _ => id⟩
    exact hflag.trans (doFlush settings true now _)

theorem beaconFlush (now : Int) (c : Client P) : Calm c (c.beaconFlush now) := by
  unfold Client.beaconFlush
  dsimp only
  split
  · exact drainDueRetries now c
  · apply (drainDueRetries now c).trans
    apply Calm.trans _ (suspend _ _)
    exact ⟨List.prefix_rfl, id, fun _ _ => rfl⟩

/-- Nothing is scheduled when every item was tried too often. -/
theorem scheduleRetry {retryAfterMs : Option F64}
    (h : ∀ i ∈ items, settings.maxRetries ≤ i.retryCount + 1) (c : Client P) :
    Calm c (c.scheduleRetry settings scheduled items retryAfterMs now).1 := by
  have hnone : (items.filter fun i => !decide (settings.maxRetries ≤ i.retryCount + 1)) = [] := by
    apply List.filter_eq_nil_iff.mpr
    intro i hi
    simp [h i hi]
  unfold Client.scheduleRetry
  dsimp only
  rw [hnone]
  exact suspend c _

/-- A call that goes on, unless it puts an event in the schedule. -/
theorem resume {task : Nat} {answer : Answer} {beacon : Option Bool}
    (h : c.resume settings task answer beacon now = some out)
    (hreschedules : ¬Reschedules settings c (.resume task answer beacon now)) :
    Calm { c with tasks := c.tasks.eraseIdx task } out.1 := by
  obtain ⟨call, hcall, ⟨scheduled, rfl⟩ | ⟨-, ⟨scheduled, -, rfl⟩ |
    ⟨tokens, flushing, tasks, -, hout⟩⟩⟩ := Client.resume_cases h
  · refine scheduleRetry (fun i hi => ?_) _
    by_contra hopen
    exact hreschedules ⟨call, hcall, i, hi, Nat.lt_of_not_le hopen⟩
  · exact flushLoop settings scheduled now _
  · rw [hout]
    exact ⟨List.prefix_append _ _, id, fun _ => id⟩

/-- A step that is no call going on, unless it enters an event. -/
theorem step {input : Input P} (h : c.step settings input = some out)
    (hresume : ∀ task answer beacon now, input ≠ .resume task answer beacon now)
    (henqueues : ¬Enqueues c input) : Calm c out.1 := by
  cases Client.stepped h with
  | identify actorId tenantId =>
    exact ⟨List.prefix_rfl, id, fun _ => id⟩
  | track eventName properties eventId now =>
    have hactor : c.actorId = none := not_not.mp henqueues
    simp only [Client.track, hactor]
    exact refl c
  | flush now =>
    dsimp only
    split
    · exact refl c
    · exact doFlush settings false now c
  | tick now htimer =>
    exact scheduleFlush settings now c
  | pageHidden now hlistening =>
    exact beaconFlush now c
  | shutdown now =>
    have hstopped : Calm c { c with timer := false, listening := false } :=
      ⟨List.prefix_rfl, id, fun _ => id⟩
    exact hstopped.trans (doFlush settings false now _)
  | tokenAnswer htokens =>
    exact ⟨List.prefix_rfl, id, fun _ => id⟩
  | resume h => exact absurd rfl (hresume _ _ _ _)

/-- An event that enters leaves the calls and the schedule as they are. -/
theorem track (settings : Settings P) (eventName : String) (properties : P) (eventId : String)
    (now : Int) (c : Client P) :
    ∃ queue, Calm { c with queue := queue }
      (c.track settings eventName properties eventId now).1 := by
  unfold Client.track
  split
  · exact ⟨c.queue, refl c⟩
  · rename_i actorId hactor
    dsimp only
    generalize DatacatEvent.mk eventId eventName actorId settings.sessionId
      (toISOString now) _ c.tenantId = event
    refine ⟨(enqueue settings.maxQueueSize c.queue event).1, ?_⟩
    split
    · exact scheduleFlush settings now _
    · exact refl _

end Calm

/-! ## The shutdown under way -/

/-- The flush of the shutdown is suspended, the schedule is empty, and so is the queue once the
flush has seen it empty. -/
structure Closing (c : Client P) (call : Nat) : Prop where
  schedule : c.retrySchedule = []
  suspended : ∃ point, c.tasks[call]? = some (.flush false point) ∧
    (point = .settled → c.queue = [])

/-- A flush that goes on is suspended again, at its end only when the queue is empty. -/
theorem FlushResumed.suspended {settings : Settings P} {scheduled : Bool} {now : Int}
    {c : Client P} {point : Point P} {out : Effect P}
    (h : FlushResumed settings scheduled now c point out) (hpoint : point ≠ .settled)
    (hloses : ¬(Task.flush scheduled point).Loses settings c.tokens) :
    ∃ point', out.1.tasks = c.tasks ++ [.flush scheduled point'] ∧
      (point' = .settled → out.1.queue = []) := by
  have hretry (items : List (QueuedEvent P)) (retryAfterMs : Option F64) :
      (c.scheduleRetry settings scheduled items retryAfterMs now).1.tasks =
        c.tasks ++ [.flush scheduled .next] := by
    unfold Client.scheduleRetry
    dsimp only
    split <;> rfl
  cases h with
  | attempted houtcome =>
    unfold Client.attemptSend
    split
    · exact ⟨_, rfl, fun h => by cases h⟩
    · exact ⟨.next, rfl, fun h => by cases h⟩
  | abandoned houtcome => exact absurd houtcome hloses
  | responded status retryAfter =>
    unfold Client.onResponse
    split
    · exact ⟨.next, rfl, fun h => by cases h⟩
    · split
      · exact ⟨_, rfl, fun h => by cases h⟩
      · split
        · exact ⟨_, rfl, fun h => by cases h⟩
        · split
          · exact ⟨.next, hretry _ _, fun h => by cases h⟩
          · exact ⟨.next, hretry _ _, fun h => by cases h⟩
  | unreachable => exact ⟨.next, hretry _ _, fun h => by cases h⟩
  | refreshed houtcome => exact ⟨_, rfl, fun h => by cases h⟩
  | notRefreshed houtcome => exact ⟨.next, rfl, fun h => by cases h⟩
  | acknowledged => exact ⟨.next, rfl, fun h => by cases h⟩
  | failedAgain => exact ⟨.next, hretry _ _, fun h => by cases h⟩
  | refused => exact ⟨.next, rfl, fun h => by cases h⟩
  | next =>
    unfold Client.flushLoop
    split
    · rename_i hempty
      exact ⟨.settled, rfl, fun _ => List.isEmpty_iff.mp hempty⟩
    · dsimp only
      split
      · exact ⟨.next, rfl, fun h => by cases h⟩
      · exact ⟨_, rfl, fun h => by cases h⟩
  | settled => exact absurd rfl hpoint

namespace Closing

variable {settings : Settings P} {c c' : Client P} {call task : Nat} {answer : Answer}
  {beacon : Option Bool} {now : Int} {out : Effect P}

theorem getElem?_of_isPrefix {tasks tasks' : List (Task P)} {t : Task P} (h : tasks <+: tasks')
    (ht : tasks[call]? = some t) : tasks'[call]? = some t := by
  obtain ⟨rest, rfl⟩ := h
  obtain ⟨hcall, -⟩ := List.getElem?_eq_some_iff.mp ht
  rw [List.getElem?_append_left hcall, ht]

theorem calm (hclosing : Closing c call) (h : Calm c c') : Closing c' call where
  schedule := h.schedule hclosing.schedule
  suspended := by
    obtain ⟨point, ht, hqueue⟩ := hclosing.suspended
    refine ⟨point, getElem?_of_isPrefix h.tasks ht, ?_⟩
    intro hpoint
    exact h.queue hclosing.schedule (hqueue hpoint)

/-- An event that enters before the last look at the queue. -/
theorem track (hclosing : Closing c call) (eventName : String) (properties : P)
    (eventId : String) (hopen : c.settledAt call = false) :
    Closing (c.track settings eventName properties eventId now).1 call := by
  obtain ⟨queue, hcalm⟩ := Calm.track settings eventName properties eventId now c
  refine calm (c := { c with queue := queue }) ⟨hclosing.schedule, ?_⟩ hcalm
  obtain ⟨point, ht, -⟩ := hclosing.suspended
  refine ⟨point, ht, ?_⟩
  rintro rfl
  rw [Client.settledAt, ht] at hopen
  cases hopen

/-- Another call goes on: the place of the shutdown moves with the removal. -/
theorem resume_other (hclosing : Closing c call)
    (h : c.resume settings task answer beacon now = some out) (hother : task ≠ call)
    (hreschedules : ¬Reschedules settings c (.resume task answer beacon now)) :
    ∃ place, c.follow call (.resume task answer beacon now) = some place ∧
      Closing out.1 place := by
  obtain ⟨point, ht, hqueue⟩ := hclosing.suspended
  obtain ⟨place, hplace, hsame⟩ := c.follow_other hother answer beacon now
  have hrest : Closing { c with tasks := c.tasks.eraseIdx task } place :=
    ⟨hclosing.schedule, point, hsame.trans ht, hqueue⟩
  exact ⟨place, hplace, hrest.calm (Calm.resume h hreschedules)⟩

/-- The flush of the shutdown goes on. -/
theorem resume_own (hclosing : Closing c call)
    (h : c.resume settings call answer beacon now = some out)
    (hopen : c.settledAt call = false)
    (hloses : ¬Loses settings c (.resume call answer beacon now))
    (hreschedules : ¬Reschedules settings c (.resume call answer beacon now)) :
    c.follow call (.resume call answer beacon now) = some (c.tasks.length - 1) ∧
      Closing out.1 (c.tasks.length - 1) := by
  obtain ⟨point, ht, -⟩ := hclosing.suspended
  have hpoint : point ≠ .settled := by
    rintro rfl
    rw [Client.settledAt, ht] at hopen
    cases hopen
  constructor
  · rw [Client.follow, if_neg (Nat.lt_irrefl call), if_pos rfl, hopen]
    rfl
  · obtain ⟨hcall, -⟩ := List.getElem?_eq_some_iff.mp ht
    have hcalm := Calm.resume h hreschedules
    rw [Client.resume, ht] at h
    obtain ⟨point', htasks, hqueue⟩ := (Client.flushResumed h).suspended hpoint
      fun hlost => hloses ⟨_, ht, hlost⟩
    refine ⟨hcalm.schedule hclosing.schedule, point', ?_, hqueue⟩
    have hlength : (c.tasks.eraseIdx call).length = c.tasks.length - 1 :=
      List.length_eraseIdx_of_lt hcall
    rw [htasks]
    simp [← hlength]

/-- The shutdown resolves: there is nothing in the queue and in the schedule. -/
theorem held_eq (hclosing : Closing c call)
    (hsettled : c.settledAt call = true) (hothers : ∀ t ∈ c.tasks, t.events = []) :
    c.held = 0 := by
  obtain ⟨point, ht, hqueue⟩ := hclosing.suspended
  obtain rfl : point = .settled := by
    rw [Client.settledAt, ht] at hsettled
    cases point with
    | settled => rfl
    | _ => cases hsettled
  have htasks : c.tasks.flatMap Task.events = [] := List.flatMap_eq_nil_iff.mpr hothers
  rw [Client.held, hqueue rfl, hclosing.schedule, htasks]
  rfl

end Closing

/-! ## What is seen of a step -/

/-- The output enters no event and hands none to `sendBeacon`. -/
def Output.Plain : Output P → Prop
  | .enqueued _ => False
  | .beaconed _ => False
  | _ => True

theorem entered_of_plain {outputs : List (Output P)} (h : ∀ o ∈ outputs, o.Plain) :
    entered outputs = 0 := by
  have hnone : outputs.flatMap Output.entered = [] := by
    apply List.flatMap_eq_nil_iff.mpr
    intro o ho
    cases o with
    | enqueued event => exact absurd (h _ ho) id
    | _ => rfl
  rw [entered, hnone]
  rfl

theorem settled_of_not_beaconed {outputs : List (Output P)}
    (h : ∀ events, .beaconed events ∉ outputs) : settled outputs = concluded outputs := by
  have hsame : outputs.flatMap Output.settled = outputs.flatMap Output.concluded := by
    apply List.flatMap_congr
    intro o ho
    cases o with
    | beaconed events => exact absurd ho (h events)
    | _ => rfl
  rw [settled, hsame, concluded]

namespace Client

variable {settings : Settings P} {c : Client P} {out : Effect P}

theorem plain_scheduleRetry (settings : Settings P) (scheduled : Bool)
    (items : List (QueuedEvent P)) (retryAfterMs : Option F64) (now : Int) (c : Client P) :
    ∀ o ∈ (c.scheduleRetry settings scheduled items retryAfterMs now).2, o.Plain := by
  unfold scheduleRetry
  dsimp only
  intro o ho
  have hreport : ∀ abandoned : List (QueuedEvent P),
      o ∈ (if abandoned.isEmpty then [] else [.reported (eventsOf abandoned)]) → o.Plain := by
    intro abandoned hmem
    split at hmem
    · cases hmem
    · obtain rfl := List.mem_singleton.mp hmem
      trivial
  split at ho
  · exact hreport _ ho
  · exact hreport _ ho

theorem plain_resumeFlush {scheduled : Bool} {now : Int} {point : Point P}
    (h : FlushResumed settings scheduled now c point out) : ∀ o ∈ out.2, o.Plain := by
  have hnone : ∀ o ∈ ([] : List (Output P)), o.Plain := nofun
  have hone (o : Output P) (ho : o.Plain) : ∀ o' ∈ [o], o'.Plain := by
    intro o' ho'
    rw [List.mem_singleton.mp ho']
    exact ho
  cases h with
  | attempted houtcome =>
    unfold attemptSend
    split
    · exact hone _ trivial
    · exact hone _ trivial
  | abandoned houtcome => exact hnone
  | responded status retryAfter =>
    unfold onResponse
    split
    · exact hone _ trivial
    · split
      · exact hnone
      · split
        · exact hnone
        · split
          · exact plain_scheduleRetry _ _ _ _ _ _
          · exact plain_scheduleRetry _ _ _ _ _ _
  | unreachable => exact plain_scheduleRetry _ _ _ _ _ _
  | refreshed houtcome => exact hone _ trivial
  | notRefreshed houtcome => exact hone _ trivial
  | acknowledged => exact hone _ trivial
  | failedAgain => exact plain_scheduleRetry _ _ _ _ _ _
  | refused => exact hone _ trivial
  | next => exact hnone
  | settled => exact hnone

/-- Only a beacon that is taken hands an event over. -/
theorem plain_resume {task : Nat} {answer : Answer} {beacon : Option Bool} {now : Int}
    (h : c.resume settings task answer beacon now = some out)
    (hbeacon : ¬BeaconTakes c (.resume task answer beacon now)) : ∀ o ∈ out.2, o.Plain := by
  unfold resume at h
  dsimp only at h
  split at h
  · cases h
  · exact plain_resumeFlush (flushResumed h)
  · split at h
    · unfold resumeBeaconToken at h
      split at h
      · cases h
      · obtain rfl := Option.some.inj h
        simp [Output.Plain]
      · split at h
        · obtain rfl := Option.some.inj h
          simp [Output.Plain]
        · obtain rfl := Option.some.inj h
          simp
    · cases h
  · rename_i items token htask
    have hfetch (ok : Bool) (hok : ok = answer.accepted) (rest : Client P) :
        ∀ o ∈ (rest.resumeBeaconFetch items token ok beacon).2, o.Plain := by
      unfold resumeBeaconFetch
      split
      · simp [Output.Plain]
      · rename_i hrefused
        split
        · -- taken by the beacon
          have hanswer : answer.accepted = false := by rw [← hok, Bool.eq_false_iff.mpr hrefused]
          exact absurd ⟨by rw [htask]; rfl, hanswer, rfl⟩ hbeacon
        · simp [Output.Plain]
        · simp [Output.Plain]
    split at h
    · obtain rfl := Option.some.inj h
      exact hfetch _ rfl _
    · obtain rfl := Option.some.inj h
      exact hfetch _ rfl _
    · cases h

/-- Only `track` enters an event, and only a beacon that is taken hands one over. -/
theorem plain_step {input : Input P} (h : c.step settings input = some out)
    (henqueues : ¬Enqueues c input) (hbeacon : ¬BeaconTakes c input) :
    ∀ o ∈ out.2, o.Plain := by
  cases stepped h with
  | track eventName properties eventId now =>
    have hactor : c.actorId = none := not_not.mp henqueues
    simp [Client.track, hactor, Output.Plain]
  | resume hresume => exact plain_resume hresume hbeacon
  | identify actorId tenantId => exact List.forall_mem_nil _
  | flush now => exact List.forall_mem_nil _
  | tick now htimer => exact List.forall_mem_nil _
  | pageHidden now hlistening => exact List.forall_mem_nil _
  | shutdown now => exact List.forall_mem_nil _
  | tokenAnswer htokens => exact List.forall_mem_nil _

theorem not_beaconed_step {input : Input P} (h : c.step settings input = some out)
    (hbeacon : ¬BeaconTakes c input) (events : List (DatacatEvent P)) :
    .beaconed events ∉ out.2 := by
  cases input with
  | track eventName properties eventId now =>
    obtain rfl := Option.some.inj h
    unfold track
    split
    · simp
    · dsimp only
      split <;> simp
  | _ => exact fun hmem => plain_step h id hbeacon _ hmem

end Client

/-! ## Runs -/

section Runs

variable {settings : Settings P} {start c c' : Client P} {labels : List (Label P)}

/-- A step of the client that keeps every event. -/
def KeepingStep (settings : Settings P) (c : Client P) (x : Label P) (c' : Client P) : Prop :=
  Keeps settings c x.1 ∧ Step settings c x c'

theorem balance_of_keeps {x : Label P} (h : KeepingStep settings c x c') :
    c.held + entered x.2 = c'.held + concluded x.2 := by
  obtain ⟨lost, hbalanced, hlost⟩ := Client.step_balanced h.2
  have hnone : lost = 0 := hlost.mpr h.1.loses
  have hconcluded := settled_of_not_beaconed (Client.not_beaconed_step h.2 h.1.beacon)
  rw [Client.Balanced, hnone, add_zero, add_zero, hconcluded] at hbalanced
  exact hbalanced

theorem concluded_append (first second : List (Output P)) :
    concluded (first ++ second) = concluded first + concluded second := by
  simp [concluded]

/-- Every event that entered is held, acknowledged or reported. -/
theorem balance_of_run (h : Run (KeepingStep settings) start labels c) (hstart : start.held = 0) :
    entered (outputsOf labels) = c.held + concluded (outputsOf labels) := by
  induction h with
  | nil =>
    rw [hstart]
    rfl
  | @snoc labels c c' x hrun hstep ih =>
    have hbalance := balance_of_keeps hstep
    calc entered (outputsOf (labels ++ [x]))
        = (c.held + entered x.2) + concluded (outputsOf labels) := by
          rw [outputsOf_snoc, entered_append, ih]
          abel
      _ = (c'.held + concluded x.2) + concluded (outputsOf labels) := by
          rw [hbalance]
      _ = c'.held + concluded (outputsOf (labels ++ [x])) := by
          rw [outputsOf_snoc, concluded_append]
          abel

/-- Until it resolves the shutdown is under way; from then on nothing is held. -/
def Watched.Inv (w : Watched P) : Prop :=
  match w.call with
  | some call => Closing w.client call
  | none => w.client.held = 0

/-- A step during the shutdown or after it. -/
def SettlingStep (settings : Settings P) (w : Watched P) (x : Label P) (w' : Watched P) : Prop :=
  Settles settings w x.1 ∧ w.Step settings x w'

theorem SettlingStep.keeping {w w' : Watched P} {x : Label P} (h : SettlingStep settings w x w') :
    KeepingStep settings w.client x w'.client := by
  obtain ⟨hsettles, hstep⟩ := h
  obtain ⟨⟨c, outputs⟩, hc, hw⟩ := Option.map_eq_some_iff.mp hstep
  obtain ⟨rfl, rfl⟩ := Prod.mk.inj hw
  exact ⟨hsettles.1, hc⟩

/-- A step that is no call going on leaves the shutdown where it is. -/
theorem Closing.step {call : Nat} {input : Input P} {out : Effect P} (hclosing : Closing c call)
    (horderly : Orderly settings c call input) (h : c.step settings input = some out)
    (hresume : ∀ task answer beacon now, input ≠ .resume task answer beacon now) :
    Closing out.1 call := by
  by_cases henqueues : Enqueues c input
  · have hopen : c.settledAt call = false := by
      apply Bool.eq_false_iff.mpr
      intro hsettled
      exact horderly.enqueues hsettled henqueues
    cases input with
    | track eventName properties eventId now =>
      obtain rfl := Option.some.inj h
      exact hclosing.track eventName properties eventId hopen
    | _ => exact absurd henqueues id
  · exact hclosing.calm (Calm.step h hresume henqueues)

theorem SettlingStep.inv {w w' : Watched P} {x : Label P} (h : SettlingStep settings w x w')
    (hinv : w.Inv) : w'.Inv := by
  have hbalance := balance_of_keeps h.keeping
  obtain ⟨⟨hkeeps, hsettles⟩, hstep⟩ := h
  obtain ⟨⟨c', outputs⟩, hc, hw⟩ := Option.map_eq_some_iff.mp hstep
  obtain ⟨rfl, rfl⟩ := Prod.mk.inj hw
  obtain ⟨c, call⟩ := w
  obtain ⟨input, outputs⟩ := x
  -- When nothing is held and nothing enters, nothing is held after the step.
  have hstays (hheld : c.held = 0) (henqueues : ¬Enqueues c input) : c'.held = 0 := by
    have hentered := entered_of_plain (Client.plain_step hc henqueues hkeeps.beacon)
    rw [hheld, hentered, zero_add] at hbalance
    exact (add_eq_zero.mp hbalance.symm).1
  cases call with
  | none => exact hstays hinv hsettles
  | some call =>
    dsimp only at hsettles hc hinv
    show Watched.Inv ⟨c', c.follow call input⟩
    by_cases hresume : ∃ task answer beacon now, input = .resume task answer beacon now
    · obtain ⟨task, answer, beacon, now, rfl⟩ := hresume
      by_cases hother : task = call
      · subst hother
        by_cases hsettled : c.settledAt task = true
        · -- the shutdown resolves
          have hfollow : c.follow task (.resume task answer beacon now) = none := by
            rw [Client.follow, if_neg (Nat.lt_irrefl task), if_pos rfl, if_pos hsettled]
          have hheld := Closing.held_eq hinv hsettled (hsettles.others hfollow)
          rw [hfollow]
          exact hstays hheld id
        · obtain ⟨hfollow, hclosing⟩ := Closing.resume_own hinv hc
            (Bool.eq_false_iff.mpr hsettled) hkeeps.loses hsettles.reschedules
          rw [hfollow]
          exact hclosing
      · obtain ⟨place, hfollow, hclosing⟩ := Closing.resume_other hinv hc hother
          hsettles.reschedules
        rw [hfollow]
        exact hclosing
    · have hnot : ∀ task answer beacon now, input ≠ .resume task answer beacon now :=
        fun task answer beacon now heq => hresume ⟨task, answer, beacon, now, heq⟩
      have hfollow : c.follow call input = some call := by
        cases input with
        | resume task answer beacon now => exact absurd rfl (hnot task answer beacon now)
        | _ => rfl
      rw [hfollow]
      exact Closing.step hinv hsettles hc hnot

/-- The call of `shutdown`, when every retry is due. -/
theorem closing_shutdown {now : Int} {outputs : List (Output P)}
    (hdue : ∀ item ∈ c.retrySchedule, item.notBefore.le (F64.ofInt now) = true)
    (hcall : Step settings c (.shutdown now, outputs) c') : Closing c' c.tasks.length := by
  obtain ⟨rfl, -⟩ := Prod.mk.inj (Option.some.inj hcall)
  have hschedule : (c.retrySchedule.filter fun item => !item.notBefore.le (F64.ofInt now)) = [] := by
    apply List.filter_eq_nil_iff.mpr
    intro item hitem
    simp [hdue item hitem]
  unfold Client.doFlush Client.flushLoop
  split
  · rename_i hempty
    refine ⟨hschedule, .settled, ?_, fun _ => List.isEmpty_iff.mp hempty⟩
    exact List.getElem?_concat_length
  · dsimp only
    split
    · exact ⟨hschedule, .next, List.getElem?_concat_length, fun h => by cases h⟩
    · exact ⟨hschedule, _, List.getElem?_concat_length, fun h => by cases h⟩

/-- **A shutdown that settles everything.** In every run in which no batch is lost or taken by
`sendBeacon`, every retry is due at the call, and each step until the shutdown has resolved is
orderly: from its resolution on, nothing is in the queue, in flight or in the schedule, and every
event that ever entered was acknowledged or reported. -/
theorem shutdown_settles {actorId tenantId : Option String} {listening : Bool}
    {before after : List (Label P)} {now : Int} {outputs : List (Output P)} {called : Client P}
    (hbefore : Run (KeepingStep settings) (.new actorId tenantId listening) before c)
    (hdue : ∀ item ∈ c.retrySchedule, item.notBefore.le (F64.ofInt now) = true)
    (hcall : Step settings c (.shutdown now, outputs) called)
    (hafter : Run (SettlingStep settings) ⟨called, some c.tasks.length⟩ after ⟨c', none⟩) :
    c'.held = 0 ∧ entered (outputsOf (before ++ (.shutdown now, outputs) :: after)) =
      concluded (outputsOf (before ++ (.shutdown now, outputs) :: after)) := by
  have hinv : Watched.Inv ⟨c', none⟩ :=
    hafter.invariant (closing_shutdown hdue hcall) fun _ _ _ hinv hstep => hstep.inv hinv
  have hheld : c'.held = 0 := hinv
  have hclient : Run (KeepingStep settings) called after c' :=
    hafter.map Watched.client fun _ _ _ hstep => hstep.keeping
  have hkeeps : KeepingStep settings c (.shutdown now, outputs) called := ⟨⟨id, id⟩, hcall⟩
  have hrun := Run.append_iff.mpr ⟨c, hbefore, Run.cons_iff.mpr ⟨called, hkeeps, hclient⟩⟩
  have hbalance := balance_of_run hrun rfl
  rw [hheld, zero_add] at hbalance
  exact ⟨hheld, hbalance⟩

end Runs

/-- Batches of two events, and no token in the cache for long. -/
def byTwos : Settings Unit :=
  { batchSize := F64.ofInt 2
    sessionId := "s"
    serializable := fun _ => true
    decodeExp := fun _ => 0 }

/-- One event waits in the queue. -/
def queued : Effect Unit := (Client.new (some "a") none false).track byTwos "signup" () "e1" 0

def queuedLabels : List (Label Unit) := [(.track "signup" () "e1" 0, queued.2)]

/-- The shutdown is called. -/
def shuttingDown : Watched Unit :=
  ⟨{ queued.1 with timer := false, listening := false }.doFlush byTwos false 1,
    some queued.1.tasks.length⟩

/-- The flush of the shutdown sends its batch, and goes on with the answer. -/
def answered (status : Nat) : List (Input Unit) :=
  [.tokenAnswer (some "t"), .resume 0 .goOn none 2, .resume 0 (.response status none) none 3,
    .resume 0 .goOn none 4, .resume 0 .goOn none 5]

/-- The batch is accepted. -/
theorem shutdown_settles_accepted : ∃ after c',
    Run (SettlingStep byTwos) shuttingDown after ⟨c', none⟩ ∧
      entered (outputsOf (queuedLabels ++ (.shutdown 1, []) :: after)) ≠ 0 ∧ c'.held = 0 := by
  let next (w : Watched Unit) (input : Input Unit) :=
    if Settles byTwos w input then w.step byTwos input else none
  have hout : (Run.replay next (answered 202) shuttingDown).any (fun out =>
      out.1.call.isNone && decide (entered (outputsOf (queuedLabels ++ out.2)) ≠ 0)) = true := by
    decide +kernel
  obtain ⟨⟨⟨c', call⟩, after⟩, hreplay, hchecks⟩ := (Option.any_eq_true _ _).mp hout
  obtain ⟨hresolved, hentered⟩ := (Bool.and_eq_true _ _).mp hchecks
  obtain rfl := Option.isNone_iff_eq_none.mp hresolved
  have hafter : Run (SettlingStep byTwos) shuttingDown after ⟨c', none⟩ := by
    apply (Run.of_replay hreplay).mono
    intro w x w' hnext
    exact (Option.ite_none_right_eq_some.mp hnext)
  have hbefore : Run (KeepingStep byTwos) (.new (some "a") none false) queuedLabels queued.1 :=
    Run.single ⟨⟨id, id⟩, rfl⟩
  have hschedule : queued.1.retrySchedule = [] := by decide +kernel
  have hdue : ∀ item ∈ queued.1.retrySchedule, item.notBefore.le (F64.ofInt 1) = true := by
    rw [hschedule]
    exact List.forall_mem_nil _
  obtain ⟨hheld, -⟩ := shutdown_settles hbefore hdue rfl hafter
  exact ⟨after, c', hafter, of_decide_eq_true hentered, hheld⟩

/-- The server fails, and the event waits for a retry that nobody makes. -/
theorem not_shutdown_settles :
    ¬∀ (settings : Settings Unit) (actorId tenantId : Option String) (listening : Bool)
      (before after : List (Label Unit)) (now : Int) (outputs : List (Output Unit))
      (c called c' : Client Unit),
      Run (Step settings) (.new actorId tenantId listening) before c →
      Step settings c (.shutdown now, outputs) called →
      Run (Watched.Step settings) ⟨called, some c.tasks.length⟩ after ⟨c', none⟩ →
      c'.held = 0 ∧ entered (outputsOf (before ++ (.shutdown now, outputs) :: after)) =
        concluded (outputsOf (before ++ (.shutdown now, outputs) :: after)) := by
  intro h
  have hout : (Run.replay (Watched.step byTwos) (answered 503) shuttingDown).any (fun out =>
      out.1.call.isNone && decide (out.1.client.held ≠ 0)) = true := by
    decide +kernel
  obtain ⟨⟨⟨c', call⟩, after⟩, hreplay, hchecks⟩ := (Option.any_eq_true _ _).mp hout
  obtain ⟨hresolved, hheld⟩ := (Bool.and_eq_true _ _).mp hchecks
  obtain rfl := Option.isNone_iff_eq_none.mp hresolved
  have hbefore : Run (Step byTwos) (.new (some "a") none false) queuedLabels queued.1 :=
    Run.single rfl
  have hafter : Run (Watched.Step byTwos) shuttingDown after ⟨c', none⟩ := Run.of_replay hreplay
  obtain ⟨hempty, -⟩ := h byTwos (some "a") none false _ _ _ _ _ _ _ hbefore rfl hafter
  exact absurd hempty (of_decide_eq_true hheld)

end Datacat.Sdk
