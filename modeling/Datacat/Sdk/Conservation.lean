import Datacat.Sdk.Client

/-!
# Conservation of the Events

An event that entered the queue is in one of three places: the queue, the batch of a suspended call
or an item of the retry schedule. It leaves them acknowledged, taken by `sendBeacon` or reported.
The balance of a step says what it moves. Two kinds of steps move events nowhere: a flush whose
token is refused, and a beacon whose body cannot be made.

## Main results

- `Client.step_balanced`: the balance of a step.
- `exists_balance`: the balance of a run, with all that was lost on the way.
- `accounted_iff`: every event is accounted for as long as no step loses its batch.
-/

namespace Datacat.Sdk

open Basics

variable {P : Type}

/-! ## Places -/

/-- The batch that a flush holds. -/
def Point.events : Point P → List (DatacatEvent P)
  | .token items _ _ => eventsOf items
  | .fetch items => eventsOf items
  | .refresh items _ => eventsOf items
  | .refetch items => eventsOf items
  | .text items => eventsOf items
  | .next => []
  | .settled => []

/-- The batch that a call holds. -/
def Task.events : Task P → List (DatacatEvent P)
  | .flush _ point => point.events
  | .beaconToken items _ => eventsOf items
  | .beaconFetch items _ => eventsOf items

def RetryItem.events (item : RetryItem P) : List (DatacatEvent P) := eventsOf item.items

/-- The events in the queue, in the batches in flight and in the retry schedule. -/
def Client.held (c : Client P) : Multiset (DatacatEvent P) :=
  eventsOf c.queue + c.tasks.flatMap Task.events + c.retrySchedule.flatMap RetryItem.events

/-- The event that enters the queue. -/
def Output.entered : Output P → List (DatacatEvent P)
  | .enqueued event => [event]
  | _ => []

/-- The events that leave the client: acknowledged by a 2xx answer, handed to an accepted
`sendBeacon` or reported through `onError`. -/
def Output.settled : Output P → List (DatacatEvent P)
  | .acknowledged events => events
  | .beaconed events => events
  | .reported events => events
  | .enqueued _ => []
  | .sent _ => []

def entered (outputs : List (Output P)) : Multiset (DatacatEvent P) :=
  outputs.flatMap Output.entered

def settled (outputs : List (Output P)) : Multiset (DatacatEvent P) :=
  outputs.flatMap Output.settled

/-- What was seen of a run. -/
def outputsOf (labels : List (Label P)) : List (Output P) := labels.flatMap Prod.snd

/-- Every event that entered the queue, as often as it did, is in one of the places of the client
or has left it. -/
def Accounted (labels : List (Label P)) (c : Client P) : Prop :=
  entered (outputsOf labels) ≤ c.held + settled (outputsOf labels)

instance [DecidableEq P] (labels : List (Label P)) (c : Client P) :
    Decidable (Accounted labels c) :=
  inferInstanceAs (Decidable (entered _ ≤ _))

section Outputs

@[simp] theorem entered_nil : entered ([] : List (Output P)) = 0 := rfl

@[simp] theorem settled_nil : settled ([] : List (Output P)) = 0 := rfl

@[simp] theorem entered_cons (o : Output P) (outputs : List (Output P)) :
    entered (o :: outputs) = o.entered + entered outputs := by
  simp [entered]

@[simp] theorem settled_cons (o : Output P) (outputs : List (Output P)) :
    settled (o :: outputs) = o.settled + settled outputs := by
  simp [settled]

theorem entered_append (first second : List (Output P)) :
    entered (first ++ second) = entered first + entered second := by
  simp [entered]

theorem settled_append (first second : List (Output P)) :
    settled (first ++ second) = settled first + settled second := by
  simp [settled]

theorem outputsOf_snoc (labels : List (Label P)) (x : Label P) :
    outputsOf (labels ++ [x]) = outputsOf labels ++ x.2 := by
  simp [outputsOf]

end Outputs

@[simp] theorem eventsOf_nil : eventsOf ([] : List (QueuedEvent P)) = [] := rfl

@[simp] theorem eventsOf_append (first second : List (QueuedEvent P)) :
    eventsOf (first ++ second) = eventsOf first ++ eventsOf second :=
  List.map_append

/-! ## Pieces of the steps -/

namespace Client

variable {settings : Settings P} {c c' : Client P} {items : List (QueuedEvent P)} {now : Int}
  {scheduled : Bool} {out : Effect P}

/-- The events before, with those handed over and those that enter, are the events after, with
those that leave and those that are lost. -/
def Balanced (c : Client P) (handed lost : Multiset (DatacatEvent P)) (out : Effect P) : Prop :=
  c.held + handed + entered out.2 = out.1.held + settled out.2 + lost

@[simp] theorem held_suspend (c : Client P) (task : Task P) :
    (c.suspend task).held = c.held + task.events := by
  simp only [held, suspend, List.flatMap_append, List.flatMap_cons, List.flatMap_nil,
    List.append_nil, ← Multiset.coe_add]
  abel

/-- The task that goes on hands its batch over. -/
theorem held_eraseIdx {i : Nat} {task : Task P} (h : c.tasks[i]? = some task) :
    c.held = { c with tasks := c.tasks.eraseIdx i }.held + task.events := by
  obtain ⟨hi, rfl⟩ := List.getElem?_eq_some_iff.mp h
  have hperm := (List.getElem_cons_eraseIdx_perm hi).flatMap_right Task.events
  have htasks : (c.tasks.flatMap Task.events : Multiset (DatacatEvent P)) =
      c.tasks[i].events + (c.tasks.eraseIdx i).flatMap Task.events := by
    rw [Multiset.coe_add]
    exact (Multiset.coe_eq_coe.mpr hperm).symm
  simp only [held]
  rw [htasks]
  abel

theorem eventsOf_foldl_requeue (due : List (RetryItem P)) (queue : List (QueuedEvent P)) :
    (eventsOf (due.foldl (fun queue item => item.items ++ queue) queue) :
      Multiset (DatacatEvent P)) = eventsOf queue + due.flatMap RetryItem.events := by
  induction due generalizing queue with
  | nil => simp
  | cons item due ih =>
    rw [List.foldl_cons, ih, eventsOf_append, List.flatMap_cons, ← Multiset.coe_add,
      ← Multiset.coe_add, RetryItem.events]
    abel

/-- What is due moves into the queue. -/
@[simp] theorem held_drainDueRetries (now : Int) (c : Client P) :
    (c.drainDueRetries now).held = c.held := by
  let isDue (item : RetryItem P) := item.notBefore.le (F64.ofInt now)
  have hperm := (List.filter_append_perm isDue c.retrySchedule).flatMap_right RetryItem.events
  have hschedule : (c.retrySchedule.flatMap RetryItem.events : Multiset (DatacatEvent P)) =
      (c.retrySchedule.filter isDue).flatMap RetryItem.events +
        (c.retrySchedule.filter fun item => !isDue item).flatMap RetryItem.events := by
    rw [Multiset.coe_add, ← List.flatMap_append]
    exact (Multiset.coe_eq_coe.mpr hperm).symm
  simp only [held, drainDueRetries]
  rw [eventsOf_foldl_requeue, hschedule]
  abel

/-- The next batch moves from the queue to the call. -/
@[simp] theorem held_flushLoop (settings : Settings P) (scheduled : Bool) (now : Int)
    (c : Client P) : (c.flushLoop settings scheduled now).held = c.held := by
  unfold flushLoop
  generalize dequeueCount settings.batchSize c.queue.length = count
  have hqueue : (eventsOf c.queue : Multiset (DatacatEvent P)) =
      eventsOf (c.queue.take count) + eventsOf (c.queue.drop count) := by
    rw [Multiset.coe_add, ← eventsOf_append, List.take_append_drop]
  split
  · rw [held_suspend]
    exact add_zero _
  · dsimp only
    split
    · rename_i hbatch
      rw [held_suspend, held, held, hqueue, hbatch]
      simp [Task.events, Point.events]
    · rw [held_suspend, held, held, hqueue]
      simp only [Task.events, Point.events]
      abel

@[simp] theorem held_doFlush (settings : Settings P) (scheduled : Bool) (now : Int)
    (c : Client P) : (c.doFlush settings scheduled now).held = c.held := by
  unfold doFlush
  rw [held_flushLoop, held_drainDueRetries]

@[simp] theorem held_scheduleFlush (settings : Settings P) (now : Int) (c : Client P) :
    (c.scheduleFlush settings now).held = c.held := by
  unfold scheduleFlush
  split
  · rfl
  · rw [held_doFlush]
    rfl

@[simp] theorem held_beaconFlush (now : Int) (c : Client P) :
    (c.beaconFlush now).held = c.held := by
  unfold beaconFlush
  dsimp only
  split
  · rw [held_drainDueRetries]
  · rw [held_suspend, ← held_drainDueRetries now c, held, held]
    simp only [Task.events, eventsOf_nil, Multiset.coe_nil]
    abel

/-! ## The balance of a suspended call -/

theorem balanced_attemptSend (settings : Settings P) (scheduled : Bool)
    (items : List (QueuedEvent P)) (token : String) (c : Client P) :
    Balanced c (eventsOf items) 0 (c.attemptSend settings scheduled items token) := by
  unfold Balanced attemptSend
  split
  · simp [Task.events, Point.events, Output.entered, Output.settled]
  · simp [Task.events, Point.events, Output.entered, Output.settled]

theorem balanced_acknowledge (scheduled : Bool) (items : List (QueuedEvent P)) (c : Client P) :
    Balanced c (eventsOf items) 0 (c.acknowledge scheduled items) := by
  simp [Balanced, acknowledge, Task.events, Point.events, Output.entered, Output.settled]

theorem balanced_giveUp (scheduled : Bool) (items : List (QueuedEvent P)) (c : Client P) :
    Balanced c (eventsOf items) 0 (c.giveUp scheduled items) := by
  simp [Balanced, giveUp, Task.events, Point.events, Output.entered, Output.settled]

/-- An event that may be tried again moves to the schedule, the others are reported. -/
theorem balanced_scheduleRetry (settings : Settings P) (scheduled : Bool)
    (items : List (QueuedEvent P)) (retryAfterMs : Option F64) (now : Int) (c : Client P) :
    Balanced c (eventsOf items) 0 (c.scheduleRetry settings scheduled items retryAfterMs now) := by
  let tooOften (i : QueuedEvent P) := decide (settings.maxRetries ≤ i.retryCount + 1)
  let nextItems := (items.filter fun i => !tooOften i).map fun i =>
    { i with retryCount := i.retryCount + 1 }
  have hnext : eventsOf nextItems = eventsOf (items.filter fun i => !tooOften i) := by
    unfold eventsOf nextItems
    rw [List.map_map]
    rfl
  -- Every event is tried too often or tried again.
  have hsplit : (eventsOf items : Multiset (DatacatEvent P)) =
      eventsOf (items.filter tooOften) + eventsOf nextItems := by
    have hperm := (List.filter_append_perm tooOften items).map QueuedEvent.event
    rw [hnext, Multiset.coe_add, ← eventsOf_append]
    exact (Multiset.coe_eq_coe.mpr hperm).symm
  have hreport : settled (if (items.filter tooOften).isEmpty then []
      else [.reported (eventsOf (items.filter tooOften))]) =
        (eventsOf (items.filter tooOften) : Multiset (DatacatEvent P)) := by
    cases hempty : items.filter tooOften with
    | nil => rfl
    | cons i rest => simp [Output.settled]
  have henter : entered (if (items.filter tooOften).isEmpty then []
      else [.reported (eventsOf (items.filter tooOften))]) = (0 : Multiset (DatacatEvent P)) := by
    cases items.filter tooOften with
    | nil => rfl
    | cons i rest => simp [Output.entered]
  have hschedule (item : RetryItem P) (c : Client P) :
      { c with retrySchedule := c.retrySchedule ++ [item] }.held = c.held + item.events := by
    simp only [held, List.flatMap_append, List.flatMap_cons, List.flatMap_nil, List.append_nil,
      ← Multiset.coe_add]
    abel
  unfold Balanced scheduleRetry
  dsimp only
  split
  · rename_i hmin
    -- None is left to be scheduled.
    have hnone : nextItems = [] := List.map_eq_nil_iff.mp (List.min?_eq_none_iff.mp hmin)
    rw [henter, hreport, held_suspend, hsplit, hnone]
    simp [Task.events, Point.events]
  · rw [henter, hreport, hschedule, held_suspend, hsplit]
    simp only [Task.events, Point.events, RetryItem.events, Multiset.coe_nil]
    abel

theorem balanced_onResponse (settings : Settings P) (scheduled : Bool)
    (items : List (QueuedEvent P)) (status : Nat) (retryAfter : Option F64) (now : Int)
    (c : Client P) :
    Balanced c (eventsOf items) 0
      (c.onResponse settings scheduled items status retryAfter now) := by
  unfold onResponse
  split
  · exact balanced_acknowledge scheduled items c
  · split
    · simp only [Balanced, held_suspend]
      simp [held, Task.events, Point.events]
    · split
      · simp [Balanced, Task.events, Point.events]
      · split
        · exact balanced_scheduleRetry settings scheduled items _ now c
        · exact balanced_scheduleRetry settings scheduled items _ now c

end Client

/-! ## Losses -/

/-- The call lets its batch go when it goes on: a flush whose token was refused, a beacon with a
token but an event that `JSON.stringify` does not accept. -/
def Task.Loses (settings : Settings P) (tokens : TokenManager) : Task P → Prop
  | .flush _ (.token _ _ promise) => tokens.outcome promise = some none
  | .beaconToken items promise =>
    (∃ token, tokens.outcome promise = some (some token)) ∧
      ∃ e ∈ eventsOf items, settings.serializable e.properties = false
  | _ => False

/-- The step lets a batch go. -/
def Loses (settings : Settings P) (c : Client P) : Input P → Prop
  | .resume task _ _ _ => ∃ t, c.tasks[task]? = some t ∧ t.Loses settings c.tokens
  | _ => False

namespace Client

variable {settings : Settings P} {c c' : Client P} {items : List (QueuedEvent P)} {now : Int}
  {scheduled : Bool} {out : Effect P}

theorem balanced_resumeFlush {point : Point P}
    (h : FlushResumed settings scheduled now c point out) :
    ∃ lost, Balanced c point.events lost out ∧
      (lost = 0 ↔ ¬ (Task.flush scheduled point).Loses settings c.tokens) := by
  cases h with
  | @attempted items _ _ token houtcome =>
    refine ⟨0, balanced_attemptSend settings scheduled items token c, ?_⟩
    simp [Task.Loses, houtcome]
  | @abandoned items nonempty _ houtcome =>
    -- the batch is in no place any more
    refine ⟨eventsOf items, ?_, ?_⟩
    · simp [Balanced, Task.events, Point.events]
    · simp [Task.Loses, houtcome, eventsOf, nonempty]
  | @responded items status retryAfter =>
    refine ⟨0, ?_, by simp [Task.Loses]⟩
    exact balanced_onResponse settings scheduled items status retryAfter now c
  | @unreachable items =>
    refine ⟨0, ?_, by simp [Task.Loses]⟩
    exact balanced_scheduleRetry settings scheduled items none now c
  | refreshed houtcome =>
    refine ⟨0, ?_, by simp [Task.Loses]⟩
    simp [Balanced, Task.events, Point.events, Output.entered, Output.settled]
  | @notRefreshed items _ houtcome =>
    exact ⟨0, balanced_giveUp scheduled items c, by simp [Task.Loses]⟩
  | @acknowledged items =>
    exact ⟨0, balanced_acknowledge scheduled items c, by simp [Task.Loses]⟩
  | @failedAgain items =>
    refine ⟨0, ?_, by simp [Task.Loses]⟩
    exact balanced_scheduleRetry settings scheduled items none now c
  | @refused items => exact ⟨0, balanced_giveUp scheduled items c, by simp [Task.Loses]⟩
  | next =>
    refine ⟨0, ?_, by simp [Task.Loses]⟩
    simp [Balanced, Point.events]
  | settled =>
    refine ⟨0, ?_, by simp [Task.Loses]⟩
    simp [Balanced, Point.events, held]

theorem balanced_resumeBeaconToken {promise : Promise}
    (h : c.resumeBeaconToken settings items promise = some out) :
    ∃ lost, Balanced c (eventsOf items) lost out ∧
      (lost = 0 ↔ ¬ (Task.beaconToken items promise).Loses settings c.tokens) := by
  unfold resumeBeaconToken at h
  split at h
  · cases h
  · rename_i houtcome
    obtain rfl := Option.some.inj h
    refine ⟨0, ?_, ?_⟩
    · simp [Balanced, Output.entered, Output.settled]
    · simp [Task.Loses, houtcome]
  · rename_i token houtcome
    split at h
    · rename_i hall
      obtain rfl := Option.some.inj h
      refine ⟨0, ?_, ?_⟩
      · simp [Balanced, Task.events, Output.entered, Output.settled]
      · refine iff_of_true rfl ?_
        -- The beacon has all of them.
        rintro ⟨-, e, he, hserial⟩
        rw [List.all_eq_true.mp hall e he] at hserial
        cases hserial
    · rename_i hall
      obtain rfl := Option.some.inj h
      refine ⟨eventsOf items, ?_, ?_⟩
      · simp [Balanced]
      · obtain ⟨e, he, hserial⟩ : ∃ e ∈ eventsOf items,
            settings.serializable e.properties = false := by
          simpa using hall
        -- One event has no body, and the whole batch is let go.
        apply iff_of_false
        · intro hempty
          rw [(Multiset.coe_eq_zero _).mp hempty] at he
          cases he
        · exact not_not.mpr ⟨⟨token, houtcome⟩, e, he, hserial⟩

theorem balanced_resumeBeaconFetch (items : List (QueuedEvent P)) (token : String) (ok : Bool)
    (beacon : Option Bool) (c : Client P) :
    Balanced c (eventsOf items) 0 (c.resumeBeaconFetch items token ok beacon) := by
  unfold resumeBeaconFetch
  split
  · simp [Balanced, Output.entered, Output.settled]
  · cases beacon with
    | none => simp [Balanced, Output.entered, Output.settled]
    | some taken =>
      cases taken with
      | false => simp [Balanced, Output.entered, Output.settled]
      | true => simp [Balanced, Output.entered, Output.settled]

/-! ## The balance of a step -/

theorem balanced_resume {task : Nat} {answer : Answer} {beacon : Option Bool}
    (h : c.resume settings task answer beacon now = some out) :
    ∃ lost, Balanced c 0 lost out ∧
      (lost = 0 ↔ ¬ Loses settings c (.resume task answer beacon now)) := by
  -- What is handed to the call is what its removal takes from the state.
  have hrest : ∀ t lost, c.tasks[task]? = some t →
      Balanced { c with tasks := c.tasks.eraseIdx task } t.events lost out →
      (lost = 0 ↔ ¬ t.Loses settings c.tokens) →
      ∃ lost, Balanced c 0 lost out ∧
        (lost = 0 ↔ ¬ Loses settings c (.resume task answer beacon now)) := by
    intro t lost ht hbalanced hlost
    refine ⟨lost, ?_, ?_⟩
    · unfold Balanced at hbalanced ⊢
      rw [held_eraseIdx ht, add_zero, hbalanced]
    · rw [hlost]
      unfold Loses
      simp [ht]
  unfold resume at h
  split at h
  · cases h
  · rename_i scheduled point ht
    obtain ⟨lost, hbalanced, hlost⟩ := balanced_resumeFlush (flushResumed h)
    exact hrest _ lost ht hbalanced hlost
  · rename_i items promise ht
    split at h
    · obtain ⟨lost, hbalanced, hlost⟩ := balanced_resumeBeaconToken h
      exact hrest _ lost ht hbalanced hlost
    · cases h
  · rename_i items token ht
    split at h
    · obtain rfl := Option.some.inj h
      exact hrest _ 0 ht (balanced_resumeBeaconFetch items token _ beacon _) (by simp [Task.Loses])
    · obtain rfl := Option.some.inj h
      exact hrest _ 0 ht (balanced_resumeBeaconFetch items token _ beacon _) (by simp [Task.Loses])
    · cases h

/-- The queue with the event, and what leaves it to make room. -/
theorem enqueue_events (maxSize : Nat) (queue : List (QueuedEvent P)) (event : DatacatEvent P) :
    (eventsOf (enqueue maxSize queue event).1 : Multiset (DatacatEvent P)) +
      (enqueue maxSize queue event).2 = eventsOf queue + ([event] : List (DatacatEvent P)) := by
  generalize hn : (if maxSize ≤ queue.length then queue.length - maxSize + 1 else 0) = excess
  have hqueue : (eventsOf queue : Multiset (DatacatEvent P)) =
      eventsOf (queue.take excess) + eventsOf (queue.drop excess) := by
    rw [Multiset.coe_add, ← eventsOf_append, List.take_append_drop]
  unfold enqueue
  rw [hn, hqueue]
  dsimp only
  rw [eventsOf_append, ← Multiset.coe_add]
  have hevent : (eventsOf [⟨event, 0⟩] : Multiset (DatacatEvent P)) = [event] := rfl
  rw [hevent]
  abel

/-- The event enters; what it drives out is reported. -/
theorem balanced_track (settings : Settings P) (eventName : String) (properties : P)
    (eventId : String) (now : Int) (c : Client P) :
    Balanced c 0 0 (c.track settings eventName properties eventId now) := by
  unfold track
  split
  · simp [Balanced, Output.entered, Output.settled]
  · rename_i actorId hactor
    dsimp only
    generalize hevent : DatacatEvent.mk eventId eventName actorId settings.sessionId
      (toISOString now) _ c.tenantId = event
    have hqueue := enqueue_events settings.maxQueueSize c.queue event
    generalize henqueue : enqueue settings.maxQueueSize c.queue event = result at hqueue
    obtain ⟨queue, dropped⟩ := result
    have hheld : { c with queue := queue }.held + (dropped : Multiset (DatacatEvent P)) =
        c.held + ([event] : List (DatacatEvent P)) := by
      calc { c with queue := queue }.held + (dropped : Multiset (DatacatEvent P))
          = (eventsOf queue + dropped : Multiset (DatacatEvent P)) +
              (c.tasks.flatMap Task.events + c.retrySchedule.flatMap RetryItem.events) := by
            simp only [held]
            abel
        _ = (eventsOf c.queue + ([event] : List (DatacatEvent P)) : Multiset (DatacatEvent P)) +
              (c.tasks.flatMap Task.events + c.retrySchedule.flatMap RetryItem.events) := by
            rw [hqueue]
        _ = c.held + ([event] : List (DatacatEvent P)) := by
            simp only [held]
            abel
    have hflush : (if settings.batchSize.le (F64.ofInt queue.length) then
        { c with queue := queue }.scheduleFlush settings now else { c with queue := queue }).held =
          { c with queue := queue }.held := by
      split
      · exact held_scheduleFlush _ _ _
      · rfl
    dsimp only at hqueue
    simp only [Balanced, hflush]
    split
    · simp only [entered_cons, settled_cons, Output.entered, Output.settled, entered_nil,
        settled_nil, Multiset.coe_nil, add_zero, zero_add]
      exact hheld.symm
    · rename_i hroom
      -- Nothing was driven out.
      have hdropped : dropped = [] := by
        have h := congrArg Prod.snd henqueue
        rw [enqueue, if_neg hroom] at h
        exact h.symm
      rw [hdropped] at hheld
      simp only [entered_cons, settled_cons, Output.entered, Output.settled, entered_nil,
        settled_nil, Multiset.coe_nil, add_zero] at hheld ⊢
      exact hheld.symm

theorem step_balanced {input : Input P} (h : c.step settings input = some out) :
    ∃ lost, Balanced c 0 lost out ∧ (lost = 0 ↔ ¬ Loses settings c input) := by
  cases stepped h with
  | identify actorId tenantId =>
    exact ⟨0, by simp [Balanced, held], by simp [Loses]⟩
  | track eventName properties eventId now =>
    exact ⟨0, balanced_track settings eventName properties eventId now c, by simp [Loses]⟩
  | flush now =>
    refine ⟨0, ?_, by simp [Loses]⟩
    unfold Balanced
    split <;> simp
  | tick now htimer =>
    exact ⟨0, by simp [Balanced], by simp [Loses]⟩
  | pageHidden now hlistening =>
    exact ⟨0, by simp [Balanced], by simp [Loses]⟩
  | shutdown now =>
    refine ⟨0, ?_, by simp [Loses]⟩
    rw [Balanced, held_doFlush]
    rfl
  | tokenAnswer htokens =>
    exact ⟨0, by simp [Balanced, held], by simp [Loses]⟩
  | resume hresume => exact balanced_resume hresume

end Client

/-! ## Runs -/

section Runs

variable {settings : Settings P} {start c : Client P} {labels : List (Label P)}

/-- No step of the run lets a batch go. -/
def LosesNothing (settings : Settings P) (start : Client P) (labels : List (Label P)) : Prop :=
  ∀ before x after mid, labels = before ++ x :: after → Run (Step settings) start before mid →
    ¬ Loses settings mid x.1

theorem losesNothing_snoc {x : Label P} (h : Run (Step settings) start labels c) :
    LosesNothing settings start (labels ++ [x]) ↔
      LosesNothing settings start labels ∧ ¬ Loses settings c x.1 :=
  @Run.eachStep_snoc _ _ (Step settings) start (fun _ mid y => ¬ Loses settings mid y.1) labels x c
    (fun _ _ _ _ => Step.unique) h

/-- The balance of a run: what entered is held, has left or was lost on the way. -/
theorem exists_balance (h : Run (Step settings) start labels c) (hstart : start.held = 0) :
    ∃ lost, entered (outputsOf labels) = c.held + settled (outputsOf labels) + lost ∧
      (lost = 0 ↔ LosesNothing settings start labels) := by
  induction h with
  | nil =>
    refine ⟨0, ?_, iff_of_true rfl ?_⟩
    · rw [hstart]
      rfl
    · intro before x after mid hlabels
      simp at hlabels
  | @snoc labels c c' x hrun hstep ih =>
    obtain ⟨lost, hbalance, hlost⟩ := ih
    obtain ⟨lost', hbalanced, hlost'⟩ := Client.step_balanced hstep
    refine ⟨lost + lost', ?_, ?_⟩
    · -- The balance of the step on top of the balance of the run.
      rw [Client.Balanced, add_zero] at hbalanced
      calc entered (outputsOf (labels ++ [x]))
          = (c.held + entered x.2) + settled (outputsOf labels) + lost := by
            rw [outputsOf_snoc, entered_append, hbalance]
            abel
        _ = (c'.held + settled x.2 + lost') + settled (outputsOf labels) + lost := by
            rw [hbalanced]
        _ = c'.held + settled (outputsOf (labels ++ [x])) + (lost + lost') := by
            rw [outputsOf_snoc, settled_append]
            abel
    · rw [losesNothing_snoc hrun, ← hlost, ← hlost']
      exact add_eq_zero

/-- **Conservation of the events.** In every run of a new client, every event that entered the
queue is accounted for exactly when no step of the run lets a batch go. -/
theorem accounted_iff {actorId tenantId : Option String} {listening : Bool}
    (h : Run (Step settings) (.new actorId tenantId listening) labels c) :
    Accounted labels c ↔ LosesNothing settings (.new actorId tenantId listening) labels := by
  obtain ⟨lost, hbalance, hlost⟩ := exists_balance h rfl
  rw [← hlost, Accounted, hbalance, add_le_iff_nonpos_right]
  exact nonpos_iff_eq_zero

end Runs

/-- Batches of one event, and no token in the cache for long. -/
def oneByOne : Settings Unit :=
  { batchSize := F64.ofInt 1
    sessionId := "s"
    serializable := fun _ => true
    decodeExp := fun _ => 0 }

/-- An event is tracked, and its flush goes on when the token has been answered. -/
def tracked (answer : Option String) : List (Input Unit) :=
  [.identify "a" none, .track "signup" () "e1" 0, .tokenAnswer answer, .resume 0 .goOn none 0]

/-- A refused batch waits for its retry. -/
theorem accounted_iff_refused : ∃ labels c,
    Run (Step oneByOne) (.new none none false) labels c ∧ entered (outputsOf labels) ≠ 0 ∧
      LosesNothing oneByOne (.new none none false) labels := by
  have hout : (replay oneByOne (tracked (some "t") ++ [.resume 0 (.response 503 none) none 9])
      (.new none none false)).any (fun out => decide (Accounted out.2 out.1) &&
        decide (entered (outputsOf out.2) ≠ 0)) = true := by decide +kernel
  obtain ⟨⟨c, labels⟩, hreplay, hchecks⟩ := (Option.any_eq_true _ _).mp hout
  obtain ⟨haccounted, hentered⟩ := (Bool.and_eq_true _ _).mp hchecks
  have hrun := run_replay hreplay
  exact ⟨labels, c, hrun, of_decide_eq_true hentered,
    (accounted_iff hrun).mp (of_decide_eq_true haccounted)⟩

/-- The token is refused, and the batch is gone. -/
theorem not_accounted_rejected : ∃ labels c,
    Run (Step oneByOne) (.new none none false) labels c ∧ ¬ Accounted labels c := by
  have hout : (replay oneByOne (tracked none) (.new none none false)).any
      (fun out => decide (¬ Accounted out.2 out.1)) = true := by decide +kernel
  obtain ⟨⟨c, labels⟩, hreplay, hlost⟩ := (Option.any_eq_true _ _).mp hout
  exact ⟨labels, c, run_replay hreplay, of_decide_eq_true hlost⟩

end Datacat.Sdk
