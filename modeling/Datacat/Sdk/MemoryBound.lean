import Datacat.Sdk.BatchBound
import Datacat.Sdk.Shutdown

/-!
# The Memory of the Client

The queue makes room for a new event by dropping its oldest ones. The events that wait in the retry
schedule are not counted there, neither when an event is tracked nor when a batch comes back, and
batches that are due together enter the queue in the order opposite to theirs.

## Main results

- `Client.waiting_step`: how many events wait after a step.
- `waiting_le_iff`: when the bound is kept throughout a run.
- `memory_bounded`: the bound of a run, and what its overflows drop.
-/

namespace Datacat.Sdk

open Basics

variable {P : Type}

/-! ## What waits -/

/-- The events of the retry schedule. -/
def Client.scheduledEvents (c : Client P) : List (DatacatEvent P) :=
  c.retrySchedule.flatMap RetryItem.events

/-- The events in the queue and in the retry schedule. -/
def Client.waiting (c : Client P) : List (DatacatEvent P) := eventsOf c.queue ++ c.scheduledEvents

def Settings.capacity (settings : Settings P) : Nat := max settings.maxQueueSize 1

/-- The events of a batch that may be tried again. -/
def Settings.retriable (settings : Settings P) (items : List (QueuedEvent P)) :
    List (QueuedEvent P) :=
  items.filter fun i => !decide (settings.maxRetries ≤ i.retryCount + 1)

/-- The queue and the schedule together have room for what the step brings: for a new event, unless
the schedule is empty or the flush that starts takes as much, and for a batch that failed. -/
def HasRoom (settings : Settings P) (c : Client P) : Input P → Prop
  | .track eventName properties eventId now =>
    c.actorId ≠ none →
      min (c.queue.length + 1) settings.capacity + c.scheduledEvents.length ≤
        settings.capacity + dequeueCount settings.batchSize
          (flushFinds settings c (.track eventName properties eventId now))
  | .resume task answer _ _ => ∀ t ∈ c.tasks[task]?,
      (settings.retriable (t.failed answer)).length ≤ settings.capacity - c.waiting.length
  | _ => True

/-! ## Age -/

/-- The events that entered the queue, oldest first. -/
def enteredEvents (labels : List (Label P)) : List (DatacatEvent P) :=
  (outputsOf labels).flatMap Output.entered

/-- The instant at which the step moves the retries that are due into the queue, if it does. -/
def drainsAt (settings : Settings P) (c : Client P) : Input P → Option Int
  | .track _ _ _ now =>
    let length := min (c.queue.length + 1) settings.capacity
    if c.actorId.isSome && !c.flushing && settings.batchSize.le (F64.ofInt length) then some now
    else none
  | .flush now => if c.flushing then none else some now
  | .tick now => if c.flushing then none else some now
  | .pageHidden now => some now
  | .shutdown now => some now
  | _ => none

/-- The retries that are due, the one scheduled last at the front, and the queue behind them are in
the order in which the events entered. -/
def DrainsInOrder (settings : Settings P) (before : List (Label P)) (c : Client P)
    (input : Input P) : Prop :=
  ∀ now ∈ drainsAt settings c input,
    (eventsOf (c.drainDueRetries now).queue).Sublist (enteredEvents before)

/-- An event is tracked that the queue has no place for. -/
def Overflows (settings : Settings P) (c : Client P) : Input P → Prop
  | .track _ _ _ _ => c.actorId ≠ none ∧ settings.maxQueueSize ≤ c.queue.length
  | _ => False

/-- What leaves the client in the step, to make room for the event that enters, is reported. -/
def Reports (c : Client P) (x : Label P) (c' : Client P) (dropped : List (DatacatEvent P)) : Prop :=
  ∃ event, x.2 = [.reported dropped, .enqueued event] ∧
    c.held + ([event] : List (DatacatEvent P)) = c'.held + (dropped : Multiset (DatacatEvent P))

/-- What is dropped entered before everything else that waits. -/
def Oldest (before : List (Label P)) (c : Client P) (dropped : List (DatacatEvent P)) : Prop :=
  ∀ d ∈ dropped, ∀ e ∈ c.waiting, e ∉ dropped → [d, e].Sublist (enteredEvents before)

instance [DecidableEq P] (before : List (Label P)) (c : Client P) (dropped : List (DatacatEvent P)) :
    Decidable (Oldest before c dropped) :=
  inferInstanceAs (Decidable (∀ d ∈ dropped, ∀ e ∈ c.waiting, _ → _))

/-! ## How many wait -/

namespace Client

variable {settings : Settings P} {c : Client P} {items : List (QueuedEvent P)} {now : Int}
  {scheduled : Bool} {out : Effect P}

theorem dequeueCount_zero (n : F64) : dequeueCount n 0 = 0 :=
  Nat.le_zero.mp (dequeueCount_le n 0)

theorem length_waiting (c : Client P) :
    c.waiting.length = c.queue.length + c.scheduledEvents.length := by
  rw [waiting, List.length_append, eventsOf, List.length_map]

theorem length_scheduledEvents_drain (now : Int) (c : Client P) :
    (c.drainDueRetries now).scheduledEvents.length + c.dueEvents now =
      c.scheduledEvents.length := by
  let isDue (item : RetryItem P) := item.notBefore.le (F64.ofInt now)
  have hdue : c.dueEvents now = ((c.retrySchedule.filter isDue).flatMap RetryItem.events).length := by
    simp only [dueEvents, List.length_flatMap, RetryItem.events, eventsOf, List.length_map]
    rfl
  have hperm := (List.filter_append_perm isDue c.retrySchedule).flatMap_right RetryItem.events
  have hlength := hperm.length_eq
  rw [List.flatMap_append, List.length_append] at hlength
  rw [hdue, add_comm]
  exact hlength

/-- What is due moves. -/
theorem waiting_drainDueRetries (now : Int) (c : Client P) :
    (c.drainDueRetries now).waiting.length = c.waiting.length := by
  have hschedule := length_scheduledEvents_drain now c
  have hqueue := length_drainDueRetries now c
  rw [length_waiting, length_waiting]
  omega

/-- A flush takes its batch. -/
theorem waiting_flushLoop :
    (c.flushLoop settings scheduled now).waiting.length +
      dequeueCount settings.batchSize c.queue.length = c.waiting.length := by
  have hcount := dequeueCount_le settings.batchSize c.queue.length
  have hwaiting := length_waiting c
  unfold flushLoop
  split
  · rename_i hempty
    have hqueue : c.queue.length = 0 := by rw [List.isEmpty_iff.mp hempty, List.length_nil]
    show c.waiting.length + _ = _
    omega
  · have hdropped (count : Nat) (hcount : count ≤ c.queue.length) :
        { c with queue := c.queue.drop count }.waiting.length + count = c.waiting.length := by
      have hlength := length_waiting { c with queue := c.queue.drop count }
      rw [List.length_drop] at hlength
      have hschedule : { c with queue := c.queue.drop count }.scheduledEvents = c.scheduledEvents :=
        rfl
      rw [hschedule] at hlength
      omega
    dsimp only
    split
    · exact hdropped _ hcount
    · exact hdropped _ hcount

theorem waiting_doFlush :
    (c.doFlush settings scheduled now).waiting.length +
      dequeueCount settings.batchSize (c.queue.length + c.dueEvents now) = c.waiting.length := by
  rw [doFlush, ← length_drainDueRetries, waiting_flushLoop, waiting_drainDueRetries]

theorem waiting_scheduleFlush :
    (c.scheduleFlush settings now).waiting.length + dequeueCount settings.batchSize
      (if c.flushing then 0 else c.queue.length + c.dueEvents now) = c.waiting.length := by
  unfold scheduleFlush
  split
  · rename_i hflushing
    rw [dequeueCount_zero, add_zero]
  · exact waiting_doFlush

theorem waiting_beaconFlush_le : (c.beaconFlush now).waiting.length ≤ c.waiting.length := by
  have hdrain := waiting_drainDueRetries now c
  have hwaiting := length_waiting (c.drainDueRetries now)
  unfold beaconFlush
  dsimp only
  split
  · exact hdrain.le
  · rw [← hdrain, hwaiting]
    exact Nat.le_add_left _ _

theorem waiting_scheduleRetry {wait : Option F64} :
    (c.scheduleRetry settings scheduled items wait now).1.waiting.length =
      c.waiting.length + (settings.retriable items).length := by
  unfold scheduleRetry Settings.retriable
  generalize (items.filter fun i => !decide (settings.maxRetries ≤ i.retryCount + 1)) = retriable
  dsimp only
  split
  · rename_i hnone
    have hempty : retriable = [] := by simpa using hnone
    rw [hempty]
    rfl
  · simp only [waiting, scheduledEvents, suspend, List.flatMap_append, List.flatMap_cons,
      List.flatMap_nil, List.append_nil, List.length_append, RetryItem.events, eventsOf,
      List.length_map]
    omega

/-- A new event waits beside those that leave it no place in the queue. -/
theorem waiting_track {eventName eventId : String} {properties : P} (hactor : c.actorId ≠ none) :
    (c.track settings eventName properties eventId now).1.waiting.length +
        dequeueCount settings.batchSize
          (flushFinds settings c (.track eventName properties eventId now)) =
      min (c.queue.length + 1) settings.capacity + c.scheduledEvents.length := by
  rcases track_cases settings eventName properties eventId now c with ⟨hnone, -⟩ |
    ⟨event, queue, dropped, hsome, -, henqueue, htrack⟩
  · exact absurd hnone hactor
  · have hlength := length_enqueue settings.maxQueueSize c.queue event
    rw [henqueue] at hlength
    dsimp only at hlength
    have hwaiting : { c with queue := queue }.waiting.length =
        min (c.queue.length + 1) settings.capacity + c.scheduledEvents.length := by
      rw [length_waiting, hlength]
      rfl
    rw [htrack, ← hwaiting]
    dsimp only
    split
    · rename_i hfull
      have hfinds : flushFinds settings c (.track eventName properties eventId now) =
          if c.flushing then 0 else queue.length + c.dueEvents now := by
        rw [flushFinds, hsome, ← hlength, hfull]
        cases c.flushing <;> rfl
      rw [hfinds]
      exact waiting_scheduleFlush
    · rename_i hsmall
      have hfinds : flushFinds settings c (.track eventName properties eventId now) = 0 := by
        rw [flushFinds, ← hlength, Bool.eq_false_iff.mpr hsmall, Bool.and_false]
        rfl
      rw [hfinds, dequeueCount_zero, add_zero]

/-- As long as no more wait than may, the room that the step finds decides. -/
theorem waiting_step {input : Input P} (h : c.step settings input = some out)
    (hbound : c.waiting.length ≤ settings.capacity) :
    out.1.waiting.length ≤ settings.capacity ↔ HasRoom settings c input := by
  cases stepped h with
  | track eventName properties eventId now =>
    unfold HasRoom
    by_cases hactor : c.actorId = none
    · refine iff_of_true ?_ fun hsome => absurd hactor hsome
      unfold track
      rw [hactor]
      exact hbound
    · have hwaiting := @waiting_track _ settings c now eventName eventId properties hactor
      constructor
      · intro hle _
        omega
      · intro hroom
        have hroom := hroom hactor
        omega
  | @resume task answer beacon now out hresume =>
    obtain ⟨call, hcall, hcases⟩ := resume_cases hresume
    have hroom : HasRoom settings c (.resume task answer beacon now) ↔
        (settings.retriable (call.failed answer)).length ≤
          settings.capacity - c.waiting.length := by
      simp [HasRoom, hcall]
    rw [hroom]
    rcases hcases with ⟨scheduled, rfl⟩ | ⟨hfailed, hcases⟩
    · rw [waiting_scheduleRetry]
      show c.waiting.length + _ ≤ _ ↔ _
      omega
    · -- Nothing comes back, so that no room is needed.
      refine iff_of_true ?_ (by rw [hfailed]; exact Nat.zero_le _)
      rcases hcases with ⟨scheduled, -, rfl⟩ | ⟨tokens, flushing, tasks, -, hout⟩
      · exact (Nat.le_of_add_right_le waiting_flushLoop.le).trans hbound
      · rw [hout]
        exact hbound
  | identify actorId tenantId =>
    exact iff_of_true hbound trivial
  | flush now =>
    refine iff_of_true ?_ trivial
    dsimp only
    split
    · exact hbound
    · exact (Nat.le_of_add_right_le waiting_doFlush.le).trans hbound
  | tick now htimer =>
    refine iff_of_true ?_ trivial
    unfold scheduleFlush
    split
    · exact hbound
    · exact (Nat.le_of_add_right_le waiting_doFlush.le).trans hbound
  | pageHidden now hlistening =>
    exact iff_of_true (waiting_beaconFlush_le.trans hbound) trivial
  | shutdown now =>
    exact iff_of_true ((Nat.le_of_add_right_le waiting_doFlush.le).trans hbound) trivial
  | tokenAnswer htokens =>
    exact iff_of_true hbound trivial

end Client

/-! ## The order of the queue -/

theorem foldl_requeue (due : List (RetryItem P)) (queue : List (QueuedEvent P)) :
    due.foldl (fun queue item => item.items ++ queue) queue =
      due.reverse.flatMap RetryItem.items ++ queue := by
  induction due generalizing queue with
  | nil => rfl
  | cons item due ih =>
    rw [List.foldl_cons, ih, List.reverse_cons, List.flatMap_append, List.append_assoc]
    simp

theorem enteredEvents_snoc (labels : List (Label P)) (x : Label P) :
    enteredEvents (labels ++ [x]) = enteredEvents labels ++ x.2.flatMap Output.entered := by
  rw [enteredEvents, outputsOf_snoc, List.flatMap_append, enteredEvents]

namespace Client

variable {settings : Settings P} {c c' : Client P} {now : Int} {scheduled : Bool}
  {out : Effect P} {labels : List (Label P)} {entered : List (DatacatEvent P)}

/-- The queue is in the order in which its events entered. -/
def InOrder (c : Client P) (entered : List (DatacatEvent P)) : Prop :=
  (eventsOf c.queue).Sublist entered

theorem inOrder_flushLoop (h : c.InOrder entered) :
    (c.flushLoop settings scheduled now).InOrder entered := by
  have hdrop (count : Nat) : (eventsOf (c.queue.drop count)).Sublist entered :=
    ((List.drop_sublist count c.queue).map QueuedEvent.event).trans h
  unfold flushLoop
  split
  · exact h
  · dsimp only
    split
    · exact hdrop _
    · exact hdrop _

theorem inOrder_scheduleFlush (h : c.InOrder entered)
    (hdrain : c.flushing = false → (c.drainDueRetries now).InOrder entered) :
    (c.scheduleFlush settings now).InOrder entered := by
  unfold scheduleFlush
  split
  · exact h
  · rename_i hidle
    exact inOrder_flushLoop (hdrain (Bool.eq_false_iff.mpr hidle))

theorem inOrder_beaconFlush (hdrain : (c.drainDueRetries now).InOrder entered) :
    (c.beaconFlush now).InOrder entered := by
  unfold beaconFlush
  dsimp only
  split
  · exact hdrain
  · exact List.nil_sublist _

theorem queue_scheduleRetry {items : List (QueuedEvent P)} {wait : Option F64} :
    (c.scheduleRetry settings scheduled items wait now).1.queue = c.queue := by
  unfold scheduleRetry
  dsimp only
  split <;> rfl

/-- What enters stands behind what waits, in the queue and among the retries that are due. -/
theorem inOrder_enqueue {event : DatacatEvent P} {queue : List (QueuedEvent P)}
    {dropped : List (DatacatEvent P)} {due : List (RetryItem P)}
    (henqueue : enqueue settings.maxQueueSize c.queue event = (queue, dropped))
    (h : (eventsOf (due.foldl (fun queue item => item.items ++ queue) c.queue)).Sublist entered) :
    (eventsOf (due.foldl (fun queue item => item.items ++ queue) queue)).Sublist
      (entered ++ [event]) := by
  obtain ⟨count, hqueue⟩ : ∃ count, queue = c.queue.drop count ++ [⟨event, 0⟩] :=
    ⟨_, (congrArg Prod.fst henqueue).symm⟩
  rw [foldl_requeue, eventsOf_append] at h ⊢
  rw [hqueue, eventsOf_append, ← List.append_assoc]
  refine List.Sublist.append ?_ (List.Sublist.refl _)
  have hdrop : (eventsOf (c.queue.drop count)).Sublist (eventsOf c.queue) :=
    (List.drop_sublist count c.queue).map QueuedEvent.event
  exact ((List.Sublist.refl _).append hdrop).trans h

theorem inOrder_track {eventName eventId : String} {properties : P} (h : c.InOrder entered)
    (hdrains : ∀ t ∈ drainsAt settings c (.track eventName properties eventId now),
      (c.drainDueRetries t).InOrder entered) :
    (c.track settings eventName properties eventId now).1.InOrder
      (entered ++
        (c.track settings eventName properties eventId now).2.flatMap Output.entered) := by
  rcases track_cases settings eventName properties eventId now c with ⟨-, htrack⟩ |
    ⟨event, queue, dropped, hactor, -, henqueue, htrack⟩
  · rw [htrack]
    exact List.Sublist.trans h (List.sublist_append_left _ _)
  · have hentered : (c.track settings eventName properties eventId now).2.flatMap Output.entered =
        [event] := by
      rw [htrack]
      dsimp only
      split <;> rfl
    have hlength := length_enqueue settings.maxQueueSize c.queue event
    rw [henqueue] at hlength
    dsimp only at hlength
    unfold drainsAt at hdrains
    dsimp only at hdrains
    rw [Settings.capacity, ← hlength, hactor] at hdrains
    have hqueue : { c with queue := queue }.InOrder (entered ++ [event]) :=
      @inOrder_enqueue _ settings c _ event queue dropped [] henqueue h
    rw [hentered, htrack]
    dsimp only
    split
    · -- The queue reached the batch size: the retries that are due go in front first.
      rename_i hfull
      refine inOrder_scheduleFlush hqueue fun hidle => ?_
      dsimp only at hidle
      rw [hfull, hidle] at hdrains
      exact inOrder_enqueue henqueue (hdrains now rfl)
    · exact hqueue

/-- The queue stays in order as long as the retries that are due enter it in order. -/
theorem inOrder_step {input : Input P} (hstep : c.step settings input = some out)
    (h : c.InOrder entered)
    (hdrains : ∀ t ∈ drainsAt settings c input, (c.drainDueRetries t).InOrder entered) :
    out.1.InOrder (entered ++ out.2.flatMap Output.entered) := by
  have hsame {d : Client P} (hd : d.InOrder entered) : d.InOrder (entered ++ []) := by
    rw [List.append_nil]
    exact hd
  cases stepped hstep with
  | track eventName properties eventId now => exact inOrder_track h hdrains
  | @resume task answer beacon now out hresume =>
    refine List.Sublist.trans ?_ (List.sublist_append_left _ _)
    obtain ⟨call, hcall, ⟨scheduled, rfl⟩ | ⟨-, ⟨scheduled, -, rfl⟩ |
      ⟨tokens, flushing, tasks, -, hout⟩⟩⟩ := resume_cases hresume
    · rw [queue_scheduleRetry]
      exact h
    · exact inOrder_flushLoop h
    · rw [hout]
      exact h
  | identify actorId tenantId => exact hsame h
  | flush now =>
    apply hsame
    unfold drainsAt at hdrains
    dsimp only at hdrains
    split
    · exact h
    · rename_i hidle
      rw [if_neg hidle] at hdrains
      exact inOrder_flushLoop (hdrains now rfl)
  | tick now htimer =>
    refine hsame (inOrder_scheduleFlush h fun hidle => ?_)
    unfold drainsAt at hdrains
    dsimp only at hdrains
    rw [hidle] at hdrains
    exact hdrains now rfl
  | pageHidden now hlistening => exact hsame (inOrder_beaconFlush (hdrains now rfl))
  | shutdown now => exact hsame (inOrder_flushLoop (hdrains now rfl))
  | tokenAnswer htokens => exact hsame h

/-! ## Overflows -/

/-- What an overflow drops. -/
theorem overflows_cases {x : Label P} (hstep : Step settings c x c')
    (hoverflows : Overflows settings c x.1) :
    Reports c x c' (eventsOf (c.queue.take (c.queue.length - settings.maxQueueSize + 1))) := by
  obtain ⟨input, outputs⟩ := x
  cases input with
  | track eventName properties eventId now =>
    obtain ⟨hactor, hfull⟩ := hoverflows
    have hbalanced := balanced_track settings eventName properties eventId now c
    rw [show c.track settings eventName properties eventId now = (c', outputs) from
      Option.some.inj hstep] at hbalanced
    rcases track_cases settings eventName properties eventId now c with ⟨hnone, -⟩ |
      ⟨event, queue, dropped, -, -, henqueue, htrack⟩
    · exact absurd hnone hactor
    · have hdropped : dropped =
          eventsOf (c.queue.take (c.queue.length - settings.maxQueueSize + 1)) := by
        rw [enqueue, if_pos hfull] at henqueue
        exact (congrArg Prod.snd henqueue).symm
      have houtputs : outputs = [.reported dropped, .enqueued event] := by
        have hsecond := congrArg Prod.snd (Option.some.inj hstep)
        rw [htrack, if_pos hfull] at hsecond
        exact hsecond.symm
      rw [← hdropped]
      refine ⟨event, houtputs, ?_⟩
      rw [houtputs] at hbalanced
      simpa [Balanced, Output.entered, Output.settled] using hbalanced
  | _ => exact absurd hoverflows id

/-- A queue that is in order drops its oldest events, and no older ones wait in the schedule when
no more wait than may. -/
theorem oldest_of_inOrder (h : c.InOrder (enteredEvents labels))
    (hbound : c.waiting.length ≤ settings.capacity)
    (hfull : settings.maxQueueSize ≤ c.queue.length) :
    Oldest labels c
      (eventsOf (c.queue.take (c.queue.length - settings.maxQueueSize + 1))) := by
  generalize c.queue.length - settings.maxQueueSize + 1 = excess
  intro d hd e he hkept
  have hnonempty : 0 < c.queue.length := by
    obtain ⟨i, hi, -⟩ := List.mem_map.mp hd
    exact List.length_pos_of_mem (List.mem_of_mem_take hi)
  -- the queue alone takes all the room
  have hschedule : c.scheduledEvents = [] := by
    have hwaiting := length_waiting c
    unfold Settings.capacity at hbound
    exact List.eq_nil_of_length_eq_zero (by omega)
  rw [waiting, hschedule, List.append_nil, ← List.take_append_drop excess c.queue,
    eventsOf_append] at he
  have hrest := (List.mem_append.mp he).resolve_left hkept
  refine List.Sublist.trans ?_ h
  rw [← List.take_append_drop excess c.queue, eventsOf_append]
  exact (List.singleton_sublist.mpr hd).append (List.singleton_sublist.mpr hrest)

end Client

/-! ## Runs -/

section Runs

variable {settings : Settings P} {actorId tenantId : Option String} {listening : Bool}
  {c : Client P} {labels : List (Label P)}

theorem step_unique : ∀ s x s₁ s₂, Step settings s x s₁ → Step settings s x s₂ → s₁ = s₂ :=
  fun _ _ _ _ => Step.unique

/-- No more wait than may throughout a run, exactly when each step finds room. -/
theorem waiting_le_iff (h : Run (Step settings) (.new actorId tenantId listening) labels c) :
    Run.EachState (Step settings) (.new actorId tenantId listening)
        (fun mid => mid.waiting.length ≤ settings.capacity) labels ↔
      Run.EachStep (Step settings) (.new actorId tenantId listening)
        (fun _ mid x => HasRoom settings mid x.1) labels := by
  induction h with
  | nil =>
    refine iff_of_true (Run.eachState_nil.mpr (Nat.zero_le _)) Run.eachStep_nil
  | snoc hrun hstep ih =>
    rw [Run.eachState_snoc step_unique (hrun.snoc hstep),
      Run.eachStep_snoc step_unique hrun, ← ih]
    refine and_congr_right fun hbound => ?_
    exact Client.waiting_step hstep (hbound _ [] _ (List.append_nil _).symm hrun)

theorem inOrder_of_run (h : Run (Step settings) (.new actorId tenantId listening) labels c)
    (hdrains : Run.EachStep (Step settings) (.new actorId tenantId listening)
      (fun before mid x => DrainsInOrder settings before mid x.1) labels) :
    c.InOrder (enteredEvents labels) := by
  induction h with
  | nil => exact List.nil_sublist _
  | snoc hrun hstep ih =>
    obtain ⟨hbefore, hlast⟩ := (Run.eachStep_snoc step_unique hrun).mp hdrains
    rw [enteredEvents_snoc]
    exact Client.inOrder_step hstep (ih hbefore) hlast

/-- **The memory of the client.** Throughout a run no more events wait than may, exactly when each
step finds room; each overflow reports what it drops, and drops the oldest events that wait when
each step found room and let the retries that were due enter the queue in order. -/
theorem memory_bounded (h : Run (Step settings) (.new actorId tenantId listening) labels c) :
    (Run.EachState (Step settings) (.new actorId tenantId listening)
        (fun mid => mid.waiting.length ≤ settings.capacity) labels ↔
      Run.EachStep (Step settings) (.new actorId tenantId listening)
        (fun _ mid x => HasRoom settings mid x.1) labels) ∧
    ∀ before x after mid mid', labels = before ++ x :: after →
      Run (Step settings) (.new actorId tenantId listening) before mid → Step settings mid x mid' →
      Overflows settings mid x.1 → ∃ dropped, Reports mid x mid' dropped ∧
        (Run.EachStep (Step settings) (.new actorId tenantId listening)
          (fun before mid x => HasRoom settings mid x.1 ∧ DrainsInOrder settings before mid x.1)
          labels → Oldest before mid dropped) := by
  refine ⟨waiting_le_iff h, fun before x after mid mid' hlabels hmid hstep hoverflows => ?_⟩
  refine ⟨_, Client.overflows_cases hstep hoverflows, fun heach => ?_⟩
  have hbound := (waiting_le_iff h).mpr fun before x after mid hlabels hmid =>
    (heach before x after mid hlabels hmid).1
  have hinOrder := inOrder_of_run hmid fun first y rest mid hbefore hfirst =>
    (heach first y (rest ++ x :: after) mid
      (by rw [hlabels, hbefore, List.append_assoc, List.cons_append]) hfirst).2
  refine Client.oldest_of_inOrder hinOrder (hbound before (x :: after) mid hlabels hmid) ?_
  obtain ⟨input, outputs⟩ := x
  cases input with
  | track eventName properties eventId now => exact hoverflows.2
  | _ => exact absurd hoverflows id

end Runs

/-- Batches of one event, and a queue of so many places. -/
def room (places : Nat) : Settings Unit := { oneByOne with maxQueueSize := places }

/-- A batch is sent and refused, and its flush goes on. -/
def refused : List (Input Unit) :=
  [.tokenAnswer (some "t"), .resume 0 .goOn none 0, .resume 0 (.response 503 none) none 0,
    .resume 0 .goOn none 0]

/-- Three batches are refused, and come due together. -/
def outage : List (Input Unit) :=
  [.identify "a" none, .track "view" () "e1" 0, .track "view" () "e2" 0] ++ refused ++
    [.track "view" () "e3" 0] ++ refused ++ refused ++
      [.resume 0 .goOn none 0, .tick 1000, .track "view" () "e4" 1000]

/-- An event that finds no place drives the one before it out. -/
theorem memory_bounded_crowd : ∃ before mid x mid' dropped,
    Run (Step (room 1)) (.new (some "a") none false) before mid ∧ Step (room 1) mid x mid' ∧
      Overflows (room 1) mid x.1 ∧ Reports mid x mid' dropped := by
  have hout : (replay (room 1) [.track "view" () "e1" 0, .track "view" () "e2" 0]
      (.new (some "a") none false)).any (fun out =>
        decide (out.1.actorId ≠ none ∧ 1 ≤ out.1.queue.length)) = true := by
    decide +kernel
  obtain ⟨⟨mid, before⟩, hreplay, hfull⟩ := (Option.any_eq_true _ _).mp hout
  have hfull := of_decide_eq_true hfull
  have hrun := run_replay hreplay
  have hstep : Step (room 1) mid (.track "view" () "e3" 0,
      (mid.track (room 1) "view" () "e3" 0).2) (mid.track (room 1) "view" () "e3" 0).1 := rfl
  obtain ⟨dropped, hreports, -⟩ := (memory_bounded (hrun.snoc hstep)).2 before _ [] mid _ rfl hrun
    hstep hfull
  exact ⟨before, mid, _, _, dropped, hrun, hstep, hfull, hreports⟩

/-- A refused event and a new one wait where there is room for one; and of three events that were
refused, the queue drops the second and keeps the first. -/
theorem not_memory_bounded_outage :
    (∃ labels c, Run (Step (room 1)) (.new none none false) labels c ∧
      (room 1).capacity < c.waiting.length) ∧
    ∃ before mid x mid' dropped, Run (Step (room 3)) (.new none none false) before mid ∧
      Step (room 3) mid x mid' ∧ Overflows (room 3) mid x.1 ∧ Reports mid x mid' dropped ∧
      ¬Oldest before mid dropped := by
  constructor
  · have hout : (replay (room 1) (tracked (some "t") ++
        [.resume 0 (.response 503 none) none 0, .track "view" () "e2" 0])
        (.new none none false)).any (fun out =>
          decide ((room 1).capacity < out.1.waiting.length)) = true := by
      decide +kernel
    obtain ⟨⟨c, labels⟩, hreplay, hmany⟩ := (Option.any_eq_true _ _).mp hout
    exact ⟨labels, c, run_replay hreplay, of_decide_eq_true hmany⟩
  · have hout : (replay (room 3) outage (.new none none false)).any (fun out =>
        decide ((out.1.actorId ≠ none ∧ 3 ≤ out.1.queue.length) ∧
          ¬Oldest out.2 out.1 (eventsOf (out.1.queue.take (out.1.queue.length - 3 + 1))))) =
            true := by
      decide +kernel
    obtain ⟨⟨mid, before⟩, hreplay, hchecks⟩ := (Option.any_eq_true _ _).mp hout
    obtain ⟨hfull, hnewer⟩ := of_decide_eq_true hchecks
    have hstep : Step (room 3) mid (.track "view" () "e5" 1000,
        (mid.track (room 3) "view" () "e5" 1000).2)
          (mid.track (room 3) "view" () "e5" 1000).1 := rfl
    exact ⟨before, mid, _, _, _, run_replay hreplay, hstep, hfull,
      Client.overflows_cases hstep hfull, hnewer⟩

end Datacat.Sdk
