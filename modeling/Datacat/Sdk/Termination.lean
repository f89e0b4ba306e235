import Datacat.Sdk.MemoryBound

/-!
# The End of a Flush

The loop of a flush goes on until it finds the queue empty. While no event is tracked, what can
still come into the queue is bounded: a batch that failed comes back, until its events were tried
too often. Each turn takes from that, provided that a batch takes anything at all; a `batchSize`
below one takes nothing, and the loop turns for ever.

## Main results

- `Client.potential_step`: no step but a new event raises the number of takes to come.
- `loopEnds_iff`: when the loop of a flush ends, whatever the sends give.
-/

namespace Datacat.Sdk

open Basics

variable {P : Type}

/-! ## Turns of the loop -/

/-- A turn of the loop after the first: the flush that is followed goes on, and finds something in
the queue. -/
def Watched.Turns (w : Watched P) : Input P → Prop
  | .resume task _ _ _ =>
    w.call = some task ∧ (∃ scheduled, w.client.tasks[task]? = some (.flush scheduled .next)) ∧
      w.client.queue ≠ []
  | _ => False

def Input.isTrack : Input P → Bool
  | .track _ _ _ _ => true
  | _ => false

/-- `doFlush` is called. As long as no event is tracked, its loop has finitely many turns, whatever
else the client does and whatever is answered. -/
def LoopEnds (settings : Settings P) (scheduled : Bool) (now : Int) (c : Client P) : Prop :=
  ∀ states labels, Endless (Watched.Step settings)
      ⟨c.doFlush settings scheduled now, some c.tasks.length⟩ states labels →
    (∀ n, (labels n).1.isTrack = false) → {n | (states n).Turns (labels n).1}.Finite

/-! ## What may still be taken -/

/-- How often the events may be taken again after a failure, each until it was tried too often. -/
def Settings.retries (settings : Settings P) (items : List (QueuedEvent P)) : Nat :=
  (items.map fun i => settings.maxRetries - (i.retryCount + 1)).sum

/-- The batch that may come back. -/
def Point.items : Point P → List (QueuedEvent P)
  | .token items _ _ => items
  | .fetch items => items
  | .refresh items _ => items
  | .refetch items => items
  | .text items => items
  | .next => []
  | .settled => []

/-- The page that hides tries its events once. -/
def Task.items : Task P → List (QueuedEvent P)
  | .flush _ point => point.items
  | .beaconToken _ _ => []
  | .beaconFetch _ _ => []

/-- How often an event may still be taken from the queue. -/
def Client.potential (settings : Settings P) (c : Client P) : Nat :=
  c.waiting.length + settings.retries c.queue +
    (c.retrySchedule.map fun item => settings.retries item.items).sum +
    (c.tasks.map fun t => settings.retries t.items).sum

section Potential

variable {settings : Settings P} {c c' : Client P} {items : List (QueuedEvent P)} {now : Int}
  {scheduled : Bool} {out : Effect P}

theorem retries_append (settings : Settings P) (first second : List (QueuedEvent P)) :
    settings.retries (first ++ second) = settings.retries first + settings.retries second := by
  simp [Settings.retries]

theorem retries_take_add_drop (settings : Settings P) (count : Nat)
    (items : List (QueuedEvent P)) :
    settings.retries (items.take count) + settings.retries (items.drop count) =
      settings.retries items := by
  rw [← retries_append, List.take_append_drop]

theorem retries_requeue (due : List (RetryItem P)) (queue : List (QueuedEvent P)) :
    settings.retries (due.foldl (fun queue item => item.items ++ queue) queue) =
      settings.retries queue + (due.map fun item => settings.retries item.items).sum := by
  induction due generalizing queue with
  | nil => rfl
  | cons item due ih =>
    rw [List.foldl_cons, ih, retries_append, List.map_cons, List.sum_cons]
    omega

namespace Client

theorem potential_suspend (task : Task P) :
    (c.suspend task).potential settings = c.potential settings + settings.retries task.items := by
  simp [potential, suspend, waiting, scheduledEvents]
  omega

theorem potential_eraseIdx {i : Nat} {t : Task P} (ht : c.tasks[i]? = some t) :
    { c with tasks := c.tasks.eraseIdx i }.potential settings + settings.retries t.items =
      c.potential settings := by
  obtain ⟨hi, rfl⟩ := List.getElem?_eq_some_iff.mp ht
  have hperm := (List.getElem_cons_eraseIdx_perm hi).map fun t => settings.retries t.items
  have hsum := hperm.sum_eq
  rw [List.map_cons, List.sum_cons] at hsum
  have hwaiting : { c with tasks := c.tasks.eraseIdx i }.waiting = c.waiting := rfl
  unfold potential
  rw [hwaiting, ← hsum]
  dsimp only
  omega

/-- What is due moves. -/
theorem potential_drainDueRetries (now : Int) (c : Client P) :
    (c.drainDueRetries now).potential settings = c.potential settings := by
  have hperm := ((List.filter_append_perm
    (fun item : RetryItem P => item.notBefore.le (F64.ofInt now)) c.retrySchedule).map
    fun item => settings.retries item.items).sum_eq
  rw [List.map_append, List.sum_append] at hperm
  unfold potential
  rw [waiting_drainDueRetries, ← hperm]
  unfold drainDueRetries
  dsimp only
  rw [retries_requeue]
  omega

/-- The events of a batch are taken once. -/
theorem potential_drop {count : Nat} (hcount : count ≤ c.queue.length) (tokens : TokenManager) :
    { c with queue := c.queue.drop count, tokens := tokens }.potential settings +
      settings.retries (c.queue.take count) + count = c.potential settings := by
  have hsplit := retries_take_add_drop settings count c.queue
  have hscheduled : { c with queue := c.queue.drop count, tokens := tokens }.scheduledEvents =
      c.scheduledEvents := rfl
  unfold potential
  rw [length_waiting, length_waiting, hscheduled]
  dsimp only
  rw [List.length_drop]
  omega

theorem potential_flushLoop :
    (c.flushLoop settings scheduled now).potential settings +
      dequeueCount settings.batchSize c.queue.length = c.potential settings := by
  unfold flushLoop
  split
  · rename_i hempty
    rw [potential_suspend, List.isEmpty_iff.mp hempty, List.length_nil, dequeueCount_zero]
    rfl
  · have hdrop := @potential_drop P settings c _ (dequeueCount_le settings.batchSize c.queue.length)
    dsimp only
    split
    · rename_i hbatch
      have hdrop := hdrop c.tokens
      rw [hbatch] at hdrop
      rw [potential_suspend, ← hdrop]
      rfl
    · rw [potential_suspend]
      exact hdrop _

/-- An event that comes back has one retry less. -/
theorem retries_retriable (items : List (QueuedEvent P)) :
    (settings.retriable items).length + settings.retries ((settings.retriable items).map
      fun i => { i with retryCount := i.retryCount + 1 }) ≤ settings.retries items := by
  induction items with
  | nil => exact le_rfl
  | cons i items ih =>
    unfold Settings.retriable Settings.retries at ih ⊢
    by_cases hopen : settings.maxRetries ≤ i.retryCount + 1
    · rw [List.filter_cons_of_neg (by simp [hopen]), List.map_cons, List.sum_cons]
      omega
    · rw [List.filter_cons_of_pos (by simp [hopen])]
      simp only [List.length_cons, List.map_cons, List.sum_cons]
      omega

theorem potential_scheduleRetry {wait : Option F64} :
    (c.scheduleRetry settings scheduled items wait now).1.potential settings ≤
      c.potential settings + settings.retries items := by
  have hwaiting := @waiting_scheduleRetry P settings c items now scheduled wait
  have hretries := @retries_retriable P settings items
  have hnext : (c.suspend (.flush scheduled .next)).potential settings = c.potential settings :=
    potential_suspend _
  unfold scheduleRetry at hwaiting ⊢
  dsimp only at hwaiting ⊢
  split
  · exact hnext.le.trans (Nat.le_add_right _ _)
  · rename_i hsome
    rw [hsome] at hwaiting
    unfold potential at hnext ⊢
    rw [hwaiting]
    unfold Settings.retriable at hretries ⊢
    simp only [suspend, List.map_append, List.map_cons, List.map_nil, List.sum_append,
      List.sum_cons, List.sum_nil] at hnext ⊢
    have hbatch : settings.retries (Task.flush scheduled (.next : Point P)).items = 0 := rfl
    rw [hbatch]
    omega

theorem potential_doFlush_le :
    (c.doFlush settings scheduled now).potential settings ≤ c.potential settings := by
  have htaken := @potential_flushLoop P settings (c.drainDueRetries now) now scheduled
  rw [potential_drainDueRetries] at htaken
  exact Nat.le_of_add_right_le htaken.le

theorem potential_scheduleFlush_le :
    (c.scheduleFlush settings now).potential settings ≤ c.potential settings := by
  unfold scheduleFlush
  split
  · exact le_rfl
  · exact potential_doFlush_le

/-- The events of a page that hides are not tried again. -/
theorem potential_beaconFlush_le :
    (c.beaconFlush now).potential settings ≤ c.potential settings := by
  have hdrain := @potential_drainDueRetries P settings now c
  unfold beaconFlush
  dsimp only
  split
  · exact hdrain.le
  · rw [← hdrain, potential_suspend]
    have hdrop := @potential_drop P settings (c.drainDueRetries now) _ le_rfl
      ((c.drainDueRetries now).tokens.get now).1
    rw [List.drop_length] at hdrop
    exact Nat.le_of_add_right_le (Nat.le_of_add_right_le hdrop.le)

/-- A flush that goes on: its batch comes back with one retry less, or not at all. -/
theorem potential_flushResumed {point : Point P}
    (h : FlushResumed settings scheduled now c point out) :
    out.1.potential settings ≤ c.potential settings + settings.retries point.items := by
  -- Without its batch, or with the batch still in its hands.
  have hnone (point' : Point P) (hempty : point'.items = []) :
      (c.suspend (.flush scheduled point')).potential settings ≤
        c.potential settings + settings.retries point.items := by
    rw [potential_suspend, Task.items, hempty]
    exact Nat.add_le_add_left (Nat.zero_le _) _
  cases h with
  | attempted houtcome =>
    unfold attemptSend
    split
    · exact (potential_suspend _).le
    · exact hnone .next rfl
  | abandoned houtcome => exact hnone .settled rfl
  | responded status retryAfter =>
    unfold onResponse
    split
    · exact hnone .next rfl
    · split
      · exact (potential_suspend _).le
      · split
        · exact (potential_suspend _).le
        · split
          · exact potential_scheduleRetry
          · exact potential_scheduleRetry
  | unreachable => exact potential_scheduleRetry
  | refreshed houtcome => exact (potential_suspend _).le
  | notRefreshed houtcome => exact hnone .next rfl
  | acknowledged => exact hnone .next rfl
  | failedAgain => exact potential_scheduleRetry
  | refused => exact hnone .next rfl
  | next => exact Nat.le_add_right_of_le (Nat.le_of_add_right_le potential_flushLoop.le)
  | settled => exact Nat.le_add_right _ _

theorem potential_resumed {task : Task P} (h : Resumed settings now c task out) :
    out.1.potential settings ≤ c.potential settings + settings.retries task.items := by
  cases h with
  | flush h => exact potential_flushResumed h
  | beaconSent houtcome hbody => exact (potential_suspend _).le
  | beaconAbandoned houtcome hbody => exact Nat.le_add_right _ _
  | beaconRejected houtcome => exact Nat.le_add_right _ _
  | beaconAnswered ok sent =>
    unfold resumeBeaconFetch
    split
    · exact Nat.le_add_right _ _
    · split <;> exact Nat.le_add_right _ _

/-- No step but a new event raises the number of takes to come. -/
theorem potential_step {input : Input P} (h : c.step settings input = some out)
    (hinput : input.isTrack = false) : out.1.potential settings ≤ c.potential settings := by
  cases stepped h with
  | identify => exact le_rfl
  | track => cases hinput
  | flush now =>
    dsimp only
    split
    · exact le_rfl
    · exact potential_doFlush_le
  | tick now htimer => exact potential_scheduleFlush_le
  | pageHidden now hlistening => exact potential_beaconFlush_le
  | shutdown now =>
    exact (@potential_doFlush_le P settings { c with timer := false, listening := false } now false)
  | tokenAnswer htokens => exact le_rfl
  | resume hresume =>
    obtain ⟨task, htask, hresumed⟩ := resumed hresume
    rw [← potential_eraseIdx htask]
    exact potential_resumed hresumed

end Client

end Potential

/-! ## Batches that take something -/

/-- A batch takes something if and only if its size is at least one. -/
theorem dequeueCount_pos_iff {n : F64} {length : Nat} (hlength : 0 < length) :
    0 < dequeueCount n length ↔ AtMost 1 n := by
  constructor
  · intro hpos
    exact (atMost_dequeueCount hpos.ne').mono hpos
  · intro hone
    unfold AtMost at hone
    unfold dequeueCount
    split at hone
    · rename_i hfinite
      have hnumber : n.isNaN = false := by
        unfold F64.isFinite at hfinite
        unfold F64.isNaN
        rw [beq_false_of_ne (bne_iff_ne.mp hfinite), Bool.false_and]
      -- A finite size is rounded down.
      have hfloor : 1 ≤ ⌊n.toRat⌋ := Int.le_floor.mpr (by exact_mod_cast hone)
      rw [hnumber, if_neg Bool.false_ne_true, if_pos hfinite]
      omega
    · rename_i hfinite
      -- An infinite one takes the whole queue.
      rw [hone.1, if_neg Bool.false_ne_true, if_neg hfinite, hone.2, if_neg Bool.false_ne_true]
      exact hlength

section Turns

variable {settings : Settings P} {c : Client P} {w w' : Watched P} {x : Label P} {now : Int}
  {scheduled : Bool}

theorem Watched.Step.client (h : Watched.Step settings w x w') :
    w.client.step settings x.1 = some (w'.client, x.2) ∧
      w'.call = w.call.bind fun call => w.client.follow call x.1 := by
  obtain ⟨⟨c, outputs⟩, hstep, hw⟩ := Option.map_eq_some_iff.mp h
  obtain ⟨rfl, rfl⟩ := Prod.mk.inj hw
  exact ⟨hstep, rfl⟩

/-- A turn takes something from what may still be taken. -/
theorem Watched.Turns.potential_lt (h : w.Turns x.1) (hstep : Watched.Step settings w x w')
    (hsize : AtMost 1 settings.batchSize) :
    w'.client.potential settings < w.client.potential settings := by
  obtain ⟨c, followed⟩ := w
  obtain ⟨c', followed'⟩ := w'
  obtain ⟨input, outputs⟩ := x
  cases input with
  | resume task answer beacon now =>
    obtain ⟨-, ⟨scheduled, htask⟩, hqueue⟩ := h
    obtain ⟨call, hcall, hresumed⟩ := Client.resumed hstep.client.1
    obtain rfl := Option.some.inj (htask.symm.trans hcall)
    have hrest := @Client.potential_eraseIdx P settings c task _ htask
    have htaken := @Client.potential_flushLoop P settings
      { c with tasks := c.tasks.eraseIdx task } now scheduled
    -- The turn takes a batch, and what fails of it comes back in a later step.
    have hpos := (dequeueCount_pos_iff (List.length_pos_of_ne_nil hqueue)).mpr hsize
    generalize hout : (c', outputs) = out at hresumed
    cases hresumed with
    | flush hflush =>
      cases hflush
      obtain ⟨rfl, -⟩ := Prod.mk.inj hout
      dsimp only at hrest htaken hpos ⊢
      omega
  | _ => exact absurd h id

/-- A batch that takes nothing leaves the loop where it was. -/
theorem Client.flushLoop_of_takesNothing (hsize : ¬AtMost 1 settings.batchSize)
    (hqueue : c.queue ≠ []) :
    c.flushLoop settings scheduled now = c.suspend (.flush scheduled .next) := by
  have hzero : dequeueCount settings.batchSize c.queue.length = 0 :=
    Nat.eq_zero_of_not_pos fun hpos =>
      hsize ((dequeueCount_pos_iff (List.length_pos_of_ne_nil hqueue)).mp hpos)
  unfold flushLoop
  rw [if_neg (mt List.isEmpty_iff.mp hqueue), hzero]
  rfl

/-- The flush turns without end, with no other step in between. -/
theorem not_loopEnds_of_takesNothing (hsize : ¬AtMost 1 settings.batchSize)
    (hqueue : (c.drainDueRetries now).queue ≠ []) : ¬LoopEnds settings scheduled now c := by
  let drained := c.drainDueRetries now
  let turning : Watched P := ⟨drained.suspend (.flush scheduled .next), some c.tasks.length⟩
  let turn : Label P := (.resume c.tasks.length .goOn none now, [])
  have hstart : c.doFlush settings scheduled now = turning.client :=
    Client.flushLoop_of_takesNothing hsize hqueue
  have htask : turning.client.tasks[c.tasks.length]? = some (.flush scheduled .next) := by
    simp [turning, drained, Client.suspend, Client.drainDueRetries]
  -- The flush is suspended again where it was.
  have hlast : (c.tasks ++ [Task.flush scheduled .next]).eraseIdx c.tasks.length = c.tasks := by
    rw [List.eraseIdx_append_of_length_le le_rfl, Nat.sub_self]
    exact List.append_nil _
  have herased : { turning.client with tasks := turning.client.tasks.eraseIdx c.tasks.length } =
      drained :=
    congrArg (fun tasks => { drained with tasks := tasks }) hlast
  have hresume : turning.client.resume settings c.tasks.length .goOn none now =
      some (turning.client, []) := by
    unfold Client.resume
    dsimp only
    rw [htask, herased]
    exact congrArg (fun c => some (c, [])) (Client.flushLoop_of_takesNothing hsize hqueue)
  have hfollow : turning.client.follow c.tasks.length turn.1 = some c.tasks.length := by
    simp [turn, turning, drained, Client.follow, Client.settledAt, Client.suspend,
      Client.drainDueRetries, Task.isSettled]
  have hstep : Watched.Step settings turning turn turning := by
    show (turning.client.resume settings c.tasks.length .goOn none now).map _ = _
    rw [hresume]
    exact congrArg (fun call => some (Watched.mk turning.client call, [])) hfollow
  intro hends
  have hturns : turning.Turns turn.1 := ⟨rfl, ⟨scheduled, htask⟩, hqueue⟩
  have hfinite := hends (fun _ => turning) (fun _ => turn)
    (hstart ▸ Endless.of_fixed hstep) fun _ => rfl
  exact Set.infinite_univ (hfinite.subset fun n _ => hturns)

/-- A flush that found the queue empty has no turn to come. -/
def Watched.Over (w : Watched P) : Prop :=
  ∀ call, w.call = some call → w.client.settledAt call = true

theorem Client.settledAt_of_isPrefix {tasks : List (Task P)} {c' : Client P} {call place : Nat}
    (hsame : tasks[place]? = c.tasks[call]?) (h : tasks <+: c'.tasks)
    (hsettled : c.settledAt call = true) : c'.settledAt place = true := by
  obtain ⟨t, ht, hdone⟩ := (Option.any_eq_true ..).mp hsettled
  have hplace := Closing.getElem?_of_isPrefix h (hsame.trans ht)
  rw [settledAt, hplace]
  exact hdone

/-- A call that goes on leaves the others. -/
theorem Client.tasks_isPrefix_resume {task : Nat} {answer : Answer} {beacon : Option Bool}
    {out : Effect P} (h : c.resume settings task answer beacon now = some out) :
    c.tasks.eraseIdx task <+: out.1.tasks := by
  obtain ⟨call, hcall, ⟨scheduled, rfl⟩ | ⟨-, ⟨scheduled, -, rfl⟩ |
    ⟨tokens, flushing, tasks, -, hout⟩⟩⟩ := resume_cases h
  · unfold scheduleRetry
    dsimp only
    split <;> exact List.prefix_append _ _
  · exact (Calm.flushLoop settings scheduled _ { c with tasks := c.tasks.eraseIdx task }).tasks
  · rw [hout]
    exact List.prefix_append _ _

theorem Watched.Over.step (h : w.Over) (hstep : Watched.Step settings w x w')
    (hinput : x.1.isTrack = false) : w'.Over := by
  obtain ⟨hclient, hcall⟩ := hstep.client
  intro place hplace
  rw [hcall, Option.bind_eq_some_iff] at hplace
  obtain ⟨call, hcall, hfollow⟩ := hplace
  have hsettled := h call hcall
  by_cases hresume : ∃ task answer beacon now, x.1 = .resume task answer beacon now
  · obtain ⟨task, answer, beacon, now, hx⟩ := hresume
    rw [hx] at hclient hfollow
    by_cases hother : task = call
    · -- The flush resolves, and is followed no more.
      rw [hother, Client.follow, if_neg (Nat.lt_irrefl call), if_pos rfl, if_pos hsettled] at hfollow
      cases hfollow
    · -- Another call goes on, and leaves the flush as it is, at its new place.
      obtain ⟨place', hfollow', hsame⟩ := w.client.follow_other hother answer beacon now
      obtain rfl := Option.some.inj (hfollow'.symm.trans hfollow)
      exact Client.settledAt_of_isPrefix hsame (Client.tasks_isPrefix_resume hclient) hsettled
  · have hnot : ∀ task answer beacon now, x.1 ≠ .resume task answer beacon now :=
      fun task answer beacon now heq => hresume ⟨task, answer, beacon, now, heq⟩
    have hplain : w.client.follow call x.1 = some call ∧ ¬Enqueues w.client x.1 := by
      cases hx : x.1 with
      | track eventName properties eventId now =>
        rw [hx] at hinput
        cases hinput
      | resume task answer beacon now => exact absurd hx (hnot task answer beacon now)
      | _ => exact ⟨rfl, id⟩
    obtain rfl := Option.some.inj (hplain.1.symm.trans hfollow)
    exact Client.settledAt_of_isPrefix rfl (Calm.step hclient hnot hplain.2).tasks hsettled

theorem Watched.Over.not_turns (h : w.Over) (input : Input P) : ¬w.Turns input := by
  cases input with
  | resume task answer beacon now =>
    rintro ⟨hcall, ⟨scheduled, htask⟩, -⟩
    have hsettled := h task hcall
    rw [Client.settledAt, htask] at hsettled
    cases hsettled
  | _ => exact id

/-- **The end of a flush.** Whatever the queue and the answers, the loop of `doFlush` has finitely
many turns as long as no event is tracked, if and only if `batchSize` is at least one or the queue
is empty once the retries that are due are in it. -/
theorem loopEnds_iff : LoopEnds settings scheduled now c ↔
    AtMost 1 settings.batchSize ∨ (c.drainDueRetries now).queue = [] := by
  constructor
  · intro hends
    by_contra hnot
    rw [not_or] at hnot
    exact not_loopEnds_of_takesNothing hnot.1 hnot.2 hends
  · rintro (hsize | hempty) states labels hrun htrack
    · -- Each turn lowers what may still be taken, and nothing raises it.
      refine @Endless.finite_of_potential (fun n => (states n).client.potential settings) _ ?_ ?_
      · intro n
        exact Client.potential_step (hrun.succ n).client.1 (htrack n)
      · intro n hturns
        exact hturns.potential_lt (hrun.succ n) hsize
    · -- The flush is over from the start.
      have hover : ∀ n, (states n).Over := by
        refine @Endless.invariant _ _ _ _ _ _ Watched.Over hrun ?_ ?_
        · intro call hcall
          rw [← Option.some.inj hcall, Client.doFlush, Client.flushLoop, hempty]
          simp [Client.settledAt, Client.suspend, Client.drainDueRetries, Task.isSettled]
        · exact fun n h => h.step (hrun.succ n) (htrack n)
      exact Set.finite_empty.subset fun n hturns => (hover n).not_turns _ hturns

end Turns

/-- No batch takes anything. -/
def zeroBatch : Settings Unit where
  batchSize := F64.ofInt 0
  sessionId := "s"
  serializable _ := true
  decodeExp _ := 0

/-- The client at the flush that `track` starts for its first event. -/
def trackedOne : Client Unit :=
  { Client.new (some "ada") none false with
    queue := [⟨⟨"e1", "click", "ada", "s", toISOString 0, (), none⟩, 0⟩]
    flushing := true }

/-- A `batchSize` of 0 and one event: the loop never ends. -/
theorem not_loopEnds : ¬ ∀ (settings : Settings Unit) (scheduled : Bool) (now : Int)
    (c : Client Unit), LoopEnds settings scheduled now c := by
  intro hends
  have htakes : ¬AtMost 1 zeroBatch.batchSize := by decide +kernel
  have hqueue : (trackedOne.drainDueRetries 0).queue ≠ [] := List.cons_ne_nil _ _
  exact not_loopEnds_of_takesNothing htakes hqueue (hends zeroBatch true 0 trackedOne)

end Datacat.Sdk
