import Datacat.Api.Events
import Datacat.Sdk.Conservation

/-!
# The Size of a Request

A flush takes up to `batchSize` events from the queue into each request, whatever the server takes
at most; a page that hides puts the whole queue into one request.

## Main results

- `step_within`: what each call holds fits, when what the step takes does.
- `requests_fit`: the requests of a run fit, and no server refuses them as too large.
-/

namespace Datacat.Sdk

open Basics

variable {P : Type}

/-! ## Sizes -/

/-- `MAX_BATCH_EVENTS` of a server that does not set it. -/
def defaultMaxBatchEvents : Nat := 500

/-- A number of events is at most such an option. -/
def AtMost (k : Nat) (n : F64) : Prop :=
  if n.isFinite then (k : ℚ) ≤ n.toRat else n.isNaN = false ∧ n.signBit = false

instance (k : Nat) (n : F64) : Decidable (AtMost k n) :=
  inferInstanceAs (Decidable (ite _ _ _))

/-- A request may carry so many events: at most the smaller of the two sizes. -/
structure Settings.Fits (settings : Settings P) (k : Nat) : Prop where
  batchSize : AtMost k settings.batchSize
  server : k ≤ defaultMaxBatchEvents

instance (settings : Settings P) (k : Nat) : Decidable (settings.Fits k) :=
  decidable_of_iff (AtMost k settings.batchSize ∧ k ≤ defaultMaxBatchEvents)
    ⟨fun h => ⟨h.1, h.2⟩, fun h => ⟨h.1, h.2⟩⟩

theorem AtMost.mono {j k : Nat} {n : F64} (h : AtMost k n) (hjk : j ≤ k) : AtMost j n := by
  unfold AtMost at h ⊢
  split
  · rename_i hfinite
    rw [if_pos hfinite] at h
    exact (Nat.cast_le.mpr hjk).trans h
  · rename_i hfinite
    rwa [if_neg hfinite] at h

theorem dequeueCount_le (n : F64) (length : Nat) : dequeueCount n length ≤ length := by
  unfold dequeueCount
  split
  · exact Nat.zero_le _
  · split
    · exact min_le_right _ _
    · split
      · exact Nat.zero_le _
      · exact le_rfl

/-- What a flush takes is at most `batchSize`. -/
theorem atMost_dequeueCount {n : F64} {length : Nat} (h : dequeueCount n length ≠ 0) :
    AtMost (dequeueCount n length) n := by
  unfold dequeueCount at h ⊢
  unfold AtMost
  split at h
  · exact absurd rfl h
  · rename_i hnumber
    rw [if_neg hnumber]
    split
    · rename_i hfinite
      rw [if_pos hfinite] at h
      -- the floor is not negative, or nothing would be taken
      have hfloor : 0 ≤ ⌊n.toRat⌋ := by
        by_contra hnegative
        exact h (by rw [Int.toNat_of_nonpos (not_le.mp hnegative).le, Nat.zero_min])
      have hcast : ((⌊n.toRat⌋.toNat : ℕ) : ℚ) = ⌊n.toRat⌋ := by
        exact_mod_cast congrArg (Int.cast : Int → ℚ) (Int.toNat_of_nonneg hfloor)
      calc ((min ⌊n.toRat⌋.toNat length : ℕ) : ℚ) ≤ (⌊n.toRat⌋.toNat : ℕ) := by
            exact_mod_cast min_le_left _ _
        _ = ⌊n.toRat⌋ := hcast
        _ ≤ n.toRat := Int.floor_le _
    · rename_i hfinite
      rw [if_neg hfinite] at h
      split at h
      · exact absurd rfl h
      · rename_i hsign
        exact ⟨Bool.eq_false_iff.mpr hnumber, Bool.eq_false_iff.mpr hsign⟩

/-- A batch taken from a queue that is no longer than the server takes, or with such an option. -/
theorem Settings.fits_dequeueCount {settings : Settings P} {length : Nat}
    (hlength : AtMost (defaultMaxBatchEvents + 1) settings.batchSize →
      length ≤ defaultMaxBatchEvents)
    (h : dequeueCount settings.batchSize length ≠ 0) :
    settings.Fits (dequeueCount settings.batchSize length) := by
  refine ⟨atMost_dequeueCount h, ?_⟩
  by_contra hlarge
  have hmore := hlength ((atMost_dequeueCount h).mono (Nat.lt_of_not_le hlarge))
  exact hlarge ((dequeueCount_le _ _).trans hmore)

/-! ## What a step takes -/

/-- The events of the retries that are due. -/
def Client.dueEvents (now : Int) (c : Client P) : Nat :=
  ((c.retrySchedule.filter fun item => item.notBefore.le (F64.ofInt now)).map
    fun item => item.items.length).sum

/-- The length of the queue that a flush finds in the step, when it takes a batch. -/
def flushFinds (settings : Settings P) (c : Client P) : Input P → Nat
  | .track _ _ _ now =>
    let length := min (c.queue.length + 1) (max settings.maxQueueSize 1)
    if c.actorId.isSome && !c.flushing && settings.batchSize.le (F64.ofInt length) then
      length + c.dueEvents now
    else 0
  | .flush now => if c.flushing then 0 else c.queue.length + c.dueEvents now
  | .tick now => if c.flushing then 0 else c.queue.length + c.dueEvents now
  | .shutdown now => c.queue.length + c.dueEvents now
  | .resume task _ _ _ =>
    match c.tasks[task]? with
    | some (.flush _ .next) => c.queue.length
    | _ => 0
  | _ => 0

/-- The length of the queue that a page that hides finds. -/
def beaconFinds (c : Client P) : Input P → Nat
  | .pageHidden now => c.queue.length + c.dueEvents now
  | _ => 0

/-- A flush with an option beyond the server's finds no more than the server takes, and a page that
hides finds no more than one request may carry. -/
structure FindsFew (settings : Settings P) (c : Client P) (input : Input P) : Prop where
  flush : AtMost (defaultMaxBatchEvents + 1) settings.batchSize →
    flushFinds settings c input ≤ defaultMaxBatchEvents
  beacon : beaconFinds c input ≠ 0 → settings.Fits (beaconFinds c input)

instance (settings : Settings P) (c : Client P) (input : Input P) :
    Decidable (FindsFew settings c input) :=
  decidable_of_iff
    ((AtMost (defaultMaxBatchEvents + 1) settings.batchSize →
        flushFinds settings c input ≤ defaultMaxBatchEvents) ∧
      (beaconFinds c input ≠ 0 → settings.Fits (beaconFinds c input)))
    ⟨fun h => ⟨h.1, h.2⟩, fun h => ⟨h.1, h.2⟩⟩

theorem length_foldl_requeue (due : List (RetryItem P)) (queue : List (QueuedEvent P)) :
    (due.foldl (fun queue item => item.items ++ queue) queue).length =
      queue.length + (due.map fun item => item.items.length).sum := by
  induction due generalizing queue with
  | nil => rfl
  | cons item due ih =>
    rw [List.foldl_cons, ih, List.length_append, List.map_cons, List.sum_cons]
    omega

theorem length_drainDueRetries (now : Int) (c : Client P) :
    (c.drainDueRetries now).queue.length = c.queue.length + c.dueEvents now :=
  length_foldl_requeue _ _

theorem length_enqueue (maxSize : Nat) (queue : List (QueuedEvent P)) (event : DatacatEvent P) :
    (enqueue maxSize queue event).1.length = min (queue.length + 1) (max maxSize 1) := by
  unfold enqueue
  dsimp only
  rw [List.length_append, List.length_drop, List.length_singleton]
  split
  · omega
  · omega

/-! ## What a call holds -/

/-- The batch that a flush holds fits. -/
def Point.Within (settings : Settings P) : Point P → Prop
  | .next => True
  | .settled => True
  | point => settings.Fits point.events.length

/-- The batch that a call holds fits. -/
def Task.Within (settings : Settings P) : Task P → Prop
  | .flush _ point => point.Within settings
  | task => settings.Fits task.events.length

def Client.Within (settings : Settings P) (c : Client P) : Prop :=
  ∀ task ∈ c.tasks, task.Within settings

/-- The requests that were sent fit. -/
def SendsFit (settings : Settings P) (outputs : List (Output P)) : Prop :=
  ∀ request, .sent request ∈ outputs → settings.Fits request.events.length

section Steps

variable {settings : Settings P} {c : Client P} {items : List (QueuedEvent P)} {now : Int}
  {scheduled : Bool} {out : Effect P}

theorem sendsFit_nil : SendsFit settings [] := fun _ h => absurd h List.not_mem_nil

theorem sendsFit_reported {events : List (DatacatEvent P)} :
    SendsFit settings [.reported events] := fun request h => by simp at h

theorem sendsFit_acknowledged {events : List (DatacatEvent P)} :
    SendsFit settings [.acknowledged events] := fun request h => by simp at h

theorem sendsFit_cons {request : Request P} {outputs : List (Output P)}
    (h : settings.Fits request.events.length) (houtputs : SendsFit settings outputs) :
    SendsFit settings (.sent request :: outputs) := by
  intro other hother
  rcases List.mem_cons.mp hother with hother | hother
  · obtain rfl := Output.sent.inj hother
    exact h
  · exact houtputs other hother

theorem sendsFit_sent {request : Request P} (h : settings.Fits request.events.length) :
    SendsFit settings [.sent request] := sendsFit_cons h sendsFit_nil

namespace Client.Within

theorem suspend (h : c.Within settings) {task : Task P} (htask : task.Within settings) :
    (c.suspend task).Within settings := by
  intro other hother
  rcases List.mem_append.mp hother with hother | hother
  · exact h other hother
  · rwa [List.mem_singleton.mp hother]

theorem flushLoop (h : c.Within settings)
    (hlength : AtMost (defaultMaxBatchEvents + 1) settings.batchSize →
      c.queue.length ≤ defaultMaxBatchEvents) :
    (c.flushLoop settings scheduled now).Within settings := by
  unfold Client.flushLoop
  split
  · exact h.suspend trivial
  · dsimp only
    split
    · exact suspend h trivial
    · rename_i hbatch
      refine suspend h ?_
      -- the batch has as many events as were taken
      have hcount : (eventsOf (c.queue.take
          (dequeueCount settings.batchSize c.queue.length))).length =
            dequeueCount settings.batchSize c.queue.length := by
        rw [eventsOf, List.length_map, List.length_take, min_eq_left (dequeueCount_le _ _)]
      show settings.Fits (eventsOf _).length
      rw [hcount]
      refine Settings.fits_dequeueCount hlength fun hzero => hbatch ?_
      rw [hzero, List.take_zero]

theorem doFlush (h : c.Within settings)
    (hlength : AtMost (defaultMaxBatchEvents + 1) settings.batchSize →
      c.queue.length + c.dueEvents now ≤ defaultMaxBatchEvents) :
    (c.doFlush settings scheduled now).Within settings :=
  flushLoop h (by rwa [length_drainDueRetries])

theorem scheduleFlush (h : c.Within settings)
    (hlength : c.flushing = false → AtMost (defaultMaxBatchEvents + 1) settings.batchSize →
      c.queue.length + c.dueEvents now ≤ defaultMaxBatchEvents) :
    (c.scheduleFlush settings now).Within settings := by
  unfold Client.scheduleFlush
  split
  · exact h
  · exact doFlush h (hlength (Bool.eq_false_iff.mpr ‹_›))

theorem beaconFlush (h : c.Within settings)
    (hfits : c.queue.length + c.dueEvents now ≠ 0 →
      settings.Fits (c.queue.length + c.dueEvents now)) :
    (c.beaconFlush now).Within settings := by
  rw [← length_drainDueRetries] at hfits
  unfold Client.beaconFlush
  dsimp only
  split
  · exact h
  · rename_i hqueue
    refine suspend h ?_
    show settings.Fits (eventsOf _).length
    rw [eventsOf, List.length_map]
    exact hfits fun hzero => hqueue (List.isEmpty_iff.mpr (List.eq_nil_of_length_eq_zero hzero))

end Client.Within

/-- Nothing is sent when a retry is scheduled. -/
theorem Client.within_scheduleRetry {wait : Option F64} (h : c.Within settings) :
    (c.scheduleRetry settings scheduled items wait now).1.Within settings ∧
      SendsFit settings (c.scheduleRetry settings scheduled items wait now).2 := by
  unfold scheduleRetry
  dsimp only
  have hsends : SendsFit settings
      (if (items.filter fun i => decide (settings.maxRetries ≤ i.retryCount + 1)).isEmpty then []
        else [.reported (eventsOf
          (items.filter fun i => decide (settings.maxRetries ≤ i.retryCount + 1)))]) := by
    split
    · exact sendsFit_nil
    · exact sendsFit_reported
  split
  · exact ⟨h.suspend trivial, hsends⟩
  · exact ⟨h.suspend trivial, hsends⟩

/-- The answer to a request leaves its batch as it is. -/
theorem Client.within_onResponse {status : Nat} {retryAfter : Option F64} (h : c.Within settings)
    (hitems : settings.Fits (eventsOf items).length) :
    (c.onResponse settings scheduled items status retryAfter now).1.Within settings ∧
      SendsFit settings (c.onResponse settings scheduled items status retryAfter now).2 := by
  unfold onResponse
  split
  · exact ⟨h.suspend trivial, sendsFit_acknowledged⟩
  · split
    · exact ⟨Within.suspend h hitems, sendsFit_nil⟩
    · split
      · exact ⟨h.suspend hitems, sendsFit_nil⟩
      · split
        · exact within_scheduleRetry h
        · exact within_scheduleRetry h

theorem FlushResumed.within {point : Point P}
    (h : FlushResumed settings scheduled now c point out) (hc : c.Within settings)
    (hpoint : point.Within settings)
    (hnext : point = .next → AtMost (defaultMaxBatchEvents + 1) settings.batchSize →
      c.queue.length ≤ defaultMaxBatchEvents) :
    out.1.Within settings ∧ SendsFit settings out.2 := by
  cases h with
  | attempted houtcome =>
    unfold Client.attemptSend
    split
    · exact ⟨hc.suspend hpoint, sendsFit_sent hpoint⟩
    · exact ⟨hc.suspend trivial, sendsFit_reported⟩
  | abandoned houtcome => exact ⟨hc.suspend trivial, sendsFit_nil⟩
  | responded status retryAfter => exact Client.within_onResponse hc hpoint
  | unreachable => exact Client.within_scheduleRetry hc
  | refreshed houtcome => exact ⟨hc.suspend hpoint, sendsFit_sent hpoint⟩
  | notRefreshed houtcome => exact ⟨hc.suspend trivial, sendsFit_reported⟩
  | acknowledged => exact ⟨hc.suspend trivial, sendsFit_acknowledged⟩
  | failedAgain => exact Client.within_scheduleRetry hc
  | refused => exact ⟨hc.suspend trivial, sendsFit_reported⟩
  | next => exact ⟨hc.flushLoop (hnext rfl), sendsFit_nil⟩
  | settled => exact ⟨hc, sendsFit_nil⟩

theorem Resumed.within {call : Task P} (h : Resumed settings now c call out)
    (hc : c.Within settings) (hcall : call.Within settings)
    (hnext : (∃ scheduled, call = .flush scheduled .next) →
      AtMost (defaultMaxBatchEvents + 1) settings.batchSize →
        c.queue.length ≤ defaultMaxBatchEvents) :
    out.1.Within settings ∧ SendsFit settings out.2 := by
  cases h with
  | flush hflush => exact hflush.within hc hcall fun hpoint => hnext ⟨_, by rw [hpoint]⟩
  | beaconSent houtcome hbody => exact ⟨hc.suspend hcall, sendsFit_sent hcall⟩
  | beaconAbandoned houtcome hbody => exact ⟨hc, sendsFit_nil⟩
  | beaconRejected houtcome => exact ⟨hc, sendsFit_reported⟩
  | beaconAnswered ok beacon =>
    unfold Client.resumeBeaconFetch
    split
    · exact ⟨hc, sendsFit_acknowledged⟩
    · split
      · exact ⟨hc, sendsFit_cons hcall fun other hother => by simp at hother⟩
      · exact ⟨hc, sendsFit_cons hcall sendsFit_reported⟩
      · exact ⟨hc, sendsFit_reported⟩

/-- An event that is tracked starts at most one flush, and sends nothing by itself. -/
theorem Client.within_track {eventName eventId : String} {properties : P} {now : Int}
    (h : c.Within settings)
    (hflush : AtMost (defaultMaxBatchEvents + 1) settings.batchSize →
      flushFinds settings c (.track eventName properties eventId now) ≤ defaultMaxBatchEvents) :
    (c.track settings eventName properties eventId now).1.Within settings ∧
      SendsFit settings (c.track settings eventName properties eventId now).2 := by
  rcases track_cases settings eventName properties eventId now c with ⟨-, htrack⟩ |
    ⟨event, queue, dropped, hactor, -, henqueue, htrack⟩
  · rw [htrack]
    exact ⟨h, sendsFit_reported⟩
  · rw [htrack]
    have hlength := length_enqueue settings.maxQueueSize c.queue event
    rw [henqueue] at hlength
    constructor
    · dsimp only
      split
      · rename_i hfull
        refine Within.scheduleFlush h fun hidle hoption => ?_
        have hfinds := hflush hoption
        unfold flushFinds at hfinds
        dsimp only at hfinds hlength hidle
        rw [← hlength, if_pos (by rw [hactor, hidle, hfull]; rfl)] at hfinds
        exact hfinds
      · exact h
    · dsimp only
      split
      · intro request hrequest
        simp at hrequest
      · intro request hrequest
        simp at hrequest

/-- What each call holds fits after a step that takes no more than fits, and so do the requests. -/
theorem Client.step_within {input : Input P} (hstep : c.step settings input = some out)
    (h : c.Within settings) (hfew : FindsFew settings c input) :
    out.1.Within settings ∧ SendsFit settings out.2 := by
  have hflush := hfew.flush
  cases stepped hstep with
  | identify actorId tenantId =>
    exact ⟨h, sendsFit_nil⟩
  | track eventName properties eventId now => exact within_track h hflush
  | flush now =>
    refine ⟨?_, sendsFit_nil⟩
    dsimp only
    split
    · exact h
    · rename_i hidle
      unfold flushFinds at hflush
      dsimp only at hflush
      rw [if_neg hidle] at hflush
      exact h.doFlush hflush
  | tick now htimer =>
    refine ⟨h.scheduleFlush fun hidle => ?_, sendsFit_nil⟩
    unfold flushFinds at hflush
    dsimp only at hflush
    rwa [if_neg (by rw [hidle]; exact Bool.false_ne_true)] at hflush
  | pageHidden now hlistening =>
    exact ⟨h.beaconFlush hfew.beacon, sendsFit_nil⟩
  | shutdown now =>
    exact ⟨Within.doFlush h hflush, sendsFit_nil⟩
  | tokenAnswer htokens =>
    exact ⟨h, sendsFit_nil⟩
  | resume hresume =>
    obtain ⟨call, hcall, hresumed⟩ := resumed hresume
    refine hresumed.within (fun other hother => h other (List.mem_of_mem_eraseIdx hother))
      (h call (List.mem_of_getElem? hcall)) ?_
    rintro ⟨scheduled, rfl⟩
    unfold flushFinds at hflush
    dsimp only at hflush
    rwa [hcall] at hflush

end Steps

/-! ## Requests of a run -/

/-- A step that finds no more than fits. -/
def FittingStep (settings : Settings P) (c : Client P) (x : Label P) (c' : Client P) : Prop :=
  FindsFew settings c x.1 ∧ Step settings c x c'

theorem within_of_run {settings : Settings P} {start c : Client P} {labels : List (Label P)}
    (h : Run (FittingStep settings) start labels c) (hstart : start.Within settings) :
    c.Within settings ∧ SendsFit settings (outputsOf labels) := by
  induction h with
  | nil => exact ⟨hstart, sendsFit_nil⟩
  | snoc hrun hstep ih =>
    obtain ⟨hwithin, hsent⟩ := ih
    obtain ⟨hwithin', hsent'⟩ := Client.step_within hstep.2 hwithin hstep.1
    refine ⟨hwithin', fun request hrequest => ?_⟩
    rw [outputsOf_snoc, List.mem_append] at hrequest
    exact hrequest.elim (hsent request) (hsent' request)

section Server

variable [FloatFormat]

/-- Only the number of its events makes a request too large. -/
theorem ingestEvents_payloadTooLarge {s : AppState} {call : Call} {body : Events.IngestBody}
    {message : String}
    (h : (Api.ingestEvents s call (some body)).1 = some (.error (.payloadTooLarge message))) :
    s.limits.maxBatchEvents < body.events.length := by
  unfold Api.ingestEvents at h
  dsimp only at h
  split at h
  · cases h
  · split at h
    · cases h
    · split at h
      · assumption
      · split at h
        · cases h
        · split at h
          · cases h
          · split at h <;> cases h

/-- **The size of the requests.** In every run whose steps find no more than fits, each request
carries at most the smaller of `batchSize` and the server's maximum, and no server with that
maximum refuses it as too large. -/
theorem requests_fit {settings : Settings P} {actorId tenantId : Option String} {listening : Bool}
    {c : Client P} {labels : List (Label P)}
    (h : Run (FittingStep settings) (.new actorId tenantId listening) labels c)
    {request : Request P} (hsent : .sent request ∈ outputsOf labels) :
    (AtMost request.events.length settings.batchSize ∧
      request.events.length ≤ defaultMaxBatchEvents) ∧
    ∀ (s : AppState) (call : Call) (body : Events.IngestBody) (message : String),
      s.limits.maxBatchEvents = defaultMaxBatchEvents →
      body.events.length = request.events.length →
      (Api.ingestEvents s call (some body)).1 ≠ some (.error (.payloadTooLarge message)) := by
  have hstart : (Client.new actorId tenantId listening).Within settings :=
    fun task htask => absurd htask List.not_mem_nil
  obtain ⟨hoption, hserver⟩ := (within_of_run h hstart).2 request hsent
  refine ⟨⟨hoption, hserver⟩, fun s call body message hlimit hlength hrefused => ?_⟩
  have hlarge := ingestEvents_payloadTooLarge hrefused
  omega

end Server

/-- A page that hides finds two events behind the first. -/
def hidden : List (Input Unit) :=
  [.track "signup" () "e1" 0, .track "view" () "e2" 0, .track "view" () "e3" 0, .pageHidden 1,
    .tokenAnswer (some "t"), .resume 1 .goOn none 2]

/-- The first event is sent alone. -/
theorem requests_fit_tracked : ∃ labels c request,
    Run (FittingStep oneByOne) (.new none none false) labels c ∧
      .sent request ∈ outputsOf labels ∧
      (AtMost request.events.length oneByOne.batchSize ∧
        request.events.length ≤ defaultMaxBatchEvents) := by
  let _ : FloatFormat := FloatFormat.ofBits
  let next (c : Client Unit) (input : Input Unit) :=
    if FindsFew oneByOne c input then c.step oneByOne input else none
  let request : Request Unit :=
    ⟨"t", [⟨"e1", "signup", "a", "s", toISOString 0, (), none⟩], false⟩
  have hout : (Run.replay next (tracked (some "t")) (.new none none false)).any (fun out =>
      decide (.sent request ∈ outputsOf out.2)) = true := by
    decide +kernel
  obtain ⟨⟨c, labels⟩, hreplay, hsent⟩ := (Option.any_eq_true _ _).mp hout
  have hrun : Run (FittingStep oneByOne) (.new none none false) labels c := by
    apply (Run.of_replay hreplay).mono
    intro c x c' hnext
    exact Option.ite_none_right_eq_some.mp hnext
  exact ⟨labels, c, request, hrun, of_decide_eq_true hsent,
    (requests_fit hrun (of_decide_eq_true hsent)).1⟩

/-- The page puts both into one request. -/
theorem not_requests_fit_hidden : ∃ labels c request,
    Run (Step oneByOne) (.new (some "a") none true) labels c ∧
      .sent request ∈ outputsOf labels ∧ ¬AtMost request.events.length oneByOne.batchSize := by
  let request : Request Unit :=
    ⟨"t", [⟨"e2", "view", "a", "s", toISOString 0, (), none⟩,
      ⟨"e3", "view", "a", "s", toISOString 0, (), none⟩], false⟩
  have hout : (replay oneByOne hidden (.new (some "a") none true)).any (fun out =>
      decide (.sent request ∈ outputsOf out.2)) = true := by
    decide +kernel
  obtain ⟨⟨c, labels⟩, hreplay, hsent⟩ := (Option.any_eq_true _ _).mp hout
  have hlarge : ¬AtMost 2 (F64.ofInt 1) := by decide +kernel
  exact ⟨labels, c, request, run_replay hreplay, of_decide_eq_true hsent, hlarge⟩

end Datacat.Sdk
