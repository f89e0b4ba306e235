import Datacat.Sdk.Flutter.Retries
import Datacat.Sdk.Spacing

/-!
# The Spacing of the Retries of the Flutter Client

An event whose batch failed stays in the queue, and whatever sends the queue next sends it: the
timer, a full batch, a call of `flush` or of `dispose`. Only the send that a `Retry-After` delays
keeps to the delay.

## Main results

- `Timed.Still.step`: as long as no other send begins, the event is not sent early.
- `Retry.spaced`: when the delay of a batch that failed is kept.
- `retry_spacing`: the delays of the two clients.
-/

namespace Datacat.Sdk.Flutter

open Basics

variable {P : Type}

/-! ## Clocks, delays and timers -/

/-- The reading of the clock in the step. -/
def Input.clock : Input P → Option Int
  | .track _ _ _ _ now => some now
  | .sessionGoesOn now => some now
  | .disposalGoesOn now => some now
  | .tick now => some now
  | .retryAfter now => some now
  | .resume _ now => some now
  | _ => none

/-- The readings of the clock during a run. -/
def readings (labels : List (Label P)) : List Int := labels.filterMap fun x => x.1.clock

/-- How many milliseconds a failed answer asks for, when the attempt has this backoff. -/
def Answer.delay (backoff : ℚ) : Answer → Option ℚ
  | .error => some backoff
  | .response status retryAfter =>
    if 500 ≤ status ∧ status ≤ 599 then some backoff
    else if status = 429 then retryAfter.map fun (seconds : Int) => 1000 * (seconds : ℚ)
    else none
  | _ => none

/-- The client, with the instants at which its delayed sends are due. -/
structure Timed (P : Type) where
  client : Client P
  timers : List Int := []

/-- What a step does to the timers: `Future.delayed` starts one, and it goes off when it is due or
later. -/
def Timers (s : Timed P) (input : Input P) (s' : Timed P) : Prop :=
  match input with
  | .retryAfter now => ∃ due ∈ s.timers, due ≤ now ∧ s'.timers = s.timers.erase due
  | .resume (.response _ (some seconds)) now =>
    s'.timers =
      if s.client.delayedSends < s'.client.delayedSends then s.timers ++ [now + 1000 * seconds]
      else s.timers
  | _ => s'.timers = s.timers

def TimedStep (settings : Settings P) (s : Timed P) (x : Label P) (s' : Timed P) : Prop :=
  Step settings s.client x s'.client ∧ Timers s x.1 s'

/-! ## Sends that do not wait -/

/-- The events of the queue that stay when another one enters. -/
def Client.staying (settings : Settings P) (c : Client P) : List (DatacatEvent P) :=
  if settings.maxQueueSize ≤ c.queue.length then c.queue.tail else c.queue

/-- The timer, a call of `flush` or a call of `dispose` comes to the queue. -/
def Flushes (c : Client P) : Input P → Prop
  | .tick _ => c.disposed = false
  | .disposalGoesOn _ => True
  | .sessionGoesOn _ =>
    (∃ id, c.session = .ready id) ∧ ∃ call, c.waiting.head? = some (.flush call)
  | _ => False

/-- The step begins a send with the event in the queue, and is no delayed send. -/
def Begins (settings : Settings P) (id : String) (c : Client P) (input : Input P) : Prop :=
  c.sending = none ∧
    (Flushes c input ∧ id ∈ c.queueIds ∨
      Enters c input ∧ settings.batchSize ≤ (c.staying settings).length + 1 ∧
        id ∈ idsOf (c.staying settings))

/-! ## What a step begins -/

/-- Nothing is sent, or the event is neither in the queue nor sent. -/
def Client.Rests (id : String) (c : Client P) : Prop := c.sending = none ∨ id ∉ c.present

section Rests

variable {settings : Settings P} {id : String} {c c' : Client P} {now : Int} {out : Effect P}

theorem Client.present_of_idle (h : c.sending = none) :
    c.present = (c.queueIds : Multiset String) := by
  rw [present, flightIds_of_none h, Multiset.coe_nil, Multiset.union_zero]

/-- A send that begins does not take an event that is not in the queue. -/
theorem MayStart.rests (h : MayStart settings c c') (hidle : c.sending = none)
    (hid : id ∉ c.queueIds) : c'.Rests id := by
  right
  rw [h.present, Client.present_of_idle hidle]
  exact hid

theorem Client.rests_add {event : DatacatEvent P} (hidle : c.sending = none)
    (hevent : event.eventId ≠ id)
    (h : settings.batchSize ≤ c.queue.length + 1 → id ∉ c.queueIds) :
    (c.add settings event now).1.Rests id := by
  unfold add
  dsimp only
  split
  · rename_i hfull
    rw [List.length_append, List.length_singleton] at hfull
    refine (mayStart_sendBatch settings none now _).1.rests hidle ?_
    rw [queueIds, idsOf, List.map_append, List.mem_append]
    rintro (hmem | hmem)
    · exact h hfull hmem
    · exact hevent (List.mem_singleton.mp hmem).symm
  · exact .inl hidle

theorem Client.rests_enqueue {event : DatacatEvent P} (hidle : c.sending = none)
    (hevent : event.eventId ≠ id)
    (h : settings.batchSize ≤ (c.staying settings).length + 1 →
      id ∉ idsOf (c.staying settings)) : (c.enqueue settings event now).1.Rests id := by
  unfold enqueue
  unfold staying at h
  split
  · rename_i hfull
    rw [if_pos hfull] at h
    split
    · exact .inl hidle
    · rename_i oldest rest hqueue
      rw [hqueue] at h
      exact rests_add (c := { c with queue := rest
                                     retryCount := c.retryCount.remove oldest.eventId })
        hidle hevent h
  · rename_i hroom
    rw [if_neg hroom] at h
    exact rests_add hidle hevent h

theorem Client.rests_track {eventName eventId timestampClient : String} {properties : P}
    (hidle : c.sending = none)
    (hfresh : id ∉ tracked (c.track settings eventName properties eventId timestampClient now).2)
    (hbegins : ¬Begins settings id c (.track eventName properties eventId timestampClient now)) :
    (c.track settings eventName properties eventId timestampClient now).1.Rests id := by
  unfold track at hfresh ⊢
  split at hfresh
  · rw [if_pos ‹_›]
    exact .inl hidle
  · rename_i hopen
    rw [if_neg hopen]
    split at hfresh
    · exact .inl hidle
    · rename_i actorId hactor
      split at hfresh
      · rw [if_pos ‹_›]
        exact .inl hidle
      · rename_i hnonempty
        rw [if_neg hnonempty]
        dsimp only at hfresh ⊢
        split at hfresh
        · exact .inl hidle
        · rename_i sessionId hsession
          have hevent : eventId ≠ id := by
            rintro rfl
            exact hfresh (by simp [Output.trackedIds])
          refine rests_enqueue hidle hevent fun hfull hid => hbegins ⟨hidle, .inr ⟨?_, hfull, hid⟩⟩
          refine ⟨?_, ?_, ⟨actorId, hactor, Bool.eq_false_iff.mpr hnonempty⟩, ?_⟩
          · exact Bool.eq_false_iff.mpr fun h => hopen (by simp [h])
          · exact Bool.eq_false_iff.mpr fun h => hopen (by simp [h])
          · rw [hsession]
            exact Option.some_ne_none sessionId

/-- What awaited the session goes on. -/
theorem Client.rests_sessionGoesOn (h : c.step settings (.sessionGoesOn now) = some out)
    (hidle : c.sending = none) (hfresh : id ∉ c.deferredIds)
    (hbegins : ¬Begins settings id c (.sessionGoesOn now)) : out.1.Rests id := by
  obtain ⟨first, rest, hwaiting, hwent⟩ := step_sessionGoesOn h
  have hhead : c.waiting.head? = some first := by rw [hwaiting]; rfl
  cases hwent with
  | @entered deferred sessionId hsession hopen =>
    have hevent : deferred.eventId ≠ id := by
      rintro rfl
      apply hfresh
      rw [deferredIds, hwaiting, List.flatMap_cons]
      exact List.mem_append_left _ (List.mem_singleton_self _)
    exact rests_enqueue (c := { c with waiting := rest }) hidle hevent fun hfull hid =>
      hbegins ⟨hidle, .inr ⟨⟨hopen, ⟨sessionId, hsession⟩, deferred, hhead⟩, hfull, hid⟩⟩
  | @flushed call =>
    by_cases hid : id ∈ c.queueIds
    · -- the flush of a session that is ready would begin a send
      have hready : ¬∃ sessionId, c.session = .ready sessionId := fun hready =>
        hbegins ⟨hidle, .inl ⟨⟨hready, call, hhead⟩, hid⟩⟩
      dsimp only [step] at h
      rw [hwaiting] at h
      dsimp only [onSession] at h
      split at h
      · exact absurd ⟨_, ‹_›⟩ hready
      · rw [← Option.some.inj h]
        exact .inl hidle
      · cases h
    · exact (mayStart_flushInternal settings call now { c with waiting := rest }).1.rests hidle hid
  | lost hloses => exact .inl hidle
  | delayed => exact .inl hidle
  | failed hcall hsession => exact .inl hidle

/-- As long as no other send begins, the event is not sent. -/
theorem Client.rests_of_step {input : Input P} (h : c.step settings input = some out)
    (hidle : c.sending = none) (hdelayed : ∀ now, input ≠ .retryAfter now)
    (hdeferred : id ∉ c.deferredIds) (hfresh : id ∉ tracked out.2)
    (hbegins : ¬Begins settings id c input) : out.1.Rests id := by
  cases input with
  | identify actorId tenantId =>
    obtain rfl := Option.some.inj h
    exact .inl hidle
  | track eventName properties eventId timestampClient now =>
    obtain rfl := Option.some.inj h
    exact rests_track hidle hfresh hbegins
  | flush =>
    obtain rfl := Option.some.inj h
    unfold flush
    split <;> exact .inl hidle
  | dispose =>
    obtain rfl := Option.some.inj h
    unfold dispose
    split <;> exact .inl hidle
  | sessionRead stored fresh =>
    obtain ⟨session, rfl⟩ := step_sessionRead h
    exact .inl hidle
  | sessionWritten =>
    obtain ⟨session, rfl⟩ := step_sessionWritten h
    exact .inl hidle
  | sessionFails =>
    obtain ⟨session, rfl⟩ := step_sessionFails h
    exact .inl hidle
  | sessionGoesOn now => exact rests_sessionGoesOn h hidle hdeferred hbegins
  | disposalGoesOn now =>
    obtain ⟨call, rest, -, rfl⟩ := step_disposalGoesOn h
    refine (mayStart_flushInternal settings call now
      { c with delayedDisposals := rest, disposed := true }).1.rests hidle fun hid => ?_
    exact hbegins ⟨hidle, .inl ⟨trivial, hid⟩⟩
  | tick now =>
    dsimp only [step] at h
    split at h
    · split at h
      · rename_i hopen
        obtain rfl := Option.some.inj h
        refine (mayStart_sendBatch settings none now c).1.rests hidle fun hid => ?_
        have hdisposed : c.disposed = false := by simpa using (Bool.and_eq_true_iff.mp hopen).1
        exact hbegins ⟨hidle, .inl ⟨hdisposed, hid⟩⟩
      · obtain rfl := Option.some.inj h
        exact .inl hidle
    · cases h
  | retryAfter now => exact absurd rfl (hdelayed now)
  | resume answer now =>
    obtain ⟨send, hsending, -⟩ := step_resume h
    rw [hidle] at hsending
    cases hsending

/-- What waits for the session was there before, or is tracked. -/
theorem Client.deferredIds_of_step {input : Input P} (h : c.step settings input = some out)
    (hid : id ∉ c.deferredIds) (hfresh : id ∉ tracked out.2) : id ∉ out.1.deferredIds := by
  cases Client.stepped h with
  | quiet hagrees hdeferred houtputs => rwa [hdeferred]
  | deferred hagrees hdeferred =>
    rw [hdeferred, List.mem_append, not_or]
    refine ⟨hid, fun hmem => hfresh ?_⟩
    rw [List.mem_singleton.mp hmem]
    simp [Output.trackedIds]
  | lost hloses hagrees hdeferred =>
    rw [hdeferred] at hid
    exact fun hmem => hid (List.mem_cons_of_mem _ hmem)
  | tracked henters hentered hdeferred => rwa [hdeferred]
  | undeferred c₀ henters hagrees hentered hdeferred =>
    rw [hdeferred] at hid
    exact fun hmem => hid (List.mem_cons_of_mem _ hmem)
  | started c₀ hagrees hstart hdeferred houtputs => rwa [hdeferred]
  | resumed hsending hsend => rwa [Client.deferredIds_congr hsend.sameCalls.waiting]

/-- A request holds the batch that is sent. -/
theorem Client.mem_flightIds_of_attempts {input : Input P} (h : c.step settings input = some out)
    (hattempts : attempts id out.2 ≠ 0) : id ∈ c.flightIds := by
  have hentered {event : DatacatEvent P} {c : Client P} {out : Effect P}
      (h : Entered settings event c out) : attempts id out.2 = 0 := by
    cases h <;> rfl
  cases Client.stepped h with
  | quiet hagrees hdeferred houtputs => exact absurd (attempts_of_quiet houtputs) hattempts
  | deferred hagrees hdeferred => exact absurd rfl hattempts
  | lost hloses hagrees hdeferred => exact absurd rfl hattempts
  | tracked henters hent hdeferred =>
    rw [attempts_cons, hentered hent] at hattempts
    exact absurd rfl hattempts
  | undeferred c₀ henters hagrees hent hdeferred => exact absurd (hentered hent) hattempts
  | started c₀ hagrees hstart hdeferred houtputs =>
    exact absurd (attempts_of_quiet houtputs) hattempts
  | @resumed send answer now _ hsending hsend =>
    rw [flightIds_of_some hsending]
    by_contra hid
    apply hattempts
    have hfailure (delay : Option Int) (c : Client P) :
        attempts id (c.handleRetryableFailure settings send delay).2 = 0 := by
      obtain ⟨queue, counts, delayedSends, toDrop, -, hout⟩ :=
        handleRetryableFailure_frame settings send delay c
      rw [hout]
      exact attempts_failure toDrop send.caller
    cases hsend with
    | posted token cache hpoint => simp [Output.attempts, hid]
    | reposted token cache hpoint => simp [Output.attempts, hid]
    | unsent cache hpoint h => exact hfailure none _
    | unavailable delay hpoint h => exact hfailure delay c
    | succeeded hpoint hstatus => simp [deliver, finish, Output.attempts]
    | unauthorized hpoint => rfl
    | refused hpoint hstatus => simp [finish, Output.attempts]
    | abandoned hpoint hstatus => simp [finish, Output.attempts]
    | renewed cache kept hpoint => rfl
    | escaped hpoint => exact attempts_of_quiet (quiet_failed send.caller)

end Rests

/-! ## The timed client -/

/-- The event does not wait for the session; either nothing is sent, and no delayed send is due
before the deadline, or the event is neither in the queue nor sent. -/
structure Timed.Still (id : String) (deadline : ℚ) (s : Timed P) : Prop where
  deferred : id ∉ s.client.deferredIds
  rests : s.client.sending = none ∧ (∀ due ∈ s.timers, deadline ≤ due) ∨ id ∉ s.client.present

section Still

variable {settings : Settings P} {id : String} {deadline : ℚ} {s s' : Timed P}

/-- Until the deadline, a step that begins no other send does not send the event. -/
theorem Timed.Still.step {x : Label P} (h : s.Still id deadline) (hstep : TimedStep settings s x s')
    (hearly : ∀ t ∈ x.1.clock, (t : ℚ) < deadline) (hbegins : ¬Begins settings id s.client x.1)
    (hfresh : id ∉ tracked x.2) : s'.Still id deadline := by
  obtain ⟨hstep, htimers⟩ := hstep
  have hdeferred := Client.deferredIds_of_step hstep h.deferred hfresh
  refine ⟨hdeferred, ?_⟩
  rcases h.rests with ⟨hidle, hlater⟩ | hgone
  · obtain ⟨input, outputs⟩ := x
    -- no delayed send is due, and none is added when nothing is sent
    have hdelayed : ∀ now, input ≠ .retryAfter now := by
      rintro now rfl
      obtain ⟨due, hdue, hle, -⟩ := htimers
      have hpast : (due : ℚ) ≤ now := by exact_mod_cast hle
      exact absurd (hearly now rfl) (not_lt.mpr ((hlater due hdue).trans hpast))
    have hresume : ∀ answer now, input ≠ .resume answer now := by
      rintro answer now rfl
      obtain ⟨send, hsending, -⟩ := Client.step_resume hstep
      rw [hidle] at hsending
      cases hsending
    have hsame : s'.timers = s.timers := by
      cases input with
      | retryAfter now => exact absurd rfl (hdelayed now)
      | resume answer now => exact absurd rfl (hresume answer now)
      | _ => exact htimers
    refine (Client.rests_of_step hstep hidle hdelayed h.deferred hfresh hbegins).imp_left fun hrest =>
      ⟨hrest, ?_⟩
    rwa [hsame]
  · right
    -- No step brings an event back that is gone.
    have hle := Client.step_le hstep
    intro hmem
    have hbefore := Multiset.mem_of_le hle
      (Multiset.mem_add.mpr (.inl (Multiset.mem_add.mpr (.inr hmem))))
    rcases Multiset.mem_add.mp hbefore with hbefore | htracked
    · rcases Multiset.mem_add.mp hbefore with hwaits | hpresent
      · exact h.deferred hwaits
      · exact hgone hpresent
    · exact hfresh htracked

/-- What is still is not sent. -/
theorem Timed.Still.attempts_eq_zero {x : Label P} (h : s.Still id deadline)
    (hstep : TimedStep settings s x s') : attempts id x.2 = 0 := by
  by_contra hne
  have hflight := Client.mem_flightIds_of_attempts hstep.1 hne
  rcases h.rests with ⟨hidle, -⟩ | hgone
  · rw [Client.flightIds_of_none hidle] at hflight
    cases hflight
  · exact hgone (Multiset.mem_union.mpr (.inr hflight))

end Still

/-! ## The delay of a batch that failed -/

section Fails

variable {settings : Settings P} {c : Client P} {send : Sending P} {answer : Answer} {now : Int}
  {out : Effect P} {backoff delay : ℚ}

/-- A failure that asks for a delay leaves the batch to the retries; the `Retry-After` of a first
request is passed on. -/
theorem Client.trySend_delays (hpoint : send.point.awaitsResponse = true)
    (hasks : answer.delay backoff = some delay)
    (h : c.trySend settings send answer now = some out) :
    ∃ override, out = c.handleRetryableFailure settings send override ∧
      ∀ seconds, override = some seconds →
        delay = 1000 * seconds ∧ ∃ status, answer = .response status (some seconds) := by
  have hnone (out : Effect P) (hout : c.handleRetryableFailure settings send none = out) :
      ∃ override, out = c.handleRetryableFailure settings send override ∧
        ∀ seconds, override = some seconds →
          delay = 1000 * seconds ∧ ∃ status, answer = .response status (some seconds) :=
    ⟨none, hout.symm, fun seconds hseconds => by cases hseconds⟩
  cases answer with
  | goOn => cases hasks
  | token jwt => cases hasks
  | error =>
    cases hsend : send.point with
    | post =>
      unfold trySend at h
      rw [hsend] at h
      exact hnone out (Option.some.inj h)
    | repost =>
      unfold trySend at h
      rw [hsend] at h
      exact hnone out (Option.some.inj h)
    | _ =>
      rw [hsend] at hpoint
      cases hpoint
  | response status retryAfter =>
    have hstatus : 500 ≤ status ∧ status ≤ 599 ∨
        status = 429 ∧ ∃ seconds, retryAfter = some seconds ∧ 1000 * (seconds : ℚ) = delay := by
      dsimp only [Answer.delay] at hasks
      split at hasks
      · exact .inl ‹_›
      · split at hasks
        · exact .inr ⟨‹_›, Option.map_eq_some_iff.mp hasks⟩
        · cases hasks
    cases hsend : send.point with
    | post =>
      unfold trySend at h
      rw [hsend] at h
      obtain rfl := Option.some.inj h
      unfold onResponse
      rw [if_neg (by omega), if_neg (by omega), if_neg (by omega)]
      rcases hstatus with hstatus | ⟨hstatus, seconds, rfl, hdelay⟩
      · rw [if_neg (by omega), if_pos (by omega)]
        exact hnone _ rfl
      · rw [if_pos hstatus]
        -- Only here are the seconds passed on.
        refine ⟨some seconds, rfl, fun other hother => ?_⟩
        obtain rfl := Option.some.inj hother
        exact ⟨hdelay.symm, status, rfl⟩
    | repost =>
      unfold trySend at h
      rw [hsend] at h
      dsimp only at h
      rw [if_neg (by omega)] at h
      exact hnone out (Option.some.inj h)
    | _ =>
      rw [hsend] at hpoint
      cases hpoint

/-- Without a `Retry-After` no send is delayed. -/
theorem Client.delayedSends_failure (c : Client P) :
    (c.handleRetryableFailure settings send none).1.delayedSends = c.delayedSends := by
  unfold handleRetryableFailure
  obtain ⟨counts, toRetry, toDrop⟩ :=
    send.batch.foldl (countFailure settings.maxRetries) (c.retryCount, [], [])
  dsimp only
  cases toDrop <;> rfl

/-- After the failure nothing is sent, and its own delayed send is due when the delay has passed. -/
theorem still_of_fails {s s' : Timed P} {id : String} {outputs : List (Output P)}
    (hstep : TimedStep settings s (.resume answer now, outputs) s')
    (hsending : s.client.sending = some send) (hpoint : send.point.awaitsResponse = true)
    (hasks : answer.delay backoff = some delay) (hdeferred : id ∉ s.client.deferredIds)
    (htimers : ∀ due ∈ s.timers, now + delay ≤ due) : s'.Still id (now + delay) := by
  obtain ⟨hstep, htimer⟩ := hstep
  have hresume : s.client.trySend settings send answer now = some (s'.client, outputs) := by
    have hresume : s.client.step settings (.resume answer now) = some (s'.client, outputs) := hstep
    dsimp only [Client.step] at hresume
    rwa [hsending] at hresume
  obtain ⟨override, hout, hoverride⟩ := Client.trySend_delays hpoint hasks hresume
  have hclient : s'.client = (s.client.handleRetryableFailure settings send override).1 :=
    congrArg Prod.fst hout
  obtain ⟨queue, counts, delayedSends, toDrop, -, hframe⟩ :=
    Client.handleRetryableFailure_frame settings send override s.client
  have hafter : s'.client = _ := hclient.trans (congrArg Prod.fst hframe)
  refine ⟨?_, .inl ⟨by rw [hafter], ?_⟩⟩
  · rwa [hafter]
  · -- the only timer that the failure starts is its own
    cases override with
    | none =>
      have hsame : ¬s.client.delayedSends < s'.client.delayedSends := by
        rw [hclient, Client.delayedSends_failure]
        exact Nat.lt_irrefl _
      have hnone : s'.timers = s.timers := by
        cases answer with
        | response status retryAfter =>
          cases retryAfter with
          | none => exact htimer
          | some seconds => exact htimer.trans (if_neg hsame)
        | _ => exact htimer
      rwa [hnone]
    | some seconds =>
      obtain ⟨hdelay, status, rfl⟩ := hoverride seconds rfl
      intro due hdue
      rw [show s'.timers = _ from htimer] at hdue
      split at hdue
      · rcases List.mem_append.mp hdue with hdue | hdue
        · exact htimers due hdue
        · rw [List.mem_singleton.mp hdue, hdelay]
          push_cast
          exact le_rfl
      · exact htimers due hdue

end Fails

/-! ## Runs -/

/-- A run in which a batch fails, and an event of it is sent again. -/
structure Retry (settings : Settings P) (backoff : Nat → ℚ) where
  actorId : Option String
  tenantId : Option String
  sessionId : Option String
  before : List (Label P)
  state : Timed P
  reached : Run (TimedStep settings) ⟨.new actorId tenantId sessionId, []⟩ before state
  /-- The step in which the batch fails. -/
  answer : Answer
  now : Int
  outputs : List (Output P)
  failed : Timed P
  fails : TimedStep settings state (.resume answer now, outputs) failed
  send : Sending P
  sending : state.client.sending = some send
  awaits : send.point.awaitsResponse = true
  event : DatacatEvent P
  held : event ∈ send.batch
  delay : ℚ
  asks : answer.delay (backoff ((state.client.retryCount.get event.eventId).getD 0)) = some delay
  middle : List (Label P)
  last : Timed P
  goesOn : Run (TimedStep settings) failed middle last
  /-- The step that sends the event again. -/
  again : Label P
  next : Timed P
  resends : TimedStep settings last again next
  sends : attempts event.eventId again.2 ≠ 0
  time : Int
  clock : again.1.clock = some time
  distinct : (tracked (outputsOf (before ++ (.resume answer now, outputs) :: middle))).Nodup
  ordered : (now :: readings middle ++ [time]).Pairwise (· ≤ ·)

/-- Until the delay has passed, no delayed send of before is due, and no other send begins with the
event in the queue. -/
def Retry.Undisturbed {settings : Settings P} {backoff : Nat → ℚ} (r : Retry settings backoff) :
    Prop :=
  (∀ due ∈ r.state.timers, r.now + r.delay ≤ due) ∧
    Run.EachStep (TimedStep settings) r.failed
      (fun _ s x => (∀ t ∈ x.1.clock, (t : ℚ) < r.now + r.delay) →
        ¬Begins settings r.event.eventId s.client x.1) r.middle

theorem outputsOf_append (first second : List (Label P)) :
    outputsOf (first ++ second) = outputsOf first ++ outputsOf second :=
  List.flatMap_append

/-- The event stays where it is as long as the clock reads early. -/
theorem still_of_run {settings : Settings P} {id : String} {deadline : ℚ} {s s' : Timed P}
    {labels : List (Label P)} (h : s.Still id deadline) (hrun : Run (TimedStep settings) s labels s')
    (hearly : ∀ t ∈ readings labels, (t : ℚ) < deadline) (hfresh : id ∉ tracked (outputsOf labels))
    (hbegins : Run.EachStep (TimedStep settings) s (fun _ mid x =>
      (∀ t ∈ x.1.clock, (t : ℚ) < deadline) → ¬Begins settings id mid.client x.1) labels) :
    s'.Still id deadline := by
  induction hrun with
  | nil => exact h
  | @snoc labels mid last x hprefix hstep ih =>
    rw [outputsOf_snoc, tracked_append, Multiset.mem_add, not_or] at hfresh
    rw [readings, List.filterMap_append] at hearly
    have hlast : ∀ t ∈ x.1.clock, (t : ℚ) < deadline := by
      intro t ht
      refine hearly t (List.mem_append_right _ ?_)
      rw [List.filterMap_cons, ht]
      exact List.mem_singleton_self t
    have hmid := ih (fun t ht => hearly t (List.mem_append_left _ ht)) hfresh.1 hbegins.of_snoc
    exact hmid.step hstep hlast (hbegins.last hprefix hlast) hfresh.2

/-- The event is not sent before its delay has passed. -/
theorem Retry.spaced {settings : Settings P} {backoff : Nat → ℚ} (r : Retry settings backoff)
    (h : r.Undisturbed) : r.now + r.delay ≤ r.time := by
  obtain ⟨htimers, hbegins⟩ := h
  obtain ⟨-, hordered⟩ := List.pairwise_cons.mp r.ordered
  by_contra hlate
  -- every reading in between is early
  have hearly : ∀ t ∈ readings r.middle, (t : ℚ) < r.now + r.delay := by
    intro t ht
    have hle := (List.pairwise_append.mp hordered).2.2 t ht r.time (List.mem_singleton_self _)
    have hcast : (t : ℚ) ≤ r.time := by exact_mod_cast hle
    exact hcast.trans_lt (not_le.mp hlate)
  -- the event is sent, so it neither waits for the session nor is it tracked once more
  have hclient : Run (Step settings) (.new r.actorId r.tenantId r.sessionId) r.before r.state.client :=
    r.reached.map Timed.client fun _ _ _ hstep => hstep.1
  have hle := delivered_le hclient
  have hpresent : r.event.eventId ∈ r.state.client.present := by
    refine Multiset.mem_union.mpr (.inr ?_)
    rw [Client.flightIds_of_some r.sending]
    exact List.mem_map_of_mem r.held
  have hdistinct := r.distinct
  rw [outputsOf_append, tracked_append, Multiset.nodup_add] at hdistinct
  obtain ⟨hbefore, -, hdisjoint⟩ := hdistinct
  have hplaces := (Multiset.nodup_add.mp (Multiset.nodup_of_le
    ((Multiset.le_add_right _ _).trans hle) hbefore)).2.2
  have hdeferred : r.event.eventId ∉ r.state.client.deferredIds := fun hmem =>
    Multiset.disjoint_left.mp hplaces hmem hpresent
  have htracked : r.event.eventId ∈ tracked (outputsOf r.before) :=
    Multiset.mem_of_le hle (Multiset.mem_add.mpr (.inl (Multiset.mem_add.mpr (.inr hpresent))))
  have hfresh : r.event.eventId ∉ tracked (outputsOf r.middle) := by
    intro hmem
    refine Multiset.disjoint_left.mp hdisjoint htracked ?_
    rw [← List.singleton_append, outputsOf_append, tracked_append]
    exact Multiset.mem_add.mpr (.inr hmem)
  have hstill := still_of_fails r.fails r.sending r.awaits r.asks hdeferred htimers
  exact r.sends ((still_of_run hstill r.goesOn hearly hfresh hbegins).attempts_eq_zero r.resends)

/-! ## Retries that are replayed -/

/-- A step of the client and of its timers. -/
def Timed.next (settings : Settings P) (s : Timed P) (input : Input P) :
    Option (Timed P × List (Output P)) :=
  (s.client.step settings input).bind fun (c, outputs) =>
    match input with
    | .retryAfter now =>
      (s.timers.find? fun due => decide (due ≤ now)).map fun due =>
        (⟨c, s.timers.erase due⟩, outputs)
    | .resume (.response _ (some seconds)) now =>
      some (⟨c, if s.client.delayedSends < c.delayedSends then s.timers ++ [now + 1000 * seconds]
        else s.timers⟩, outputs)
    | _ => some (⟨c, s.timers⟩, outputs)

theorem timedStep_next {settings : Settings P} {s s' : Timed P} {x : Label P}
    (h : s.next settings x.1 = some (s', x.2)) : TimedStep settings s x s' := by
  obtain ⟨input, outputs⟩ := x
  obtain ⟨⟨c, outs⟩, hstep, h⟩ := Option.bind_eq_some_iff.mp h
  have hdone {timers : List Int}
      (h : some ((⟨c, timers⟩ : Timed P), outs) = some (s', outputs))
      (htimers : Timers s input ⟨c, timers⟩) : TimedStep settings s (input, outputs) s' := by
    obtain ⟨rfl, rfl⟩ := Prod.mk.inj (Option.some.inj h)
    exact ⟨hstep, htimers⟩
  dsimp only at h
  split at h
  · obtain ⟨due, hdue, h⟩ := Option.map_eq_some_iff.mp h
    refine hdone (congrArg some h) ⟨due, List.mem_of_find?_eq_some hdue, ?_, rfl⟩
    simpa using List.find?_some hdue
  · exact hdone h rfl
  · rename_i hretry hresume
    refine hdone h ?_
    unfold Timers
    split
    · exact absurd rfl (hretry _)
    · exact absurd rfl (hresume _ _ _)
    · rfl

/-- The inputs give a run with a batch that fails, and then with a request of its first event. -/
def Resends (settings : Settings P) (backoff : Nat → ℚ) (before : List (Input P)) (answer : Answer)
    (now : Int) (middle : List (Input P)) (again : Input P) (delay : ℚ) (time : Int) : Bool :=
  (Run.replay (Timed.next settings) before ⟨.new (some "a") none (some "s"), []⟩).any
    fun (state, labels) =>
      (state.next settings (.resume answer now)).any fun (failed, outputs) =>
        (Run.replay (Timed.next settings) middle failed).any fun (last, later) =>
          (last.next settings again).any fun (_, resent) =>
            state.client.sending.any fun send => send.batch.head?.any fun event =>
              decide (send.point.awaitsResponse = true ∧
                answer.delay (backoff ((state.client.retryCount.get event.eventId).getD 0)) =
                  some delay ∧ attempts event.eventId resent ≠ 0 ∧ again.clock = some time ∧
                (tracked (outputsOf (labels ++ (.resume answer now, outputs) :: later))).Nodup ∧
                (now :: readings later ++ [time]).Pairwise (· ≤ ·) ∧ state.timers = [])

theorem exists_retry {settings : Settings P} {backoff : Nat → ℚ} {before middle : List (Input P)}
    {answer : Answer} {now time : Int} {again : Input P} {delay : ℚ}
    (h : Resends settings backoff before answer now middle again delay time = true) :
    ∃ r : Retry settings backoff, r.now = now ∧ r.delay = delay ∧ r.time = time ∧
      r.state.timers = [] ∧ r.middle.map Prod.fst = middle := by
  obtain ⟨⟨state, labels⟩, hbefore, h⟩ := (Option.any_eq_true _ _).mp h
  obtain ⟨⟨failed, outputs⟩, hfails, h⟩ := (Option.any_eq_true _ _).mp h
  obtain ⟨⟨last, later⟩, hmiddle, h⟩ := (Option.any_eq_true _ _).mp h
  obtain ⟨⟨next, resent⟩, hagain, h⟩ := (Option.any_eq_true _ _).mp h
  obtain ⟨send, hsending, h⟩ := (Option.any_eq_true _ _).mp h
  obtain ⟨event, hevent, h⟩ := (Option.any_eq_true _ _).mp h
  obtain ⟨hawaits, hasks, hsends, hclock, hdistinct, hordered, htimers⟩ := of_decide_eq_true h
  let r : Retry settings backoff :=
    { actorId := some "a"
      tenantId := none
      sessionId := some "s"
      before := labels
      state := state
      reached := (Run.of_replay hbefore).mono fun _ _ _ h => timedStep_next h
      answer := answer
      now := now
      outputs := outputs
      failed := failed
      fails := timedStep_next hfails
      send := send
      sending := hsending
      awaits := hawaits
      event := event
      held := List.mem_of_head? hevent
      delay := delay
      asks := hasks
      middle := later
      last := last
      goesOn := (Run.of_replay hmiddle).mono fun _ _ _ h => timedStep_next h
      again := (again, resent)
      next := next
      resends := timedStep_next hagain
      sends := hsends
      time := time
      clock := hclock
      distinct := hdistinct
      ordered := hordered }
  exact ⟨r, rfl, rfl, rfl, htimers, Run.map_fst_of_replay hmiddle⟩

/-! ## Both clients -/

/-- **The spacing of the retries.** A batch fails with a 429 that carries a number of seconds, with a
5xx or with a network error. The TypeScript client sends none of its events before the seconds or
the backoff of the event have passed, as long as the batch waits for the event; the Flutter client
does not either, as long as no earlier `Retry-After` ends before and neither the timer, a full
batch, `flush` nor `dispose` begins a send in the meantime. -/
theorem retry_spacing {Q : Type} (settings : Sdk.Settings P) (flutter : Settings Q)
    (backoff : Nat → ℚ) :
    (∀ r : Sdk.Retry settings, r.Waits → r.now + r.delay ≤ r.time) ∧
      ∀ r : Retry flutter backoff, r.Undisturbed → r.now + r.delay ≤ r.time :=
  ⟨fun r => r.spaced, fun r => r.spaced⟩

/-- A first request, before its answer. -/
def sending : List (Input Unit) :=
  [.track "signup" () "e1" "2026-06-21T10:00:00.000Z" 0, .resume (.token "t") 0]

/-- The timer of the one client comes five seconds after a server has asked for one; the delayed
send of the other begins when the minute is over. -/
theorem retry_spacing_kept :
    (∃ r : Sdk.Retry Sdk.oneByOne, r.delay = 1000 ∧ r.now + r.delay ≤ r.time) ∧
      ∃ r : Retry (oneByOne 3) (fun n => 200 * 2 ^ n), r.delay = 60000 ∧
        r.now + r.delay ≤ r.time := by
  have hspacing := retry_spacing Sdk.oneByOne (oneByOne 3) fun n => 200 * 2 ^ n
  constructor
  · have hresends : Sdk.Resends Sdk.oneByOne (Sdk.tracked (some "t")) 0
        (.response 429 (some (F64.ofInt 1))) 9 (Sdk.nextFlush 9 5009) (.resume 0 .goOn none 5009)
        1000 5009 = true := by decide +kernel
    obtain ⟨r, hnow, hdelay, -, hanswer, labels, hreplay, hcall⟩ := Sdk.exists_retry hresends
    refine ⟨r, hdelay, hspacing.1 r fun _ => ?_⟩
    have hwait : r.call.wait (.response 429 (some (F64.ofInt 1))) =
        some (Sdk.thousandTimes (F64.ofInt 1)) := by
      have hfetch : (Sdk.replay Sdk.oneByOne (Sdk.tracked (some "t")) (.new none none false)).all
          (fun out => out.1.tasks[0]?.all fun call =>
            decide (call.wait (.response 429 (some (F64.ofInt 1))) =
              some (Sdk.thousandTimes (F64.ofInt 1)))) = true := by decide +kernel
      rw [hreplay, Option.all_some, hcall, Option.all_some] at hfetch
      exact of_decide_eq_true hfetch
    have hone : (F64.ofInt 1).toRat * 1000 = (1000 : ℕ) := by
      rw [F64.toRat_ofInt (by decide)]
      norm_num
    rw [hnow, hdelay, hanswer]
    have hfinite : (F64.ofInt 1).isFinite = true := Sdk.isFinite_ofInt (by decide)
    have hwaits : Sdk.WaitsFor Sdk.oneByOne r.call (.response 429 (some (F64.ofInt 1))) 9
        (1000 : ℕ) := Sdk.waitsFor_of_whole (by decide) hwait hfinite hone
    exact_mod_cast hwaits
  · have hresends : Resends (oneByOne 3) (fun n => 200 * 2 ^ n) sending
        (.response 429 (some 60)) 0 [.retryAfter 60000] (.resume (.token "u") 60000)
        60000 60000 = true := by decide +kernel
    obtain ⟨r, -, hdelay, -, htimers, hmiddle⟩ := exists_retry hresends
    refine ⟨r, hdelay, hspacing.2 r ⟨by simp [htimers], ?_⟩⟩
    intro before x after s hlabels hrun hearly
    have hx : x.1 ∈ r.middle.map Prod.fst := by
      rw [hlabels]
      exact List.mem_map_of_mem (List.mem_append_right _ List.mem_cons_self)
    rw [hmiddle, List.mem_singleton] at hx
    rw [hx]
    rintro ⟨-, ⟨hflushes, -⟩ | ⟨henters, -⟩⟩
    · exact hflushes
    · exact henters

/-- An event that failed once and one that did not fail together: the second wait is as short as
the first. -/
def mixed : List (Sdk.Input Unit) :=
  [.identify "a" none, .track "signup" () "e1" 0, .flush 0, .tokenAnswer (some "t"),
    .resume 0 .goOn none 0, .resume 0 (.response 503 none) none 0, .resume 0 .goOn none 0,
    .resume 0 .goOn none 0, .track "login" () "e2" 150, .flush 200, .tokenAnswer (some "u"),
    .resume 0 .goOn none 200]

/-- The backoff of an event is cut short by another one of its batch; a server that asks for a
minute is asked again by the next tick. -/
theorem not_retry_spacing :
    (∃ r : Sdk.Retry Sdk.byTwos, r.time < r.now + r.delay) ∧
      ∃ r : Retry (oneByOne 3) (fun n => 200 * 2 ^ n), r.time < r.now + r.delay := by
  constructor
  · have hresends : Sdk.Resends Sdk.byTwos mixed 0 (.response 503 none) 200
        (Sdk.nextFlush 200 400) (.resume 0 .goOn none 400) 400 400 = true := by decide +kernel
    obtain ⟨r, hnow, hdelay, htime, -⟩ := Sdk.exists_retry hresends
    refine ⟨r, ?_⟩
    rw [hnow, hdelay, htime]
    norm_num
  · have hresends : Resends (oneByOne 3) (fun n => 200 * 2 ^ n) sending
        (.response 429 (some 60)) 0 [.tick 5000] (.resume (.token "u") 5000)
        60000 5000 = true := by decide +kernel
    obtain ⟨r, hnow, hdelay, htime, -⟩ := exists_retry hresends
    refine ⟨r, ?_⟩
    rw [hnow, hdelay, htime]
    norm_num

end Datacat.Sdk.Flutter
