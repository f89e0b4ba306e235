import Datacat.Sdk.Conservation

/-!
# Identity of the Events

An event keeps its identifier and its instant from the call of `track` on. As long as the
identifiers are distinct, no event lies in two places at once and no request names one twice: what
is held is part of what entered, and what is sent is the batch of one call.

## Main results

- `Client.outputs_of_step`: only `track` lets events enter, and a call sends the batch it holds.
- `event_identity`: disjoint places, frozen identifiers and instants, no request with a duplicate.
-/

namespace Datacat.Sdk

open Basics

variable {P : Type}

/-- The queue, the batches in flight and the items of the retry schedule. -/
def Client.places (c : Client P) : List (List (DatacatEvent P)) :=
  eventsOf c.queue :: (c.tasks.map Task.events ++ c.retrySchedule.map RetryItem.events)

def idsOf (events : List (DatacatEvent P)) : List String := events.map DatacatEvent.eventId

/-- The identifiers of the events that entered the queue. -/
def enteredIds (labels : List (Label P)) : List String :=
  idsOf ((outputsOf labels).flatMap Output.entered)

/-! ## What a step sends -/

/-- What a call that holds these events may do: send all of them, and let none enter. -/
def Output.About (events : List (DatacatEvent P)) : Output P → Prop
  | .enqueued _ => False
  | .sent request => request.events = events
  | .acknowledged _ => True
  | .beaconed _ => True
  | .reported _ => True

namespace Client

variable {settings : Settings P} {c c' : Client P} {items : List (QueuedEvent P)} {now : Int}
  {scheduled : Bool} {out : Effect P} {o : Output P} {x : Label P}

theorem about_scheduleRetry {retryAfterMs : Option F64} {events : List (DatacatEvent P)}
    (h : o ∈ (c.scheduleRetry settings scheduled items retryAfterMs now).2) : o.About events := by
  have hreport : ∃ abandoned : List (QueuedEvent P), o ∈ (if abandoned.isEmpty then []
      else [Output.reported (eventsOf abandoned)]) := by
    unfold scheduleRetry at h
    dsimp only at h
    split at h
    · exact ⟨_, h⟩
    · exact ⟨_, h⟩
  obtain ⟨abandoned, h⟩ := hreport
  split at h
  · cases h
  · rw [List.mem_singleton.mp h]
    trivial

theorem about_onResponse {status : Nat} {retryAfter : Option F64}
    (h : o ∈ (c.onResponse settings scheduled items status retryAfter now).2) :
    o.About (eventsOf items) := by
  unfold onResponse at h
  split at h
  · rw [List.mem_singleton.mp h]
    trivial
  · split at h
    · cases h
    · split at h
      · cases h
      · split at h
        · exact about_scheduleRetry h
        · exact about_scheduleRetry h

theorem about_resumeFlush {point : Point P}
    (h : FlushResumed settings scheduled now c point out) (ho : o ∈ out.2) :
    o.About point.events := by
  cases h with
  | attempted houtcome =>
    unfold attemptSend at ho
    split at ho
    · rw [List.mem_singleton.mp ho]
      rfl
    · rw [List.mem_singleton.mp ho]
      trivial
  | abandoned houtcome => cases ho
  | responded status retryAfter => exact about_onResponse ho
  | unreachable => exact about_scheduleRetry ho
  | refreshed houtcome =>
    rw [List.mem_singleton.mp ho]
    rfl
  | notRefreshed houtcome =>
    rw [List.mem_singleton.mp ho]
    trivial
  | acknowledged =>
    rw [List.mem_singleton.mp ho]
    trivial
  | failedAgain => exact about_scheduleRetry ho
  | refused =>
    rw [List.mem_singleton.mp ho]
    trivial
  | next => cases ho
  | settled => cases ho

theorem about_resumeBeaconToken {promise : Promise}
    (h : c.resumeBeaconToken settings items promise = some out) (ho : o ∈ out.2) :
    o.About (eventsOf items) := by
  unfold resumeBeaconToken at h
  split at h
  · cases h
  · obtain rfl := Option.some.inj h
    rw [List.mem_singleton.mp ho]
    trivial
  · split at h
    · obtain rfl := Option.some.inj h
      rw [List.mem_singleton.mp ho]
      rfl
    · obtain rfl := Option.some.inj h
      cases ho

theorem about_resumeBeaconFetch {token : String} {ok : Bool} {beacon : Option Bool}
    (ho : o ∈ (c.resumeBeaconFetch items token ok beacon).2) : o.About (eventsOf items) := by
  unfold resumeBeaconFetch at ho
  split at ho
  · rw [List.mem_singleton.mp ho]
    trivial
  · cases beacon with
    | none =>
      rw [List.mem_singleton.mp ho]
      trivial
    | some taken =>
      cases taken with
      | false =>
        rcases List.mem_cons.mp ho with rfl | ho
        · rfl
        · rw [List.mem_singleton.mp ho]
          trivial
      | true =>
        rcases List.mem_cons.mp ho with rfl | ho
        · rfl
        · rw [List.mem_singleton.mp ho]
          trivial

/-- The call that goes on sends the batch that it holds. -/
theorem about_resume {task : Nat} {answer : Answer} {beacon : Option Bool}
    (h : c.resume settings task answer beacon now = some out) :
    ∃ t, c.tasks[task]? = some t ∧ ∀ o ∈ out.2, o.About t.events := by
  unfold resume at h
  split at h
  · cases h
  · rename_i ht
    exact ⟨_, ht, fun o ho => about_resumeFlush (flushResumed h) ho⟩
  · rename_i ht
    refine ⟨_, ht, fun o ho => ?_⟩
    split at h
    · exact about_resumeBeaconToken h ho
    · cases h
  · rename_i ht
    refine ⟨_, ht, fun o ho => ?_⟩
    split at h
    · obtain rfl := Option.some.inj h
      exact about_resumeBeaconFetch ho
    · obtain rfl := Option.some.inj h
      exact about_resumeBeaconFetch ho
    · cases h

/-- Only `track` lets an event enter, with the identifier and the instant of the call. -/
theorem mem_track {eventName eventId : String} {properties : P}
    (h : o ∈ (c.track settings eventName properties eventId now).2) :
    (∃ event : DatacatEvent P, o = .enqueued event ∧ event.eventId = eventId ∧
      event.timestampClient = toISOString now) ∨ ∃ events, o = .reported events := by
  unfold track at h
  split at h
  · exact .inr ⟨_, List.mem_singleton.mp h⟩
  · dsimp only at h
    split at h
    · rcases List.mem_cons.mp h with rfl | h
      · exact .inr ⟨_, rfl⟩
      · exact .inl ⟨_, List.mem_singleton.mp h, rfl, rfl⟩
    · exact .inl ⟨_, List.mem_singleton.mp h, rfl, rfl⟩

/-- A step that is seen is a call of `track`, or a call that goes on. -/
theorem outputs_of_step (h : Step settings c x c') :
    x.2 = [] ∨
      (∃ eventName properties eventId now, x.1 = .track eventName properties eventId now ∧
        x.2 = (c.track settings eventName properties eventId now).2) ∨
      ∃ (i : Nat) (t : Task P), c.tasks[i]? = some t ∧ ∀ o ∈ x.2, o.About t.events := by
  obtain ⟨input, outputs⟩ := x
  unfold Step at h
  dsimp only at h ⊢
  generalize hout : (c', outputs) = out at h
  cases stepped h with
  | track eventName properties eventId now =>
    exact .inr (.inl ⟨_, _, _, _, rfl, congrArg Prod.snd hout⟩)
  | @resume task answer beacon now out hresume =>
    obtain ⟨t, ht, habout⟩ := about_resume hresume
    rw [← hout] at habout
    exact .inr (.inr ⟨task, t, ht, habout⟩)
  | identify actorId tenantId => exact .inl (congrArg Prod.snd hout)
  | flush now => exact .inl (congrArg Prod.snd hout)
  | shutdown now => exact .inl (congrArg Prod.snd hout)
  | tick now htimer => exact .inl (congrArg Prod.snd hout)
  | pageHidden now hlistening => exact .inl (congrArg Prod.snd hout)
  | tokenAnswer htokens => exact .inl (congrArg Prod.snd hout)

/-- What a step lets enter comes from `track`. -/
theorem track_of_enqueued {event : DatacatEvent P} (h : Step settings c x c')
    (hevent : .enqueued event ∈ x.2) :
    ∃ eventName properties now, x.1 = .track eventName properties event.eventId now ∧
      event.timestampClient = toISOString now := by
  rcases outputs_of_step h with hnil | ⟨eventName, properties, eventId, now, hinput, htrack⟩ |
    ⟨i, t, -, habout⟩
  · rw [hnil] at hevent
    cases hevent
  · rw [htrack] at hevent
    rcases mem_track hevent with ⟨event', heq, hid, htime⟩ | ⟨events, heq⟩
    · obtain rfl := Output.enqueued.inj heq
      exact ⟨eventName, properties, now, by rw [hinput, hid], htime⟩
    · cases heq
  · exact absurd (habout _ hevent) id

/-- What a step sends was in flight. -/
theorem sent_le_held {request : Request P} (h : Step settings c x c')
    (hrequest : .sent request ∈ x.2) :
    (request.events : Multiset (DatacatEvent P)) ≤ c.held := by
  rcases outputs_of_step h with hnil | ⟨eventName, properties, eventId, now, -, htrack⟩ |
    ⟨i, t, ht, habout⟩
  · rw [hnil] at hrequest
    cases hrequest
  · rw [htrack] at hrequest
    rcases mem_track hrequest with ⟨event, heq, -⟩ | ⟨events, heq⟩
    · cases heq
    · cases heq
  · have hevents : request.events = t.events := habout _ hrequest
    rw [hevents, held_eraseIdx ht]
    exact Multiset.le_add_left _ _

theorem coe_places (c : Client P) : (c.places.flatten : Multiset (DatacatEvent P)) = c.held := by
  simp only [places, held, List.flatten_cons, List.flatten_append, ← List.flatMap_def,
    ← Multiset.coe_add]
  abel

end Client

/-! ## Runs -/

section Runs

variable {settings : Settings P} {start c : Client P} {labels : List (Label P)}
  {request : Request P} {event : DatacatEvent P}

theorem held_le_entered (h : Run (Step settings) start labels c) (hstart : start.held = 0) :
    c.held ≤ entered (outputsOf labels) := by
  obtain ⟨lost, hbalance, -⟩ := exists_balance h hstart
  rw [hbalance, add_assoc]
  exact Multiset.le_add_right _ _

/-- Every request is made of events that entered, none more often than it did. -/
theorem sent_le_entered (h : Run (Step settings) start labels c) (hstart : start.held = 0)
    (hrequest : .sent request ∈ outputsOf labels) :
    (request.events : Multiset (DatacatEvent P)) ≤ entered (outputsOf labels) := by
  induction h with
  | nil => cases hrequest
  | @snoc labels c c' x hrun hstep ih =>
    rw [outputsOf_snoc] at hrequest
    rw [outputsOf_snoc, entered_append]
    apply le_trans _ (Multiset.le_add_right _ _)
    rcases List.mem_append.mp hrequest with hold | hnew
    · exact ih hold
    · exact (Client.sent_le_held hstep hnew).trans (held_le_entered hrun hstart)

theorem track_of_mem_entered (h : Run (Step settings) start labels c)
    (hevent : event ∈ entered (outputsOf labels)) :
    ∃ x ∈ labels, ∃ eventName properties now,
      x.1 = .track eventName properties event.eventId now ∧
        event.timestampClient = toISOString now := by
  induction h with
  | nil => cases hevent
  | @snoc labels c c' x hrun hstep ih =>
    rw [outputsOf_snoc, entered_append] at hevent
    rcases Multiset.mem_add.mp hevent with hold | hnew
    · obtain ⟨y, hy, htrack⟩ := ih hold
      exact ⟨y, List.mem_append_left _ hy, htrack⟩
    · refine ⟨x, List.mem_append_right _ List.mem_cons_self, ?_⟩
      obtain ⟨o, ho, hentered⟩ := List.mem_flatMap.mp (Multiset.mem_coe.mp hnew)
      cases o with
      | enqueued event' =>
        obtain rfl := List.mem_singleton.mp hentered
        exact Client.track_of_enqueued hstep ho
      | _ => cases hentered

/-- Part of what entered has distinct identifiers when all of it has. -/
theorem nodup_ids_of_le {events : List (DatacatEvent P)}
    (hle : (events : Multiset (DatacatEvent P)) ≤ entered (outputsOf labels))
    (hids : (enteredIds labels).Nodup) : (idsOf events).Nodup := by
  have hmap := Multiset.map_le_map (f := DatacatEvent.eventId) hle
  exact Multiset.nodup_of_le hmap hids

/-- **Identity of the events.** In every state that a new client reaches with distinct identifiers,
an event is in at most one of the queue, one batch in flight or one item of the retry schedule, and
once there; what was sent carries the identifier and the instant fixed by the call of `track`, the
same at each time; and no request has two entries of one identifier. -/
theorem event_identity {actorId tenantId : Option String} {listening : Bool}
    (h : Run (Step settings) (.new actorId tenantId listening) labels c)
    (hids : (enteredIds labels).Nodup) :
    ((∀ place ∈ c.places, (idsOf place).Nodup) ∧ (c.places.map idsOf).Pairwise List.Disjoint) ∧
      (∀ request, .sent request ∈ outputsOf labels → ∀ event ∈ request.events,
        (∃ x ∈ labels, ∃ eventName properties now,
          x.1 = .track eventName properties event.eventId now ∧
            event.timestampClient = toISOString now) ∧
        ∀ request', .sent request' ∈ outputsOf labels → ∀ event' ∈ request'.events,
          event'.eventId = event.eventId → event' = event) ∧
      ∀ request, .sent request ∈ outputsOf labels → (idsOf request.events).Nodup := by
  have hsent := fun request hrequest => @sent_le_entered _ _ _ _ _ request h rfl hrequest
  refine ⟨?_, ?_, ?_⟩
  · -- What the client holds has entered, each event once.
    have hplaces : (c.places.flatten : Multiset (DatacatEvent P)) ≤ entered (outputsOf labels) := by
      rw [Client.coe_places]
      exact held_le_entered h rfl
    have hnodup := nodup_ids_of_le hplaces hids
    rw [idsOf, List.map_flatten, List.nodup_flatten] at hnodup
    exact ⟨fun place hplace => hnodup.1 _ (List.mem_map_of_mem hplace), hnodup.2⟩
  · intro request hrequest event hevent
    -- What is sent has entered, so its id tells which event it is.
    have hmem := Multiset.mem_of_le (hsent request hrequest) (Multiset.mem_coe.mpr hevent)
    refine ⟨track_of_mem_entered h hmem, ?_⟩
    intro request' hrequest' event' hevent' heq
    have hmem' := Multiset.mem_of_le (hsent request' hrequest') (Multiset.mem_coe.mpr hevent')
    exact List.inj_on_of_nodup_map hids hmem' hmem heq
  · intro request hrequest
    exact nodup_ids_of_le (hsent request hrequest) hids

end Runs

/-- The batches that were sent. -/
def sentIds (labels : List (Label P)) : List (List String) :=
  (outputsOf labels).flatMap fun
    | .sent request => [idsOf request.events]
    | _ => []

/-- A refused event is sent again by the next tick of the timer, under a new token. -/
def resent : List (Input Unit) :=
  tracked (some "t") ++ [.resume 0 (.response 503 none) none 9, .resume 0 .goOn none 9,
    .resume 0 .goOn none 9, .tick 5000, .tokenAnswer (some "u"), .resume 0 .goOn none 5001]

theorem event_identity_resent : ∃ labels c,
    Run (Step oneByOne) (.new none none false) labels c ∧ sentIds labels = [["e1"], ["e1"]] ∧
      ∀ request, .sent request ∈ outputsOf labels → ∀ event ∈ request.events,
        ∀ request', .sent request' ∈ outputsOf labels → ∀ event' ∈ request'.events,
          event'.eventId = event.eventId → event' = event := by
  have hout : (replay oneByOne resent (.new none none false)).any (fun out =>
      decide (enteredIds out.2).Nodup && decide (sentIds out.2 = [["e1"], ["e1"]])) = true := by
    decide +kernel
  obtain ⟨⟨c, labels⟩, hreplay, hchecks⟩ := (Option.any_eq_true _ _).mp hout
  obtain ⟨hids, hsent⟩ := (Bool.and_eq_true _ _).mp hchecks
  have hrun := run_replay hreplay
  have hidentity := event_identity hrun (of_decide_eq_true hids)
  refine ⟨labels, c, hrun, of_decide_eq_true hsent, ?_⟩
  intro request hrequest event hevent
  exact (hidentity.2.1 request hrequest event hevent).2

end Datacat.Sdk
