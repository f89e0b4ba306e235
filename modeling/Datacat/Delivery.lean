import Datacat.Api.Events
import Datacat.Db.Service
import Datacat.Sdk.Identity

/-!
# From the Client to the Row

Clients track events and send them, again and again where an answer does not come; the server
validates what it receives and enqueues it; the service of the events writes it. A request may be
received any number of times, in any order and at any later instant, and the process of the server
may be killed and started again in between.

How the text of an event is read (the identifier, the instant, the properties) is a parameter; it
depends on the text alone.

## Main results

- `ingestEvents_enqueues`: the handler enqueues what the validation of the body leaves, or nothing.
- `stored_once`: a tracked event is stored once at most, as it was tracked.
-/

namespace Datacat.Delivery

open Basics Events
open Api (checkEvents ingestEvents)
open Db (Service)

/-! ## The server -/

section Server

variable [FloatFormat]

/-- The validation of a body leaves this batch. -/
def Validates (limits : ValidationLimits) (body : IngestBody) (batch : List StoredEvent) : Prop :=
  ∃ receivedAt droppedSkew,
    checkEvents receivedAt limits 0 body.events = some (.ok (batch, droppedSkew))

/-- An event that is kept is one of those that were validated. -/
theorem mem_of_checkEvents {receivedAt : DateTime} {limits : ValidationLimits}
    {events : List IncomingEvent} {index : Nat} {stored : List StoredEvent} {droppedSkew : Nat}
    {row : StoredEvent}
    (h : checkEvents receivedAt limits index events = some (.ok (stored, droppedSkew)))
    (hrow : row ∈ stored) :
    ∃ ev ∈ events, ∃ i, checkEvent ev receivedAt limits i = some (.ok (.ok row)) := by
  induction events generalizing index stored droppedSkew with
  | nil =>
    obtain ⟨rfl, -⟩ := Prod.mk.inj (Except.ok.inj (Option.some.inj h))
    cases hrow
  | cons ev events ih =>
    have hrest {stored droppedSkew}
        (h : checkEvents receivedAt limits (index + 1) events = some (.ok (stored, droppedSkew)))
        (hrow : row ∈ stored) :
        ∃ ev' ∈ ev :: events, ∃ i, checkEvent ev' receivedAt limits i = some (.ok (.ok row)) := by
      obtain ⟨ev', hev', hcheck⟩ := ih h hrow
      exact ⟨ev', List.mem_cons_of_mem _ hev', hcheck⟩
    rw [checkEvents] at h
    split at h
    · cases h
    · cases h
    · rename_i se hse
      -- The event is kept: the row is it, or one of the others.
      obtain ⟨result, hresult, h⟩ := Option.map_eq_some_iff.mp h
      cases result with
      | error e => cases h
      | ok p =>
        obtain ⟨rfl, -⟩ := Prod.mk.inj (Except.ok.inj h)
        rcases List.mem_cons.mp hrow with rfl | hrow
        · exact ⟨ev, List.mem_cons_self, index, hse⟩
        · exact hrest hresult hrow
    · obtain ⟨result, hresult, h⟩ := Option.map_eq_some_iff.mp h
      cases result with
      | error e => cases h
      | ok p =>
        obtain ⟨rfl, -⟩ := Prod.mk.inj (Except.ok.inj h)
        exact hrest hresult hrow

/-- The handler leaves the channel as it is, or tries to send what the validation of the body
leaves. -/
theorem ingestEvents_enqueues (s : AppState) (call : Call) (body : Option IngestBody) :
    (ingestEvents s call body).2.events.tx = s.events.tx ∨
      ∃ b batch, body = some b ∧ Validates s.limits b batch ∧
        s.events.tx.trySend batch = some (ingestEvents s call body).2.events.tx := by
  unfold ingestEvents
  dsimp only
  split
  · exact .inl rfl
  · cases body with
    | none => exact .inl rfl
    | some body =>
      dsimp only
      split
      · exact .inl rfl
      · split
        · exact .inl rfl
        · split
          · exact .inl rfl
          · split
            · exact .inl rfl
            · split
              · exact .inl rfl
              · exact .inl rfl
              · rename_i stored droppedSkew hchecked
                -- What is enqueued is what the validation left.
                unfold Ingest.Ingestor.tryEnqueue
                dsimp only
                cases hsend : s.events.tx.trySend stored with
                | none =>
                  apply Or.inl
                  rw [show (AppState.isBanned s call).2.events.tx.trySend stored = _ from hsend]
                  rfl
                | some tx =>
                  refine .inr ⟨body, stored, rfl, ⟨_, _, hchecked⟩, ?_⟩
                  rw [show (AppState.isBanned s call).2.events.tx.trySend stored = _ from hsend]
                  exact hsend

end Server

/-! ## The clients -/

section Clients

variable {P : Type} (decode : Sdk.DatacatEvent P → Option IncomingEvent)

/-- What the server reads of a request of a client: nothing when an event of it cannot be read. -/
def bodyOf (request : Sdk.Request P) : Option IngestBody :=
  (request.events.mapM decode).map fun events =>
    { token := if request.tokenInBody then some request.token else none, events := events }

variable {decode}

/-- What is read of a list is read of one of its items. -/
theorem mem_of_mapM {events : List (Sdk.DatacatEvent P)} {incoming : List IncomingEvent}
    (h : events.mapM decode = some incoming) {ev : IncomingEvent} (hev : ev ∈ incoming) :
    ∃ event ∈ events, decode event = some ev := by
  induction events generalizing incoming with
  | nil =>
    obtain rfl := Option.some.inj h
    cases hev
  | cons event events ih =>
    rw [List.mapM_cons, Option.bind_eq_bind, Option.bind_eq_some_iff] at h
    obtain ⟨first, hfirst, h⟩ := h
    rw [Option.bind_eq_bind, Option.bind_eq_some_iff] at h
    obtain ⟨rest, hrest, h⟩ := h
    obtain rfl := Option.some.inj h
    rcases List.mem_cons.mp hev with rfl | hev
    · exact ⟨event, List.mem_cons_self, hfirst⟩
    · obtain ⟨event', hevent', hdecode⟩ := ih hrest hev
      exact ⟨event', List.mem_cons_of_mem _ hevent', hdecode⟩

theorem mem_of_bodyOf {request : Sdk.Request P} {body : IngestBody}
    (h : bodyOf decode request = some body) {ev : IncomingEvent} (hev : ev ∈ body.events) :
    ∃ event ∈ request.events, decode event = some ev := by
  obtain ⟨events, hevents, rfl⟩ := Option.map_eq_some_iff.mp h
  exact mem_of_mapM hevents hev

end Clients

/-! ## Clients and server -/

section Identifiers

variable {P : Type} {ι : Type} {decode : Sdk.DatacatEvent P → Option IncomingEvent}
  {labels : ι → List (Sdk.Label P)}

/-- The row that is stored of an event, when it is received at some instant. -/
def StoredAs (decode : Sdk.DatacatEvent P → Option IncomingEvent) (event : Sdk.DatacatEvent P)
    (row : StoredEvent) : Prop :=
  ∃ ev index, decode event = some ev ∧ objectProperties ev.properties index = .ok row.properties ∧
    row = { eventId := ev.eventId, eventName := ev.eventName, tenantId := ev.tenantId,
            actorId := ev.actorId, sessionId := ev.sessionId, timestampClient := ev.timestampClient,
            receivedAt := row.receivedAt, properties := row.properties }

/-- The key of the row is that of the event, whenever it is received. -/
theorem StoredAs.key_eq {event : Sdk.DatacatEvent P} {row row' : StoredEvent}
    (h : StoredAs decode event row) (h' : StoredAs decode event row') : row.key = row'.key := by
  obtain ⟨ev, index, hdecode, -, hrow⟩ := h
  obtain ⟨ev', index', hdecode', -, hrow'⟩ := h'
  obtain rfl := Option.some.inj (hdecode.symm.trans hdecode')
  rw [hrow, hrow']
  rfl

/-- The clients are new at the start of their runs, and the identifiers that they make are all
distinct. -/
structure Clients (settings : ι → Sdk.Settings P) (labels : ι → List (Sdk.Label P)) : Prop where
  run : ∀ i, ∃ actorId tenantId listening c,
    Run (Sdk.Step (settings i)) (.new actorId tenantId listening) (labels i) c
  distinct : ∀ i, (Sdk.enteredIds (labels i)).Nodup
  apart : ∀ i j, i ≠ j → (Sdk.enteredIds (labels i)).Disjoint (Sdk.enteredIds (labels j))

/-- The event entered the queue of the client. -/
def Tracked (labels : ι → List (Sdk.Label P)) (i : ι) (event : Sdk.DatacatEvent P) : Prop :=
  event ∈ Sdk.entered (Sdk.outputsOf (labels i))

theorem Tracked.mem_enteredIds {i : ι} {event : Sdk.DatacatEvent P} (h : Tracked labels i event) :
    event.eventId ∈ Sdk.enteredIds (labels i) :=
  List.mem_map_of_mem (Multiset.mem_coe.mp h)

/-- Its identifier tells which event of which client it is. -/
theorem Clients.eq_of_eventId {settings : ι → Sdk.Settings P} (h : Clients settings labels)
    {i j : ι} {event event' : Sdk.DatacatEvent P} (hevent : Tracked labels i event)
    (hevent' : Tracked labels j event') (hid : event.eventId = event'.eventId) :
    event = event' := by
  have hij : i = j := by
    by_contra hne
    exact h.apart i j hne hevent.mem_enteredIds (hid ▸ hevent'.mem_enteredIds)
  subst hij
  exact List.inj_on_of_nodup_map (h.distinct i) hevent hevent' hid

end Identifiers

section Deployment

variable [FloatFormat] {P : Type} {ι : Type} {decode : Sdk.DatacatEvent P → Option IncomingEvent}
  {limits : ValidationLimits} {labels : ι → List (Sdk.Label P)} {stamp : DateTime → DateTime}
  {start s : Service .events stamp} {events : List (Service.Event .events)}
  {flushBatchSize channelCapacity : Nat}

/-- Each batch that the service accepts is what the validation leaves of a request that one of the
clients sent. -/
def Fed (decode : Sdk.DatacatEvent P → Option IncomingEvent) (limits : ValidationLimits)
    (labels : ι → List (Sdk.Label P)) (events : List (Service.Event .events)) : Prop :=
  ∀ batch, .batcher (.trySend batch true) ∈ events → ∃ i request body,
    .sent request ∈ Sdk.outputsOf (labels i) ∧ bodyOf decode request = some body ∧
      Validates limits body batch

/-- What the service accepts is stored of events that were tracked. -/
theorem tracked_of_accepted {settings : ι → Sdk.Settings P} (hclients : Clients settings labels)
    (hfed : Fed decode limits labels events) {row : StoredEvent}
    (hrow : row ∈ Service.accepted events) :
    ∃ i event, Tracked labels i event ∧ StoredAs decode event row := by
  obtain ⟨e, he, hrow⟩ := List.mem_flatMap.mp hrow
  -- Only a batch that the channel took has rows.
  obtain ⟨batch, rfl, hrow⟩ : ∃ batch, e = .batcher (.trySend batch true) ∧ row ∈ batch := by
    unfold Service.Event.accepted at hrow
    split at hrow
    · exact ⟨_, rfl, hrow⟩
    · cases hrow
  obtain ⟨i, request, body, hsent, hbody, receivedAt, droppedSkew, hvalid⟩ := hfed batch he
  obtain ⟨ev, hev, index, hcheck⟩ := mem_of_checkEvents hvalid hrow
  obtain ⟨event, hevent, hdecode⟩ := mem_of_bodyOf hbody hev
  obtain ⟨actorId, tenantId, listening, c, hrun⟩ := hclients.run i
  have htracked : Tracked labels i event :=
    Multiset.mem_of_le (Sdk.sent_le_entered hrun rfl hsent) (Multiset.mem_coe.mpr hevent)
  obtain ⟨hstructure, hstored⟩ := checkEvent_ok hcheck
  refine ⟨i, event, htracked, ev, index, hdecode, checkStructure_properties hstructure, ?_⟩
  rw [hstored]

/-- **A tracked event is stored once at most.** However often it is sent, and whatever happens to
the requests, to the statements of the database and to the process of the server: each row is that
of an event that a client tracked, with the instant of the call; and no event has two. -/
theorem stored_once {settings : ι → Sdk.Settings P} (hclients : Clients settings labels)
    (hfed : Fed decode limits labels events)
    (hrun : Run (Service.Step flushBatchSize channelCapacity) start events s)
    (hstart : Service.Fresh channelCapacity start)
    (hempty : start.table.rows = [] ∧ start.staging = []) :
    (∀ row ∈ s.table.rows, ∃ i event, Tracked labels i event ∧ StoredAs decode event row ∧
      ∃ x ∈ labels i, ∃ eventName properties now,
        x.1 = .track eventName properties event.eventId now ∧
          event.timestampClient = Sdk.toISOString now) ∧
      ∀ row ∈ s.table.rows, ∀ row' ∈ s.table.rows, ∀ i j event event',
        Tracked labels i event → Tracked labels j event' → StoredAs decode event row →
        StoredAs decode event' row' → event.eventId = event'.eventId → row = row' := by
  constructor
  · intro row hrow
    have hmemory : start.memory = [] := by
      unfold Service.memory
      rw [hstart.2]
      rfl
    -- The tables were empty, so the row was accepted.
    have haccepted : row ∈ Service.accepted events := by
      rcases Service.accepted_of_mem_tables hrun hmemory (.inl hrow) with (hold | hold) | hnew
      · rw [hempty.1] at hold
        cases hold
      · rw [hempty.2] at hold
        cases hold
      · exact hnew
    obtain ⟨i, event, htracked, hstored⟩ := tracked_of_accepted hclients hfed haccepted
    obtain ⟨actorId, tenantId, listening, c, hclient⟩ := hclients.run i
    exact ⟨i, event, htracked, hstored, Sdk.track_of_mem_entered hclient htracked⟩
  · intro row hrow row' hrow' i j event event' hevent hevent' hstored hstored' hid
    obtain rfl := hclients.eq_of_eventId hevent hevent' hid
    have hkey : row.key = row'.key := hstored.key_eq hstored'
    have hkey' : Domain.events.key stamp row = Domain.events.key stamp row' :=
      congrArg (fun k => (stamp k.1, k.2)) hkey
    exact List.inj_on_of_nodup_map s.table.nodup hrow hrow' hkey'

end Deployment

def trackedId : String := "00000000-0000-4000-8000-000000000001"

/-- The event is refused at first, and sent again by the next tick of the timer. -/
def sentTwice : List (Sdk.Input Unit) :=
  [.identify "a" none, .track "signup" () trackedId 0, .tokenAnswer (some "t"),
    .resume 0 .goOn none 0, .resume 0 (.response 503 none) none 9, .resume 0 .goOn none 9,
    .resume 0 .goOn none 9, .tick 5000, .tokenAnswer (some "u"), .resume 0 .goOn none 5001]

/-- The event of that identifier, as it is read. -/
def readEvent (event : Sdk.DatacatEvent Unit) : Option IncomingEvent :=
  if event.eventId = trackedId ∧ event.timestampClient = Sdk.toISOString 0 then
    some
      { eventId := ⟨#v[0, 0, 0, 0, 0, 0, 0x40, 0, 0x80, 0, 0, 0, 0, 0, 0, 1]⟩
        eventName := event.eventName
        tenantId := event.tenantId
        actorId := event.actorId
        sessionId := event.sessionId
        timestampClient := ⟨0⟩
        properties := some (.object []) }
  else none

/-- The row of the event, received at a second. -/
def trackedRow (second : Nat) : StoredEvent where
  eventId := ⟨#v[0, 0, 0, 0, 0, 0, 0x40, 0, 0x80, 0, 0, 0, 0, 0, 0, 1]⟩
  eventName := "signup"
  tenantId := none
  actorId := "a"
  sessionId := "s"
  timestampClient := ⟨0⟩
  receivedAt := ⟨second * 1000000000⟩
  properties := .object []

/-- The first answer was lost: both requests are received, and both are stored. -/
def receivedTwice : List (Service.Event .events) :=
  [.start, .ensure .done, .merge [] .done, .batcher (.trySend [trackedRow 1] true), .batcher .recv,
    .batcher (.handed [trackedRow 1]), .copy .done, .ensure .done, .merge [trackedRow 1] .done,
    .flushed [trackedRow 1] (some 1), .batcher (.trySend [trackedRow 2] true), .batcher .recv,
    .batcher (.handed [trackedRow 2]), .copy .done, .ensure .done, .merge [trackedRow 2] .done,
    .flushed [trackedRow 2] (some 0)]

theorem run_receivedTwice :
    ∃ s, Run (Service.Step 1 8) Service.freshService receivedTwice s ∧
      s.table.rows = [trackedRow 1] := by
  unfold receivedTwice
  simp only [Run.cons_iff, Run.nil_iff]
  exact ⟨_, ⟨_, .start rfl, _, .drainEnsure .done rfl, _,
    .drainMerge .done rfl fun _ => ⟨nofun, .rfl, .nil⟩, _, .batcher rfl nofun (.sent rfl rfl), _,
    .batcher rfl nofun (.recv rfl rfl), _,
    .batcher rfl nofun (@Ingest.Batcher.Step.handed _ _ _ .select rfl nofun), _,
    .copy .done rfl rfl, _, .ensure .done rfl, _,
    .merge .done rfl fun _ =>
      ⟨Service.routable_ensurePartitions _ _, .rfl, Service.one_in_order _⟩, _,
    .flushed rfl (.flushed (some 1) rfl), _, .batcher rfl nofun (.sent rfl rfl), _,
    .batcher rfl nofun (.recv rfl rfl), _,
    .batcher rfl nofun (@Ingest.Batcher.Step.handed _ _ _ .select rfl nofun), _,
    .copy .done rfl rfl, _, .ensure .done rfl, _,
    .merge .done rfl fun _ =>
      ⟨Service.routable_ensurePartitions _ _, .rfl, Service.one_in_order _⟩, _,
    .flushed rfl (.flushed (some 0) rfl), rfl⟩, by rfl⟩

theorem stored_once_receivedTwice : ∃ labels s,
    Run (Service.Step 1 8) Service.freshService receivedTwice s ∧ s.table.rows = [trackedRow 1] ∧
      ∃ event, Tracked (fun _ : Unit => labels) () event ∧
        StoredAs readEvent event (trackedRow 1) := by
  let _ : FloatFormat := FloatFormat.ofBits
  let request (token : String) : Sdk.Request Unit :=
    ⟨token, [⟨trackedId, "signup", "a", "s", Sdk.toISOString 0, (), none⟩], false⟩
  have hout : (Sdk.replay Sdk.oneByOne sentTwice (.new none none false)).any (fun out =>
      decide (Sdk.enteredIds out.2).Nodup &&
        decide (.sent (request "t") ∈ Sdk.outputsOf out.2 ∧
          .sent (request "u") ∈ Sdk.outputsOf out.2)) = true := by
    decide +kernel
  obtain ⟨⟨c, labels⟩, hreplay, hchecks⟩ := (Option.any_eq_true _ _).mp hout
  obtain ⟨hids, hsent⟩ := (Bool.and_eq_true _ _).mp hchecks
  obtain ⟨hfirst, hsecond⟩ := of_decide_eq_true hsent
  have hclients : Clients (fun _ : Unit => Sdk.oneByOne) fun _ => labels :=
    ⟨fun _ => ⟨_, _, _, c, Sdk.run_replay hreplay⟩, fun _ => of_decide_eq_true hids,
      fun _ _ hne => absurd rfl hne⟩
  have hfed : Fed readEvent testLimits (fun _ : Unit => labels) receivedTwice := by
    intro batch hbatch
    simp only [receivedTwice, List.mem_cons, List.not_mem_nil, or_false,
      Service.Event.batcher.injEq, reduceCtorEq, false_or] at hbatch
    -- Each of the two batches is that of its request, at the instant of its reception.
    rcases hbatch with hbatch | hbatch <;> obtain ⟨rfl, -⟩ := Ingest.Label.trySend.inj hbatch
    · exact ⟨(), request "t", _, hfirst, rfl, ⟨1000000000⟩, 0, by decide +kernel⟩
    · exact ⟨(), request "u", _, hsecond, rfl, ⟨2000000000⟩, 0, by decide +kernel⟩
  obtain ⟨s, hrun, hrows⟩ := run_receivedTwice
  have honce := stored_once hclients hfed hrun ⟨rfl, rfl⟩ ⟨rfl, rfl⟩
  refine ⟨labels, s, hrun, hrows, ?_⟩
  obtain ⟨i, event, htracked, hstored, -⟩ :=
    honce.1 (trackedRow 1) (hrows ▸ List.mem_singleton_self _)
  exact ⟨event, htracked, hstored⟩

end Datacat.Delivery
