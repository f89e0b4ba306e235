import Datacat.Api.Isolation

/-!
# The Validation of a Batch

What an event has to satisfy, and what a request does with a batch that the limiter lets through:
it refuses the batch for the first event that is not well formed, and leaves the queue and its
counters alone, or it offers the events of the skew window and counts the others.

The depth of the properties is also stated without the recursion of `json_depth`, as the longest
chain of arrays and objects that hold one another (`nests_iff`).
-/

namespace Datacat.Events

open Basics

/-! ## Depth -/

/-- Some `n` arrays and objects are nested, the value itself being the first. -/
inductive Nests : Nat → Value → Prop where
  | zero (v : Value) : Nests 0 v
  | array (items : List Value) : Nests 1 (.array items)
  | object (entries : List (String × Value)) : Nests 1 (.object entries)
  | item {items : List Value} {v : Value} {n : Nat} :
      v ∈ items → Nests n v → Nests (n + 1) (.array items)
  | entry {entries : List (String × Value)} {k : String} {v : Value} {n : Nat} :
      (k, v) ∈ entries → Nests n v → Nests (n + 1) (.object entries)

theorem le_itemsDepth {items : List Value} {v : Value} (h : v ∈ items) :
    jsonDepth v ≤ itemsDepth items := by
  induction items with
  | nil => cases h
  | cons w rest ih =>
    rw [itemsDepth]
    rcases List.mem_cons.mp h with rfl | h
    · exact le_max_left _ _
    · exact (ih h).trans (le_max_right _ _)

theorem le_entriesDepth {entries : List (String × Value)} {k : String} {v : Value}
    (h : (k, v) ∈ entries) : jsonDepth v ≤ entriesDepth entries := by
  induction entries with
  | nil => cases h
  | cons e rest ih =>
    obtain ⟨k', w⟩ := e
    rw [entriesDepth]
    rcases List.mem_cons.mp h with heq | h
    · rw [(Prod.mk.inj heq).2]
      exact le_max_left _ _
    · exact (ih h).trans (le_max_right _ _)

theorem Nests.le_jsonDepth {n : Nat} {v : Value} (h : Nests n v) : n ≤ jsonDepth v := by
  induction h with
  | zero v => exact Nat.zero_le _
  | array items =>
    rw [jsonDepth]
    exact Nat.le_add_right _ _
  | object entries =>
    rw [jsonDepth]
    exact Nat.le_add_right _ _
  | item hmem _ ih =>
    rw [jsonDepth, Nat.add_comm]
    exact Nat.add_le_add_left (ih.trans (le_itemsDepth hmem)) 1
  | entry hmem _ ih =>
    rw [jsonDepth, Nat.add_comm]
    exact Nat.add_le_add_left (ih.trans (le_entriesDepth hmem)) 1

mutual

/-- A chain as long as the depth says. -/
theorem nests_jsonDepth : (v : Value) → Nests (jsonDepth v) v
  | .null => .zero _
  | .bool _ => .zero _
  | .number _ => .zero _
  | .string _ => .zero _
  | .array items => by
    rw [jsonDepth, Nat.add_comm]
    rcases nests_itemsDepth items with hzero | ⟨v, hmem, hv⟩
    · rw [hzero]
      exact .array items
    · exact .item hmem hv
  | .object entries => by
    rw [jsonDepth, Nat.add_comm]
    rcases nests_entriesDepth entries with hzero | ⟨k, v, hmem, hv⟩
    · rw [hzero]
      exact .object entries
    · exact .entry hmem hv

theorem nests_itemsDepth : (items : List Value) →
    itemsDepth items = 0 ∨ ∃ v ∈ items, Nests (itemsDepth items) v
  | [] => .inl rfl
  | v :: rest => by
    rw [itemsDepth]
    rcases le_total (itemsDepth rest) (jsonDepth v) with hle | hle
    · rw [max_eq_left hle]
      exact .inr ⟨v, List.mem_cons_self .., nests_jsonDepth v⟩
    · rw [max_eq_right hle]
      rcases nests_itemsDepth rest with hzero | ⟨w, hmem, hw⟩
      · exact .inl hzero
      · exact .inr ⟨w, List.mem_cons_of_mem _ hmem, hw⟩

theorem nests_entriesDepth : (entries : List (String × Value)) →
    entriesDepth entries = 0 ∨ ∃ k v, (k, v) ∈ entries ∧ Nests (entriesDepth entries) v
  | [] => .inl rfl
  | (k, v) :: rest => by
    rw [entriesDepth]
    rcases le_total (entriesDepth rest) (jsonDepth v) with hle | hle
    · rw [max_eq_left hle]
      exact .inr ⟨k, v, List.mem_cons_self .., nests_jsonDepth v⟩
    · rw [max_eq_right hle]
      rcases nests_entriesDepth rest with hzero | ⟨k', w, hmem, hw⟩
      · exact .inl hzero
      · exact .inr ⟨k', w, List.mem_cons_of_mem _ hmem, hw⟩

end

theorem Nests.of_succ {n : Nat} {v : Value} (h : Nests (n + 1) v) : Nests n v := by
  induction n generalizing v with
  | zero => exact .zero v
  | succ n ih =>
    cases h with
    | item hmem hv => exact .item hmem (ih hv)
    | entry hmem hv => exact .entry hmem (ih hv)

/-- The recursion measures the longest chain. -/
theorem nests_iff {n : Nat} {v : Value} : Nests n v ↔ n ≤ jsonDepth v := by
  constructor
  · exact Nests.le_jsonDepth
  · intro hle
    induction hle using Nat.decreasingInduction with
    | of_succ _ _ ih => exact ih.of_succ
    | self => exact nests_jsonDepth v

/-! ## Rules -/

/-- Not blank, and of at most `maxLen` characters. -/
structure TextWithin (value : String) (maxLen : Nat) : Prop where
  not_blank : (trim value.toList).isEmpty = false
  short : value.length ≤ maxLen

theorem checkText_ok_iff {value field : String} {maxLen index : Nat} :
    checkText value field maxLen index = .ok () ↔ TextWithin value maxLen := by
  unfold checkText
  constructor
  · intro h
    split_ifs at h with hblank hlong
    · exact ⟨Bool.eq_false_iff.mpr hblank, not_lt.mp hlong⟩
  · intro h
    rw [if_neg (Bool.eq_false_iff.mp h.not_blank), if_neg (not_lt.mpr h.short)]
    rfl

/-- The properties to store: an object, empty when there are none. -/
def storedProperties : Option Value → Option Value
  | none | some .null => some (.object [])
  | some (.object entries) => some (.object entries)
  | some _ => none

theorem objectProperties_ok_iff {properties : Option Value} {index : Nat} {stored : Value} :
    objectProperties properties index = .ok stored ↔
      storedProperties properties = some stored := by
  have hok (p : Value) : (Except.ok p : Except StructuralError Value) = .ok stored ↔
      some p = some stored :=
    ⟨fun h => congrArg some (Except.ok.inj h), fun h => congrArg Except.ok (Option.some.inj h)⟩
  cases properties with
  | none => exact hok _
  | some v =>
    cases v with
    | null => exact hok _
    | object entries => exact hok _
    | bool _ | number _ | string _ | array _ => exact iff_of_false nofun nofun

/-- A well-formed event, for a rule on the optional text, with the properties that are stored. -/
structure Structured [FloatFormat] (tenantRule : String → Prop) (ev : IncomingEvent)
    (limits : ValidationLimits) (properties : Value) : Prop where
  eventName : TextWithin ev.eventName limits.maxStringLen
  actorId : TextWithin ev.actorId limits.maxStringLen
  sessionId : TextWithin ev.sessionId limits.maxStringLen
  tenantId : ∀ t, ev.tenantId = some t → tenantRule t
  object : storedProperties ev.properties = some properties
  size : properties.toJsonString.utf8ByteSize ≤ limits.maxPropertiesBytes
  depth : ¬ Nests (limits.maxJsonDepth + 1) properties

/-- The skew bounds, both included. -/
def WithinSkew (receivedAt : DateTime) (limits : ValidationLimits) (time : DateTime) : Prop :=
  receivedAt.nanos - limits.maxPastSkew ≤ time.nanos ∧
    time.nanos ≤ receivedAt.nanos + limits.maxFutureSkew

/-- The event as it is stored. -/
def IncomingEvent.stored (ev : IncomingEvent) (receivedAt : DateTime) : StoredEvent where
  eventId := ev.eventId
  eventName := ev.eventName
  tenantId := ev.tenantId
  actorId := ev.actorId
  sessionId := ev.sessionId
  timestampClient := ev.timestampClient
  receivedAt := receivedAt
  properties := (storedProperties ev.properties).getD .null

theorem skewWindow_eq {receivedAt : DateTime} {limits : ValidationLimits}
    {window : DateTime × DateTime} (h : skewWindow receivedAt limits = some window) :
    window = (⟨receivedAt.nanos - limits.maxPastSkew⟩,
      ⟨receivedAt.nanos + limits.maxFutureSkew⟩) := by
  unfold skewWindow at h
  simp only [Option.bind_eq_bind, Option.bind_eq_some_iff] at h
  obtain ⟨p, hp, past, hpast, f, hf, future, hfuture, hwindow⟩ := h
  unfold DateTime.fromStd at hp hf
  rw [Option.ite_none_right_eq_some] at hp hf
  rw [DateTime.checkedAdd_eq_some_iff] at hpast hfuture
  rw [← Option.some.inj hwindow, hpast.2, hfuture.2, ← Option.some.inj hp.2,
    ← Option.some.inj hf.2]
  rfl

theorem outsideWindow_eq_false_iff {receivedAt time : DateTime} {limits : ValidationLimits}
    {window : DateTime × DateTime} (h : skewWindow receivedAt limits = some window) :
    outsideWindow window time = false ↔ WithinSkew receivedAt limits time := by
  rw [skewWindow_eq h]
  unfold outsideWindow WithinSkew
  rw [Bool.or_eq_false_iff, decide_eq_false_iff_not, decide_eq_false_iff_not, not_lt, not_lt]
  rfl

theorem checkOptionalText_ok_iff {value : Option String} {field : String} {maxLen index : Nat} :
    checkOptionalText value field maxLen index = .ok () ↔
      ∀ t, value = some t → TextWithin t maxLen := by
  cases value with
  | none => exact iff_of_true rfl nofun
  | some t =>
    show checkText t field maxLen index = .ok () ↔ _
    rw [checkText_ok_iff]
    constructor
    · rintro h t' ht'
      rw [← Option.some.inj ht']
      exact h
    · exact fun h => h t rfl

section Check

variable [FloatFormat] {ev : IncomingEvent} {limits : ValidationLimits} {receivedAt : DateTime}
  {index : Nat}

/-- What the structural checks accept. -/
theorem checkStructure_ok_iff {properties : Value} :
    checkStructure ev limits index = .ok properties ↔
      Structured (TextWithin · limits.maxStringLen) ev limits properties := by
  have hdepth : ¬ Nests (limits.maxJsonDepth + 1) properties ↔
      ¬ limits.maxJsonDepth < jsonDepth properties := not_congr nests_iff
  unfold checkStructure
  simp only [bind_eq_ok]
  constructor
  · rintro ⟨_, hname, _, hactor, _, hsession, _, htenant, found, hfound, h⟩
    split_ifs at h with hsize hdeep
    obtain rfl := Except.ok.inj h
    exact ⟨checkText_ok_iff.mp hname, checkText_ok_iff.mp hactor, checkText_ok_iff.mp hsession,
      checkOptionalText_ok_iff.mp htenant, objectProperties_ok_iff.mp hfound, not_lt.mp hsize,
      hdepth.mpr hdeep⟩
  · intro h
    refine ⟨(), checkText_ok_iff.mpr h.eventName, (), checkText_ok_iff.mpr h.actorId, (),
      checkText_ok_iff.mpr h.sessionId, (), checkOptionalText_ok_iff.mpr h.tenantId, properties,
      objectProperties_ok_iff.mpr h.object, ?_⟩
    rw [if_neg (not_lt.mpr h.size), if_neg (hdepth.mp h.depth)]
    rfl

/-- What a well-formed event gives. -/
theorem checkEvent_structured {window : DateTime × DateTime}
    (hwindow : skewWindow receivedAt limits = some window) {properties : Value}
    (h : Structured (TextWithin · limits.maxStringLen) ev limits properties) :
    checkEvent ev receivedAt limits index =
      some (.ok (if outsideWindow window ev.timestampClient then .outOfSkew
        else .ok (ev.stored receivedAt))) := by
  have hproperties : (storedProperties ev.properties).getD .null = properties := by
    rw [h.object]
    rfl
  unfold checkEvent IncomingEvent.stored
  rw [checkStructure_ok_iff.mpr h, hproperties]
  dsimp only
  rw [hwindow]
  simp only [Option.bind_eq_bind, Option.bind_some]
  split_ifs <;> rfl

/-- **Acceptance of an event.** -/
theorem checkEvent_accepts_iff {window : DateTime × DateTime}
    (hwindow : skewWindow receivedAt limits = some window) {e : StoredEvent} :
    checkEvent ev receivedAt limits index = some (.ok (.ok e)) ↔
      (∃ properties, Structured (TextWithin · limits.maxStringLen) ev limits properties) ∧
        WithinSkew receivedAt limits ev.timestampClient ∧ e = ev.stored receivedAt := by
  constructor
  · intro h
    obtain ⟨hstructure, -⟩ := checkEvent_ok h
    have hstructured := checkStructure_ok_iff.mp hstructure
    rw [checkEvent_structured hwindow hstructured] at h
    split_ifs at h with hout
    · cases h
    · refine ⟨⟨_, hstructured⟩,
        (outsideWindow_eq_false_iff hwindow).mp (Bool.eq_false_iff.mpr hout), ?_⟩
      exact (EventCheck.ok.inj (Except.ok.inj (Option.some.inj h))).symm
  · rintro ⟨⟨properties, hstructured⟩, hskew, rfl⟩
    rw [checkEvent_structured hwindow hstructured,
      if_neg (Bool.eq_false_iff.mp ((outsideWindow_eq_false_iff hwindow).mpr hskew))]

end Check

end Datacat.Events

namespace Datacat.Api

open Basics Security Ingest Events

/-! ## The skew window -/

/-- The events inside a window, as they are stored. -/
def inside (window : DateTime × DateTime) (receivedAt : DateTime) (events : List IncomingEvent) :
    List StoredEvent :=
  (events.filter fun ev => !outsideWindow window ev.timestampClient).map (·.stored receivedAt)

/-- How many are outside. -/
def outside (window : DateTime × DateTime) (events : List IncomingEvent) : Nat :=
  events.countP fun ev => outsideWindow window ev.timestampClient

section Window

variable {window : DateTime × DateTime} {receivedAt : DateTime} {ev : IncomingEvent}
  {events : List IncomingEvent}

theorem cons_of_outside (h : outsideWindow window ev.timestampClient = true) :
    inside window receivedAt (ev :: events) = inside window receivedAt events ∧
      outside window (ev :: events) = outside window events + 1 := by
  unfold inside outside
  simp [h]

theorem cons_of_inside (h : outsideWindow window ev.timestampClient = false) :
    inside window receivedAt (ev :: events) =
        ev.stored receivedAt :: inside window receivedAt events ∧
      outside window (ev :: events) = outside window events := by
  unfold inside outside
  simp [h]

theorem length_inside_add_outside :
    (inside window receivedAt events).length + outside window events = events.length := by
  induction events with
  | nil => rfl
  | cons ev events ih =>
    rw [List.length_cons]
    cases hout : outsideWindow window ev.timestampClient with
    | true =>
      obtain ⟨hinside, houtside⟩ := @cons_of_outside window receivedAt ev events hout
      rw [hinside, houtside]
      omega
    | false =>
      obtain ⟨hinside, houtside⟩ := @cons_of_inside window receivedAt ev events hout
      rw [hinside, houtside, List.length_cons]
      omega

end Window

/-! ## Batches -/

section Handler

variable [FloatFormat]

/-- A batch that reaches the validation: not banned, of an accepted size, with a session, and
allowed by the limiter. -/
structure PassesLimiter (s : AppState) (call : Call) (key : String) (body : IngestBody) : Prop where
  notBanned : (s.isBanned call).1 = false
  nonempty : body.events ≠ []
  withinBatch : body.events.length ≤ s.limits.maxBatchEvents
  session : sessionKey s.verifier call body = .ok key
  allowed : (limited s call key body).1 = .allow

/-- The state once the limiter was asked. -/
def afterLimited (s : AppState) (call : Call) (key : String) (body : IngestBody) : AppState :=
  { (s.isBanned call).2 with limiter := (limited s call key body).2 }

/-- The queue and the counters of the events, when `stored` is offered and `droppedSkew` events are
outside the window. -/
def offered (s : AppState) (stored : List StoredEvent) (droppedSkew : Nat) :
    Nat × Ingestor StoredEvent :=
  ({ s.events with metrics :=
    { s.events.metrics with
      droppedSkewTotal := s.events.metrics.droppedSkewTotal + droppedSkew } } :
      Ingestor StoredEvent).tryEnqueue stored

/-- The handler after the limiter. -/
theorem ingestEvents_passes {s : AppState} {call : Call} {key : String} {body : IngestBody}
    (h : PassesLimiter s call key body) :
    ingestEvents s call (some body) =
      match checkEvents call.receivedAt s.limits 0 body.events with
      | none => (none, afterLimited s call key body)
      | some (.error e) => (some (.error (.badRequest "validation échouée" [e.message])),
          (afterLimited s call key body).recordBad call)
      | some (.ok (stored, droppedSkew)) =>
        (some (.ok (offered s stored droppedSkew).1),
          { afterLimited s call key body with events := (offered s stored droppedSkew).2 }) := by
  have hcheck : limited s call key body = (.allow, (limited s call key body).2) :=
    Prod.ext h.allowed rfl
  have hempty : ¬ body.events.isEmpty = true :=
    fun hnil => h.nonempty (List.isEmpty_iff.mp hnil)
  -- Each gate before the events is open; the state of the ban check has the limits of before.
  unfold ingestEvents
  dsimp only
  rw [h.notBanned, if_neg Bool.false_ne_true, if_neg hempty,
    if_neg (show ¬ (s.isBanned call).2.limits.maxBatchEvents < _ from not_lt.mpr h.withinBatch),
    show sessionKey (s.isBanned call).2.verifier call body = _ from h.session]
  dsimp only
  rw [show RateLimiter.check (s.isBanned call).2.limiter .. = _ from hcheck]
  dsimp only
  rw [show checkEvents call.receivedAt (s.isBanned call).2.limits 0 body.events =
    checkEvents call.receivedAt s.limits 0 body.events from rfl]
  -- What is left is the answer and the counters.
  cases checkEvents call.receivedAt s.limits 0 body.events with
  | none => rfl
  | some checked =>
    cases checked with
    | error e => rfl
    | ok p =>
      obtain ⟨stored, droppedSkew⟩ := p
      dsimp only
      rw [IngestMetrics.countSkew_eq]
      rfl

/-- The validation of a batch: the first event that is not well formed, or the events of the
window. -/
theorem checkEvents_cases {receivedAt : DateTime} {limits : ValidationLimits}
    {window : DateTime × DateTime} (hwindow : skewWindow receivedAt limits = some window)
    (events : List IncomingEvent) (index : Nat) :
    (∃ before ev after e, events = before ++ ev :: after ∧
      (∀ ev' ∈ before, ∃ properties,
        Structured (TextWithin · limits.maxStringLen) ev' limits properties) ∧
      checkStructure ev limits (index + before.length) = .error e ∧
      checkEvents receivedAt limits index events = some (.error e)) ∨
    ((∀ ev ∈ events, ∃ properties,
        Structured (TextWithin · limits.maxStringLen) ev limits properties) ∧
      checkEvents receivedAt limits index events =
        some (.ok (inside window receivedAt events, outside window events))) := by
  induction events generalizing index with
  | nil => exact .inr ⟨nofun, rfl⟩
  | cons ev events ih =>
    cases hstructure : checkStructure ev limits index with
    | error e =>
      -- The loop stops at this event.
      refine .inl ⟨[], ev, events, e, rfl, nofun, hstructure, ?_⟩
      rw [checkEvents, checkEvent, hstructure]
    | ok properties =>
      have hstructured := checkStructure_ok_iff.mp hstructure
      have hevent : checkEvent ev receivedAt limits index = _ :=
        checkEvent_structured hwindow hstructured
      -- The loop goes on, and the events behind decide.
      rcases ih (index + 1) with ⟨before, bad, after, e, rfl, hbefore, hbad, herror⟩ | ⟨hall, hok⟩
      · refine .inl ⟨ev :: before, bad, after, e, rfl,
          List.forall_mem_cons.mpr ⟨⟨_, hstructured⟩, hbefore⟩, ?_, ?_⟩
        · rw [← hbad, List.length_cons]
          exact congrArg _ (by omega)
        · rw [checkEvents, hevent, herror]
          split_ifs <;> rfl
      · refine .inr ⟨List.forall_mem_cons.mpr ⟨⟨_, hstructured⟩, hall⟩, ?_⟩
        rw [checkEvents, hevent, hok]
        cases hout : outsideWindow window ev.timestampClient with
        | true =>
          obtain ⟨hinside, houtside⟩ := @cons_of_outside window receivedAt ev events hout
          rw [hinside, houtside]
          rfl
        | false =>
          obtain ⟨hinside, houtside⟩ := @cons_of_inside window receivedAt ev events hout
          rw [hinside, houtside]
          rfl

/-- **Batches of events.** A batch that the limiter lets through is refused for its first event
that is not well formed, with the queue and the counters of the events as they were; or all its
events are well formed, those inside the skew window are offered in one batch, and the others are
counted. And an event is accepted exactly when it satisfies the rules. -/
theorem batch_atomic {s : AppState} {call : Call} {key : String} {body : IngestBody}
    {window : DateTime × DateTime} (h : PassesLimiter s call key body)
    (hwindow : skewWindow call.receivedAt s.limits = some window) :
    ((∃ before ev after e, body.events = before ++ ev :: after ∧
        checkStructure ev s.limits before.length = .error e ∧
        (ingestEvents s call (some body)).1 =
          some (.error (.badRequest "validation échouée" [e.message])) ∧
        (ingestEvents s call (some body)).2.events = s.events) ∨
      ((∀ ev ∈ body.events, ∃ properties,
          Structured (TextWithin · s.limits.maxStringLen) ev s.limits properties) ∧
        ∃ stored droppedSkew, stored = inside window call.receivedAt body.events ∧
          body.events.length = stored.length + droppedSkew ∧
          (ingestEvents s call (some body)).1 = some (.ok (offered s stored droppedSkew).1) ∧
          (ingestEvents s call (some body)).2.events = (offered s stored droppedSkew).2)) ∧
    ∀ (ev : IncomingEvent) (index : Nat),
      (∃ e, checkEvent ev call.receivedAt s.limits index = some (.ok (.ok e))) ↔
        (∃ properties, Structured (TextWithin · s.limits.maxStringLen) ev s.limits properties) ∧
          WithinSkew call.receivedAt s.limits ev.timestampClient := by
  constructor
  · -- The first bad event is the answer, or all of them are well formed.
    rcases checkEvents_cases hwindow body.events 0 with
      ⟨before, ev, after, e, hevents, -, hbad, herror⟩ | ⟨hall, hok⟩
    · refine .inl ⟨before, ev, after, e, hevents, ?_, ?_, ?_⟩
      · rwa [Nat.zero_add] at hbad
      · rw [ingestEvents_passes h, herror]
      · rw [ingestEvents_passes h, herror]
        rfl
    · refine .inr ⟨hall, _, _, rfl, length_inside_add_outside.symm, ?_, ?_⟩
      · rw [ingestEvents_passes h, hok]
      · rw [ingestEvents_passes h, hok]
  · intro ev index
    constructor
    · rintro ⟨e, he⟩
      obtain ⟨hstructured, hskew, -⟩ := (checkEvent_accepts_iff hwindow).mp he
      exact ⟨hstructured, hskew⟩
    · rintro ⟨hstructured, hskew⟩
      exact ⟨_, (checkEvent_accepts_iff hwindow).mpr ⟨hstructured, hskew, rfl⟩⟩

end Handler

section Sample

theorem passesLimiter_sent :
    PassesLimiter strictServer (sent "page_view" "b").call "b" ⟨none, [plainEvent "page_view" "b"]⟩ :=
  ⟨by decide +kernel, List.cons_ne_nil _ _, by decide, rfl, by decide +kernel⟩

theorem batch_atomic_sent :
    (∃ e, @checkEvent FloatFormat.ofBits (plainEvent "page_view" "b") ⟨0⟩ testLimits 0 =
        some (.ok (.ok e))) ↔
      (∃ properties, @Structured FloatFormat.ofBits (TextWithin · 200) (plainEvent "page_view" "b")
        testLimits properties) ∧
      WithinSkew ⟨0⟩ testLimits (plainEvent "page_view" "b").timestampClient := by
  let _ : FloatFormat := FloatFormat.ofBits
  obtain ⟨window, hwindow⟩ : ∃ window, skewWindow ⟨0⟩ testLimits = some window :=
    Option.isSome_iff_exists.mp (by decide +kernel)
  exact (batch_atomic passesLimiter_sent hwindow).2 (plainEvent "page_view" "b") 0

/-- A server whose oldest accepted instant is out of the range of durations. -/
def endlessServer : AppState :=
  { strictServer with limits := { testLimits with maxPastSkew := 2 ^ 63 * 1000000 } }

/-- Where the skew bounds do not exist, the handler neither refuses nor offers; and a blank tenant
is refused, though it has from one to 200 characters. -/
theorem not_batch_atomic :
    (¬∀ (_ : FloatFormat) (s : AppState) (call : Call) (key : String) (body : IngestBody),
      PassesLimiter s call key body → (ingestEvents s call (some body)).1 ≠ none) ∧
    ¬∀ (_ : FloatFormat) (ev : IncomingEvent) (receivedAt : DateTime) (limits : ValidationLimits)
      (window : DateTime × DateTime) (index : Nat), skewWindow receivedAt limits = some window →
      ((∃ e, checkEvent ev receivedAt limits index = some (.ok (.ok e))) ↔
        (∃ properties, Structured (fun t => 1 ≤ t.length ∧ t.length ≤ limits.maxStringLen) ev limits
          properties) ∧ WithinSkew receivedAt limits ev.timestampClient) := by
  let _ : FloatFormat := FloatFormat.ofBits
  constructor
  · intro h
    -- Where the window does not exist there is no answer.
    refine h FloatFormat.ofBits endlessServer (sent "page_view" "b").call "b"
      ⟨none, [plainEvent "page_view" "b"]⟩ ?_ (by decide +kernel)
    exact ⟨by decide +kernel, List.cons_ne_nil _ _, by decide, rfl, by decide +kernel⟩
  · intro h
    -- A blank tenant is within its limit, and refused.
    obtain ⟨window, hwindow⟩ : ∃ window, skewWindow ⟨0⟩ testLimits = some window :=
      Option.isSome_iff_exists.mp (by decide +kernel)
    let ev := { plainEvent "page_view" "b" with tenantId := some " " }
    have hrules : (∃ properties, Structured (fun t => 1 ≤ t.length ∧ t.length ≤ 200) ev testLimits
        properties) ∧ WithinSkew ⟨0⟩ testLimits ev.timestampClient := by
      refine ⟨⟨.object [], ?_⟩, ⟨by decide, by decide⟩⟩
      refine ⟨⟨by decide, by decide⟩, ⟨by decide, by decide⟩, ⟨by decide, by decide⟩, ?_, rfl,
        by decide +kernel, ?_⟩
      · intro t ht
        rw [← Option.some.inj ht]
        decide
      · exact fun hnests => absurd (nests_iff.mp hnests) (by decide)
    obtain ⟨e, he⟩ := (h _ ev ⟨0⟩ testLimits window 0 hwindow).mpr hrules
    have hblank := (checkStructure_ok_iff.mp (checkEvent_ok he).1).tenantId " " rfl
    exact absurd hblank.not_blank (by decide)

end Sample

end Datacat.Api
