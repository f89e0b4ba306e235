import Datacat.Sdk.Flutter.Steps

/-!
# Outcomes of the Events

An event that `track` took waits for the session or is in the queue; it leaves the queue delivered
or reported. The batch that is sent stays in the queue meanwhile, and a full queue drops its oldest
event even then: such an event is reported, and delivered or reported once more when the send ends.

## Main results

- `delivered_le`: in every run, no event is delivered more often than it was tracked.
- `Inv.step`: what a step leaves of the queue, the batch and the counters.
- `single_outcome`: unless a step disturbs the batch that is sent, every event has one outcome.
-/

namespace Datacat.Sdk.Flutter

open Basics

variable {P : Type}

/-! ## What was seen of the events -/

def Output.trackedIds : Output P → List String
  | .tracked id => [id]
  | _ => []

def Output.deliveredIds : Output P → List String
  | .delivered events => idsOf events
  | _ => []

def Output.reportedIds : Output P → List String
  | .reported events => idsOf events
  | _ => []

/-- The ids of the events that `track` took. -/
def tracked (outputs : List (Output P)) : Multiset String := outputs.flatMap Output.trackedIds

/-- The ids of the events that were accepted, as often as they were. -/
def delivered (outputs : List (Output P)) : Multiset String := outputs.flatMap Output.deliveredIds

/-- The ids of the events that were reported, as often as they were. -/
def reported (outputs : List (Output P)) : Multiset String := outputs.flatMap Output.reportedIds

section Outputs

@[simp] theorem tracked_nil : tracked ([] : List (Output P)) = 0 := rfl

@[simp] theorem delivered_nil : delivered ([] : List (Output P)) = 0 := rfl

@[simp] theorem reported_nil : reported ([] : List (Output P)) = 0 := rfl

@[simp] theorem tracked_cons (o : Output P) (outputs : List (Output P)) :
    tracked (o :: outputs) = o.trackedIds + tracked outputs := by
  simp [tracked]

@[simp] theorem delivered_cons (o : Output P) (outputs : List (Output P)) :
    delivered (o :: outputs) = o.deliveredIds + delivered outputs := by
  simp [delivered]

@[simp] theorem reported_cons (o : Output P) (outputs : List (Output P)) :
    reported (o :: outputs) = o.reportedIds + reported outputs := by
  simp [reported]

@[simp] theorem tracked_append (first second : List (Output P)) :
    tracked (first ++ second) = tracked first + tracked second := by
  simp [tracked]

@[simp] theorem delivered_append (first second : List (Output P)) :
    delivered (first ++ second) = delivered first + delivered second := by
  simp [delivered]

@[simp] theorem reported_append (first second : List (Output P)) :
    reported (first ++ second) = reported first + reported second := by
  simp [reported]

theorem outputsOf_snoc (labels : List (Label P)) (x : Label P) :
    outputsOf (labels ++ [x]) = outputsOf labels ++ x.2 := by
  simp [outputsOf]

/-- Quiet outputs tell of no event. -/
theorem none_of_quiet {outputs : List (Output P)} (h : ∀ o ∈ outputs, o.Quiet) :
    tracked outputs = 0 ∧ delivered outputs = 0 ∧ reported outputs = 0 := by
  induction outputs with
  | nil => exact ⟨rfl, rfl, rfl⟩
  | cons o outputs ih =>
    obtain ⟨htracked, hdelivered, hreported⟩ := ih fun o' ho' => h o' (List.mem_cons_of_mem _ ho')
    have hquiet := h o (List.mem_cons_self ..)
    rw [tracked_cons, delivered_cons, reported_cons, htracked, hdelivered, hreported]
    cases o with
    | reported events =>
      obtain rfl : events = [] := hquiet
      exact ⟨rfl, rfl, rfl⟩
    | completed call => exact ⟨rfl, rfl, rfl⟩
    | failed call => exact ⟨rfl, rfl, rfl⟩
    | threw => exact ⟨rfl, rfl, rfl⟩
    | tracked eventId => exact absurd hquiet id
    | sent token events => exact absurd hquiet id
    | delivered events => exact absurd hquiet id

@[simp] theorem tracked_completion (caller : Option Nat) :
    tracked (completion caller : List (Output P)) = 0 :=
  (none_of_quiet (quiet_completion caller)).1

@[simp] theorem delivered_completion (caller : Option Nat) :
    delivered (completion caller : List (Output P)) = 0 :=
  (none_of_quiet (quiet_completion caller)).2.1

@[simp] theorem reported_completion (caller : Option Nat) :
    reported (completion caller : List (Output P)) = 0 :=
  (none_of_quiet (quiet_completion caller)).2.2

/-- A failure tells of the events that it drops. -/
theorem outputs_failure (dropped : List (DatacatEvent P)) (caller : Option Nat) :
    let outputs := (if dropped.isEmpty then [] else [.reported dropped]) ++ completion caller
    tracked outputs = 0 ∧ delivered outputs = 0 ∧
      reported outputs = (idsOf dropped : Multiset String) := by
  cases dropped with
  | nil => exact ⟨tracked_completion _, delivered_completion _, reported_completion _⟩
  | cons e dropped => simp [Output.trackedIds, Output.deliveredIds, Output.reportedIds]

theorem quiet_failed (caller : Option Nat) :
    ∀ o ∈ ((caller.map Output.failed).toList : List (Output P)), o.Quiet := by
  intro o ho
  obtain ⟨call, -, rfl⟩ := Option.map_eq_some_iff.mp (Option.mem_toList.mp ho)
  trivial

end Outputs

/-! ## At most one delivery -/

section Once

variable {settings : Settings P} {c c' : Client P} {out : Effect P}

/-- The ids of the events in the queue, and of those that are sent though the queue dropped
them. -/
def Client.present (c : Client P) : Multiset String :=
  (c.queueIds : Multiset String) ∪ (c.flightIds : Multiset String)

theorem Agrees.present (h : Agrees c c') : c'.present = c.present := by
  unfold Client.present Client.queueIds
  rw [h.queue, h.flightIds]

theorem MayStart.queue (h : MayStart settings c c') : c'.queue = c.queue := by
  cases h with
  | idle => rfl
  | started hsending kept caller => rfl

theorem MayStart.present (h : MayStart settings c c') : c'.present = c.present := by
  cases h with
  | idle => rfl
  | started hsending kept caller =>
    -- the batch is a part of the queue
    have hidle := Client.flightIds_of_none hsending
    have hbatch : (idsOf (c.queue.take settings.batchSize) : Multiset String) ≤ c.queueIds :=
      ((List.take_sublist _ _).map _).subperm
    unfold Client.present
    rw [hidle, Multiset.coe_nil, Multiset.union_zero]
    exact Multiset.eq_union_left hbatch

theorem Entered.present_le {event : DatacatEvent P} (h : Entered settings event c out) :
    out.1.present ≤ c.present + [event.eventId] := by
  -- One event more in the queue, and the same batch is sent or a part of the queue.
  have hstart {queue : List (DatacatEvent P)} {counts : BTreeMap String Nat} {c' : Client P}
      (hqueue : queue.Sublist c.queue)
      (h : MayStart settings { c with queue := queue ++ [event], retryCount := counts } c') :
      c'.present ≤ c.present + [event.eventId] := by
    rw [h.present]
    apply Multiset.union_le
    · have hids : ({ c with queue := queue ++ [event], retryCount := counts }.queueIds :
          Multiset String) = idsOf queue + ([event.eventId] : List String) := by
        simp only [Client.queueIds, idsOf, List.map_append, ← Multiset.coe_add]
        rfl
      rw [hids]
      apply add_le_add_left
      exact le_trans (hqueue.map _).subperm Multiset.le_union_left
    · exact le_trans Multiset.le_union_right (Multiset.le_add_right _ _)
  cases h with
  | threw hfull hqueue => exact Multiset.le_add_right _ _
  | dropped hfull hqueue h =>
    apply hstart _ h
    rw [hqueue]
    exact List.sublist_cons_self _ _
  | added h => exact hstart (List.Sublist.refl _) h

theorem Entered.outputs {event : DatacatEvent P} (h : Entered settings event c out) :
    tracked out.2 = 0 ∧ delivered out.2 = 0 := by
  cases h with
  | threw hfull hqueue => exact ⟨rfl, rfl⟩
  | dropped hfull hqueue h => exact ⟨rfl, rfl⟩
  | added h => exact ⟨rfl, rfl⟩

/-- Taking out what is delivered, the queue and the batch are what they were. -/
theorem filter_add_le_union (queue batch : List String) :
    (queue.filter (fun id => !batch.contains id) : Multiset String) + batch ≤
      (queue : Multiset String) ∪ batch := by
  rw [Multiset.le_iff_count]
  intro id
  rw [Multiset.count_add, Multiset.count_union, Multiset.coe_count, Multiset.coe_count,
    Multiset.coe_count]
  by_cases hid : id ∈ batch
  · have hnone : (queue.filter fun id => !batch.contains id).count id = 0 := by
      apply List.count_eq_zero.mpr
      simp [hid]
    rw [hnone, zero_add]
    exact le_max_right _ _
  · rw [List.count_eq_zero.mpr hid, add_zero]
    exact le_trans (List.filter_sublist.count_le id) (le_max_left _ _)

theorem Client.queueIds_removeFromQueue (batch : List (DatacatEvent P)) (c : Client P) :
    (c.removeFromQueue batch).queueIds = c.queueIds.filter fun id => !(idsOf batch).contains id := by
  unfold queueIds removeFromQueue idsOf
  rw [List.filter_map]
  rfl

theorem SendResumed.present_le {send : Sending P} {answer : Answer}
    (h : SendResumed settings c send answer out) (hsending : c.sending = some send) :
    out.1.present + delivered out.2 ≤ c.present ∧ tracked out.2 = 0 := by
  have hflight := Client.flightIds_of_some hsending
  -- After the end of the send only a part of the queue is there.
  have hended {queue : List (DatacatEvent P)} (hqueue : queue.Sublist c.queue) (c' : Client P)
      (hc' : c'.queue = queue) (hidle : c'.sending = none) : c'.present ≤ c.present := by
    unfold Client.present Client.queueIds
    rw [hc', Client.flightIds_of_none hidle, Multiset.coe_nil, Multiset.union_zero]
    exact le_trans (hqueue.map _).subperm Multiset.le_union_left
  have hpoint (cache : TokenCache) (point : Point) :
      { c with tokenCache := cache, sending := some { send with point := point } }.present =
        c.present := by
    unfold Client.present
    rw [hflight]
    rfl
  cases h with
  | posted token cache hpoint' =>
    refine ⟨?_, rfl⟩
    rw [hpoint]
    exact le_of_eq (add_zero _)
  | reposted token cache hpoint' =>
    refine ⟨?_, rfl⟩
    rw [hpoint]
    exact le_of_eq (add_zero _)
  | unsent cache hpoint' h =>
    obtain ⟨queue, counts, delayedSends, toDrop, hqueue, hout⟩ :=
      Client.handleRetryableFailure_frame settings send none { c with tokenCache := cache }
    obtain ⟨htracked, hdelivered, -⟩ := outputs_failure toDrop send.caller
    rw [hout, hdelivered, add_zero]
    exact ⟨hended hqueue _ rfl rfl, htracked⟩
  | unavailable delay hpoint' h =>
    obtain ⟨queue, counts, delayedSends, toDrop, hqueue, hout⟩ :=
      Client.handleRetryableFailure_frame settings send delay c
    obtain ⟨htracked, hdelivered, -⟩ := outputs_failure toDrop send.caller
    rw [hout, hdelivered, add_zero]
    exact ⟨hended hqueue _ rfl rfl, htracked⟩
  | succeeded hpoint' hstatus =>
    refine ⟨?_, by simp [Client.deliver, Client.finish, Output.trackedIds]⟩
    have hpresent : (c.deliver send).1.present =
        (c.removeFromQueue send.batch).queueIds := by
      rw [Client.present, Client.flightIds_of_none rfl]
      exact Multiset.union_zero
    have hdelivered : delivered (c.deliver send).2 = (idsOf send.batch : Multiset String) := by
      simp [Client.deliver, Client.finish, Output.deliveredIds]
    rw [hpresent, hdelivered, Client.queueIds_removeFromQueue, Client.present, hflight]
    exact filter_add_le_union _ _
  | unauthorized hpoint' =>
    refine ⟨?_, rfl⟩
    rw [hpoint]
    exact le_of_eq (add_zero _)
  | refused hpoint' hstatus =>
    refine ⟨?_, by simp [Client.finish, Output.trackedIds]⟩
    have hdelivered : delivered (((c.removeFromQueue send.batch).forget send.batch).finish send
        [.reported send.batch]).2 = 0 := by
      simp [Client.finish, Output.deliveredIds]
    rw [hdelivered, add_zero]
    exact hended List.filter_sublist _ rfl rfl
  | abandoned hpoint' hstatus =>
    refine ⟨?_, by simp [Client.finish, Output.trackedIds]⟩
    have hdelivered : delivered ((c.removeFromQueue send.batch).finish send
        [.reported send.batch]).2 = 0 := by
      simp [Client.finish, Output.deliveredIds]
    rw [hdelivered, add_zero]
    exact hended List.filter_sublist _ rfl rfl
  | renewed cache kept hpoint' =>
    refine ⟨?_, rfl⟩
    rw [hpoint]
    exact le_of_eq (add_zero _)
  | escaped hpoint' =>
    obtain ⟨htracked, hdelivered, -⟩ := none_of_quiet (quiet_failed (P := P) send.caller)
    refine ⟨?_, htracked⟩
    rw [hdelivered, add_zero]
    exact hended (List.Sublist.refl _) _ rfl rfl

/-- A step delivers only what is present, and only `track` lets an event in. -/
theorem Client.step_le {input : Input P} (h : c.step settings input = some out) :
    (out.1.deferredIds : Multiset String) + out.1.present + delivered out.2 ≤
      (c.deferredIds : Multiset String) + c.present + tracked out.2 := by
  have hstepped := Client.stepped h
  cases hstepped with
  | quiet hagrees hdeferred houtputs =>
    obtain ⟨htracked, hdelivered, -⟩ := none_of_quiet houtputs
    rw [hdeferred, hagrees.present, htracked, hdelivered]
  | @deferred _ c' id hagrees hdeferred =>
    rw [hdeferred, hagrees.present, ← Multiset.coe_add]
    simp only [tracked_cons, delivered_cons, Output.trackedIds, Output.deliveredIds, tracked_nil,
      delivered_nil, Multiset.coe_nil, add_zero]
    exact le_of_eq (add_right_comm _ _ _)
  | @lost _ c' id hloses hagrees hdeferred =>
    rw [hdeferred, hagrees.present]
    -- An event is lost on the way, which only makes it less.
    simp only [delivered_nil, tracked_nil, add_zero]
    exact add_le_add_left (Multiset.le_cons_self _ _) _
  | @tracked _ event entered henters hentered hdeferred =>
    obtain ⟨htracked, hdelivered⟩ := hentered.outputs
    rw [hdeferred, tracked_cons, delivered_cons, htracked, hdelivered]
    simp only [Output.trackedIds, Output.deliveredIds, Multiset.coe_nil, add_zero]
    rw [add_assoc]
    exact add_le_add_right hentered.present_le _
  | @undeferred _ event _ c₀ henters hagrees hentered hdeferred =>
    obtain ⟨htracked, hdelivered⟩ := hentered.outputs
    have hpresent := hentered.present_le
    rw [hagrees.present] at hpresent
    rw [hdeferred, htracked, hdelivered, add_zero, add_zero, ← Multiset.cons_coe]
    -- The event moves from what waits for the session into the queue.
    calc (out.1.deferredIds : Multiset String) + out.1.present
        ≤ out.1.deferredIds + (c.present + ([event.eventId] : List String)) :=
          add_le_add_right hpresent _
      _ = event.eventId ::ₘ out.1.deferredIds + c.present := by
          rw [← Multiset.singleton_add, Multiset.coe_singleton]
          abel
  | started c₀ hagrees hstart hdeferred houtputs =>
    obtain ⟨htracked, hdelivered, -⟩ := none_of_quiet houtputs
    rw [hdeferred, hstart.present, hagrees.present, htracked, hdelivered]
  | resumed hsending hsend =>
    obtain ⟨hpresent, htracked⟩ := hsend.present_le hsending
    rw [Client.deferredIds_congr hsend.sameCalls.waiting, htracked, add_zero, add_assoc]
    exact add_le_add_right hpresent _

/-- **At most one delivery.** In every run, what waits, what is in the queue or sent, and what was
delivered is among the events that were tracked. -/
theorem delivered_le {actorId tenantId sessionId : Option String} {labels : List (Label P)}
    (h : Run (Step settings) (.new actorId tenantId sessionId) labels c) :
    (c.deferredIds : Multiset String) + c.present + delivered (outputsOf labels) ≤
      tracked (outputsOf labels) := by
  induction h with
  | nil => exact le_of_eq rfl
  | @snoc labels c c' x hrun hstep ih =>
    have hle := Client.step_le hstep
    rw [outputsOf_snoc, delivered_append, tracked_append]
    calc (c'.deferredIds : Multiset String) + c'.present +
          (delivered (outputsOf labels) + delivered x.2)
        = (c'.deferredIds + c'.present + delivered x.2) + delivered (outputsOf labels) := by abel
      _ ≤ (c.deferredIds + c.present + tracked x.2) + delivered (outputsOf labels) :=
          add_le_add_left hle _
      _ = (c.deferredIds + c.present + delivered (outputsOf labels)) + tracked x.2 := by abel
      _ ≤ tracked (outputsOf labels) + tracked x.2 := add_le_add_left ih _

end Once

/-! ## Conditions of one outcome -/

/-- A response that abandons the batch without a look at its counters. -/
def Abandons (c : Client P) : Input P → Prop
  | .resume (.response status _) _ =>
    (∃ send, c.sending = some send ∧ send.point = .post) ∧
      ¬IsAccepted status ∧ status ≠ 401 ∧ status ≠ 400 ∧ status ≠ 413 ∧ status ≠ 429 ∧ status < 500
  | _ => False

/-- The session of a deferred event could not be read or written. -/
def StorageFails (c : Client P) : Input P → Prop
  | .sessionGoesOn _ =>
    (∃ id, c.session = .failed id) ∧ ∃ deferred, c.waiting.head? = some (.track deferred)
  | _ => False

/-- The step leaves the batch that is sent in the queue until it has an outcome, and its counters
with it. -/
structure Undisturbed (settings : Settings P) (c : Client P) (input : Input P) : Prop where
  room : Enters c input → settings.maxQueueSize ≤ c.queue.length →
    ∀ oldest ∈ c.queue.head?, oldest.eventId ∉ c.flightIds
  counters : Abandons c input → ∀ id ∈ c.flightIds, c.retryCount.get id = none
  session : ¬StorageFails c input

/-! ## Disposals come last -/

section Disposals

variable {settings : Settings P} {c c' : Client P} {input : Input P} {out : Effect P}

/-- No event waits for the session behind a disposal. -/
structure DisposesLast (c : Client P) : Prop where
  started : c.disposing = false →
    c.disposed = false ∧ c.delayedDisposals = [] ∧ ∀ call, .dispose call ∉ c.waiting
  behind : c.waiting.Pairwise fun first later => ∀ call, first = .dispose call → later.ids = []
  late : c.disposed = true ∨ c.delayedDisposals ≠ [] → c.deferredIds = []

namespace DisposesLast

theorem congr (h : DisposesLast c) (hcalls : SameCalls c c') : DisposesLast c' := by
  obtain ⟨hw, -, hdelayed, hdisposing, hdisposed, -⟩ := hcalls
  constructor
  · rw [hdisposing, hdisposed, hdelayed, hw]
    exact h.started
  · rw [hw]
    exact h.behind
  · rw [hdisposed, hdelayed, Client.deferredIds_congr hw]
    exact h.late

/-- One more call waits: an event only when nothing is disposed. -/
theorem append (h : DisposesLast c) (w : Waiting P)
    (hw : c.disposing = false ∧ (∀ call, w ≠ .dispose call) ∨ w.ids = []) (disposing : Bool)
    (hdisposing : disposing = c.disposing ∧ (∀ call, w ≠ .dispose call) ∨ disposing = true) :
    DisposesLast { c with waiting := c.waiting ++ [w], disposing := disposing } where
  started hopen := by
    obtain ⟨hsame, hnot⟩ | htrue := hdisposing
    · obtain ⟨hdisposed, hdelayed, hnone⟩ := h.started (by rw [← hsame]; exact hopen)
      refine ⟨hdisposed, hdelayed, ?_⟩
      intro call hmem
      obtain hmem | hmem := List.mem_append.mp hmem
      · exact hnone call hmem
      · exact hnot call (List.mem_singleton.mp hmem).symm
    · rw [htrue] at hopen
      cases hopen
  behind := by
    apply List.pairwise_append.mpr
    refine ⟨h.behind, List.pairwise_singleton .., ?_⟩
    intro first hfirst later hlater call hdispose
    rw [List.mem_singleton.mp hlater]
    -- An event waits only while nothing is disposed, so no disposal is before it.
    obtain ⟨hopen, -⟩ | hids := hw
    · rw [hdispose] at hfirst
      exact absurd hfirst ((h.started hopen).2.2 call)
    · exact hids
  late hlate := by
    have hdeferred : { c with waiting := c.waiting ++ [w], disposing := disposing }.deferredIds =
        c.deferredIds ++ w.ids := Client.deferredIds_append c w
    rw [hdeferred, h.late hlate]
    obtain ⟨hopen, -⟩ | hids := hw
    · obtain ⟨hdisposed, hdelayed, -⟩ := h.started hopen
      obtain hlate | hlate := hlate
      · rw [hdisposed] at hlate
        cases hlate
      · exact absurd hdelayed hlate
    · rw [hids]
      rfl

/-- The first call that waits goes on. -/
theorem tail {first : Waiting P} {rest : List (Waiting P)} (h : DisposesLast c)
    (hwaiting : c.waiting = first :: rest) : DisposesLast { c with waiting := rest } where
  started hopen := by
    obtain ⟨hdisposed, hdelayed, hnone⟩ := h.started hopen
    refine ⟨hdisposed, hdelayed, ?_⟩
    intro call hmem
    apply hnone call
    rw [hwaiting]
    exact List.mem_cons_of_mem _ hmem
  behind := by
    have hbehind := h.behind
    rw [hwaiting] at hbehind
    exact (List.pairwise_cons.mp hbehind).2
  late hlate := by
    have hnone := h.late hlate
    unfold Client.deferredIds at hnone ⊢
    rw [hwaiting, List.flatMap_cons] at hnone
    exact (List.append_eq_nil_iff.mp hnone).2

theorem sessionGoesOn {now : Int} (h : DisposesLast c)
    (hstep : c.step settings (.sessionGoesOn now) = some out) : DisposesLast out.1 := by
  obtain ⟨first, rest, hwaiting, hwent⟩ := Client.step_sessionGoesOn hstep
  have htail := h.tail hwaiting
  cases hwent with
  | entered hsession hopen => exact htail.congr (Client.entered settings _ now _).sameCalls
  | lost hloses => exact htail
  | @flushed call =>
    exact htail.congr (Client.mayStart_flushInternal settings call now _).1.sameCalls
  | @delayed call =>
    -- no event waits behind the disposal
    have hnone : rest.flatMap Waiting.ids = [] := by
      apply List.flatMap_eq_nil_iff.mpr
      intro w hw
      have hbehind := h.behind
      rw [hwaiting] at hbehind
      exact (List.pairwise_cons.mp hbehind).1 w hw call rfl
    refine ⟨?_, htail.behind, fun _ => hnone⟩
    intro hopen
    have hfirst := (h.started hopen).2.2 call
    rw [hwaiting] at hfirst
    exact absurd (List.mem_cons_self ..) hfirst
  | failed hcall hsession => exact htail

theorem step (h : DisposesLast c) (hstep : c.step settings input = some out) :
    DisposesLast out.1 := by
  cases input with
  | identify actorId tenantId =>
    obtain rfl := Option.some.inj hstep
    exact h.congr ⟨rfl, rfl, rfl, rfl, rfl, rfl⟩
  | track eventName properties eventId timestampClient now =>
    obtain rfl := Option.some.inj hstep
    unfold Client.track
    split
    · exact h
    · rename_i hopen
      split
      · exact h
      · split
        · exact h
        · dsimp only
          split
          · -- Nothing is disposed, and the event may wait.
            refine h.append (.track _) (.inl ⟨?_, nofun⟩) c.disposing (.inl ⟨rfl, nofun⟩)
            exact Bool.eq_false_iff.mpr fun hdisposing => hopen (by simp [hdisposing])
          · exact h.congr (Client.entered settings _ now c).sameCalls
  | flush =>
    obtain rfl := Option.some.inj hstep
    unfold Client.flush
    split
    · exact ⟨h.started, h.behind, h.late⟩
    · have happend := h.append (.flush c.calls) (.inr rfl) c.disposing (.inl ⟨rfl, nofun⟩)
      exact ⟨happend.started, happend.behind, happend.late⟩
  | dispose =>
    obtain rfl := Option.some.inj hstep
    unfold Client.dispose
    split
    · exact ⟨h.started, h.behind, h.late⟩
    · have happend := h.append (.dispose c.calls) (.inr rfl) true (.inr rfl)
      exact ⟨nofun, happend.behind, happend.late⟩
  | sessionRead stored fresh =>
    obtain ⟨session, rfl⟩ := Client.step_sessionRead hstep
    exact ⟨h.started, h.behind, h.late⟩
  | sessionWritten =>
    obtain ⟨session, rfl⟩ := Client.step_sessionWritten hstep
    exact ⟨h.started, h.behind, h.late⟩
  | sessionFails =>
    obtain ⟨session, rfl⟩ := Client.step_sessionFails hstep
    exact ⟨h.started, h.behind, h.late⟩
  | sessionGoesOn now => exact h.sessionGoesOn hstep
  | disposalGoesOn now =>
    obtain ⟨call, rest, hdisposals, rfl⟩ := Client.step_disposalGoesOn hstep
    have hlate : c.deferredIds = [] := by
      apply h.late
      right
      rw [hdisposals]
      exact List.cons_ne_nil _ _
    -- A disposal has its turn only after `dispose`, so the client is not open.
    have hdisposed : DisposesLast { c with delayedDisposals := rest, disposed := true } := by
      refine ⟨?_, h.behind, fun _ => hlate⟩
      intro hopen
      have hnone := (h.started hopen).2.1
      rw [hdisposals] at hnone
      cases hnone
    exact hdisposed.congr (Client.mayStart_flushInternal settings call now _).1.sameCalls
  | tick now =>
    obtain rfl | rfl := Client.step_tick hstep
    · exact h
    · exact h.congr (Client.mayStart_sendBatch settings none now c).1.sameCalls
  | retryAfter now =>
    obtain ⟨rest, hout⟩ := Client.step_retryAfter hstep
    have hrest : DisposesLast { c with delayedSends := rest } := ⟨h.started, h.behind, h.late⟩
    obtain rfl | rfl := hout
    · exact hrest
    · exact hrest.congr (Client.mayStart_sendBatch settings none now _).1.sameCalls
  | resume answer now =>
    obtain ⟨send, -, hsend⟩ := Client.step_resume hstep
    exact h.congr hsend.sameCalls

/-- A disposed client has no event left that waits for the session. -/
theorem not_losesDeferred (h : DisposesLast c) (hstorage : ¬StorageFails c input) :
    ¬LosesDeferred c input := by
  cases input with
  | sessionGoesOn now =>
    intro hloses
    obtain ⟨hdisposed | hfailed, deferred, hhead⟩ := hloses
    · have hnone := h.late (.inl hdisposed)
      obtain ⟨rest, hwaiting⟩ := List.head?_eq_some_iff.mp hhead
      rw [Client.deferredIds, hwaiting] at hnone
      cases hnone
    · exact hstorage ⟨hfailed, deferred, hhead⟩
  | _ => exact id

end DisposesLast

end Disposals

/-! ## The batch in its place -/

section InPlace

variable {settings : Settings P} {c c' : Client P} {event : DatacatEvent P} {out : Effect P}

/-- The batch that is sent is at the front of the queue, and only events of the queue have
counters. -/
structure InPlace (c : Client P) : Prop where
  flight : c.inFlight <+: c.queue
  counters : ∀ id, (c.retryCount.get id).isSome = true → id ∈ c.queueIds

/-- The rest of a list without repetitions, with the part that was taken out. -/
theorem filter_add_part {whole part : List String} (hnodup : whole.Nodup)
    (hpart : part.Sublist whole) :
    (whole.filter (fun id => !part.contains id) : Multiset String) + part = whole := by
  have hperm := List.filter_append_perm (fun id => part.contains id) whole
  have htaken : (whole.filter fun id => part.contains id).Perm part := by
    apply (List.perm_ext_iff_of_nodup (hnodup.filter _) (hnodup.sublist hpart)).mpr
    intro id
    rw [List.mem_filter, List.contains_iff_mem]
    exact ⟨fun h => h.2, fun h => ⟨hpart.subset h, h⟩⟩
  rw [add_comm, Multiset.coe_add]
  exact Multiset.coe_eq_coe.mpr ((htaken.symm.append_right _).trans hperm)

theorem Client.get_forget (batch : List (DatacatEvent P)) (c : Client P) (id : String) :
    (c.forget batch).retryCount.get id =
      if id ∈ idsOf batch then none else c.retryCount.get id := by
  have hfold (counts : BTreeMap String Nat) :
      (batch.foldl (fun counts e => counts.remove e.eventId) counts).get id =
        if id ∈ idsOf batch then none else counts.get id := by
    induction batch generalizing counts with
    | nil => rfl
    | cons e batch ih =>
      rw [List.foldl_cons, ih, BTreeMap.get_remove]
      by_cases hmem : id ∈ idsOf batch
      · have hcons : id ∈ idsOf (e :: batch) := List.mem_cons_of_mem _ hmem
        rw [if_pos hmem, if_pos hcons]
      · have hcons : id ∈ idsOf (e :: batch) ↔ id = e.eventId := by
          simp only [idsOf, List.map_cons, List.mem_cons]
          exact or_iff_left hmem
        rw [if_neg hmem]
        simp only [hcons]
  exact hfold c.retryCount

theorem Agrees.inPlace (h : Agrees c c') (hplace : InPlace c) : InPlace c' := by
  constructor
  · unfold Client.inFlight
    rw [h.sending, h.queue]
    exact hplace.flight
  · unfold Client.queueIds
    rw [h.retryCount, h.queue]
    exact hplace.counters

theorem MayStart.inPlace (h : MayStart settings c c') (hplace : InPlace c) : InPlace c' := by
  cases h with
  | idle => exact hplace
  | started hsending kept caller => exact ⟨List.take_prefix _ _, hplace.counters⟩

/-- An event enters; the event that it drives out, which is not sent, is reported. -/
theorem Entered.outcome (h : Entered settings event c out) (hmax : settings.maxQueueSize ≠ 0)
    (hplace : InPlace c)
    (hroom : settings.maxQueueSize ≤ c.queue.length →
      ∀ oldest ∈ c.queue.head?, oldest.eventId ∉ c.flightIds) :
    (c.queueIds : Multiset String) + ([event.eventId] : List String) =
        out.1.queueIds + reported out.2 ∧ InPlace out.1 := by
  cases h with
  | threw hfull hqueue => exact absurd hfull hmax
  | @dropped oldest rest c' hfull hqueue h =>
    have hunsent : oldest.eventId ∉ c.flightIds :=
      hroom hfull oldest (by rw [hqueue]; exact Option.mem_some_self _)
    -- The batch that is sent is at the front; the oldest event is not in it, so there is none.
    have hflight : c.inFlight = [] := by
      have hfront := hplace.flight
      unfold Client.flightIds at hunsent
      cases hsent : c.inFlight with
      | nil => rfl
      | cons e events =>
        rw [hsent, hqueue] at hfront
        obtain rfl : e = oldest := (List.cons_prefix_cons.mp hfront).1
        rw [hsent] at hunsent
        exact absurd (List.mem_cons_self ..) hunsent
    constructor
    · have hids : (c'.queueIds : Multiset String) =
          idsOf rest + ([event.eventId] : List String) := by
        rw [Client.queueIds, h.queue, Multiset.coe_add]
        exact congrArg _ List.map_append
      have hold : (c.queueIds : Multiset String) =
          ([oldest.eventId] : List String) + idsOf rest := by
        rw [Client.queueIds, hqueue, Multiset.coe_add]
        rfl
      rw [hids, hold]
      simp only [reported_cons, reported_nil, Output.reportedIds, idsOf, List.map_cons,
        List.map_nil, add_zero]
      abel
    · apply h.inPlace
      constructor
      · show c.inFlight <+: _
        rw [hflight]
        exact List.nil_prefix
      · intro id hid
        dsimp only at hid
        rw [BTreeMap.get_remove] at hid
        -- The counter of the event that is driven out is removed.
        have hne : id ≠ oldest.eventId := by
          intro heq
          rw [if_pos heq] at hid
          cases hid
        rw [if_neg hne] at hid
        have hmem := hplace.counters id hid
        rw [Client.queueIds, hqueue] at hmem
        have hrest : id ∈ idsOf rest := (List.mem_cons.mp hmem).resolve_left hne
        simp only [Client.queueIds, idsOf, List.map_append]
        exact List.mem_append_left _ hrest
  | added h =>
    constructor
    · have happend : idsOf (c.queue ++ [event]) = idsOf c.queue ++ [event.eventId] :=
        List.map_append
      rw [Client.queueIds, Client.queueIds, h.queue, reported_nil, add_zero, Multiset.coe_add]
      exact congrArg _ happend.symm
    · apply h.inPlace
      constructor
      · exact hplace.flight.trans (List.prefix_append _ _)
      · intro id hid
        simp only [Client.queueIds, idsOf, List.map_append]
        exact List.mem_append_left _ (hplace.counters id hid)

/-- The batch, or a part of it, leaves the queue when the send ends. -/
theorem Client.outcome_remove {part : List (DatacatEvent P)} (hnodup : c.queueIds.Nodup)
    (hpart : part.Sublist c.queue) :
    (c.queueIds : Multiset String) =
      (c.removeFromQueue part).queueIds + (idsOf part : Multiset String) := by
  rw [Client.queueIds_removeFromQueue]
  exact (filter_add_part hnodup (hpart.map _)).symm

theorem Client.mem_queueIds_removeFromQueue {part : List (DatacatEvent P)} {id : String} :
    id ∈ (c.removeFromQueue part).queueIds ↔ id ∈ c.queueIds ∧ id ∉ idsOf part := by
  rw [Client.queueIds_removeFromQueue, List.mem_filter]
  simp

/-- A failure: the exhausted events leave the queue, and the others have one more failure. -/
theorem Client.outcome_failure {send : Sending P} (delay : Option Int) (hplace : InPlace c)
    (hnodup : c.queueIds.Nodup) (hflight : send.batch <+: c.queue) :
    let out := c.handleRetryableFailure settings send delay
    (c.queueIds : Multiset String) = out.1.queueIds + delivered out.2 + reported out.2 ∧
      InPlace out.1 := by
  have hids : (idsOf send.batch).Nodup := hnodup.sublist (hflight.sublist.map _)
  obtain ⟨counts, delayedSends, hout, hget⟩ :=
    @handleRetryableFailure_spec _ settings send delay hids c
  generalize hdropped : send.batch.filter (exhausted settings.maxRetries c.retryCount) = dropped
    at hout
  have hpart : dropped.Sublist c.queue := by
    rw [← hdropped]
    exact List.filter_sublist.trans hflight.sublist
  dsimp only at hout ⊢
  rw [hout]
  obtain ⟨-, hdelivered, hreported⟩ := outputs_failure dropped send.caller
  constructor
  · rw [hdelivered, hreported, add_zero]
    exact outcome_remove hnodup hpart
  · refine ⟨List.nil_prefix, ?_⟩
    intro id hid
    apply mem_queueIds_removeFromQueue.mpr
    dsimp only at hid
    rw [hget] at hid
    split at hid
    · -- one more failure, and it is not exhausted
      rename_i hmem
      refine ⟨(hflight.sublist.map _).subset hmem, ?_⟩
      intro hdrop
      rw [← hdropped] at hdrop
      obtain ⟨e, he, rfl⟩ := List.mem_map.mp hdrop
      have hexhausted := of_decide_eq_true (List.mem_filter.mp he).2
      rw [recount, if_pos hexhausted] at hid
      cases hid
    · rename_i hmem
      refine ⟨hplace.counters id hid, ?_⟩
      intro hdrop
      rw [← hdropped] at hdrop
      exact hmem ((List.filter_sublist.map _).subset hdrop)

theorem SendResumed.outcome {send : Sending P} {answer : Answer} {now : Int}
    (h : SendResumed settings c send answer out) (hsending : c.sending = some send)
    (hplace : InPlace c) (hnodup : c.queueIds.Nodup)
    (hcounters : Abandons c (.resume answer now) →
      ∀ id ∈ c.flightIds, c.retryCount.get id = none) :
    (c.queueIds : Multiset String) = out.1.queueIds + delivered out.2 + reported out.2 ∧
      InPlace out.1 := by
  have hbatch := Client.inFlight_of_some hsending
  have hflight : send.batch <+: c.queue := by
    rw [← hbatch]
    exact hplace.flight
  -- The batch is sent on, and nothing has left the queue.
  have hsame (cache : TokenCache) (point : Point) :
      InPlace { c with tokenCache := cache, sending := some { send with point := point } } :=
    ⟨hflight, hplace.counters⟩
  -- The send ends, and the batch leaves the queue with its counters.
  have hended (counts : BTreeMap String Nat)
      (hcounts : ∀ id, (counts.get id).isSome = true → id ∈ c.queueIds ∧ id ∉ idsOf send.batch) :
      InPlace { c.removeFromQueue send.batch with retryCount := counts, sending := none } := by
    refine ⟨List.nil_prefix, ?_⟩
    intro id hid
    exact Client.mem_queueIds_removeFromQueue.mpr (hcounts id hid)
  have hforget : ∀ id, ((c.forget send.batch).retryCount.get id).isSome = true →
      id ∈ c.queueIds ∧ id ∉ idsOf send.batch := by
    intro id hid
    rw [Client.get_forget] at hid
    split at hid
    · cases hid
    · exact ⟨hplace.counters id hid, ‹_›⟩
  have hremove := Client.outcome_remove hnodup hflight.sublist
  cases h with
  | posted token cache hpoint => exact ⟨by simp [Output.deliveredIds, Output.reportedIds,
      Client.queueIds], hsame cache .post⟩
  | reposted token cache hpoint => exact ⟨by simp [Output.deliveredIds, Output.reportedIds,
      Client.queueIds], hsame cache .repost⟩
  | unsent cache hpoint h =>
    exact Client.outcome_failure (c := { c with tokenCache := cache }) none
      ⟨hplace.flight, hplace.counters⟩ hnodup hflight
  | unavailable delay hpoint h => exact Client.outcome_failure delay hplace hnodup hflight
  | succeeded hpoint hstatus =>
    refine ⟨?_, hended _ hforget⟩
    have houtputs : delivered (c.deliver send).2 = (idsOf send.batch : Multiset String) ∧
        reported (c.deliver send).2 = 0 := by
      simp [Client.deliver, Client.finish, Output.deliveredIds, Output.reportedIds]
    rw [houtputs.1, houtputs.2, add_zero]
    exact hremove
  | unauthorized hpoint => exact ⟨by simp [Client.queueIds], hsame {} .invalidate⟩
  | refused hpoint hstatus =>
    refine ⟨?_, hended _ hforget⟩
    simp only [Client.finish, delivered_append, reported_append, delivered_cons, reported_cons,
      Output.deliveredIds, Output.reportedIds, delivered_completion, reported_completion,
      delivered_nil, reported_nil, Multiset.coe_nil, add_zero]
    exact hremove
  | @abandoned status retryAfter hpoint hstatus =>
    -- The counters of an abandoned batch stay, and there are none by hypothesis.
    have hnone := hcounters ⟨⟨send, hsending, hpoint⟩, hstatus⟩
    refine ⟨?_, hended c.retryCount ?_⟩
    · simp only [Client.finish, delivered_append, reported_append, delivered_cons, reported_cons,
        Output.deliveredIds, Output.reportedIds, delivered_completion, reported_completion,
        delivered_nil, reported_nil, Multiset.coe_nil, add_zero]
      exact hremove
    · intro id hid
      refine ⟨hplace.counters id hid, ?_⟩
      intro hmem
      rw [Client.flightIds_of_some hsending] at hnone
      rw [hnone id hmem] at hid
      cases hid
  | renewed cache kept hpoint => exact ⟨by simp [Client.queueIds], hsame cache (.retoken kept)⟩
  | escaped hpoint =>
    obtain ⟨-, hdelivered, hreported⟩ := none_of_quiet (quiet_failed (P := P) send.caller)
    refine ⟨?_, List.nil_prefix, hplace.counters⟩
    rw [hdelivered, hreported, add_zero, add_zero]
    rfl

end InPlace

/-! ## One outcome -/

section OneOutcome

variable {settings : Settings P} {c : Client P} {input : Input P} {out : Effect P}

/-- What was tracked waits for the session, is in the queue, or has left it with an outcome. -/
theorem Client.step_outcome (h : c.step settings input = some out)
    (hmax : settings.maxQueueSize ≠ 0) (hundisturbed : Undisturbed settings c input)
    (hplace : InPlace c) (hdisposals : DisposesLast c) (hnodup : c.queueIds.Nodup) :
    (c.deferredIds : Multiset String) + c.queueIds + tracked out.2 =
        out.1.deferredIds + out.1.queueIds + delivered out.2 + reported out.2 ∧
      InPlace out.1 := by
  have hstepped := Client.stepped h
  cases hstepped with
  | quiet hagrees hdeferred houtputs =>
    obtain ⟨htracked, hdelivered, hreported⟩ := none_of_quiet houtputs
    refine ⟨?_, hagrees.inPlace hplace⟩
    rw [hdeferred, htracked, hdelivered, hreported, queueIds, queueIds, hagrees.queue]
    abel
  | @deferred _ c' id hagrees hdeferred =>
    refine ⟨?_, hagrees.inPlace hplace⟩
    rw [hdeferred, ← Multiset.coe_add, queueIds, queueIds, hagrees.queue]
    simp only [tracked_cons, delivered_cons, reported_cons, Output.trackedIds,
      Output.deliveredIds, Output.reportedIds, tracked_nil, delivered_nil, reported_nil,
      Multiset.coe_nil, add_zero]
    abel
  | lost hloses hagrees hdeferred =>
    exact absurd hloses (hdisposals.not_losesDeferred hundisturbed.session)
  | @tracked _ event entered henters hentered hdeferred =>
    obtain ⟨htracked, hdelivered⟩ := hentered.outputs
    obtain ⟨hqueue, hplace⟩ := hentered.outcome hmax hplace (hundisturbed.room henters)
    refine ⟨?_, hplace⟩
    rw [hdeferred, tracked_cons, delivered_cons, reported_cons, htracked, hdelivered]
    simp only [Output.trackedIds, Output.deliveredIds, Output.reportedIds, Multiset.coe_nil,
      add_zero, zero_add]
    rw [add_assoc, hqueue, add_assoc]
  | @undeferred _ event _ c₀ henters hagrees hentered hdeferred =>
    obtain ⟨htracked, hdelivered⟩ := hentered.outputs
    have hroom : settings.maxQueueSize ≤ c₀.queue.length →
        ∀ oldest ∈ c₀.queue.head?, oldest.eventId ∉ c₀.flightIds := by
      rw [hagrees.queue, hagrees.flightIds]
      exact hundisturbed.room henters
    obtain ⟨hqueue, hplace⟩ := hentered.outcome hmax (hagrees.inPlace hplace) hroom
    refine ⟨?_, hplace⟩
    -- The event moves from what waits for the session into the queue.
    have hids : (c.deferredIds : Multiset String) =
        ([event.eventId] : List String) + out.1.deferredIds := by
      rw [hdeferred, Multiset.coe_add]
      rfl
    have hsame : c.queueIds = c₀.queueIds := by
      rw [queueIds, queueIds, hagrees.queue]
    rw [htracked, hdelivered, hids, hsame]
    calc (([event.eventId] : List String) + out.1.deferredIds : Multiset String) + c₀.queueIds + 0
        = out.1.deferredIds + (c₀.queueIds + ([event.eventId] : List String)) := by abel
      _ = out.1.deferredIds + out.1.queueIds + 0 + reported out.2 := by
        rw [hqueue]
        abel
  | started c₀ hagrees hstart hdeferred houtputs =>
    obtain ⟨htracked, hdelivered, hreported⟩ := none_of_quiet houtputs
    refine ⟨?_, hstart.inPlace (hagrees.inPlace hplace)⟩
    rw [hdeferred, htracked, hdelivered, hreported, queueIds, queueIds, hstart.queue,
      hagrees.queue]
    abel
  | resumed hsending hsend =>
    obtain ⟨hqueue, hplace⟩ := hsend.outcome hsending hplace hnodup hundisturbed.counters
    refine ⟨?_, hplace⟩
    rw [deferredIds_congr hsend.sameCalls.waiting, (hsend.present_le hsending).2, hqueue]
    abel

/-- A step that leaves the batch that is sent where it is. -/
def UndisturbedStep (settings : Settings P) (c : Client P) (x : Label P) (c' : Client P) : Prop :=
  Undisturbed settings c x.1 ∧ Step settings c x c'

/-- **One outcome for every event.** In every run with room for an event and identifiers that are
all different, unless a step disturbs the batch that is sent: every event that was tracked waits
for the session, is in the queue, was delivered or was reported, and it is so once; and only events
of the queue have counters. -/
theorem single_outcome {actorId tenantId sessionId : Option String} {labels : List (Label P)}
    (hmax : settings.maxQueueSize ≠ 0)
    (h : Run (UndisturbedStep settings) (.new actorId tenantId sessionId) labels c)
    (hids : (tracked (outputsOf labels)).Nodup) :
    tracked (outputsOf labels) = (c.deferredIds : Multiset String) + c.queueIds +
        delivered (outputsOf labels) + reported (outputsOf labels) ∧
      ∀ id, (c.retryCount.get id).isSome = true → id ∈ c.queueIds := by
  have hinv : tracked (outputsOf labels) = (c.deferredIds : Multiset String) + c.queueIds +
      delivered (outputsOf labels) + reported (outputsOf labels) ∧ InPlace c ∧
        DisposesLast c := by
    induction h with
    | nil =>
      refine ⟨rfl, ⟨List.nil_prefix, nofun⟩, ?_, List.Pairwise.nil, nofun⟩
      intro _
      exact ⟨rfl, rfl, fun _ => List.not_mem_nil⟩
    | @snoc labels c c' x hrun hstep ih =>
      rw [outputsOf_snoc, tracked_append] at hids
      obtain ⟨hbalance, hplace, hdisposals⟩ :=
        ih (Multiset.nodup_of_le (Multiset.le_add_right _ _) hids)
      -- What is in the queue was tracked, once.
      have hnodup : c.queueIds.Nodup := by
        have hle : (c.queueIds : Multiset String) ≤ tracked (outputsOf labels) := by
          rw [hbalance, add_assoc, add_assoc]
          exact le_trans (Multiset.le_add_right _ _) (Multiset.le_add_left _ _)
        have htracked := Multiset.nodup_of_le (Multiset.le_add_right _ _) hids
        exact Multiset.coe_nodup.mp (Multiset.nodup_of_le hle htracked)
      obtain ⟨hstepbalance, hplace'⟩ :=
        Client.step_outcome hstep.2 hmax hstep.1 hplace hdisposals hnodup
      refine ⟨?_, hplace', hdisposals.step hstep.2⟩
      rw [outputsOf_snoc, tracked_append, delivered_append, reported_append, hbalance]
      calc (c.deferredIds : Multiset String) + c.queueIds + delivered (outputsOf labels) +
            reported (outputsOf labels) + tracked x.2
          = (c.deferredIds + c.queueIds + tracked x.2) + delivered (outputsOf labels) +
            reported (outputsOf labels) := by abel
        _ = (c'.deferredIds + c'.queueIds + delivered x.2 + reported x.2) +
            delivered (outputsOf labels) + reported (outputsOf labels) := by rw [hstepbalance]
        _ = _ := by abel
  exact ⟨hinv.1, hinv.2.1.counters⟩

/-- There is room, nothing has failed, and the session is known. -/
theorem undisturbed_of_room (hroom : c.queue.length < settings.maxQueueSize)
    (hcounters : c.retryCount.entries = []) (hsession : ∀ id, c.session ≠ .failed id) :
    Undisturbed settings c input where
  room _ hfull := absurd hroom (Nat.not_lt.mpr hfull)
  counters _ id _ := by rw [BTreeMap.get, hcounters]; rfl
  session hfails := by
    cases input with
    | sessionGoesOn now =>
      obtain ⟨⟨id, hfailed⟩, -⟩ := hfails
      exact hsession id hfailed
    | _ => exact hfails

end OneOutcome

/-- Each event is sent as it comes. -/
def oneByOne (maxQueueSize : Nat) : Settings Unit :=
  { batchSize := 1
    maxQueueSize := maxQueueSize
    encodable := fun _ => true
    parseExp := fun _ => none }

def startClient : Client Unit := .new (some "a") none (some "s")

/-- A second event comes while the first is sent. -/
def trackedWhileSent : List (Input Unit) :=
  [.track "signup" () "e1" "2026-06-21T10:00:00.000Z" 0, .resume (.token "t") 0,
    .track "login" () "e2" "2026-06-21T10:00:01.000Z" 0, .resume (.response 202 none) 0]

/-- The queue has room for both. -/
theorem single_outcome_room : ∃ labels c,
    Run (UndisturbedStep (oneByOne 3)) startClient labels c ∧ c.queueIds ≠ [] ∧
      tracked (outputsOf labels) = (c.deferredIds : Multiset String) + c.queueIds +
        delivered (outputsOf labels) + reported (outputsOf labels) := by
  let next (c : Client Unit) (input : Input Unit) :=
    if c.queue.length < 3 ∧ c.retryCount.entries.isEmpty = true ∧
      (match c.session with | .failed _ => false | _ => true) = true
    then c.step (oneByOne 3) input else none
  have hout : (Run.replay next trackedWhileSent startClient).any (fun out =>
      decide (out.1.queueIds ≠ []) && decide (tracked (outputsOf out.2)).Nodup) = true := by
    decide +kernel
  obtain ⟨⟨c, labels⟩, hreplay, hchecks⟩ := (Option.any_eq_true _ _).mp hout
  obtain ⟨hqueue, hids⟩ := (Bool.and_eq_true _ _).mp hchecks
  have hrun : Run (UndisturbedStep (oneByOne 3)) startClient labels c := by
    apply (Run.of_replay hreplay).mono
    intro c x c' hnext
    obtain ⟨⟨hroom, hcounters, hsession⟩, hstep⟩ := Option.ite_none_right_eq_some.mp hnext
    refine ⟨undisturbed_of_room hroom (List.isEmpty_iff.mp hcounters) ?_, hstep⟩
    intro id hfailed
    rw [hfailed] at hsession
    cases hsession
  have hoptions : (oneByOne 3).maxQueueSize ≠ 0 := by decide
  exact ⟨labels, c, hrun, of_decide_eq_true hqueue,
    (single_outcome hoptions hrun (of_decide_eq_true hids)).1⟩

/-- The queue drops the event that is sent: it is reported, and then delivered. -/
theorem not_single_outcome :
    ¬∀ (settings : Settings Unit) (actorId tenantId sessionId : Option String)
      (labels : List (Label Unit)) (c : Client Unit), settings.maxQueueSize ≠ 0 →
      Run (Step settings) (.new actorId tenantId sessionId) labels c →
      (tracked (outputsOf labels)).Nodup →
      tracked (outputsOf labels) = (c.deferredIds : Multiset String) + c.queueIds +
          delivered (outputsOf labels) + reported (outputsOf labels) ∧
        ∀ id, (c.retryCount.get id).isSome = true → id ∈ c.queueIds := by
  intro h
  have hout : (Run.replay (Client.step (oneByOne 1)) trackedWhileSent startClient).any (fun out =>
      decide (tracked (outputsOf out.2)).Nodup &&
        decide (tracked (outputsOf out.2) ≠ (out.1.deferredIds : Multiset String) +
          out.1.queueIds + delivered (outputsOf out.2) + reported (outputsOf out.2))) = true := by
    decide +kernel
  obtain ⟨⟨c, labels⟩, hreplay, hchecks⟩ := (Option.any_eq_true _ _).mp hout
  obtain ⟨hids, hbalance⟩ := (Bool.and_eq_true _ _).mp hchecks
  obtain ⟨hsingle, -⟩ := h (oneByOne 1) (some "a") none (some "s") labels c (by decide)
    (Run.of_replay hreplay) (of_decide_eq_true hids)
  exact of_decide_eq_true hbalance hsingle

end Datacat.Sdk.Flutter
