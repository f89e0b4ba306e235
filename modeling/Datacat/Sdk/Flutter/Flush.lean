import Datacat.Sdk.Flutter.Futures

/-!
# Flushing the Queue

`flush` and `dispose` wait for the session, then send one batch, unless one is sent already: in that
case their futures complete at once. A queue that is longer than a batch, and a batch that is sent
for somebody else, are left as they are.

## Main results

- `Client.step_keeps`: while the server accepts every request no event is lost.
- `Underway.step`: where the events tracked before a call are until its future completes.
- `flush_delivers`: when the call finds what it has to send within one batch, and nothing sent
  already, all of it is delivered when its future completes.
-/

namespace Datacat.Sdk.Flutter

open Basics

variable {P : Type}

/-! ## Conditions of a delivery -/

/-- The server accepts the request that is sent, if the step answers one. -/
def ServerAccepts (c : Client P) : Input P → Prop
  | .resume (.response status _) _ => IsAccepted status
  | .resume .error _ => ∀ send, c.sending = some send → send.point.awaitsResponse = false
  | _ => True

/-- Nothing else fails: the token and the session are there, the batch can be encoded, and a full
queue drops an event only while it is sent. -/
structure Smooth (settings : Settings P) (c : Client P) (input : Input P) : Prop where
  token : ∀ now, input = .resume .error now →
    ∀ send, c.sending = some send → send.point.awaitsResponse = true
  body : ∀ send, c.sending = some send → ∀ e ∈ send.batch, settings.encodable e.properties = true
  room : Enters c input → settings.maxQueueSize ≤ c.queue.length →
    ∃ oldest ∈ c.queue.head?, oldest.eventId ∈ c.flightIds
  session : ∀ now, input = .sessionGoesOn now → ∀ id, c.session ≠ .failed id

/-- The server accepts what it is sent, and nothing else fails. -/
def SmoothStep (settings : Settings P) (c : Client P) (x : Label P) (c' : Client P) : Prop :=
  ServerAccepts c x.1 ∧ Smooth settings c x.1 ∧ Step settings c x c'

/-- What the call has to send is within one batch, and no other send is under way. -/
def Fits (settings : Settings P) (events : Multiset String) (c : Client P) : Prop :=
  (∀ id ∈ events, id ∉ c.present) ∨
    c.flushing = false ∧ ∀ id ∈ events, id ∉ idsOf (c.queue.drop settings.batchSize)

/-- When the turn of the call comes, what it has to send fits. -/
structure Timely (settings : Settings P) (events : Multiset String) (call : Nat) (c : Client P)
    (input : Input P) : Prop where
  flush : ∀ now, input = .sessionGoesOn now → c.waiting.head? = some (.flush call) →
    Fits settings events c
  dispose : ∀ now, input = .disposalGoesOn now → c.delayedDisposals.head? = some call →
    Fits settings events c

/-! ## Nothing is lost -/

section Kept

variable {settings : Settings P} {c c' : Client P} {input : Input P} {out : Effect P} {id : String}

theorem Client.mem_present : id ∈ c.present ↔ id ∈ c.queueIds ∨ id ∈ c.flightIds := by
  rw [present, Multiset.mem_union, Multiset.mem_coe, Multiset.mem_coe]

theorem MayStart.sending_some {send : Sending P} (h : MayStart settings c c')
    (hsending : c.sending = some send) : c' = c := by
  cases h with
  | idle => rfl
  | started hnone kept caller =>
    rw [hnone] at hsending
    cases hsending

/-- The event enters, and what was present stays: a full queue drops what is sent. -/
theorem Entered.keeps {event : DatacatEvent P} (h : Entered settings event c out)
    (hroom : settings.maxQueueSize ≤ c.queue.length →
      ∃ oldest ∈ c.queue.head?, oldest.eventId ∈ c.flightIds) :
    event.eventId ∈ out.1.present ∧ ∀ id ∈ c.present, id ∈ out.1.present := by
  have hadded {queue : List (DatacatEvent P)} {counts : BTreeMap String Nat} {c' : Client P}
      (h : MayStart settings { c with queue := queue ++ [event], retryCount := counts } c') :
      event.eventId ∈ c'.present ∧
        ∀ id, id ∈ idsOf queue ∨ id ∈ c.flightIds → id ∈ c'.present := by
    rw [h.present]
    have hids : { c with queue := queue ++ [event], retryCount := counts }.queueIds =
        idsOf queue ++ [event.eventId] := List.map_append
    constructor
    · apply Client.mem_present.mpr
      rw [hids]
      exact .inl (List.mem_append_right _ (List.mem_singleton_self _))
    · intro id hid
      apply Client.mem_present.mpr
      rw [hids]
      obtain hid | hid := hid
      · exact .inl (List.mem_append_left _ hid)
      · exact .inr hid
  cases h with
  | threw hfull hqueue =>
    -- A full queue that is empty has no oldest event to make room.
    obtain ⟨oldest, holdest, -⟩ := hroom (by rw [hfull]; exact Nat.zero_le _)
    rw [hqueue] at holdest
    cases holdest
  | @dropped oldest rest c' hfull hqueue h =>
    -- The event that is driven out is sent at the same time, so it is still there.
    obtain ⟨first, hfirst, hsent⟩ := hroom hfull
    rw [hqueue] at hfirst
    obtain rfl : oldest = first := Option.some.inj hfirst
    obtain ⟨hevent, hkept⟩ := hadded h
    refine ⟨hevent, ?_⟩
    intro id hid
    apply hkept
    obtain hid | hid := Client.mem_present.mp hid
    · rw [Client.queueIds, hqueue] at hid
      obtain rfl | hid := List.mem_cons.mp hid
      · exact .inr hsent
      · exact .inl hid
    · exact .inr hid
  | added h =>
    obtain ⟨hevent, hkept⟩ := hadded h
    exact ⟨hevent, fun id hid => hkept id (Client.mem_present.mp hid)⟩

/-- A send goes on: what is sent is present until it is delivered. -/
theorem SendResumed.keeps {send : Sending P} {answer : Answer} {now : Int}
    (h : SendResumed settings c send answer out) (hsending : c.sending = some send)
    (haccepts : ServerAccepts c (.resume answer now))
    (hsmooth : Smooth settings c (.resume answer now)) :
    (∃ point cache, out.1 = { c with
        tokenCache := cache, sending := some { send with point := point } } ∧
        delivered out.2 = 0) ∨
      out.1.sending = none ∧ delivered out.2 = (c.flightIds : Multiset String) ∧
        ∀ id ∈ c.queueIds, id ∈ out.1.queueIds ∨ id ∈ c.flightIds := by
  have hflight := Client.flightIds_of_some hsending
  cases h with
  | posted token cache hpoint => exact .inl ⟨.post, cache, rfl, rfl⟩
  | reposted token cache hpoint => exact .inl ⟨.repost, cache, rfl, rfl⟩
  | unsent cache hpoint h =>
    -- Neither the token nor a body fails in a smooth run.
    obtain rfl | ⟨e, he, hbody⟩ := h
    · rw [hsmooth.token now rfl send hsending] at hpoint
      cases hpoint
    · rw [hsmooth.body send hsending e he] at hbody
      cases hbody
  | unavailable delay hpoint h =>
    obtain rfl | ⟨status, retryAfter, rfl, hstatus⟩ := h
    · rw [haccepts send hsending] at hpoint
      cases hpoint
    · exact absurd haccepts hstatus
  | succeeded hpoint hstatus =>
    right
    refine ⟨rfl, ?_, ?_⟩
    · rw [hflight]
      simp [Client.deliver, Client.finish, Output.deliveredIds]
    · intro id hid
      -- The batch is delivered, and the rest of the queue stays.
      by_cases hsent : id ∈ idsOf send.batch
      · exact .inr (by rw [hflight]; exact hsent)
      · exact .inl (Client.mem_queueIds_removeFromQueue.mpr ⟨hid, hsent⟩)
  | unauthorized hpoint => obtain h | h | h := haccepts <;> cases h
  | refused hpoint hstatus =>
    unfold ServerAccepts IsAccepted at haccepts
    omega
  | abandoned hpoint hstatus => exact absurd haccepts hstatus.1
  | renewed cache kept hpoint => exact .inl ⟨.retoken kept, cache, rfl, rfl⟩
  | escaped hpoint =>
    have hawaits := hsmooth.token now rfl send hsending
    rw [hpoint] at hawaits
    cases hawaits

/-- While the server accepts every request and nothing else fails, no event is lost. -/
theorem Client.step_keeps (h : c.step settings input = some out) (haccepts : ServerAccepts c input)
    (hsmooth : Smooth settings c input) (hdisposals : DisposesLast c) :
    (∀ id ∈ tracked out.2, id ∈ out.1.deferredIds ∨ id ∈ out.1.present) ∧
      ∀ id, id ∈ c.deferredIds ∨ id ∈ c.present →
        (id ∈ out.1.deferredIds ∨ id ∈ out.1.present) ∨ id ∈ delivered out.2 := by
  have hstepped := Client.stepped h
  cases hstepped with
  | quiet hagrees hdeferred houtputs =>
    rw [(none_of_quiet houtputs).1, hdeferred, hagrees.present]
    exact ⟨fun id hid => absurd hid (Multiset.notMem_zero id), fun id hid => .inl hid⟩
  | @deferred _ c' id hagrees hdeferred =>
    rw [hdeferred, hagrees.present]
    constructor
    · intro id' hid'
      have hmem : id' = id := by simpa [Output.trackedIds] using hid'
      rw [hmem]
      exact .inl (List.mem_append_right _ (List.mem_singleton_self _))
    · rintro id' (hid' | hid')
      · exact .inl (.inl (List.mem_append_left _ hid'))
      · exact .inl (.inr hid')
  | lost hloses hagrees hdeferred =>
    -- The storage does not fail, so nothing that waits for the session is lost.
    have hstorage : ¬StorageFails c input := by
      cases input with
      | sessionGoesOn now =>
        rintro ⟨⟨id, hfailed⟩, -⟩
        exact hsmooth.session now rfl id hfailed
      | _ => exact id
    exact absurd hloses (hdisposals.not_losesDeferred hstorage)
  | @tracked _ event entered henters hentered hdeferred =>
    obtain ⟨hevent, hkept⟩ := hentered.keeps (hsmooth.room henters)
    rw [tracked_cons, hentered.outputs.1, add_zero, hdeferred]
    constructor
    · intro id hid
      rw [List.mem_singleton.mp (Multiset.mem_coe.mp hid)]
      exact .inr hevent
    · rintro id (hid | hid)
      · exact .inl (.inl hid)
      · exact .inl (.inr (hkept id hid))
  | @undeferred _ event _ c₀ henters hagrees hentered hdeferred =>
    have hroom : settings.maxQueueSize ≤ c₀.queue.length →
        ∃ oldest ∈ c₀.queue.head?, oldest.eventId ∈ c₀.flightIds := by
      rw [hagrees.queue, hagrees.flightIds]
      exact hsmooth.room henters
    obtain ⟨hevent, hkept⟩ := hentered.keeps hroom
    rw [hentered.outputs.1]
    refine ⟨fun id hid => absurd hid (Multiset.notMem_zero id), ?_⟩
    rw [hdeferred]
    rintro id (hid | hid)
    · obtain rfl | hid := List.mem_cons.mp hid
      · exact .inl (.inr hevent)
      · exact .inl (.inl hid)
    · rw [← hagrees.present] at hid
      exact .inl (.inr (hkept id hid))
  | started c₀ hagrees hstart hdeferred houtputs =>
    rw [(none_of_quiet houtputs).1, hdeferred, hstart.present, hagrees.present]
    exact ⟨fun id hid => absurd hid (Multiset.notMem_zero id), fun id hid => .inl hid⟩
  | @resumed send answer now _ hsending hsend =>
    -- The send moves on with its batch, or ends with it delivered.
    rw [(hsend.present_le hsending).2, deferredIds_congr hsend.sameCalls.waiting]
    refine ⟨fun id hid => absurd hid (Multiset.notMem_zero id), ?_⟩
    rintro id (hid | hid)
    · exact .inl (.inl hid)
    · obtain ⟨point, cache, hout, -⟩ | ⟨-, hdelivered, hqueue⟩ :=
        hsend.keeps hsending haccepts hsmooth
      · left
        right
        rw [hout]
        obtain hid | hid := mem_present.mp hid
        · exact mem_present.mpr (.inl hid)
        · apply mem_present.mpr
          right
          rw [flightIds_of_some hsending] at hid
          exact hid
      · rw [hdelivered]
        obtain hid | hid := mem_present.mp hid
        · obtain hid | hid := hqueue id hid
          · exact .inl (.inr (mem_present.mpr (.inl hid)))
          · exact .inr (Multiset.mem_coe.mpr hid)
        · exact .inr (Multiset.mem_coe.mpr hid)

end Kept

/-! ## Where a call is -/

section Calls

variable {settings : Settings P} {c c' : Client P} {input : Input P} {out : Effect P}
  {events done : Multiset String} {call : Nat}

/-- The way of a call, with what there is left to deliver of the events tracked before it. -/
inductive Stage (events : Multiset String) (call : Nat) (c : Client P) (done : Multiset String) :
    Prop where
  /-- It waits for the session, and none of the events waits behind it. -/
  | waiting {before behind : List (Waiting P)} {w : Waiting P}
      (hcall : w = .flush call ∨ w = .dispose call) (hwaiting : c.waiting = before ++ w :: behind)
      (hbehind : ∀ id ∈ events, id ∉ behind.flatMap Waiting.ids)
  /-- It waits for its timer, and none of the events waits for the session. -/
  | delayed (hcall : call ∈ c.delayedDisposals) (hdeferred : ∀ id ∈ events, id ∉ c.deferredIds)
  /-- It waits for its batch, which has all that is not delivered. -/
  | sending {send : Sending P} (hsending : c.sending = some send) (hcaller : send.caller = some call)
      (hbatch : ∀ id ∈ events, id ∈ idsOf send.batch ∨ id ∈ done)
  | completed (hdone : ∀ id ∈ events, id ∈ done)

/-- No event is lost, and the call is on its way. -/
structure Underway (events : Multiset String) (call : Nat) (c : Client P)
    (done : Multiset String) : Prop where
  kept : ∀ id ∈ events, (id ∈ c.deferredIds ∨ id ∈ c.present) ∨ id ∈ done
  stage : Stage events call c done

theorem Stage.congr (h : Stage events call c done) (hcalls : SameCalls c c')
    (hsending : c'.sending = c.sending) : Stage events call c' done := by
  cases h with
  | waiting hcall hwaiting hbehind =>
    exact .waiting hcall (by rw [hcalls.waiting, hwaiting]) hbehind
  | delayed hcall hdeferred =>
    refine .delayed (by rw [hcalls.delayedDisposals]; exact hcall) ?_
    rw [Client.deferredIds_congr hcalls.waiting]
    exact hdeferred
  | sending hsend hcaller hbatch => exact .sending (by rw [hsending, hsend]) hcaller hbatch
  | completed hdone => exact .completed hdone

/-- The turn of the call. -/
theorem Fits.stage (h : Fits settings events c) (hdeferred : ∀ id ∈ events, id ∉ c.deferredIds)
    (hkept : ∀ id ∈ events, (id ∈ c.deferredIds ∨ id ∈ c.present) ∨ id ∈ done) (now : Int) :
    Stage events call (c.flushInternal settings call now).1 done := by
  have hpresent : ∀ id ∈ events, id ∈ c.present ∨ id ∈ done := by
    intro id hid
    obtain (hid' | hid') | hid' := hkept id hid
    · exact absurd hid' (hdeferred id hid)
    · exact .inl hid'
    · exact .inr hid'
  have hnothing (hnone : ∀ id ∈ events, id ∉ c.present) : ∀ id ∈ events, id ∈ done := by
    intro id hid
    exact (hpresent id hid).resolve_left (hnone id hid)
  unfold Client.flushInternal Client.sendBatch
  obtain hnone | ⟨hidle, hfits⟩ := h
  · -- everything is delivered already
    have hdone := hnothing hnone
    split
    · exact .completed hdone
    · split
      · exact .completed hdone
      · exact .sending rfl rfl fun id hid => .inr (hdone id hid)
  · have hsending : c.sending = none := by
      cases hsending : c.sending with
      | none => rfl
      | some send => simp [Client.flushing, hsending] at hidle
    -- Nothing is sent, so what is not delivered is in the queue.
    have hqueue : ∀ id ∈ events, id ∈ c.queueIds ∨ id ∈ done := by
      intro id hid
      refine (hpresent id hid).imp_left ?_
      intro hid'
      apply (Client.mem_present.mp hid').resolve_right
      rw [Client.flightIds_of_none hsending]
      exact List.not_mem_nil
    split
    · rename_i hempty
      apply Stage.completed
      intro id hid
      apply (hqueue id hid).resolve_left
      rw [Client.queueIds, List.isEmpty_iff.mp hempty]
      exact List.not_mem_nil
    · rename_i hnonempty
      rw [if_neg (by simp [hidle, hnonempty])]
      refine .sending rfl rfl ?_
      intro id hid
      refine (hqueue id hid).imp_left ?_
      intro hid'
      -- What is in the queue is in its first batch, since the events fit.
      have hsplit : c.queueIds = idsOf (c.queue.take settings.batchSize) ++
          idsOf (c.queue.drop settings.batchSize) := by
        rw [Client.queueIds, idsOf, idsOf, idsOf, ← List.map_append, List.take_append_drop]
      rw [hsplit] at hid'
      exact (List.mem_append.mp hid').resolve_right (hfits id hid)

/-- What waits for the session after a step, a call more or one event that was just tracked, and
the disposals that wait for their timers. -/
theorem Client.step_waiting (h : c.step settings input = some out)
    (hsession : ∀ now, input ≠ .sessionGoesOn now) :
    (∃ more, out.1.waiting = c.waiting ++ more ∧
        ∀ id ∈ more.flatMap Waiting.ids, id ∈ tracked out.2) ∧
      ((∀ now, input ≠ .disposalGoesOn now) → out.1.delayedDisposals = c.delayedDisposals) := by
  have hnone {waiting : List (Waiting P)} {outputs : List (Output P)}
      (hwaiting : waiting = c.waiting) :
      ∃ more, waiting = c.waiting ++ more ∧ ∀ id ∈ more.flatMap Waiting.ids, id ∈ tracked outputs :=
    ⟨[], by rw [hwaiting, List.append_nil], fun _ hid => absurd hid List.not_mem_nil⟩
  have hsame (hcalls : SameCalls c out.1) :
      (∃ more, out.1.waiting = c.waiting ++ more ∧
          ∀ id ∈ more.flatMap Waiting.ids, id ∈ tracked out.2) ∧
        ((∀ now, input ≠ .disposalGoesOn now) → out.1.delayedDisposals = c.delayedDisposals) :=
    ⟨hnone hcalls.waiting, fun _ => hcalls.delayedDisposals⟩
  cases input with
  | identify actorId tenantId =>
    obtain rfl := Option.some.inj h
    exact ⟨hnone rfl, fun _ => rfl⟩
  | track eventName properties eventId timestampClient now =>
    obtain rfl := Option.some.inj h
    unfold track
    split
    · exact ⟨hnone rfl, fun _ => rfl⟩
    · split
      · exact ⟨hnone rfl, fun _ => rfl⟩
      · split
        · exact ⟨hnone rfl, fun _ => rfl⟩
        · dsimp only
          split
          · -- The session is not known yet, and the event waits for it.
            refine ⟨⟨[.track _], rfl, ?_⟩, fun _ => rfl⟩
            intro id hid
            simpa [Waiting.ids, Output.trackedIds] using hid
          · refine ⟨⟨[], ?_, fun _ hid => absurd hid List.not_mem_nil⟩, fun _ => ?_⟩
            · rw [List.append_nil]
              exact (entered settings _ now c).sameCalls.waiting
            · exact (entered settings _ now c).sameCalls.delayedDisposals
  | flush =>
    -- One call more waits, and it defers no event.
    obtain rfl := Option.some.inj h
    unfold flush
    split
    · exact ⟨⟨[], (List.append_nil _).symm, fun _ hid => absurd hid List.not_mem_nil⟩, fun _ => rfl⟩
    · exact ⟨⟨[.flush c.calls], rfl, fun _ hid => absurd hid List.not_mem_nil⟩, fun _ => rfl⟩
  | dispose =>
    obtain rfl := Option.some.inj h
    unfold dispose
    split
    · exact ⟨⟨[], (List.append_nil _).symm, fun _ hid => absurd hid List.not_mem_nil⟩, fun _ => rfl⟩
    · exact ⟨⟨[.dispose c.calls], rfl, fun _ hid => absurd hid List.not_mem_nil⟩, fun _ => rfl⟩
  | sessionRead stored fresh =>
    obtain ⟨session, rfl⟩ := step_sessionRead h
    exact ⟨hnone rfl, fun _ => rfl⟩
  | sessionWritten =>
    obtain ⟨session, rfl⟩ := step_sessionWritten h
    exact ⟨hnone rfl, fun _ => rfl⟩
  | sessionFails =>
    obtain ⟨session, rfl⟩ := step_sessionFails h
    exact ⟨hnone rfl, fun _ => rfl⟩
  | sessionGoesOn now => exact absurd rfl (hsession now)
  | disposalGoesOn now =>
    obtain ⟨call, rest, -, rfl⟩ := step_disposalGoesOn h
    refine ⟨hnone ?_, fun hnot => absurd rfl (hnot now)⟩
    exact (mayStart_flushInternal settings _ now _).1.sameCalls.waiting
  | tick now =>
    obtain rfl | rfl := step_tick h
    · exact ⟨hnone rfl, fun _ => rfl⟩
    · exact hsame (mayStart_sendBatch settings none now c).1.sameCalls
  | retryAfter now =>
    obtain ⟨rest, rfl | rfl⟩ := step_retryAfter h
    · exact ⟨hnone rfl, fun _ => rfl⟩
    · refine ⟨hnone ?_, fun _ => ?_⟩
      · exact (mayStart_sendBatch settings none now _).1.sameCalls.waiting
      · exact (mayStart_sendBatch settings none now _).1.sameCalls.delayedDisposals
  | resume answer now =>
    obtain ⟨send, -, hsend⟩ := step_resume h
    exact hsame hsend.sameCalls

/-- Nothing waits for the session that did not before, but for what is tracked. -/
theorem Client.step_deferred (h : c.step settings input = some out) :
    ∀ id ∈ out.1.deferredIds, id ∈ c.deferredIds ∨ id ∈ tracked out.2 := by
  have hstepped := Client.stepped h
  intro id hid
  cases hstepped with
  | quiet hagrees hdeferred houtputs => exact .inl (by rw [← hdeferred]; exact hid)
  | @deferred _ c' id' hagrees hdeferred =>
    rw [hdeferred] at hid
    refine (List.mem_append.mp hid).imp_right ?_
    intro hid'
    simpa [Output.trackedIds] using hid'
  | lost hloses hagrees hdeferred =>
    left
    rw [hdeferred]
    exact List.mem_cons_of_mem _ hid
  | tracked henters hentered hdeferred => exact .inl (by rw [← hdeferred]; exact hid)
  | undeferred c₀ henters hagrees hentered hdeferred =>
    left
    rw [hdeferred]
    exact List.mem_cons_of_mem _ hid
  | started c₀ hagrees hstart hdeferred houtputs => exact .inl (by rw [← hdeferred]; exact hid)
  | resumed hsending hsend =>
    left
    rw [← deferredIds_congr hsend.sameCalls.waiting]
    exact hid

/-- A batch that is sent stays sent until its send goes on. -/
theorem Client.step_sending {send : Sending P} (h : c.step settings input = some out)
    (hsending : c.sending = some send) (hresume : ∀ answer now, input ≠ .resume answer now) :
    out.1.sending = some send := by
  -- What enters while a batch is sent starts no other send.
  have hentered {event : DatacatEvent P} {c₀ : Client P} {entered : Effect P}
      (h : Entered settings event c₀ entered) (hsending : c₀.sending = some send) :
      entered.1.sending = some send := by
    cases h with
    | threw hfull hqueue => exact hsending
    | dropped hfull hqueue h => rw [h.sending_some hsending, hsending]
    | added h => rw [h.sending_some hsending, hsending]
  have hstepped := Client.stepped h
  cases hstepped with
  | quiet hagrees hdeferred houtputs => rw [hagrees.sending, hsending]
  | deferred hagrees hdeferred => rw [hagrees.sending, hsending]
  | lost hloses hagrees hdeferred => rw [hagrees.sending, hsending]
  | tracked henters hin hdeferred =>
    have hsent := hentered hin hsending
    exact hsent
  | undeferred c₀ henters hagrees hin hdeferred =>
    exact hentered hin (by rw [hagrees.sending, hsending])
  | started c₀ hagrees hstart hdeferred houtputs =>
    have hsending₀ : c₀.sending = some send := by rw [hagrees.sending, hsending]
    rw [hstart.sending_some hsending₀, hsending₀]
  | @resumed send' answer now _ hsend hresumed => exact absurd rfl (hresume answer now)

end Calls

/-! ## A step of the way -/

section Way

variable {settings : Settings P} {c : Client P} {input : Input P} {out : Effect P}
  {events done : Multiset String} {call : Nat}

/-- What goes on takes nothing else from what waits, and no disposal from its timer. -/
theorem WentOn.waiting {now : Int} {w : Waiting P} (h : WentOn settings now c w out) :
    out.1.waiting = c.waiting ∧ ∀ call ∈ c.delayedDisposals, call ∈ out.1.delayedDisposals := by
  cases h with
  | @entered deferred sessionId hsession hopen =>
    have hcalls := (Client.entered settings (deferred.event sessionId) now c).sameCalls
    exact ⟨hcalls.waiting, fun call hcall => by rw [hcalls.delayedDisposals]; exact hcall⟩
  | lost hloses => exact ⟨rfl, fun call hcall => hcall⟩
  | @flushed call' =>
    have hcalls := (Client.mayStart_flushInternal settings call' now c).1.sameCalls
    exact ⟨hcalls.waiting, fun call hcall => by rw [hcalls.delayedDisposals]; exact hcall⟩
  | delayed => exact ⟨rfl, fun call hcall => List.mem_append_left _ hcall⟩
  | failed hcall hsession => exact ⟨rfl, fun call hcall => hcall⟩

/-- The first call that waits for the session goes on. -/
theorem Stage.sessionGoesOn {now : Int} {before behind : List (Waiting P)} {w : Waiting P}
    (hcall : w = .flush call ∨ w = .dispose call) (hwaiting : c.waiting = before ++ w :: behind)
    (hbehind : ∀ id ∈ events, id ∉ behind.flatMap Waiting.ids)
    (hkept : ∀ id ∈ events, (id ∈ c.deferredIds ∨ id ∈ c.present) ∨ id ∈ done)
    (h : c.step settings (.sessionGoesOn now) = some out)
    (hsession : ∀ id, c.session ≠ .failed id)
    (htimely : Timely settings events call c (.sessionGoesOn now)) :
    Stage events call out.1 done := by
  obtain ⟨first, rest, hfirst, hwent⟩ := Client.step_sessionGoesOn h
  rw [hwaiting] at hfirst
  cases before with
  | nil =>
    -- the turn of the call
    rw [List.nil_append] at hwaiting hfirst
    obtain ⟨rfl, rfl⟩ := List.cons.inj hfirst
    have hdeferred : ∀ id ∈ events, id ∉ { c with waiting := behind }.deferredIds := hbehind
    have hkept' : ∀ id ∈ events, (id ∈ { c with waiting := behind }.deferredIds ∨
        id ∈ { c with waiting := behind }.present) ∨ id ∈ done := by
      intro id hid
      refine (hkept id hid).imp_left (Or.imp_left ?_)
      intro hid'
      rw [Client.deferredIds, hwaiting, List.flatMap_cons] at hid'
      refine (List.mem_append.mp hid').resolve_left ?_
      obtain rfl | rfl := hcall <;> exact List.not_mem_nil
    cases hwent with
    | entered hready hopen => obtain hcall | hcall := hcall <;> cases hcall
    | lost hloses => obtain hcall | hcall := hcall <;> cases hcall
    | flushed =>
      obtain hcall | hcall := hcall
      · obtain rfl := Waiting.flush.inj hcall
        have hfits := htimely.flush now rfl (by rw [hwaiting]; rfl)
        exact Fits.stage (c := { c with waiting := behind }) hfits hdeferred hkept' now
      · cases hcall
    | delayed =>
      obtain hcall | hcall := hcall
      · cases hcall
      · obtain rfl := Waiting.dispose.inj hcall
        exact .delayed (List.mem_append_right _ (List.mem_singleton_self _)) hdeferred
    | failed hcall' hfailed =>
      obtain ⟨id, hfailed⟩ := hfailed
      exact absurd hfailed (hsession id)
  | cons first' before =>
    -- another one goes on, and the call still waits
    rw [List.cons_append] at hfirst
    obtain ⟨rfl, rfl⟩ := List.cons.inj hfirst
    exact .waiting hcall hwent.waiting.1 hbehind

theorem Stage.mono {done' : Multiset String} (h : Stage events call c done) (hle : done ≤ done') :
    Stage events call c done' := by
  cases h with
  | waiting hcall hwaiting hbehind => exact .waiting hcall hwaiting hbehind
  | delayed hcall hdeferred => exact .delayed hcall hdeferred
  | sending hsending hcaller hbatch =>
    refine .sending hsending hcaller fun id hid => ?_
    exact (hbatch id hid).imp_right fun hdone => Multiset.mem_of_le hle hdone
  | completed hdone => exact .completed fun id hid => Multiset.mem_of_le hle (hdone id hid)

/-- Only its own turn takes a disposal from those that wait for their timers. -/
theorem Client.mem_delayedDisposals (h : c.step settings input = some out)
    (hdisposal : ∀ now, input ≠ .disposalGoesOn now) (hcall : call ∈ c.delayedDisposals) :
    call ∈ out.1.delayedDisposals := by
  by_cases hsession : ∃ now, input = .sessionGoesOn now
  · obtain ⟨now, rfl⟩ := hsession
    obtain ⟨first, rest, -, hwent⟩ := step_sessionGoesOn h
    exact hwent.waiting.2 call hcall
  · have hnot : ∀ now, input ≠ .sessionGoesOn now := fun now heq => hsession ⟨now, heq⟩
    rw [(step_waiting h hnot).2 hdisposal]
    exact hcall

/-- A send that goes on ends with everything delivered that the call waits for. -/
theorem Stage.resume {send : Sending P} {answer : Answer} {now : Int}
    (h : c.step settings (.resume answer now) = some out) (hsending : c.sending = some send)
    (hcaller : send.caller = some call) (hbatch : ∀ id ∈ events, id ∈ idsOf send.batch ∨ id ∈ done)
    (haccepts : ServerAccepts c (.resume answer now))
    (hsmooth : Smooth settings c (.resume answer now)) :
    Stage events call out.1 (done + delivered out.2) := by
  obtain ⟨send', hsending', hsend⟩ := Client.step_resume h
  rw [hsending] at hsending'
  obtain rfl := Option.some.inj hsending'
  obtain ⟨point, cache, hout, hnone⟩ | ⟨-, hdelivered, -⟩ := hsend.keeps hsending haccepts hsmooth
  · rw [hout, hnone, add_zero]
    exact .sending rfl hcaller hbatch
  · -- The send ends, and its batch is delivered.
    apply Stage.completed
    intro id hid
    rw [hdelivered]
    obtain hid | hid := hbatch id hid
    · apply Multiset.mem_add.mpr
      right
      rw [Client.flightIds_of_some hsending]
      exact hid
    · exact Multiset.mem_add.mpr (.inl hid)

theorem Underway.step (h : Underway events call c done) (hstep : c.step settings input = some out)
    (haccepts : ServerAccepts c input) (hsmooth : Smooth settings c input)
    (htimely : Timely settings events call c input) (hdisposals : DisposesLast c)
    (hfresh : ∀ id ∈ events, id ∉ tracked out.2) :
    Underway events call out.1 (done + delivered out.2) := by
  have hle : done ≤ done + delivered out.2 := Multiset.le_add_right _ _
  constructor
  · intro id hid
    obtain hid' | hid' := h.kept id hid
    · refine ((Client.step_keeps hstep haccepts hsmooth hdisposals).2 id hid').imp_right ?_
      exact fun hdelivered => Multiset.mem_add.mpr (.inr hdelivered)
    · exact .inr (Multiset.mem_of_le hle hid')
  · cases h.stage with
    | @waiting before behind w hcall hwaiting hbehind =>
      by_cases hsession : ∃ now, input = .sessionGoesOn now
      · obtain ⟨now, rfl⟩ := hsession
        have hstage := Stage.sessionGoesOn hcall hwaiting hbehind h.kept hstep
          (hsmooth.session now rfl) htimely
        exact hstage.mono hle
      · have hnot : ∀ now, input ≠ .sessionGoesOn now := fun now heq => hsession ⟨now, heq⟩
        -- What the step adds waits behind the call, and was tracked after it.
        obtain ⟨⟨more, hmore, hids⟩, -⟩ := Client.step_waiting hstep hnot
        rw [hwaiting, List.append_assoc, List.cons_append] at hmore
        refine .waiting hcall hmore ?_
        intro id hid
        rw [List.flatMap_append, List.mem_append, not_or]
        exact ⟨hbehind id hid, fun hid' => hfresh id hid (hids id hid')⟩
    | delayed hcall hdeferred =>
      have hdeferred' : ∀ id ∈ events, id ∉ out.1.deferredIds := by
        intro id hid hid'
        obtain hid' | hid' := Client.step_deferred hstep id hid'
        · exact hdeferred id hid hid'
        · exact hfresh id hid hid'
      by_cases hdisposal : ∃ now, input = .disposalGoesOn now
      · obtain ⟨now, rfl⟩ := hdisposal
        obtain ⟨head, rest, hdelayed, rfl⟩ := Client.step_disposalGoesOn hstep
        by_cases hhead : head = call
        · -- the turn of the disposal
          subst hhead
          have hfits := htimely.dispose now rfl (by rw [hdelayed]; rfl)
          apply Stage.mono _ hle
          exact Fits.stage (c := { c with delayedDisposals := rest, disposed := true }) hfits
            hdeferred h.kept now
        · -- Another disposal goes on.
          refine .delayed ?_ hdeferred'
          rw [hdelayed] at hcall
          rw [(Client.mayStart_flushInternal settings head now _).1.sameCalls.delayedDisposals]
          exact (List.mem_cons.mp hcall).resolve_left fun heq => hhead heq.symm
      · have hnot : ∀ now, input ≠ .disposalGoesOn now := fun now heq => hdisposal ⟨now, heq⟩
        exact .delayed (Client.mem_delayedDisposals hstep hnot hcall) hdeferred'
    | @sending send hsending hcaller hbatch =>
      by_cases hresume : ∃ answer now, input = .resume answer now
      · obtain ⟨answer, now, rfl⟩ := hresume
        exact Stage.resume hstep hsending hcaller hbatch haccepts hsmooth
      · have hnot : ∀ answer now, input ≠ .resume answer now :=
          fun answer now heq => hresume ⟨answer, now, heq⟩
        have hstage : Stage events call out.1 done :=
          .sending (Client.step_sending hstep hsending hnot) hcaller hbatch
        exact hstage.mono hle
    | completed hdone =>
      exact .completed fun id hid => Multiset.mem_of_le hle (hdone id hid)

end Way

/-! ## Runs -/

section Runs

variable {settings : Settings P} {c called c' : Client P}
  {actorId tenantId sessionId : Option String}

theorem disposesLast_new : DisposesLast (.new actorId tenantId sessionId : Client P) := by
  refine ⟨?_, List.Pairwise.nil, nofun⟩
  intro _
  exact ⟨rfl, rfl, fun _ => List.not_mem_nil⟩

theorem disposesLast_of_run {start : Client P} {labels : List (Label P)}
    (h : Run (Step settings) start labels c) (hstart : DisposesLast start) : DisposesLast c :=
  h.invariant hstart fun _ _ _ hdisposals hstep => hdisposals.step hstep

/-- In a smooth run every event that was tracked is there or delivered. -/
theorem kept_of_run {labels : List (Label P)}
    (h : Run (SmoothStep settings) (.new actorId tenantId sessionId) labels c) :
    ∀ id ∈ tracked (outputsOf labels),
      (id ∈ c.deferredIds ∨ id ∈ c.present) ∨ id ∈ delivered (outputsOf labels) := by
  induction h with
  | nil => exact fun id hid => absurd hid (Multiset.notMem_zero id)
  | @snoc labels c c' x hrun hstep ih =>
    obtain ⟨haccepts, hsmooth, hstep⟩ := hstep
    have hdisposals := disposesLast_of_run (hrun.mono fun _ _ _ hs => hs.2.2) disposesLast_new
    obtain ⟨hnew, hkept⟩ := Client.step_keeps hstep haccepts hsmooth hdisposals
    intro id hid
    rw [outputsOf_snoc, tracked_append] at hid
    rw [outputsOf_snoc, delivered_append, Multiset.mem_add]
    obtain hid | hid := Multiset.mem_add.mp hid
    · obtain hid | hid := ih id hid
      · exact (hkept id hid).imp_right .inr
      · exact .inr (.inl hid)
    · exact .inl (hnew id hid)

/-- The call itself. -/
theorem underway_call {events done : Multiset String} {input : Input P}
    {outputs : List (Output P)} (hinput : input = .flush ∨ input = .dispose)
    (hcall : Step settings c (input, outputs) called)
    (hkept : ∀ id ∈ events, (id ∈ c.deferredIds ∨ id ∈ c.present) ∨ id ∈ done)
    (hdisposals : DisposesLast c) (hlate : c.disposed = true → ∀ id ∈ events, id ∉ c.present) :
    Underway events c.calls called done := by
  -- A disposed client leaves nothing to wait for.
  have hdone (hdisposed : c.disposed = true) : ∀ id ∈ events, id ∈ done := by
    intro id hid
    refine (hkept id hid).resolve_left ?_
    rintro (hid' | hid')
    · rw [hdisposals.late (.inl hdisposed)] at hid'
      cases hid'
    · exact hlate hdisposed id hid hid'
  have hmore (w : Waiting P) (id : String) (hid : id ∈ c.deferredIds) :
      id ∈ (c.waiting ++ [w]).flatMap Waiting.ids := by
    rw [List.flatMap_append]
    exact List.mem_append_left _ hid
  obtain rfl | rfl := hinput
  · obtain rfl : c.flush.1 = called := congrArg Prod.fst (Option.some.inj hcall)
    unfold Client.flush
    split
    · exact ⟨hkept, .completed (hdone ‹_›)⟩
    · constructor
      · intro id hid
        exact (hkept id hid).imp_left (Or.imp_left (hmore (.flush c.calls) id))
      · exact .waiting (.inl rfl) rfl fun id _ => List.not_mem_nil
  · obtain rfl : c.dispose.1 = called := congrArg Prod.fst (Option.some.inj hcall)
    unfold Client.dispose
    split
    · exact ⟨hkept, .completed (hdone ‹_›)⟩
    · constructor
      · intro id hid
        exact (hkept id hid).imp_left (Or.imp_left (hmore (.dispose c.calls) id))
      · exact .waiting (.inr rfl) rfl fun id _ => List.not_mem_nil

/-- A step of a smooth run that is timely for the call. -/
def TimelyStep (settings : Settings P) (events : Multiset String) (call : Nat) (c : Client P)
    (x : Label P) (c' : Client P) : Prop :=
  Timely settings events call c x.1 ∧ SmoothStep settings c x c'

theorem underway_of_run {events done : Multiset String} {call : Nat} {labels : List (Label P)}
    (h : Run (TimelyStep settings events call) called labels c)
    (hcalled : Underway events call called done) (hdisposals : DisposesLast called)
    (hfresh : ∀ id ∈ events, id ∉ tracked (outputsOf labels)) :
    Underway events call c (done + delivered (outputsOf labels)) := by
  induction h with
  | nil => exact (add_zero done).symm ▸ hcalled
  | @snoc labels c c' x hrun hstep ih =>
    obtain ⟨htimely, haccepts, hsmooth, hstep⟩ := hstep
    have hlast := disposesLast_of_run (hrun.mono fun _ _ _ hs => hs.2.2.2) hdisposals
    rw [outputsOf_snoc, tracked_append] at hfresh
    have hfresh' : ∀ id ∈ events, id ∉ tracked (outputsOf labels) ∧ id ∉ tracked x.2 := by
      intro id hid
      have hnone := hfresh id hid
      rw [Multiset.mem_add, not_or] at hnone
      exact hnone
    have hunderway := (ih fun id hid => (hfresh' id hid).1).step hstep haccepts hsmooth htimely
      hlast fun id hid => (hfresh' id hid).2
    rw [outputsOf_snoc, delivered_append, ← add_assoc]
    exact hunderway

/-- A call whose future has completed has delivered its events. -/
theorem Underway.completed {events done : Multiset String} {call : Nat}
    (h : Underway events call c done) (hpending : call ∉ c.pendingCalls) :
    ∀ id ∈ events, id ∈ done := by
  unfold Client.pendingCalls at hpending
  rw [Multiset.mem_add, Multiset.mem_add, not_or, not_or] at hpending
  obtain ⟨⟨hwaits, hdelays⟩, hsends⟩ := hpending
  cases h.stage with
  | @waiting before behind w hcall hwaiting hbehind =>
    -- A call that waits is pending.
    refine absurd ?_ hwaits
    rw [hwaiting]
    have hmem : call ∈ w.calls := by
      obtain rfl | rfl := hcall <;> exact List.mem_singleton_self _
    simp [hmem]
  | delayed hcall hdeferred => exact absurd (Multiset.mem_coe.mpr hcall) hdelays
  | @sending send hsending hcaller hbatch =>
    refine absurd ?_ hsends
    unfold Client.sendingCalls
    rw [hsending]
    dsimp only
    rw [hcaller]
    exact List.mem_singleton_self _
  | completed hdone => exact hdone

end Runs

/-! ## A flush of one event -/

/-- Batches of that size. -/
def inBatchesOf (batchSize : Nat) : Settings Unit :=
  { batchSize := batchSize, encodable := fun _ => true, parseExp := fun _ => none }

def signup : DatacatEvent Unit :=
  { eventId := "e1"
    eventName := "signup"
    actorId := "a"
    sessionId := "s"
    timestampClient := "2026-06-21T10:00:00.000Z"
    properties := ()
    tenantId := none }

/-- The event is tracked. -/
def trackLabels : List (Label Unit) :=
  [(.track "signup" () "e1" "2026-06-21T10:00:00.000Z" 0, [.tracked "e1"])]

def queuedClient : Client Unit := { startClient with queue := [signup] }

/-- `flush` sends it, and the server accepts it. -/
def sendLabels : List (Label Unit) :=
  [(.sessionGoesOn 0, []), (.resume (.token "t") 0, [.sent "t" [signup]]),
    (.resume (.response 202 none) 0, [.delivered [signup], .completed 0])]

def flushedClient : Client Unit := { startClient with tokenCache := ⟨some "t", none⟩, calls := 1 }

end Datacat.Sdk.Flutter
