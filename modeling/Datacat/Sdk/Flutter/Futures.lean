import Datacat.Sdk.Flutter.Outcomes

/-!
# Futures of `flush` and `dispose`

A call of `flush` or `dispose` waits for the session; a disposal then waits for its timer. Last the
call waits for the batch that it sends, when it sends one. Its future completes when the call goes
on from there, and it does so once.

## Main results

- `Client.step_pending`: what a step leaves of the calls that wait.
- `futures_conserved`: in every run, each future is pending or has completed, and only once.
-/

namespace Datacat.Sdk.Flutter

open Basics

variable {P : Type}

/-- The number of the call that waits for the session. -/
def Waiting.calls : Waiting P → List Nat
  | .track _ => []
  | .flush call => [call]
  | .dispose call => [call]

/-- The call that waits for the batch that is sent. -/
def Client.sendingCalls (c : Client P) : List Nat :=
  match c.sending with
  | some send => send.caller.toList
  | none => []

/-- The calls whose futures have not completed. -/
def Client.pendingCalls (c : Client P) : Multiset Nat :=
  c.waiting.flatMap Waiting.calls + c.delayedDisposals + c.sendingCalls

def Output.endedCalls : Output P → List Nat
  | .completed call => [call]
  | .failed call => [call]
  | _ => []

/-- The calls whose futures have completed, with an error or without. -/
def ended (outputs : List (Output P)) : Multiset Nat := outputs.flatMap Output.endedCalls

section Outputs

@[simp] theorem ended_nil : ended ([] : List (Output P)) = 0 := rfl

@[simp] theorem ended_cons (o : Output P) (outputs : List (Output P)) :
    ended (o :: outputs) = o.endedCalls + ended outputs := by
  simp [ended]

@[simp] theorem ended_append (first second : List (Output P)) :
    ended (first ++ second) = ended first + ended second := by
  simp [ended]

@[simp] theorem ended_completion (caller : Option Nat) :
    ended (completion caller : List (Output P)) = caller.toList := by
  cases caller <;> rfl

theorem ended_failed (caller : Option Nat) :
    ended ((caller.map Output.failed).toList : List (Output P)) = caller.toList := by
  cases caller <;> rfl

end Outputs

namespace Client

variable {settings : Settings P} {c c' : Client P} {out : Effect P}

/-- A send that starts takes its call over; otherwise the call goes on. -/
theorem pending_sendBatch (settings : Settings P) (caller : Option Nat) (now : Int)
    (c : Client P) :
    (c.sendBatch settings caller now).1.pendingCalls + ended (c.sendBatch settings caller now).2 =
      c.pendingCalls + caller.toList := by
  unfold sendBatch
  split
  · rw [ended_completion]
  · rename_i hidle
    have hsending : c.sending = none := by
      cases hsending : c.sending with
      | none => rfl
      | some send => exact absurd (by simp [flushing, hsending]) hidle
    simp [pendingCalls, sendingCalls, hsending]

theorem pending_flushInternal (settings : Settings P) (call : Nat) (now : Int) (c : Client P) :
    (c.flushInternal settings call now).1.pendingCalls +
      ended (c.flushInternal settings call now).2 = c.pendingCalls + ([call] : List Nat) := by
  unfold flushInternal
  split
  · rw [ended_cons, ended_nil, add_zero]
    rfl
  · exact pending_sendBatch settings (some call) now c

theorem pending_add (settings : Settings P) (event : DatacatEvent P) (now : Int) (c : Client P) :
    (c.add settings event now).1.pendingCalls + ended (c.add settings event now).2 =
      c.pendingCalls := by
  unfold add
  dsimp only
  split
  · exact (pending_sendBatch settings none now _).trans (add_zero _)
  · exact add_zero _

theorem pending_enqueue (settings : Settings P) (event : DatacatEvent P) (now : Int)
    (c : Client P) :
    (c.enqueue settings event now).1.pendingCalls + ended (c.enqueue settings event now).2 =
      c.pendingCalls := by
  unfold enqueue
  split
  · split
    · exact add_zero _
    · rename_i oldest rest hqueue
      have hadd := pending_add settings event now
        { c with queue := rest, retryCount := c.retryCount.remove oldest.eventId }
      dsimp only
      rw [ended_cons]
      exact hadd
  · exact pending_add settings event now c

theorem pending_track (settings : Settings P) (eventName : String) (properties : P)
    (eventId timestampClient : String) (now : Int) (c : Client P) :
    (c.track settings eventName properties eventId timestampClient now).1.pendingCalls +
        ended (c.track settings eventName properties eventId timestampClient now).2 =
      c.pendingCalls ∧
    (c.track settings eventName properties eventId timestampClient now).1.calls = c.calls := by
  have hsame : c.pendingCalls + ended ([.reported []] : List (Output P)) = c.pendingCalls :=
    add_zero _
  unfold track
  split
  · exact ⟨add_zero _, rfl⟩
  · split
    · exact ⟨hsame, rfl⟩
    · split
      · exact ⟨hsame, rfl⟩
      · dsimp only
        split
        · refine ⟨?_, rfl⟩
          simp [pendingCalls, sendingCalls, Waiting.calls, Output.endedCalls]
        · rw [ended_cons]
          refine ⟨pending_enqueue settings _ now c, ?_⟩
          exact (entered settings _ now c).sameCalls.calls

/-- The end of a send is the end of the call that waits for it. -/
theorem pending_resumed {send : Sending P} {answer : Answer}
    (h : SendResumed settings c send answer out) (hsending : c.sending = some send) :
    out.1.pendingCalls + ended out.2 = c.pendingCalls := by
  have hsent (cache : TokenCache) (point : Point) :
      { c with tokenCache := cache, sending := some { send with point := point } }.pendingCalls =
        c.pendingCalls := by
    simp [pendingCalls, sendingCalls, hsending]
  have hcaller : c.pendingCalls =
      c.waiting.flatMap Waiting.calls + c.delayedDisposals + send.caller.toList := by
    simp only [pendingCalls, sendingCalls, hsending]
  -- The calls that wait elsewhere stay.
  have hfinished (c' : Client P) (hcalls : SameCalls c c') (hidle : c'.sending = none) :
      c'.pendingCalls + send.caller.toList = c.pendingCalls := by
    rw [hcaller]
    unfold pendingCalls sendingCalls
    rw [hcalls.waiting, hcalls.delayedDisposals, hidle]
    exact congrArg (· + (send.caller.toList : Multiset Nat)) (add_zero _)
  have hfailed (toDrop : List (DatacatEvent P)) :
      ended ((if toDrop.isEmpty then [] else [.reported toDrop]) ++ completion send.caller) =
        send.caller.toList := by
    split <;> simp [Output.endedCalls]
  have hcalls := h.sameCalls
  cases h with
  | posted token cache hpoint => rw [hsent]; exact add_zero _
  | reposted token cache hpoint => rw [hsent]; exact add_zero _
  | unsent cache hpoint h =>
    obtain ⟨queue, counts, delayedSends, toDrop, -, hout⟩ :=
      handleRetryableFailure_frame settings send none { c with tokenCache := cache }
    rw [hout] at hcalls ⊢
    rw [hfailed]
    exact hfinished _ hcalls rfl
  | unavailable delay hpoint h =>
    obtain ⟨queue, counts, delayedSends, toDrop, -, hout⟩ :=
      handleRetryableFailure_frame settings send delay c
    rw [hout] at hcalls ⊢
    rw [hfailed]
    exact hfinished _ hcalls rfl
  | succeeded hpoint hstatus =>
    have hended : ended (c.deliver send).2 = send.caller.toList := by
      simp [deliver, finish, Output.endedCalls]
    rw [hended]
    exact hfinished _ hcalls rfl
  | unauthorized hpoint => rw [hsent]; exact add_zero _
  | refused hpoint hstatus =>
    have hended : ended (((c.removeFromQueue send.batch).forget send.batch).finish send
        [.reported send.batch]).2 = send.caller.toList := by
      simp [finish, Output.endedCalls]
    rw [hended]
    exact hfinished _ hcalls rfl
  | abandoned hpoint hstatus =>
    have hended : ended ((c.removeFromQueue send.batch).finish send
        [.reported send.batch]).2 = send.caller.toList := by
      simp [finish, Output.endedCalls]
    rw [hended]
    exact hfinished _ hcalls rfl
  | renewed cache kept hpoint => rw [hsent]; exact add_zero _
  | escaped hpoint =>
    rw [ended_failed]
    exact hfinished _ hcalls rfl

theorem pending_sessionGoesOn {now : Int} (h : c.step settings (.sessionGoesOn now) = some out) :
    out.1.pendingCalls + ended out.2 = c.pendingCalls ∧ out.1.calls = c.calls := by
  obtain ⟨first, rest, hwaiting, hwent⟩ := step_sessionGoesOn h
  -- What goes on is no longer among the calls that wait.
  have hfirst : c.pendingCalls = { c with waiting := rest }.pendingCalls + first.calls := by
    simp only [pendingCalls, sendingCalls, hwaiting, List.flatMap_cons, ← Multiset.coe_add]
    abel
  rw [hfirst]
  cases hwent with
  | entered hsession hopen =>
    refine ⟨?_, (entered settings _ now _).sameCalls.calls⟩
    exact (pending_enqueue settings _ now _).trans (add_zero _).symm
  | lost hloses => exact ⟨rfl, rfl⟩
  | @flushed call =>
    refine ⟨pending_flushInternal settings call now _, ?_⟩
    exact (mayStart_flushInternal settings call now _).1.sameCalls.calls
  | delayed =>
    refine ⟨?_, rfl⟩
    simp only [pendingCalls, sendingCalls, Waiting.calls, ended_nil, ← Multiset.coe_add]
    abel
  | failed hcall hsession =>
    rw [ended_cons, ended_nil, add_zero]
    obtain rfl | rfl := hcall
    · exact ⟨rfl, rfl⟩
    · exact ⟨rfl, rfl⟩

/-- One more call waits for the session. -/
theorem pendingCalls_append {w : Waiting P} (hwaiting : c'.waiting = c.waiting ++ [w])
    (hdelayed : c'.delayedDisposals = c.delayedDisposals) (hsending : c'.sending = c.sending) :
    c'.pendingCalls = c.pendingCalls + w.calls := by
  simp only [pendingCalls, sendingCalls, hwaiting, hdelayed, hsending, List.flatMap_append,
    List.flatMap_cons, List.flatMap_nil, List.append_nil, ← Multiset.coe_add]
  abel

/-- A step lets calls end, and a call of `flush` or `dispose` is one more. -/
theorem step_pending {input : Input P} (h : c.step settings input = some out) :
    out.1.pendingCalls + ended out.2 + Multiset.range c.calls =
      c.pendingCalls + Multiset.range out.1.calls := by
  have hkept (hpending : out.1.pendingCalls + ended out.2 = c.pendingCalls ∧
      out.1.calls = c.calls) :
      out.1.pendingCalls + ended out.2 + Multiset.range c.calls =
        c.pendingCalls + Multiset.range out.1.calls := by
    rw [hpending.1, hpending.2]
  -- A call of `flush` or `dispose` waits for the session, or has ended at once.
  have hcalled (hpending : out.1.pendingCalls + ended out.2 =
        c.pendingCalls + ([c.calls] : List Nat)) (hcalls : out.1.calls = c.calls + 1) :
      out.1.pendingCalls + ended out.2 + Multiset.range c.calls =
        c.pendingCalls + Multiset.range out.1.calls := by
    rw [hpending, hcalls, Multiset.range_succ, ← Multiset.singleton_add, Multiset.coe_singleton,
      add_assoc]
  cases input with
  | identify actorId tenantId =>
    obtain rfl := Option.some.inj h
    exact hkept ⟨add_zero _, rfl⟩
  | track eventName properties eventId timestampClient now =>
    obtain rfl := Option.some.inj h
    exact hkept (pending_track settings eventName properties eventId timestampClient now c)
  | flush =>
    obtain rfl := Option.some.inj h
    apply hcalled
    · unfold flush
      split
      · rw [ended_cons, ended_nil, add_zero]
        rfl
      · exact (add_zero _).trans (pendingCalls_append (w := .flush c.calls) rfl rfl rfl)
    · unfold flush
      split <;> rfl
  | dispose =>
    obtain rfl := Option.some.inj h
    apply hcalled
    · unfold dispose
      split
      · rw [ended_cons, ended_nil, add_zero]
        rfl
      · exact (add_zero _).trans (pendingCalls_append (w := .dispose c.calls) rfl rfl rfl)
    · unfold dispose
      split <;> rfl
  | sessionRead stored fresh =>
    obtain ⟨session, rfl⟩ := step_sessionRead h
    exact hkept ⟨add_zero _, rfl⟩
  | sessionWritten =>
    obtain ⟨session, rfl⟩ := step_sessionWritten h
    exact hkept ⟨add_zero _, rfl⟩
  | sessionFails =>
    obtain ⟨session, rfl⟩ := step_sessionFails h
    exact hkept ⟨add_zero _, rfl⟩
  | sessionGoesOn now => exact hkept (pending_sessionGoesOn h)
  | disposalGoesOn now =>
    obtain ⟨call, rest, hdisposals, rfl⟩ := step_disposalGoesOn h
    refine hkept ⟨?_, (mayStart_flushInternal settings call now _).1.sameCalls.calls⟩
    -- The disposal that waited for its timer is the call that flushes.
    rw [pending_flushInternal]
    simp only [pendingCalls, sendingCalls, hdisposals]
    rw [← Multiset.cons_coe call rest, ← Multiset.singleton_add, Multiset.coe_singleton]
    abel
  | tick now =>
    obtain rfl | rfl := step_tick h
    · exact hkept ⟨add_zero _, rfl⟩
    · refine hkept ⟨(pending_sendBatch settings none now c).trans (add_zero _), ?_⟩
      exact (mayStart_sendBatch settings none now c).1.sameCalls.calls
  | retryAfter now =>
    obtain ⟨rest, rfl | rfl⟩ := step_retryAfter h
    · exact hkept ⟨add_zero _, rfl⟩
    · refine hkept ⟨(pending_sendBatch settings none now _).trans (add_zero _), ?_⟩
      exact (mayStart_sendBatch settings none now _).1.sameCalls.calls
  | resume answer now =>
    obtain ⟨send, hsending, hsend⟩ := step_resume h
    exact hkept ⟨pending_resumed hsend hsending, hsend.sameCalls.calls⟩

end Client

/-- **Every future completes at most once.** In every run the calls of `flush` and `dispose` that
were made are those that are pending and those that have ended. -/
theorem futures_conserved {settings : Settings P} {actorId tenantId sessionId : Option String}
    {labels : List (Label P)} {c : Client P}
    (h : Run (Step settings) (.new actorId tenantId sessionId) labels c) :
    c.pendingCalls + ended (outputsOf labels) = Multiset.range c.calls := by
  induction h with
  | nil => rfl
  | @snoc labels c c' x hrun hstep ih =>
    have hpending := Client.step_pending hstep
    rw [outputsOf_snoc, ended_append]
    apply add_right_cancel (b := Multiset.range c.calls)
    calc c'.pendingCalls + (ended (outputsOf labels) + ended x.2) + Multiset.range c.calls
        = (c'.pendingCalls + ended x.2 + Multiset.range c.calls) + ended (outputsOf labels) := by
          abel
      _ = (c.pendingCalls + ended (outputsOf labels)) + Multiset.range c'.calls := by
          rw [hpending]
          abel
      _ = Multiset.range c'.calls + Multiset.range c.calls := by
          rw [ih]
          abel

/-- A future that has completed is pending no more. -/
theorem not_pending {settings : Settings P} {actorId tenantId sessionId : Option String}
    {labels : List (Label P)} {c : Client P}
    (h : Run (Step settings) (.new actorId tenantId sessionId) labels c) {call : Nat}
    (hended : call ∈ ended (outputsOf labels)) : call ∉ c.pendingCalls := by
  intro hpending
  have hnodup : (c.pendingCalls + ended (outputsOf labels)).Nodup := by
    rw [futures_conserved h]
    exact Multiset.nodup_range _
  exact Multiset.disjoint_left.mp (Multiset.nodup_add.mp hnodup).2.2 hpending hended

end Datacat.Sdk.Flutter
