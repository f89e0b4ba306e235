import Datacat.Sdk.DueRetries
import Datacat.Sdk.Retries
import Datacat.Sdk.Shutdown

/-!
# The Spacing of the Retries

A batch that failed rests in the retry schedule, where nothing but a look at the clock takes it out
again. The instant that is written there is the one that the failure asks for, with three
exceptions: the events of a batch wait together, for as long as the one that was tried least; the
header of a 429 is read after a first request only; and the instant is a rounded sum.

## Main results

- `Client.Rests.step`: an event rests until the clock has reached the end of its delay.
- `Client.rests_of_fails`: a batch that failed rests.
- `Retry.spaced`: it is not sent before its delay has passed.
-/

namespace Datacat.Sdk

open Basics
open F64 (ofInt)

variable {P : Type}

/-! ## Clocks and delays -/

/-- The reading of the clock in the step. -/
def Input.clock : Input P → Option Int
  | .track _ _ _ now => some now
  | .flush now => some now
  | .tick now => some now
  | .pageHidden now => some now
  | .shutdown now => some now
  | .resume _ _ _ now => some now
  | _ => none

/-- The readings of the clock during a run. -/
def readings (labels : List (Label P)) : List Int := labels.filterMap fun x => x.1.clock

/-- How many milliseconds a failed answer asks for before the item is sent again. -/
def Answer.delay (item : QueuedEvent P) : Answer → Option ℚ
  | .rejection => some (backoffMs item.retryCount)
  | .response status retryAfter =>
    if 500 ≤ status ∧ status ≤ 599 then some (backoffMs item.retryCount)
    else if status = 429 then
      retryAfter.bind fun seconds =>
        if seconds.isFinite then some (1000 * seconds.toRat) else none
    else none
  | .goOn => none

/-- The batch waits for so long: the instant that is computed from the header has no reading of the
clock before the end of the delay, or no event that is tried again has a shorter backoff. -/
def WaitsFor (settings : Settings P) (call : Task P) (answer : Answer) (now : Int) (delay : ℚ) :
    Prop :=
  match call.wait answer with
  | some wait =>
    ∀ t, IsTime t → now ≤ t → (plus (ofInt now) wait).le (ofInt t) = true → now + delay ≤ t
  | none => ∀ i ∈ call.failed answer, i.retryCount + 1 < settings.maxRetries →
      delay ≤ backoffMs i.retryCount

/-! ## Rest -/

/-- What failed was in the call. -/
theorem Task.failed_sublist (call : Task P) (answer : Answer) :
    (eventsOf (call.failed answer)).Sublist call.events := by
  have hnone : (eventsOf ([] : List (QueuedEvent P))).Sublist call.events := List.nil_sublist _
  cases call with
  | beaconToken items promise => exact hnone
  | beaconFetch items token => exact hnone
  | flush scheduled point =>
    cases point with
    | fetch items =>
      cases answer with
      | goOn => exact hnone
      | rejection => exact List.Sublist.refl _
      | response status retryAfter =>
        dsimp only [Task.failed, Point.failed]
        split
        · exact hnone
        · exact List.Sublist.refl _
    | refetch items =>
      cases answer with
      | goOn => exact hnone
      | rejection => exact List.Sublist.refl _
      | response status retryAfter =>
        dsimp only [Task.failed, Point.failed]
        split
        · exact hnone
        · exact List.Sublist.refl _
    | _ => exact hnone

/-- The event is nowhere but in the retry schedule, and not due at the early readings. -/
structure Client.Rests (id : String) (early : Int → Prop) (c : Client P) : Prop where
  queue : id ∉ idsOf (eventsOf c.queue)
  tasks : ∀ task ∈ c.tasks, id ∉ idsOf task.events
  schedule : ∀ item ∈ c.retrySchedule, id ∈ idsOf item.events →
    ∀ t, early t → ¬item.notBefore.le (ofInt t) = true

namespace Client.Rests

variable {settings : Settings P} {id : String} {early : Int → Prop} {c c' : Client P}
  {items : List (QueuedEvent P)} {now : Int} {scheduled : Bool} {out : Effect P}

theorem suspend {task : Task P} (h : c.Rests id early) (htask : id ∉ idsOf task.events) :
    (c.suspend task).Rests id early := by
  refine ⟨h.queue, fun other hother => ?_, h.schedule⟩
  rcases List.mem_append.mp hother with hother | hother
  · exact h.tasks other hother
  · rwa [List.mem_singleton.mp hother]

theorem eraseIdx (h : c.Rests id early) (i : Nat) :
    { c with tasks := c.tasks.eraseIdx i }.Rests id early :=
  ⟨h.queue, fun task htask => h.tasks task (List.mem_of_mem_eraseIdx htask), h.schedule⟩

theorem foldl_requeue {due : List (RetryItem P)} {queue : List (QueuedEvent P)}
    (hqueue : id ∉ idsOf (eventsOf queue)) (hdue : ∀ item ∈ due, id ∉ idsOf item.events) :
    id ∉ idsOf (eventsOf (due.foldl (fun queue item => item.items ++ queue) queue)) := by
  induction due generalizing queue with
  | nil => exact hqueue
  | cons item due ih =>
    obtain ⟨hitem, hdue⟩ := List.forall_mem_cons.mp hdue
    refine ih ?_ hdue
    rw [idsOf, eventsOf_append, List.map_append, List.mem_append]
    rintro (hmem | hmem)
    · exact hitem hmem
    · exact hqueue hmem

/-- What is due early is something else. -/
theorem drainDueRetries (h : c.Rests id early) (hearly : early now) :
    (c.drainDueRetries now).Rests id early where
  queue := by
    refine foldl_requeue h.queue fun item hitem hid => ?_
    obtain ⟨hmem, hdue⟩ := List.mem_filter.mp hitem
    exact h.schedule item hmem hid now hearly hdue
  tasks := h.tasks
  schedule := fun item hitem => h.schedule item (List.mem_filter.mp hitem).1

/-- What is left of the queue. -/
theorem shrink (h : c.Rests id early) {queue : List (QueuedEvent P)} (hsub : queue ⊆ c.queue)
    (tokens : TokenManager) : { c with queue := queue, tokens := tokens }.Rests id early :=
  ⟨fun hmem => h.queue (List.map_subset _ (List.map_subset _ hsub) hmem), h.tasks, h.schedule⟩

theorem flushLoop (h : c.Rests id early) :
    (c.flushLoop settings scheduled now).Rests id early := by
  unfold Client.flushLoop
  split
  · exact h.suspend List.not_mem_nil
  · dsimp only
    generalize dequeueCount settings.batchSize c.queue.length = count
    have hrest := h.shrink (List.drop_subset count c.queue)
    have hbatch := (h.shrink (List.take_subset count c.queue) c.tokens).queue
    split
    · exact (hrest c.tokens).suspend List.not_mem_nil
    · exact (hrest _).suspend hbatch

theorem doFlush (h : c.Rests id early) (hearly : early now) :
    (c.doFlush settings scheduled now).Rests id early :=
  (h.drainDueRetries hearly).flushLoop

theorem scheduleFlush (h : c.Rests id early) (hearly : early now) :
    (c.scheduleFlush settings now).Rests id early := by
  unfold Client.scheduleFlush
  split
  · exact h
  · have hflushing : { c with flushing := true }.Rests id early :=
      ⟨h.queue, h.tasks, h.schedule⟩
    exact hflushing.doFlush hearly

theorem beaconFlush (h : c.Rests id early) (hearly : early now) :
    (c.beaconFlush now).Rests id early := by
  have hdrained := h.drainDueRetries hearly
  unfold Client.beaconFlush
  dsimp only
  split
  · exact hdrained
  · exact (hdrained.shrink (List.nil_subset _) _).suspend hdrained.queue

theorem track {eventName eventId : String} {properties : P} (h : c.Rests id early)
    (hearly : early now)
    (hfresh : id ∉
      idsOf ((c.track settings eventName properties eventId now).2.flatMap Output.entered)) :
    (c.track settings eventName properties eventId now).1.Rests id early := by
  rcases track_cases settings eventName properties eventId now c with ⟨-, htrack⟩ |
    ⟨event, queue, dropped, hactor, hid, henqueue, htrack⟩
  · rw [htrack]
    exact h
  · rw [htrack] at hfresh
    have hevent : event.eventId ≠ id := by
      rintro rfl
      apply hfresh
      dsimp only
      split <;> exact List.mem_singleton_self _
    have hqueue : id ∉ idsOf (eventsOf queue) := by
      obtain ⟨count, hqueue⟩ : ∃ count, queue = c.queue.drop count ++ [⟨event, 0⟩] :=
        ⟨_, (congrArg Prod.fst henqueue).symm⟩
      rw [hqueue, idsOf, eventsOf_append, List.map_append, List.mem_append]
      rintro (hmem | hmem)
      · exact (h.shrink (List.drop_subset count c.queue) c.tokens).queue hmem
      · exact hevent (List.mem_singleton.mp hmem).symm
    have hentered : { c with queue := queue }.Rests id early := ⟨hqueue, h.tasks, h.schedule⟩
    rw [htrack]
    dsimp only
    split
    · exact hentered.scheduleFlush hearly
    · exact hentered

/-- Another batch that failed. -/
theorem scheduleRetry {wait : Option F64} (h : c.Rests id early)
    (hitems : id ∉ idsOf (eventsOf items)) :
    (c.scheduleRetry settings scheduled items wait now).1.Rests id early := by
  have hnext : (c.suspend (.flush scheduled .next)).Rests id early :=
    h.suspend List.not_mem_nil
  unfold Client.scheduleRetry
  dsimp only
  split
  · exact hnext
  · refine ⟨hnext.queue, hnext.tasks, fun item hitem hid => ?_⟩
    rcases List.mem_append.mp hitem with hitem | hitem
    · exact h.schedule item hitem hid
    · rw [List.mem_singleton.mp hitem, RetryItem.events, eventsOf, List.map_map] at hid
      exact absurd (List.map_subset _ (List.map_subset _ (List.filter_subset_self _)) hid) hitems

theorem goesOn {events : List (DatacatEvent P)} (h : c.Rests id early)
    (hevents : id ∉ idsOf events) (hgoes : c.GoesOn events c') : c'.Rests id early := by
  obtain ⟨tokens, flushing, tasks, htasks, rfl⟩ := hgoes
  refine ⟨h.queue, fun task htask => ?_, h.schedule⟩
  rcases List.mem_append.mp htask with htask | htask
  · exact h.tasks task htask
  · rcases htasks task htask with heq | heq
    · rwa [heq]
    · rw [heq]
      exact List.not_mem_nil

theorem resume {task : Nat} {answer : Answer} {beacon : Option Bool} (h : c.Rests id early)
    (hstep : c.resume settings task answer beacon now = some out) : out.1.Rests id early := by
  obtain ⟨call, hcall, hcases⟩ := Client.resume_cases hstep
  have hevents := h.tasks call (List.mem_of_getElem? hcall)
  have hrest := h.eraseIdx task
  rcases hcases with ⟨scheduled, hout⟩ | ⟨-, ⟨scheduled, -, hout⟩ | hgoes⟩
  · rw [hout]
    refine hrest.scheduleRetry fun hmem => hevents ?_
    exact List.map_subset _ (call.failed_sublist answer).subset hmem
  · rw [hout]
    exact hrest.flushLoop
  · exact hrest.goesOn hevents hgoes

/-- The event rests on as long as the clock reads early. -/
theorem step {x : Label P} (h : c.Rests id early) (hstep : Step settings c x c')
    (hearly : ∀ t ∈ x.1.clock, early t)
    (hfresh : id ∉ enteredIds [x]) : c'.Rests id early := by
  obtain ⟨input, outputs⟩ := x
  unfold Step at hstep
  dsimp only at hstep
  generalize hout : (c', outputs) = out at hstep
  cases Client.stepped hstep with
  | identify actorId tenantId =>
    obtain ⟨rfl, -⟩ := Prod.mk.inj hout
    exact ⟨h.queue, h.tasks, h.schedule⟩
  | track eventName properties eventId now =>
    obtain ⟨rfl, rfl⟩ := Prod.mk.inj hout.symm
    refine h.track (hearly now rfl) ?_
    rwa [enteredIds, outputsOf, List.flatMap_singleton] at hfresh
  | flush now =>
    obtain ⟨rfl, -⟩ := Prod.mk.inj hout
    split
    · exact h
    · exact h.doFlush (hearly now rfl)
  | tick now htimer =>
    obtain ⟨rfl, -⟩ := Prod.mk.inj hout
    exact h.scheduleFlush (hearly now rfl)
  | pageHidden now hlistening =>
    obtain ⟨rfl, -⟩ := Prod.mk.inj hout
    exact h.beaconFlush (hearly now rfl)
  | shutdown now =>
    obtain ⟨rfl, -⟩ := Prod.mk.inj hout
    have hstopped : { c with timer := false, listening := false }.Rests id early :=
      ⟨h.queue, h.tasks, h.schedule⟩
    exact hstopped.doFlush (hearly now rfl)
  | tokenAnswer htokens =>
    obtain ⟨rfl, -⟩ := Prod.mk.inj hout
    exact ⟨h.queue, h.tasks, h.schedule⟩
  | resume hresume =>
    obtain rfl := hout
    exact h.resume hresume

/-- What rests is not sent. -/
theorem attempts_eq_zero {x : Label P} (h : c.Rests id early) (hstep : Step settings c x c') :
    attempts id x.2 = 0 := by
  by_contra hne
  obtain ⟨request, hrequest, hid⟩ := exists_sent_of_attempts hne
  rcases Client.outputs_of_step hstep with hnil | ⟨eventName, properties, eventId, now, -, htrack⟩ |
    ⟨i, t, ht, habout⟩
  · rw [hnil] at hrequest
    cases hrequest
  · rw [htrack] at hrequest
    rcases Client.mem_track hrequest with ⟨event, heq, -⟩ | ⟨events, heq⟩
    · cases heq
    · cases heq
  · have hevents : request.events = t.events := habout _ hrequest
    rw [hevents] at hid
    exact h.tasks t (List.mem_of_getElem? ht) hid

end Client.Rests

/-! ## The delay of a batch that failed -/

section Fails

variable {settings : Settings P} {c c' : Client P} {now : Int}

/-- A backoff is over no earlier than it says. -/
theorem le_of_backoff {t : Int} {attempt : Nat} (hnow : IsTime now) (ht : IsTime t)
    (hdue : (plus (ofInt now) (ofInt (backoffMs attempt))).le (ofInt t) = true) :
    now + backoffMs attempt ≤ t := by
  have hbackoff := backoffMs_le attempt
  generalize backoffMs attempt = b at hdue hbackoff ⊢
  obtain ⟨n, rfl⟩ := Int.eq_ofNat_of_zero_le hnow.1
  obtain ⟨m, rfl⟩ := Int.eq_ofNat_of_zero_le ht.1
  have hsmall : (b : Int).natAbs ≤ 2 ^ 53 := by omega
  have hsum : plus (ofInt n) (ofInt b) = F64.ofRat ((n + b : ℕ) : ℚ) := by
    rw [plus, if_pos (isFinite_ofInt hsmall), F64.add, F64.toRat_ofInt (natAbs_le_of_isTime hnow),
      F64.toRat_ofInt hsmall]
    push_cast
    rfl
  rw [hsum, show ofInt (m : Int) = F64.ofRat ((m : ℕ) : ℚ) by rw [ofInt, Int.cast_natCast],
    F64.ofRat_le_ofRat_iff (Nat.cast_nonneg _) (Nat.cast_nonneg _)] at hdue
  by_contra hlater
  have hlt : m < n + b := by omega
  have hbound : m < 2 ^ 53 := by
    have hlast := ht.2
    omega
  exact absurd (F64.roundMagnitude_lt hlt hbound) (not_lt.mpr hdue)

/-- The readings of the clock before the delay has passed. -/
def Early (now : Int) (delay : ℚ) (t : Int) : Prop := IsTime t ∧ now ≤ t ∧ (t : ℚ) < now + delay

/-- The instant of the batch that failed is not early for an event that waits so long. -/
theorem not_early {call : Task P} {answer : Answer} {delay : ℚ} {failed : QueuedEvent P} {t : Int}
    (hnow : IsTime now) (hfailed : failed ∈ call.failed answer)
    (hopen : failed.retryCount + 1 < settings.maxRetries)
    (hwaits : WaitsFor settings call answer now delay)
    (hdue : (plus (ofInt now)
      ((call.wait answer).getD (ofInt (backoffMs failed.retryCount)))).le (ofInt t) = true) :
    ¬Early now delay t := by
  rintro ⟨htime, hafter, hearly⟩
  unfold WaitsFor at hwaits
  split at hwaits
  · rename_i wait hwait
    rw [hwait] at hdue
    exact absurd (hwaits t htime hafter hdue) (not_le.mpr hearly)
  · rename_i hwait
    rw [hwait] at hdue
    have hpassed : ((now + backoffMs failed.retryCount : Int) : ℚ) ≤ t := by
      exact_mod_cast le_of_backoff hnow htime hdue
    have hshort := hwaits failed hfailed hopen
    push_cast at hpassed
    linarith

/-- Whole milliseconds are waited for. -/
theorem waitsFor_of_whole {call : Task P} {answer : Answer} {seconds : F64} {n : ℕ}
    (hnow : IsTime now) (hwait : call.wait answer = some (thousandTimes seconds))
    (hfinite : seconds.isFinite = true) (hwhole : seconds.toRat * 1000 = n) :
    WaitsFor settings call answer now n := by
  unfold WaitsFor
  rw [hwait]
  intro t ht hafter hdue
  by_contra hlate
  obtain ⟨k, hk⟩ := Int.le.dest hafter
  obtain ⟨m, rfl⟩ := Int.eq_ofNat_of_zero_le ht.1
  have hlate : m < now + n := by exact_mod_cast not_le.mp hlate
  have hkn : k + 1 ≤ n := by omega
  have hmax : m + 1 ≤ 2 ^ 53 ∧ k + 1 ≤ 2 ^ 53 := by
    have hfirst := hnow.1
    have hlast := ht.2
    omega
  -- the instant is after the reading
  obtain ⟨q, hq, hinstant⟩ : ∃ q : ℚ, ((m + 1 : ℕ) : ℚ) ≤ q ∧
      plus (ofInt now) (thousandTimes seconds) = F64.ofRat q := by
    have hthousand : (ofInt 1000).toRat = 1000 := by
      exact_mod_cast F64.toRat_ofInt (n := 1000) (by decide)
    have htimes : thousandTimes seconds = F64.ofRat (n : ℚ) := by
      rw [thousandTimes, if_pos hfinite, F64.mul, hthousand, hwhole]
    unfold plus
    split
    · refine ⟨now + (thousandTimes seconds).toRat, ?_, ?_⟩
      · have hwhole : ((k + 1 : ℕ) : ℚ) ≤ (thousandTimes seconds).toRat := by
          rw [htimes]
          refine F64.le_toRat_ofRat hmax.2 ?_
          exact_mod_cast hkn
        have hsum : ((m + 1 : ℕ) : ℚ) = now + (k + 1 : ℕ) := by exact_mod_cast (by omega)
        linarith
      · rw [F64.add, F64.toRat_ofInt (natAbs_le_of_isTime hnow)]
    · rename_i hinfinite
      -- more than any time
      refine ⟨n, ?_, htimes⟩
      rw [htimes, F64.isFinite_ofRat_iff, abs_of_nonneg (Nat.cast_nonneg n), not_lt] at hinfinite
      have hbelow := F64.largest_add_lt_overflow
      have hlargest : 0 ≤ F64.largest :=
        (abs_nonneg _).trans (F64.abs_toRat_le (x := ofInt 0) (by decide))
      have hcast : ((m + 1 : ℕ) : ℚ) ≤ 2 ^ 53 := by exact_mod_cast hmax.1
      linarith
  rw [hinstant, show ofInt (m : Int) = F64.ofRat ((m : ℕ) : ℚ) by rw [ofInt, Int.cast_natCast],
    F64.ofRat_le_ofRat_iff ((Nat.cast_nonneg _).trans hq) (Nat.cast_nonneg _)] at hdue
  have hstep := F64.roundMagnitude_lt (Nat.lt_succ_self m) (by omega)
  exact absurd (F64.roundMagnitude_mono hq) (not_le.mpr (hdue.trans_lt hstep))

/-- The batch that a step schedules rests for as long as the event asks for. -/
theorem rests_scheduleRetry {call : Task P} {answer : Answer} {item : QueuedEvent P} {delay : ℚ}
    {scheduled : Bool} (hnow : IsTime now)
    (hrests : c.Rests item.event.eventId (Early now delay))
    (hitem : item ∈ call.failed answer) (hids : (idsOf (eventsOf (call.failed answer))).Nodup)
    (hwaits : item.retryCount + 1 < settings.maxRetries →
      WaitsFor settings call answer now delay) :
    (c.scheduleRetry settings scheduled (call.failed answer) (call.wait answer) now).1.Rests
      item.event.eventId (Early now delay) := by
  have hnext : (c.suspend (.flush scheduled .next)).Rests item.event.eventId (Early now delay) :=
    hrests.suspend List.not_mem_nil
  unfold Client.scheduleRetry
  dsimp only
  split
  · exact hnext
  · rename_i minRetry hmin
    refine ⟨hnext.queue, hnext.tasks, fun entry hentry hid t hearly hdue => ?_⟩
    rcases List.mem_append.mp hentry with hentry | hentry
    · exact hrests.schedule entry hentry hid t hearly hdue
    · obtain rfl := List.mem_singleton.mp hentry
      -- the event is tried again, so what it asks for counts
      have hopen : item.retryCount + 1 < settings.maxRetries := by
        simp only [RetryItem.events, idsOf, eventsOf, List.map_map, List.mem_map] at hid
        obtain ⟨other, hother, heq⟩ := hid
        obtain ⟨hother, hopen⟩ := List.mem_filter.mp hother
        simp only [idsOf, eventsOf, List.map_map] at hids
        obtain rfl : other = item := List.inj_on_of_nodup_map hids hother hitem heq
        simpa using hopen
      -- and the batch waits for the backoff of one that is tried again
      obtain ⟨next, hnext, rfl⟩ := List.mem_map.mp (List.min?_mem hmin)
      obtain ⟨first, hfirst, rfl⟩ := List.mem_map.mp hnext
      obtain ⟨hfirst, hagain⟩ := List.mem_filter.mp hfirst
      refine not_early hnow hfirst ?_ (hwaits hopen) hdue hearly
      simpa using hagain

/-- What is nowhere rests. -/
theorem rests_of_not_held {id : String} (h : id ∉ c.held.map DatacatEvent.eventId)
    (early : Int → Prop) : c.Rests id early := by
  have hplace {events : List (DatacatEvent P)} (hsub : ∀ e ∈ events, e ∈ c.held) :
      id ∉ idsOf events := by
    intro hid
    obtain ⟨event, hevent, rfl⟩ := List.mem_map.mp hid
    exact h (Multiset.mem_map_of_mem _ (hsub event hevent))
  refine ⟨hplace fun e he => ?_, fun task htask => hplace fun e he => ?_,
    fun item hitem hid => absurd hid (hplace fun e he => ?_)⟩
  · exact Multiset.mem_add.mpr (.inl (Multiset.mem_add.mpr (.inl he)))
  · exact Multiset.mem_add.mpr (.inl (Multiset.mem_add.mpr (.inr
      (List.mem_flatMap.mpr ⟨task, htask, he⟩))))
  · exact Multiset.mem_add.mpr (.inr (List.mem_flatMap.mpr ⟨item, hitem, he⟩))

/-- An event whose batch failed rests until the delay it asks for has passed. -/
theorem Client.rests_of_fails {task : Nat} {answer : Answer} {beacon : Option Bool}
    {call : Task P} {item : QueuedEvent P} {delay : ℚ} {out : Effect P}
    (hstep : c.resume settings task answer beacon now = some out) (hnow : IsTime now)
    (hids : (c.held.map DatacatEvent.eventId).Nodup) (hcall : c.tasks[task]? = some call)
    (hitem : item ∈ call.failed answer)
    (hwaits : item.retryCount + 1 < settings.maxRetries →
      WaitsFor settings call answer now delay) :
    out.1.Rests item.event.eventId (Early now delay) := by
  rw [held_eraseIdx hcall, Multiset.map_add] at hids
  obtain ⟨-, hcallIds, hdisjoint⟩ := Multiset.nodup_add.mp hids
  have hmem : item.event.eventId ∈ idsOf call.events :=
    List.mem_map_of_mem ((call.failed_sublist answer).subset (List.mem_map_of_mem hitem))
  have hrests := rests_of_not_held
    (fun hheld => Multiset.disjoint_left.mp hdisjoint hheld hmem) (Early now delay)
  obtain ⟨other, hother, hcases⟩ := resume_cases hstep
  obtain rfl : call = other := Option.some.inj (hcall.symm.trans hother)
  rcases hcases with ⟨scheduled, hout⟩ | ⟨hnone, -⟩
  · rw [hout]
    have hfailed : (idsOf (eventsOf (call.failed answer))).Sublist (idsOf call.events) :=
      (call.failed_sublist answer).map DatacatEvent.eventId
    exact rests_scheduleRetry hnow hrests hitem (hfailed.nodup hcallIds) hwaits
  · rw [hnone] at hitem
    cases hitem

end Fails

/-! ## Runs -/

section Runs

variable {settings : Settings P} {c d d' : Client P} {middle : List (Label P)} {y : Label P}

theorem enteredIds_append (first second : List (Label P)) :
    enteredIds (first ++ second) = enteredIds first ++ enteredIds second := by
  simp [enteredIds, outputsOf, idsOf]

/-- An event that rests is not sent as long as the clock reads early. -/
theorem attempts_early {id : String} {early : Int → Prop} (h : c.Rests id early)
    (hmiddle : Run (Step settings) c middle d) (hlater : Step settings d y d')
    (hearly : ∀ t ∈ readings middle, early t) (hfresh : id ∉ enteredIds middle) :
    attempts id y.2 = 0 := by
  suffices hrests : d.Rests id early from hrests.attempts_eq_zero hlater
  clear hlater
  induction hmiddle with
  | nil => exact h
  | @snoc labels c₁ c₂ z hrun hstep ih =>
    rw [enteredIds_append, List.mem_append, not_or] at hfresh
    rw [readings, List.filterMap_append] at hearly
    refine (ih (fun t ht => hearly t (List.mem_append_left _ ht)) hfresh.1).step hstep
      (fun t ht => hearly t (List.mem_append_right _ ?_)) hfresh.2
    rw [List.filterMap_cons, ht]
    exact List.mem_singleton_self t

end Runs

/-- A run in which a batch fails, and an event of it is sent again. -/
structure Retry (settings : Settings P) where
  actorId : Option String
  tenantId : Option String
  listening : Bool
  before : List (Label P)
  client : Client P
  reached : Run (Step settings) (.new actorId tenantId listening) before client
  /-- The step in which the batch fails. -/
  task : Nat
  answer : Answer
  beacon : Option Bool
  now : Int
  outputs : List (Output P)
  failed : Client P
  fails : Step settings client (.resume task answer beacon now, outputs) failed
  call : Task P
  suspended : client.tasks[task]? = some call
  item : QueuedEvent P
  held : item ∈ call.failed answer
  delay : ℚ
  asks : answer.delay item = some delay
  middle : List (Label P)
  last : Client P
  goesOn : Run (Step settings) failed middle last
  /-- The step that sends the event again. -/
  again : Label P
  next : Client P
  resends : Step settings last again next
  sends : attempts item.event.eventId again.2 ≠ 0
  time : Int
  clock : again.1.clock = some time
  distinct : (enteredIds (before ++ (.resume task answer beacon now, outputs) :: middle)).Nodup
  times : ∀ t ∈ now :: readings middle ++ [time], IsTime t
  ordered : (now :: readings middle ++ [time]).Pairwise (· ≤ ·)

/-- An event that is tried again waits for as long as it asks for. -/
def Retry.Waits {settings : Settings P} (r : Retry settings) : Prop :=
  r.item.retryCount + 1 < settings.maxRetries →
    WaitsFor settings r.call r.answer r.now r.delay

/-- The event is not sent before its delay has passed. -/
theorem Retry.spaced {settings : Settings P} (r : Retry settings) (h : r.Waits) :
    r.now + r.delay ≤ r.time := by
  obtain ⟨hnow, htimes⟩ := List.forall_mem_cons.mp r.times
  obtain ⟨hafter, hordered⟩ := List.pairwise_cons.mp r.ordered
  by_contra hlate
  -- every reading in between is early
  have hearly : ∀ t ∈ readings r.middle, Early r.now r.delay t := by
    intro t ht
    have hmem : t ∈ readings r.middle ++ [r.time] := List.mem_append_left _ ht
    have hle := (List.pairwise_append.mp hordered).2.2 t ht r.time (List.mem_singleton_self _)
    have hcast : (t : ℚ) ≤ r.time := by exact_mod_cast hle
    exact ⟨htimes t hmem, hafter t hmem, hcast.trans_lt (not_le.mp hlate)⟩
  have hdistinct := r.distinct
  rw [enteredIds_append, List.nodup_append] at hdistinct
  obtain ⟨hbefore, -, hdisjoint⟩ := hdistinct
  have hnodup := nodup_held r.reached rfl hbefore
  have hrests := Client.rests_of_fails r.fails hnow hnodup r.suspended r.held h
  refine r.sends (attempts_early hrests r.goesOn r.resends hearly fun hmem => ?_)
  -- the event had entered before its batch failed
  have hheld : r.item.event ∈ r.client.held := by
    rw [Client.held_eraseIdx r.suspended]
    exact Multiset.mem_add.mpr (.inr
      ((r.call.failed_sublist r.answer).subset (List.mem_map_of_mem r.held)))
  have hentered : r.item.event.eventId ∈ enteredIds r.before :=
    Multiset.mem_map_of_mem _ (Multiset.mem_of_le (held_le_entered r.reached rfl) hheld)
  refine hdisjoint _ hentered _ ?_ rfl
  rw [← List.singleton_append, enteredIds_append]
  exact List.mem_append_right _ hmem

/-! ## Retries that are replayed -/

instance (now : Int) : Decidable (IsTime now) := inferInstanceAs (Decidable (_ ∧ _))

/-- The inputs give a run with a batch that fails, and then with a request of its first event. -/
def Resends (settings : Settings P) (before : List (Input P)) (task : Nat) (answer : Answer)
    (now : Int) (middle : List (Input P)) (again : Input P) (delay : ℚ) (time : Int) : Bool :=
  (replay settings before (.new none none false)).any fun (client, labels) =>
    (client.step settings (.resume task answer none now)).any fun (failed, outputs) =>
      (replay settings middle failed).any fun (last, later) =>
        (last.step settings again).any fun (_, resent) =>
          client.tasks[task]?.any fun call =>
            (call.failed answer).head?.any fun item =>
              decide (answer.delay item = some delay ∧ attempts item.event.eventId resent ≠ 0 ∧
                again.clock = some time ∧
                (enteredIds (labels ++ (.resume task answer none now, outputs) :: later)).Nodup ∧
                (∀ t ∈ now :: readings later ++ [time], IsTime t) ∧
                (now :: readings later ++ [time]).Pairwise (· ≤ ·))

theorem exists_retry {settings : Settings P} {before middle : List (Input P)} {task : Nat}
    {answer : Answer} {now time : Int} {again : Input P} {delay : ℚ}
    (h : Resends settings before task answer now middle again delay time = true) :
    ∃ r : Retry settings, r.now = now ∧ r.delay = delay ∧ r.time = time ∧ r.answer = answer ∧
      ∃ labels, replay settings before (.new none none false) = some (r.client, labels) ∧
        r.client.tasks[task]? = some r.call := by
  obtain ⟨⟨client, labels⟩, hbefore, h⟩ := (Option.any_eq_true _ _).mp h
  obtain ⟨⟨failed, outputs⟩, hfails, h⟩ := (Option.any_eq_true _ _).mp h
  obtain ⟨⟨last, later⟩, hmiddle, h⟩ := (Option.any_eq_true _ _).mp h
  obtain ⟨⟨next, resent⟩, hagain, h⟩ := (Option.any_eq_true _ _).mp h
  obtain ⟨call, hcall, h⟩ := (Option.any_eq_true _ _).mp h
  obtain ⟨item, hitem, h⟩ := (Option.any_eq_true _ _).mp h
  obtain ⟨hasks, hsends, hclock, hdistinct, htimes, hordered⟩ := of_decide_eq_true h
  let r : Retry settings :=
    { actorId := none
      tenantId := none
      listening := false
      before := labels
      client := client
      reached := run_replay hbefore
      task := task
      answer := answer
      beacon := none
      now := now
      outputs := outputs
      failed := failed
      fails := hfails
      call := call
      suspended := hcall
      item := item
      held := List.mem_of_head? hitem
      delay := delay
      asks := hasks
      middle := later
      last := last
      goesOn := run_replay hmiddle
      again := (again, resent)
      next := next
      resends := hagain
      sends := hsends
      time := time
      clock := hclock
      distinct := hdistinct
      times := htimes
      ordered := hordered }
  exact ⟨r, rfl, rfl, rfl, rfl, labels, hbefore, hcall⟩

/-- What follows the failure of a flush: it ends, and the timer and a new token begin the next. -/
def nextFlush (now later : Int) : List (Input Unit) :=
  [.resume 0 .goOn none now, .resume 0 .goOn none now, .tick later, .tokenAnswer (some "u")]

/-- A server that asks for one second is left alone for five, until the timer comes. -/
example : Resends oneByOne (tracked (some "t")) 0 (.response 429 (some (ofInt 1))) 9
    (nextFlush 9 5009) (.resume 0 .goOn none 5009) 1000 5009 = true := by
  decide +kernel

end Datacat.Sdk
