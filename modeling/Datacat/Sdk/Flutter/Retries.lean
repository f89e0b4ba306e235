import Datacat.Sdk.Flutter.Outcomes
import Datacat.Sdk.Retries

/-!
# Retries of the Flutter Client

The counter of an event goes up with each failed send; when it would pass `maxRetries` the event is
dropped from the queue and reported. The other client stops one send earlier: what it compares with
`maxRetries` are the sends and not the retries.

## Main results

- `Client.Counted.step`: the counter of an event follows its attempts.
- `reported_iff_attempts`: a failed send reports the event when it was attempted `maxRetries + 1`
  times.
- `retry_parity_iff`: when the attempts of the two clients agree.
-/

namespace Datacat.Sdk.Flutter

open Basics

variable {P : Type}

/-! ## Attempts -/

def Output.attempts (id : String) : Output P → Nat
  | .sent _ events => if id ∈ idsOf events then 1 else 0
  | _ => 0

/-- How many requests had the event. -/
def attempts (id : String) (outputs : List (Output P)) : Nat :=
  (outputs.map (Output.attempts id)).sum

/-- A 5xx or a network error. -/
def Answer.isRetryable : Answer → Bool
  | .error => true
  | .response status _ => decide (500 ≤ status) && decide (status ≤ 599)
  | _ => false

/-- The event is sent, and the response awaited. -/
def Sending.Sends (id : String) (send : Sending P) : Prop :=
  send.point.awaitsResponse = true ∧ id ∈ idsOf send.batch

instance (id : String) (send : Sending P) : Decidable (send.Sends id) :=
  inferInstanceAs (Decidable (_ ∧ _))

/-- A send of the event ends. -/
def Answers (id : String) (c : Client P) : Input P → Prop
  | .resume _ _ => ∃ send ∈ c.sending, send.Sends id
  | _ => False

/-- The batch of the event is sent when the send goes on, and when it was sent the send fails. -/
def FailsFor (settings : Settings P) (id : String) (c : Client P) : Input P → Prop
  | .resume answer _ => ∀ send ∈ c.sending, id ∈ idsOf send.batch →
      if send.point.awaitsResponse = true then answer.isRetryable = true
      else answer ≠ .error ∧ ∀ e ∈ send.batch, settings.encodable e.properties = true
  | _ => True

section Outputs

variable {id : String}

@[simp] theorem attempts_nil (id : String) : attempts id ([] : List (Output P)) = 0 := rfl

@[simp] theorem attempts_cons (id : String) (o : Output P) (outputs : List (Output P)) :
    attempts id (o :: outputs) = o.attempts id + attempts id outputs := by
  simp [attempts]

@[simp] theorem attempts_append (id : String) (first second : List (Output P)) :
    attempts id (first ++ second) = attempts id first + attempts id second := by
  simp [attempts]

theorem attempts_of_quiet {outputs : List (Output P)} (h : ∀ o ∈ outputs, o.Quiet) :
    attempts id outputs = 0 := by
  apply List.sum_eq_zero
  intro n hn
  obtain ⟨o, ho, rfl⟩ := List.mem_map.mp hn
  cases o with
  | sent token events => exact absurd (h _ ho) not_false
  | _ => rfl

@[simp] theorem attempts_completion (caller : Option Nat) :
    attempts id (completion caller : List (Output P)) = 0 :=
  attempts_of_quiet (quiet_completion caller)

theorem attempts_failure (dropped : List (DatacatEvent P)) (caller : Option Nat) :
    attempts id ((if dropped.isEmpty then [] else [.reported dropped]) ++
      completion caller : List (Output P)) = 0 := by
  cases dropped with
  | nil => exact attempts_completion caller
  | cons e dropped => simp [Output.attempts]

end Outputs

/-! ## The counter and the attempts -/

/-- Whether a send of the event is under way. -/
def Client.pending (id : String) (c : Client P) : Nat :=
  match c.sending with
  | some send => if send.Sends id then 1 else 0
  | none => 0

theorem Client.pending_of_none {id : String} {c : Client P} (h : c.sending = none) :
    c.pending id = 0 := by
  rw [pending, h]

theorem Client.pending_of_some {id : String} {c : Client P} {send : Sending P}
    (h : c.sending = some send) : c.pending id = if send.Sends id then 1 else 0 := by
  rw [pending, h]

/-- The place of a send that has not been answered. -/
def Point.isFirst : Point → Bool
  | .token _ => true
  | .post => true
  | _ => false

/-- The event was attempted `n` times: so its counter says, with the send that is under way. -/
structure Client.Counted (maxRetries : Nat) (id : String) (n : Nat) (c : Client P) : Prop where
  attempts : (c.retryCount.get id).getD 0 + c.pending id = n
  allowed : (c.retryCount.get id).getD 0 ≤ maxRetries
  first : ∀ send ∈ c.sending, id ∈ idsOf send.batch → send.point.isFirst = true

/-- The failure reports what failed too often before. -/
theorem Client.mem_reported_failure {settings : Settings P} {id : String} {c : Client P}
    {send : Sending P} {delay : Option Int}
    (hnodup : (idsOf send.batch).Nodup) (hid : id ∈ idsOf send.batch) :
    id ∈ reported (c.handleRetryableFailure settings send delay).2 ↔
      settings.maxRetries ≤ (c.retryCount.get id).getD 0 := by
  obtain ⟨counts, delayedSends, hout, -⟩ :=
    @handleRetryableFailure_spec _ settings send delay hnodup c
  obtain ⟨-, -, hreported⟩ := outputs_failure
    (send.batch.filter (exhausted settings.maxRetries c.retryCount)) send.caller
  rw [hout, hreported, Multiset.mem_coe]
  constructor
  · intro hmem
    obtain ⟨e, he, rfl⟩ := List.mem_map.mp hmem
    exact of_decide_eq_true (List.mem_filter.mp he).2
  · intro hlast
    obtain ⟨e, he, rfl⟩ := List.mem_map.mp hid
    exact List.mem_map_of_mem (List.mem_filter.mpr ⟨he, decide_eq_true hlast⟩)

namespace Client.Counted

variable {settings : Settings P} {maxRetries : Nat} {id : String} {n : Nat} {c c' : Client P}
  {out : Effect P}

theorem congr (h : c.Counted maxRetries id n) (hagrees : Agrees c c') :
    c'.Counted maxRetries id n := by
  have hpending : c'.pending id = c.pending id := by rw [pending, pending, hagrees.sending]
  constructor
  · rw [hpending, hagrees.retryCount]
    exact h.attempts
  · rw [hagrees.retryCount]
    exact h.allowed
  · rw [hagrees.sending]
    exact h.first

/-- The event is not in the batch that is sent. -/
theorem of_absent (hcount : (c.retryCount.get id).getD 0 = n) (hallowed : n ≤ maxRetries)
    (habsent : ∀ send ∈ c.sending, id ∉ idsOf send.batch) : c.Counted maxRetries id n := by
  have hpending : c.pending id = 0 := by
    cases hsending : c.sending with
    | none => exact pending_of_none hsending
    | some send =>
      rw [pending_of_some hsending]
      exact if_neg fun hsends => habsent send hsending hsends.2
  refine ⟨?_, ?_, fun send hsending hid => absurd hid (habsent send hsending)⟩
  · rw [hpending]
    exact hcount
  · rw [hcount]
    exact hallowed

/-- A send that starts has sent nothing. -/
theorem mayStart (h : c.Counted maxRetries id n) (hstart : MayStart settings c c') :
    c'.Counted maxRetries id n := by
  cases hstart with
  | idle => exact h
  | started hsending kept caller =>
    have hattempts := h.attempts
    rw [pending_of_none hsending] at hattempts
    refine ⟨?_, h.allowed, ?_⟩
    · rw [pending_of_some rfl, if_neg fun hsends => Bool.false_ne_true hsends.1]
      exact hattempts
    · rintro send hsend -
      obtain rfl := Option.some.inj hsend
      rfl

/-- Of the counters, an event that enters only removes that of the event which is dropped. -/
theorem entered {event : DatacatEvent P} (h : c.Counted maxRetries id n)
    (hentered : Entered settings event c out) (hfresh : id ∉ reported out.2) :
    out.1.Counted maxRetries id n ∧ Flutter.attempts id out.2 = 0 := by
  have hstart {counts : BTreeMap String Nat} {queue : List (DatacatEvent P)} {c' : Client P}
      (hcounts : counts.get id = c.retryCount.get id)
      (hstart : MayStart settings { c with queue := queue, retryCount := counts } c') :
      c'.Counted maxRetries id n := by
    have hqueue : { c with queue := queue, retryCount := counts }.Counted maxRetries id n := by
      refine ⟨?_, ?_, h.first⟩
      · rw [hcounts]
        exact h.attempts
      · rw [hcounts]
        exact h.allowed
    exact hqueue.mayStart hstart
  cases hentered with
  | threw hfull hqueue => exact ⟨h, rfl⟩
  | @dropped oldest rest c' hfull hqueue hmay =>
    -- The event that is driven out is reported, so it is another one.
    have hne : id ≠ oldest.eventId := by
      intro heq
      apply hfresh
      simp [Output.reportedIds, idsOf, heq]
    refine ⟨hstart ?_ hmay, rfl⟩
    rw [BTreeMap.get_remove, if_neg hne]
  | added hmay => exact ⟨hstart rfl hmay, rfl⟩

/-! ## A send that goes on -/

/-- A failure counts once for every event of the batch that is not dropped. -/
theorem failure {send : Sending P} {delay : Option Int} (hnodup : (idsOf send.batch).Nodup)
    (hcount : (c.retryCount.get id).getD 0 + (if id ∈ idsOf send.batch then 1 else 0) = n)
    (hallowed : (c.retryCount.get id).getD 0 ≤ settings.maxRetries)
    (hfresh : id ∉ reported (c.handleRetryableFailure settings send delay).2) :
    (c.handleRetryableFailure settings send delay).1.Counted settings.maxRetries id n ∧
      Flutter.attempts id (c.handleRetryableFailure settings send delay).2 = 0 := by
  obtain ⟨counts, delayedSends, hout, hget⟩ :=
    @handleRetryableFailure_spec _ settings send delay hnodup c
  -- An event that has failed as often as allowed would be reported.
  have hdropped (hid : id ∈ idsOf send.batch) :
      (c.retryCount.get id).getD 0 < settings.maxRetries := by
    by_contra hlast
    apply hfresh
    exact (mem_reported_failure hnodup hid).mpr (Nat.not_lt.mp hlast)
  rw [hout]
  -- The counter has one more failure when the event is in the batch.
  have hcounts : (counts.get id).getD 0 = n := by
    rw [hget, ← hcount]
    split
    · rename_i hid
      rw [recount, if_neg (Nat.not_le.mpr (hdropped hid))]
      rfl
    · rfl
  refine ⟨of_absent hcounts ?_ (fun _ hsend => by cases hsend), attempts_failure _ _⟩
  rw [← hcount]
  split
  · rename_i hid
    exact hdropped hid
  · exact hallowed

theorem resumed {send : Sending P} {answer : Answer} {now : Int}
    (h : c.Counted settings.maxRetries id n) (hsending : c.sending = some send)
    (hnodup : (idsOf send.batch).Nodup) (hfails : FailsFor settings id c (.resume answer now))
    (hresumed : SendResumed settings c send answer out) (hfresh : id ∉ reported out.2) :
    out.1.Counted settings.maxRetries id (n + Flutter.attempts id out.2) := by
  have hattempts := h.attempts
  rw [pending_of_some hsending] at hattempts
  -- The counters of the other batches stay, and their requests are no attempts.
  have helsewhere (hid : id ∉ idsOf send.batch) : (c.retryCount.get id).getD 0 = n := by
    rw [if_neg fun hsends => hid hsends.2] at hattempts
    exact hattempts
  have hlate (hpoint : send.point.isFirst = false) : id ∉ idsOf send.batch := by
    intro hid
    rw [h.first send hsending hid] at hpoint
    cases hpoint
  have hanswered (hpoint : send.point.awaitsResponse = true) (hanswer : answer.isRetryable = false) :
      id ∉ idsOf send.batch := by
    intro hid
    have hretryable := hfails send hsending hid
    rw [if_pos hpoint, hanswer] at hretryable
    cases hretryable
  have hunsent (hpoint : send.point.awaitsResponse = false) :
      (c.retryCount.get id).getD 0 = n := by
    rw [if_neg fun hsends => Bool.false_ne_true (hpoint.symm.trans hsends.1)] at hattempts
    exact hattempts
  have hforgotten (hid : id ∉ idsOf send.batch) :
      ((c.removeFromQueue send.batch).forget send.batch).retryCount.get id =
        c.retryCount.get id := by
    rw [get_forget, if_neg hid]
    rfl
  -- The send goes on, or ends, without the event.
  have hsame {counts : BTreeMap String Nat} {c' : Client P} (hid : id ∉ idsOf send.batch)
      (hcounts : counts.get id = c.retryCount.get id) (hc' : c'.retryCount = counts)
      (hbatch : ∀ send' ∈ c'.sending, send'.batch = send.batch) :
      c'.Counted settings.maxRetries id n := by
    apply of_absent
    · rw [hc', hcounts]
      exact helsewhere hid
    · rw [← helsewhere hid]
      exact h.allowed
    · intro send' hsend'
      rw [hbatch send' hsend']
      exact hid
  cases hresumed with
  | posted token cache hpoint =>
    have hcount := hunsent (by rw [hpoint]; rfl)
    refine ⟨?_, h.allowed, ?_⟩
    · have hsends : Sending.Sends id { send with point := .post } ↔ id ∈ idsOf send.batch :=
        and_iff_right rfl
      rw [pending_of_some rfl, if_congr hsends rfl rfl, attempts_cons, Output.attempts]
      exact congrArg (· + _) hcount
    · rintro send' hsend' -
      obtain rfl := Option.some.inj hsend'
      rfl
  | reposted token cache hpoint =>
    have hid := hlate (by rw [hpoint]; rfl)
    have hnone : Flutter.attempts id [Output.sent token send.batch] = 0 := by
      rw [attempts_cons, Output.attempts, if_neg hid, attempts_nil]
    rw [hnone]
    refine hsame hid rfl rfl ?_
    rintro send' hsend'
    obtain rfl := Option.some.inj hsend'
    rfl
  | unsent cache hpoint hwhy =>
    have hid : id ∉ idsOf send.batch := by
      intro hid
      have hmade := hfails send hsending hid
      rw [if_neg (Bool.eq_false_iff.mp hpoint)] at hmade
      rcases hwhy with herror | ⟨e, he, hencodable⟩
      · exact hmade.1 herror
      · exact Bool.false_ne_true (hencodable.symm.trans (hmade.2 e he))
    have hcount : (c.retryCount.get id).getD 0 + (if id ∈ idsOf send.batch then 1 else 0) = n := by
      rw [if_neg hid]
      exact hunsent hpoint
    obtain ⟨hcounted, hnone⟩ :=
      failure (c := { c with tokenCache := cache }) hnodup hcount h.allowed hfresh
    rw [hnone]
    exact hcounted
  | unavailable delay hpoint hwhy =>
    -- The attempt that was under way has failed.
    have hsends : send.Sends id ↔ id ∈ idsOf send.batch := and_iff_right hpoint
    rw [if_congr hsends rfl rfl] at hattempts
    obtain ⟨hcounted, hnone⟩ := failure hnodup hattempts h.allowed hfresh
    rw [hnone]
    exact hcounted
  | @succeeded status retryAfter hpoint hstatus =>
    have hid : id ∉ idsOf send.batch := by
      apply hanswered hpoint
      simp only [Answer.isRetryable, Bool.and_eq_false_iff, decide_eq_false_iff_not]
      omega
    have hnone : Flutter.attempts id (c.deliver send).2 = 0 := by
      simp [deliver, finish, Output.attempts]
    rw [hnone]
    exact hsame hid (hforgotten hid) rfl fun _ hsend => by cases hsend
  | unauthorized hpoint =>
    have hid := hanswered (by rw [hpoint]; rfl) rfl
    refine hsame hid rfl rfl ?_
    rintro send' hsend'
    obtain rfl := Option.some.inj hsend'
    rfl
  | @refused status retryAfter hpoint hstatus =>
    have hid : id ∉ idsOf send.batch := by
      apply hanswered (by rw [hpoint]; rfl)
      simp only [Answer.isRetryable, Bool.and_eq_false_iff, decide_eq_false_iff_not]
      omega
    have hnone : Flutter.attempts id (((c.removeFromQueue send.batch).forget send.batch).finish
        send [.reported send.batch]).2 = 0 := by
      simp [finish, Output.attempts]
    rw [hnone]
    exact hsame hid (hforgotten hid) rfl fun _ hsend => by cases hsend
  | @abandoned status retryAfter hpoint hstatus =>
    have hid : id ∉ idsOf send.batch := by
      apply hanswered (by rw [hpoint]; rfl)
      simp only [Answer.isRetryable, Bool.and_eq_false_iff, decide_eq_false_iff_not]
      omega
    have hnone : Flutter.attempts id ((c.removeFromQueue send.batch).finish send
        [.reported send.batch]).2 = 0 := by
      simp [finish, Output.attempts]
    rw [hnone]
    exact hsame hid rfl rfl fun _ hsend => by cases hsend
  | renewed cache kept hpoint =>
    have hid := hlate (by rw [hpoint]; rfl)
    refine hsame hid rfl rfl ?_
    rintro send' hsend'
    obtain rfl := Option.some.inj hsend'
    rfl
  | escaped hpoint =>
    have hid := hlate (by rw [hpoint]; rfl)
    rw [attempts_of_quiet (quiet_failed send.caller)]
    exact hsame hid rfl rfl fun _ hsend => by cases hsend

/-- A step that counts what it sends, as long as it does not report the event. -/
theorem step {x : Label P} (h : c.Counted settings.maxRetries id n)
    (hnodup : c.flightIds.Nodup) (hfails : FailsFor settings id c x.1)
    (hfresh : id ∉ reported x.2) (hstep : Step settings c x c') :
    c'.Counted settings.maxRetries id (n + Flutter.attempts id x.2) := by
  obtain ⟨input, outputs⟩ := x
  have hquiet {outputs : List (Output P)} (houtputs : ∀ o ∈ outputs, o.Quiet)
      (h : c'.Counted settings.maxRetries id n) :
      c'.Counted settings.maxRetries id (n + Flutter.attempts id outputs) := by
    rw [attempts_of_quiet houtputs]
    exact h
  cases stepped hstep with
  | quiet hagrees hdeferred houtputs => exact hquiet houtputs (h.congr hagrees)
  | deferred hagrees hdeferred => exact h.congr hagrees
  | lost hloses hagrees hdeferred => exact h.congr hagrees
  | @tracked _ event entered henters hentered hdeferred =>
    -- `tracked` itself is no attempt.
    have hfresh : id ∉ reported entered.2 := by
      rw [reported_cons] at hfresh
      exact fun hmem => hfresh (Multiset.mem_add.mpr (.inr hmem))
    obtain ⟨hcounted, hnone⟩ := h.entered hentered hfresh
    have hnone' : Flutter.attempts id (.tracked event.eventId :: entered.2) = 0 := by
      rw [attempts_cons, hnone]
      rfl
    rw [hnone']
    exact hcounted
  | undeferred c₀ henters hagrees hentered hdeferred =>
    obtain ⟨hcounted, hnone⟩ := (h.congr hagrees).entered hentered hfresh
    dsimp only
    rw [hnone]
    exact hcounted
  | started c₀ hagrees hstart hdeferred houtputs =>
    exact hquiet houtputs ((h.congr hagrees).mayStart hstart)
  | resumed hsending hresumed =>
    -- The answer decides how often the event was attempted.
    rw [flightIds_of_some hsending] at hnodup
    exact h.resumed hsending hnodup hfails hresumed hfresh

end Client.Counted

/-! ## Runs -/

section Runs

variable {settings : Settings P} {id : String} {start c c' : Client P} {labels : List (Label P)}
  {x : Label P}

/-- A step in which no send of the event succeeds. -/
def FailingStep (settings : Settings P) (id : String) (c : Client P) (x : Label P)
    (c' : Client P) : Prop :=
  FailsFor settings id c x.1 ∧ Step settings c x c'

theorem nodup_flightIds {actorId tenantId sessionId : Option String}
    (h : Run (FailingStep settings id) (.new actorId tenantId sessionId) labels c)
    (hids : (tracked (outputsOf labels)).Nodup) : c.flightIds.Nodup := by
  have hle := delivered_le (h.mono fun _ _ _ hstep => hstep.2)
  apply Multiset.coe_nodup.mp
  apply Multiset.nodup_of_le _ hids
  apply le_trans _ hle
  apply le_trans (Multiset.le_union_right (s := (c.queueIds : Multiset String)))
  exact le_trans (Multiset.le_add_left _ _) (Multiset.le_add_right _ _)

/-- Until an event is reported, its counter says how often it was attempted. -/
theorem counted_of_run {actorId tenantId sessionId : Option String}
    (h : Run (FailingStep settings id) (.new actorId tenantId sessionId) labels c)
    (hids : (tracked (outputsOf labels)).Nodup) (hfresh : id ∉ reported (outputsOf labels)) :
    c.Counted settings.maxRetries id (attempts id (outputsOf labels)) := by
  induction h with
  | nil => exact Client.Counted.of_absent rfl (Nat.zero_le _) nofun
  | @snoc labels c c' x hrun hstep ih =>
    rw [outputsOf_snoc, tracked_append] at hids
    rw [outputsOf_snoc, reported_append] at hfresh
    have hbefore := Multiset.nodup_of_le (Multiset.le_add_right _ _) hids
    have hcounted := ih hbefore fun hmem => hfresh (Multiset.mem_add.mpr (.inl hmem))
    rw [outputsOf_snoc, attempts_append]
    apply hcounted.step (nodup_flightIds hrun hbefore) hstep.1 _ hstep.2
    exact fun hmem => hfresh (Multiset.mem_add.mpr (.inr hmem))

/-- A send that fails leaves its batch to the retries. -/
theorem Client.trySend_fails {send : Sending P} {answer : Answer} {now : Int} {out : Effect P}
    (hpoint : send.point = .post) (hretryable : answer.isRetryable = true)
    (hstep : c.trySend settings send answer now = some out) :
    out = c.handleRetryableFailure settings send none := by
  unfold trySend at hstep
  rw [hpoint] at hstep
  cases answer with
  | goOn => cases hretryable
  | token jwt => cases hretryable
  | error => exact (Option.some.inj hstep).symm
  | response status retryAfter =>
    have hstatus : 500 ≤ status ∧ status ≤ 599 := by
      simpa [Answer.isRetryable] using hretryable
    apply (Option.some.inj hstep).symm.trans
    unfold onResponse
    rw [if_neg (by omega), if_neg (by omega), if_neg (by omega), if_neg (by omega),
      if_pos (by omega)]

/-- When a send of the event fails, the event is reported if it was attempted `maxRetries + 1`
times, and stays in the queue if not. -/
theorem reported_iff_attempts {actorId tenantId sessionId : Option String}
    (h : Run (FailingStep settings id) (.new actorId tenantId sessionId) labels c)
    (hids : (tracked (outputsOf labels)).Nodup) (hfresh : id ∉ reported (outputsOf labels))
    (hstep : FailingStep settings id c x c') (hanswers : Answers id c x.1) :
    id ∈ reported x.2 ↔ attempts id (outputsOf labels) = settings.maxRetries + 1 := by
  have hcounted := counted_of_run h hids hfresh
  obtain ⟨hfails, hstep⟩ := hstep
  obtain ⟨input, outputs⟩ := x
  cases input with
  | resume answer now =>
    obtain ⟨send, hsending, hawaits, hid⟩ := hanswers
    have hretryable := hfails send hsending hid
    rw [if_pos hawaits] at hretryable
    -- A second post follows a 401 only, which no failing run has.
    have hpoint : send.point = .post := by
      have hfirst := hcounted.first send hsending hid
      cases hpoint : send.point with
      | post => rfl
      | token kept => rw [hpoint] at hawaits; cases hawaits
      | _ => rw [hpoint] at hfirst; cases hfirst
    have hnodup : (idsOf send.batch).Nodup := by
      have hflight := nodup_flightIds h hids
      rwa [Client.flightIds_of_some hsending] at hflight
    have hstep : c.trySend settings send answer now = some (c', outputs) := by
      have hresume : c.step settings (.resume answer now) = some (c', outputs) := hstep
      dsimp only [Client.step] at hresume
      rwa [hsending] at hresume
    have hattempts := hcounted.attempts
    rw [Client.pending_of_some hsending, if_pos ⟨hawaits, hid⟩] at hattempts
    obtain rfl : outputs = _ := congrArg Prod.snd (Client.trySend_fails hpoint hretryable hstep)
    -- The counter is the number of attempts but the last, and is never above the bound.
    rw [Client.mem_reported_failure hnodup hid, ← hattempts]
    have hallowed := hcounted.allowed
    omega
  | _ => exact hanswers.elim

end Runs

/-! ## Parity -/

/-- **Parity of the attempts.** Take a run of each client, with identifiers that are all different,
in which every send of an event failed until one more failure reports it. With one `maxRetries` for
both, both have attempted their event `1 + maxRetries` times exactly when `maxRetries` is 0. -/
theorem retry_parity_iff {Q : Type} {settings : Sdk.Settings P} {flutter : Settings Q}
    {actorId tenantId actorId' tenantId' sessionId : Option String} {listening : Bool}
    {id id' : String} {labels : List (Sdk.Label P)} {x : Sdk.Label P} {c c' : Sdk.Client P}
    {labels' : List (Label Q)} {x' : Label Q} {k k' : Client Q}
    (hmax : flutter.maxRetries = settings.maxRetries)
    (hrun : Run (Sdk.FailingStep settings id) (.new actorId tenantId listening) labels c)
    (hids : (Sdk.enteredIds labels).Nodup) (hstep : Sdk.FailingStep settings id c x c')
    (hanswers : Sdk.Answers id c x.1) (hreported : id ∈ Sdk.reportedIds x.2)
    (hrun' : Run (FailingStep flutter id') (.new actorId' tenantId' sessionId) labels' k)
    (hids' : (tracked (outputsOf labels')).Nodup) (hfresh' : id' ∉ reported (outputsOf labels'))
    (hstep' : FailingStep flutter id' k x' k') (hanswers' : Answers id' k x'.1)
    (hreported' : id' ∈ reported x'.2) :
    (Sdk.attempts id (Sdk.outputsOf labels) = 1 + settings.maxRetries ∧
      attempts id' (outputsOf labels') = 1 + flutter.maxRetries) ↔ settings.maxRetries = 0 := by
  have hts := (Sdk.reported_iff_attempts hrun hids hstep hanswers).mp hreported
  have hflutter := (reported_iff_attempts hrun' hids' hfresh' hstep' hanswers').mp hreported'
  rw [hts, hflutter, hmax]
  omega

section Decidable

instance : (answer : Answer) → Decidable (answer ≠ .error)
  | .goOn => .isTrue nofun
  | .token _ => .isTrue nofun
  | .response _ _ => .isTrue nofun
  | .error => .isFalse fun h => h rfl

instance (settings : Settings P) (id : String) (c : Client P) :
    (input : Input P) → Decidable (FailsFor settings id c input)
  | .resume answer _ => inferInstanceAs (Decidable (∀ send ∈ c.sending, _ → ite _ _ _))
  | .identify _ _ => .isTrue trivial
  | .track _ _ _ _ _ => .isTrue trivial
  | .flush => .isTrue trivial
  | .dispose => .isTrue trivial
  | .sessionRead _ _ => .isTrue trivial
  | .sessionWritten => .isTrue trivial
  | .sessionFails => .isTrue trivial
  | .sessionGoesOn _ => .isTrue trivial
  | .disposalGoesOn _ => .isTrue trivial
  | .tick _ => .isTrue trivial
  | .retryAfter _ => .isTrue trivial

end Decidable

/-- The event is sent by both clients, one retry after the other. -/
def sent : List (Sdk.Input Unit) := Sdk.tracked (some "t")

def sentAgain (retries : Nat) : List (Input Unit) :=
  .track "signup" () "e1" "2026-06-21T10:00:00.000Z" 0 :: .resume (.token "t") 0 ::
    (List.replicate retries
      [.resume (.response 503 none) 0, .tick 0, .resume (.token "t") 0]).flatten

/-- With at most one retry, the first client reports the event when its first send fails. -/
theorem exists_reported_first (maxRetries : Fin 2) : ∃ labels x c c',
    let settings := { Sdk.oneByOne with maxRetries := maxRetries }
    Run (Sdk.FailingStep settings "e1") (.new none none false) labels c ∧
      (Sdk.enteredIds labels).Nodup ∧ Sdk.FailingStep settings "e1" c x c' ∧
      Sdk.Answers "e1" c x.1 ∧ "e1" ∈ Sdk.reportedIds x.2 ∧
      Sdk.attempts "e1" (Sdk.outputsOf labels) = 1 := by
  let next (c : Sdk.Client Unit) (input : Sdk.Input Unit) :=
    if Sdk.FailsFor "e1" c input then
      c.step { Sdk.oneByOne with maxRetries := maxRetries } input else none
  let last : Sdk.Input Unit := .resume 0 (.response 503 none) none 9
  -- The run is evaluated: one attempt, and the next answer reports the event.
  have hout : (Run.replay next sent (.new none none false)).any (fun out =>
      decide (Sdk.enteredIds out.2).Nodup &&
        decide (∃ t ∈ out.1.tasks[0]?, t.Sends "e1") &&
        decide (Sdk.attempts "e1" (Sdk.outputsOf out.2) = 1) &&
        (next out.1 last).any fun result => decide ("e1" ∈ Sdk.reportedIds result.2)) = true := by
    revert maxRetries
    decide +kernel
  obtain ⟨⟨c, labels⟩, hreplay, hchecks⟩ := (Option.any_eq_true _ _).mp hout
  simp only [Bool.and_eq_true, decide_eq_true_eq] at hchecks
  obtain ⟨⟨⟨hids, hanswers⟩, hattempts⟩, hlast⟩ := hchecks
  obtain ⟨⟨c', outputs⟩, hnext, hreported⟩ := (Option.any_eq_true _ _).mp hlast
  have hrun := (Run.of_replay hreplay).mono fun _ _ _ hnext => Option.ite_none_right_eq_some.mp hnext
  exact ⟨labels, (last, outputs), c, c', hrun, hids, Option.ite_none_right_eq_some.mp hnext,
    hanswers, of_decide_eq_true hreported, hattempts⟩

/-- The other client reports it when its last retry fails. -/
theorem exists_reported_last (maxRetries : Fin 2) : ∃ labels x c c',
    let settings := { oneByOne 3 with maxRetries := maxRetries }
    Run (FailingStep settings "e1") startClient labels c ∧
      (tracked (outputsOf labels)).Nodup ∧ "e1" ∉ reported (outputsOf labels) ∧
      FailingStep settings "e1" c x c' ∧ Answers "e1" c x.1 ∧ "e1" ∈ reported x.2 := by
  let next (c : Client Unit) (input : Input Unit) :=
    if FailsFor { oneByOne 3 with maxRetries := maxRetries } "e1" c input then
      c.step { oneByOne 3 with maxRetries := maxRetries } input else none
  let last : Input Unit := .resume (.response 503 none) 0
  -- The run is evaluated: every attempt but the last is counted.
  have hout : (Run.replay next (sentAgain maxRetries) startClient).any (fun out =>
      decide (tracked (outputsOf out.2)).Nodup && decide ("e1" ∉ reported (outputsOf out.2)) &&
        decide (∃ send ∈ out.1.sending, send.Sends "e1") &&
        (next out.1 last).any fun result => decide ("e1" ∈ reported result.2)) = true := by
    revert maxRetries
    decide +kernel
  obtain ⟨⟨c, labels⟩, hreplay, hchecks⟩ := (Option.any_eq_true _ _).mp hout
  simp only [Bool.and_eq_true, decide_eq_true_eq] at hchecks
  obtain ⟨⟨⟨hids, hfresh⟩, hanswers⟩, hlast⟩ := hchecks
  obtain ⟨⟨c', outputs⟩, hnext, hreported⟩ := (Option.any_eq_true _ _).mp hlast
  have hrun := (Run.of_replay hreplay).mono fun _ _ _ hnext => Option.ite_none_right_eq_some.mp hnext
  exact ⟨labels, (last, outputs), c, c', hrun, hids, hfresh,
    Option.ite_none_right_eq_some.mp hnext, hanswers, of_decide_eq_true hreported⟩

/-- Without retries both clients make one attempt. -/
theorem retry_parity_without : ∃ labels labels',
    Sdk.attempts "e1" (Sdk.outputsOf labels) = 1 ∧
      attempts "e1" (outputsOf (P := Unit) labels') = 1 ∧
      (∃ c, Run (Sdk.FailingStep { Sdk.oneByOne with maxRetries := 0 } "e1")
        (.new none none false) labels c) ∧
      ∃ k, Run (FailingStep { oneByOne 3 with maxRetries := 0 } "e1") startClient labels' k := by
  obtain ⟨labels, x, c, c', hrun, hids, hstep, hanswers, hreported, -⟩ := exists_reported_first 0
  obtain ⟨labels', x', k, k', hrun', hids', hfresh', hstep', hanswers', hreported'⟩ :=
    exists_reported_last 0
  obtain ⟨hfirst, hlast⟩ := (retry_parity_iff rfl hrun hids hstep hanswers hreported hrun' hids'
    hfresh' hstep' hanswers' hreported').mpr rfl
  exact ⟨labels, labels', hfirst, hlast, ⟨c, hrun⟩, k, hrun'⟩

/-- With one retry, the first client makes none. -/
theorem not_retry_parity :
    ¬∀ (settings : Sdk.Settings Unit) (flutter : Settings Unit)
      (actorId tenantId actorId' tenantId' sessionId : Option String) (listening : Bool)
      (id id' : String) (labels : List (Sdk.Label Unit)) (x : Sdk.Label Unit)
      (c c' : Sdk.Client Unit) (labels' : List (Label Unit)) (x' : Label Unit)
      (k k' : Client Unit), flutter.maxRetries = settings.maxRetries →
      Run (Sdk.FailingStep settings id) (.new actorId tenantId listening) labels c →
      (Sdk.enteredIds labels).Nodup → Sdk.FailingStep settings id c x c' →
      Sdk.Answers id c x.1 → id ∈ Sdk.reportedIds x.2 →
      Run (FailingStep flutter id') (.new actorId' tenantId' sessionId) labels' k →
      (tracked (outputsOf labels')).Nodup → id' ∉ reported (outputsOf labels') →
      FailingStep flutter id' k x' k' → Answers id' k x'.1 → id' ∈ reported x'.2 →
      Sdk.attempts id (Sdk.outputsOf labels) = 1 + settings.maxRetries ∧
        attempts id' (outputsOf labels') = 1 + flutter.maxRetries := by
  intro h
  obtain ⟨labels, x, c, c', hrun, hids, hstep, hanswers, hreported, hattempts⟩ :=
    exists_reported_first 1
  obtain ⟨labels', x', k, k', hrun', hids', hfresh', hstep', hanswers', hreported'⟩ :=
    exists_reported_last 1
  obtain ⟨hfirst, -⟩ := h _ _ _ _ _ _ _ _ _ _ _ _ _ _ _ _ _ _ rfl hrun hids hstep hanswers
    hreported hrun' hids' hfresh' hstep' hanswers' hreported'
  rw [hattempts] at hfirst
  cases hfirst

end Datacat.Sdk.Flutter
