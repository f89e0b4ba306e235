import Datacat.Sdk.Conservation

/-!
# Tokens of the Requests

The token manager keeps the last token that `getToken` gave. A call takes it from there while more
than thirty seconds are left, and awaits a call of `getToken` otherwise, which it shares with every
call that needs one meanwhile. After a 401 the token that is kept is dropped.

Between the instant at which a call takes its token and the request that carries it, other calls
take tokens, are refused, and drop what is kept.

## Main results

- `Client.takes`: what one step does to the tokens, the suspended calls and the requests.
- `sent_current`: every request carries a token that was given, and was fresh when it was taken or
  was given later; after a 401, one that was given later.
-/

namespace Datacat.Sdk

open Basics

variable {P : Type}

/-! ## Histories -/

/-- The instant of an input. -/
def Input.now : Input P → Option Int
  | .track _ _ _ now => some now
  | .flush now => some now
  | .tick now => some now
  | .pageHidden now => some now
  | .shutdown now => some now
  | .resume _ _ _ now => some now
  | .identify _ _ => none
  | .tokenAnswer _ => none

/-- The outcome of a call of `getToken`. -/
def Input.given : Input P → Option (Option String)
  | .tokenAnswer answer => some answer
  | _ => none

/-- A `fetch` is answered 401. -/
def Input.Unauthorized (input : Input P) : Prop :=
  ∃ task retryAfter beacon now, input = .resume task (.response 401 retryAfter) beacon now

/-- The outcomes of the calls of `getToken`. -/
def givenIn (labels : List (Label P)) : List (Option String) :=
  labels.filterMap fun x => x.1.given

theorem givenIn_append (first second : List (Label P)) :
    givenIn (first ++ second) = givenIn first ++ givenIn second :=
  List.filterMap_append

/-- The token was given in the end, or before and was fresh when it was taken in between. -/
def Current (settings : Settings P) (labels : List (Label P)) (token : String) : Prop :=
  ∃ before x after, labels = before ++ x :: after ∧
    (some token ∈ givenIn after ∨
      some token ∈ givenIn before ∧ ∃ now, x.1.now = some now ∧
        TokenManager.isExpiringSoon (settings.decodeExp token) now = false)

/-- The token was given after a `fetch` was answered 401. -/
def Renewed (labels : List (Label P)) (token : String) : Prop :=
  ∃ before x after, labels = before ++ x :: after ∧ x.1.Unauthorized ∧ some token ∈ givenIn after

/-! ## Calls that wait for a token -/

/-- The promise that a suspended call awaits. -/
def Task.awaits : Task P → Option Promise
  | .flush _ (.token _ _ promise) => some promise
  | .flush _ (.refresh _ promise) => some promise
  | .beaconToken _ promise => some promise
  | _ => none

/-- The token that a suspended call will use once more. -/
def Task.carries : Task P → Option String
  | .beaconFetch _ token => some token
  | _ => none

/-- The call was refused. -/
def Task.Refreshing : Task P → Prop
  | .flush _ (.refresh _ _) => True
  | _ => False

instance (task : Task P) : Decidable task.Refreshing :=
  match task with
  | .flush _ (.refresh _ _) => .isTrue trivial
  | .flush _ (.token _ _ _) | .flush _ (.fetch _) | .flush _ (.refetch _) | .flush _ (.text _)
  | .flush _ .next | .flush _ .settled | .beaconToken _ _ | .beaconFetch _ _ => .isFalse id

/-- A suspended call has the token. -/
def Client.Uses (c : Client P) (token : String) : Prop :=
  ∃ task ∈ c.tasks, task.carries = some token ∨
    ∃ promise, task.awaits = some promise ∧ c.tokens.outcome promise = some (some token)

/-- The promise is one for the call of `getToken` that settles next, or the token that is kept. -/
inductive Asked (c : Client P) (input : Input P) : Promise → Prop where
  | pending : Asked c input (.pending c.tokens.answers.length)
  | kept {token : String} {exp : ℚ} {now : Int} : input.now = some now →
      c.tokens.cached = some (token, exp) → TokenManager.isExpiringSoon exp now = false →
      Asked c input (.resolved token)

/-- A call that a step suspends. -/
structure Suspends (c : Client P) (input : Input P) (task : Task P) : Prop where
  awaits : ∀ promise, task.awaits = some promise → Asked c input promise
  carries : ∀ token, task.carries = some token → c.Uses token
  refreshing : task.Refreshing →
    input.Unauthorized ∧ task.awaits = some (.pending c.tokens.answers.length)

/-- What a step does with tokens. -/
structure Takes (settings : Settings P) (c : Client P) (x : Label P) (c' : Client P) : Prop where
  answers : c'.tokens.answers = c.tokens.answers ++ x.1.given.toList
  cached : ∀ token exp, c'.tokens.cached = some (token, exp) →
    c.tokens.cached = some (token, exp) ∨
      x.1 = .tokenAnswer (some token) ∧ exp = settings.decodeExp token
  suspends : ∀ task ∈ c'.tasks, task ∈ c.tasks ∨ x.1.given = none ∧ Suspends c x.1 task
  sent : ∀ r, .sent r ∈ x.2 → c.Uses r.token

/-! ## Pieces of the steps -/

section Pieces

variable {settings : Settings P} {c b c' : Client P} {x : Label P} {now : Int}

theorem TokenManager.get_answers (m : TokenManager) (now : Int) :
    (m.get now).1.answers = m.answers := by
  unfold get
  split
  · split <;> rfl
  · rfl

theorem TokenManager.get_cached (m : TokenManager) (now : Int) :
    (m.get now).1.cached = m.cached := by
  unfold get
  split
  · split <;> rfl
  · rfl

theorem asked_get {input : Input P} (hnow : input.now = some now) :
    Asked c input (c.tokens.get now).2 := by
  unfold TokenManager.get
  split
  · rename_i value exp hcached
    split
    · exact .pending
    · rename_i hfresh
      exact .kept hnow hcached (Bool.eq_false_iff.mpr hfresh)
  · exact .pending

/-- A task that does not wait for a token. -/
def Task.Quiet (task : Task P) : Prop := task.awaits = none ∧ task.carries = none

theorem Task.Quiet.suspends {task : Task P} (h : task.Quiet) (input : Input P) :
    Suspends c input task where
  awaits promise hawaits := by
    rw [h.1] at hawaits
    cases hawaits
  carries token hcarries := by
    rw [h.2] at hcarries
    cases hcarries
  refreshing hrefreshing := by
    obtain ⟨hawaits, -⟩ := h
    cases task with
    | flush scheduled point =>
      cases point with
      | refresh items promise => cases hawaits
      | _ => cases hrefreshing
    | _ => cases hrefreshing

/-- The tokens stay as they are. -/
theorem Takes.of_kept (htokens : c'.tokens = c.tokens) (hgiven : x.1.given = none)
    (hsuspends : ∀ task ∈ c'.tasks, task ∈ c.tasks ∨ Suspends c x.1 task)
    (hsent : ∀ r, .sent r ∈ x.2 → c.Uses r.token) : Takes settings c x c' where
  answers := by
    rw [htokens, hgiven]
    exact (List.append_nil _).symm
  cached token exp hcached := by
    rw [htokens] at hcached
    exact .inl hcached
  suspends task htask := (hsuspends task htask).imp_right fun h => ⟨hgiven, h⟩
  sent := hsent

/-- What is suspended does not wait for a token, or takes the one that is kept or comes next. -/
inductive Asks (c : Client P) (now : Int) (c' : Client P) : Prop where
  | nothing (htokens : c'.tokens = c.tokens) (htasks : c'.tasks = c.tasks)
  | quiet {task : Task P} (htokens : c'.tokens = c.tokens) (htasks : c'.tasks = c.tasks ++ [task])
      (hquiet : task.Quiet)
  | flush {scheduled : Bool} {items : List (QueuedEvent P)} {nonempty : items ≠ []}
      (htokens : c'.tokens = (c.tokens.get now).1)
      (htasks : c'.tasks =
        c.tasks ++ [.flush scheduled (.token items nonempty (c.tokens.get now).2)])
  | beacon {items : List (QueuedEvent P)} (htokens : c'.tokens = (c.tokens.get now).1)
      (htasks : c'.tasks = c.tasks ++ [.beaconToken items (c.tokens.get now).2])

theorem asks_flushLoop (settings : Settings P) (scheduled : Bool) (now : Int) (c : Client P) :
    Asks c now (c.flushLoop settings scheduled now) := by
  unfold Client.flushLoop
  split
  · exact .quiet rfl rfl ⟨rfl, rfl⟩
  · dsimp only
    split
    · exact .quiet rfl rfl ⟨rfl, rfl⟩
    · exact .flush rfl rfl

theorem asks_doFlush (settings : Settings P) (scheduled : Bool) (now : Int) (c : Client P) :
    Asks c now (c.doFlush settings scheduled now) := by
  have h := asks_flushLoop settings scheduled now (c.drainDueRetries now)
  cases h with
  | nothing htokens htasks => exact .nothing htokens htasks
  | quiet htokens htasks hquiet => exact .quiet htokens htasks hquiet
  | flush htokens htasks => exact .flush htokens htasks
  | beacon htokens htasks => exact .beacon htokens htasks

theorem asks_scheduleFlush (settings : Settings P) (now : Int) (c : Client P) :
    Asks c now (c.scheduleFlush settings now) := by
  unfold Client.scheduleFlush
  split
  · exact .nothing rfl rfl
  · cases asks_doFlush settings true now { c with flushing := true } with
    | nothing htokens htasks => exact .nothing htokens htasks
    | quiet htokens htasks hquiet => exact .quiet htokens htasks hquiet
    | flush htokens htasks => exact .flush htokens htasks
    | beacon htokens htasks => exact .beacon htokens htasks

theorem asks_beaconFlush (now : Int) (c : Client P) : Asks c now (c.beaconFlush now) := by
  unfold Client.beaconFlush
  dsimp only
  split
  · exact .nothing rfl rfl
  · exact .beacon rfl rfl

/-- A step that suspends at most one call, from a client that may have let go of one. -/
theorem Takes.of_asks (htokens : b.tokens = c.tokens) (htasks : ∀ task ∈ b.tasks, task ∈ c.tasks)
    (h : Asks b now c') (hnow : x.1.now = some now) (hgiven : x.1.given = none)
    (hsent : ∀ r, .sent r ∈ x.2 → c.Uses r.token) : Takes settings c x c' := by
  have hold {task : Task P} {last : Task P} (hmem : task ∈ b.tasks ++ [last]) :
      task ∈ c.tasks ∨ task = last := by
    rcases List.mem_append.mp hmem with hmem | hmem
    · exact .inl (htasks task hmem)
    · exact .inr (List.mem_singleton.mp hmem)
  -- A call that asks takes what the manager has for it.
  have hasks {last : Task P} (hawaits : last.awaits = some (c.tokens.get now).2)
      (hcarries : last.carries = none) (hrefreshing : ¬last.Refreshing)
      (hlast : c'.tasks = b.tasks ++ [last]) (htokens' : c'.tokens = (c.tokens.get now).1) :
      Takes settings c x c' := by
    constructor
    · rw [htokens', TokenManager.get_answers, hgiven]
      exact (List.append_nil _).symm
    · intro token exp hcached
      rw [htokens', TokenManager.get_cached] at hcached
      exact .inl hcached
    · intro task htask
      rw [hlast] at htask
      rcases hold htask with hmem | rfl
      · exact .inl hmem
      · refine .inr ⟨hgiven, ?_, ?_, fun h => absurd h hrefreshing⟩
        · intro promise hpromise
          rw [hawaits] at hpromise
          obtain rfl := Option.some.inj hpromise
          exact asked_get hnow
        · intro token htoken
          rw [hcarries] at htoken
          cases htoken
    · exact hsent
  cases h with
  | nothing htokens' htasks' =>
    refine .of_kept (htokens'.trans htokens) hgiven (fun task htask => ?_) hsent
    rw [htasks'] at htask
    exact .inl (htasks task htask)
  | quiet htokens' htasks' hquiet =>
    refine .of_kept (htokens'.trans htokens) hgiven (fun task htask => ?_) hsent
    rw [htasks'] at htask
    rcases hold htask with hmem | rfl
    · exact .inl hmem
    · exact .inr (hquiet.suspends _)
  | flush htokens' htasks' =>
    rw [htokens] at htokens' htasks'
    exact hasks rfl rfl id htasks' htokens'
  | beacon htokens' htasks' =>
    rw [htokens] at htokens' htasks'
    exact hasks rfl rfl id htasks' htokens'

/-- A call that does not wait for a token is suspended, and no request is sent. -/
structure Parks (c : Client P) (out : Effect P) : Prop where
  tokens : out.1.tokens = c.tokens
  tasks : ∃ task : Task P, task.Quiet ∧ out.1.tasks = c.tasks ++ [task]
  sent : ∀ r, .sent r ∉ out.2

theorem parks_suspend (c : Client P) {task : Task P} (h : task.Quiet) {outputs : List (Output P)}
    (hsent : ∀ r, .sent r ∉ outputs) : Parks c (c.suspend task, outputs) where
  tokens := rfl
  tasks := ⟨task, h, rfl⟩
  sent := hsent

theorem parks_scheduleRetry (settings : Settings P) (scheduled : Bool)
    (items : List (QueuedEvent P)) (retryAfterMs : Option F64) (now : Int) (c : Client P) :
    Parks c (c.scheduleRetry settings scheduled items retryAfterMs now) := by
  have hsent : ∀ r, Output.sent r ∉ (c.scheduleRetry settings scheduled items retryAfterMs now).2 := by
    intro r hr
    unfold Client.scheduleRetry at hr
    dsimp only at hr
    split at hr
    · split at hr <;> simp at hr
    · dsimp only at hr
      split at hr <;> simp at hr
  refine ⟨?_, ⟨.flush scheduled .next, ⟨rfl, rfl⟩, ?_⟩, hsent⟩
  · unfold Client.scheduleRetry
    dsimp only
    split <;> rfl
  · unfold Client.scheduleRetry
    dsimp only
    split <;> rfl

theorem parks_acknowledge (scheduled : Bool) (items : List (QueuedEvent P)) (c : Client P) :
    Parks c (c.acknowledge scheduled items) :=
  parks_suspend c ⟨rfl, rfl⟩ (by simp)

theorem parks_giveUp (scheduled : Bool) (items : List (QueuedEvent P)) (c : Client P) :
    Parks c (c.giveUp scheduled items) :=
  parks_suspend c ⟨rfl, rfl⟩ (by simp)

/-- Unless it is a 401, a response leaves the tokens alone. -/
theorem parks_onResponse (settings : Settings P) (scheduled : Bool) (items : List (QueuedEvent P))
    {status : Nat} (hstatus : status ≠ 401) (retryAfter : Option F64) (now : Int) (c : Client P) :
    Parks c (c.onResponse settings scheduled items status retryAfter now) := by
  unfold Client.onResponse
  rw [if_neg hstatus]
  split
  · exact parks_acknowledge scheduled items c
  · split
    · exact parks_suspend c ⟨rfl, rfl⟩ (by simp)
    · split
      · exact parks_scheduleRetry settings scheduled items _ now c
      · exact parks_scheduleRetry settings scheduled items _ now c

end Pieces

/-! ## One step -/

section Steps

variable {settings : Settings P} {c b c' : Client P} {x : Label P} {out : Effect P} {now : Int}
  {task : Nat} {answer : Answer} {beacon : Option Bool} {scheduled : Bool} {point : Point P}

theorem Takes.of_parks (htokens : b.tokens = c.tokens) (htasks : ∀ task ∈ b.tasks, task ∈ c.tasks)
    (h : Parks b out) :
    Takes settings c (.resume task answer beacon now, out.2) out.1 := by
  obtain ⟨last, hquiet, hlast⟩ := h.tasks
  refine .of_kept (h.tokens.trans htokens) rfl ?_ fun r hr => absurd hr (h.sent r)
  intro t ht
  rw [hlast] at ht
  rcases List.mem_append.mp ht with ht | ht
  · exact .inl (htasks t ht)
  · rw [List.mem_singleton.mp ht]
    exact .inr (hquiet.suspends _)

/-- A call that has its token sends a request and is suspended. -/
theorem Takes.of_sent {token : String} {last : Task P} {events : List (DatacatEvent P)}
    (htokens : b.tokens = c.tokens) (htasks : ∀ task ∈ b.tasks, task ∈ c.tasks)
    (huses : c.Uses token) (hawaits : last.awaits = none)
    (hcarries : ∀ t, last.carries = some t → t = token) :
    Takes settings c (.resume task answer beacon now, [.sent ⟨token, events, false⟩])
      (b.suspend last) := by
  refine .of_kept htokens rfl ?_ ?_
  · intro t ht
    rcases List.mem_append.mp ht with ht | ht
    · exact .inl (htasks t ht)
    · rw [List.mem_singleton.mp ht]
      refine .inr ⟨?_, ?_, ?_⟩
      · intro promise hpromise
        rw [hawaits] at hpromise
        cases hpromise
      · intro t ht
        rw [hcarries t ht]
        exact huses
      · intro hrefreshing
        cases last with
        | flush scheduled point =>
          cases point with
          | refresh items promise => cases hawaits
          | _ => cases hrefreshing
        | _ => cases hrefreshing
  · intro r hr
    obtain rfl := Output.sent.inj (List.mem_singleton.mp hr)
    exact huses

theorem takes_resumeFlush (htokens : b.tokens = c.tokens)
    (htasks : ∀ task ∈ b.tasks, task ∈ c.tasks) (hmem : Task.flush scheduled point ∈ c.tasks)
    (h : b.resumeFlush settings scheduled answer now point = some out) :
    Takes settings c (.resume task answer beacon now, out.2) out.1 := by
  cases point with
  | fetch items =>
    cases answer with
    | goOn => cases h
    | rejection =>
      obtain rfl := Option.some.inj h
      exact .of_parks htokens htasks (parks_scheduleRetry settings scheduled items none now b)
    | response status retryAfter =>
      obtain rfl := Option.some.inj h
      by_cases hstatus : status = 401
      · -- The token is dropped, and the call waits for the one that comes next.
        subst hstatus
        constructor
        · exact (congrArg TokenManager.answers htokens).trans (List.append_nil _).symm
        · exact nofun
        · intro t ht
          rcases List.mem_append.mp ht with ht | ht
          · exact .inl (htasks t ht)
          · rw [List.mem_singleton.mp ht]
            have hlength : b.tokens.invalidate.answers.length = c.tokens.answers.length := by
              rw [← htokens]
              rfl
            refine .inr ⟨rfl, ?_, nofun, fun _ =>
              ⟨⟨task, retryAfter, beacon, now, rfl⟩, congrArg (some ∘ Promise.pending) hlength⟩⟩
            intro promise hawaits
            rw [← Option.some.inj hawaits, hlength]
            exact .pending
        · exact fun r hr => by cases hr
      · exact .of_parks htokens htasks
          (parks_onResponse settings scheduled items hstatus retryAfter now b)
  | token items nonempty promise =>
    cases Client.flushResumed h with
    | @attempted _ _ _ token houtcome =>
      have huses : c.Uses token := by
        rw [htokens] at houtcome
        exact ⟨_, hmem, .inr ⟨promise, rfl, houtcome⟩⟩
      unfold Client.attemptSend
      split
      · exact .of_sent htokens htasks huses rfl nofun
      · exact .of_parks htokens htasks (parks_suspend b ⟨rfl, rfl⟩ (by simp))
    | abandoned houtcome =>
      exact .of_parks htokens htasks (parks_suspend b ⟨rfl, rfl⟩ (by simp))
  | refresh items promise =>
    cases Client.flushResumed h with
    | @refreshed _ _ token houtcome =>
      rw [htokens] at houtcome
      exact .of_sent htokens htasks ⟨_, hmem, .inr ⟨promise, rfl, houtcome⟩⟩ rfl nofun
    | notRefreshed houtcome =>
      exact .of_parks htokens htasks (parks_giveUp scheduled items b)
  | refetch items =>
    cases Client.flushResumed h with
    | acknowledged => exact .of_parks htokens htasks (parks_acknowledge scheduled items b)
    | failedAgain =>
      exact .of_parks htokens htasks (parks_scheduleRetry settings scheduled items none now b)
  | text items =>
    cases Client.flushResumed h with
    | refused => exact .of_parks htokens htasks (parks_giveUp scheduled items b)
  | next =>
    cases Client.flushResumed h with
    | next =>
      exact .of_asks htokens htasks (asks_flushLoop settings scheduled now b) rfl rfl nofun
  | settled =>
    cases Client.flushResumed h with
    | settled => exact .of_asks htokens htasks (.nothing rfl rfl) rfl rfl nofun

theorem takes_resume (h : c.resume settings task answer beacon now = some out) :
    Takes settings c (.resume task answer beacon now, out.2) out.1 := by
  have htasks : ∀ t ∈ c.tasks.eraseIdx task, t ∈ c.tasks :=
    fun t ht => List.mem_of_mem_eraseIdx ht
  obtain ⟨call, hcall, hresumed⟩ := Client.resumed h
  have hmem : call ∈ c.tasks := List.mem_of_getElem? hcall
  cases hresumed with
  | flush hflush =>
    unfold Client.resume at h
    rw [hcall] at h
    exact takes_resumeFlush (b := { c with tasks := c.tasks.eraseIdx task }) rfl htasks hmem h
  | beaconSent houtcome hbody =>
    exact .of_sent (b := { c with tasks := c.tasks.eraseIdx task }) rfl htasks
      ⟨_, hmem, .inr ⟨_, rfl, houtcome⟩⟩ rfl fun _ ht => (Option.some.inj ht).symm
  | beaconAbandoned houtcome hbody =>
    exact .of_kept rfl rfl (fun t ht => .inl (htasks t ht)) nofun
  | beaconRejected houtcome =>
    exact .of_kept rfl rfl (fun t ht => .inl (htasks t ht)) (by simp)
  | @beaconAnswered items token ok beacon' =>
    have huses : c.Uses token := ⟨_, hmem, .inl rfl⟩
    unfold Client.resumeBeaconFetch
    split
    · exact .of_kept rfl rfl (fun t ht => .inl (htasks t ht)) (by simp)
    · split
      · refine .of_kept rfl rfl (fun t ht => .inl (htasks t ht)) fun r hr => ?_
        simp only [List.mem_cons, Output.sent.injEq, reduceCtorEq, List.not_mem_nil, or_false] at hr
        rw [hr]
        exact huses
      · refine .of_kept rfl rfl (fun t ht => .inl (htasks t ht)) fun r hr => ?_
        simp only [List.mem_cons, Output.sent.injEq, reduceCtorEq, List.not_mem_nil, or_false] at hr
        rw [hr]
        exact huses
      · exact .of_kept rfl rfl (fun t ht => .inl (htasks t ht)) (by simp)

/-- **One step.** -/
theorem Client.takes (h : Step settings c x c') : Takes settings c x c' := by
  obtain ⟨input, outputs⟩ := x
  have hstepped := Client.stepped h
  generalize hout : (c', outputs) = out at hstepped
  cases hstepped with
  | identify actorId tenantId =>
    obtain ⟨rfl, rfl⟩ := Prod.mk.inj hout
    exact .of_kept rfl rfl (fun task htask => .inl htask) nofun
  | track eventName properties eventId now =>
    rcases c.track_cases settings eventName properties eventId now with
      ⟨-, heq⟩ | ⟨event, queue, dropped, -, -, -, heq⟩
    · rw [heq] at hout
      obtain ⟨rfl, rfl⟩ := Prod.mk.inj hout
      exact .of_kept rfl rfl (fun task htask => .inl htask) (by simp)
    · rw [heq] at hout
      obtain ⟨rfl, rfl⟩ := Prod.mk.inj hout
      have hsent : ∀ r, Output.sent r ∈ (if settings.maxQueueSize ≤ c.queue.length then
          [Output.reported dropped, .enqueued event] else [.enqueued event]) → c.Uses r.token := by
        intro r hr
        split at hr <;> simp at hr
      have hasks : Asks { c with queue := queue } now
          (if settings.batchSize.le (F64.ofInt queue.length) then
            { c with queue := queue }.scheduleFlush settings now
          else { c with queue := queue }) := by
        split
        · exact asks_scheduleFlush settings now _
        · exact .nothing rfl rfl
      exact .of_asks (b := { c with queue := queue }) rfl (fun _ ht => ht) hasks rfl rfl hsent
  | flush now =>
    obtain ⟨rfl, rfl⟩ := Prod.mk.inj hout
    split
    · exact .of_kept rfl rfl (fun task htask => .inl htask) nofun
    · exact .of_asks rfl (fun _ ht => ht) (asks_doFlush settings false now c) rfl rfl nofun
  | tick now htimer =>
    obtain ⟨rfl, rfl⟩ := Prod.mk.inj hout
    exact .of_asks rfl (fun _ ht => ht) (asks_scheduleFlush settings now c) rfl rfl nofun
  | pageHidden now hlistening =>
    obtain ⟨rfl, rfl⟩ := Prod.mk.inj hout
    exact .of_asks rfl (fun _ ht => ht) (asks_beaconFlush now c) rfl rfl nofun
  | shutdown now =>
    obtain ⟨rfl, rfl⟩ := Prod.mk.inj hout
    exact .of_asks (b := { c with timer := false, listening := false }) rfl (fun _ ht => ht)
      (asks_doFlush settings false now _) rfl rfl nofun
  | @tokenAnswer answer tokens hsettle =>
    obtain ⟨rfl, rfl⟩ := Prod.mk.inj hout
    unfold TokenManager.settle at hsettle
    obtain ⟨-, hsettle⟩ := Option.ite_none_right_eq_some.mp hsettle
    obtain rfl := Option.some.inj hsettle
    refine ⟨rfl, ?_, fun task htask => .inl htask, nofun⟩
    intro token exp hcached
    cases answer with
    | none => exact .inl hcached
    | some given =>
      obtain ⟨rfl, rfl⟩ := Prod.mk.inj (Option.some.inj hcached)
      exact .inr ⟨rfl, rfl⟩
  | resume hresume =>
    subst hout
    exact takes_resume hresume

/-- What a call that was refused sends carries the token that it waited for. -/
theorem outcome_of_refreshed {items : List (QueuedEvent P)} {promise : Promise} {r : Request P}
    (h : c.resume settings task answer beacon now = some out)
    (htask : c.tasks[task]? = some (.flush scheduled (.refresh items promise)))
    (hr : .sent r ∈ out.2) : c.tokens.outcome promise = some (some r.token) := by
  obtain ⟨call, hcall, hresumed⟩ := Client.resumed h
  rw [htask] at hcall
  obtain rfl := Option.some.inj hcall
  cases hresumed with
  | flush hflush =>
    cases hflush with
    | refreshed houtcome =>
      obtain rfl := Output.sent.inj (List.mem_singleton.mp hr)
      exact houtcome
    | notRefreshed houtcome => exact absurd hr ((parks_giveUp ..).sent r)

end Steps

/-! ## Runs -/

section Runs

variable {settings : Settings P} {c c' : Client P} {x : Label P} {labels : List (Label P)}
  {promise : Promise} {token : String}

/-- A call took the promise: one for the outcome that came next, or a token that was fresh. -/
def Acquired (settings : Settings P) (labels : List (Label P)) (promise : Promise) : Prop :=
  ∃ before x after, labels = before ++ x :: after ∧ x.1.given = none ∧
    (promise = .pending (givenIn before).length ∨
      ∃ token, promise = .resolved token ∧ some token ∈ givenIn before ∧ ∃ now,
        x.1.now = some now ∧
          TokenManager.isExpiringSoon (settings.decodeExp token) now = false)

/-- A call took it when it was refused. -/
def Renewing (labels : List (Label P)) (promise : Promise) : Prop :=
  ∃ before x after, labels = before ++ x :: after ∧ x.1.Unauthorized ∧
    promise = .pending (givenIn before).length

theorem Acquired.snoc (h : Acquired settings labels promise) (x : Label P) :
    Acquired settings (labels ++ [x]) promise := by
  obtain ⟨before, y, after, rfl, htook⟩ := h
  exact ⟨before, y, after ++ [x], by simp, htook⟩

theorem Renewing.snoc (h : Renewing labels promise) (x : Label P) :
    Renewing (labels ++ [x]) promise := by
  obtain ⟨before, y, after, rfl, htook⟩ := h
  exact ⟨before, y, after ++ [x], by simp, htook⟩

theorem Current.snoc (h : Current settings labels token) (x : Label P) :
    Current settings (labels ++ [x]) token := by
  obtain ⟨before, y, after, rfl, htoken⟩ := h
  refine ⟨before, y, after ++ [x], by simp, htoken.imp_left fun hafter => ?_⟩
  rw [givenIn_append]
  exact List.mem_append_left _ hafter

/-- The outcome of a promise for what comes next is given afterwards. -/
theorem mem_givenIn_of_pending {before after : List (Label P)} (hx : x.1.given = none)
    (hanswers : c.tokens.answers = givenIn (before ++ x :: after))
    (h : c.tokens.outcome (.pending (givenIn before).length) = some (some token)) :
    some token ∈ givenIn after := by
  have hsplit : givenIn (before ++ x :: after) = givenIn before ++ givenIn after := by
    rw [givenIn_append]
    exact congrArg (givenIn before ++ ·) (List.filterMap_cons_none hx)
  unfold TokenManager.outcome at h
  rw [hanswers, hsplit] at h
  dsimp only at h
  rw [List.getElem?_append_right le_rfl] at h
  exact List.mem_of_getElem? h

theorem Acquired.current (h : Acquired settings labels promise)
    (hanswers : c.tokens.answers = givenIn labels)
    (houtcome : c.tokens.outcome promise = some (some token)) : Current settings labels token := by
  obtain ⟨before, x, after, rfl, hx, rfl | ⟨taken, rfl, hgiven, hfresh⟩⟩ := h
  · exact ⟨before, x, after, rfl, .inl (mem_givenIn_of_pending hx hanswers houtcome)⟩
  · obtain rfl := Option.some.inj (Option.some.inj houtcome)
    exact ⟨before, x, after, rfl, .inr ⟨hgiven, hfresh⟩⟩

theorem Renewing.renewed (h : Renewing labels promise)
    (hanswers : c.tokens.answers = givenIn labels)
    (houtcome : c.tokens.outcome promise = some (some token)) : Renewed labels token := by
  obtain ⟨before, x, after, rfl, hrefused, rfl⟩ := h
  have hx : x.1.given = none := by
    obtain ⟨task, retryAfter, beacon, now, heq⟩ := hrefused
    rw [heq]
    rfl
  exact ⟨before, x, after, rfl, hrefused, mem_givenIn_of_pending hx hanswers houtcome⟩

/-- Where the tokens come from, that are kept, awaited or carried. -/
structure Sourced (settings : Settings P) (labels : List (Label P)) (c : Client P) : Prop where
  answers : c.tokens.answers = givenIn labels
  cached : ∀ token exp, c.tokens.cached = some (token, exp) →
    some token ∈ givenIn labels ∧ exp = settings.decodeExp token
  awaits : ∀ task ∈ c.tasks, ∀ promise, task.awaits = some promise →
    Acquired settings labels promise
  carries : ∀ task ∈ c.tasks, ∀ token, task.carries = some token → Current settings labels token
  refreshing : ∀ task ∈ c.tasks, task.Refreshing → ∀ promise, task.awaits = some promise →
    Renewing labels promise

theorem Sourced.uses (h : Sourced settings labels c) (huses : c.Uses token) :
    Current settings labels token := by
  obtain ⟨task, hmem, hcarries | ⟨promise, hawaits, houtcome⟩⟩ := huses
  · exact h.carries task hmem token hcarries
  · exact (h.awaits task hmem promise hawaits).current h.answers houtcome

theorem Sourced.asked (h : Sourced settings labels c) (hx : x.1.given = none)
    (hasked : Asked c x.1 promise) : Acquired settings (labels ++ [x]) promise := by
  refine ⟨labels, x, [], rfl, hx, ?_⟩
  cases hasked with
  | pending => exact .inl (congrArg (Promise.pending ·.length) h.answers)
  | kept hnow hcached hfresh =>
    obtain ⟨hgiven, rfl⟩ := h.cached _ _ hcached
    exact .inr ⟨_, rfl, hgiven, _, hnow, hfresh⟩

theorem Sourced.step (h : Sourced settings labels c) (hstep : Step settings c x c') :
    Sourced settings (labels ++ [x]) c' := by
  have htakes := Client.takes hstep
  have hgiven : givenIn (labels ++ [x]) = givenIn labels ++ x.1.given.toList := by
    rw [givenIn_append]
    rfl
  refine ⟨?_, ?_, ?_, ?_, ?_⟩
  · rw [htakes.answers, h.answers, hgiven]
  · intro token exp hcached
    rw [hgiven]
    rcases htakes.cached token exp hcached with hold | ⟨hnew, hexp⟩
    · exact ⟨List.mem_append_left _ (h.cached token exp hold).1, (h.cached token exp hold).2⟩
    · refine ⟨List.mem_append_right _ ?_, hexp⟩
      rw [hnew]
      exact List.mem_singleton_self _
  · intro task htask promise hawaits
    rcases htakes.suspends task htask with hold | ⟨hx, hnew⟩
    · exact (h.awaits task hold promise hawaits).snoc x
    · exact h.asked hx (hnew.awaits promise hawaits)
  · intro task htask token hcarries
    rcases htakes.suspends task htask with hold | ⟨-, hnew⟩
    · exact (h.carries task hold token hcarries).snoc x
    · exact (h.uses (hnew.carries token hcarries)).snoc x
  · intro task htask hrefreshing promise hawaits
    rcases htakes.suspends task htask with hold | ⟨-, hnew⟩
    · exact (h.refreshing task hold hrefreshing promise hawaits).snoc x
    · obtain ⟨hrefused, hpending⟩ := hnew.refreshing hrefreshing
      rw [hawaits, h.answers] at hpending
      exact ⟨labels, x, [], rfl, hrefused, Option.some.inj hpending⟩

theorem sourced_of_run {actorId tenantId : Option String} {listening : Bool}
    (h : Run (Step settings) (.new actorId tenantId listening) labels c) :
    Sourced settings labels c := by
  induction h with
  | nil => exact ⟨rfl, nofun, nofun, nofun, nofun⟩
  | snoc _ hstep ih => exact ih.step hstep

end Runs

/-- The token is refused, and another is given. -/
def tokenRefused : List (Input Unit) :=
  tracked (some "t") ++ [.resume 0 (.response 401 none) none 1, .tokenAnswer (some "u")]

/-- The event is sent again with the second token. -/
def sentAgain : Request Unit where
  token := "u"
  events := [
    { eventId := "e1"
      eventName := "signup"
      actorId := "a"
      sessionId := "s"
      timestampClient := toISOString 0
      properties := ()
      tenantId := none }]
  tokenInBody := false

end Datacat.Sdk
