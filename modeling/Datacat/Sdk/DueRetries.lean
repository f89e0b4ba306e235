import Datacat.Basics.ParseFloat
import Datacat.Basics.Rounding
import Datacat.Sdk.Conservation

/-!
# Retries Come Due

A failed batch waits until an instant that is computed with doubles: the reading of the clock, with
the backoff or with the number that `Retry-After` begins with. A header that does not begin with a
number, or with too large a one, gives an instant that no reading of the clock reaches.

## Main results

- `Client.schedules_resume`: the instant at which the batch of a step may be sent again.
- `comesDue_iff`: when it comes due in time.
-/

namespace Datacat.Sdk

open Basics
open F64 (overflow largest ofRat ofInt parseFloat)

variable {P : Type}

/-! ## Replies -/

/-- The outcome of a `fetch`: a response, with its `Retry-After` as it came, or a rejection. -/
inductive Reply where
  | response (status : Nat) (retryAfter : Option String)
  | rejection
deriving DecidableEq

/-- What the client makes of it. -/
def Reply.answer : Reply → Answer
  | .response status retryAfter => .response status (retryAfter.map parseFloat)
  | .rejection => .rejection

/-- The seconds of the header, when they are a number that is not negative; 0 otherwise. -/
def Reply.seconds : Reply → ℚ
  | .response _ (some header) =>
    let r := parseFloat header
    if r.isFinite then Max.max r.toRat 0 else 0
  | _ => 0

/-- A reading of the clock, in milliseconds since the epoch. -/
def IsTime (now : Int) : Prop := 0 ≤ now ∧ now ≤ 8640000000000000

/-- The item is due at each reading of the clock once so many milliseconds have passed. -/
def RetryItem.DueWithin (item : RetryItem P) (now : Int) (millis : ℚ) : Prop :=
  ∀ t : Int, IsTime t → now + millis ≤ t → item.notBefore.le (ofInt t) = true

/-- The number of the header in milliseconds is a double. -/
def Readable (header : String) : Prop :=
  (parseFloat header).isFinite = true ∧ |(parseFloat header).toRat * 1000| < overflow

/-- The header that the step reads: that of the answer 429 to a first request. -/
def headerRead (c : Client P) (task : Nat) : Reply → Option String
  | .response status retryAfter =>
    match c.tasks[task]? with
    | some (.flush _ (.fetch _)) => if status = 429 then retryAfter else none
    | _ => none
  | .rejection => none

/-! ## Sums of doubles -/

section Sums

variable {now : Int} {x : F64}

theorem natAbs_le_of_isTime (h : IsTime now) : now.natAbs ≤ 2 ^ 53 := by
  unfold IsTime at h
  omega

/-- What is added to a reading of the clock is far from an overflow. -/
theorem isFinite_plus (h : IsTime now) :
    (plus (ofInt now) x).isFinite = x.isFinite := by
  unfold plus
  split
  · rename_i hx
    have hsmall : |(now : ℚ)| ≤ 2 ^ 53 := by
      rw [abs_of_nonneg (by exact_mod_cast h.1)]
      have hle : now ≤ 2 ^ 53 := by
        have := h.2
        omega
      exact_mod_cast hle
    rw [hx, F64.add, F64.isFinite_ofRat_iff, F64.toRat_ofInt (natAbs_le_of_isTime h)]
    have hsum := abs_add_le (now : ℚ) x.toRat
    have hlargest := F64.abs_toRat_le hx
    have hbelow := F64.largest_add_lt_overflow
    linarith
  · rename_i hx
    rw [Bool.eq_false_iff.mpr hx]

theorem isFinite_thousandTimes :
    (thousandTimes x).isFinite = true ↔ x.isFinite = true ∧ |x.toRat * 1000| < overflow := by
  have hthousand : (ofInt 1000).toRat = 1000 := by
    exact_mod_cast F64.toRat_ofInt (n := 1000) (by decide)
  unfold thousandTimes
  split
  · rename_i hx
    rw [F64.mul, F64.isFinite_ofRat_iff, hthousand]
    exact (and_iff_right hx).symm
  · rename_i hx
    exact iff_of_false hx fun hand => hx hand.1

/-- A wait is over at a reading of the clock when it is at most the time that has passed. -/
theorem plus_le_ofInt {t : Int} (hnow : IsTime now) (hx : x.isFinite = true)
    (hwait : now + x.toRat ≤ t) : (plus (ofInt now) x).le (ofInt t) = true := by
  rw [plus, if_pos hx, F64.add, F64.toRat_ofInt (natAbs_le_of_isTime hnow)]
  exact F64.ofRat_mono hwait

/-- The rounding of the product does not pass a whole number of milliseconds. -/
theorem toRat_thousandTimes_le {n : ℕ} (hn : n ≤ 2 ^ 53) (hx : x.isFinite = true)
    (h : x.toRat * 1000 ≤ n) : (thousandTimes x).toRat ≤ n := by
  have hthousand : (ofInt 1000).toRat = 1000 := by
    exact_mod_cast F64.toRat_ofInt (n := 1000) (by decide)
  rw [thousandTimes, if_pos hx, F64.mul, hthousand]
  exact F64.toRat_ofRat_le hn h

theorem isFinite_ofInt {n : Int} (h : n.natAbs ≤ 2 ^ 53) : (ofInt n).isFinite = true := by
  have hsmall : |(n : ℚ)| ≤ 2 ^ 53 := by
    have hle : |n| ≤ 2 ^ 53 := by
      rw [Int.abs_eq_natAbs]
      exact_mod_cast h
    exact_mod_cast hle
  have hbelow := F64.largest_add_lt_overflow
  have hlargest : 0 ≤ largest := (abs_nonneg _).trans (F64.abs_toRat_le (x := ofInt 0) (by decide))
  rw [ofInt, F64.isFinite_ofRat_iff]
  linarith

end Sums

/-! ## What a step schedules -/

section Scheduled

variable {settings : Settings P} {c : Client P} {items : List (QueuedEvent P)} {now : Int}
  {scheduled : Bool} {out : Effect P} {item : RetryItem P}

/-- The schedule with one more batch, or as it was. -/
def Schedules (now : Int) (wait : Option F64) (before after : List (RetryItem P)) : Prop :=
  after = before ∨ ∃ nextItems attempt, after = before ++
    [⟨nextItems, plus (ofInt now) (wait.getD (ofInt (backoffMs attempt)))⟩]

theorem Client.schedules_scheduleRetry {wait : Option F64} :
    Schedules now wait c.retrySchedule
      (c.scheduleRetry settings scheduled items wait now).1.retrySchedule := by
  unfold scheduleRetry
  dsimp only
  split
  · exact .inl rfl
  · exact .inr ⟨_, _, rfl⟩

theorem Client.retrySchedule_flushLoop (c : Client P) :
    (c.flushLoop settings scheduled now).retrySchedule = c.retrySchedule := by
  unfold flushLoop
  split
  · rfl
  · dsimp only
    split <;> rfl

theorem Client.retrySchedule_attemptSend {token : String} :
    (c.attemptSend settings scheduled items token).1.retrySchedule = c.retrySchedule := by
  unfold attemptSend
  split <;> rfl

/-- An answer to a first request: the header counts with the status 429 alone. -/
theorem Client.schedules_onResponse {status : Nat} {retryAfter : Option F64} :
    Schedules now (if status = 429 then retryAfter.map thousandTimes else none) c.retrySchedule
      (c.onResponse settings scheduled items status retryAfter now).1.retrySchedule := by
  by_cases hthrottled : status = 429
  · subst hthrottled
    exact schedules_scheduleRetry
  · rw [if_neg hthrottled]
    unfold onResponse
    split
    · exact .inl rfl
    · split
      · exact .inl rfl
      · split
        · exact .inl rfl
        · exact schedules_scheduleRetry

/-- Elsewhere no header is read. -/
theorem FlushResumed.schedules {point : Point P}
    (h : FlushResumed settings scheduled now c point out)
    (hpoint : ∀ items, point ≠ .fetch items) :
    Schedules now none c.retrySchedule out.1.retrySchedule := by
  cases h with
  | attempted houtcome => exact .inl Client.retrySchedule_attemptSend
  | responded status retryAfter => exact absurd rfl (hpoint _)
  | unreachable => exact absurd rfl (hpoint _)
  | failedAgain => exact Client.schedules_scheduleRetry
  | next => exact .inl (Client.retrySchedule_flushLoop c)
  | _ => exact .inl rfl

/-- A beacon schedules nothing. -/
theorem Client.retrySchedule_resumeBeaconFetch {token : String} {ok : Bool}
    {beacon : Option Bool} :
    (c.resumeBeaconFetch items token ok beacon).1.retrySchedule = c.retrySchedule := by
  unfold resumeBeaconFetch
  split
  · rfl
  · split <;> rfl

theorem headerRead_eq_none {task : Nat} (reply : Reply)
    (h : ∀ scheduled items, c.tasks[task]? ≠ some (.flush scheduled (.fetch items))) :
    headerRead c task reply = none := by
  cases reply with
  | rejection => rfl
  | response status retryAfter =>
    unfold headerRead
    dsimp only
    split
    · exact absurd ‹_› (h _ _)
    · rfl

/-- What a step that goes on schedules: after the seconds of the header, or after the backoff. -/
theorem Client.schedules_resume {task : Nat} {reply : Reply} {beacon : Option Bool}
    (h : c.resume settings task reply.answer beacon now = some out) :
    Schedules now ((headerRead c task reply).map fun header => thousandTimes (parseFloat header))
      c.retrySchedule out.1.retrySchedule := by
  by_cases hfetch : ∃ scheduled items, c.tasks[task]? = some (.flush scheduled (.fetch items))
  · obtain ⟨scheduled, items, htask⟩ := hfetch
    unfold resume at h
    dsimp only at h
    rw [htask] at h
    cases reply with
    | rejection =>
      obtain rfl := Option.some.inj h
      exact schedules_scheduleRetry
    | response status retryAfter =>
      obtain rfl := Option.some.inj h
      have hwait : (headerRead c task (.response status retryAfter)).map
            (fun header => thousandTimes (parseFloat header)) =
          if status = 429 then (retryAfter.map parseFloat).map thousandTimes else none := by
        rw [headerRead, htask]
        dsimp only
        split
        · rw [Option.map_map]
          rfl
        · rfl
      rw [hwait]
      exact schedules_onResponse
  · rw [headerRead_eq_none reply fun scheduled items htask => hfetch ⟨scheduled, items, htask⟩]
    obtain ⟨call, htask, hresumed⟩ := resumed h
    cases hresumed with
    | flush hflush =>
      exact hflush.schedules fun items hpoint => hfetch ⟨_, items, hpoint ▸ htask⟩
    | beaconAnswered ok beacon => exact .inl retrySchedule_resumeBeaconFetch
    | _ => exact .inl rfl

end Scheduled

/-! ## Retries come due -/

section Due

variable {settings : Settings P} {c : Client P} {task : Nat} {reply : Reply} {beacon : Option Bool}
  {now : Int} {out : Effect P} {item : RetryItem P}

theorem backoffMs_le (attempt : Nat) : backoffMs attempt ≤ 30000 := min_le_right _ _

/-- After a backoff of any attempt. -/
theorem comesDue_of_backoff (hnow : IsTime now) {attempt : Nat} {millis : ℚ}
    (hmillis : 30000 ≤ millis)
    (hitem : item.notBefore = plus (ofInt now) (ofInt (backoffMs attempt))) :
    item.notBefore.isFinite = true ∧ item.DueWithin now millis := by
  have hbackoff := backoffMs_le attempt
  have hsmall : (backoffMs attempt : Int).natAbs ≤ 2 ^ 53 := by omega
  refine ⟨?_, fun t ht hdue => ?_⟩
  · rw [hitem, isFinite_plus hnow]
    exact isFinite_ofInt hsmall
  · rw [hitem]
    refine plus_le_ofInt hnow (isFinite_ofInt hsmall) ?_
    have hle : ((backoffMs attempt : Int) : ℚ) ≤ 30000 := by exact_mod_cast hbackoff
    rw [F64.toRat_ofInt hsmall]
    linarith

/-- After the seconds of a header. -/
theorem comesDue_of_header (hnow : IsTime now) {v : F64} {millis : ℚ} (hmillis : 0 ≤ millis)
    (hseconds : v.isFinite = true → v.toRat * 1000 ≤ millis)
    (hitem : item.notBefore = plus (ofInt now) (thousandTimes v)) :
    (item.notBefore.isFinite = true ∧ item.DueWithin now millis) ↔
      v.isFinite = true ∧ |v.toRat * 1000| < overflow := by
  have hfinite : item.notBefore.isFinite = true ↔
      v.isFinite = true ∧ |v.toRat * 1000| < overflow := by
    rw [hitem, isFinite_plus hnow]
    exact isFinite_thousandTimes
  refine ⟨fun h => hfinite.mp h.1, fun h => ⟨hfinite.mpr h, fun t ht hdue => ?_⟩⟩
  -- the time that has passed is a whole number of milliseconds
  obtain ⟨n, hn⟩ : ∃ n : ℕ, t = now + n := by
    have hle : (now : ℚ) ≤ t := by linarith
    exact Int.le.dest (by exact_mod_cast hle) |>.imp fun n hn => hn.symm
  have hbound : n ≤ 2 ^ 53 := by
    have hafter := hnow.1
    have hbefore := ht.2
    omega
  have hcast : (t : ℚ) = now + n := by
    rw [hn]
    push_cast
    ring
  rw [hitem]
  refine plus_le_ofInt hnow (isFinite_thousandTimes.mpr h) ?_
  have hwait := toRat_thousandTimes_le hbound h.1 (by linarith [hseconds h.1])
  linarith

theorem seconds_response {header : String} (status : Nat) (h : (parseFloat header).isFinite = true) :
    (parseFloat header).toRat ≤ (Reply.response status (some header)).seconds := by
  unfold Reply.seconds
  dsimp only
  rw [if_pos h]
  exact le_max_left _ _

theorem reply_of_headerRead {header : String} (h : headerRead c task reply = some header) :
    ∃ status, reply = .response status (some header) := by
  cases reply with
  | rejection => cases h
  | response status retryAfter =>
    unfold headerRead at h
    dsimp only at h
    split at h
    · split at h
      · exact ⟨status, by rw [h]⟩
      · cases h
    · cases h

/-- A batch that failed comes due within the seconds of the header or the longest backoff, unless
the header that was read is not a number, or too large a one. -/
theorem comesDue_iff (hnow : IsTime now)
    (h : c.resume settings task reply.answer beacon now = some out)
    (hitem : out.1.retrySchedule = c.retrySchedule ++ [item]) :
    (item.notBefore.isFinite = true ∧
        item.DueWithin now (Max.max (1000 * reply.seconds) 30000)) ↔
      ∀ header, headerRead c task reply = some header → Readable header := by
  have hscheduled : ∃ attempt, item.notBefore = plus (ofInt now)
      (((headerRead c task reply).map fun header => thousandTimes (parseFloat header)).getD
        (ofInt (backoffMs attempt))) := by
    rcases Client.schedules_resume h with hsame | ⟨nextItems, attempt, hnext⟩
    · exact absurd (hitem.symm.trans hsame) (by simp)
    · have hlast := List.append_cancel_left (hitem.symm.trans hnext)
      exact ⟨attempt, by rw [List.singleton_inj.mp hlast]⟩
  obtain ⟨attempt, hwait⟩ := hscheduled
  cases hread : headerRead c task reply with
  | none =>
    rw [hread] at hwait
    exact iff_of_true (comesDue_of_backoff hnow (le_max_right _ _) hwait)
      fun header hheader => by cases hheader
  | some header =>
    rw [hread] at hwait
    obtain ⟨status, rfl⟩ := reply_of_headerRead hread
    have hseconds (hfinite : (parseFloat header).isFinite = true) :
        (parseFloat header).toRat * 1000 ≤
          Max.max (1000 * (Reply.response status (some header)).seconds) 30000 := by
      have hle := seconds_response status hfinite
      exact le_max_of_le_left (by linarith)
    rw [comesDue_of_header hnow (le_max_of_le_right (by norm_num)) hseconds hwait]
    exact ⟨fun hreadable other hother => by cases hother; exact hreadable,
      fun hall => hall header rfl⟩

end Due

/-- The client while the first request of its first batch is under way. -/
def requesting : Client Unit :=
  { actorId := some "a"
    tenantId := none
    tokens := { cached := some ("t", 0), answers := [some "t"] }
    flushing := true
    listening := false
    tasks := [.flush true (.fetch [⟨⟨"e1", "signup", "a", "s", toISOString 0, (), none⟩, 0⟩])] }

theorem run_requesting : ∃ labels, Run (Step oneByOne) (.new none none false) labels requesting := by
  have hreplay : (replay oneByOne (tracked (some "t")) (.new none none false)).map Prod.fst =
      some requesting := by decide +kernel
  obtain ⟨⟨c, labels⟩, hreplay, rfl⟩ := Option.map_eq_some_iff.mp hreplay
  exact ⟨labels, run_replay hreplay⟩

theorem readable_twoMinutes : Readable "120" := by
  have hparsed : parseFloat "120" = ofInt 120 := F64.parseFloat_toString 120
  have hvalue : (ofInt 120).toRat = 120 := by
    exact_mod_cast F64.toRat_ofInt (n := 120) (by decide)
  have hbelow := F64.largest_add_lt_overflow
  have hlargest : 0 ≤ largest := (abs_nonneg _).trans (F64.abs_toRat_le (x := ofInt 0) (by decide))
  unfold Readable
  rw [hparsed, hvalue]
  exact ⟨isFinite_ofInt (by decide), by norm_num; linarith⟩

/-- The batch waits for the two minutes that the server asks for. -/
theorem comesDue_twoMinutes :
    ∃ out item, requesting.resume oneByOne 0 (Reply.response 429 (some "120")).answer none 9 =
        some out ∧ out.1.retrySchedule = [item] ∧
      item.notBefore.isFinite = true ∧
      item.DueWithin 9 (Max.max (1000 * (Reply.response 429 (some "120")).seconds) 30000) := by
  have hsteps : ∃ out, requesting.resume oneByOne 0 (Reply.response 429 (some "120")).answer none 9 =
      some out ∧ ∃ item, out.1.retrySchedule = requesting.retrySchedule ++ [item] :=
    ⟨_, rfl, _, rfl⟩
  obtain ⟨out, hout, item, hitem⟩ := hsteps
  have hnow : IsTime 9 := by
    unfold IsTime
    omega
  refine ⟨out, item, hout, hitem, (comesDue_iff hnow hout hitem).mpr fun header hheader => ?_⟩
  obtain rfl : "120" = header := Option.some.inj hheader
  exact readable_twoMinutes

/-- A date is no number: its batch is never due. -/
theorem not_comesDue_date :
    (∃ labels, Run (Step oneByOne) (.new none none false) labels requesting) ∧
    ∃ out item, requesting.resume oneByOne 0
          (Reply.response 429 (some "Wed, 21 Oct 2026 07:28:00 GMT")).answer none 9 = some out ∧
        out.1.retrySchedule = [item] ∧ item.notBefore.isFinite = false ∧
        ∀ t, item.notBefore.le (ofInt t) = false := by
  have hdate : parseFloat "Wed, 21 Oct 2026 07:28:00 GMT" = F64.nan := by decide +kernel
  refine ⟨run_requesting, ?_⟩
  rw [Reply.answer, Option.map_some, hdate]
  exact ⟨_, _, rfl, rfl, rfl, fun t => rfl⟩

end Datacat.Sdk
