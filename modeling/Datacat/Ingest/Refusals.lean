import Datacat.Ingest.Intake

/-!
# Refused Requests and the Counters

A request that the intake refuses enqueues nothing. It leaves the counters alone when it is
refused for its number of records, or when none of its records is too large: the records that
are too large are counted before the limiter is asked.

## Main results

- `Outcome.inert_iff`: the refusals that change nothing.
- `totals_of_run`: over a run, the counters grow by the sums over the requests answered OK, and
  by what the other refusals counted.
-/

namespace Datacat.Ingest

open Basics Security

/-- A counter of a domain. -/
def total (s : AppState) (d : Signal) (c : Counter) : Nat := (s.ingestor d).metrics.total c

/-- The queues and the counters of the three domains are as they were. -/
def Inert (s s' : AppState) : Prop :=
  ∀ d, (s'.ingestor d).tx = (s.ingestor d).tx ∧ ∀ c, total s' d c = total s d c

/-- The shares of the counters that a request accounts for, once the intake has `retained` and
`enqueued` some of its `stored` records. -/
def share (stored droppedSkew retained enqueued : Nat) : Counter → Nat
  | .received => enqueued
  | .droppedSkew => droppedSkew
  | .droppedOversized => stored - retained
  | .droppedChannelFull => retained - enqueued

theorem tryEnqueue_total {T : Type} (i : Ingestor T) (batch : List T) (c : Counter) :
    (i.tryEnqueue batch).2.metrics.total c = i.metrics.total c
      + share 0 0 batch.length (i.tryEnqueue batch).1 c := by
  unfold Ingestor.tryEnqueue
  cases i.tx.trySend batch with
  | none => cases c <;> simp [IngestMetrics.total, IngestMetrics.countEnqueue, share]
  | some tx => cases c <;> simp [IngestMetrics.total, IngestMetrics.countEnqueue, share]

/-! ## One request -/

section Request

variable [FloatFormat]

/-- A request whose refusal changes nothing: it has too many records, or none too large. -/
def Harmless (config : Config) (d : Signal) (stored : List d.Row) : Prop :=
  config.maxLogsRecords.toNat < stored.length ∨
    ∀ r ∈ stored, d.contentBytes r ≤ config.limits.maxOtlpRecordBytes

variable {d : Signal} {s s' : AppState} {call : Call} {stored : List d.Row} {droppedSkew : Nat}

/-- What the intake counts before it enqueues: the records that are too large and, once the
limiter has agreed, those outside the skew window. -/
def counted (stored droppedSkew retained : Nat) : Counter → Nat
  | .droppedSkew => droppedSkew
  | .droppedOversized => stored - retained
  | _ => 0

theorem total_afterSizes (c : Counter) :
    (afterSizes d s stored).metrics.total c =
      total s d c + counted stored.length 0 (kept d s stored).length c := by
  cases c <;> rfl

theorem total_afterLimiter (c : Counter) :
    (afterLimiter d s stored droppedSkew).metrics.total c =
      total s d c + counted stored.length droppedSkew (kept d s stored).length c := by
  cases c <;> rfl

theorem Outcome.config_eq {answer : Except AppError (Nat × Nat)}
    (h : Outcome d s call stored droppedSkew answer s') : s'.config = s.config := by
  cases h with
  | tooLarge _ => rfl
  | limited _ _ => simp
  | admitted _ _ => simp

/-- What a refusal leaves in the counters of its domain. -/
def excess (config : Config) (d : Signal) (stored : List d.Row) (c : Counter) : Nat :=
  if config.maxLogsRecords.toNat < stored.length then 0
  else counted stored.length 0
    (withinSize stored config.limits.maxOtlpRecordBytes d.contentBytes).length c

theorem excess_eq_zero_iff {config : Config} :
    (∀ c, excess config d stored c = 0) ↔ Harmless config d stored := by
  unfold excess Harmless
  by_cases hlarge : config.maxLogsRecords.toNat < stored.length
  · exact iff_of_true (fun c => if_pos hlarge) (.inl hlarge)
  · simp only [false_or, hlarge, if_false]
    rw [← length_withinSize_eq_iff]
    have hle := length_withinSize_le stored config.limits.maxOtlpRecordBytes d.contentBytes
    constructor
    · intro h
      have hover : stored.length
          - (withinSize stored config.limits.maxOtlpRecordBytes d.contentBytes).length = 0 :=
        h .droppedOversized
      omega
    · intro h c
      rw [h]
      cases c <;> simp [counted]

/-- A refusal enqueues nothing, and leaves its excess in the counters of its domain. -/
theorem Outcome.refused {e : AppError} (h : Outcome d s call stored droppedSkew (.error e) s')
    (d' : Signal) :
    (s'.ingestor d').tx = (s.ingestor d').tx ∧
      ∀ c, total s' d' c = total s d' c + if d' = d then excess s.config d stored c else 0 := by
  cases h with
  | tooLarge hlarge =>
    refine ⟨by rw [AppState.ingestor_recordBad], fun c => ?_⟩
    rw [excess, if_pos hlarge, ite_self, Nat.add_zero, total, total, AppState.ingestor_recordBad]
  | limited hsize hdecision =>
    unfold total
    rw [AppState.ingestor_recordBad]
    by_cases hd : d' = d
    · subst hd
      rw [AppState.ingestor_setIngestor]
      refine ⟨rfl, fun c => ?_⟩
      rw [total_afterSizes, if_pos rfl, excess, if_neg (not_lt.mpr hsize)]
      rfl
    · rw [AppState.ingestor_setIngestor_of_ne _ _ _ hd, AppState.ingestor_setLimiter]
      exact ⟨rfl, fun c => by rw [if_neg hd, Nat.add_zero]⟩

/-- The refusals that leave everything as it was. -/
theorem Outcome.inert_iff {e : AppError}
    (h : Outcome d s call stored droppedSkew (.error e) s') :
    Inert s s' ↔ Harmless s.config d stored := by
  rw [← excess_eq_zero_iff]
  constructor
  · intro hinert c
    have hkept := (hinert d).2 c
    rw [(h.refused d).2 c, if_pos rfl] at hkept
    omega
  · intro hzero d'
    refine ⟨(h.refused d').1, fun c => ?_⟩
    rw [(h.refused d').2 c, hzero c, ite_self, Nat.add_zero]

/-- A request answered OK adds its shares to the counters of its domain, and leaves those of
the others. -/
theorem Outcome.total_eq {retained enqueued : Nat}
    (h : Outcome d s call stored droppedSkew (.ok (retained, enqueued)) s') (d' : Signal)
    (c : Counter) :
    total s' d' c = total s d' c
      + if d' = d then share stored.length droppedSkew retained enqueued c else 0 := by
  cases h with
  | admitted hsize hdecision =>
    unfold total
    by_cases hd : d' = d
    · subst hd
      rw [AppState.ingestor_setIngestor, tryEnqueue_total, total_afterLimiter, if_pos rfl,
        Nat.add_assoc]
      refine congrArg (total s d' c + ·) ?_
      cases c <;> simp [counted, share]
    · rw [AppState.ingestor_setIngestor_of_ne _ _ _ hd, AppState.ingestor_setLimiter, if_neg hd]
      rfl

end Request

/-! ## Runs -/

/-- A request to an intake with its answer, or anything else that happens. -/
inductive Event where
  | request (d : Signal) (call : Call) (stored : List d.Row) (droppedSkew : Nat)
      (answer : Except AppError (Nat × Nat))
  | other

/-- What an event adds to a counter of a domain when it is a request answered OK. -/
def Event.adds (d : Signal) (c : Counter) : Event → Nat
  | .request d' _ stored droppedSkew (.ok (retained, enqueued)) =>
    if d = d' then share stored.length droppedSkew retained enqueued c else 0
  | _ => 0

section Runs

variable [FloatFormat]

/-- The steps. The rest of the server (the tasks that write, the purges, the handler of
events) may do anything but change the configuration and the counters of an intake. -/
inductive Event.Step : AppState → Event → AppState → Prop where
  | request {s : AppState} {d : Signal} {call : Call} {stored : List d.Row} {droppedSkew : Nat} :
      Step s (.request d call stored droppedSkew (accept d s call stored droppedSkew).1)
        (accept d s call stored droppedSkew).2
  | other {s s' : AppState} :
      s'.config = s.config → (∀ d c, total s' d c = total s d c) → Step s .other s'

/-- A request that is refused is one whose refusal changes nothing. -/
def Event.HarmlessRefusal (config : Config) : Event → Prop
  | .request d _ stored _ (.error _) => Harmless config d stored
  | _ => True

/-- What an event adds to a counter of a domain when it is a refused request. -/
def Event.excess (config : Config) (d : Signal) (c : Counter) : Event → Nat
  | .request d' _ stored _ (.error _) => if d = d' then Ingest.excess config d' stored c else 0
  | _ => 0

theorem Event.harmlessRefusal_iff {config : Config} {e : Event} :
    e.HarmlessRefusal config ↔ ∀ d c, e.excess config d c = 0 := by
  cases e with
  | other => exact iff_of_true trivial fun _ _ => rfl
  | request d call stored droppedSkew answer =>
    cases answer with
    | ok counts => exact iff_of_true trivial fun _ _ => rfl
    | error e =>
      show Harmless config d stored ↔
        ∀ d' c, (if d' = d then Ingest.excess config d stored c else 0) = 0
      rw [← excess_eq_zero_iff]
      constructor
      · intro h d' c
        rw [h c, ite_self]
      · intro h c
        simpa using h d c

theorem Event.Step.config_eq {s s' : AppState} {e : Event} (h : Event.Step s e s') :
    s'.config = s.config := by
  cases h with
  | request => exact (accept_outcome ..).config_eq
  | other hconfig _ => exact hconfig

/-- One step adds what its event adds. -/
theorem Event.Step.total_eq {s s' : AppState} {e : Event} (h : Event.Step s e s') (d : Signal)
    (c : Counter) : total s' d c = total s d c + e.adds d c + e.excess s.config d c := by
  cases h with
  | @request d' call stored droppedSkew =>
    have houtcome := accept_outcome d' s call stored droppedSkew
    cases hanswer : (accept d' s call stored droppedSkew).1 with
    | error e =>
      rw [hanswer] at houtcome
      exact (houtcome.refused d).2 c
    | ok counts =>
      rw [hanswer] at houtcome
      exact houtcome.total_eq d c
  | other _ htotal => exact htotal d c

/-- Over a run, each counter grows by what the requests answered OK add to it, and by what the
refused ones leave in it. -/
theorem totals_of_run {s s' : AppState} {events : List Event} (h : Run Event.Step s events s')
    (d : Signal) (c : Counter) :
    s'.config = s.config ∧
      total s' d c = total s d c + (events.map (Event.adds d c)).sum
        + (events.map (Event.excess s.config d c)).sum := by
  induction h with
  | nil => exact ⟨rfl, rfl⟩
  | @snoc events mid s' e hrun hstep ih =>
    obtain ⟨hconfig, htotal⟩ := ih
    refine ⟨hstep.config_eq.trans hconfig, ?_⟩
    rw [hstep.total_eq, htotal, hconfig]
    simp only [List.map_append, List.sum_append, List.map_singleton, List.sum_singleton]
    omega

/-- Every refusal that is harmless leaves the queues and the counters as they were, and no
other; and over a run the counters are the sums over the requests answered OK exactly when
every refusal of the run is harmless. -/
theorem refusals_inert :
    (∀ (d : Signal) (s : AppState) (call : Call) (stored : List d.Row) (droppedSkew : Nat)
        (e : AppError), (accept d s call stored droppedSkew).1 = .error e →
      (Inert s (accept d s call stored droppedSkew).2 ↔ Harmless s.config d stored)) ∧
    ∀ (s s' : AppState) (events : List Event), Run Event.Step s events s' →
      ((∀ d c, total s' d c = total s d c + (events.map (Event.adds d c)).sum) ↔
        ∀ e ∈ events, e.HarmlessRefusal s.config) := by
  refine ⟨fun d s call stored droppedSkew e hanswer => ?_, fun s s' events hrun => ?_⟩
  · have houtcome := accept_outcome d s call stored droppedSkew
    rw [hanswer] at houtcome
    exact houtcome.inert_iff
  · have htotal := totals_of_run hrun
    constructor
    · intro hsum e he
      rw [Event.harmlessRefusal_iff]
      intro d c
      -- What the totals have too much is the sum of the excesses, all of them at least 0.
      have hzero : (events.map (Event.excess s.config d c)).sum = 0 := by
        have := hsum d c
        have := (htotal d c).2
        omega
      exact List.sum_eq_zero_iff.mp hzero _ (List.mem_map_of_mem he)
    · intro hharmless d c
      have hzero : (events.map (Event.excess s.config d c)).sum = 0 := by
        refine List.sum_eq_zero fun n hn => ?_
        obtain ⟨e, he, rfl⟩ := List.mem_map.mp hn
        exact Event.harmlessRefusal_iff.mp (hharmless e he) d c
      have := (htotal d c).2
      omega

end Runs

/-! ## A refusal that counts -/

section Sample

/-- A log with a service and a body. -/
def plainLog (serviceName body : String) : Logs.StoredLog where
  logId := ⟨Vector.replicate 16 0⟩
  logTime := ⟨0⟩
  observedTime := none
  receivedAt := ⟨0⟩
  severityNumber := none
  severityText := none
  body := some body
  serviceName := some serviceName
  scopeName := none
  traceId := none
  spanId := none
  tenantId := none
  actorId := none
  sessionId := none
  resourceAttributes := .object []
  logAttributes := .object []

/-- A server that lets a service write one record, of 16 bytes at most. -/
def tightServer : AppState where
  events := ⟨{ capacity := 8 }, {}⟩
  logs := ⟨{ capacity := 8 }, {}⟩
  spans := ⟨{ capacity := 8 }, {}⟩
  metricPoints := ⟨{ capacity := 8 }, {}⟩
  limiter := .new { RateLimitConfig.default with sessionBurst := 1 } 0
  verifier := ⟨false, fun _ _ => .error "token malformé"⟩
  anomaly := .new .default
  limits := { testLimits with maxOtlpRecordBytes := 16 }
  config :=
    { maxLogsRecords := 2048
      limits := { testLimits with maxOtlpRecordBytes := 16 }
      logsAuth := .none }

def localCall : Call where
  ip := .v4 0x7f000001
  token := none
  now := 0
  verifiedAt := ⟨0⟩
  receivedAt := ⟨0⟩
  evicted := ⟨.v4 0, .v4 0⟩

/-- Of two logs that the limiter refuses, the one that is too large is counted. -/
theorem refusal_not_inert :
    (@accept FloatFormat.ofBits .logs tightServer localCall
        [plainLog "api" "ok", plainLog "api" "a body of 23 characters"] 0).1
      = .error (.rateLimited "session" 1) ∧
    ¬ Inert tightServer (@accept FloatFormat.ofBits .logs tightServer localCall
        [plainLog "api" "ok", plainLog "api" "a body of 23 characters"] 0).2 := by
  refine ⟨by decide +kernel, fun h => ?_⟩
  have hover := (h .logs).2 .droppedOversized
  revert hover
  decide +kernel

/-- A request answered OK and then a refused one: one log received, none dropped. -/
theorem refusals_inert_resent :
    Inert (@accept FloatFormat.ofBits .logs tightServer localCall [plainLog "api" "a"] 0).2
      (@accept FloatFormat.ofBits .logs
        (@accept FloatFormat.ofBits .logs tightServer localCall [plainLog "api" "a"] 0).2
        localCall [plainLog "api" "b"] 0).2 ∧
    ∃ s', Run (@Event.Step FloatFormat.ofBits) tightServer
        [.request .logs localCall [plainLog "api" "a"] 0 (.ok (1, 1)),
          .request .logs localCall [plainLog "api" "b"] 0 (.error (.rateLimited "session" 1))] s' ∧
      total s' .logs .received = 1 ∧ total s' .logs .droppedOversized = 0 := by
  let _ : FloatFormat := FloatFormat.ofBits
  let s₁ := (accept .logs tightServer localCall [plainLog "api" "a"] 0).2
  let s₂ := (accept .logs s₁ localCall [plainLog "api" "b"] 0).2
  have hok : (accept .logs tightServer localCall [plainLog "api" "a"] 0).1 = .ok (1, 1) := by
    decide +kernel
  have hrefused : (accept .logs s₁ localCall [plainLog "api" "b"] 0).1
      = .error (.rateLimited "session" 1) := by decide +kernel
  have hsize : Harmless tightServer.config .logs [plainLog "api" "b"] := .inr (by decide +kernel)
  have hconfig : s₁.config = tightServer.config := (accept_outcome ..).config_eq
  have hrun : Run Event.Step tightServer
      [.request .logs localCall [plainLog "api" "a"] 0 (.ok (1, 1)),
        .request .logs localCall [plainLog "api" "b"] 0 (.error (.rateLimited "session" 1))] s₂ := by
    rw [← hok, ← hrefused]
    exact Run.snoc (Run.single .request) .request
  have hharmless : ∀ e ∈ [Event.request .logs localCall [plainLog "api" "a"] 0 (.ok (1, 1)),
      .request .logs localCall [plainLog "api" "b"] 0 (.error (.rateLimited "session" 1))],
      e.HarmlessRefusal tightServer.config := by
    intro e he
    rcases List.mem_cons.mp he with rfl | he
    · trivial
    · obtain rfl := List.mem_singleton.mp he
      exact hsize
  have htotals := (refusals_inert.2 _ _ _ hrun).mpr hharmless
  have hinert : Inert s₁ s₂ :=
    (refusals_inert.1 .logs s₁ localCall _ 0 _ hrefused).mpr (hconfig ▸ hsize)
  exact ⟨hinert, s₂, hrun, htotals .logs .received, htotals .logs .droppedOversized⟩

end Sample

end Datacat.Ingest
