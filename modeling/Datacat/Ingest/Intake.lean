import Datacat.State

/-!
# The Intake of Logs, Spans and Points

What happens to the records of a request once they are flattened: the bound on their number,
the bound on the size of each, the rate limiter, and the queue of the domain. The intakes of
the three domains are one definition, at each domain's own values.

## Main results

- `accept_outcome`: the one place where the outcomes of an intake are enumerated.
-/

namespace Datacat.Ingest

open Basics Security

/-- What services write. -/
inductive Signal where
  | logs
  | spans
  | metricPoints
deriving DecidableEq

namespace Signal

/-- What is stored of a record. -/
def Row : Signal → Type
  | logs => Logs.StoredLog
  | spans => Traces.StoredSpan
  | metricPoints => Metrics.StoredMetricPoint

/-- What the message about too many records calls them. -/
def noun : Signal → String
  | logs => "LogRecords"
  | spans => "spans"
  | metricPoints => "points de métriques"

def contentBytes [FloatFormat] : (d : Signal) → d.Row → Nat
  | logs => Logs.StoredLog.approxContentBytes
  | spans => Traces.StoredSpan.approxContentBytes
  | metricPoints => Metrics.StoredMetricPoint.approxContentBytes

def serviceName : (d : Signal) → d.Row → Option String
  | logs => Logs.StoredLog.serviceName
  | spans => Traces.StoredSpan.serviceName
  | metricPoints => Metrics.StoredMetricPoint.serviceName

end Signal

end Datacat.Ingest

namespace Datacat.AppState

open Ingest

def ingestor (s : AppState) : (d : Signal) → Ingestor d.Row
  | .logs => s.logs
  | .spans => s.spans
  | .metricPoints => s.metricPoints

def setIngestor (s : AppState) : (d : Signal) → Ingestor d.Row → AppState
  | .logs, i => { s with logs := i }
  | .spans, i => { s with spans := i }
  | .metricPoints, i => { s with metricPoints := i }

section Frames

variable (s : AppState) (d : Signal) (i : Ingestor d.Row)

@[simp] theorem ingestor_setIngestor : (s.setIngestor d i).ingestor d = i := by
  cases d <;> rfl

theorem ingestor_setIngestor_of_ne {d' : Signal} (h : d' ≠ d) :
    (s.setIngestor d i).ingestor d' = s.ingestor d' := by
  cases d <;> cases d' <;> first | rfl | exact absurd rfl h

@[simp] theorem limiter_setIngestor : (s.setIngestor d i).limiter = s.limiter := by
  cases d <;> rfl

@[simp] theorem config_setIngestor : (s.setIngestor d i).config = s.config := by
  cases d <;> rfl

@[simp] theorem ingestor_recordBad (call : Call) : (s.recordBad call).ingestor d = s.ingestor d := by
  cases d <;> rfl

@[simp] theorem limiter_recordBad (call : Call) : (s.recordBad call).limiter = s.limiter := rfl

@[simp] theorem config_recordBad (call : Call) : (s.recordBad call).config = s.config := rfl

@[simp] theorem ingestor_setLimiter (l : Security.RateLimiter) :
    { s with limiter := l }.ingestor d = s.ingestor d := by
  cases d <;> rfl

end Frames

end Datacat.AppState

namespace Datacat.Ingest

open Basics Security

section Intake

variable {T : Type}

/-! ## Counters -/

/-- The counters that an intake may change. -/
inductive Counter where
  | received
  | droppedSkew
  | droppedOversized
  | droppedChannelFull

def IngestMetrics.total (m : IngestMetrics) : Counter → Nat
  | .received => m.receivedTotal
  | .droppedSkew => m.droppedSkewTotal
  | .droppedOversized => m.droppedOversizedTotal
  | .droppedChannelFull => m.droppedChannelFullTotal

/-- The records that are not too large. -/
def withinSize (stored : List T) (maxBytes : Nat) (sizeOf : T → Nat) : List T :=
  stored.filter fun r => decide (sizeOf r ≤ maxBytes)

/-- `drop_oversized`: how many records are too large, the others, and the counters. -/
def dropOversized (stored : List T) (maxBytes : Nat) (sizeOf : T → Nat)
    (metrics : IngestMetrics) : Nat × List T × IngestMetrics :=
  let kept := withinSize stored maxBytes sizeOf
  let dropped := stored.length - kept.length
  (dropped, kept,
    if 0 < dropped then
      { metrics with droppedOversizedTotal := metrics.droppedOversizedTotal + dropped }
    else metrics)

/-- Counts the records that the skew window drops. -/
def IngestMetrics.countSkew (metrics : IngestMetrics) (dropped : Nat) : IngestMetrics :=
  if 0 < dropped then { metrics with droppedSkewTotal := metrics.droppedSkewTotal + dropped }
  else metrics

theorem length_withinSize_le (stored : List T) (maxBytes : Nat) (sizeOf : T → Nat) :
    (withinSize stored maxBytes sizeOf).length ≤ stored.length :=
  List.length_filter_le ..

/-- Nothing is dropped exactly when no record is too large. -/
theorem length_withinSize_eq_iff {stored : List T} {maxBytes : Nat} {sizeOf : T → Nat} :
    (withinSize stored maxBytes sizeOf).length = stored.length ↔
      ∀ r ∈ stored, sizeOf r ≤ maxBytes := by
  unfold withinSize
  rw [List.length_filter_eq_length_iff]
  simp only [decide_eq_true_eq]

theorem dropOversized_eq (stored : List T) (maxBytes : Nat) (sizeOf : T → Nat)
    (metrics : IngestMetrics) :
    dropOversized stored maxBytes sizeOf metrics =
      (stored.length - (withinSize stored maxBytes sizeOf).length,
        withinSize stored maxBytes sizeOf,
        { metrics with
          droppedOversizedTotal := metrics.droppedOversizedTotal
            + (stored.length - (withinSize stored maxBytes sizeOf).length) }) := by
  unfold dropOversized
  dsimp only
  split
  · rfl
  · rename_i hnone
    rw [Nat.eq_zero_of_not_pos hnone]
    rfl

theorem IngestMetrics.countSkew_eq (metrics : IngestMetrics) (dropped : Nat) :
    metrics.countSkew dropped =
      { metrics with droppedSkewTotal := metrics.droppedSkewTotal + dropped } := by
  unfold IngestMetrics.countSkew
  split
  · rfl
  · rename_i hnone
    rw [Nat.eq_zero_of_not_pos hnone]
    rfl

end Intake

/-! ## The intake -/

section Accept

variable [FloatFormat]

/-- `submitted.max(1) as u32`. -/
def charge (submitted : Nat) : UInt32 := .ofNat (max submitted 1)

/-- The key of the session limit: the service of the first record kept, else the address. -/
def serviceKey (d : Signal) (ip : IpAddr) (stored : List d.Row) : String :=
  (stored.head?.bind d.serviceName).getD ip.toText

/-- What the three intakes do with the records of a request: the number retained and the number
enqueued, or the error. -/
def accept (d : Signal) (s : AppState) (call : Call) (stored : List d.Row) (droppedSkew : Nat) :
    Except AppError (Nat × Nat) × AppState :=
  if s.config.maxLogsRecords.toNat < stored.length then
    (.error (.payloadTooLarge (toString stored.length ++ " " ++ d.noun ++ " > maximum "
      ++ toString s.config.maxLogsRecords)), s.recordBad call)
  else
    let submitted := stored.length
    let ingestor := s.ingestor d
    let (_, stored, metrics) := dropOversized stored s.config.limits.maxOtlpRecordBytes
      d.contentBytes ingestor.metrics
    let ingestor := { ingestor with metrics := metrics }
    let (decision, limiter) :=
      s.limiter.check call.now call.ip (serviceKey d call.ip stored) (charge submitted)
    let s := { s with limiter := limiter }
    match decision with
    | .deny scope retryAfterSecs =>
      (.error (.rateLimited scope.text retryAfterSecs), (s.setIngestor d ingestor).recordBad call)
    | .allow =>
      let ingestor := { ingestor with metrics := ingestor.metrics.countSkew droppedSkew }
      let (enqueued, ingestor) := ingestor.tryEnqueue stored
      (.ok (stored.length, enqueued), s.setIngestor d ingestor)

/-- `accept_logs`. -/
def acceptLogs (s : AppState) (call : Call) (parse : Logs.LogsParse) :
    Except AppError (Nat × Nat) × AppState :=
  accept .logs s call parse.stored parse.droppedSkew

/-- `accept_spans`. -/
def acceptSpans (s : AppState) (call : Call) (parse : Traces.SpansParse) :
    Except AppError (Nat × Nat) × AppState :=
  accept .spans s call parse.stored parse.droppedSkew

/-- `accept_metric_points`. -/
def acceptMetricPoints (s : AppState) (call : Call) (parse : Metrics.MetricsParse) :
    Except AppError (Nat × Nat) × AppState :=
  accept .metricPoints s call parse.stored parse.droppedSkew

/-! ## Outcomes -/

/-- The records of a request that are not too large. -/
def kept (d : Signal) (s : AppState) (stored : List d.Row) : List d.Row :=
  withinSize stored s.config.limits.maxOtlpRecordBytes d.contentBytes

/-- The domain once the records that are too large are counted. -/
def afterSizes (d : Signal) (s : AppState) (stored : List d.Row) : Ingestor d.Row :=
  { s.ingestor d with
    metrics := { (s.ingestor d).metrics with
      droppedOversizedTotal := (s.ingestor d).metrics.droppedOversizedTotal
        + (stored.length - (kept d s stored).length) } }

/-- The domain of a request that the limiter allows, before the records are enqueued. -/
def afterLimiter (d : Signal) (s : AppState) (stored : List d.Row) (droppedSkew : Nat) :
    Ingestor d.Row :=
  { afterSizes d s stored with
    metrics := { (afterSizes d s stored).metrics with
      droppedSkewTotal := (afterSizes d s stored).metrics.droppedSkewTotal + droppedSkew } }

/-- The call of the limiter for a request. -/
def checked (d : Signal) (s : AppState) (call : Call) (stored : List d.Row) :
    Decision × RateLimiter :=
  s.limiter.check call.now call.ip (serviceKey d call.ip (kept d s stored))
    (charge stored.length)

/-- How an intake goes: too many records, a refusal of the limiter, or an attempt to enqueue. -/
inductive Outcome (d : Signal) (s : AppState) (call : Call) (stored : List d.Row)
    (droppedSkew : Nat) : Except AppError (Nat × Nat) → AppState → Prop where
  | tooLarge {message : String} :
      s.config.maxLogsRecords.toNat < stored.length →
      Outcome d s call stored droppedSkew (.error (.payloadTooLarge message)) (s.recordBad call)
  | limited {scope : Scope} {retryAfterSecs : Nat} :
      stored.length ≤ s.config.maxLogsRecords.toNat →
      (checked d s call stored).1 = .deny scope retryAfterSecs →
      Outcome d s call stored droppedSkew (.error (.rateLimited scope.text retryAfterSecs))
        (({ s with limiter := (checked d s call stored).2 }.setIngestor d
          (afterSizes d s stored)).recordBad call)
  | admitted :
      stored.length ≤ s.config.maxLogsRecords.toNat →
      (checked d s call stored).1 = .allow →
      Outcome d s call stored droppedSkew
        (.ok ((kept d s stored).length,
          ((afterLimiter d s stored droppedSkew).tryEnqueue (kept d s stored)).1))
        ({ s with limiter := (checked d s call stored).2 }.setIngestor d
          ((afterLimiter d s stored droppedSkew).tryEnqueue (kept d s stored)).2)

theorem accept_outcome (d : Signal) (s : AppState) (call : Call) (stored : List d.Row)
    (droppedSkew : Nat) :
    Outcome d s call stored droppedSkew (accept d s call stored droppedSkew).1
      (accept d s call stored droppedSkew).2 := by
  unfold accept
  split
  · rename_i hlarge
    exact .tooLarge hlarge
  · rename_i hlarge
    have hsize := not_lt.mp hlarge
    dsimp only
    rw [dropOversized_eq]
    -- What is too large to keep is dropped before the limiter is asked.
    cases hdecision : (checked d s call stored).1 with
    | deny scope retryAfterSecs =>
      have hcheck : checked d s call stored =
          (.deny scope retryAfterSecs, (checked d s call stored).2) := Prod.ext hdecision rfl
      unfold checked kept at hcheck
      rw [hcheck]
      exact .limited hsize hdecision
    | allow =>
      have hcheck : checked d s call stored = (.allow, (checked d s call stored).2) :=
        Prod.ext hdecision rfl
      unfold checked kept at hcheck
      rw [hcheck]
      dsimp only
      rw [IngestMetrics.countSkew_eq]
      exact .admitted hsize hdecision

section Limiter

variable {d : Signal} {s : AppState} {call : Call} {stored : List d.Row} {droppedSkew : Nat}

theorem accept_tooLarge_iff :
    (∃ message, (accept d s call stored droppedSkew).1 = .error (.payloadTooLarge message)) ↔
      s.config.maxLogsRecords.toNat < stored.length := by
  have houtcome := accept_outcome d s call stored droppedSkew
  generalize accept d s call stored droppedSkew = result at houtcome
  obtain ⟨answer, s'⟩ := result
  cases houtcome with
  | tooLarge hlarge => exact iff_of_true ⟨_, rfl⟩ hlarge
  | limited hsize hdecision => exact iff_of_false nofun (not_lt.mpr hsize)
  | admitted hsize hdecision => exact iff_of_false nofun (not_lt.mpr hsize)

/-- The limiter is asked once, unless there are too many records. -/
theorem limiter_accept (h : stored.length ≤ s.config.maxLogsRecords.toNat) :
    (accept d s call stored droppedSkew).2.limiter = (checked d s call stored).2 := by
  have houtcome := accept_outcome d s call stored droppedSkew
  generalize accept d s call stored droppedSkew = result at houtcome
  obtain ⟨answer, s'⟩ := result
  cases houtcome with
  | tooLarge hlarge => exact absurd h (not_le.mpr hlarge)
  | limited hsize hdecision => exact AppState.limiter_setIngestor ..
  | admitted hsize hdecision => exact AppState.limiter_setIngestor ..

end Limiter

end Accept

end Datacat.Ingest
