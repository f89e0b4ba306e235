import Datacat.Ingest.Refusals

/-!
# What the Flattening Keeps

The flattening of a request walks through resources, scopes and records, and stops once more than
`max_records` records are stored; the intake then refuses the request. What is stored is the
beginning of a flat list, and so is what is counted: a record that comes after the last one stored
is neither stored nor dropped.
-/

namespace Datacat.Ingest

open Basics Otlp

/-! ## A flat reference -/

/-- Of the records that `select` stores, the first `max + 1` are stored; and every record is
stored or dropped exactly when at most `max` of those before the last one are selected. -/
structure Flattens {α β : Type} (records : List α) (select : α → Option β) (max : Nat)
    (stored : List β) (dropped : Nat) : Prop where
  stored_eq : stored = (records.filterMap select).take (max + 1)
  counted : stored.length + dropped = records.length ↔
    (records.dropLast.filterMap select).length ≤ max

section Reference

variable {α β γ : Type} {records : List α} {select : α → Option β} {max : Nat} {stored : List β}
  {dropped : Nat}

theorem length_filterMap (select : α → Option β) (records : List α) :
    (records.filterMap select).length = records.countP fun x => (select x).isSome := by
  induction records with
  | nil => rfl
  | cons x records ih =>
    cases hx : select x with
    | none => rw [List.filterMap_cons_none hx, List.countP_cons_of_neg (by simp [hx]), ih]
    | some y =>
      rw [List.filterMap_cons_some hx, List.countP_cons_of_pos (by simp [hx]), List.length_cons, ih]

/-- A loop that visits the records up to the last one stored, and counts the others. -/
theorem Flattens.of_visited (hstored : stored = (records.filterMap select).take (max + 1))
    (hdropped : stored.length + dropped =
      (visited (fun x => (select x).isSome) (max + 1) records).length) :
    Flattens records select max stored dropped where
  stored_eq := hstored
  counted := by
    rw [hdropped, length_visited_eq_iff, length_filterMap]

/-- More than `max` records are stored exactly when more than `max` are selected. -/
theorem Flattens.max_lt_iff (h : Flattens records select max stored dropped) :
    max < stored.length ↔ max < (records.filterMap select).length := by
  rw [h.stored_eq, List.length_take]
  omega

theorem filterMap_ite (keep : α → Bool) (build : α → β) (records : List α) :
    records.filterMap (fun x => if keep x then some (build x) else none) =
      (records.filter keep).map build := by
  induction records with
  | nil => rfl
  | cons x records ih => by_cases hx : keep x = true <;> simp [hx, ih]

/-- A loop that stores a record of the window and counts another. -/
theorem Flattens.of_refused (keep : α → Bool) (build : α → β) (max : Nat) (records : List α) :
    Flattens records (fun x => if keep x then some (build x) else none) max
      (((records.filter keep).take (max + 1)).map build) (refused keep (max + 1) records) := by
  apply Flattens.of_visited
  · rw [filterMap_ite, List.map_take]
  · have hkeep : (fun x => (if keep x then some (build x) else none).isSome) = keep := by
      funext x
      by_cases hx : keep x = true <;> simp [hx]
    rw [hkeep, length_visited, List.length_map, List.length_take, ← List.countP_eq_length_filter,
      min_comm]

end Reference

/-! ## The three signals -/

section Signals

variable {receivedAt : DateTime} {limits : ValidationLimits} {window : DateTime × DateTime}

/-- What is stored of a span: nothing without identifiers, or outside the window. -/
def selectSpan (window : DateTime × DateTime) (receivedAt : DateTime) (c : Traces.SpanContext) :
    Option Traces.StoredSpan :=
  (c.identify.filter (·.inWindow window receivedAt)).map (·.stored receivedAt)

theorem isSome_selectSpan (c : Traces.SpanContext) :
    (selectSpan window receivedAt c).isSome = c.identify.any (·.inWindow window receivedAt) := by
  unfold selectSpan
  cases c.identify with
  | none => rfl
  | some d => by_cases hd : d.inWindow window receivedAt = true <;> simp [hd, Option.filter_some]

theorem filterMap_selectSpan (spans : List Traces.SpanContext) :
    spans.filterMap (selectSpan window receivedAt) =
      ((spans.filterMap Traces.SpanContext.identify).filter (·.inWindow window receivedAt)).map
        (·.stored receivedAt) := by
  induction spans with
  | nil => rfl
  | cons c spans ih =>
    unfold selectSpan at ih ⊢
    cases hc : c.identify with
    | none => simp [hc, ih]
    | some d => by_cases hd : d.inWindow window receivedAt = true <;>
        simp [hc, hd, ih, Option.filter_some]

/-- A span is stored, outside the window, or without identifiers. -/
theorem countP_spans (spans : List Traces.SpanContext) :
    spans.countP (fun c => (selectSpan window receivedAt c).isSome) +
      (spans.countP (fun c => c.identify.any fun d => !d.inWindow window receivedAt) +
        spans.countP fun c => c.identify.isNone) = spans.length := by
  induction spans with
  | nil => rfl
  | cons c spans ih =>
    simp only [List.countP_cons, List.length_cons, isSome_selectSpan] at ih ⊢
    cases c.identify with
    | none =>
      simp
      omega
    | some d => by_cases hd : d.inWindow window receivedAt = true <;> simp [hd] <;> omega

theorem otlpToSpans_flattens (h : skewWindow receivedAt limits = some window)
    (req : Traces.ExportTraceServiceRequest) (max : Nat) :
    ∃ parse, Traces.otlpToSpans req receivedAt limits max = some parse ∧
      Flattens req.spans (selectSpan window receivedAt) max parse.stored
        (parse.droppedSkew + parse.droppedInvalid) := by
  have hstored : (((req.spans.filterMap Traces.SpanContext.identify).filter
      (·.inWindow window receivedAt)).take (max + 1)).map (·.stored receivedAt) =
        (req.spans.filterMap (selectSpan window receivedAt)).take (max + 1) := by
    rw [filterMap_selectSpan, List.map_take]
  refine ⟨_, by rw [Traces.otlpToSpans_eq, h]; rfl, Flattens.of_visited hstored ?_⟩
  have hsome : (fun c => (selectSpan window receivedAt c).isSome) =
      fun c : Traces.SpanContext => c.identify.any (·.inWindow window receivedAt) :=
    funext isSome_selectSpan
  rw [← countP_spans, countP_visited, ← length_filterMap, min_comm, ← List.length_take, ← hstored,
    hsome]
  rfl

section Hashed

variable [FloatFormat] [Sha256]

/-- What is stored of a log: nothing outside the window. -/
def selectLog (window : DateTime × DateTime) (receivedAt : DateTime) (c : Logs.RecordContext) :
    Option Logs.StoredLog :=
  if c.inWindow window receivedAt then some (c.stored receivedAt) else none

/-- What is stored of a point: nothing outside the window. -/
def selectPoint (window : DateTime × DateTime) (receivedAt : DateTime) (c : Metrics.PointContext) :
    Option Metrics.StoredMetricPoint :=
  if !outsideWindow window (c.fields receivedAt).time then
    some (Metrics.assemble (c.fields receivedAt))
  else none

theorem otlpToLogs_flattens (h : skewWindow receivedAt limits = some window)
    (req : Logs.ExportLogsServiceRequest) (max : Nat) :
    ∃ parse, Logs.otlpToLogs req receivedAt limits max = some parse ∧
      Flattens req.records (selectLog window receivedAt) max parse.stored parse.droppedSkew :=
  ⟨_, by rw [Logs.otlpToLogs_eq, h]; rfl, Flattens.of_refused ..⟩

theorem otlpToMetrics_flattens (h : skewWindow receivedAt limits = some window)
    (req : Metrics.ExportMetricsServiceRequest) (max : Nat) :
    ∃ parse, Metrics.otlpToMetrics req receivedAt limits max = some parse ∧
      Flattens req.points (selectPoint window receivedAt) max parse.stored parse.droppedSkew :=
  ⟨_, by rw [Metrics.otlpToMetrics_eq, h]; rfl, Flattens.of_refused ..⟩

/-- **Conservation of records.** What the flattening stores, what it counts as dropped, and when
the intake refuses what it stores as too large. -/
theorem flattening_conserves (h : skewWindow receivedAt limits = some window) (s : AppState)
    (call : Call) :
    let max := s.config.maxLogsRecords.toNat
    (∀ req : Logs.ExportLogsServiceRequest, (∀ max, ∃ parse,
        Logs.otlpToLogs req receivedAt limits max = some parse ∧
          Flattens req.records (selectLog window receivedAt) max parse.stored
            parse.droppedSkew) ∧
      ∃ parse, Logs.otlpToLogs req receivedAt limits max = some parse ∧
        ((∃ message, (acceptLogs s call parse).1 = .error (.payloadTooLarge message)) ↔
          max < (req.records.filterMap (selectLog window receivedAt)).length)) ∧
    (∀ req : Traces.ExportTraceServiceRequest, (∀ max, ∃ parse,
        Traces.otlpToSpans req receivedAt limits max = some parse ∧
          Flattens req.spans (selectSpan window receivedAt) max parse.stored
            (parse.droppedSkew + parse.droppedInvalid)) ∧
      ∃ parse, Traces.otlpToSpans req receivedAt limits max = some parse ∧
        ((∃ message, (acceptSpans s call parse).1 = .error (.payloadTooLarge message)) ↔
          max < (req.spans.filterMap (selectSpan window receivedAt)).length)) ∧
    ∀ req : Metrics.ExportMetricsServiceRequest, (∀ max, ∃ parse,
        Metrics.otlpToMetrics req receivedAt limits max = some parse ∧
          Flattens req.points (selectPoint window receivedAt) max parse.stored
            parse.droppedSkew) ∧
      ∃ parse, Metrics.otlpToMetrics req receivedAt limits max = some parse ∧
        ((∃ message, (acceptMetricPoints s call parse).1 = .error (.payloadTooLarge message)) ↔
          max < (req.points.filterMap (selectPoint window receivedAt)).length) := by
  refine ⟨fun req => ⟨otlpToLogs_flattens h req, ?_⟩, fun req => ⟨otlpToSpans_flattens h req, ?_⟩,
    fun req => ⟨otlpToMetrics_flattens h req, ?_⟩⟩
  · obtain ⟨parse, hparse, hflattens⟩ := otlpToLogs_flattens h req s.config.maxLogsRecords.toNat
    exact ⟨parse, hparse, accept_tooLarge_iff.trans hflattens.max_lt_iff⟩
  · obtain ⟨parse, hparse, hflattens⟩ := otlpToSpans_flattens h req s.config.maxLogsRecords.toNat
    exact ⟨parse, hparse, accept_tooLarge_iff.trans hflattens.max_lt_iff⟩
  · obtain ⟨parse, hparse, hflattens⟩ :=
      otlpToMetrics_flattens h req s.config.maxLogsRecords.toNat
    exact ⟨parse, hparse, accept_tooLarge_iff.trans hflattens.max_lt_iff⟩

end Hashed

end Signals

section Sample

/-- A log of its own time, or without one. -/
def bareLog (timeUnixNano : Option String) : Logs.LogRecord where
  timeUnixNano := timeUnixNano.map .str
  observedTimeUnixNano := none
  severityNumber := none
  severityText := none
  body := none
  attributes := []
  traceId := none
  spanId := none

/-- A log of the instant at which it is received, and one of 1970. -/
def newAndOld : Logs.ExportLogsServiceRequest :=
  ⟨[⟨none, [⟨none, [bareLog none, bareLog (some "1")]⟩]⟩]⟩

def hundredDays : DateTime := ⟨100 * 86400 * 1000000000⟩

/-- With room for both, one is stored and one is dropped. -/
theorem flattening_conserves_newAndOld :
    ∃ parse, @Logs.otlpToLogs FloatFormat.ofBits Sha256.standard newAndOld hundredDays testLimits 1 =
        some parse ∧ parse.stored.length + parse.droppedSkew = 2 := by
  let _ : FloatFormat := FloatFormat.ofBits
  let _ : Sha256 := Sha256.standard
  obtain ⟨window, hwindow⟩ : ∃ window, skewWindow hundredDays testLimits = some window :=
    Option.isSome_iff_exists.mp (by decide +kernel)
  obtain ⟨hlogs, -, -⟩ := flattening_conserves hwindow tightServer localCall
  obtain ⟨parse, hparse, hflattens⟩ := (hlogs newAndOld).1 1
  refine ⟨parse, hparse, hflattens.counted.mpr ?_⟩
  exact (List.length_filterMap_le _ _).trans (by decide)

/-- With room for one, the loop stops after the log that fills it: nothing is cut of what is
stored, and the other log is not counted. -/
theorem not_flattening_conserves :
    ¬∀ (_ : FloatFormat) (_ : Sha256) (req : Logs.ExportLogsServiceRequest) (receivedAt : DateTime)
      (limits : ValidationLimits) (window : DateTime × DateTime) (max : Nat)
      (parse : Logs.LogsParse), skewWindow receivedAt limits = some window →
      Logs.otlpToLogs req receivedAt limits max = some parse →
      parse.stored.length = (req.records.filterMap (selectLog window receivedAt)).length →
      parse.stored.length + parse.droppedSkew = req.records.length := by
  intro h
  let _ : FloatFormat := FloatFormat.ofBits
  let _ : Sha256 := Sha256.standard
  obtain ⟨window, hwindow, hselected⟩ := (Option.any_eq_true _ _).mp
    (show (skewWindow hundredDays testLimits).any (fun window => decide
        ((newAndOld.records.filterMap (selectLog window hundredDays)).length = 1)) = true
      by decide +kernel)
  obtain ⟨parse, hparse, hcounts⟩ := (Option.any_eq_true _ _).mp
    (show (Logs.otlpToLogs newAndOld hundredDays testLimits 0).any (fun parse => decide
        (parse.stored.length = 1 ∧ parse.droppedSkew = 0)) = true by decide +kernel)
  obtain ⟨hstored, hdropped⟩ := of_decide_eq_true hcounts
  have hall := h _ _ newAndOld hundredDays testLimits window 0 parse hwindow hparse
    (hstored.trans (of_decide_eq_true hselected).symm)
  rw [hstored, hdropped] at hall
  cases hall

end Sample

end Datacat.Ingest
