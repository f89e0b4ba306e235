import Datacat.Api.Submitted
import Datacat.Ingest.Refusals

/-!
# What a Client Is Told, and What It Is Charged

The number of rejected records that a successful answer reports covers the records that the
queue of the domain refuses, and no others. The limiter is asked for the number of records that
the flattening stores, not for the number submitted.

## Main results

- `rejected_iff`: the answers that report every record that is not enqueued.
- `charge_iff`: the requests that are charged for every record they submit.
-/

namespace Datacat.Api

open Basics Security Ingest

/-! ## Queues -/

/-- How many records a queue holds. -/
def queuedIn {T : Type} (i : Ingestor T) : Nat := (i.tx.queue.map List.length).sum

/-- The records of a batch are all enqueued, or none is. -/
theorem queuedIn_tryEnqueue {T : Type} (i : Ingestor T) (batch : List T) :
    queuedIn (i.tryEnqueue batch).2 = queuedIn i + (i.tryEnqueue batch).1 ∧
      (i.tryEnqueue batch).1 ≤ batch.length := by
  unfold Ingestor.tryEnqueue
  cases hsend : i.tx.trySend batch with
  | none => exact ⟨rfl, Nat.zero_le _⟩
  | some tx =>
    obtain ⟨-, rfl⟩ := Channel.trySend_eq_some hsend
    refine ⟨?_, le_rfl⟩
    simp [queuedIn]

/-! ## Tokens -/

/-- The tokens asked of the limiter, as a number. -/
theorem cost_charge (stored : Nat) :
    RateLimiter.cost (charge stored) = ((max (max stored 1 % 2 ^ 32) 1 : Nat) : ℚ) := by
  unfold RateLimiter.cost charge
  refine congrArg Nat.cast ?_
  rw [UInt32.toNat_max]
  rfl

/-- The charge for the rows that fit covers `count` records exactly when there is one, or all
of them give a row and the number does not wrap. -/
theorem le_cost_charge_iff {count stored : Nat} (hcount : 1 ≤ count) (hstored : stored ≤ count) :
    (count : ℚ) ≤ RateLimiter.cost (charge stored) ↔
      count = 1 ∨ (stored = count ∧ count < 2 ^ 32) := by
  rw [cost_charge, Nat.cast_le]
  have hmod : max stored 1 % 2 ^ 32 ≤ max stored 1 := Nat.mod_le ..
  constructor
  · intro h
    by_cases hone : count = 1
    · exact .inl hone
    · right
      have hwhole : max stored 1 % 2 ^ 32 = count := by omega
      have hlt := Nat.mod_lt (max stored 1) (show 0 < 2 ^ 32 by decide)
      omega
  · rintro (rfl | ⟨rfl, hlt⟩)
    · exact le_max_right _ _
    · rw [max_eq_left hcount, Nat.mod_eq_of_lt hlt]
      exact le_max_left _ _

section Accounting

variable [FloatFormat]

/-- A request answered OK: its records fit, and its queue grows by what was enqueued. -/
theorem accept_ok {d : Signal} {s s' : AppState} {call : Call} {stored : List d.Row}
    {droppedSkew total enqueued : Nat}
    (h : accept d s call stored droppedSkew = (.ok (total, enqueued), s')) :
    stored.length ≤ s.config.maxLogsRecords.toNat ∧ total = (kept d s stored).length ∧
      enqueued ≤ total ∧
      queuedIn (s'.ingestor d) = queuedIn (s.ingestor d) + enqueued := by
  have houtcome : Outcome d s call stored droppedSkew (.ok (total, enqueued)) s' := by
    have haccept := accept_outcome d s call stored droppedSkew
    rwa [h] at haccept
  cases houtcome with
  | admitted hsize hdecision =>
    obtain ⟨hqueue, hle⟩ :=
      queuedIn_tryEnqueue (afterLimiter d s stored droppedSkew) (kept d s stored)
    refine ⟨hsize, rfl, hle, ?_⟩
    rw [AppState.ingestor_setIngestor]
    exact hqueue

/-- The records that are left out before the queue is asked: none exactly when every record
gives a row that is not too large. -/
theorem length_kept_eq_length_iff {d : Signal} {s : AppState} {rows : List (Option d.Row)} :
    (kept d s rows.reduceOption).length = rows.length ↔
      ∀ row ∈ rows, ∃ r, row = some r ∧
        d.contentBytes r ≤ s.config.limits.maxOtlpRecordBytes := by
  have hkept := length_withinSize_le rows.reduceOption s.config.limits.maxOtlpRecordBytes
    d.contentBytes
  have hrows := rows.reduceOption_length_le
  constructor
  · -- Two lists are shorter in turn; when their lengths agree, neither lost an element.
    intro h row hrow
    have hall : rows.reduceOption.length = rows.length := by
      unfold kept at h
      omega
    have hsome := List.reduceOption_length_eq_iff.mp hall row hrow
    obtain ⟨r, rfl⟩ := Option.isSome_iff_exists.mp hsome
    refine ⟨r, rfl, ?_⟩
    apply length_withinSize_eq_iff.mp (h.trans hall.symm)
    exact List.reduceOption_mem_iff.mpr hrow
  · intro h
    have hall : rows.reduceOption.length = rows.length := by
      apply List.reduceOption_length_eq_iff.mpr
      intro row hrow
      obtain ⟨r, rfl, -⟩ := h row hrow
      rfl
    refine Eq.trans (length_withinSize_eq_iff.mpr ?_) hall
    intro r hr
    obtain ⟨r', heq, hsize⟩ := h _ (List.reduceOption_mem_iff.mp hr)
    obtain rfl := Option.some.inj heq
    exact hsize

variable [Sha256]

/-- A successful answer reports as many rejected records as were submitted and not enqueued
exactly when every record of the request gives a row, none of them too large. -/
theorem rejected_iff (e : Export) (s s' : AppState) (call : Call) (reply : Reply)
    (rejected : Int) (hserve : e.serve s call = some (reply, s'))
    (hreported : e.reported reply = some rejected) :
    ∃ submission window, e.submission = some submission ∧
      skewWindow call.receivedAt s.limits = some window ∧
      (rejected = submission.count
          - ((queuedIn (s'.ingestor e.signal) : Int) - queuedIn (s.ingestor e.signal)) ↔
        ∀ row ∈ submission.rows call.receivedAt window, ∃ r, row = some r ∧
          e.signal.contentBytes r ≤ s.config.limits.maxOtlpRecordBytes) := by
  obtain ⟨flatten, s₀, parsed, total, enqueued, hread, hadmitted, hparsed, haccept, rfl⟩ :=
    e.accepted_of_reported hserve hreported
  rw [e.flattening_eq] at hread
  obtain ⟨submission, hsubmission, rfl⟩ := Option.map_eq_some_iff.mp hread
  obtain ⟨hlimiter, hconfig, hlimits, hingestor⟩ := admitted_frame hadmitted
  obtain ⟨window, hwindow, hstored⟩ := submission.stored_eq hparsed
  obtain ⟨hsize, htotal, henqueued, hqueue⟩ := accept_ok haccept
  refine ⟨submission, window, hsubmission, hlimits ▸ hwindow, ?_⟩
  -- the bound did not cut the rows, since the intake did not refuse the request
  have hwhole : parsed.stored = (submission.rows call.receivedAt window).reduceOption := by
    rw [hstored, List.length_take] at hsize
    rw [hstored]
    apply List.take_of_length_le
    omega
  have hcount := submission.length_rows call.receivedAt window
  have hkept : (kept e.signal s₀ parsed.stored).length ≤ s₀.config.maxLogsRecords.toNat :=
    (length_withinSize_le ..).trans hsize
  have hmax := s₀.config.maxLogsRecords.toNat_lt
  rw [e.reported_answer (by omega)] at hreported
  obtain rfl := Option.some.inj hreported
  rw [hwhole] at htotal
  have hkeptLe : (kept e.signal s₀ (submission.rows call.receivedAt window).reduceOption).length
      ≤ submission.count := by
    rw [← hcount]
    exact (length_withinSize_le ..).trans (List.reduceOption_length_le _)
  rw [← hconfig, ← length_kept_eq_length_iff, hcount, hqueue, hingestor]
  omega

/-- A request that is authorized and read is refused as too large or charged for every record
it submits, exactly when it has more rows than the bound, or one record, or when every record
gives a row and their number fits in 32 bits. -/
theorem charge_iff (e : Export) (s s₀ : AppState) (call : Call) (submission : Submission e.signal)
    (parsed : Flattened e.signal) (hadmitted : admitted s call = some s₀)
    (hread : e.submission = some submission)
    (hparsed : submission.flatten call.receivedAt s.limits s.config.maxLogsRecords.toNat
      = some parsed) (hcount : 1 ≤ submission.count) :
    ∃ reply s' window, e.serve s call = some (reply, s') ∧
      skewWindow call.receivedAt s.limits = some window ∧
      (¬ Export.RefusedAsTooLarge reply → s'.limiter = (s.limiter.check call.now call.ip
        (serviceKey e.signal call.ip (kept e.signal s parsed.stored))
        (charge parsed.stored.length)).2) ∧
      ((Export.RefusedAsTooLarge reply ∨
          (submission.count : ℚ) ≤ RateLimiter.cost (charge parsed.stored.length)) ↔
        s.config.maxLogsRecords.toNat
            < (submission.rows call.receivedAt window).reduceOption.length ∨
          submission.count = 1 ∨
          ((∀ row ∈ submission.rows call.receivedAt window, row.isSome) ∧
            submission.count < 2 ^ 32)) := by
  obtain ⟨hlimiter, hconfig, hlimits, -⟩ := admitted_frame hadmitted
  obtain ⟨window, hwindow, hstored⟩ := submission.stored_eq hparsed
  have hserve : e.serve s call =
      some (e.answer (accept e.signal s₀ call parsed.stored parsed.droppedSkew).1,
        (accept e.signal s₀ call parsed.stored parsed.droppedSkew).2) := by
    rw [e.serve_eq_handle, handle_admitted hadmitted, e.flattening_eq, hread]
    dsimp only [Option.map_some]
    rw [hlimits, hconfig, hparsed]
    rfl
  -- The limiter is asked once, and only when the request is not refused as too large.
  refine ⟨_, _, window, hserve, hwindow, ?_, ?_⟩
  · intro hfits
    rw [Export.refusedAsTooLarge_answer, accept_tooLarge_iff, not_lt] at hfits
    rw [limiter_accept hfits, checked, hlimiter, kept, kept, hconfig]
  · rw [Export.refusedAsTooLarge_answer, accept_tooLarge_iff, hconfig]
    have hcountRows := submission.length_rows call.receivedAt window
    have hrows := List.reduceOption_length_le (submission.rows call.receivedAt window)
    have hlength : parsed.stored.length = min (s.config.maxLogsRecords.toNat + 1)
        (submission.rows call.receivedAt window).reduceOption.length := by
      rw [hstored, List.length_take]
    rw [le_cost_charge_iff hcount (by omega), ← List.reduceOption_length_eq_iff]
    by_cases hlarge : s.config.maxLogsRecords.toNat
        < (submission.rows call.receivedAt window).reduceOption.length
    · -- More rows than the bound are refused.
      exact iff_of_true (.inl (by omega)) (.inl hlarge)
    · -- the bound does not cut the rows, so what is stored is every row
      have hwhole : parsed.stored.length
          = (submission.rows call.receivedAt window).reduceOption.length := by omega
      rw [hwhole, hcountRows]

end Accounting

/-! ## Records outside the window -/

section Sample

/-- A log of a service with its body, `days` days after the epoch. -/
def dayLog (days : UInt64) (body : String) : Logs.Grpc.LogRecord where
  timeUnixNano := days * 86400000000000
  observedTimeUnixNano := 0
  severityNumber := 0
  severityText := ""
  body := some (.stringValue body)
  attributes := []
  traceId := []
  spanId := []

def logsExport (records : List Logs.Grpc.LogRecord) : Export :=
  .grpcLogs ⟨[⟨none, [⟨none, records⟩]⟩]⟩

/-- An export in the window of a row of its own: every record of it is enqueued. -/
theorem rejected_iff_inWindow :
    ∃ reply s', @Export.serve FloatFormat.ofBits Sha256.standard (logsExport [dayLog 0 "ok"])
        tightServer localCall = some (reply, s') ∧
      (0 : Int) = (1 : Nat) - ((queuedIn s'.logs : Int) - queuedIn tightServer.logs) := by
  let _ : FloatFormat := FloatFormat.ofBits
  let _ : Sha256 := Sha256.standard
  have hanswer : ((logsExport [dayLog 0 "ok"]).serve tightServer localCall).bind
      (fun r => (logsExport [dayLog 0 "ok"]).reported r.1) = some 0 := by decide +kernel
  obtain ⟨⟨reply, s'⟩, hserve, hreported⟩ := Option.bind_eq_some_iff.mp hanswer
  refine ⟨reply, s', hserve, ?_⟩
  obtain ⟨submission, window, hread, hwindow, hiff⟩ := rejected_iff _ _ _ _ _ _ hserve hreported
  obtain rfl := Option.some.inj hread
  refine hiff.mpr fun row hrow => ?_
  -- The window is evaluated, and with it the size of what is in it.
  obtain rfl : window = (⟨-2678400000000000⟩, ⟨86400000000000⟩) :=
    Option.some.inj (hwindow.symm.trans (by decide +kernel))
  have hsmall : ((protoLogsSubmission ⟨[⟨none, [⟨none, [dayLog 0 "ok"]⟩]⟩]⟩).rows
      localCall.receivedAt (⟨-2678400000000000⟩, ⟨86400000000000⟩)).all
        (fun row => row.elim false fun r => decide (Signal.logs.contentBytes r ≤ 16)) = true := by
    decide +kernel
  have hkept := List.all_eq_true.mp hsmall row hrow
  cases row with
  | none => cases hkept
  | some r => exact ⟨r, rfl, of_decide_eq_true hkept⟩

/-- A log from the far future is dropped; the answer says that nothing is. -/
theorem rejected_omitted :
    ((@Export.serve FloatFormat.ofBits Sha256.standard (logsExport [dayLog 40 "ok"])
        tightServer localCall).map fun r =>
          ((logsExport [dayLog 40 "ok"]).reported r.1,
            (queuedIn r.2.logs : Int) - queuedIn tightServer.logs)) = some (some 0, 0) ∧
    (@Export.submission FloatFormat.ofBits Sha256.standard (logsExport [dayLog 40 "ok"])).map
      Submission.count = some 1 := by
  decide +kernel

/-- Two logs in the window are charged as two records. -/
theorem charge_iff_inWindow :
    ∃ reply s', @Export.serve FloatFormat.ofBits Sha256.standard
        (logsExport [dayLog 0 "a", dayLog 0 "b"]) tightServer localCall = some (reply, s') ∧
      (Export.RefusedAsTooLarge reply ∨ ((2 : Nat) : ℚ) ≤ RateLimiter.cost (charge 2)) := by
  let _ : FloatFormat := FloatFormat.ofBits
  let _ : Sha256 := Sha256.standard
  obtain ⟨s₀, hadmitted⟩ : ∃ s₀, admitted tightServer localCall = some s₀ :=
    Option.isSome_iff_exists.mp (by decide +kernel)
  have hstored : ((protoLogsSubmission ⟨[⟨none, [⟨none, [dayLog 0 "a", dayLog 0 "b"]⟩]⟩]⟩).flatten
      localCall.receivedAt tightServer.limits tightServer.config.maxLogsRecords.toNat).map
        (fun parsed => parsed.stored.length) = some 2 := by decide +kernel
  obtain ⟨parsed, hparsed, hlength⟩ := Option.map_eq_some_iff.mp hstored
  obtain ⟨reply, s', window, hserve, hwindow, -, hiff⟩ :=
    charge_iff (logsExport [dayLog 0 "a", dayLog 0 "b"]) tightServer s₀ localCall _ parsed
      hadmitted rfl hparsed (by decide)
  refine ⟨reply, s', hserve, ?_⟩
  have hcharge : charge 2 = charge parsed.stored.length := congrArg charge hlength.symm
  rw [hcharge]
  refine hiff.mpr (.inr (.inr ⟨fun row hrow => ?_, by decide⟩))
  obtain rfl : window = (⟨-2678400000000000⟩, ⟨86400000000000⟩) :=
    Option.some.inj (hwindow.symm.trans (by decide +kernel))
  have hkept : ((protoLogsSubmission ⟨[⟨none, [⟨none, [dayLog 0 "a", dayLog 0 "b"]⟩]⟩]⟩).rows
      localCall.receivedAt (⟨-2678400000000000⟩, ⟨86400000000000⟩)).all Option.isSome = true := by
    decide +kernel
  exact List.all_eq_true.mp hkept row hrow

/-- Two logs from the far future are charged as one record, and the request is accepted. -/
theorem charge_omitted :
    ((@Export.submission FloatFormat.ofBits Sha256.standard
        (logsExport [dayLog 40 "a", dayLog 40 "b"])).map fun submission =>
          (submission.count, (submission.flatten localCall.receivedAt tightServer.limits
            tightServer.config.maxLogsRecords.toNat).map fun parsed =>
              charge parsed.stored.length)) = some (2, some 1) ∧
    ((@Export.serve FloatFormat.ofBits Sha256.standard
        (logsExport [dayLog 40 "a", dayLog 40 "b"]) tightServer localCall).map fun r =>
          (logsExport [dayLog 40 "a", dayLog 40 "b"]).reported r.1) = some (some 0) ∧
    ¬ ((2 : Nat) : ℚ) ≤ RateLimiter.cost 1 := by
  decide +kernel

end Sample

end Datacat.Api
