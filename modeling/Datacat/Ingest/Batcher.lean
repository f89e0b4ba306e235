import Datacat.Basics.Run

/-!
# The Batcher

The channel between the request handlers and the background task of a domain, and the loop of
that task. Any number of `try_enqueue` calls are in progress at once, each between its
`try_send` and its counter; the loop takes whichever branch of its `select!` is ready; a flush
leaves room for other steps between the moment it is given the buffer and its result.

Counters are unbounded: the code's would need 2^64 records to wrap.

## Main results

- `conserved_of_run`: what was handed to flushes, then the buffer, then the channel is what was
  accepted, in order.
- `flushes_eq_accepted`: once the loop has ended, exactly the accepted records were flushed.
-/

namespace Datacat.Ingest

open Basics

/-! ## Enqueuing -/

/-- `IngestMetrics`, the counters of a domain. -/
structure IngestMetrics where
  receivedTotal : Nat := 0
  insertedTotal : Nat := 0
  droppedSkewTotal : Nat := 0
  droppedOversizedTotal : Nat := 0
  droppedChannelFullTotal : Nat := 0
  flushFailuresTotal : Nat := 0
  flushesTotal : Nat := 0
deriving DecidableEq

/-- A bounded channel of batches. -/
structure Channel (T : Type) where
  capacity : Nat
  queue : List (List T) := []
  /-- The receiver was dropped. -/
  closed : Bool := false

/-- `try_send`: none when the channel is full or closed. -/
def Channel.trySend {T : Type} (channel : Channel T) (batch : List T) : Option (Channel T) :=
  if channel.closed || decide (channel.capacity ≤ channel.queue.length) then none
  else some { channel with queue := channel.queue ++ [batch] }

theorem Channel.trySend_eq_some {T : Type} {channel channel' : Channel T} {batch : List T}
    (h : channel.trySend batch = some channel') :
    channel.closed = false ∧ channel' = { channel with queue := channel.queue ++ [batch] } := by
  unfold Channel.trySend at h
  split at h
  · cases h
  · rename_i hopen
    refine ⟨?_, (Option.some.inj h).symm⟩
    simp only [Bool.or_eq_true, not_or, Bool.not_eq_true] at hopen
    exact hopen.1

/-- What `try_enqueue` does with the answer of `try_send`. -/
def IngestMetrics.countEnqueue (metrics : IngestMetrics) (n : Nat) (sent : Bool) : IngestMetrics :=
  if sent then { metrics with receivedTotal := metrics.receivedTotal + n }
  else { metrics with droppedChannelFullTotal := metrics.droppedChannelFullTotal + n }

/-- `Ingestor`: where the handlers enqueue. -/
structure Ingestor (T : Type) where
  tx : Channel T
  metrics : IngestMetrics

/-- `try_enqueue`: the number of records enqueued, zero when the channel refuses the batch. -/
def Ingestor.tryEnqueue {T : Type} (ingestor : Ingestor T) (batch : List T) : Nat × Ingestor T :=
  match ingestor.tx.trySend batch with
  | some tx => (batch.length, ⟨tx, ingestor.metrics.countEnqueue batch.length true⟩)
  | none => (0, ⟨ingestor.tx, ingestor.metrics.countEnqueue batch.length false⟩)

/-! ## The loop -/

/-- Where the loop goes on. -/
inductive Phase where
  /-- At the `select!`. -/
  | select
  /-- After the shutdown signal, emptying the channel with `try_recv`. -/
  | drain
  /-- Out of the loop, the receiver not dropped yet. -/
  | leaving
  | ended

/-- Where the task is. -/
inductive Position where
  | at (phase : Phase)
  /-- About to call `flush`. -/
  | flush (next : Phase)
  /-- Inside a flush that was given the buffer, which it clears at its end. -/
  | flushing (next : Phase)

/-- A domain's channel, its calls in progress and its task. -/
structure Batcher (T : Type) where
  channel : Channel T
  /-- Some `Ingestor` still exists. -/
  senders : Bool := true
  /-- `shutdown` was called, or the handle dropped. -/
  signalled : Bool := false
  position : Position := .at .select
  buf : List T := []
  /-- The calls of `try_enqueue` that have an answer of `try_send` and have not counted it. -/
  calls : List (Nat × Bool) := []
  metrics : IngestMetrics := {}

/-- One step of a caller or of the task, with what it chose and what it was answered. -/
inductive Label (T : Type) where
  /-- A call of `try_enqueue` gets the answer of `try_send`. -/
  | trySend (batch : List T) (sent : Bool)
  /-- The call at this place of the list of calls counts its records and returns. -/
  | count (call : Nat)
  /-- The last `Ingestor` is dropped. -/
  | disconnect
  | shutdown
  /-- `rx.recv()` gives a batch. -/
  | recv
  /-- `rx.recv()` gives nothing: no sender is left. -/
  | recvNone
  | tick
  /-- `shutdown_rx.changed()`. -/
  | changed
  | tryRecv
  | tryRecvEmpty
  /-- `flush` finds the buffer empty. -/
  | flushEmpty
  /-- `flush` hands the buffer to `flush_inner`. -/
  | handed (buf : List T)
  /-- `flush_inner` returns the number of rows inserted, or fails. -/
  | flushed (inserted : Option Nat)
  | dropReceiver

/-- `deduplicated_total` of the snapshot, a difference that saturates. -/
def IngestMetrics.deduplicatedTotal (metrics : IngestMetrics) : Nat :=
  metrics.receivedTotal - metrics.insertedTotal

section Steps

variable {T : Type} (flushBatchSize : Nat)

/-- `buf.extend(batch)`, then `flush` once the buffer is large enough. -/
def Batcher.extend (s : Batcher T) (batch : List T) (next : Phase) : Batcher T :=
  let buf := s.buf ++ batch
  { s with
    buf := buf
    position := if flushBatchSize ≤ buf.length then .flush next else .at next }

/-- The counters after a flush. -/
def IngestMetrics.countFlush (metrics : IngestMetrics) (inserted : Option Nat) : IngestMetrics :=
  match inserted with
  | some n =>
    { metrics with
      insertedTotal := metrics.insertedTotal + n
      flushesTotal := metrics.flushesTotal + 1 }
  | none => { metrics with flushFailuresTotal := metrics.flushFailuresTotal + 1 }

/-- The steps. `select!` takes any branch that is ready. -/
inductive Batcher.Step : Batcher T → Label T → Batcher T → Prop where
  | sent {s : Batcher T} {batch : List T} {tx : Channel T} :
      s.senders = true → s.channel.trySend batch = some tx →
      Step s (.trySend batch true)
        { s with channel := tx, calls := s.calls ++ [(batch.length, true)] }
  | refused {s : Batcher T} {batch : List T} :
      s.senders = true → s.channel.trySend batch = none →
      Step s (.trySend batch false) { s with calls := s.calls ++ [(batch.length, false)] }
  | count {s : Batcher T} {before after : List (Nat × Bool)} {n : Nat} {sent : Bool} :
      s.calls = before ++ (n, sent) :: after →
      Step s (.count before.length)
        { s with calls := before ++ after, metrics := s.metrics.countEnqueue n sent }
  -- A call in progress borrows an `Ingestor`.
  | disconnect {s : Batcher T} :
      s.calls = [] → Step s .disconnect { s with senders := false }
  | shutdown {s : Batcher T} : Step s .shutdown { s with signalled := true }
  | recv {s : Batcher T} {batch : List T} {rest : List (List T)} :
      s.position = .at .select → s.channel.queue = batch :: rest →
      Step s .recv
        (Batcher.extend flushBatchSize { s with channel := { s.channel with queue := rest } }
          batch .select)
  | recvNone {s : Batcher T} :
      s.position = .at .select → s.senders = false → s.channel.queue = [] →
      Step s .recvNone { s with position := .flush .leaving }
  | tick {s : Batcher T} :
      s.position = .at .select →
      Step s .tick { s with position := if s.buf.isEmpty then .at .select else .flush .select }
  | changed {s : Batcher T} :
      s.position = .at .select → s.signalled = true →
      Step s .changed { s with position := .at .drain }
  | tryRecv {s : Batcher T} {batch : List T} {rest : List (List T)} :
      s.position = .at .drain → s.channel.queue = batch :: rest →
      Step s .tryRecv
        (Batcher.extend flushBatchSize { s with channel := { s.channel with queue := rest } }
          batch .drain)
  | tryRecvEmpty {s : Batcher T} :
      s.position = .at .drain → s.channel.queue = [] →
      Step s .tryRecvEmpty { s with position := .flush .leaving }
  | flushEmpty {s : Batcher T} {next : Phase} :
      s.position = .flush next → s.buf = [] →
      Step s .flushEmpty { s with position := .at next }
  | handed {s : Batcher T} {next : Phase} :
      s.position = .flush next → s.buf ≠ [] →
      Step s (.handed s.buf) { s with position := .flushing next }
  | flushed {s : Batcher T} {next : Phase} (inserted : Option Nat) :
      s.position = .flushing next →
      Step s (.flushed inserted)
        { s with position := .at next, buf := [], metrics := s.metrics.countFlush inserted }
  | dropReceiver {s : Batcher T} :
      s.position = .at .leaving →
      Step s .dropReceiver
        { s with position := .at .ended, channel := { s.channel with closed := true } }

/-- `spawn`: a new domain. -/
def Batcher.spawn (T : Type) (channelCapacity : Nat) : Batcher T where
  channel := { capacity := channelCapacity }

end Steps

/-! ## What a run did -/

namespace Label

variable {T : Type}

def offered? : Label T → Option (List T)
  | .trySend batch _ => some batch
  | _ => none

def accepted? : Label T → Option (List T)
  | .trySend batch true => some batch
  | _ => none

def rejected? : Label T → Option (List T)
  | .trySend batch false => some batch
  | _ => none

def handed? : Label T → Option (List T)
  | .handed buf => some buf
  | _ => none

end Label

section Runs

variable {T : Type}

/-- The batches given to `try_enqueue`. -/
def offered (labels : List (Label T)) : List (List T) := labels.filterMap Label.offered?

/-- The batches whose `try_enqueue` succeeded, in the order in which they entered the channel. -/
def accepted (labels : List (Label T)) : List (List T) := labels.filterMap Label.accepted?

def rejected (labels : List (Label T)) : List (List T) := labels.filterMap Label.rejected?

/-- The buffers given to flushes. -/
def flushes (labels : List (Label T)) : List (List T) := labels.filterMap Label.handed?

/-- Nothing is enqueued after the shutdown signal. -/
def QuietAfterShutdown (labels : List (Label T)) : Prop :=
  ∀ before after, labels = before ++ after → Label.shutdown ∈ before →
    ∀ batch, Label.trySend batch true ∉ after

theorem QuietAfterShutdown.initial {labels : List (Label T)} {a : Label T}
    (h : QuietAfterShutdown (labels ++ [a])) : QuietAfterShutdown labels := by
  intro before after heq hsignal batch hmem
  refine h before (after ++ [a]) ?_ hsignal batch (List.mem_append_left _ hmem)
  rw [heq, List.append_assoc]

theorem QuietAfterShutdown.last {labels : List (Label T)} {batch : List T}
    (h : QuietAfterShutdown (labels ++ [.trySend batch true])) : Label.shutdown ∉ labels :=
  fun hsignal => h labels [.trySend batch true] rfl hsignal batch (List.mem_singleton_self _)

theorem QuietAfterShutdown.of_split {before after : List (Label T)}
    (hbefore : Label.shutdown ∉ before) (hafter : ∀ batch, Label.trySend batch true ∉ after) :
    QuietAfterShutdown (before ++ .shutdown :: after) := by
  intro first second heq hsignal batch hmem
  rcases List.append_eq_append_iff.mp heq with ⟨mid, rfl, hmid⟩ | ⟨mid, rfl, hmid⟩
  · cases mid with
    | nil =>
      -- The signal is not in the part before it.
      exact hbefore (by simpa using hsignal)
    | cons a mid =>
      obtain ⟨-, rfl⟩ := List.cons.inj hmid
      exact hafter batch (List.mem_append_right _ hmem)
  · exact hbefore (List.mem_append_left _ hsignal)

theorem offered_snoc (labels : List (Label T)) (a : Label T) :
    offered (labels ++ [a]) = offered labels ++ a.offered?.toList := by
  unfold offered
  rw [List.filterMap_append]
  cases h : a.offered? <;> simp [h]

theorem accepted_snoc (labels : List (Label T)) (a : Label T) :
    accepted (labels ++ [a]) = accepted labels ++ a.accepted?.toList := by
  unfold accepted
  rw [List.filterMap_append]
  cases h : a.accepted? <;> simp [h]

theorem rejected_snoc (labels : List (Label T)) (a : Label T) :
    rejected (labels ++ [a]) = rejected labels ++ a.rejected?.toList := by
  unfold rejected
  rw [List.filterMap_append]
  cases h : a.rejected? <;> simp [h]

theorem flushes_snoc (labels : List (Label T)) (a : Label T) :
    flushes (labels ++ [a]) = flushes labels ++ a.handed?.toList := by
  unfold flushes
  rw [List.filterMap_append]
  cases h : a.handed? <;> simp [h]

/-- A batch offered is accepted or rejected. -/
theorem offered_perm (labels : List (Label T)) :
    (offered labels).flatten.Perm ((accepted labels).flatten ++ (rejected labels).flatten) := by
  induction labels using List.reverseRecOn with
  | nil => exact List.Perm.refl _
  | append_singleton labels a ih =>
    rw [offered_snoc, accepted_snoc, rejected_snoc]
    simp only [List.flatten_append]
    cases a with
    | trySend batch sent =>
      cases sent with
      | true =>
        -- The batch joins the accepted ones, before all the rejected ones.
        simp only [Label.offered?, Label.accepted?, Label.rejected?, Option.toList_some,
          Option.toList_none, List.flatten_singleton, List.flatten_nil, List.append_nil,
          List.append_assoc]
        refine (ih.append_right batch).trans ?_
        rw [List.append_assoc]
        exact List.perm_append_comm.append_left _
      | false =>
        simp only [Label.offered?, Label.accepted?, Label.rejected?, Option.toList_some,
          Option.toList_none, List.flatten_singleton, List.flatten_nil, List.append_nil]
        rw [← List.append_assoc]
        exact ih.append_right batch
    | _ => simpa [Label.offered?, Label.accepted?, Label.rejected?] using ih

end Runs

/-! ## Conservation -/

section Conservation

variable {T : Type} {flushBatchSize channelCapacity : Nat}

/-- The part of the buffer that no flush was given yet. -/
def Batcher.held (s : Batcher T) : List T :=
  match s.position with
  | .flushing _ => []
  | _ => s.buf

/-- The records of the calls that have not counted them yet. -/
def Batcher.inProgress (s : Batcher T) : Nat := (s.calls.map Prod.fst).sum

/-- Where the loop is, or goes on after the flush it is in. -/
def Position.phase : Position → Phase
  | .at phase => phase
  | .flush next => next
  | .flushing next => next

theorem Batcher.held_at {s : Batcher T} {phase : Phase} (h : s.position = .at phase) :
    s.held = s.buf := by
  simp [held, h]

theorem Batcher.held_extend (s : Batcher T) (batch : List T) (next : Phase) :
    (s.extend flushBatchSize batch next).held = s.buf ++ batch := by
  unfold Batcher.held Batcher.extend
  dsimp only
  split
  · rename_i h
    split at h <;> cases h
  · rfl

@[simp] theorem Batcher.extend_channel (s : Batcher T) (batch : List T) (next : Phase) :
    (s.extend flushBatchSize batch next).channel = s.channel := rfl

@[simp] theorem Batcher.extend_phase (s : Batcher T) (batch : List T) (next : Phase) :
    (s.extend flushBatchSize batch next).position.phase = next := by
  unfold Batcher.extend
  dsimp only
  split <;> rfl

/-- What flushes were given, then what the task holds, then what the channel holds is what was
accepted. -/
def Conserved (labels : List (Label T)) (s : Batcher T) : Prop :=
  (flushes labels).flatten ++ (s.held ++ s.channel.queue.flatten) = (accepted labels).flatten

/-- A step that moves no record. -/
theorem Conserved.still {labels : List (Label T)} {s s' : Batcher T} {a : Label T}
    (h : Conserved labels s) (hflush : a.handed? = none) (haccept : a.accepted? = none)
    (hheld : s'.held ++ s'.channel.queue.flatten = s.held ++ s.channel.queue.flatten) :
    Conserved (labels ++ [a]) s' := by
  unfold Conserved at h ⊢
  rw [flushes_snoc, accepted_snoc, hflush, haccept, hheld]
  simpa using h

theorem Conserved.step {labels : List (Label T)} {s s' : Batcher T} {a : Label T}
    (h : Conserved labels s) (hstep : Batcher.Step flushBatchSize s a s') :
    Conserved (labels ++ [a]) s' := by
  cases hstep with
  | @sent batch tx hsenders hsend =>
    -- The batch is the last accepted and the last of the channel.
    obtain ⟨-, rfl⟩ := Channel.trySend_eq_some hsend
    unfold Conserved at h ⊢
    rw [flushes_snoc, accepted_snoc]
    simp only [Label.handed?, Label.accepted?, Option.toList_some, Option.toList_none,
      List.append_nil, List.flatten_append, List.flatten_singleton]
    rw [← h]
    simp [Batcher.held]
  | refused hsenders hsend => exact h.still rfl rfl rfl
  | count hcalls => exact h.still rfl rfl rfl
  | disconnect hcalls => exact h.still rfl rfl rfl
  | shutdown => exact h.still rfl rfl rfl
  | recv hpos hqueue =>
    refine h.still rfl rfl ?_
    rw [Batcher.held_extend, s.held_at hpos, hqueue]
    simp
  | recvNone hpos hsenders hqueue =>
    refine h.still rfl rfl ?_
    rw [s.held_at hpos]
    rfl
  | tick hpos =>
    refine h.still rfl rfl ?_
    rw [s.held_at hpos]
    unfold Batcher.held
    cases s.buf <;> simp
  | changed hpos hsignal =>
    refine h.still rfl rfl ?_
    rw [s.held_at hpos]
    rfl
  | tryRecv hpos hqueue =>
    refine h.still rfl rfl ?_
    rw [Batcher.held_extend, s.held_at hpos, hqueue]
    simp
  | tryRecvEmpty hpos hqueue =>
    refine h.still rfl rfl ?_
    rw [s.held_at hpos]
    rfl
  | flushEmpty hpos hbuf =>
    refine h.still rfl rfl ?_
    simp [Batcher.held, hpos]
  | @handed next hpos hbuf =>
    -- The buffer goes from the task to the flushes.
    have hheld : s.held = s.buf := by simp [Batcher.held, hpos]
    unfold Conserved at h ⊢
    rw [hheld] at h
    rw [flushes_snoc, accepted_snoc]
    simp only [Label.handed?, Label.accepted?, Option.toList_some, Option.toList_none,
      List.append_nil, List.flatten_append, List.flatten_singleton, List.append_assoc]
    simpa [Batcher.held] using h
  | flushed inserted hpos =>
    refine h.still rfl rfl ?_
    simp [Batcher.held, hpos]
  | dropReceiver hpos =>
    refine h.still rfl rfl ?_
    rw [s.held_at hpos]
    rfl

/-- **No record is lost, duplicated or moved.** -/
theorem conserved_of_run {labels : List (Label T)} {s : Batcher T}
    (h : Run (Batcher.Step flushBatchSize) (.spawn T channelCapacity) labels s) :
    Conserved labels s := by
  induction h with
  | nil => rfl
  | snoc _ hstep ih => exact ih.step hstep

/-! ## Counters -/

/-- Every record offered is counted once, when its call returns. -/
def Counted (labels : List (Label T)) (s : Batcher T) : Prop :=
  s.metrics.receivedTotal + s.metrics.droppedChannelFullTotal + s.inProgress =
    ((offered labels).map List.length).sum

theorem IngestMetrics.countEnqueue_sum (metrics : IngestMetrics) (n : Nat) (sent : Bool) :
    (metrics.countEnqueue n sent).receivedTotal +
        (metrics.countEnqueue n sent).droppedChannelFullTotal =
      metrics.receivedTotal + metrics.droppedChannelFullTotal + n := by
  unfold IngestMetrics.countEnqueue
  cases sent with
  | true => simp only [if_true]; omega
  | false => simp only [Bool.false_eq_true, if_false]; omega

@[simp] theorem IngestMetrics.countFlush_received (metrics : IngestMetrics)
    (inserted : Option Nat) :
    (metrics.countFlush inserted).receivedTotal = metrics.receivedTotal := by
  cases inserted <;> rfl

@[simp] theorem IngestMetrics.countFlush_droppedChannelFull (metrics : IngestMetrics)
    (inserted : Option Nat) :
    (metrics.countFlush inserted).droppedChannelFullTotal = metrics.droppedChannelFullTotal := by
  cases inserted <;> rfl

/-- A step that offers nothing and counts nothing. -/
theorem Counted.still {labels : List (Label T)} {s s' : Batcher T} {a : Label T}
    (h : Counted labels s) (hoffer : a.offered? = none)
    (hreceived : s'.metrics.receivedTotal = s.metrics.receivedTotal)
    (hdropped : s'.metrics.droppedChannelFullTotal = s.metrics.droppedChannelFullTotal)
    (hcalls : s'.calls = s.calls) : Counted (labels ++ [a]) s' := by
  unfold Counted Batcher.inProgress at h ⊢
  rw [offered_snoc, hoffer, hreceived, hdropped, hcalls]
  simpa using h

/-- A call that gets its answer. -/
theorem Counted.offer {labels : List (Label T)} {s s' : Batcher T} {batch : List T} {sent : Bool}
    (h : Counted labels s) (hmetrics : s'.metrics = s.metrics)
    (hcalls : s'.calls = s.calls ++ [(batch.length, sent)]) :
    Counted (labels ++ [.trySend batch sent]) s' := by
  unfold Counted Batcher.inProgress at h ⊢
  rw [offered_snoc, hmetrics, hcalls]
  simp only [Label.offered?, Option.toList_some, List.map_append, List.map_cons, List.map_nil,
    List.sum_append, List.sum_cons, List.sum_nil, Nat.add_zero]
  omega

theorem Counted.step {labels : List (Label T)} {s s' : Batcher T} {a : Label T}
    (h : Counted labels s) (hstep : Batcher.Step flushBatchSize s a s') :
    Counted (labels ++ [a]) s' := by
  cases hstep with
  | sent hsenders hsend => exact h.offer rfl rfl
  | refused hsenders hsend => exact h.offer rfl rfl
  | @count before after n sent hcalls =>
    -- The records of the call leave the calls in progress for one of the two counters.
    unfold Counted Batcher.inProgress at h ⊢
    have hsum := s.metrics.countEnqueue_sum n sent
    rw [hcalls] at h
    rw [offered_snoc]
    simp only [Label.offered?, Option.toList_none, List.append_nil, List.map_append,
      List.map_cons, List.sum_append, List.sum_cons] at h ⊢
    omega
  | flushed inserted hpos =>
    refine h.still rfl ?_ ?_ rfl
    · exact s.metrics.countFlush_received inserted
    · exact s.metrics.countFlush_droppedChannelFull inserted
  | _ => exact h.still rfl rfl rfl rfl

theorem counted_of_run {labels : List (Label T)} {s : Batcher T}
    (h : Run (Batcher.Step flushBatchSize) (.spawn T channelCapacity) labels s) :
    Counted labels s := by
  induction h with
  | nil => rfl
  | snoc _ hstep ih => exact ih.step hstep

/-- The records of the calls that were accepted and have not counted them yet. -/
def Batcher.acceptedInProgress (s : Batcher T) : Nat :=
  ((s.calls.filter fun call => call.2).map Prod.fst).sum

/-- `received_total` runs behind the accepted records by those of the calls in progress. -/
theorem received_of_run {labels : List (Label T)} {s : Batcher T}
    (h : Run (Batcher.Step flushBatchSize) (.spawn T channelCapacity) labels s) :
    s.metrics.receivedTotal + s.acceptedInProgress = (accepted labels).flatten.length := by
  induction h with
  | nil => rfl
  | @snoc labels s s' a hrun hstep ih =>
    rw [accepted_snoc, List.flatten_append, List.length_append, ← ih]
    unfold Batcher.acceptedInProgress
    cases hstep with
    | @sent batch tx hsenders hsend =>
      simp [Label.accepted?, Nat.add_assoc]
    | refused hsenders hsend =>
      simp [Label.accepted?]
    | @count before after n sent hcalls =>
      rw [hcalls]
      cases sent with
      | true =>
        simp only [Label.accepted?, IngestMetrics.countEnqueue, if_true, List.filter_append,
          List.filter_cons, List.map_append, List.map_cons, List.sum_append, List.sum_cons,
          Option.toList_none, List.flatten_nil, List.length_nil]
        omega
      | false =>
        simp [Label.accepted?, IngestMetrics.countEnqueue]
    | flushed inserted hpos =>
      rw [IngestMetrics.countFlush_received]
      rfl
    | _ => rfl

/-! ## Shutdown -/

/-- The channel receives nothing any more. -/
def Stopping (labels : List (Label T)) (s : Batcher T) : Prop :=
  Label.shutdown ∈ labels ∨ s.senders = false

/-- Out of its loop, the task leaves nothing behind. -/
structure Settled (labels : List (Label T)) (s : Batcher T) : Prop where
  signalled : s.signalled = true → Label.shutdown ∈ labels
  stopping : s.position.phase ≠ .select → Stopping labels s
  /-- The channel is empty once the task has found it so. -/
  queue : s.position.phase = .leaving ∨ s.position.phase = .ended → s.channel.queue = []
  /-- The buffer is empty after the last flush. -/
  buf : s.position = .at .leaving ∨ s.position = .at .ended → s.buf = []
  ended : s.position.phase = .ended → s.position = .at .ended

theorem Stopping.snoc {labels : List (Label T)} {s s' : Batcher T} {a : Label T}
    (h : Stopping labels s) (hsenders : s'.senders = s.senders) : Stopping (labels ++ [a]) s' := by
  unfold Stopping at h ⊢
  rw [hsenders]
  exact h.imp_left (List.mem_append_left _)

/-- A step of a caller that does not enqueue. -/
theorem Settled.caller {labels : List (Label T)} {s s' : Batcher T} {a : Label T}
    (h : Settled labels s) (hsenders : s'.senders = s.senders)
    (hsignalled : s'.signalled = s.signalled) (hposition : s'.position = s.position)
    (hqueue : s'.channel.queue = s.channel.queue) (hbuf : s'.buf = s.buf) :
    Settled (labels ++ [a]) s' := by
  refine ⟨?_, ?_, ?_, ?_, ?_⟩
  · rw [hsignalled]
    exact fun hs => List.mem_append_left _ (h.signalled hs)
  · rw [hposition]
    exact fun hp => (h.stopping hp).snoc hsenders
  · rw [hposition, hqueue]
    exact h.queue
  · rw [hposition, hbuf]
    exact h.buf
  · rw [hposition]
    exact h.ended

/-- A step of the task. -/
theorem Settled.task {labels : List (Label T)} {s s' : Batcher T} {a : Label T}
    (h : Settled labels s) (hsenders : s'.senders = s.senders)
    (hsignalled : s'.signalled = s.signalled)
    (hstopping : s'.position.phase ≠ .select → Stopping labels s)
    (hqueue : s'.position.phase = .leaving ∨ s'.position.phase = .ended → s'.channel.queue = [])
    (hbuf : s'.position = .at .leaving ∨ s'.position = .at .ended → s'.buf = [])
    (hended : s'.position.phase = .ended → s'.position = .at .ended) :
    Settled (labels ++ [a]) s' := by
  refine ⟨?_, fun hp => (hstopping hp).snoc hsenders, hqueue, hbuf, hended⟩
  rw [hsignalled]
  exact fun hs => List.mem_append_left _ (h.signalled hs)

/-- A step of the task that takes a batch, and goes on receiving. -/
theorem Settled.receive {labels : List (Label T)} {s : Batcher T} {a : Label T}
    {rest : List (List T)} {batch : List T} {phase : Phase} (h : Settled labels s)
    (hpos : s.position = .at phase) (hphase : phase = .select ∨ phase = .drain) :
    Settled (labels ++ [a])
      (Batcher.extend flushBatchSize { s with channel := { s.channel with queue := rest } }
        batch phase) := by
  have hnext (target : Phase) (htarget : target = .leaving ∨ target = .ended) :
      phase ≠ target := by
    rcases hphase with rfl | rfl <;> rcases htarget with rfl | rfl <;> simp
  -- The task stays where it receives, so nothing that is said of its end applies.
  refine h.task rfl rfl ?_ ?_ ?_ ?_
  · rw [Batcher.extend_phase]
    intro hp
    apply h.stopping
    rw [hpos]
    exact hp
  · rw [Batcher.extend_phase]
    rintro (hp | hp)
    · exact absurd hp (hnext _ (.inl rfl))
    · exact absurd hp (hnext _ (.inr rfl))
  · rintro (hp | hp)
    · exact absurd ((Batcher.extend_phase _ _ _).symm.trans (congrArg Position.phase hp))
        (hnext _ (.inl rfl))
    · exact absurd ((Batcher.extend_phase _ _ _).symm.trans (congrArg Position.phase hp))
        (hnext _ (.inr rfl))
  · rw [Batcher.extend_phase]
    exact fun hp => absurd hp (hnext _ (.inr rfl))

/-- A step of the task that stays on its way, inside or after a flush. -/
theorem Settled.proceed {labels : List (Label T)} {s s' : Batcher T} {a : Label T}
    (h : Settled labels s) (hsenders : s'.senders = s.senders)
    (hsignalled : s'.signalled = s.signalled)
    (hphase : s'.position.phase = s.position.phase)
    (hqueue : s'.channel.queue = s.channel.queue)
    (hmoving : s.position ≠ .at .ended)
    (hbuf : s'.position = .at .leaving ∨ s'.position = .at .ended → s'.buf = []) :
    Settled (labels ++ [a]) s' := by
  refine h.task hsenders hsignalled ?_ ?_ hbuf ?_
  · rw [hphase]
    exact h.stopping
  · rw [hphase, hqueue]
    exact h.queue
  · rw [hphase]
    exact fun hp => absurd (h.ended hp) hmoving

theorem Settled.step {labels : List (Label T)} {s s' : Batcher T} {a : Label T}
    (h : Settled labels s) (hquiet : QuietAfterShutdown (labels ++ [a]))
    (hstep : Batcher.Step flushBatchSize s a s') : Settled (labels ++ [a]) s' := by
  cases hstep with
  | @sent batch tx hsenders hsend =>
    -- Nothing has stopped yet, so the task is still at its `select!`.
    have hrunning : ¬ Stopping labels s := by
      rintro (hsignal | hnone)
      · exact hquiet.last hsignal
      · rw [hsenders] at hnone
        cases hnone
    have hselect : s.position.phase = .select := by
      by_contra hphase
      exact hrunning (h.stopping hphase)
    refine ⟨fun hs => List.mem_append_left _ (h.signalled hs), ?_, ?_, h.buf, h.ended⟩
    · exact fun hp => absurd hselect hp
    · rintro (hp | hp)
      · exact absurd (hselect.symm.trans hp) (by simp)
      · exact absurd (hselect.symm.trans hp) (by simp)
  | refused hsenders hsend => exact h.caller rfl rfl rfl rfl rfl
  | count hcalls => exact h.caller rfl rfl rfl rfl rfl
  | disconnect hcalls =>
    exact ⟨fun hs => List.mem_append_left _ (h.signalled hs), fun _ => .inr rfl, h.queue, h.buf,
      h.ended⟩
  | shutdown =>
    have hsignal : Label.shutdown ∈ labels ++ [Label.shutdown] :=
      List.mem_append_right _ (List.mem_singleton_self _)
    exact ⟨fun _ => hsignal, fun _ => .inl hsignal, h.queue, h.buf, h.ended⟩
  | recv hpos hqueue => exact h.receive hpos (.inl rfl)
  | recvNone hpos hsenders hqueue =>
    refine h.task rfl rfl (fun _ => .inr hsenders) (fun _ => hqueue) ?_ ?_ <;>
      simp [Position.phase]
  | tick hpos =>
    have hphase : (if s.buf.isEmpty then Position.at .select else .flush .select).phase =
        .select := by
      split <;> rfl
    refine h.proceed rfl rfl (hphase.trans (by rw [hpos]; rfl)) rfl (by rw [hpos]; simp) ?_
    rintro (hp | hp)
    · exact absurd (hphase.symm.trans (congrArg Position.phase hp)) (by simp [Position.phase])
    · exact absurd (hphase.symm.trans (congrArg Position.phase hp)) (by simp [Position.phase])
  | changed hpos hsignal =>
    refine h.task rfl rfl (fun _ => .inl (h.signalled hsignal)) ?_ ?_ ?_ <;>
      simp [Position.phase]
  | tryRecv hpos hqueue => exact h.receive hpos (.inr rfl)
  | tryRecvEmpty hpos hqueue =>
    have hstopping : Stopping labels s := h.stopping (by rw [hpos]; simp [Position.phase])
    refine h.task rfl rfl (fun _ => hstopping) (fun _ => hqueue) ?_ ?_ <;>
      simp [Position.phase]
  | flushEmpty hpos hbuf =>
    exact h.proceed rfl rfl (by rw [hpos]; rfl) rfl (by rw [hpos]; simp) (fun _ => hbuf)
  | handed hpos hbuf =>
    refine h.proceed rfl rfl (by rw [hpos]; rfl) rfl (by rw [hpos]; simp) ?_
    simp
  | flushed inserted hpos =>
    exact h.proceed rfl rfl (by rw [hpos]; rfl) rfl (by rw [hpos]; simp) (fun _ => rfl)
  | dropReceiver hpos =>
    have hphase : s.position.phase = .leaving := by rw [hpos]; rfl
    have hstopping : Stopping labels s := h.stopping (by rw [hphase]; simp)
    exact h.task rfl rfl (fun _ => hstopping) (fun _ => h.queue (.inl hphase))
      (fun _ => h.buf (.inl hpos)) (fun _ => rfl)

theorem settled_of_run {labels : List (Label T)} {s : Batcher T}
    (h : Run (Batcher.Step flushBatchSize) (.spawn T channelCapacity) labels s)
    (hquiet : QuietAfterShutdown labels) : Settled labels s := by
  induction h with
  | nil => refine ⟨?_, ?_, ?_, ?_, ?_⟩ <;> simp [Batcher.spawn, Position.phase]
  | snoc _ hstep ih => exact (ih hquiet.initial).step hquiet hstep

/-! ## The end of the loop -/

/-- **Conservation.** When the loop has ended, the flushes were given exactly the records of the
accepted batches, once each, in the order in which the batches entered the channel, hence none of
a rejected batch; and every record offered to `try_enqueue` is in one of the two counters, or in
a call that has not returned. -/
theorem flushes_eq_accepted {labels : List (Label T)} {s : Batcher T}
    (hrun : Run (Batcher.Step flushBatchSize) (.spawn T channelCapacity) labels s)
    (hquiet : QuietAfterShutdown labels) (hended : s.position = .at .ended) :
    (flushes labels).flatten = (accepted labels).flatten ∧
      ((offered labels).flatten.Nodup →
        ∀ batch ∈ rejected labels, ∀ r ∈ batch, ∀ buf ∈ flushes labels, r ∉ buf) ∧
      s.metrics.receivedTotal + s.metrics.droppedChannelFullTotal + s.inProgress =
        ((offered labels).map List.length).sum := by
  have hsettled := settled_of_run hrun hquiet
  have hphase : s.position.phase = .ended := by rw [hended]; rfl
  -- At the end nothing is left in the channel or in the buffer.
  have hflushed : (flushes labels).flatten = (accepted labels).flatten := by
    have hconserved := conserved_of_run hrun
    unfold Conserved at hconserved
    rw [s.held_at hended, hsettled.buf (.inr hended), hsettled.queue (.inr hphase)] at hconserved
    simpa using hconserved
  refine ⟨hflushed, ?_, counted_of_run hrun⟩
  -- A record of a refused batch that was flushed would have been offered twice.
  intro hnodup batch hbatch r hr buf hbuf hmem
  have hnodup' := (offered_perm labels).nodup_iff.mp hnodup
  have hdisjoint := List.disjoint_of_nodup_append hnodup'
  apply hdisjoint (a := r)
  · rw [← hflushed]
    exact List.mem_flatten_of_mem hbuf hmem
  · exact List.mem_flatten_of_mem hbatch hr

end Conservation

/-- A batch in the buffer, one refused because the channel is full, one in the channel when the
shutdown signal comes; the only flush fails. -/
def lastFlush : List (Label Nat) :=
  [.trySend [1] true, .trySend [2] false, .count 0, .recv, .trySend [3, 4] true] ++
    .shutdown :: [.changed, .tryRecv, .handed [1, 3, 4], .flushed none, .tryRecvEmpty,
      .flushEmpty, .dropReceiver, .count 0, .count 0]

theorem lastFlush_run :
    ∃ s, Run (Batcher.Step 2) (.spawn Nat 1) lastFlush s ∧ s.position = .at .ended := by
  unfold lastFlush
  simp only [List.cons_append, List.nil_append, Run.cons_iff, Run.nil_iff]
  refine ⟨_, ⟨_, .sent rfl rfl, _, .refused rfl rfl, _, @Batcher.Step.count _ _ _ [] _ _ _ rfl, _,
    .recv rfl rfl, _, .sent rfl rfl, _, .shutdown, _, .changed rfl rfl, _, .tryRecv rfl rfl, _,
    @Batcher.Step.handed _ _ _ .drain rfl ?_, _, .flushed none rfl, _,
    .tryRecvEmpty rfl rfl, _, .flushEmpty rfl rfl, _, .dropReceiver rfl, _,
    @Batcher.Step.count _ _ _ [] _ _ _ rfl, _, @Batcher.Step.count _ _ _ [] _ _ _ rfl, rfl⟩, rfl⟩
  simp [Batcher.extend]

theorem flushes_eq_accepted_lastFlush :
    ∃ s, Run (Batcher.Step 2) (.spawn Nat 1) lastFlush s ∧ [1, 3, 4] = [1] ++ [3, 4] ∧
      ([1, 2, 3, 4].Nodup → ∀ batch ∈ [[2]], ∀ r ∈ batch, ∀ buf ∈ [[1, 3, 4]], r ∉ buf) ∧
      s.metrics.receivedTotal + s.metrics.droppedChannelFullTotal + s.inProgress = 4 := by
  obtain ⟨s, hrun, hended⟩ := lastFlush_run
  refine ⟨s, hrun, flushes_eq_accepted hrun ?_ hended⟩
  apply QuietAfterShutdown.of_split <;> simp

end Datacat.Ingest
