import Datacat.Db.Staging
import Datacat.Ingest.Batcher

/-!
# Failed Flushes

A flush that fails is counted as a failure and its batch is given up. Its rows may be in the
staging already: they are committed by `COPY`, before the partitions are ensured and the staging
is merged. The flush then truncates the staging in a statement of its own, and ignores how that
ends. What it leaves is merged, and counted, by the next flush that gets as far as its merge.

A statement that fails changes nothing in the database, unless it was committed and its answer was
lost.

## Main results

- `accounted_of_clear`: nothing of a failed flush is inserted later when each merge starts over
  the rows of its own batch only.
- `clear_of_truncated`: that is so when each flush that leaves rows manages to truncate them.
-/

namespace Datacat.Db

open Basics Ingest

/-! ## The system -/

/-- How `flush_inner` fails. -/
inductive Fault where
  /-- There is no connection, or `COPY` is refused. -/
  | copy
  /-- `COPY` is committed, and its answer is lost. -/
  | copyAnswer
  | ensurePartitions
  | merge
  /-- The merge is committed, and its answer is lost. -/
  | mergeAnswer
deriving DecidableEq

/-- A row of the staging, with the number of the flush that copied it. -/
structure Staged (d : Domain) where
  flush : Nat
  row : d.Row

section System

variable {d : Domain} {stamp : DateTime → DateTime}

/-- The tables of a domain and the counters of its batcher; `flushes` numbers the calls. -/
structure Ingestion (d : Domain) (stamp : DateTime → DateTime) where
  staging : List (Staged d) := []
  table : Table (d.key stamp ∘ Staged.row) := {}
  metrics : IngestMetrics := {}
  flushes : Nat := 0

/-- A call of `flush`, with what the database makes of it. -/
structure FlushCall (d : Domain) where
  buf : List d.Row
  /-- The staging, as the merge orders it. -/
  order : List (Staged d) := []
  fault : Option Fault := none
  /-- The `TRUNCATE` that follows an error succeeds. -/
  truncated : Bool := true

def Ingestion.copy (s : Ingestion d stamp) (buf : List d.Row) : Ingestion d stamp :=
  { s with staging := s.staging ++ buf.map (Staged.mk s.flushes) }

/-- `datacat_merge_staging`. -/
def Ingestion.merge (s : Ingestion d stamp) (order : List (Staged d)) : Ingestion d stamp × Nat :=
  let (table, inserted) := s.table.insertAll (distinctOn (d.key stamp ∘ Staged.row) order)
  ({ s with staging := [], table := table }, inserted)

def flushInner (s : Ingestion d stamp) (call : FlushCall d) : Ingestion d stamp × Option Nat :=
  match call.fault with
  | some .copy => (s, none)
  | some .copyAnswer => (s.copy call.buf, none)
  | some .ensurePartitions => (s.copy call.buf, none)
  | some .merge => (s.copy call.buf, none)
  | some .mergeAnswer => (((s.copy call.buf).merge call.order).1, none)
  | none => ((s.copy call.buf).merge call.order).map id some

def flush (s : Ingestion d stamp) (call : FlushCall d) : Ingestion d stamp :=
  if call.buf.isEmpty then s
  else
    match flushInner s call with
    | (s', some inserted) => { s' with metrics := s'.metrics.countFlush (some inserted) }
    | (s', none) =>
      -- `let _ =`: a `TRUNCATE` that fails goes unnoticed.
      { s' with
        staging := if call.truncated then [] else s'.staging
        metrics := s'.metrics.countFlush none }

/-- The batcher of a domain calls `flush` again and again. -/
def Flushes (s : Ingestion d stamp) (call : FlushCall d) (s' : Ingestion d stamp) : Prop :=
  call.order.Perm (s.copy call.buf).staging ∧
    ReceivedInOrder stamp (call.order.map Staged.row) ∧
    s' = { flush s call with flushes := s.flushes + 1 }

/-- The call is counted in `flush_failures_total`. -/
def FlushCall.failed (call : FlushCall d) : Bool := !call.buf.isEmpty && call.fault.isSome

/-- The call is counted in `flushes_total`. -/
def FlushCall.succeeded (call : FlushCall d) : Bool := !call.buf.isEmpty && call.fault.isNone

/-- The merge of the call is committed. -/
def FlushCall.merges (call : FlushCall d) : Bool :=
  !call.buf.isEmpty && (call.fault = none || call.fault = some .mergeAnswer)

/-- The call leaves its rows in the staging, unless it truncates it. -/
def FlushCall.strands (call : FlushCall d) : Bool :=
  !call.buf.isEmpty && (call.fault = some .copyAnswer || call.fault = some .ensurePartitions ||
    call.fault = some .merge)

/-- The call does not merge rows that were in the staging before it. -/
def Clear (s : Ingestion d stamp) (call : FlushCall d) : Prop :=
  call.merges = true → s.staging = []

/-- The calls are counted as they ended, no later flush inserts a row of a failed one, and no
more rows are counted as inserted than the calls that succeeded had. -/
structure Accounted (start : Ingestion d stamp) (calls : List (FlushCall d))
    (s : Ingestion d stamp) : Prop where
  failures : s.metrics.flushFailuresTotal = calls.countP FlushCall.failed
  successes : s.metrics.flushesTotal = calls.countP FlushCall.succeeded
  lost : ∀ before call between later after mid mid',
    calls = before ++ call :: between ++ later :: after → call.failed = true →
    Run Flushes start (before ++ call :: between) mid → Flushes mid later mid' →
    ∀ r ∈ mid'.table.rows, r ∉ mid.table.rows → r.flush ≠ before.length
  inserted : s.metrics.insertedTotal ≤
    ((calls.filter FlushCall.succeeded).map fun call => call.buf.length).sum

end System

/-! ## Steps -/

section Steps

variable {d : Domain} {stamp : DateTime → DateTime} {s s' : Ingestion d stamp}
  {call : FlushCall d}

/-- What the merge of the call makes of the table, and how many rows it inserts. -/
def merged (s : Ingestion d stamp) (call : FlushCall d) :
    Table (d.key stamp ∘ Staged.row) × Nat :=
  s.table.insertAll (distinctOn (d.key stamp ∘ Staged.row) call.order)

/-- What a call may do: nothing, merge and be counted, merge and fail, or fail before. -/
theorem Flushes.cases (h : Flushes s call s') :
    (call.buf = [] ∧ s' = { s with flushes := s.flushes + 1 }) ∨
    (call.succeeded = true ∧ call.merges = true ∧
      s' =
        { staging := []
          table := (merged s call).1
          metrics := s.metrics.countFlush (some (merged s call).2)
          flushes := s.flushes + 1 }) ∨
    (call.failed = true ∧ call.merges = true ∧
      s' =
        { staging := []
          table := (merged s call).1
          metrics := s.metrics.countFlush none
          flushes := s.flushes + 1 }) ∨
    (call.failed = true ∧ call.merges = false ∧
      s' =
        { s with
          staging := if call.truncated then [] else
            s.staging ++ if call.strands then call.buf.map (Staged.mk s.flushes) else []
          metrics := s.metrics.countFlush none
          flushes := s.flushes + 1 }) := by
  obtain ⟨-, -, rfl⟩ := h
  unfold flush FlushCall.succeeded FlushCall.failed FlushCall.merges FlushCall.strands
  cases hbuf : call.buf with
  -- An empty batch does not reach the database.
  | nil => exact .inl ⟨rfl, rfl⟩
  | cons r buf =>
    apply Or.inr
    cases hfault : call.fault with
    | none =>
      apply Or.inl
      simp [flushInner, hfault, hbuf, merged, Ingestion.merge, Ingestion.copy]
    | some fault =>
      apply Or.inr
      cases fault with
      -- The merge was committed, and its answer was lost.
      | mergeAnswer =>
        apply Or.inl
        simp [flushInner, hfault, hbuf, merged, Ingestion.merge, Ingestion.copy]
      -- Nothing was merged: only the rows left in the staging tell the places apart.
      | copy | copyAnswer | ensurePartitions | merge =>
        apply Or.inr
        simp [flushInner, hfault, hbuf, Ingestion.copy]

theorem Flushes.flushes (h : Flushes s call s') : s'.flushes = s.flushes + 1 := by
  obtain ⟨-, -, rfl⟩ := h
  rfl

/-- A clear call inserts rows of its own batch only. -/
theorem Flushes.own (h : Flushes s call s') (hclear : Clear s call) {r : Staged d}
    (hnew : r ∈ s'.table.rows) (hold : r ∉ s.table.rows) : r.flush = s.flushes := by
  have hmerged (hmerges : call.merges = true) (hr : r ∈ (merged s call).1.rows) :
      r.flush = s.flushes := by
    have horder : r ∈ call.order := by
      rcases Table.mem_insertAll hr with hr | hr
      · exact absurd hr hold
      · exact mem_of_mem_distinctOn hr
    -- Over an empty staging, what is merged is what was copied.
    have hstaged : r ∈ s.staging ++ call.buf.map (Staged.mk s.flushes) := h.1.mem_iff.mp horder
    rw [hclear hmerges, List.nil_append] at hstaged
    obtain ⟨row, -, rfl⟩ := List.mem_map.mp hstaged
    rfl
  rcases h.cases with ⟨-, rfl⟩ | ⟨-, hmerges, rfl⟩ | ⟨-, hmerges, rfl⟩ | ⟨-, -, rfl⟩
  · exact absurd hnew hold
  · exact hmerged hmerges hnew
  · exact hmerged hmerges hnew
  · exact absurd hnew hold

/-- A clear merge inserts at most as many rows as its batch has. -/
theorem Flushes.merged_le (h : Flushes s call s') (hclear : Clear s call)
    (hmerges : call.merges = true) : (merged s call).2 ≤ call.buf.length := by
  have hlength : call.order.length = call.buf.length := by
    rw [h.1.length_eq, Ingestion.copy, hclear hmerges, List.nil_append, List.length_map]
  calc
    (merged s call).2 ≤ (distinctOn (d.key stamp ∘ Staged.row) call.order).length :=
      Table.count_insertAll_le _ _
    _ ≤ call.order.length := length_distinctOn_le _ _
    _ = call.buf.length := hlength

theorem FlushCall.not_both (call : FlushCall d) :
    ¬ (call.failed = true ∧ call.succeeded = true) := by
  unfold FlushCall.failed FlushCall.succeeded
  cases call.fault <;> simp

/-- A call is counted once, as a success or as a failure. -/
theorem Flushes.counted (h : Flushes s call s') :
    s'.metrics.flushFailuresTotal =
        s.metrics.flushFailuresTotal + (if call.failed then 1 else 0) ∧
      s'.metrics.flushesTotal = s.metrics.flushesTotal + (if call.succeeded then 1 else 0) := by
  rcases h.cases with ⟨hbuf, rfl⟩ | ⟨hsucceeded, -, rfl⟩ | ⟨hfailed, -, rfl⟩ | ⟨hfailed, -, rfl⟩
  · simp [FlushCall.failed, FlushCall.succeeded, hbuf]
  · rw [if_neg fun hfailed => call.not_both ⟨hfailed, hsucceeded⟩, if_pos hsucceeded]
    exact ⟨rfl, rfl⟩
  all_goals
    rw [if_pos hfailed, if_neg fun hsucceeded => call.not_both ⟨hfailed, hsucceeded⟩]
    exact ⟨rfl, rfl⟩

theorem Flushes.inserted_le (h : Flushes s call s') (hclear : Clear s call) :
    s'.metrics.insertedTotal ≤
      s.metrics.insertedTotal + if call.succeeded then call.buf.length else 0 := by
  rcases h.cases with ⟨-, rfl⟩ | ⟨hsucceeded, hmerges, rfl⟩ | ⟨-, -, rfl⟩ | ⟨-, -, rfl⟩
  · exact Nat.le_add_right _ _
  · rw [if_pos hsucceeded]
    exact Nat.add_le_add_left (h.merged_le hclear hmerges) _
  · exact Nat.le_add_right _ _
  · exact Nat.le_add_right _ _

/-- A call that truncates what it leaves keeps the staging empty. -/
theorem Flushes.staging_nil (h : Flushes s call s') (hempty : s.staging = [])
    (htruncated : call.strands = true → call.truncated = true) : s'.staging = [] := by
  rcases h.cases with ⟨-, rfl⟩ | ⟨-, -, rfl⟩ | ⟨-, -, rfl⟩ | ⟨-, -, rfl⟩
  · exact hempty
  · rfl
  · rfl
  · show (if call.truncated then [] else _) = []
    cases hstrands : call.strands with
    | true => exact if_pos (htruncated hstrands)
    | false =>
      rw [hempty]
      exact ite_self _

end Steps

/-! ## The statements of a call -/

section Statements

variable {d : Domain} {stamp : DateTime → DateTime} {s s' : Ingestion d stamp}
  {call : FlushCall d}

/-- The store of the domain, between two calls. -/
def Ingestion.store (s : Ingestion d stamp) (partitions : List Int) : Store d stamp where
  partitions := partitions
  staging := s.staging.map Staged.row
  table := s.table.map Staged.row
  phase := .idle

/-- The numbers of the flushes play no part in the merge. -/
theorem insertAll_store (s : Ingestion d stamp) (call : FlushCall d) :
    (s.table.map Staged.row).insertAll
        (distinctOn (d.key stamp) (call.order.map Staged.row)) =
      ((merged s call).1.map Staged.row, (merged s call).2) := by
  rw [distinctOn_map, Table.insertAll_map]
  rfl

theorem perm_staging (h : Flushes s call s') :
    (call.order.map Staged.row).Perm (s.staging.map Staged.row ++ call.buf) := by
  have hbuf : (call.buf.map (Staged.mk s.flushes)).map Staged.row = call.buf := by
    rw [List.map_map]
    exact List.map_id _
  have hperm := h.1.map Staged.row
  rw [Ingestion.copy, List.map_append, hbuf] at hperm
  exact hperm

/-- The store once a batch is flushed. -/
def Store.flushed (s : Store d stamp) (batch order : List d.Row) : Store d stamp :=
  ({ s with staging := s.staging ++ batch } : Store d stamp).drained order

/-- A flush that is not interrupted. -/
theorem run_flush {s : Store d stamp} {batch order : List d.Row} (hidle : s.phase = .idle)
    (hbatch : batch ≠ []) (hperm : order.Perm (s.staging ++ batch))
    (horder : ReceivedInOrder stamp order) :
    Run Step s
      [.copy batch, .ensure, .merge order (s.table.insertAll (distinctOn (d.key stamp) order)).2]
      (s.flushed batch order) := by
  let copied : Store d stamp := { s with staging := s.staging ++ batch, phase := .copied }
  apply Run.cons_iff.mpr ⟨copied, .copy hidle hbatch, _⟩
  apply Run.cons_iff.mpr ⟨{ copied.ensurePartitions with phase := .ensured }, .ensure rfl, _⟩
  exact Run.single (.merge (.inl rfl) (routable_ensurePartitions copied) hperm horder)

/-- A call that succeeds copies, ensures the partitions and merges, and adds the count that the
merge returns. -/
theorem run_of_succeeded (h : Flushes s call s') (hsucceeded : call.succeeded = true)
    (partitions : List Int) :
    ∃ partitions' n, s'.metrics.insertedTotal = s.metrics.insertedTotal + n ∧
      Run Step (s.store partitions) [.copy call.buf, .ensure, .merge (call.order.map Staged.row) n]
        (s'.store partitions') := by
  have hbuf : call.buf ≠ [] := by
    intro hbuf
    rw [FlushCall.succeeded, hbuf] at hsucceeded
    cases hsucceeded
  rcases h.cases with ⟨hnil, -⟩ | ⟨-, -, rfl⟩ | ⟨hfailed, -, -⟩ | ⟨hfailed, -, -⟩
  · exact absurd hnil hbuf
  · -- The rows without the numbers of their flushes are those of the three statements.
    let order := call.order.map Staged.row
    let after := (s.store partitions).flushed call.buf order
    have hcount : ((s.store partitions).table.insertAll (distinctOn (d.key stamp) order)).2 =
        (merged s call).2 :=
      congrArg Prod.snd (insertAll_store s call)
    have htable : after.table = (merged s call).1.map Staged.row :=
      congrArg Prod.fst (insertAll_store s call)
    have hstore : after = ⟨after.partitions, [], (merged s call).1.map Staged.row, .idle⟩ :=
      congrArg (Store.mk after.partitions [] · .idle) htable
    have hrun : Run Step (s.store partitions) _ after :=
      run_flush rfl hbuf (perm_staging h) h.2.1
    rw [hcount, hstore] at hrun
    exact ⟨after.partitions, (merged s call).2, rfl, hrun⟩
  · exact absurd ⟨hfailed, hsucceeded⟩ call.not_both
  · exact absurd ⟨hfailed, hsucceeded⟩ call.not_both

end Statements

/-! ## Runs -/

section Runs

variable {d : Domain} {stamp : DateTime → DateTime} {start s : Ingestion d stamp}
  {calls : List (FlushCall d)}

theorem flushes_of_run (h : Run Flushes start calls s) :
    s.flushes = start.flushes + calls.length := by
  induction h with
  | nil => rfl
  | snoc hrun hstep ih =>
    rw [hstep.flushes, ih, List.length_append]
    rfl

theorem counted_of_run (h : Run Flushes start calls s) :
    s.metrics.flushFailuresTotal =
        start.metrics.flushFailuresTotal + calls.countP FlushCall.failed ∧
      s.metrics.flushesTotal =
        start.metrics.flushesTotal + calls.countP FlushCall.succeeded := by
  induction h with
  | nil => exact ⟨rfl, rfl⟩
  | snoc hrun hstep ih =>
    obtain ⟨hfailures, hsuccesses⟩ := hstep.counted
    rw [hfailures, hsuccesses, ih.1, ih.2, List.countP_append, List.countP_append,
      List.countP_singleton, List.countP_singleton, Nat.add_assoc, Nat.add_assoc]
    exact ⟨rfl, rfl⟩

theorem inserted_of_run
    (h : Run (fun s call s' => Clear s call ∧ Flushes s call s') start calls s) :
    s.metrics.insertedTotal ≤ start.metrics.insertedTotal +
      ((calls.filter FlushCall.succeeded).map fun call => call.buf.length).sum := by
  induction h with
  | nil => exact Nat.le_refl _
  | @snoc calls s s' call hrun hstep ih =>
    have hcall := hstep.2.inserted_le hstep.1
    rw [List.filter_append, List.map_append, List.sum_append, List.filter_singleton]
    cases hsucceeded : call.succeeded with
    | true =>
      rw [if_pos hsucceeded] at hcall
      simp only [cond_true, List.map_singleton, List.sum_singleton]
      omega
    | false =>
      rw [if_neg (Bool.eq_false_iff.mp hsucceeded)] at hcall
      simp only [cond_false, List.map_nil, List.sum_nil]
      omega

/-- When each flush truncates what it leaves, each merge is clear. -/
theorem clear_of_truncated (hempty : start.staging = [])
    (h : Run (fun s call s' => (call.strands = true → call.truncated = true) ∧
      Flushes s call s') start calls s) :
    Run (fun s call s' => Clear s call ∧ Flushes s call s') start calls s ∧ s.staging = [] := by
  induction h with
  | nil => exact ⟨.nil, hempty⟩
  | snoc hrun hstep ih =>
    exact ⟨.snoc ih.1 ⟨fun _ => ih.2, hstep.2⟩, hstep.2.staging_nil ih.2 hstep.1⟩

/-- **Failed flushes.** In a run whose merges are all clear, the failed flushes leave nothing
behind. -/
theorem accounted_of_clear (hmetrics : start.metrics = {}) (hflushes : start.flushes = 0)
    (h : Run (fun s call s' => Clear s call ∧ Flushes s call s') start calls s) :
    Accounted start calls s := by
  have hcounted := counted_of_run (h.mono fun _ _ _ => And.right)
  rw [hmetrics] at hcounted
  refine ⟨by simpa using hcounted.1, by simpa using hcounted.2, ?_, ?_⟩
  · intro before call between later after mid mid' hcalls hfailed hmid hlater r hnew hold
    have hclear : Clear mid later := by
      subst hcalls
      obtain ⟨mid₀, hmid₀, hrest⟩ := Run.append_iff.mp h
      obtain ⟨_, hclear, _⟩ := Run.cons_iff.mp hrest
      -- The calls before it lead to one state.
      obtain rfl : mid₀ = mid :=
        Run.unique (fun _ _ _ _ h h' => h.2.2.trans h'.2.2.symm)
          (hmid₀.mono fun _ _ _ => And.right) hmid
      exact hclear.1
    have hposition := flushes_of_run hmid
    rw [hlater.own hclear hnew hold, hposition, hflushes, List.length_append, List.length_cons]
    omega
  · have hinserted := inserted_of_run h
    rw [hmetrics] at hinserted
    simpa using hinserted

end Runs

/-- The calls one after the other. -/
def flushAll {d : Domain} {stamp : DateTime → DateTime} (s : Ingestion d stamp)
    (calls : List (FlushCall d)) : Ingestion d stamp :=
  calls.foldl (fun s call => { flush s call with flushes := s.flushes + 1 }) s

def otherEvent : Domain.events.Row :=
  { (receivedAtSecond 2 : Events.StoredEvent) with eventId := ⟨.replicate 16 1⟩ }

/-- The partitions of the first batch cannot be ensured; the second batch is flushed. -/
def retried (truncated : Bool) : List (FlushCall .events) :=
  [{ buf := [receivedAtSecond 1]
     order := [⟨0, receivedAtSecond 1⟩]
     fault := some .ensurePartitions
     truncated := truncated },
   { buf := [otherEvent]
     order := (if truncated then [] else [⟨0, receivedAtSecond 1⟩]) ++ [⟨1, otherEvent⟩] }]

theorem run_retried (truncated : Bool) :
    Run Flushes ({} : Ingestion .events id) (retried truncated) (flushAll {} (retried truncated)) := by
  have hone (r : Domain.events.Row) : ReceivedInOrder id [r] := List.pairwise_singleton _ _
  have htwo : ReceivedInOrder id [receivedAtSecond 1, otherEvent] :=
    List.pairwise_pair.mpr fun _ => show (⟨1000000000⟩ : DateTime) ≤ ⟨2000000000⟩ by decide
  apply Run.cons_iff.mpr ⟨_, ⟨.rfl, hone _, rfl⟩, _⟩
  cases truncated with
  | true => exact Run.single ⟨.rfl, hone _, rfl⟩
  | false => exact Run.single ⟨.rfl, htwo, rfl⟩

theorem accounted_of_clear_retried :
    Accounted ({} : Ingestion .events id) (retried true) (flushAll {} (retried true)) := by
  apply accounted_of_clear rfl rfl
  obtain ⟨_, hfirst, hrest⟩ := Run.cons_iff.mp (run_retried true)
  obtain ⟨_, hsecond, hrest⟩ := Run.cons_iff.mp hrest
  obtain rfl := Run.nil_iff.mp hrest
  apply Run.cons_iff.mpr ⟨_, ⟨nofun, hfirst⟩, _⟩
  obtain ⟨-, -, rfl⟩ := hfirst
  exact Run.single ⟨fun _ => rfl, hsecond⟩

/-- What the first flush left is inserted by the second. -/
theorem not_accounted_retried :
    ¬ ∀ (d : Domain) (stamp : DateTime → DateTime) (s : Ingestion d stamp)
        (calls : List (FlushCall d)),
      Run Flushes {} calls s → Accounted {} calls s := by
  intro h
  have hinserted := (h _ _ _ _ (run_retried false)).inserted
  revert hinserted
  decide +kernel

end Datacat.Db
