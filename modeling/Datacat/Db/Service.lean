import Datacat.Db.Staging
import Datacat.Ingest.Batcher

/-!
# The Service of a Domain

The process of a domain over its database, from the calls that enqueue batches to the rows of the
table. The task of the batcher flushes by one statement after the other; a statement may fail, or
be committed with its answer lost. Callers enqueue meanwhile, old partitions are dropped, and the
process may be killed at any moment: what it held in memory is lost, and the next start drains what
it left in the staging.

## Main results

- `released_append_memory`: what is accepted comes out of the memory again once and in order, by a
  flush that succeeds, by one that fails or by a kill.
- `delivered_of_run`: what a flush that succeeds had is in the table, until its partition is dropped.
- `stored_of_smooth`: without faults and kills the table is what it was and what was accepted, and
  the counters tell how many records were there already.
-/

namespace Datacat.Db

open Basics
open Ingest (Batcher IngestMetrics Label Position)

/-! ## The system -/

/-- What becomes of a statement. -/
inductive Outcome where
  | done
  /-- It is committed, and its answer is lost. -/
  | unanswered
  | failed
deriving DecidableEq

def Outcome.committed : Outcome → Bool
  | .done => true
  | .unanswered => true
  | .failed => false

def Outcome.answered : Outcome → Bool
  | .done => true
  | .unanswered => false
  | .failed => false

/-- Where the process is in its statements. -/
inductive Place where
  | down
  /-- At its start, before it drains the staging. -/
  | starting
  | drainEnsured
  /-- The task is spawned, and no statement of a flush was answered. -/
  | running
  | copied
  | ensured
  /-- `flush_inner` has returned an error. -/
  | broken
  /-- The statements of the flush are over. -/
  | finished (inserted : Option Nat)
deriving DecidableEq

/-- The task is spawned. -/
def Place.serving : Place → Bool
  | .down => false
  | .starting => false
  | .drainEnsured => false
  | _ => true

/-- The process is inside `flush_inner`, or has just left it. -/
def Place.flushing : Place → Bool
  | .copied => true
  | .ensured => true
  | .broken => true
  | .finished _ => true
  | _ => false

/-- The buffer is in the staging. -/
def Place.staged : Place → Bool
  | .copied => true
  | .ensured => true
  | _ => false

theorem Place.flushing_of_staged {place : Place} (h : place.staged = true) :
    place.flushing = true := by
  cases place with
  | copied => rfl
  | ensured => rfl
  | _ => cases h

/-- The tables of a domain, and its process with the memory of it. -/
structure Service (d : Domain) (stamp : DateTime → DateTime) where
  partitions : List Int := []
  staging : List d.Row := []
  table : Table (d.key stamp) := {}
  place : Place := .down
  batcher : Batcher d.Row

namespace Service

inductive Event (d : Domain) where
  /-- A caller of `try_enqueue`, or the task outside of the statements of a flush. -/
  | batcher (label : Label d.Row)
  /-- `COPY` of the buffer. -/
  | copy (outcome : Outcome)
  /-- `T::ensure_partitions_statement()`, of a flush or of the drain. -/
  | ensure (outcome : Outcome)
  /-- `T::merge_statement()`, with the rows as it orders them. -/
  | merge (order : List d.Row) (outcome : Outcome)
  /-- The `TRUNCATE` that follows an error. -/
  | truncate (outcome : Outcome)
  /-- `flush` counts how it ended and clears its buffer. -/
  | flushed (buf : List d.Row) (inserted : Option Nat)
  /-- The process stops, with these records in its memory. -/
  | kill (memory : List d.Row)
  | start
  /-- `datacat_drop_partitions_before`. -/
  | purge (cutoff : Int)
  /-- `datacat_ensure_partition`, of one of the days to come. -/
  | ensureDay (day : Int)

section System

variable {d : Domain} {stamp : DateTime → DateTime}

/-- The records in the memory of the process. -/
def memory (s : Service d stamp) : List d.Row := s.batcher.buf ++ s.batcher.channel.queue.flatten

def Routable (s : Service d stamp) : Prop :=
  ∀ r ∈ s.staging, d.day stamp r ∈ s.partitions

def copyBuffer (s : Service d stamp) (outcome : Outcome) : Service d stamp :=
  { s with
    staging := if outcome.committed then s.staging ++ s.batcher.buf else s.staging
    place := if outcome.answered then .copied else .broken }

/-- The partitions of the staging; the place that follows is `next`. -/
def ensurePartitions (s : Service d stamp) (outcome : Outcome) (next : Place) : Service d stamp :=
  { s with
    partitions :=
      if outcome.committed then s.staging.map (d.day stamp) ++ s.partitions else s.partitions
    place := next }

/-- What a merge makes of the table, and the count that it returns. -/
def merged (s : Service d stamp) (order : List d.Row) : Table (d.key stamp) × Nat :=
  s.table.insertAll (distinctOn (d.key stamp) order)

def mergeStaging (s : Service d stamp) (order : List d.Row) (outcome : Outcome) (next : Place) :
    Service d stamp :=
  { s with
    staging := if outcome.committed then [] else s.staging
    table := if outcome.committed then (s.merged order).1 else s.table
    place := next }

/-- The steps of the process, of its callers and of the database. `channelCapacity` is that of the
channel of a new process. -/
inductive Step (flushBatchSize channelCapacity : Nat) :
    Service d stamp → Event d → Service d stamp → Prop where
  | batcher {s : Service d stamp} {label : Label d.Row} {batcher : Batcher d.Row} :
      s.place.serving = true → (∀ inserted, label ≠ .flushed inserted) →
      Batcher.Step flushBatchSize s.batcher label batcher →
      Step flushBatchSize channelCapacity s (.batcher label) { s with batcher := batcher }
  | copy {s : Service d stamp} {next : Ingest.Phase} (outcome : Outcome) :
      s.place = .running → s.batcher.position = .flushing next →
      Step flushBatchSize channelCapacity s (.copy outcome) (s.copyBuffer outcome)
  | ensure {s : Service d stamp} (outcome : Outcome) :
      s.place = .copied →
      Step flushBatchSize channelCapacity s (.ensure outcome)
        (s.ensurePartitions outcome (if outcome.answered then .ensured else .broken))
  | merge {s : Service d stamp} {order : List d.Row} (outcome : Outcome) :
      s.place = .ensured →
      (outcome.committed = true →
        s.Routable ∧ order.Perm s.staging ∧ ReceivedInOrder stamp order) →
      Step flushBatchSize channelCapacity s (.merge order outcome)
        (s.mergeStaging order outcome
          (if outcome.answered then .finished (some (s.merged order).2) else .broken))
  -- `let _ =`: whether it succeeds or not.
  | truncate {s : Service d stamp} (outcome : Outcome) :
      s.place = .broken →
      Step flushBatchSize channelCapacity s (.truncate outcome)
        { s with
          staging := if outcome.committed then [] else s.staging
          place := .finished none }
  | flushed {s : Service d stamp} {inserted : Option Nat} {batcher : Batcher d.Row} :
      s.place = .finished inserted →
      Batcher.Step flushBatchSize s.batcher (.flushed inserted) batcher →
      Step flushBatchSize channelCapacity s (.flushed s.batcher.buf inserted)
        { s with place := .running, batcher := batcher }
  | kill {s : Service d stamp} :
      s.place ≠ .down →
      Step flushBatchSize channelCapacity s (.kill s.memory)
        { s with place := .down, batcher := .spawn d.Row channelCapacity }
  | start {s : Service d stamp} :
      s.place = .down →
      Step flushBatchSize channelCapacity s .start { s with place := .starting }
  -- The two statements of `drain_staging`; an error ends it, and the start goes on.
  | drainEnsure {s : Service d stamp} (outcome : Outcome) :
      s.place = .starting →
      Step flushBatchSize channelCapacity s (.ensure outcome)
        (s.ensurePartitions outcome (if outcome.answered then .drainEnsured else .running))
  | drainMerge {s : Service d stamp} {order : List d.Row} (outcome : Outcome) :
      s.place = .drainEnsured →
      (outcome.committed = true →
        s.Routable ∧ order.Perm s.staging ∧ ReceivedInOrder stamp order) →
      Step flushBatchSize channelCapacity s (.merge order outcome)
        (s.mergeStaging order outcome .running)
  | purge {s : Service d stamp} (cutoff : Int) :
      s.place.serving = true →
      Step flushBatchSize channelCapacity s (.purge cutoff)
        { s with
          partitions := s.partitions.filter fun day => decide (cutoff ≤ day)
          table := s.table.retain fun r => decide (cutoff ≤ d.day stamp r) }
  | ensureDay {s : Service d stamp} (day : Int) :
      s.place ≠ .down →
      Step flushBatchSize channelCapacity s (.ensureDay day)
        { s with partitions := day :: s.partitions }

/-- A domain whose process was never started, over tables of any content. -/
def Fresh (channelCapacity : Nat) (s : Service d stamp) : Prop :=
  s.place = .down ∧ s.batcher = .spawn d.Row channelCapacity

end System

/-! ## What a run did -/

section Events

variable {d : Domain}

def Event.accepted : Event d → List d.Row
  | .batcher (.trySend batch true) => batch
  | _ => []

/-- The records that leave the memory. -/
def Event.released : Event d → List d.Row
  | .flushed buf _ => buf
  | .kill memory => memory
  | _ => []

/-- The records whose `try_enqueue` succeeded, in the order of the channel. -/
def accepted (events : List (Event d)) : List d.Row := events.flatMap Event.accepted

def released (events : List (Event d)) : List d.Row := events.flatMap Event.released

theorem accepted_snoc (events : List (Event d)) (e : Event d) :
    accepted (events ++ [e]) = accepted events ++ e.accepted := by
  rw [accepted, List.flatMap_append, List.flatMap_singleton]
  rfl

theorem released_snoc (events : List (Event d)) (e : Event d) :
    released (events ++ [e]) = released events ++ e.released := by
  rw [released, List.flatMap_append, List.flatMap_singleton]
  rfl

/-- No purge drops the day of the record. -/
def Spared (stamp : DateTime → DateTime) (events : List (Event d)) (r : d.Row) : Prop :=
  ∀ cutoff, .purge cutoff ∈ events → cutoff ≤ d.day stamp r

theorem Spared.of_snoc {stamp : DateTime → DateTime} {events : List (Event d)} {e : Event d}
    {r : d.Row} (h : Spared stamp (events ++ [e]) r) : Spared stamp events r :=
  fun cutoff hmem => h cutoff (List.mem_append_left _ hmem)

end Events

/-! ## The memory -/

section Memory

variable {d : Domain} {stamp : DateTime → DateTime} {flushBatchSize channelCapacity : Nat}
  {s s' : Service d stamp} {e : Event d}

/-- A step of a caller or of the task takes a batch in at the end, and moves the others without
changing their order. -/
theorem memory_of_batcher {batcher batcher' : Batcher d.Row} {label : Label d.Row}
    (h : Batcher.Step flushBatchSize batcher label batcher')
    (hlabel : ∀ inserted, label ≠ .flushed inserted) :
    batcher'.buf ++ batcher'.channel.queue.flatten =
      batcher.buf ++ batcher.channel.queue.flatten ++ (Event.batcher label).accepted := by
  cases h with
  | sent hsenders hsend =>
    obtain ⟨-, rfl⟩ := Ingest.Channel.trySend_eq_some hsend
    simp [Event.accepted]
  | recv hpos hqueue =>
    -- The batch goes from the front of the channel to the end of the buffer.
    rw [hqueue]
    simp [Batcher.extend, Event.accepted]
  | tryRecv hpos hqueue =>
    rw [hqueue]
    simp [Batcher.extend, Event.accepted]
  | flushed inserted hpos => exact absurd rfl (hlabel inserted)
  | refused hsenders hsend => exact (List.append_nil _).symm
  | count hcalls => exact (List.append_nil _).symm
  | disconnect hcalls => exact (List.append_nil _).symm
  | shutdown => exact (List.append_nil _).symm
  | recvNone hpos hsenders hqueue => exact (List.append_nil _).symm
  | tick hpos => exact (List.append_nil _).symm
  | changed hpos hsignal => exact (List.append_nil _).symm
  | tryRecvEmpty hpos hqueue => exact (List.append_nil _).symm
  | flushEmpty hpos hbuf => exact (List.append_nil _).symm
  | handed hpos hbuf => exact (List.append_nil _).symm
  | dropReceiver hpos => exact (List.append_nil _).symm

/-- What a step takes in enters the memory at its end, and what it releases leaves at the front. -/
theorem Step.memory (h : Step flushBatchSize channelCapacity s e s') :
    e.released ++ s'.memory = s.memory ++ e.accepted := by
  cases h with
  | batcher hserving hlabel hstep => exact memory_of_batcher hstep hlabel
  | flushed hplace hstep =>
    cases hstep with
    | flushed inserted hpos => exact (List.append_nil _).symm
  | kill hup => rfl
  | copy outcome hplace hpos => exact (List.append_nil _).symm
  | ensure outcome hplace => exact (List.append_nil _).symm
  | merge outcome hplace hready => exact (List.append_nil _).symm
  | truncate outcome hplace => exact (List.append_nil _).symm
  | start hdown => exact (List.append_nil _).symm
  | drainEnsure outcome hplace => exact (List.append_nil _).symm
  | drainMerge outcome hplace hready => exact (List.append_nil _).symm
  | purge cutoff hserving => exact (List.append_nil _).symm
  | ensureDay day hup => exact (List.append_nil _).symm

/-- **Nothing leaves the memory twice or out of order.** -/
theorem released_append_memory {start : Service d stamp} {events : List (Event d)}
    (h : Run (Step flushBatchSize channelCapacity) start events s) (hstart : start.memory = []) :
    released events ++ s.memory = accepted events := by
  induction h with
  | nil => exact hstart
  | @snoc events s s' e hrun hstep ih =>
    calc
      released (events ++ [e]) ++ s'.memory
          = released events ++ (e.released ++ s'.memory) := by
        rw [released_snoc, List.append_assoc]
      _ = released events ++ s.memory ++ e.accepted := by
        rw [hstep.memory, List.append_assoc]
      _ = accepted (events ++ [e]) := by
        rw [ih, accepted_snoc]

end Memory

/-! ## The tables -/

section Tables

variable {d : Domain} {stamp : DateTime → DateTime} {flushBatchSize channelCapacity : Nat}
  {start s s' : Service d stamp} {e : Event d} {events : List (Event d)} {r : d.Row}

/-- Rows of one key are of one day. -/
theorem day_eq_of_key {r r' : d.Row} (h : d.key stamp r = d.key stamp r') :
    d.day stamp r = d.day stamp r' := by
  unfold Domain.day
  rw [h]

/-- A key leaves the table only with its day. -/
theorem Step.mem_keys (h : Step flushBatchSize channelCapacity s e s')
    (hspared : ∀ cutoff, e = .purge cutoff → cutoff ≤ d.day stamp r)
    (hr : d.key stamp r ∈ s.table.keys) : d.key stamp r ∈ s'.table.keys := by
  have hmerged (order : List d.Row) : d.key stamp r ∈ (s.merged order).1.keys :=
    (Table.mem_keys_insertAll _ _ _).mpr (.inl hr)
  have hmerge (order : List d.Row) (outcome : Outcome) (next : Place) :
      d.key stamp r ∈ (s.mergeStaging order outcome next).table.keys := by
    unfold mergeStaging
    dsimp only
    split
    · exact hmerged order
    · exact hr
  cases h with
  | merge outcome hplace hready => exact hmerge _ outcome _
  | drainMerge outcome hplace hready => exact hmerge _ outcome _
  | purge cutoff hserving =>
    obtain ⟨r', hr', hkey⟩ := List.mem_map.mp hr
    refine List.mem_map.mpr ⟨r', List.mem_filter.mpr ⟨hr', ?_⟩, hkey⟩
    rw [decide_eq_true_iff, day_eq_of_key hkey]
    exact hspared cutoff rfl
  | batcher hserving hlabel hstep => exact hr
  | copy outcome hplace hpos => exact hr
  | ensure outcome hplace => exact hr
  | truncate outcome hplace => exact hr
  | flushed hplace hstep => exact hr
  | kill hup => exact hr
  | start hdown => exact hr
  | drainEnsure outcome hplace => exact hr
  | ensureDay day hup => exact hr

/-- A row that is new in the tables was in the memory. -/
theorem Step.mem_tables (h : Step flushBatchSize channelCapacity s e s')
    (hr : r ∈ s'.table.rows ∨ r ∈ s'.staging) :
    (r ∈ s.table.rows ∨ r ∈ s.staging) ∨ r ∈ s.memory := by
  have hmerge {order : List d.Row} {outcome : Outcome} {next : Place}
      (hready : outcome.committed = true →
        s.Routable ∧ order.Perm s.staging ∧ ReceivedInOrder stamp order)
      (hr : r ∈ (s.mergeStaging order outcome next).table.rows ∨
        r ∈ (s.mergeStaging order outcome next).staging) :
      r ∈ s.table.rows ∨ r ∈ s.staging := by
    cases hcommitted : outcome.committed with
    | false => simpa [mergeStaging, hcommitted] using hr
    | true =>
      simp only [mergeStaging, hcommitted, if_true, List.not_mem_nil, or_false] at hr
      rcases Table.mem_insertAll hr with hr | hr
      · exact .inl hr
      · exact .inr ((hready hcommitted).2.1.mem_iff.mp (mem_of_mem_distinctOn hr))
  cases h with
  | copy outcome hplace hpos =>
    rcases hr with hr | hr
    · exact .inl (.inl hr)
    · unfold copyBuffer at hr
      dsimp only at hr
      split at hr
      · rcases List.mem_append.mp hr with hr | hr
        · exact .inl (.inr hr)
        · exact .inr (List.mem_append_left _ hr)
      · exact .inl (.inr hr)
  | merge outcome hplace hready => exact .inl (hmerge hready hr)
  | drainMerge outcome hplace hready => exact .inl (hmerge hready hr)
  | truncate outcome hplace =>
    rcases hr with hr | hr
    · exact .inl (.inl hr)
    · dsimp only at hr
      split at hr
      · cases hr
      · exact .inl (.inr hr)
  | purge cutoff hserving =>
    rcases hr with hr | hr
    · exact .inl (.inl (List.mem_of_mem_filter hr))
    · exact .inl (.inr hr)
  | batcher hserving hlabel hstep => exact .inl hr
  | ensure outcome hplace => exact .inl hr
  | flushed hplace hstep => exact .inl hr
  | kill hup => exact .inl hr
  | start hdown => exact .inl hr
  | drainEnsure outcome hplace => exact .inl hr
  | ensureDay day hup => exact .inl hr

end Tables

/-! ## Delivery -/

section Delivery

variable {d : Domain} {stamp : DateTime → DateTime} {flushBatchSize channelCapacity : Nat}
  {start s s' : Service d stamp} {e : Event d} {events : List (Event d)} {r : d.Row}

/-- The buffer of a flush is in the staging until it is merged, and in the table afterwards. -/
structure Inv (stamp : DateTime → DateTime) (events : List (Event d)) (s : Service d stamp) :
    Prop where
  flushing : s.place.flushing = true → ∃ next, s.batcher.position = .flushing next
  staged : s.place.staged = true → ∀ r ∈ s.batcher.buf, r ∈ s.staging
  merged : ∀ n, s.place = .finished (some n) → ∀ r ∈ s.batcher.buf, Spared stamp events r →
    d.key stamp r ∈ s.table.keys
  stored : ∀ buf n, .flushed buf (some n) ∈ events → ∀ r ∈ buf, Spared stamp events r →
    d.key stamp r ∈ s.table.keys

theorem Inv.of_fresh (h : Fresh channelCapacity s) : Inv stamp [] s where
  flushing hplace := by simp [h.1, Place.flushing] at hplace
  staged hplace := by simp [h.1, Place.staged] at hplace
  merged n hplace := by simp [h.1] at hplace
  stored _ _ hmem := by cases hmem

/-- What earlier flushes stored stays. -/
theorem Inv.stored_snoc (hinv : Inv stamp events s)
    (h : Step flushBatchSize channelCapacity s e s') {buf : List d.Row} {n : Nat}
    (hmem : .flushed buf (some n) ∈ events) (hr : r ∈ buf)
    (hspared : Spared stamp (events ++ [e]) r) : d.key stamp r ∈ s'.table.keys := by
  apply h.mem_keys
  · rintro cutoff rfl
    exact hspared cutoff (List.mem_append_right _ (List.mem_singleton_self _))
  · exact hinv.stored buf n hmem r hr hspared.of_snoc

/-- A step that reports no flush. -/
theorem Inv.unreported (hinv : Inv stamp events s)
    (h : Step flushBatchSize channelCapacity s e s') (hnone : ∀ buf n, e ≠ .flushed buf (some n))
    (hflushing : s'.place.flushing = true → ∃ next, s'.batcher.position = .flushing next)
    (hstaged : s'.place.staged = true → ∀ r ∈ s'.batcher.buf, r ∈ s'.staging)
    (hmerged : ∀ n, s'.place = .finished (some n) → ∀ r ∈ s'.batcher.buf,
      Spared stamp (events ++ [e]) r → d.key stamp r ∈ s'.table.keys) :
    Inv stamp (events ++ [e]) s' := by
  refine ⟨hflushing, hstaged, hmerged, fun buf n hmem r hr hspared => ?_⟩
  rcases List.mem_append.mp hmem with hmem | hmem
  · exact hinv.stored_snoc h hmem hr hspared
  · exact absurd (List.mem_singleton.mp hmem).symm (hnone buf n)

/-- While a flush has the buffer, the task waits for its end and the buffer stays. -/
theorem batcher_of_flushing {batcher batcher' : Batcher d.Row} {label : Label d.Row}
    {next : Ingest.Phase} (h : Batcher.Step flushBatchSize batcher label batcher')
    (hlabel : ∀ inserted, label ≠ .flushed inserted) (hpos : batcher.position = .flushing next) :
    batcher'.position = .flushing next ∧ batcher'.buf = batcher.buf := by
  cases h with
  | flushed inserted _ => exact absurd rfl (hlabel inserted)
  | sent hsenders hsend => exact ⟨hpos, rfl⟩
  | refused hsenders hsend => exact ⟨hpos, rfl⟩
  | count hcalls => exact ⟨hpos, rfl⟩
  | disconnect hcalls => exact ⟨hpos, rfl⟩
  | shutdown => exact ⟨hpos, rfl⟩
  -- The other steps are those of a task that is elsewhere.
  | recv hother hqueue => simp [hpos] at hother
  | recvNone hother hsenders hqueue => simp [hpos] at hother
  | tick hother => simp [hpos] at hother
  | changed hother hsignal => simp [hpos] at hother
  | tryRecv hother hqueue => simp [hpos] at hother
  | tryRecvEmpty hother hqueue => simp [hpos] at hother
  | flushEmpty hother hbuf => simp [hpos] at hother
  | handed hother hbuf => simp [hpos] at hother
  | dropReceiver hother => simp [hpos] at hother

theorem Inv.step (hinv : Inv stamp events s)
    (h : Step flushBatchSize channelCapacity s e s') : Inv stamp (events ++ [e]) s' := by
  have hstep := h
  cases h with
  | @batcher label batcher hserving hlabel hbatcher =>
    -- The callers go on during a flush; the task does not.
    have hkept (hplace : s.place.flushing = true) :
        (∃ next, batcher.position = .flushing next) ∧ batcher.buf = s.batcher.buf := by
      obtain ⟨next, hpos⟩ := hinv.flushing hplace
      obtain ⟨hpos', hbuf⟩ := batcher_of_flushing hbatcher hlabel hpos
      exact ⟨⟨next, hpos'⟩, hbuf⟩
    refine hinv.unreported hstep nofun (fun hplace => (hkept hplace).1) ?_ ?_
    · intro hplace r hr
      rw [(hkept (Place.flushing_of_staged hplace)).2] at hr
      exact hinv.staged hplace r hr
    · intro n hplace r hr hspared
      have hflushing : s.place.flushing = true := by
        rw [show s.place = _ from hplace]
        rfl
      rw [(hkept hflushing).2] at hr
      exact hinv.merged n hplace r hr hspared.of_snoc
  | @copy next outcome hplace hpos =>
    refine hinv.unreported hstep nofun (fun _ => ⟨next, hpos⟩) ?_ ?_
    · intro hcopied r hr
      cases outcome with
      | done => exact List.mem_append_right _ hr
      | unanswered => cases hcopied
      | failed => cases hcopied
    · intro n hfinished
      cases outcome <;> cases hfinished
  | ensure outcome hplace =>
    have hflushing : ∃ next, s.batcher.position = .flushing next :=
      hinv.flushing (by rw [hplace]; rfl)
    refine hinv.unreported hstep nofun (fun _ => hflushing) ?_ ?_
    · exact fun _ => hinv.staged (by rw [hplace]; rfl)
    · intro n hfinished
      cases outcome <;> cases hfinished
  | @merge order outcome hplace hready =>
    have hflushing : ∃ next, s.batcher.position = .flushing next :=
      hinv.flushing (by rw [hplace]; rfl)
    refine hinv.unreported hstep nofun (fun _ => hflushing) ?_ ?_
    · intro hnext
      cases outcome <;> cases hnext
    · intro n hfinished r hr hspared
      cases outcome with
      | done =>
        -- The buffer is in the staging, so the merge brings its keys.
        obtain ⟨-, hperm, -⟩ := hready rfl
        apply (Table.mem_keys_insertAll _ _ _).mpr
        apply Or.inr
        rw [map_key_distinctOn]
        exact List.mem_map_of_mem (hperm.mem_iff.mpr (hinv.staged (by rw [hplace]; rfl) r hr))
      | unanswered => cases hfinished
      | failed => cases hfinished
  | truncate outcome hplace =>
    have hflushing : ∃ next, s.batcher.position = .flushing next :=
      hinv.flushing (by rw [hplace]; rfl)
    exact hinv.unreported hstep nofun (fun _ => hflushing) nofun nofun
  | @flushed inserted batcher hplace hbatcher =>
    refine ⟨nofun, nofun, nofun, fun buf n hmem r hr hspared => ?_⟩
    rcases List.mem_append.mp hmem with hmem | hmem
    · exact hinv.stored_snoc hstep hmem hr hspared
    · obtain ⟨rfl, rfl⟩ := Event.flushed.inj (List.mem_singleton.mp hmem)
      exact hinv.merged n hplace r hr hspared.of_snoc
  | kill hup => exact hinv.unreported hstep nofun nofun nofun nofun
  | start hdown => exact hinv.unreported hstep nofun nofun nofun nofun
  | drainEnsure outcome hplace =>
    refine hinv.unreported hstep nofun ?_ ?_ ?_
    · intro hnext
      cases outcome <;> cases hnext
    · intro hnext
      cases outcome <;> cases hnext
    · intro n hnext
      cases outcome <;> cases hnext
  | drainMerge outcome hplace hready =>
    exact hinv.unreported hstep nofun nofun nofun nofun
  | purge cutoff hserving =>
    refine hinv.unreported hstep nofun hinv.flushing hinv.staged fun n hplace r hr hspared => ?_
    apply hstep.mem_keys
    · rintro cutoff' heq
      exact hspared cutoff' (List.mem_append_right _ (List.mem_singleton.mpr heq.symm))
    · exact hinv.merged n hplace r hr hspared.of_snoc
  | ensureDay day hup =>
    exact hinv.unreported hstep nofun hinv.flushing hinv.staged
      fun n hplace r hr hspared => hinv.merged n hplace r hr hspared.of_snoc

theorem inv_of_run (h : Run (Step flushBatchSize channelCapacity) start events s)
    (hstart : Fresh channelCapacity start) : Inv stamp events s := by
  induction h with
  | nil => exact .of_fresh hstart
  | snoc hrun hstep ih => exact ih.step hstep

/-- The tables hold what they held and what was accepted. -/
theorem accepted_of_mem_tables (h : Run (Step flushBatchSize channelCapacity) start events s)
    (hstart : start.memory = []) (hr : r ∈ s.table.rows ∨ r ∈ s.staging) :
    (r ∈ start.table.rows ∨ r ∈ start.staging) ∨ r ∈ accepted events := by
  induction h with
  | nil => exact .inl hr
  | @snoc events s s' e hrun hstep ih =>
    have hmore {r : d.Row} (hr : r ∈ accepted events) : r ∈ accepted (events ++ [e]) := by
      rw [accepted_snoc]
      exact List.mem_append_left _ hr
    rcases hstep.mem_tables hr with hr | hr
    · exact (ih hr).imp_right hmore
    · -- What is in the memory was accepted.
      apply Or.inr
      apply hmore
      rw [← released_append_memory hrun hstart]
      exact List.mem_append_right _ hr

/-- What became of the records of a run. -/
structure Delivered (start s : Service d stamp) (events : List (Event d)) : Prop where
  /-- Each accepted record left the memory once, in its turn, or is there. -/
  conserved : released events ++ s.memory = accepted events
  /-- What a flush that succeeded had is stored as long as its day is kept. -/
  stored : ∀ buf n, .flushed buf (some n) ∈ events → ∀ r ∈ buf, Spared stamp events r →
    d.key stamp r ∈ s.table.keys
  /-- Nothing else is stored. -/
  sound : ∀ r, r ∈ s.table.rows ∨ r ∈ s.staging →
    (r ∈ start.table.rows ∨ r ∈ start.staging) ∨ r ∈ accepted events
  /-- And nothing twice. -/
  once : s.table.keys.Nodup

/-- **From the call to the row.** Whatever the callers, the faults of the statements, the purges and
the kills: an accepted record is in the memory, or left it once, with a flush that succeeded and
stored it, with one that was counted as a failure, or with a kill. -/
theorem delivered_of_run (h : Run (Step flushBatchSize channelCapacity) start events s)
    (hstart : Fresh channelCapacity start) : Delivered start s events := by
  have hmemory : start.memory = [] := by
    unfold Service.memory
    rw [hstart.2]
    rfl
  exact
    { conserved := released_append_memory h hmemory
      stored := (inv_of_run h hstart).stored
      sound := fun _ hr => accepted_of_mem_tables h hmemory hr
      once := s.table.nodup }

end Delivery

/-! ## Without faults -/

section Smooth

variable {d : Domain} {stamp : DateTime → DateTime} {flushBatchSize channelCapacity : Nat}
  {start s s' : Service d stamp} {e : Event d} {events : List (Event d)}

/-- No statement fails, the process goes on, and no partition is dropped. -/
def Event.smooth : Event d → Bool
  | .copy outcome => outcome = .done
  | .ensure outcome => outcome = .done
  | .merge _ outcome => outcome = .done
  | .truncate _ => false
  | .kill _ => false
  | .purge _ => false
  | _ => true

/-- The steps of the batcher. -/
def Event.label? : Event d → Option (Label d.Row)
  | .batcher label => some label
  | .flushed _ inserted => some (.flushed inserted)
  | _ => none

def labels (events : List (Event d)) : List (Label d.Row) := events.filterMap Event.label?

/-- A process that has just been spawned, over an empty staging. -/
structure Spawned (channelCapacity : Nat) (s : Service d stamp) : Prop where
  place : s.place = .running
  staging : s.staging = []
  batcher : s.batcher = .spawn d.Row channelCapacity

/-- The rows that the flush in progress has merged and not counted. -/
def uncounted (s : Service d stamp) : Nat :=
  match s.place with
  | .finished (some n) => n
  | _ => 0

/-- The buffer, once the flush in progress has merged it. -/
def storing (s : Service d stamp) : List d.Row :=
  match s.place with
  | .finished (some _) => s.batcher.buf
  | _ => []

/-- The staging holds the buffer of the flush in progress until it is merged; the table holds what
was flushed; the counter is the growth. -/
structure SmoothInv (start : Service d stamp) (events : List (Event d)) (s : Service d stamp) :
    Prop where
  serving : s.place.serving = true
  answered : s.place ≠ .broken ∧ s.place ≠ .finished none
  flushing : s.place.flushing = true → ∃ next, s.batcher.position = .flushing next
  staging : s.staging = if s.place.staged then s.batcher.buf else []
  keys : ∀ k, k ∈ s.table.keys ↔
    k ∈ start.table.keys ∨ k ∈ (released events ++ s.storing).map (d.key stamp)
  growth : s.table.rows.length =
    start.table.rows.length + s.batcher.metrics.insertedTotal + s.uncounted
  failures : s.batcher.metrics.flushFailuresTotal = 0

theorem SmoothInv.of_spawned (h : Spawned channelCapacity s) : SmoothInv s [] s := by
  have hplace := h.place
  refine ⟨?_, ?_, ?_, ?_, fun k => ?_, ?_, ?_⟩
  · rw [hplace]
    rfl
  · rw [hplace]
    decide
  · rw [hplace]
    exact nofun
  · rw [hplace, h.staging]
    rfl
  · rw [storing, hplace]
    exact (or_iff_left List.not_mem_nil).symm
  · rw [uncounted, hplace, h.batcher]
    rfl
  · rw [h.batcher]
    rfl

/-- The counters of the flushes change with a flush alone. -/
theorem metrics_of_batcher {batcher batcher' : Batcher d.Row} {label : Label d.Row}
    (h : Batcher.Step flushBatchSize batcher label batcher')
    (hlabel : ∀ inserted, label ≠ .flushed inserted) :
    batcher'.metrics.insertedTotal = batcher.metrics.insertedTotal ∧
      batcher'.metrics.flushFailuresTotal = batcher.metrics.flushFailuresTotal := by
  cases h with
  | flushed inserted hpos => exact absurd rfl (hlabel inserted)
  | @count before after n sent hcalls => cases sent <;> exact ⟨rfl, rfl⟩
  | _ => exact ⟨rfl, rfl⟩

/-- A step after which the table and what was flushed are the same. -/
theorem SmoothInv.still (hinv : SmoothInv start events s) (hreleased : e.released = [])
    (hserving : s'.place.serving = true) (hanswered : s'.place ≠ .broken ∧ s'.place ≠ .finished none)
    (hflushing : s'.place.flushing = true → ∃ next, s'.batcher.position = .flushing next)
    (hstaging : s'.staging = if s'.place.staged then s'.batcher.buf else [])
    (htable : s'.table = s.table) (hstoring : s'.storing = s.storing)
    (huncounted : s'.uncounted = s.uncounted)
    (hmetrics : s'.batcher.metrics.insertedTotal = s.batcher.metrics.insertedTotal ∧
      s'.batcher.metrics.flushFailuresTotal = s.batcher.metrics.flushFailuresTotal) :
    SmoothInv start (events ++ [e]) s' := by
  refine ⟨hserving, hanswered, hflushing, hstaging, fun k => ?_, ?_, ?_⟩
  · rw [htable, hstoring, released_snoc, hreleased, List.append_nil]
    exact hinv.keys k
  · rw [htable, hmetrics.1, huncounted]
    exact hinv.growth
  · rw [hmetrics.2]
    exact hinv.failures

theorem SmoothInv.step (hinv : SmoothInv start events s) (hsmooth : e.smooth = true)
    (h : Step flushBatchSize channelCapacity s e s') : SmoothInv start (events ++ [e]) s' := by
  cases h with
  | @batcher label batcher hserving hlabel hbatcher =>
    have hkept (hplace : s.place.flushing = true) :
        (∃ next, batcher.position = .flushing next) ∧ batcher.buf = s.batcher.buf := by
      obtain ⟨next, hpos⟩ := hinv.flushing hplace
      obtain ⟨hpos', hbuf⟩ := batcher_of_flushing hbatcher hlabel hpos
      exact ⟨⟨next, hpos'⟩, hbuf⟩
    refine hinv.still rfl hserving hinv.answered (fun hplace => (hkept hplace).1) ?_ rfl ?_ rfl
      (metrics_of_batcher hbatcher hlabel)
    · rw [hinv.staging]
      show _ = if s.place.staged then batcher.buf else []
      split
      · exact (hkept (Place.flushing_of_staged ‹_›)).2.symm
      · rfl
    · unfold storing
      dsimp only
      split
      · rename_i n hplace
        exact (hkept (by rw [hplace]; rfl)).2
      · rfl
  | @copy next outcome hplace hpos =>
    obtain rfl : outcome = .done := of_decide_eq_true hsmooth
    have hempty : s.staging = [] := by
      rw [hinv.staging, hplace]
      rfl
    refine hinv.still rfl rfl ⟨nofun, nofun⟩ (fun _ => ⟨next, hpos⟩) ?_ rfl ?_ ?_ ⟨rfl, rfl⟩
    · show s.staging ++ s.batcher.buf = _
      rw [hempty, List.nil_append]
      rfl
    · unfold storing
      rw [hplace]
      rfl
    · unfold uncounted
      rw [hplace]
      rfl
  | ensure outcome hplace =>
    obtain rfl : outcome = .done := of_decide_eq_true hsmooth
    have hflushing : ∃ next, s.batcher.position = .flushing next :=
      hinv.flushing (by rw [hplace]; rfl)
    refine hinv.still rfl rfl ⟨nofun, nofun⟩ (fun _ => hflushing) ?_ rfl ?_ ?_ ⟨rfl, rfl⟩
    · show s.staging = _
      rw [hinv.staging, hplace]
      rfl
    · unfold storing
      rw [hplace]
      rfl
    · unfold uncounted
      rw [hplace]
      rfl
  | @merge order outcome hplace hready =>
    obtain rfl : outcome = .done := of_decide_eq_true hsmooth
    have hflushing : ∃ next, s.batcher.position = .flushing next :=
      hinv.flushing (by rw [hplace]; rfl)
    have hbuffer : s.staging = s.batcher.buf := by
      rw [hinv.staging, hplace]
      rfl
    obtain ⟨-, hperm, -⟩ := hready rfl
    have hstoring : s.storing = [] := by
      unfold storing
      rw [hplace]
    have huncounted : s.uncounted = 0 := by
      unfold uncounted
      rw [hplace]
    refine ⟨rfl, ⟨nofun, nofun⟩, fun _ => hflushing, rfl, fun k => ?_, ?_, hinv.failures⟩
    · -- The keys of the buffer join those that were flushed before.
      have hkeys := hinv.keys k
      rw [hstoring, List.append_nil] at hkeys
      rw [released_snoc]
      show k ∈ (s.merged order).1.keys ↔ _ ∨ k ∈ (released events ++ [] ++ s.batcher.buf).map _
      rw [merged, Table.mem_keys_insertAll, map_key_distinctOn, (hperm.map _).mem_iff, hbuffer,
        hkeys, List.append_nil, List.map_append, List.mem_append, or_assoc]
    · have hgrowth := hinv.growth
      rw [huncounted, Nat.add_zero] at hgrowth
      show (s.merged order).1.rows.length = _ + (s.merged order).2
      rw [merged, Table.length_insertAll, hgrowth]
      rfl
  | @flushed inserted batcher hplace hbatcher =>
    cases hbatcher with
    | @flushed next inserted hpos =>
      cases inserted with
      | none => exact absurd hplace hinv.answered.2
      | some n =>
        have hstoring : s.storing = s.batcher.buf := by
          unfold storing
          rw [hplace]
        have huncounted : s.uncounted = n := by
          unfold uncounted
          rw [hplace]
        refine ⟨rfl, ⟨nofun, nofun⟩, nofun, ?_, fun k => ?_, ?_, hinv.failures⟩
        · show s.staging = _
          rw [hinv.staging, hplace]
          rfl
        · have hkeys := hinv.keys k
          rw [hstoring] at hkeys
          rw [released_snoc]
          show k ∈ s.table.keys ↔ _ ∨ k ∈ (released events ++ s.batcher.buf ++ []).map _
          rw [hkeys, List.append_nil]
        · have hgrowth := hinv.growth
          rw [huncounted] at hgrowth
          show s.table.rows.length =
            start.table.rows.length + (s.batcher.metrics.insertedTotal + n) + 0
          omega
  | truncate outcome hplace => cases hsmooth
  | kill hup => cases hsmooth
  | purge cutoff hserving => cases hsmooth
  | start hdown =>
    have hserving := hinv.serving
    rw [hdown] at hserving
    cases hserving
  | drainEnsure outcome hplace =>
    have hserving := hinv.serving
    rw [hplace] at hserving
    cases hserving
  | drainMerge outcome hplace hready =>
    have hserving := hinv.serving
    rw [hplace] at hserving
    cases hserving
  | ensureDay day hup =>
    exact hinv.still rfl hinv.serving hinv.answered hinv.flushing hinv.staging rfl rfl rfl
      ⟨rfl, rfl⟩

theorem smooth_of_run (h : Run (Step flushBatchSize channelCapacity) start events s)
    (hstart : Spawned channelCapacity start) (hsmooth : ∀ e ∈ events, e.smooth = true) :
    SmoothInv start events s := by
  induction h with
  | nil => exact .of_spawned hstart
  | snoc hrun hstep ih =>
    obtain ⟨hbefore, hlast⟩ := List.forall_mem_append.mp hsmooth
    exact (ih hbefore).step (hlast _ (List.mem_singleton_self _)) hstep

/-- Without a kill the batcher runs from its spawn on. -/
theorem run_labels (h : Run (Step flushBatchSize channelCapacity) start events s)
    (hkill : ∀ memory, .kill memory ∉ events) :
    Run (Batcher.Step flushBatchSize) start.batcher (labels events) s.batcher := by
  induction h with
  | nil => exact .nil
  | @snoc events s s' e hrun hstep ih =>
    have ih := ih fun memory hmem => hkill memory (List.mem_append_left _ hmem)
    unfold labels at ih ⊢
    rw [List.filterMap_append]
    cases hstep with
    | batcher hserving hlabel hbatcher => exact .snoc ih hbatcher
    | flushed hplace hbatcher => exact .snoc ih hbatcher
    | kill hup =>
      exact absurd (List.mem_append_right _ (List.mem_singleton_self _)) (hkill s.memory)
    | _ =>
      rw [show List.filterMap Event.label? [_] = [] from rfl, List.append_nil]
      exact ih

theorem accepted_labels (events : List (Event d)) :
    (Ingest.accepted (labels events)).flatten = accepted events := by
  induction events with
  | nil => rfl
  | cons e events ih =>
    have hcons : accepted (e :: events) = e.accepted ++ accepted events := List.flatMap_cons
    rw [hcons, ← ih]
    cases e with
    | batcher label =>
      cases label with
      | trySend batch sent => cases sent <;> rfl
      | _ => rfl
    | _ => rfl

/-- Distinct keys that are all of the table before or of the accepted records are at most as many
as these. -/
theorem length_le_of_keys {t t' : Table (d.key stamp)} {rows : List d.Row}
    (h : ∀ k, k ∈ t'.keys ↔ k ∈ t.keys ∨ k ∈ rows.map (d.key stamp)) :
    t'.rows.length ≤ t.rows.length + rows.length := by
  have hsub : t'.keys ⊆ t.keys ++ rows.map (d.key stamp) := by
    intro k hk
    exact List.mem_append.mpr ((h k).mp hk)
  calc
    t'.rows.length = t'.keys.length := (List.length_map _).symm
    _ ≤ (t.keys ++ rows.map (d.key stamp)).length := (List.subperm_of_subset t'.nodup hsub).length_le
    _ = t.rows.length + rows.length := by
      rw [List.length_append, Table.keys, List.length_map, List.length_map]

/-- **A shutdown without faults.** Once the loop has ended, the table has the keys that it had and
those of the accepted records, and no others; `inserted_total` is its growth; and when all calls
have returned, `deduplicated_total` is the number of accepted records that it had already. -/
theorem stored_of_smooth (h : Run (Step flushBatchSize channelCapacity) start events s)
    (hstart : Spawned channelCapacity start) (hsmooth : ∀ e ∈ events, e.smooth = true)
    (hquiet : Ingest.QuietAfterShutdown (labels events)) (hended : s.batcher.position = .at .ended) :
    s.staging = [] ∧
      (∀ k, k ∈ s.table.keys ↔
        k ∈ start.table.keys ∨ k ∈ (accepted events).map (d.key stamp)) ∧
      s.table.rows.length = start.table.rows.length + s.batcher.metrics.insertedTotal ∧
      s.batcher.metrics.flushFailuresTotal = 0 ∧
      (s.batcher.calls = [] →
        s.batcher.metrics.receivedTotal = (accepted events).length ∧
        s.table.rows.length + s.batcher.metrics.deduplicatedTotal =
          start.table.rows.length + (accepted events).length) := by
  have hinv := smooth_of_run h hstart hsmooth
  have hkill : ∀ memory, .kill memory ∉ events := fun memory hmem => by
    cases hsmooth _ hmem
  have hbatcher := run_labels h hkill
  rw [hstart.batcher] at hbatcher
  have hsettled := Ingest.settled_of_run hbatcher hquiet
  -- The task has left its loop, so no flush is in progress and the memory is empty.
  have hidle : s.place.flushing = false := by
    rw [Bool.eq_false_iff]
    intro hflushing
    obtain ⟨next, hpos⟩ := hinv.flushing hflushing
    rw [hended] at hpos
    cases hpos
  have hmemory : s.memory = [] := by
    have hphase : s.batcher.position.phase = .ended := by rw [hended]; rfl
    rw [memory, hsettled.buf (.inr hended), hsettled.queue (.inr hphase)]
    rfl
  have hreleased : released events = accepted events := by
    have hmoved := released_append_memory h (by rw [memory, hstart.batcher]; rfl)
    rwa [hmemory, List.append_nil] at hmoved
  have hstoring : s.storing = [] := by
    unfold storing
    split
    · rename_i n hplace
      rw [hplace] at hidle
      cases hidle
    · rfl
  have huncounted : s.uncounted = 0 := by
    unfold uncounted
    split
    · rename_i n hplace
      rw [hplace] at hidle
      cases hidle
    · rfl
  have hkeys : ∀ k, k ∈ s.table.keys ↔
      k ∈ start.table.keys ∨ k ∈ (accepted events).map (d.key stamp) := by
    intro k
    rw [hinv.keys k, hstoring, List.append_nil, hreleased]
  have hgrowth := hinv.growth
  rw [huncounted, Nat.add_zero] at hgrowth
  refine ⟨?_, hkeys, hgrowth, hinv.failures, fun hcalls => ?_⟩
  · rw [hinv.staging, if_neg]
    intro hstaged
    rw [Place.flushing_of_staged hstaged] at hidle
    cases hidle
  · have hreceived := Ingest.received_of_run hbatcher
    rw [accepted_labels, Batcher.acceptedInProgress, hcalls] at hreceived
    have hle := length_le_of_keys hkeys
    have hcount : s.batcher.metrics.receivedTotal = (accepted events).length := hreceived
    refine ⟨hcount, ?_⟩
    unfold IngestMetrics.deduplicatedTotal
    omega

end Smooth

/-! ## Two runs -/

def freshService : Service .events id where
  table := freshStore.table
  batcher := .spawn Domain.events.Row 8

/-- The answer of the `COPY` is lost and the staging is truncated; the client sends the event again,
and it is stored. The process is killed before it receives the next one. -/
def lossy : List (Event .events) :=
  [.start, .ensure .done, .merge [] .done, .batcher (.trySend [receivedAtSecond 1] true),
    .batcher .recv, .batcher (.handed [receivedAtSecond 1]), .copy .unanswered, .truncate .done,
    .flushed [receivedAtSecond 1] none, .batcher (.trySend [receivedAtSecond 2] true),
    .batcher .recv, .batcher (.handed [receivedAtSecond 2]), .copy .done, .ensure .done,
    .merge [receivedAtSecond 2] .done, .flushed [receivedAtSecond 2] (some 1),
    .batcher (.trySend [receivedAtSecond 3] true), .kill [receivedAtSecond 3]]

theorem one_in_order (r : Domain.events.Row) : ReceivedInOrder id [r] := List.pairwise_singleton _ _

theorem routable_ensurePartitions {d : Domain} {stamp : DateTime → DateTime} (s : Service d stamp)
    (next : Place) : (s.ensurePartitions .done next).Routable := by
  intro r hr
  exact List.mem_append_left _ (List.mem_map_of_mem hr)

theorem run_lossy : ∃ s, Run (Step 1 8) freshService lossy s := by
  unfold lossy
  simp only [Run.cons_iff, Run.nil_iff]
  exact ⟨_, _, .start rfl, _, .drainEnsure .done rfl, _,
    .drainMerge .done rfl fun _ => ⟨nofun, .rfl, .nil⟩, _, .batcher rfl nofun (.sent rfl rfl), _,
    .batcher rfl nofun (.recv rfl rfl), _,
    .batcher rfl nofun (@Batcher.Step.handed _ _ _ .select rfl nofun), _, .copy .unanswered rfl rfl,
    _, .truncate .done rfl, _, .flushed rfl (.flushed none rfl), _,
    .batcher rfl nofun (.sent rfl rfl), _, .batcher rfl nofun (.recv rfl rfl), _,
    .batcher rfl nofun (@Batcher.Step.handed _ _ _ .select rfl nofun), _, .copy .done rfl rfl, _,
    .ensure .done rfl, _, .merge .done rfl fun _ => ⟨routable_ensurePartitions _ _, .rfl, one_in_order _⟩, _,
    .flushed rfl (.flushed (some 1) rfl), _, .batcher rfl nofun (.sent rfl rfl), _,
    .kill nofun, rfl⟩

theorem delivered_of_run_lossy :
    ∃ s, Run (Step 1 8) freshService lossy s ∧ Delivered freshService s lossy := by
  obtain ⟨s, hrun⟩ := run_lossy
  exact ⟨s, hrun, delivered_of_run hrun ⟨rfl, rfl⟩⟩

def spawnedService : Service .events id := { freshService with place := .running }

/-- An event is sent twice, and the process shuts down. -/
def graceful : List (Event .events) :=
  [.batcher (.trySend [receivedAtSecond 2, receivedAtSecond 1] true), .batcher (.count 0)] ++
    .batcher .shutdown :: [.batcher .changed, .batcher .tryRecv,
      .batcher (.handed [receivedAtSecond 2, receivedAtSecond 1]), .copy .done, .ensure .done,
      .merge [receivedAtSecond 1, receivedAtSecond 2] .done,
      .flushed [receivedAtSecond 2, receivedAtSecond 1] (some 1), .batcher .tryRecvEmpty,
      .batcher .flushEmpty, .batcher .dropReceiver]

theorem run_graceful : ∃ s, Run (Step 1 8) spawnedService graceful s ∧
    s.batcher.position = .at .ended ∧ s.batcher.calls = [] := by
  have htwo : ReceivedInOrder id [receivedAtSecond 1, receivedAtSecond 2] :=
    List.pairwise_pair.mpr fun _ => show (⟨1000000000⟩ : DateTime) ≤ ⟨2000000000⟩ by decide
  unfold graceful
  simp only [List.cons_append, List.nil_append, Run.cons_iff, Run.nil_iff]
  exact ⟨_, ⟨_, .batcher rfl nofun (.sent rfl rfl), _,
    .batcher rfl nofun (@Batcher.Step.count _ _ _ [] _ _ _ rfl), _, .batcher rfl nofun .shutdown, _,
    .batcher rfl nofun (.changed rfl rfl), _, .batcher rfl nofun (.tryRecv rfl rfl), _,
    .batcher rfl nofun (@Batcher.Step.handed _ _ _ .drain rfl nofun), _, .copy .done rfl rfl, _,
    .ensure .done rfl, _, .merge .done rfl fun _ => ⟨routable_ensurePartitions _ _, .swap _ _ _, htwo⟩, _,
    .flushed rfl (.flushed (some 1) rfl), _, .batcher rfl nofun (.tryRecvEmpty rfl rfl), _,
    .batcher rfl nofun (.flushEmpty rfl rfl), _, .batcher rfl nofun (.dropReceiver rfl), rfl⟩,
    rfl, rfl⟩

theorem stored_of_smooth_graceful : ∃ s, Run (Step 1 8) spawnedService graceful s ∧
    s.batcher.metrics.receivedTotal = 2 ∧
      s.table.rows.length + s.batcher.metrics.deduplicatedTotal = 2 := by
  obtain ⟨s, hrun, hended, hcalls⟩ := run_graceful
  have hlabels : labels graceful = [.trySend [receivedAtSecond 2, receivedAtSecond 1] true,
      .count 0] ++ .shutdown :: [.changed, .tryRecv,
      .handed [receivedAtSecond 2, receivedAtSecond 1], .flushed (some 1), .tryRecvEmpty,
      .flushEmpty, .dropReceiver] := rfl
  have hquiet : Ingest.QuietAfterShutdown (labels graceful) := by
    rw [hlabels]
    apply Ingest.QuietAfterShutdown.of_split
    · simp
    · simp
  have hstored := stored_of_smooth hrun ⟨rfl, rfl, rfl⟩ (by decide) hquiet hended
  exact ⟨s, hrun, hstored.2.2.2.2 hcalls⟩

end Service

end Datacat.Db
