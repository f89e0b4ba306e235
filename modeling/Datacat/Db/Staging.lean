import Datacat.Basics.Run
import Datacat.Basics.Table
import Datacat.Ingest.Rows

/-!
# Staging and Merge

A batch is copied into the staging table of its domain, the partitions for its days are ensured,
and the staging is merged into the table and emptied. Each of the three statements is atomic. The
process may stop between any two of them; the staging stays, and the next start drains it.

The database rounds instants; a key is made of the rounded instant and of the identifier. Of the
rows of one key, the merge takes one received first.

## Main results

- `Inv.step`: the staging is empty between flushes, and its days have partitions before a merge.
- `merge_exactly_once`: the keys of the table are those ever copied, each row stays as it was
  inserted, and the counts of the merges add up to the growth.
-/

namespace Datacat

open Basics

/-! ## Keys -/

/-- What identifies a row at its instant. -/
def Domain.Id : Domain → Type
  | .events => Uuid
  | .logs => Uuid
  | .traces => String × String
  | .metrics => Uuid

instance (d : Domain) : DecidableEq d.Id :=
  match d with
  | .events => inferInstanceAs (DecidableEq Uuid)
  | .logs => inferInstanceAs (DecidableEq Uuid)
  | .traces => inferInstanceAs (DecidableEq (String × String))
  | .metrics => inferInstanceAs (DecidableEq Uuid)

/-- The key of a record, with its instant unrounded. -/
def Domain.recordKey : (d : Domain) → d.Row → DateTime × d.Id
  | .events, e => Events.StoredEvent.key e
  | .logs, l => Logs.StoredLog.key l
  | .traces, s => Traces.StoredSpan.key s
  | .metrics, p => Metrics.StoredMetricPoint.key p

def Domain.receivedAt : (d : Domain) → d.Row → DateTime
  | .events, e => Events.StoredEvent.receivedAt e
  | .logs, l => Logs.StoredLog.receivedAt l
  | .traces, s => Traces.StoredSpan.receivedAt s
  | .metrics, p => Metrics.StoredMetricPoint.receivedAt p

/-- The primary key of a row: `stamp` rounds an instant as the database does. -/
def Domain.key (d : Domain) (stamp : DateTime → DateTime) (r : d.Row) : DateTime × d.Id :=
  (stamp (d.recordKey r).1, (d.recordKey r).2)

/-- The UTC day of a row, which names its partition. -/
def Domain.day (d : Domain) (stamp : DateTime → DateTime) (r : d.Row) : Int :=
  (d.key stamp r).1.nanos / (DateTime.secsPerDay * DateTime.nanosPerSec)

namespace Db

/-! ## The system -/

/-- Where the process is: stopped, draining the staging at its start, between two flushes or inside
one. -/
inductive Phase where
  | down
  | starting
  | drainEnsured
  | idle
  | copied
  | ensured
deriving DecidableEq

/-- The tables of a domain, and the process. -/
structure Store (d : Domain) (stamp : DateTime → DateTime) where
  partitions : List Int
  staging : List d.Row
  table : Table (d.key stamp)
  phase : Phase

inductive Action (d : Domain) where
  /-- `COPY` of a batch. -/
  | copy (batch : List d.Row)
  /-- `COPY` refuses the batch, and the staging is truncated. -/
  | copyFails
  /-- `datacat_ensure_partitions_for_staging`. -/
  | ensure
  /-- `datacat_merge_staging`, with the rows as it orders them and the count that it returns. -/
  | merge (order : List d.Row) (inserted : Nat)
  /-- A row of the staging has no partition. -/
  | mergeFails
  /-- The process stops. -/
  | stop
  /-- The process starts; it drains the staging before anything else. -/
  | start
  /-- `datacat_ensure_partition`, for the window of the days to come. -/
  | ensureDay (day : Int)

section System

variable {d : Domain} {stamp : DateTime → DateTime}

def Store.ensurePartitions (s : Store d stamp) : Store d stamp :=
  { s with partitions := s.staging.map (d.day stamp) ++ s.partitions }

/-- Every row of the staging has a partition. -/
def Store.Routable (s : Store d stamp) : Prop :=
  ∀ r ∈ s.staging, d.day stamp r ∈ s.partitions

/-- `ORDER BY <key>, received_at`, as far as one key goes. -/
def ReceivedInOrder (stamp : DateTime → DateTime) (order : List d.Row) : Prop :=
  order.Pairwise fun a b => d.key stamp a = d.key stamp b → d.receivedAt a ≤ d.receivedAt b

inductive Step : Store d stamp → Action d → Store d stamp → Prop where
  | copy {s batch} : s.phase = .idle → batch ≠ [] →
      Step s (.copy batch) { s with staging := s.staging ++ batch, phase := .copied }
  | copyFails {s} : s.phase = .idle → Step s .copyFails { s with staging := [] }
  | ensure {s} : s.phase = .copied → Step s .ensure { s.ensurePartitions with phase := .ensured }
  | drainEnsure {s} : s.phase = .starting →
      Step s .ensure { s.ensurePartitions with phase := .drainEnsured }
  | merge {s order} : s.phase = .ensured ∨ s.phase = .drainEnsured → s.Routable →
      order.Perm s.staging → ReceivedInOrder stamp order →
      Step s (.merge order (s.table.insertAll (distinctOn (d.key stamp) order)).2)
        { s with
          staging := []
          table := (s.table.insertAll (distinctOn (d.key stamp) order)).1
          phase := .idle }
  /-- The flush truncates the staging after an error. -/
  | mergeFails {s} : s.phase = .ensured → ¬ s.Routable →
      Step s .mergeFails { s with staging := [], phase := .idle }
  /-- An error of the drain is ignored. -/
  | drainFails {s} : s.phase = .drainEnsured → ¬ s.Routable →
      Step s .mergeFails { s with phase := .idle }
  | stop {s} : s.phase ≠ .down → Step s .stop { s with phase := .down }
  | start {s} : s.phase = .down → Step s .start { s with phase := .starting }
  | ensureDay {s day} : s.phase ≠ .down →
      Step s (.ensureDay day) { s with partitions := day :: s.partitions }

/-- The rows that were committed to the staging. -/
def Action.copied : Action d → List d.Row
  | .copy batch => batch
  | _ => []

/-- The count that a merge returns. -/
def Action.inserted : Action d → Nat
  | .merge _ n => n
  | _ => 0

/-- The key is in the table or in the staging. -/
def Store.Has (s : Store d stamp) (k : DateTime × d.Id) : Prop :=
  k ∈ s.table.keys ∨ k ∈ s.staging.map (d.key stamp)

/-- Between two flushes the staging is empty; before a merge its rows have partitions. -/
structure Inv (s : Store d stamp) : Prop where
  empty : s.phase = .idle → s.staging = []
  routable : s.phase = .ensured ∨ s.phase = .drainEnsured → s.Routable

end System

/-! ## Steps -/

section Steps

variable {d : Domain} {stamp : DateTime → DateTime} {s s' : Store d stamp} {a : Action d}
  {k : DateTime × d.Id}

theorem routable_ensurePartitions (s : Store d stamp) : s.ensurePartitions.Routable := by
  intro r hr
  exact List.mem_append_left _ (List.mem_map_of_mem hr)

theorem Inv.of_down (h : s.phase = .down) : Inv s where
  empty hidle := by simp [h] at hidle
  routable hready := by simp [h] at hready

theorem Inv.step (hinv : Inv s) (h : Step s a s') : Inv s' := by
  cases h with
  | copy hidle hbatch => exact ⟨nofun, nofun⟩
  | copyFails hidle =>
    refine ⟨fun _ => rfl, fun hready => ?_⟩
    simp [hidle] at hready
  | ensure hcopied => exact ⟨nofun, fun _ => routable_ensurePartitions s⟩
  | drainEnsure hstarting => exact ⟨nofun, fun _ => routable_ensurePartitions s⟩
  | merge hready hroutable hperm horder => exact ⟨fun _ => rfl, nofun⟩
  | mergeFails hready hlost => exact ⟨fun _ => rfl, nofun⟩
  | drainFails hready hlost => exact absurd (hinv.routable (.inr hready)) hlost
  | stop hup => exact .of_down rfl
  | start hdown => exact ⟨nofun, nofun⟩
  | ensureDay hup =>
    refine ⟨hinv.empty, fun hready r hr => ?_⟩
    exact List.mem_cons_of_mem _ (hinv.routable hready r hr)

/-- No merge fails for want of a partition. -/
theorem Inv.not_mergeFails (hinv : Inv s) : ¬ Step s .mergeFails s' := by
  intro h
  cases h with
  | mergeFails hready hlost => exact hlost (hinv.routable (.inl hready))
  | drainFails hready hlost => exact hlost (hinv.routable (.inr hready))

/-- What a step adds to the keys is what it copies. -/
theorem Step.has_iff (hinv : Inv s) (h : Step s a s') :
    s'.Has k ↔ s.Has k ∨ k ∈ a.copied.map (d.key stamp) := by
  have hnone : k ∉ ([] : List d.Row).map (d.key stamp) := List.not_mem_nil
  -- Keys move from the staging to the table; only a copy brings new ones.
  cases h with
  | copy hidle hbatch =>
    unfold Store.Has
    rw [List.map_append, List.mem_append, ← or_assoc]
    rfl
  | copyFails hidle =>
    unfold Store.Has
    rw [hinv.empty hidle]
    exact (or_iff_left hnone).symm
  | merge hready hroutable hperm horder =>
    unfold Store.Has
    rw [Table.mem_keys_insertAll, map_key_distinctOn, (hperm.map _).mem_iff]
    exact (or_iff_left hnone).trans (or_iff_left hnone).symm
  | mergeFails hready hlost => exact absurd (hinv.routable (.inl hready)) hlost
  | drainFails hready hlost => exact absurd (hinv.routable (.inr hready)) hlost
  | ensure hcopied => exact (or_iff_left hnone).symm
  | drainEnsure hstarting => exact (or_iff_left hnone).symm
  | stop hup => exact (or_iff_left hnone).symm
  | start hdown => exact (or_iff_left hnone).symm
  | ensureDay hup => exact (or_iff_left hnone).symm

/-- Only a merge touches the table, and only by inserting. -/
theorem Step.table (h : Step s a s') :
    s.table.rows <+: s'.table.rows ∧
      s'.table.rows.length = s.table.rows.length + a.inserted := by
  cases h with
  | merge hready hroutable hperm horder =>
    exact ⟨Table.rows_prefix_insertAll _ _, Table.length_insertAll _ _⟩
  | copy hidle hbatch => exact ⟨List.prefix_rfl, rfl⟩
  | copyFails hidle => exact ⟨List.prefix_rfl, rfl⟩
  | ensure hcopied => exact ⟨List.prefix_rfl, rfl⟩
  | drainEnsure hstarting => exact ⟨List.prefix_rfl, rfl⟩
  | mergeFails hready hlost => exact ⟨List.prefix_rfl, rfl⟩
  | drainFails hready hlost => exact ⟨List.prefix_rfl, rfl⟩
  | stop hup => exact ⟨List.prefix_rfl, rfl⟩
  | start hdown => exact ⟨List.prefix_rfl, rfl⟩
  | ensureDay hup => exact ⟨List.prefix_rfl, rfl⟩

/-- A row comes from a copy. -/
theorem Step.mem_rows (h : Step s a s') {r : d.Row} (hr : r ∈ s'.table.rows ∨ r ∈ s'.staging) :
    (r ∈ s.table.rows ∨ r ∈ s.staging) ∨ r ∈ a.copied := by
  cases h with
  | copy hidle hbatch =>
    rcases hr with hr | hr
    · exact .inl (.inl hr)
    · rcases List.mem_append.mp hr with hr | hr
      · exact .inl (.inr hr)
      · exact .inr hr
  | merge hready hroutable hperm horder =>
    rcases hr with hr | hr
    · rcases Table.mem_insertAll hr with hr | hr
      · exact .inl (.inl hr)
      · exact .inl (.inr (hperm.mem_iff.mp (mem_of_mem_distinctOn hr)))
    · cases hr
  | copyFails hidle => exact .inl (.inl (hr.resolve_right List.not_mem_nil))
  | mergeFails hready hlost => exact .inl (.inl (hr.resolve_right List.not_mem_nil))
  | ensure hcopied => exact .inl hr
  | drainEnsure hstarting => exact .inl hr
  | drainFails hready hlost => exact .inl hr
  | stop hup => exact .inl hr
  | start hdown => exact .inl hr
  | ensureDay hup => exact .inl hr

/-- A merge whose keys are all there changes nothing. -/
theorem Step.merge_of_present {order : List d.Row} {n : Nat} (h : Step s (.merge order n) s')
    (hpresent : ∀ r ∈ s.staging, d.key stamp r ∈ s.table.keys) : n = 0 ∧ s'.table = s.table := by
  cases h with
  | merge hready hroutable hperm horder =>
    have hinsert : s.table.insertAll (distinctOn (d.key stamp) order) = (s.table, 0) := by
      apply Table.insertAll_of_present
      intro r hr
      exact hpresent r (hperm.mem_iff.mp (mem_of_mem_distinctOn hr))
    rw [hinsert]
    exact ⟨rfl, rfl⟩

/-- The store once its staging is drained. -/
def Store.drained (s : Store d stamp) (order : List d.Row) : Store d stamp :=
  { s.ensurePartitions with
    staging := []
    table := (s.table.insertAll (distinctOn (d.key stamp) order)).1
    phase := .idle }

/-- A start that is not interrupted drains the staging. -/
theorem run_drain {order : List d.Row} {n : Nat} (hdown : s.phase = .down)
    (hperm : order.Perm s.staging) (horder : ReceivedInOrder stamp order)
    (hn : (s.table.insertAll (distinctOn (d.key stamp) order)).2 = n) :
    Run Step s [.start, .ensure, .merge order n] (s.drained order) := by
  subst hn
  apply Run.cons_iff.mpr ⟨_, .start hdown, _⟩
  apply Run.cons_iff.mpr ⟨_, .drainEnsure rfl, _⟩
  exact Run.single (.merge (.inr rfl) (routable_ensurePartitions s) hperm horder)

end Steps

/-! ## Runs -/

section Runs

variable {d : Domain} {stamp : DateTime → DateTime} {start s : Store d stamp}
  {labels : List (Action d)}

theorem inv_of_run (h : Run Step start labels s) (hstart : start.phase = .down) : Inv s :=
  h.invariant (.of_down hstart) fun _ _ _ hinv hstep => hinv.step hstep

theorem has_iff_of_run (h : Run Step start labels s) (hstart : start.phase = .down)
    (k : DateTime × d.Id) :
    s.Has k ↔ start.Has k ∨ k ∈ (labels.flatMap Action.copied).map (d.key stamp) := by
  induction h with
  | nil => exact (or_iff_left List.not_mem_nil).symm
  | @snoc labels s s' a hrun hstep ih =>
    rw [hstep.has_iff (inv_of_run hrun hstart), ih, List.flatMap_append, List.map_append,
      List.mem_append, List.flatMap_singleton, or_assoc]

theorem table_of_run (h : Run Step start labels s) :
    start.table.rows <+: s.table.rows ∧
      s.table.rows.length = start.table.rows.length + (labels.map Action.inserted).sum := by
  induction h with
  | nil => exact ⟨List.prefix_rfl, rfl⟩
  | @snoc labels s s' a hrun hstep ih =>
    obtain ⟨hkept, hlength⟩ := hstep.table
    refine ⟨ih.1.trans hkept, ?_⟩
    rw [hlength, ih.2, List.map_append, List.sum_append, List.map_singleton, List.sum_singleton,
      Nat.add_assoc]

theorem mem_rows_of_run (h : Run Step start labels s) {r : d.Row}
    (hr : r ∈ s.table.rows ∨ r ∈ s.staging) :
    (r ∈ start.table.rows ∨ r ∈ start.staging) ∨ r ∈ labels.flatMap Action.copied := by
  induction h with
  | nil => exact .inl hr
  | @snoc labels s s' a hrun hstep ih =>
    rw [List.flatMap_append, List.flatMap_singleton, List.mem_append, ← or_assoc]
    exact (hstep.mem_rows hr).imp_left ih

theorem mergeFails_not_mem (h : Run Step start labels s) (hstart : start.phase = .down) :
    .mergeFails ∉ labels := by
  intro hmem
  obtain ⟨before, after, rfl⟩ := List.append_of_mem hmem
  obtain ⟨mid, hmid, hrest⟩ := Run.append_iff.mp h
  obtain ⟨mid', hstep, -⟩ := Run.cons_iff.mp hrest
  exact (inv_of_run hmid hstart).not_mergeFails hstep

/-- **Exactly once.** Along every run of flushes, stops and starts: the table has one row for each
key; between flushes its keys are those of the table and the staging at the start and those copied
since; what is in the table at any time stays there unchanged; the counts of the merges add up to
the growth; a merge whose keys are all there returns 0 and changes nothing; and no merge fails. -/
theorem merge_exactly_once (h : Run Step start labels s) (hstart : start.phase = .down) :
    s.table.keys.Nodup ∧
      (s.phase = .idle → ∀ k, k ∈ s.table.keys ↔
        start.Has k ∨ k ∈ (labels.flatMap Action.copied).map (d.key stamp)) ∧
      (∀ before after mid, labels = before ++ after → Run Step start before mid →
        Run Step mid after s → mid.table.rows <+: s.table.rows) ∧
      s.table.rows.length = start.table.rows.length + (labels.map Action.inserted).sum ∧
      (∀ before order n after mid mid', labels = before ++ .merge order n :: after →
        Run Step start before mid → Step mid (.merge order n) mid' →
        (∀ r ∈ mid.staging, d.key stamp r ∈ mid.table.keys) → n = 0 ∧ mid'.table = mid.table) ∧
      .mergeFails ∉ labels := by
  refine ⟨s.table.nodup, ?_, ?_, (table_of_run h).2, ?_, mergeFails_not_mem h hstart⟩
  · intro hidle k
    rw [← has_iff_of_run h hstart k, Store.Has, (inv_of_run h hstart).empty hidle]
    exact (or_iff_left List.not_mem_nil).symm
  · intro before after mid _ _ hafter
    exact (table_of_run hafter).1
  · intro before order n after mid mid' _ _ hstep hpresent
    exact hstep.merge_of_present hpresent

end Runs

/-- An event that was received at a second. -/
def receivedAtSecond (n : Nat) : Domain.events.Row :=
  ({ eventId := ⟨.replicate 16 0⟩
     eventName := "signup"
     tenantId := none
     actorId := "a"
     sessionId := "s"
     timestampClient := ⟨0⟩
     receivedAt := ⟨n * 1000000000⟩
     properties := .object [] } : Events.StoredEvent)

def freshStore : Store .events id := { partitions := [], staging := [], table := {}, phase := .down }

/-- The event is sent twice in a batch, and the process stops before the merge; the staging is
drained when it starts again. -/
def resends : List (Action .events) :=
  [.start, .ensure, .merge [] 0, .copy [receivedAtSecond 2, receivedAtSecond 1], .ensure, .stop,
    .start, .ensure, .merge [receivedAtSecond 1, receivedAtSecond 2] 1]

/-- Where the process stops. -/
def stopped : Store .events id where
  partitions := [0, 0]
  staging := [receivedAtSecond 2, receivedAtSecond 1]
  table := {}
  phase := .down

theorem run_resends : Run Step freshStore resends
    (stopped.drained [receivedAtSecond 1, receivedAtSecond 2]) := by
  have hflush : Run Step (freshStore.drained [])
      [.copy [receivedAtSecond 2, receivedAtSecond 1], .ensure, .stop] stopped := by
    apply Run.cons_iff.mpr ⟨_, .copy rfl (List.cons_ne_nil _ _), _⟩
    apply Run.cons_iff.mpr ⟨_, .ensure rfl, _⟩
    exact Run.single (.stop nofun)
  have horder : ReceivedInOrder id [receivedAtSecond 1, receivedAtSecond 2] :=
    List.pairwise_pair.mpr fun _ => show (⟨1000000000⟩ : DateTime) ≤ ⟨2000000000⟩ by decide
  have hfirst := @run_drain _ _ freshStore [] 0 rfl .rfl .nil rfl
  have hlast := @run_drain _ _ stopped [receivedAtSecond 1, receivedAtSecond 2] 1 rfl
    (.swap _ _ _) horder (by decide +kernel)
  exact Run.append_iff.mpr ⟨_, hfirst, Run.append_iff.mpr ⟨_, hflush, hlast⟩⟩

theorem merge_exactly_once_resends :
    let s := stopped.drained [receivedAtSecond 1, receivedAtSecond 2]
    s.table.rows = [receivedAtSecond 1] ∧
      ∀ k, k ∈ s.table.keys ↔ freshStore.Has k ∨
        k ∈ (resends.flatMap Action.copied).map (Domain.events.key id) :=
  ⟨by rfl, (merge_exactly_once run_resends rfl).2.1 rfl⟩

end Db

end Datacat
