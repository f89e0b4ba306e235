import Datacat.Config
import Datacat.Db.Staging

/-!
# Retention

Beside the flushes, the maintenance creates the partitions of the days around the present and drops
those older than the retention. Each partition is created by a statement of its own, and one
statement drops all the old ones. Nothing orders these statements and those of a flush.

A flush ensures the partitions of what it has staged and then merges. A purge between the two can
drop one of them when the skew window is longer than the retention. The merge finds every
partition when the purges leave the days that are staged (`merge_finds_partitions`).
-/

namespace Datacat.Db

open Basics

/-! ## Configuration -/

/-- The part of the configuration that the maintenance reads; retention and days ahead are `i64`
without bounds. -/
structure Maintenance where
  limits : ValidationLimits
  retentionDays : Int
  partitionFutureDays : Int

/-- `d.as_secs() / 86_400`, of a duration in nanoseconds. -/
def wholeDays (nanos : Nat) : Int := (nanos / 1000000000 / 86400 : Nat)

def Maintenance.pastDays (c : Maintenance) : Int := wholeDays c.limits.maxPastSkew + 1

def Maintenance.futureDays (c : Maintenance) : Int :=
  max c.partitionFutureDays (wholeDays c.limits.maxFutureSkew + 1)

/-- The record was inside the skew window when it was received. -/
def Maintenance.Admits (c : Maintenance) (d : Domain) (r : d.Row) : Prop :=
  ∃ window, skewWindow (d.receivedAt r) c.limits = some window ∧
    outsideWindow window (d.recordKey r).1 = false

/-! ## The system -/

section System

variable {d : Domain} {stamp : DateTime → DateTime}

/-- `datacat_drop_partitions_before`: the days go with their rows. -/
def Store.purge (s : Store d stamp) (cutoff : Int) : Store d stamp :=
  { s with
    partitions := s.partitions.filter fun day => decide (cutoff ≤ day)
    table := s.table.retain fun r => decide (cutoff ≤ d.day stamp r) }

inductive Event (d : Domain) where
  /-- A statement of the ingestion, or a stop or a start of the process. -/
  | flush (a : Action d)
  /-- `ensure_partition_window`, one day of it. -/
  | createAhead (today offset : Int)
  /-- `purge_old_partitions`. -/
  | purge (today : Int)

/-- The process is up and has drained the staging. -/
def Phase.serving : Phase → Bool
  | .idle => true
  | .copied => true
  | .ensured => true
  | _ => false

/-- The flushes with the maintenance. Partitions are created ahead before the drain too; the first
purge comes after it. -/
inductive Maintained (c : Maintenance) : Store d stamp → Event d → Store d stamp → Prop where
  | flush {s a s'} : (∀ day, a ≠ .ensureDay day) → Step s a s' → Maintained c s (.flush a) s'
  | createAhead {s today offset} : s.phase ≠ .down → -c.pastDays ≤ offset →
      offset ≤ c.futureDays →
      Maintained c s (.createAhead today offset)
        { s with partitions := (today + offset) :: s.partitions }
  | purge {s today} : s.phase.serving = true →
      Maintained c s (.purge today) (s.purge (today - c.retentionDays))

/-- A purge between the ensure and the merge of a flush leaves the days of the staged rows. -/
def Spares (c : Maintenance) (s : Store d stamp) : Event d → Prop
  | .purge today =>
    s.phase = .ensured → ∀ r ∈ s.staging, today - c.retentionDays ≤ d.day stamp r
  | _ => True

/-- What is due in this state is a merge. -/
def Store.Merging (s : Store d stamp) : Prop := s.phase = .ensured ∨ s.phase = .drainEnsured

end System

/-! ## Steps -/

section Steps

variable {d : Domain} {stamp : DateTime → DateTime} {c : Maintenance} {s s' : Store d stamp}
  {e : Event d}

theorem Inv.createAhead (hinv : Inv s) (day : Int) :
    Inv { s with partitions := day :: s.partitions } where
  empty := hinv.empty
  routable hready r hr := List.mem_cons_of_mem _ (hinv.routable hready r hr)

theorem Inv.purge (hinv : Inv s) (hserving : s.phase.serving = true) {cutoff : Int}
    (hspares : s.phase = .ensured → ∀ r ∈ s.staging, cutoff ≤ d.day stamp r) :
    Inv (s.purge cutoff) where
  empty := hinv.empty
  routable hready := by
    -- Nothing is purged during a drain.
    have hensured : s.phase = .ensured := by
      rcases hready with hready | hready
      · exact hready
      · rw [show s.phase = .drainEnsured from hready] at hserving
        cases hserving
    intro r hr
    apply List.mem_filter.mpr
    exact ⟨hinv.routable (.inl hensured) r hr, decide_eq_true (hspares hensured r hr)⟩

theorem Inv.maintained (hinv : Inv s) (hspares : Spares c s e) (h : Maintained c s e s') :
    Inv s' := by
  cases h with
  | flush hday hstep => exact hinv.step hstep
  | createAhead hup hpast hfuture => exact hinv.createAhead _
  | purge hserving => exact hinv.purge hserving hspares

end Steps

/-! ## Runs -/

section Runs

variable {d : Domain} {stamp : DateTime → DateTime} {c : Maintenance} {start s : Store d stamp}
  {labels : List (Event d)}

theorem inv_of_spared (hstart : start.phase = .down)
    (h : Run (fun s e s' => Spares c s e ∧ Maintained c s e s') start labels s) : Inv s :=
  h.invariant (.of_down hstart) fun _ _ _ hinv hstep => hinv.maintained hstep.1 hstep.2

/-- **Merges that find their partitions.** In a run whose purges all spare what is staged, every
staged row has a partition when a merge is due, and no merge fails. -/
theorem merge_finds_partitions (hstart : start.phase = .down)
    (h : Run (fun s e s' => Spares c s e ∧ Maintained c s e s') start labels s) :
    (s.Merging → s.Routable) ∧ .flush .mergeFails ∉ labels := by
  refine ⟨(inv_of_spared hstart h).routable, fun hmem => ?_⟩
  obtain ⟨before, after, rfl⟩ := List.append_of_mem hmem
  obtain ⟨mid, hmid, hrest⟩ := Run.append_iff.mp h
  obtain ⟨mid', hstep, -⟩ := Run.cons_iff.mp hrest
  cases hstep.2 with
  | flush hday hfails => exact (inv_of_spared hstart hmid).not_mergeFails hfails

end Runs

/-! ## A purge in the midst of a flush -/

/-- The default skew of 31 days, with a retention in days. -/
def keeping (retentionDays : Int) : Maintenance where
  limits := testLimits
  retentionDays := retentionDays
  partitionFutureDays := 2

/-- An event of the first day, received on the tenth. -/
def lateEvent : Domain.events.Row :=
  ({ eventId := ⟨.replicate 16 0⟩
     eventName := "signup"
     tenantId := none
     actorId := "a"
     sessionId := "s"
     timestampClient := ⟨0⟩
     receivedAt := ⟨10 * 86400 * 1000000000⟩
     properties := .object [] } : Events.StoredEvent)

/-- The process starts, and a flush has ensured the partition of the late event. -/
def flushing : List (Event .events) :=
  [.flush .start, .flush .ensure, .flush (.merge [] 0), .flush (.copy [lateEvent]), .flush .ensure]

def ensuredStore : Store .events id :=
  { freshStore with partitions := [0], staging := [lateEvent], phase := .ensured }

theorem admits_lateEvent : (keeping 7).Admits .events lateEvent :=
  ⟨(⟨-21 * 86400 * 1000000000⟩, ⟨11 * 86400 * 1000000000⟩), by decide +kernel, by decide +kernel⟩

theorem run_flushing (c : Maintenance) :
    Run (fun s e s' => Spares c s e ∧ Maintained c s e s') freshStore flushing ensuredStore := by
  apply Run.cons_iff.mpr ⟨_, ⟨trivial, .flush nofun (.start rfl)⟩, _⟩
  apply Run.cons_iff.mpr ⟨_, ⟨trivial, .flush nofun (.drainEnsure rfl)⟩, _⟩
  apply Run.cons_iff.mpr ⟨_, ⟨trivial, .flush nofun
    (.merge (.inr rfl) (List.forall_mem_nil _) .rfl .nil)⟩, _⟩
  apply Run.cons_iff.mpr ⟨_, ⟨trivial, .flush nofun (.copy rfl (List.cons_ne_nil _ _))⟩, _⟩
  exact Run.single ⟨trivial, .flush nofun (.ensure rfl)⟩

/-- With the default retention of 90 days a purge leaves the partition. -/
theorem merge_finds_partitions_late :
    (ensuredStore.purge (10 - 90)).Routable ∧ .flush .mergeFails ∉ flushing ++ [.purge 10] := by
  have hspares : Spares (keeping 90) ensuredStore (.purge 10) := by
    intro _ r hr
    rw [List.mem_singleton.mp hr]
    decide
  have hrun := Run.snoc (run_flushing (keeping 90)) ⟨hspares, .purge rfl⟩
  obtain ⟨hroutable, hnot⟩ := merge_finds_partitions rfl hrun
  exact ⟨hroutable (.inl rfl), hnot⟩

/-- With a retention of 7 days it drops it, and the merge of an admitted event fails. -/
theorem not_merge_finds_partitions :
    ¬∀ (c : Maintenance) (start s : Store .events id) (labels : List (Event .events)),
      start.phase = .down → Run (Maintained c) start labels s →
      (∀ batch, .flush (.copy batch) ∈ labels → ∀ r ∈ batch, c.Admits .events r) →
      s.Merging → s.Routable := by
  intro h
  have hrun := Run.snoc ((run_flushing (keeping 7)).mono fun _ _ _ hstep => hstep.2)
    (@Maintained.purge .events id (keeping 7) ensuredStore 10 rfl)
  have hadmits : ∀ batch, .flush (.copy batch) ∈ flushing ++ [.purge 10] →
      ∀ r ∈ batch, (keeping 7).Admits .events r := by
    intro batch hmem r hr
    have hbatch : batch = [lateEvent] := by simpa [flushing] using hmem
    rw [hbatch, List.mem_singleton] at hr
    exact hr ▸ admits_lateEvent
  have hroutable := h (keeping 7) freshStore _ _ rfl hrun hadmits (.inl rfl)
  exact absurd (hroutable lateEvent (List.mem_singleton_self _)) (by decide)

end Datacat.Db
