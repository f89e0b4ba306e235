import Datacat.Basics.Selection
import Datacat.Db.Staging
import Datacat.Query.Logs

/-!
# The Frequent Journeys

The journey of a session is the list of the names of its events in the order of their instants.
The query groups the events by session, the sessions by journey, and answers the most frequent
ones.

The collation of the database is a parameter: a text is compared by its sort key, and two texts
of one key are the same text.

## Main results

- `frequentJourneys_unique`: the answer depends on the set of the events alone.
- `journeys_of_resends`: so it does not tell how often events were sent, in which batches, or
  where the process stopped.
-/

namespace Datacat.Query

open Basics Db

/-! ## The query -/

/-- The columns of `events` that the query reads. -/
structure EventColumns where
  timestampClient : DateTime
  eventId : Uuid
  eventName : String
  actorId : String
  sessionId : String
  tenantId : Option String
deriving DecidableEq

namespace EventColumns

/-- The columns of a stored event, whose instant the database rounds. -/
def ofStored (stamp : DateTime → DateTime) (e : Events.StoredEvent) : EventColumns where
  timestampClient := stamp e.timestampClient
  eventId := e.eventId
  eventName := e.eventName
  actorId := e.actorId
  sessionId := e.sessionId
  tenantId := e.tenantId

def key (c : EventColumns) : DateTime × Uuid := (c.timestampClient, c.eventId)

/-- `timestamp_client, event_id`, as they are ordered. -/
def rank (c : EventColumns) : DateTime ×ₗ List Nat :=
  toLex (c.timestampClient, c.eventId.bytes.toList.map UInt8.toNat)

theorem key_eq_of_rank_eq {c c' : EventColumns} (h : c.rank = c'.rank) : c.key = c'.key := by
  obtain ⟨htime, hid⟩ := Prod.mk.inj (toLex_inj.mp h)
  have hbytes : c.eventId.bytes = c'.eventId.bytes :=
    Vector.toList_inj.mp (List.map_injective_iff.mpr (fun _ _ => UInt8.toNat.inj) hid)
  have huuid : c.eventId = c'.eventId := by
    cases hc : c.eventId
    cases hc' : c'.eventId
    rw [hc, hc'] at hbytes
    exact congrArg Uuid.mk hbytes
  exact Prod.ext htime huuid

end EventColumns

structure JourneysParams where
  actor : Option String := none
  tenant : Option String := none
  limit : Option Int64 := none

structure Journey where
  path : List String
  occurrences : Nat

/-- The `WHERE` of the query. -/
def JourneysParams.selects (p : JourneysParams) (c : EventColumns) : Bool :=
  columnEquals (some c.actorId) p.actor && columnEquals c.tenantId p.tenant

/-- `array_agg(event_name ORDER BY timestamp_client, event_id)`. -/
def PathOf (rows : List EventColumns) (path : List String) : Prop :=
  ∃ ordered, Ordered (fun a b : EventColumns => a.rank ≤ b.rank) rows ordered ∧
    path = ordered.map EventColumns.eventName

section Search

variable {σ : Type} [LinearOrder σ] (collate : String → σ)

/-- `ORDER BY occurrences DESC, path`. -/
def MoreFrequent (a b : List String × Nat) : Prop :=
  b.2 < a.2 ∨ a.2 = b.2 ∧ a.1.map collate ≤ b.1.map collate

/-- The answers of `frequent_journeys`. -/
def FrequentJourneys (table : List EventColumns) (p : JourneysParams) (answer : List Journey) :
    Prop :=
  ∃ seq counted ordered,
    Aggregated EventColumns.sessionId PathOf (table.filter p.selects) seq ∧
      Aggregated id (fun group n => n = group.length) (seq.map Prod.snd) counted ∧
      Ordered (MoreFrequent collate) counted ordered ∧
      answer = (ordered.take (clampLimit p.limit 20 200)).map fun x => ⟨x.1, x.2⟩

/-! ## One answer -/

/-- The journey of a session does not depend on how its events are stored. -/
theorem pathOf_unique {rows rows' : List EventColumns} {path path' : List String}
    (hperm : rows.Perm rows') (hkeys : (rows.map EventColumns.key).Nodup) (h : PathOf rows path)
    (h' : PathOf rows' path') : path = path' := by
  obtain ⟨ordered, hordered, rfl⟩ := h
  obtain ⟨ordered', hordered', rfl⟩ := h'
  rw [hordered.unique hordered' hperm fun a ha b hb hab hba =>
    List.inj_on_of_nodup_map hkeys ha hb (EventColumns.key_eq_of_rank_eq (le_antisymm hab hba))]

variable {collate}

theorem moreFrequent_antisymm (hcollate : Function.Injective collate) {a b : List String × Nat}
    (hab : MoreFrequent collate a b) (hba : MoreFrequent collate b a) : a = b := by
  rcases hab with hlt | ⟨heq, hle⟩
  · rcases hba with hlt' | ⟨heq', -⟩ <;> omega
  · rcases hba with hlt' | ⟨-, hle'⟩
    · omega
    · have hpath : a.1.map collate = b.1.map collate := le_antisymm hle hle'
      exact Prod.ext (List.map_injective_iff.mpr hcollate hpath) heq

/-- The answer depends on the set of the events alone. -/
theorem frequentJourneys_unique (hcollate : Function.Injective collate)
    {table table' : List EventColumns} {p : JourneysParams} {answer answer' : List Journey}
    (hperm : table.Perm table') (hkeys : (table.map EventColumns.key).Nodup)
    (h : FrequentJourneys collate table p answer)
    (h' : FrequentJourneys collate table' p answer') : answer = answer' := by
  obtain ⟨seq, counted, ordered, hseq, hcounted, hordered, rfl⟩ := h
  obtain ⟨seq', counted', ordered', hseq', hcounted', hordered', rfl⟩ := h'
  -- The same sessions with the same journeys, then the same journeys with the same numbers.
  have hsessions : seq.Perm seq' := by
    apply hseq.perm hseq' (hperm.filter _)
    intro group group' path path' hgroup hsub hpath hpath'
    have hgroupkeys : (group.map EventColumns.key).Nodup :=
      hkeys.sublist ((hsub.trans List.filter_sublist).map _)
    exact pathOf_unique hgroup hgroupkeys hpath hpath'
  have hjourneys : counted.Perm counted' := by
    apply hcounted.perm hcounted' (hsessions.map _)
    intro group group' n n' hgroup _ hn hn'
    rw [hn, hn', hgroup.length_eq]
  have hsame : ordered = ordered' :=
    hordered.unique hordered' hjourneys fun a _ b _ hab hba =>
      moreFrequent_antisymm hcollate hab hba
  rw [hsame]

/-- Where the limit cuts nothing off, every session is counted in one journey. -/
theorem sum_occurrences {table : List EventColumns} {p : JourneysParams} {answer : List Journey}
    (h : FrequentJourneys collate table p answer)
    (hlimit : answer.length < clampLimit p.limit 20 200) :
    (answer.map Journey.occurrences).sum =
      ((table.filter p.selects).map EventColumns.sessionId).dedup.length := by
  obtain ⟨seq, counted, ordered, hseq, hcounted, hordered, rfl⟩ := h
  have hall : ordered.take (clampLimit p.limit 20 200) = ordered := by
    apply List.take_of_length_le
    by_contra hlong
    rw [List.length_map, List.length_take, min_eq_left (Nat.le_of_not_le hlong)] at hlimit
    exact lt_irrefl _ hlimit
  have hsessions : (seq.map Prod.fst).Perm
      ((table.filter p.selects).map EventColumns.sessionId).dedup :=
    (List.perm_ext_iff_of_nodup hseq.nodup (List.nodup_dedup _)).mpr fun session => by
      rw [hseq.keys, List.mem_dedup]
  calc
    (((ordered.take (clampLimit p.limit 20 200)).map fun x => (⟨x.1, x.2⟩ : Journey)).map
          Journey.occurrences).sum
        = (ordered.map Prod.snd).sum := by
          rw [hall, List.map_map]
          rfl
    _ = (counted.map Prod.snd).sum := (hordered.perm.map _).sum_eq
    _ = (seq.map Prod.snd).length := hcounted.sum_length
    _ = (seq.map Prod.fst).length := by rw [List.length_map, List.length_map]
    _ = ((table.filter p.selects).map EventColumns.sessionId).dedup.length :=
          hsessions.length_eq

/-! ## Over runs -/

variable {stamp : DateTime → DateTime} {start start' s s' : Store .events stamp}
  {labels labels' : List (Action .events)}

/-- A row of the table, as the query reads it. -/
def readRow (stamp : DateTime → DateTime) (r : Domain.events.Row) : EventColumns :=
  EventColumns.ofStored stamp r

/-- The table as the query reads it. -/
def columnsOf (s : Store .events stamp) : List EventColumns := s.table.rows.map (readRow stamp)

/-- The events that were copied in a run, as the query reads them. -/
def copiedColumns (stamp : DateTime → DateTime) (labels : List (Action .events)) :
    List EventColumns :=
  (labels.flatMap Action.copied).map (readRow stamp)

/-- A database that holds nothing yet. -/
structure Fresh (s : Store .events stamp) : Prop where
  down : s.phase = .down
  noRow : s.table.rows = []
  noStaging : s.staging = []

theorem keys_columnsOf (s : Store .events stamp) :
    (columnsOf s).map EventColumns.key = s.table.keys :=
  List.map_map

theorem mem_copied_of_columnsOf (h : Run Step start labels s) (hstart : Fresh start)
    {c : EventColumns} (hc : c ∈ columnsOf s) : c ∈ copiedColumns stamp labels := by
  obtain ⟨r, hr, rfl⟩ := List.mem_map.mp hc
  apply List.mem_map_of_mem
  rcases mem_rows_of_run h (.inl hr) with (hnone | hnone) | hcopied
  · rw [hstart.noRow] at hnone
    cases hnone
  · rw [hstart.noStaging] at hnone
    cases hnone
  · exact hcopied

/-- Once the staging is merged, every key that was copied is in the table. -/
theorem key_mem_of_copied (h : Run Step start labels s) (hstart : Fresh start)
    (hidle : s.phase = .idle) {c : EventColumns} (hc : c ∈ copiedColumns stamp labels) :
    c.key ∈ (columnsOf s).map EventColumns.key := by
  obtain ⟨r, hr, rfl⟩ := List.mem_map.mp hc
  have hhas : s.Has (Domain.events.key stamp r) :=
    (has_iff_of_run h hstart.down _).mpr (.inr (List.mem_map_of_mem hr))
  rw [keys_columnsOf]
  rcases hhas with hkey | hstaged
  · exact hkey
  · rw [(inv_of_run h hstart.down).empty hidle] at hstaged
    cases hstaged

/-- Then the table holds the events that were copied, where the key tells them apart. -/
theorem mem_columnsOf_iff (h : Run Step start labels s) (hstart : Fresh start)
    (hidle : s.phase = .idle)
    (hidentity : ∀ c ∈ copiedColumns stamp labels, ∀ c' ∈ copiedColumns stamp labels,
      c.key = c'.key → c = c') (c : EventColumns) :
    c ∈ columnsOf s ↔ c ∈ copiedColumns stamp labels := by
  refine ⟨mem_copied_of_columnsOf h hstart, fun hc => ?_⟩
  obtain ⟨found, hfound, heq⟩ := List.mem_map.mp (key_mem_of_copied h hstart hidle hc)
  rwa [hidentity c hc found (mem_copied_of_columnsOf h hstart hfound) heq.symm]

/-- **Journeys do not see resends.** Two databases that were sent the same events, each any number
of times and in any batches, wherever their processes stopped, answer the same journeys; below the
limit, every session that was sent is counted in one of them. -/
theorem journeys_of_resends (hcollate : Function.Injective collate)
    (h : Run Step start labels s) (h' : Run Step start' labels' s') (hstart : Fresh start)
    (hstart' : Fresh start') (hidle : s.phase = .idle) (hidle' : s'.phase = .idle)
    (hsame : ∀ c, c ∈ copiedColumns stamp labels ↔ c ∈ copiedColumns stamp labels')
    (hidentity : ∀ c ∈ copiedColumns stamp labels, ∀ c' ∈ copiedColumns stamp labels,
      c.key = c'.key → c = c') {p : JourneysParams} {answer answer' : List Journey}
    (hanswer : FrequentJourneys collate (columnsOf s) p answer)
    (hanswer' : FrequentJourneys collate (columnsOf s') p answer') :
    answer = answer' ∧
      (answer.length < clampLimit p.limit 20 200 →
        (answer.map Journey.occurrences).sum =
          (((copiedColumns stamp labels).filter p.selects).map
            EventColumns.sessionId).dedup.length) := by
  have hidentity' : ∀ c ∈ copiedColumns stamp labels', ∀ c' ∈ copiedColumns stamp labels',
      c.key = c'.key → c = c' := fun c hc c' hc' =>
    hidentity c ((hsame c).mpr hc) c' ((hsame c').mpr hc')
  have hmem := mem_columnsOf_iff h hstart hidle hidentity
  have hmem' := mem_columnsOf_iff h' hstart' hidle' hidentity'
  have hkeys : ((columnsOf s).map EventColumns.key).Nodup := by
    rw [keys_columnsOf]
    exact s.table.nodup
  have hkeys' : ((columnsOf s').map EventColumns.key).Nodup := by
    rw [keys_columnsOf]
    exact s'.table.nodup
  -- The two tables hold the same rows, each once.
  have hperm : (columnsOf s).Perm (columnsOf s') :=
    (List.perm_ext_iff_of_nodup hkeys.of_map hkeys'.of_map).mpr fun c => by
      rw [hmem, hmem', hsame]
  refine ⟨frequentJourneys_unique hcollate hperm hkeys hanswer hanswer', fun hlimit => ?_⟩
  have hsessions : (((columnsOf s).filter p.selects).map EventColumns.sessionId).dedup.Perm
      (((copiedColumns stamp labels).filter p.selects).map EventColumns.sessionId).dedup := by
    refine (List.perm_ext_iff_of_nodup (List.nodup_dedup _) (List.nodup_dedup _)).mpr
      fun session => ?_
    simp only [List.mem_dedup, List.mem_map, List.mem_filter, hmem]
  rw [sum_occurrences hanswer hlimit, hsessions.length_eq]

end Search

/-- The event as the query reads it. -/
def signup : EventColumns := readRow id (receivedAtSecond 1)

/-- The event is sent once, and nothing stops. -/
def sentOnce : List (Action .events) :=
  [.start, .ensure, .merge [] 0, .copy [receivedAtSecond 3], .ensure,
    .merge [receivedAtSecond 3] 1]

/-- Before the merge. -/
def ensuredOnce : Store .events id :=
  { freshStore with partitions := [0], staging := [receivedAtSecond 3], phase := .ensured }

def mergedOnce : Store .events id :=
  { ensuredOnce with
    staging := []
    table := (ensuredOnce.table.insertAll
      (distinctOn (Domain.events.key id) [receivedAtSecond 3])).1
    phase := .idle }

theorem run_sentOnce : Run Step freshStore sentOnce mergedOnce := by
  have hfirst := @run_drain _ _ freshStore [] 0 rfl .rfl .nil rfl
  apply Run.append_iff.mpr ⟨_, hfirst, _⟩
  apply Run.cons_iff.mpr ⟨_, .copy rfl (List.cons_ne_nil _ _), _⟩
  apply Run.cons_iff.mpr ⟨_, .ensure rfl, _⟩
  have hroutable : ensuredOnce.Routable := fun r hr => by
    rw [List.mem_singleton.mp hr]
    exact List.mem_singleton.mpr rfl
  exact Run.single (.merge (.inl rfl) hroutable .rfl (List.pairwise_singleton _ _))

theorem fresh_freshStore : Fresh freshStore where
  down := rfl
  noRow := rfl
  noStaging := rfl

theorem frequentJourneys_signup :
    FrequentJourneys (id : String → String) [signup] {} [⟨["signup"], 1⟩] := by
  refine ⟨[("s", ["signup"])], [(["signup"], 1)], [(["signup"], 1)], ⟨?_, ?_, ?_⟩,
    ⟨?_, ?_, ?_⟩, ⟨.rfl, List.pairwise_singleton _ _⟩, rfl⟩
  · exact List.nodup_singleton _
  · exact fun _ => Iff.rfl
  · intro x hx
    rw [List.mem_singleton.mp hx]
    exact ⟨[signup], ⟨.rfl, List.pairwise_singleton _ _⟩, rfl⟩
  · exact List.nodup_singleton _
  · exact fun _ => Iff.rfl
  · intro x hx
    rw [List.mem_singleton.mp hx]
    rfl

theorem journeys_of_resends_twice :
    let answer : List Journey := [⟨["signup"], 1⟩]
    FrequentJourneys (id : String → String)
        (columnsOf (stopped.drained [receivedAtSecond 1, receivedAtSecond 2])) {} answer ∧
      (answer.map Journey.occurrences).sum =
        (((copiedColumns id resends).filter ({} : JourneysParams).selects).map
          EventColumns.sessionId).dedup.length := by
  have hcopied : copiedColumns id resends = [signup, signup] := rfl
  have honce : copiedColumns id sentOnce = [signup] := rfl
  refine ⟨frequentJourneys_signup, (journeys_of_resends (fun _ _ heq => heq) run_resends
    run_sentOnce fresh_freshStore fresh_freshStore rfl rfl ?_ ?_ frequentJourneys_signup
    frequentJourneys_signup).2 (Nat.le_of_ble_eq_true rfl)⟩
  · intro c
    rw [hcopied, honce]
    simp
  · intro c hc c' hc' _
    rw [hcopied] at hc hc'
    simp only [List.mem_cons, List.not_mem_nil, or_false, or_self] at hc hc'
    rw [hc, hc']

end Datacat.Query
