import Mathlib
import Datacat.Basics.Text

/-!
# Exported Timestamps

The exporter reads an instant as a number of microseconds that its queries compute: the seconds
since the epoch, as a `bigint`, times a million, plus the microseconds of the seconds field modulo
a million. The cast to `bigint` rounds, where the sum would need the whole seconds. So from half a
second on the column is a second too late (`select_exact_iff`).
-/

namespace Datacat.Export

/-! ## PostgreSQL -/

/-- A finite `timestamptz`: microseconds since the Unix epoch, within the range of the type. -/
structure Timestamptz where
  micros : Int
  lower : -210866803200000000 ≤ micros := by decide
  upper : micros < 9224318016000000000 := by decide

/-- `EXTRACT(EPOCH FROM t)`, an exact `numeric`. -/
def Timestamptz.epoch (t : Timestamptz) : ℚ := t.micros / 1000000

/-- `EXTRACT(MICROSECONDS FROM t)`: the seconds field with its fraction, where the zone of the
session is `offset` seconds ahead of UTC. -/
def Timestamptz.microseconds (offset : Int) (t : Timestamptz) : ℚ :=
  ((t.micros + offset * 1000000) % 60000000 : Int)

/-- The nearest integer, and of two the one away from zero. -/
def roundHalfAway (q : ℚ) : Int := if 0 ≤ q then ⌊q + 1 / 2⌋ else -⌊-q + 1 / 2⌋

/-- A `bigint`, or none where the query fails: `bigint out of range`. -/
def checkBigint (n : Int) : Option Int := if -2 ^ 63 ≤ n ∧ n < 2 ^ 63 then some n else none

/-- `numeric::bigint`. -/
def toBigint (q : ℚ) : Option Int := checkBigint (roundHalfAway q)

/-! ## The queries -/

/-- `EXTRACT(EPOCH FROM t)::bigint * 1_000_000 + (EXTRACT(MICROSECONDS FROM t)::bigint % 1_000_000)`,
in a session whose zone has an offset at each instant. -/
def microsColumn (zone : Timestamptz → Int) (t : Timestamptz) : Option Int := do
  let secs ← toBigint t.epoch
  let product ← checkBigint (secs * 1000000)
  let field ← toBigint (t.microseconds (zone t))
  checkBigint (product + field.tmod 1000000)

/-- A row of `events` in the database; the text of `properties` is the one that the cast gives. -/
structure EventTuple where
  eventId : String
  eventName : String
  tenantId : Option String
  actorId : String
  sessionId : String
  timestampClient : Timestamptz
  receivedAt : Timestamptz
  properties : String

structure EventRow where
  eventId : String
  eventName : String
  tenantId : Option String
  actorId : String
  sessionId : String
  timestampClientUs : Int
  receivedAtUs : Int
  properties : String

/-- The `SELECT` of `export_events`, on one row. -/
def selectEvent (zone : Timestamptz → Int) (e : EventTuple) : Option EventRow := do
  let timestampClientUs ← microsColumn zone e.timestampClient
  let receivedAtUs ← microsColumn zone e.receivedAt
  return {
    eventId := e.eventId
    eventName := e.eventName
    tenantId := e.tenantId
    actorId := e.actorId
    sessionId := e.sessionId
    timestampClientUs := timestampClientUs
    receivedAtUs := receivedAtUs
    properties := e.properties }

/-- A row of `logs` in the database. -/
structure LogTuple where
  logId : String
  logTime : Timestamptz
  observedTime : Option Timestamptz
  receivedAt : Timestamptz
  severityNumber : Option Int16
  severityText : Option String
  body : Option String
  serviceName : Option String
  scopeName : Option String
  traceId : Option String
  spanId : Option String
  tenantId : Option String
  actorId : Option String
  sessionId : Option String
  resourceAttributes : String
  logAttributes : String

structure LogRow where
  logId : String
  logTimeUs : Int
  observedTimeUs : Option Int
  receivedAtUs : Int
  severityNumber : Option Int16
  severityText : Option String
  body : Option String
  serviceName : Option String
  scopeName : Option String
  traceId : Option String
  spanId : Option String
  tenantId : Option String
  actorId : Option String
  sessionId : Option String
  resourceAttributes : String
  logAttributes : String

/-- `CASE WHEN t IS NOT NULL THEN .. END`. -/
def nullableColumn (zone : Timestamptz → Int) : Option Timestamptz → Option (Option Int)
  | none => some none
  | some t => (microsColumn zone t).map some

/-- The `SELECT` of `export_logs`, on one row. -/
def selectLog (zone : Timestamptz → Int) (l : LogTuple) : Option LogRow := do
  let logTimeUs ← microsColumn zone l.logTime
  let observedTimeUs ← nullableColumn zone l.observedTime
  let receivedAtUs ← microsColumn zone l.receivedAt
  return {
    logId := l.logId
    logTimeUs := logTimeUs
    observedTimeUs := observedTimeUs
    receivedAtUs := receivedAtUs
    severityNumber := l.severityNumber
    severityText := l.severityText
    body := l.body
    serviceName := l.serviceName
    scopeName := l.scopeName
    traceId := l.traceId
    spanId := l.spanId
    tenantId := l.tenantId
    actorId := l.actorId
    sessionId := l.sessionId
    resourceAttributes := l.resourceAttributes
    logAttributes := l.logAttributes }

/-! ## Exact rows -/

/-- The row with the microseconds as they are stored. -/
def EventTuple.exact (e : EventTuple) : EventRow where
  eventId := e.eventId
  eventName := e.eventName
  tenantId := e.tenantId
  actorId := e.actorId
  sessionId := e.sessionId
  timestampClientUs := e.timestampClient.micros
  receivedAtUs := e.receivedAt.micros
  properties := e.properties

def LogTuple.exact (l : LogTuple) : LogRow where
  logId := l.logId
  logTimeUs := l.logTime.micros
  observedTimeUs := l.observedTime.map Timestamptz.micros
  receivedAtUs := l.receivedAt.micros
  severityNumber := l.severityNumber
  severityText := l.severityText
  body := l.body
  serviceName := l.serviceName
  scopeName := l.scopeName
  traceId := l.traceId
  spanId := l.spanId
  tenantId := l.tenantId
  actorId := l.actorId
  sessionId := l.sessionId
  resourceAttributes := l.resourceAttributes
  logAttributes := l.logAttributes

/-- The instant is in the first half of its second (before 1970 the middle is in it), and its
microseconds fit in a `bigint`. -/
def Timestamptz.FirstHalf (t : Timestamptz) : Prop :=
  (t.micros % 1000000 < 500000 ∨ t.micros % 1000000 = 500000 ∧ t.micros < 0) ∧ t.micros < 2 ^ 63

/-! ## The column -/

/-- Rounding of a number of microseconds to seconds. -/
theorem roundHalfAway_micros (n : Int) :
    roundHalfAway (n / 1000000) =
      if n % 1000000 < 500000 ∨ n % 1000000 = 500000 ∧ n < 0 then n / 1000000
      else n / 1000000 + 1 := by
  have hfloor : ∀ k : Int, ⌊((k : ℚ) / 1000000 + 1 / 2 : ℚ)⌋ = (k + 500000) / 1000000 := by
    intro k
    have hcast : ((k : ℚ) / 1000000 + 1 / 2 : ℚ) = ((k + 500000 : Int) : ℚ) / (1000000 : ℕ) := by
      push_cast
      ring
    rw [hcast, Rat.floor_intCast_div_natCast]
    rfl
  have hsign : (0 : ℚ) ≤ (n : ℚ) / 1000000 ↔ 0 ≤ n := by
    rw [le_div_iff₀ (by norm_num), zero_mul]
    exact Int.cast_nonneg_iff
  unfold roundHalfAway
  by_cases hn : 0 ≤ n
  · rw [if_pos (hsign.mpr hn), hfloor]
    split_ifs <;> omega
  · rw [if_neg (mt hsign.mp hn),
      show -((n : ℚ) / 1000000) = ((-n : Int) : ℚ) / 1000000 by push_cast; ring, hfloor]
    split_ifs <;> omega

theorem roundHalfAway_intCast (n : Int) : roundHalfAway n = n := by
  have hfloor : ∀ k : Int, ⌊((k : ℚ) + 1 / 2 : ℚ)⌋ = k := by
    intro k
    rw [Int.floor_eq_iff]
    constructor <;> linarith
  unfold roundHalfAway
  split_ifs
  · exact hfloor n
  · rw [show -(n : ℚ) = ((-n : Int) : ℚ) by push_cast; rfl, hfloor, neg_neg]

theorem checkBigint_eq_some_iff {n m : Int} :
    checkBigint n = some m ↔ n = m ∧ -2 ^ 63 ≤ m ∧ m < 2 ^ 63 := by
  unfold checkBigint
  split_ifs with h
  · rw [Option.some.injEq]
    constructor
    · rintro rfl
      exact ⟨rfl, h⟩
    · exact And.left
  · constructor
    · exact nofun
    · rintro ⟨rfl, hrange⟩
      exact absurd hrange h

/-- The microseconds of the second, in any zone. -/
theorem toBigint_microseconds (offset : Int) (t : Timestamptz) :
    ∃ field, toBigint (t.microseconds offset) = some field ∧
      field.tmod 1000000 = t.micros % 1000000 := by
  have hlt := Int.emod_lt_of_pos (t.micros + offset * 1000000) (show (0 : Int) < 60000000 by decide)
  have hle := Int.emod_nonneg (t.micros + offset * 1000000) (show (60000000 : Int) ≠ 0 by decide)
  refine ⟨(t.micros + offset * 1000000) % 60000000, ?_, ?_⟩
  · rw [toBigint, Timestamptz.microseconds, roundHalfAway_intCast]
    apply checkBigint_eq_some_iff.mpr
    omega
  · rw [Int.tmod_eq_emod_of_nonneg hle]
    omega

/-- The whole seconds that the column is built on, in the range of the type. -/
theorem toBigint_epoch (t : Timestamptz) :
    toBigint t.epoch = some (roundHalfAway (t.micros / 1000000)) := by
  have hlower := t.lower
  have hupper := t.upper
  apply checkBigint_eq_some_iff.mpr
  refine ⟨rfl, ?_⟩
  rw [roundHalfAway_micros]
  split_ifs <;> omega

/-- The column is exact in the first half of a second. -/
theorem microsColumn_eq_iff (zone : Timestamptz → Int) (t : Timestamptz) :
    microsColumn zone t = some t.micros ↔ t.FirstHalf := by
  have hlower := t.lower
  obtain ⟨field, hfield, hmod⟩ := toBigint_microseconds (zone t) t
  have hcolumn : microsColumn zone t = some t.micros ↔
      ∃ product, checkBigint (roundHalfAway (t.micros / 1000000) * 1000000) = some product ∧
        checkBigint (product + t.micros % 1000000) = some t.micros := by
    rw [microsColumn, toBigint_epoch, hfield, ← hmod]
    show (checkBigint (roundHalfAway (t.micros / 1000000) * 1000000)).bind
      (fun product => checkBigint (product + field.tmod 1000000)) = some t.micros ↔ _
    exact Option.bind_eq_some_iff
  rw [hcolumn, roundHalfAway_micros]
  unfold Timestamptz.FirstHalf
  constructor
  · intro h
    obtain ⟨product, hproduct, hsum⟩ := h
    obtain ⟨rfl, -⟩ := checkBigint_eq_some_iff.mp hproduct
    obtain ⟨hsum, -, hlt⟩ := checkBigint_eq_some_iff.mp hsum
    refine ⟨?_, hlt⟩
    -- Rounded up, the sum would be a second more.
    by_contra hhalf
    rw [if_neg hhalf] at hsum
    omega
  · intro h
    obtain ⟨hhalf, hlt⟩ := h
    rw [if_pos hhalf]
    refine ⟨t.micros / 1000000 * 1000000, ?_, ?_⟩
    · apply checkBigint_eq_some_iff.mpr
      omega
    · apply checkBigint_eq_some_iff.mpr
      omega

/-! ## The rows -/

theorem selectEvent_exact_iff (zone : Timestamptz → Int) (e : EventTuple) :
    selectEvent zone e = some e.exact ↔ e.timestampClient.FirstHalf ∧ e.receivedAt.FirstHalf := by
  rw [← microsColumn_eq_iff zone, ← microsColumn_eq_iff zone]
  constructor
  · intro h
    obtain ⟨timestampClientUs, htimestamp, h⟩ := Option.bind_eq_some_iff.mp h
    obtain ⟨receivedAtUs, hreceived, h⟩ := Option.bind_eq_some_iff.mp h
    have hrow := Option.some.inj h
    have hfirst : timestampClientUs = e.timestampClient.micros :=
      congrArg EventRow.timestampClientUs hrow
    have hsecond : receivedAtUs = e.receivedAt.micros := congrArg EventRow.receivedAtUs hrow
    rw [htimestamp, hreceived, hfirst, hsecond]
    exact ⟨rfl, rfl⟩
  · intro h
    rw [selectEvent, h.1, h.2]
    rfl

theorem nullableColumn_eq_iff (zone : Timestamptz → Int) (t : Option Timestamptz) :
    nullableColumn zone t = some (t.map Timestamptz.micros) ↔ ∀ s ∈ t, s.FirstHalf := by
  cases t with
  | none => exact ⟨fun _ s hs => absurd hs (Option.not_mem_none s), fun _ => rfl⟩
  | some t =>
    rw [nullableColumn, Option.map_some, Option.map_eq_some_iff]
    constructor
    · intro h s hs
      obtain ⟨micros, hmicros, heq⟩ := h
      rw [← Option.mem_some.mp hs, ← microsColumn_eq_iff zone, hmicros]
      exact heq
    · intro h
      exact ⟨t.micros, (microsColumn_eq_iff zone t).mpr (h t rfl), rfl⟩

theorem selectLog_exact_iff (zone : Timestamptz → Int) (l : LogTuple) :
    selectLog zone l = some l.exact ↔
      l.logTime.FirstHalf ∧ (∀ t ∈ l.observedTime, t.FirstHalf) ∧ l.receivedAt.FirstHalf := by
  rw [← microsColumn_eq_iff zone, ← microsColumn_eq_iff zone, ← nullableColumn_eq_iff zone]
  constructor
  · intro h
    obtain ⟨logTimeUs, hlog, h⟩ := Option.bind_eq_some_iff.mp h
    obtain ⟨observedTimeUs, hobserved, h⟩ := Option.bind_eq_some_iff.mp h
    obtain ⟨receivedAtUs, hreceived, h⟩ := Option.bind_eq_some_iff.mp h
    have hrow := Option.some.inj h
    have hfirst : logTimeUs = l.logTime.micros := congrArg LogRow.logTimeUs hrow
    have hsecond : observedTimeUs = l.observedTime.map Timestamptz.micros :=
      congrArg LogRow.observedTimeUs hrow
    have hthird : receivedAtUs = l.receivedAt.micros := congrArg LogRow.receivedAtUs hrow
    rw [hlog, hobserved, hreceived, hfirst, hsecond, hthird]
    exact ⟨rfl, rfl, rfl⟩
  · intro h
    rw [selectLog, h.1, h.2.1, h.2.2]
    rfl

/-- **Exact timestamps.** A column is the instant's number of microseconds when the instant is in
the first half of its second, and only then; a row of either table is exported with the instants
that it has when this holds of each of them, and only then. -/
theorem select_exact_iff (zone : Timestamptz → Int) :
    (∀ t : Timestamptz, microsColumn zone t = some t.micros ↔ t.FirstHalf) ∧
    (∀ e : EventTuple, selectEvent zone e = some e.exact ↔
      e.timestampClient.FirstHalf ∧ e.receivedAt.FirstHalf) ∧
    ∀ l : LogTuple, selectLog zone l = some l.exact ↔
      l.logTime.FirstHalf ∧ (∀ t ∈ l.observedTime, t.FirstHalf) ∧ l.receivedAt.FirstHalf :=
  ⟨microsColumn_eq_iff zone, selectEvent_exact_iff zone, selectLog_exact_iff zone⟩

/-- An event of half a second past the epoch. -/
def halfPast : EventTuple where
  eventId := "00000000-0000-0000-0000-000000000000"
  eventName := "signup"
  tenantId := none
  actorId := "a"
  sessionId := "s"
  timestampClient := { micros := 500000 }
  receivedAt := { micros := 1000000 }
  properties := "{}"

/-- It is exported one second later. -/
theorem not_select_exact :
    ¬∀ (zone : Timestamptz → Int) (e : EventTuple), selectEvent zone e = some e.exact := by
  intro h
  have hvalue : (selectEvent (fun _ => 0) halfPast).map EventRow.timestampClientUs
      = some 1500000 := by decide +kernel
  rw [h (fun _ => 0) halfPast] at hvalue
  exact absurd hvalue (by decide)

end Datacat.Export
